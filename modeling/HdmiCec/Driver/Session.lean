import HdmiCec.Driver.Device

/-!
# Sessions of the hardware layer

A successful `HdmiCecOpen` begins a session with the handle it returns, and the next `HdmiCecClose`
of that handle ends it. Every other call has to be made in a session and with its handle. The driver
keeps to this in all its operations but two: `getLogicalAddress` and `getPhysicalAddress` do not
check the status.
-/

namespace HdmiCec

open Lib

/-! ### Sessions -/

namespace HalCall

def handle : HalCall → ℤ
  | hdmiCecOpen handle _ | hdmiCecSetRxCallback handle | hdmiCecSetTxCallback handle
  | hdmiCecClose handle | hdmiCecTx handle _ | hdmiCecTxAsync handle _
  | hdmiCecGetLogicalAddress handle | hdmiCecGetPhysicalAddress handle
  | hdmiCecRemoveLogicalAddress handle _ | hdmiCecAddLogicalAddress handle _ _ => handle

/-- The call is `HdmiCecOpen`. -/
def isOpen : HalCall → Bool
  | hdmiCecOpen _ _ => true
  | _ => false

/-- The handle of the session after the call, when it was `session` before. -/
def after (session : Option ℤ) : HalCall → Option ℤ
  | hdmiCecOpen handle err => if err = DriverImpl.ioSuccess then some handle else session
  | hdmiCecClose handle => if session = some handle then none else session
  | _ => session

/-- The call neither begins nor ends a session. -/
def plain : HalCall → Bool
  | hdmiCecOpen _ _ | hdmiCecClose _ => false
  | _ => true

end HalCall

/-- The handle of the session after the calls. -/
def sessionAfter (session : Option ℤ) (calls : List HalCall) : Option ℤ :=
  calls.foldl HalCall.after session

/-- Every call but `HdmiCecOpen` is made with the handle of the session at that time. -/
def Disciplined (session : Option ℤ) : List HalCall → Prop
  | [] => True
  | call :: calls =>
    (call.isOpen = false → session = some call.handle) ∧ Disciplined (call.after session) calls

lemma disciplined_append {session : Option ℤ} {calls calls' : List HalCall} :
    Disciplined session (calls ++ calls') ↔
      Disciplined session calls ∧ Disciplined (sessionAfter session calls) calls' := by
  induction calls generalizing session with
  | nil => simp [Disciplined, sessionAfter]
  | cons call calls ih =>
    rw [List.cons_append, Disciplined, Disciplined, ih, and_assoc]
    rfl

lemma sessionAfter_append (session : Option ℤ) (calls calls' : List HalCall) :
    sessionAfter session (calls ++ calls') = sessionAfter (sessionAfter session calls) calls' :=
  List.foldl_append

lemma HalCall.after_of_plain {call : HalCall} (h : call.plain = true) (session : Option ℤ) :
    call.after session = session := by
  cases call <;> first | rfl | cases h

/-- Calls that neither begin nor end a session leave it as it is. -/
lemma sessionAfter_of_plain {calls : List HalCall} (h : ∀ call ∈ calls, call.plain = true)
    (session : Option ℤ) : sessionAfter session calls = session := by
  induction calls with
  | nil => rfl
  | cons call calls ih =>
    obtain ⟨hplain, hrest⟩ := List.forall_mem_cons.mp h
    rw [sessionAfter, List.foldl_cons, HalCall.after_of_plain hplain]
    exact ih hrest

lemma disciplined_of_plain {handle : ℤ} {calls : List HalCall}
    (h : ∀ call ∈ calls, call.handle = handle ∧ call.plain = true) :
    Disciplined (some handle) calls := by
  induction calls with
  | nil => trivial
  | cons call calls ih =>
    obtain ⟨⟨hhandle, hplain⟩, hrest⟩ := List.forall_mem_cons.mp h
    refine ⟨fun _ => by rw [hhandle], ?_⟩
    rw [HalCall.after_of_plain hplain]
    exact ih hrest

/-! ### The calls of an operation -/

/-- An event that is not a call of the hardware layer, or one that satisfies `Q`. -/
def DriverEvent.Only (Q : HalCall → Prop) : DriverEvent → Prop
  | lib _ => True
  | hal call => Q call

variable {α : Type} {Q : HalCall → Prop}

lemma mem_halCalls {call : HalCall} {log : List DriverEvent} :
    call ∈ halCalls log ↔ .hal call ∈ log := by
  simp only [halCalls, List.mem_filterMap]
  constructor
  · rintro ⟨e, he, hcall⟩
    cases e with
    | lib _ => cases hcall
    | hal call' =>
      cases hcall
      exact he
  · intro h
    exact ⟨_, h, rfl⟩

lemma forall_mem_halCalls {m : Logged Exn DriverEvent α} (h : m.All (DriverEvent.Only Q)) :
    ∀ call ∈ halCalls m.log, Q call :=
  fun call hcall => h (.hal call) (mem_halCalls.mp hcall)

lemma halCalls_append (log log' : List DriverEvent) :
    halCalls (log ++ log') = halCalls log ++ halCalls log' := List.filterMap_append

namespace Device

@[simp] lemma all_lib (m : Ccec α) : (lib m).All (DriverEvent.Only Q) := by
  simp [lib, Logged.All, DriverEvent.Only]

@[simp] lemma all_hal (call : HalCall) : (hal call).All (DriverEvent.Only Q) ↔ Q call := by
  simp [hal, DriverEvent.Only]

@[simp] lemma halCalls_lib (m : Ccec α) : halCalls (lib m).log = [] := by
  simp only [halCalls, lib, Logged.log_mapLog, List.filterMap_map, List.filterMap_eq_nil_iff]
  intro e _
  rfl

variable {d : Device}

lemma checkOpened_of_opened (h : d.status = .opened) : d.checkOpened = pure () := by
  simp only [checkOpened, h, ne_eq, not_true_eq_false, if_false]
  rfl

/-- The run raises and does not call the hardware layer. -/
def Refused (m : Logged Exn DriverEvent α) : Prop :=
  (∃ e, m.result = .error e) ∧ halCalls m.log = []

lemma Refused.bind {β : Type} {m : Logged Exn DriverEvent α} (h : Refused m)
    (next : α → Logged Exn DriverEvent β) : Refused (m >>= next) := by
  obtain ⟨⟨e, he⟩, hcalls⟩ := h
  exact ⟨⟨e, Logged.result_bind_of_error he⟩, by rwa [Logged.log_bind_of_error he]⟩

lemma refused_checkOpened (h : d.status ≠ .opened) : Refused d.checkOpened := by
  refine ⟨⟨.invalidState, ?_⟩, halCalls_lib _⟩
  simp only [checkOpened, if_pos h]
  rfl

/-- A part that does not call the hardware layer changes nothing when the rest is refused. -/
lemma Refused.after_lib {β : Type} {m : Ccec α} {next : α → Logged Exn DriverEvent β}
    (h : ∀ a, Refused (next a)) : Refused (lib m >>= next) := by
  cases hm : (lib m).result with
  | ok a =>
    obtain ⟨herror, hcalls⟩ := h a
    refine ⟨by rwa [Logged.result_bind_of_ok hm], ?_⟩
    rw [Logged.log_bind_of_ok hm, halCalls_append, halCalls_lib, hcalls, List.append_nil]
  | error e =>
    exact Refused.bind ⟨⟨e, hm⟩, halCalls_lib m⟩ next

lemma mapLog_lib (handle : ℤ) (m : Ccec α) :
    (DriverImpl.lib m).mapLog (.ofWrite handle) = lib m := by
  simp only [DriverImpl.lib, lib, Logged.mapLog, List.map_map]
  rfl

/-- `write` comes to its check of the status when it has printed the frame, and calls `HdmiCecTx`
after it. -/
lemma write_run_eq (d : Device) (frame : CECFrame) (err sendResult : ℤ) :
    ∃ rest : Unit → Logged Exn DriverEvent Unit,
      (d.write frame err sendResult).run
        = lib (DriverImpl.printFrameDetails frame) >>= fun _ => d.checkOpened >>= rest := by
  simp only [write, DriverImpl.write, Logged.mapLog_bind, mapLog_lib]
  exact ⟨_, rfl⟩

lemma all_write (d : Device) (frame : CECFrame) (err sendResult : ℤ)
    (hQ : Q (.hdmiCecTx d.nativeHandle frame.bytes)) :
    (d.write frame err sendResult).run.All (DriverEvent.Only Q) := by
  have hemit : ((Logged.emit (.hdmiCecTx frame.bytes) : Logged Exn _ Unit).mapLog
      (DriverEvent.ofWrite d.nativeHandle)).All (DriverEvent.Only Q) := by
    simpa [Logged.All, DriverEvent.ofWrite, DriverEvent.Only] using hQ
  simp only [write, DriverImpl.write, Logged.mapLog_bind, mapLog_lib, Logged.all_bind, all_lib,
    hemit, implies_true, and_self]

end Device

/-- The operation is `open` or `close`. -/
def DeviceOp.lifecycle : DeviceOp → Bool
  | openDriver _ _ | closeDriver _ => true
  | _ => false

/-- The operation is one of the two that do not check the status. -/
def DeviceOp.unchecked : DeviceOp → Bool
  | getLogicalAddress _ _ | getPhysicalAddress _ => true
  | _ => false

namespace Device

variable {d : Device} {op : DeviceOp}

lemma perform_handle (h : op.lifecycle = false) :
    (d.perform op).device.status = d.status ∧
      (d.perform op).device.nativeHandle = d.nativeHandle := by
  cases op with
  | openDriver handle err => cases h
  | closeDriver err => cases h
  | addLogicalAddress source retErr =>
    simp only [perform, Outcome.void, addLogicalAddress]
    split <;> exact ⟨rfl, rfl⟩
  | removeLogicalAddress source =>
    simp only [perform, removeLogicalAddress]
    split <;> exact ⟨rfl, rfl⟩
  | _ => exact ⟨rfl, rfl⟩

/-- The calls of an operation other than `open` and `close` have the driver's handle. -/
lemma perform_plain (h : op.lifecycle = false) :
    ∀ call ∈ halCalls (d.perform op).run.log,
      call.handle = d.nativeHandle ∧ call.plain = true := by
  apply forall_mem_halCalls
  cases op with
  | openDriver handle err => cases h
  | closeDriver err => cases h
  | write frame err sendResult => exact all_write d frame err sendResult ⟨rfl, rfl⟩
  | writeAsync frame err =>
    simp only [perform, writeAsync, checkOpened, Logged.all_bind, all_lib, all_hal, HalCall.handle,
      HalCall.plain, implies_true, and_self]
  | poll fromAddr toAddr err sendResult =>
    simp only [perform, poll, Logged.all_bind, all_lib, true_and]
    intro _ _ _ _ _ _ _ _ _ _ frame _
    exact all_write d frame err sendResult ⟨rfl, rfl⟩
  | addLogicalAddress source retErr =>
    simp only [perform, Outcome.void, addLogicalAddress, checkOpened, Logged.all_bind, all_lib,
      all_hal, HalCall.handle, HalCall.plain, Logged.all_pure, implies_true, and_self]
  | removeLogicalAddress source =>
    simp only [perform, removeLogicalAddress, checkOpened, Logged.all_bind, all_lib, all_hal,
      HalCall.handle, HalCall.plain, implies_true, and_self]
  | getLogicalAddress devType logicalAddress =>
    simp only [perform, Outcome.void, getLogicalAddress, Logged.all_bind, all_lib, all_hal,
      HalCall.handle, HalCall.plain, Logged.all_pure, implies_true, and_self]
  | getPhysicalAddress physicalAddress =>
    simp only [perform, Outcome.void, getPhysicalAddress, Logged.all_bind, all_lib, all_hal,
      HalCall.handle, HalCall.plain, Logged.all_pure, implies_true, and_self]

/-- Outside a session the checked operations raise and do not call the hardware layer. -/
lemma perform_of_not_opened (hop : op.lifecycle = false) (hchecked : op.unchecked = false)
    (h : d.status ≠ .opened) :
    Refused (d.perform op).run := by
  have hcheck := refused_checkOpened h
  have hwrite : ∀ frame err sendResult, Refused (d.write frame err sendResult).run := by
    intro frame err sendResult
    obtain ⟨rest, hrun⟩ := write_run_eq d frame err sendResult
    rw [hrun]
    exact .after_lib fun _ => hcheck.bind rest
  cases op with
  | openDriver handle err => cases hop
  | closeDriver err => cases hop
  | write frame err sendResult => exact hwrite frame err sendResult
  | writeAsync frame err => exact .after_lib fun _ => hcheck.bind _
  | poll fromAddr toAddr err sendResult =>
    exact .after_lib fun _ => .after_lib fun _ => .after_lib fun _ => .after_lib fun _ =>
      .after_lib fun _ => .after_lib fun frame => hwrite frame err sendResult
  | addLogicalAddress source retErr => exact (hcheck.bind _).bind _
  | removeLogicalAddress source => exact hcheck.bind _
  | getLogicalAddress devType logicalAddress => cases hchecked
  | getPhysicalAddress physicalAddress => cases hchecked

/-- `open` calls the hardware layer when the driver is closed, and sets the callbacks when that
succeeds. -/
lemma openDriver_cases (d : Device) (handle err : ℤ) :
    d.status ≠ .closed ∧ (d.openDriver handle err).device = d ∧
      halCalls (d.openDriver handle err).run.log = [] ∨
    d.status = .closed ∧ err ≠ DriverImpl.ioSuccess ∧
      (d.openDriver handle err).device = { d with nativeHandle := handle } ∧
      halCalls (d.openDriver handle err).run.log = [.hdmiCecOpen handle err] ∨
    d.status = .closed ∧ err = DriverImpl.ioSuccess ∧
      (d.openDriver handle err).device = { d with nativeHandle := handle, status := .opened } ∧
      halCalls (d.openDriver handle err).run.log = [.hdmiCecOpen handle err,
        .hdmiCecSetRxCallback handle, .hdmiCecSetTxCallback handle] := by
  unfold openDriver
  split
  · rename_i hclosed
    exact .inl ⟨hclosed, rfl, rfl⟩
  · rename_i hclosed
    split
    · rename_i herr
      exact .inr (.inl ⟨not_not.mp hclosed, herr, rfl, rfl⟩)
    · rename_i herr
      exact .inr (.inr ⟨not_not.mp hclosed, not_not.mp herr, rfl, rfl⟩)

/-- `close` calls the hardware layer when the driver is open, and the driver is closed then. -/
lemma closeDriver_cases (d : Device) (err : ℤ) :
    d.status ≠ .opened ∧ (d.closeDriver err).device = d ∧
      halCalls (d.closeDriver err).run.log = [] ∨
    d.status = .opened ∧
      (d.closeDriver err).device = { d with rQueue := offerNull d.rQueue, status := .closed } ∧
      halCalls (d.closeDriver err).run.log = [.hdmiCecClose d.nativeHandle] := by
  unfold closeDriver
  split
  · rename_i hopened
    exact .inl ⟨hopened, rfl, rfl⟩
  · rename_i hopened
    refine .inr ⟨not_not.mp hopened, rfl, ?_⟩
    dsimp only
    split <;> split <;> rfl

/-- The two operations that do not check the status return, whatever it is, and call the hardware
layer. -/
lemma perform_unchecked (h : op.unchecked = true) :
    (d.perform op).run.result = .ok () ∧ halCalls (d.perform op).run.log ≠ [] := by
  cases op with
  | getLogicalAddress devType logicalAddress => exact ⟨rfl, List.cons_ne_nil _ _⟩
  | getPhysicalAddress physicalAddress => exact ⟨rfl, List.cons_ne_nil _ _⟩
  | _ => cases h

end Device

/-! ### The driver keeps to its session -/

namespace Traffic

/-- The handle of the session that is open. -/
def session (t : Traffic) : Option ℤ := sessionAfter none t.calls

/-- What is asked of an operation: its calls are made in the session and with its handle, and
outside a session it raises and makes none, unless it is `open` or `close`. -/
def Respects (t : Traffic) (op : DeviceOp) : Prop :=
  Disciplined t.session (halCalls (t.device.perform op).run.log) ∧
    (op.lifecycle = false → t.session = none → Device.Refused (t.device.perform op).run)

/-- The operations without a check of the status are called on an open driver only. -/
def QueriesOpened (t : Traffic) (op : DeviceOp) : Prop :=
  op.unchecked = true → t.device.status = .opened

/-- The driver is open exactly in a session, with its handle. -/
structure InStep (t : Traffic) : Prop where
  session_eq : t.session = if t.device.status = .opened then some t.device.nativeHandle else none
  not_closing : t.device.status ≠ .closing

variable {t : Traffic} {op : DeviceOp}

lemma session_perform (t : Traffic) (op : DeviceOp) :
    (t.perform op).session = sessionAfter t.session (halCalls (t.device.perform op).run.log) :=
  sessionAfter_append none t.calls _

lemma InStep.session_of_opened (h : t.InStep) (hopened : t.device.status = .opened) :
    t.session = some t.device.nativeHandle := by
  rw [h.session_eq, if_pos hopened]

lemma InStep.session_of_not_opened (h : t.InStep) (hopened : t.device.status ≠ .opened) :
    t.session = none := by
  rw [h.session_eq, if_neg hopened]

lemma inStep_new : Traffic.new.InStep :=
  ⟨rfl, by simp [Traffic.new, Device.new]⟩

lemma InStep.of_perform {d : Device} {calls : List HalCall}
    (hdevice : (t.device.perform op).device = d)
    (hcalls : halCalls (t.device.perform op).run.log = calls)
    (hsession : sessionAfter t.session calls
      = if d.status = .opened then some d.nativeHandle else none)
    (hclosing : d.status ≠ .closing) : (t.perform op).InStep := by
  subst hdevice hcalls
  exact ⟨(session_perform t op).trans hsession, hclosing⟩

lemma InStep.openDriver (h : t.InStep) (handle err : ℤ) :
    (t.perform (.openDriver handle err)).InStep := by
  obtain ⟨-, hdevice, hcalls⟩ | ⟨hclosed, herr, hdevice, hcalls⟩ |
    ⟨hclosed, herr, hdevice, hcalls⟩ := t.device.openDriver_cases handle err
  · exact .of_perform hdevice hcalls h.session_eq h.not_closing
  · have hnone : t.session = none := h.session_of_not_opened (by simp [hclosed])
    refine .of_perform hdevice hcalls ?_ (by simp [hclosed])
    simp [hnone, sessionAfter, HalCall.after, herr, hclosed]
  · refine .of_perform hdevice hcalls ?_ (by simp)
    simp [sessionAfter, HalCall.after, herr]

lemma InStep.closeDriver (h : t.InStep) (err : ℤ) : (t.perform (.closeDriver err)).InStep := by
  obtain ⟨-, hdevice, hcalls⟩ | ⟨hopened, hdevice, hcalls⟩ := t.device.closeDriver_cases err
  · exact .of_perform hdevice hcalls h.session_eq h.not_closing
  · refine .of_perform hdevice hcalls ?_ (by simp)
    simp [h.session_of_opened hopened, sessionAfter, HalCall.after]

/-- Every operation keeps the driver in step with the session. -/
lemma InStep.perform (h : t.InStep) (op : DeviceOp) : (t.perform op).InStep := by
  by_cases hop : op.lifecycle = true
  · cases op with
    | openDriver handle err => exact h.openDriver handle err
    | closeDriver err => exact h.closeDriver err
    | _ => cases hop
  · rw [Bool.not_eq_true] at hop
    obtain ⟨hstatus, hhandle⟩ := t.device.perform_handle hop
    have hplain := fun call hcall => (t.device.perform_plain hop call hcall).2
    apply InStep.of_perform rfl rfl
    · rw [sessionAfter_of_plain hplain, hstatus, hhandle]
      exact h.session_eq
    · rw [hstatus]
      exact h.not_closing

lemma disciplined_openDriver (t : Traffic) (handle err : ℤ) :
    Disciplined t.session (halCalls (t.device.openDriver handle err).run.log) := by
  obtain ⟨-, -, hcalls⟩ | ⟨-, -, -, hcalls⟩ | ⟨-, herr, -, hcalls⟩ :=
    t.device.openDriver_cases handle err
  · rw [hcalls]
    trivial
  · rw [hcalls]
    exact ⟨by simp [HalCall.isOpen], trivial⟩
  · rw [hcalls]
    simp [Disciplined, HalCall.isOpen, HalCall.after, HalCall.handle, herr]

lemma InStep.disciplined_closeDriver (h : t.InStep) (err : ℤ) :
    Disciplined t.session (halCalls (t.device.closeDriver err).run.log) := by
  obtain ⟨-, -, hcalls⟩ | ⟨hopened, -, hcalls⟩ := t.device.closeDriver_cases err
  · rw [hcalls]
    trivial
  · rw [hcalls]
    exact ⟨fun _ => h.session_of_opened hopened, trivial⟩

/-- The operation is as it should be exactly when it is not a query of a driver that is not open. -/
lemma InStep.respects_iff (h : t.InStep) (op : DeviceOp) : t.Respects op ↔ t.QueriesOpened op := by
  constructor
  · rintro ⟨-, hrefused⟩ hunchecked
    by_contra hopened
    have hop : op.lifecycle = false := by
      cases op <;> first | rfl | cases hunchecked
    obtain ⟨⟨e, he⟩, -⟩ := hrefused hop (h.session_of_not_opened hopened)
    rw [(t.device.perform_unchecked hunchecked).1] at he
    cases he
  · intro hqueries
    cases hop : op.lifecycle with
    | true =>
      refine ⟨?_, fun hfalse => absurd (hfalse.symm.trans hop) Bool.false_ne_true⟩
      cases op with
      | openDriver handle err => exact t.disciplined_openDriver handle err
      | closeDriver err => exact h.disciplined_closeDriver err
      | _ => cases hop
    | false =>
      by_cases hopened : t.device.status = .opened
      · have hsession := h.session_of_opened hopened
        refine ⟨?_, ?_⟩
        · rw [hsession]
          exact disciplined_of_plain (t.device.perform_plain hop)
        · intro _ hnone
          rw [hsession] at hnone
          cases hnone
      · have hchecked : op.unchecked = false := by
          by_contra hunchecked
          exact hopened (hqueries (by simpa using hunchecked))
        have hrefused := t.device.perform_of_not_opened hop hchecked hopened
        refine ⟨?_, fun _ _ => hrefused⟩
        rw [hrefused.2]
        trivial

/-- In every run in which `getLogicalAddress` and `getPhysicalAddress` are called on an open driver
only, every call of the hardware layer but `HdmiCecOpen` is made in a session and with its handle;
and any further operation keeps to the sessions exactly when it meets that condition. -/
theorem hal_calls_disciplined {t : Traffic} (h : Run Traffic.step QueriesOpened .new t) :
    Disciplined none t.calls ∧ ∀ op, t.Respects op ↔ t.QueriesOpened op := by
  have hboth : t.InStep ∧ Disciplined none t.calls := by
    apply h.invariant (I := fun t => t.InStep ∧ Disciplined none t.calls)
    · rintro t op t' hok hstep ⟨hin, hcalls⟩
      cases hstep
      exact ⟨hin.perform op, disciplined_append.mpr ⟨hcalls, ((hin.respects_iff op).mpr hok).1⟩⟩
    · exact ⟨inStep_new, trivial⟩
  exact ⟨hboth.2, hboth.1.respects_iff⟩

/-- A driver that is opened and asked for the physical address. -/
theorem hal_calls_disciplined_query :
    ∃ t, Run Traffic.step QueriesOpened .new t ∧ t.calls.length = 4 ∧ Disciplined none t.calls := by
  have hrun : Run Traffic.step QueriesOpened .new
      ((Traffic.new.perform (.openDriver 7 0)).perform (.getPhysicalAddress 0x1000)) :=
    .tail (.tail .refl (by intro h; cases h) rfl) (fun _ => rfl) rfl
  exact ⟨_, hrun, rfl, (hal_calls_disciplined hrun).1⟩

/-- A driver that was never opened calls `HdmiCecGetLogicalAddress` with the handle 0. -/
theorem getLogicalAddress_undisciplined :
    ¬∀ t, Run Traffic.step (fun _ _ => True) .new t →
      Disciplined none t.calls ∧ ∀ op, t.Respects op := by
  intro h
  obtain ⟨⟨hsession, -⟩, -⟩ :=
    h (Traffic.new.perform (.getLogicalAddress 0 4)) (.tail .refl trivial rfl)
  cases hsession rfl

end Traffic

end HdmiCec
