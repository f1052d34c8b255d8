import HdmiCec.Lib.Serial
import HdmiCec.Driver.Session

/-!
# Threads in the driver

The operations of `DriverImpl` access by access, as any number of threads call them at the same
time. Each holds the driver's mutex from its first access to `status`, `nativeHandle` and
`logicalAddresses` to its last; what it prints and the frame that it builds come before. The receive
queue has a mutex of its own and is left out here.

What the threads do is what a single thread does that performs the same operations in the order in
which they got the mutex (`Guarded.serializes`). So the sessions of the hardware layer are kept in
every interleaving in which they are kept one after the other, in the middle of an operation too.
-/

namespace HdmiCec

open Lib

/-- The members of `DriverImpl` that its mutex guards, with the calls that the hardware layer has
received. -/
structure Guarded where
  status : DriverImpl.Status
  nativeHandle : ℤ
  logicalAddresses : List LogicalAddress
  calls : List HalCall

def Traffic.guarded (t : Traffic) : Guarded :=
  ⟨t.device.status, t.device.nativeHandle, t.device.logicalAddresses, t.calls⟩

/-! ### The accesses -/

/-- The accesses to the guarded members and the calls of the hardware layer, operation by
operation. -/
inductive AccessPoint where
  | openTest (handle err : ℤ)
  | hdmiCecOpen (handle err : ℤ)
  | hdmiCecSetRxCallback
  | hdmiCecSetTxCallback
  | setOpened
  | closeTest (err : ℤ)
  | setClosing (err : ℤ)
  | hdmiCecClose (err : ℤ)
  | setClosed (err : ℤ)
  | writeTest (frame : CECFrame) (err sendResult : ℤ)
  | hdmiCecTx (frame : CECFrame) (err sendResult : ℤ)
  | writeAsyncTest (frame : CECFrame) (err : ℤ)
  | hdmiCecTxAsync (frame : CECFrame) (err : ℤ)
  | addTest (source : LogicalAddress) (retErr : ℤ)
  | hdmiCecAddLogicalAddress (source : LogicalAddress) (retErr : ℤ)
  | pushBack (source : LogicalAddress)
  | removeTest (source : LogicalAddress)
  | remove (source : LogicalAddress)
  | hdmiCecRemoveLogicalAddress (source : LogicalAddress)
  | hdmiCecGetLogicalAddress
  | hdmiCecGetPhysicalAddress

namespace Guarded

def new : Guarded := Traffic.new.guarded

def call (g : Guarded) (c : HalCall) : Guarded := { g with calls := g.calls ++ [c] }

/-- What `write` does when `HdmiCecTx` has returned. -/
def afterTx (frame : CECFrame) (err sendResult : ℤ) : Ccec Unit := do
  ccecLog logDebug ">>>>>>> >>>>> >>>> >> >> >\r\n"
  DriverImpl.dumpBuffer frame.bytes
  ccecLog logDebug "==========================\r\n"
  ccecLog logDebug ("DriverImpl:: call HdmiCecTx DONE " ++ hex (err % 2 ^ 32).toNat
    ++ ", result " ++ hex (sendResult % 2 ^ 32).toNat ++ "\r\n")
  DriverImpl.checkErr err
  DriverImpl.checkSendResult sendResult
  DriverImpl.checkAck frame sendResult
  ccecLog logDebug "Send Completed\r\n"

/-- What `writeAsync` does when `HdmiCecTxAsync` has returned. -/
def afterTxAsync (frame : CECFrame) (err : ℤ) : Ccec Unit := do
  ccecLog logDebug ">>>>>>> >>>>> >>>> >> >> >\r\n"
  DriverImpl.dumpBuffer frame.bytes
  ccecLog logDebug "==========================\r\n"
  ccecLog logDebug ("DriverImpl:: call HdmiCecTxAsync " ++ hex (err % 2 ^ 32).toNat ++ "\r\n")
  DriverImpl.checkErr err
  ccecLog logDebug "Send Async Completed\r\n"

/-- `status != OPENED` raises. -/
def test (g : Guarded) (next : AccessPoint) : Guarded × (AccessPoint ⊕ Except Exn Unit) :=
  (g, if g.status ≠ .opened then .inr (.error .invalidState) else .inl next)

/-- One access, and the point after it or the result. In `close` the sentinel is offered between
`status = CLOSING` and `HdmiCecClose`. -/
def access : AccessPoint → Guarded → Guarded × (AccessPoint ⊕ Except Exn Unit)
  | .openTest handle err, g =>
    (g, if g.status ≠ .closed then .inr (.ok ()) else .inl (.hdmiCecOpen handle err))
  | .hdmiCecOpen handle err, g =>
    ({ g.call (.hdmiCecOpen handle err) with nativeHandle := handle },
      if err ≠ DriverImpl.ioSuccess then .inr (.error .io) else .inl .hdmiCecSetRxCallback)
  | .hdmiCecSetRxCallback, g =>
    (g.call (.hdmiCecSetRxCallback g.nativeHandle), .inl .hdmiCecSetTxCallback)
  | .hdmiCecSetTxCallback, g => (g.call (.hdmiCecSetTxCallback g.nativeHandle), .inl .setOpened)
  | .setOpened, g => ({ g with status := .opened }, .inr (.ok ()))
  | .closeTest err, g =>
    (g, if g.status ≠ .opened then .inr (.ok ()) else .inl (.setClosing err))
  | .setClosing err, g => ({ g with status := .closing }, .inl (.hdmiCecClose err))
  | .hdmiCecClose err, g => (g.call (.hdmiCecClose g.nativeHandle), .inl (.setClosed err))
  | .setClosed err, g =>
    ({ g with status := .closed },
      .inr (if err ≠ DriverImpl.ioSuccess then .error .io else .ok ()))
  | .writeTest frame err sendResult, g => g.test (.hdmiCecTx frame err sendResult)
  | .hdmiCecTx frame err sendResult, g =>
    (g.call (.hdmiCecTx g.nativeHandle frame.bytes), .inr (afterTx frame err sendResult).result)
  | .writeAsyncTest frame err, g => g.test (.hdmiCecTxAsync frame err)
  | .hdmiCecTxAsync frame err, g =>
    (g.call (.hdmiCecTxAsync g.nativeHandle frame.bytes), .inr (afterTxAsync frame err).result)
  | .addTest source retErr, g => g.test (.hdmiCecAddLogicalAddress source retErr)
  | .hdmiCecAddLogicalAddress source retErr, g =>
    match source.toInt.result with
    | .error e => (g, .inr (.error e))
    | .ok logicalAddress =>
      (g.call (.hdmiCecAddLogicalAddress g.nativeHandle logicalAddress retErr),
        match (Device.checkAdd retErr).result with
        | .error e => .inr (.error e)
        | .ok _ => .inl (.pushBack source))
  | .pushBack source, g =>
    ({ g with logicalAddresses := g.logicalAddresses ++ [source] }, .inr (.ok ()))
  | .removeTest source, g => g.test (.remove source)
  | .remove source, g =>
    ({ g with logicalAddresses := g.logicalAddresses.filter (· ≠ source) },
      .inl (.hdmiCecRemoveLogicalAddress source))
  | .hdmiCecRemoveLogicalAddress source, g =>
    match source.toInt.result with
    | .error e => (g, .inr (.error e))
    | .ok logicalAddress =>
      (g.call (.hdmiCecRemoveLogicalAddress g.nativeHandle logicalAddress), .inr (.ok ()))
  | .hdmiCecGetLogicalAddress, g =>
    (g.call (.hdmiCecGetLogicalAddress g.nativeHandle), .inr (.ok ()))
  | .hdmiCecGetPhysicalAddress, g =>
    (g.call (.hdmiCecGetPhysicalAddress g.nativeHandle), .inr (.ok ()))

/-- The frame that `poll` writes. -/
def pollFrame (fromAddr toAddr : LogicalAddress) : Ccec CECFrame := do
  let fromInt ← fromAddr.toInt
  let toInt ← toAddr.toInt
  let firstByte := UInt8.ofNat ((fromInt &&& 0x0F) <<< 4 ||| (toInt &&& 0x0F))
  let fromText ← fromAddr.toString
  let toText ← toAddr.toString
  ccecLog logDebug ("$$$$$$$$$$$$$$$$$$$$ POST POLL [" ++ fromText ++ "] [" ++ toText
    ++ "]$$$$$$$$$$$$$$$$$$$$$\r\n")
  CECFrame.empty.append firstByte

/-- Before the mutex: what raises there leaves the driver alone. -/
def before {α : Type} (m : Ccec α) (next : α → AccessPoint ⊕ Except Exn Unit) :
    AccessPoint ⊕ Except Exn Unit :=
  match m.result with
  | .ok a => next a
  | .error e => .inr (.error e)

def enterWrite (frame : CECFrame) (err sendResult : ℤ) : AccessPoint ⊕ Except Exn Unit :=
  before (DriverImpl.printFrameDetails frame) fun _ => .inl (.writeTest frame err sendResult)

def enter : DeviceOp → AccessPoint ⊕ Except Exn Unit
  | .openDriver handle err => .inl (.openTest handle err)
  | .closeDriver err => .inl (.closeTest err)
  | .write frame err sendResult => enterWrite frame err sendResult
  | .writeAsync frame err =>
    before (DriverImpl.printFrameDetails frame) fun _ => .inl (.writeAsyncTest frame err)
  | .poll fromAddr toAddr err sendResult =>
    before (pollFrame (.ofByte fromAddr) (.ofByte toAddr)) (enterWrite · err sendResult)
  | .addLogicalAddress source retErr => .inl (.addTest (.ofByte source) retErr)
  | .removeLogicalAddress source => .inl (.removeTest (.ofByte source))
  | .getLogicalAddress _ _ => .inl .hdmiCecGetLogicalAddress
  | .getPhysicalAddress _ => .inl .hdmiCecGetPhysicalAddress

/-- The operations of the driver, access by access. -/
def body : Body Guarded DeviceOp AccessPoint (Except Exn Unit) := ⟨enter, access⟩

end Guarded

/-! ### The accesses of an operation make up the operation -/

namespace Device

/-- The calls of the hardware layer and the result. -/
def effect (m : Logged Exn DriverEvent Unit) : List HalCall × Except Exn Unit :=
  (halCalls m.log, m.result)

variable {α : Type} {m : Ccec α} {next : α → Logged Exn DriverEvent Unit}

lemma effect_lib (m : Ccec Unit) : effect (lib m) = ([], m.result) := by
  rw [effect, halCalls_lib]
  rfl

lemma effect_lib_bind {a : α} (h : m.result = .ok a) :
    effect (lib m >>= next) = effect (next a) := by
  have hlib : (lib m).result = .ok a := h
  simp only [effect, Logged.result_bind_of_ok hlib, Logged.log_bind_of_ok hlib, halCalls_append,
    halCalls_lib, List.nil_append]

lemma effect_lib_bind_error {e : Exn} (h : m.result = .error e) :
    effect (lib m >>= next) = ([], .error e) := by
  have hlib : (lib m).result = .error e := h
  simp only [effect, Logged.result_bind_of_error hlib, Logged.log_bind_of_error hlib, halCalls_lib]

lemma effect_hal_bind (call : HalCall) (next : Unit → Logged Exn DriverEvent Unit) :
    effect (hal call >>= next) = (call :: (effect (next ())).1, (effect (next ())).2) := rfl

lemma effect_checkOpened_bind {d : Device} (next : Unit → Logged Exn DriverEvent Unit) :
    effect (d.checkOpened >>= next) =
      if d.status ≠ .opened then ([], .error .invalidState) else effect (next ()) := by
  split
  · rename_i hstatus
    exact effect_lib_bind_error (by rw [if_pos hstatus]; rfl)
  · rename_i hstatus
    exact effect_lib_bind (by rw [if_neg hstatus]; rfl)

/-- `write` is what it does before `HdmiCecTx`, the call, and what it does after it. -/
lemma write_run (d : Device) (frame : CECFrame) (err sendResult : ℤ) :
    (d.write frame err sendResult).run = (do
      lib (DriverImpl.printFrameDetails frame)
      d.checkOpened
      lib (ccecLog logDebug "DriverImpl::write to call HdmiCecTx\r\n")
      hal (.hdmiCecTx d.nativeHandle frame.bytes)
      lib (Guarded.afterTx frame err sendResult)) := by
  simp only [write, DriverImpl.write, Logged.mapLog_bind, mapLog_lib, Guarded.afterTx, lib]
  rfl

lemma writeAsync_run (d : Device) (frame : CECFrame) (err : ℤ) :
    (d.writeAsync frame err).run = (do
      lib (DriverImpl.printFrameDetails frame)
      d.checkOpened
      lib (ccecLog logDebug "DriverImpl::write to call HdmiCecTxAsync\r\n")
      hal (.hdmiCecTxAsync d.nativeHandle frame.bytes)
      lib (Guarded.afterTxAsync frame err)) := by
  simp only [writeAsync, Guarded.afterTxAsync, lib, Logged.mapLog_bind]

lemma poll_run (d : Device) (fromAddr toAddr : LogicalAddress) (err sendResult : ℤ) :
    (d.poll fromAddr toAddr err sendResult).run =
      lib (Guarded.pollFrame fromAddr toAddr) >>= fun frame =>
        (d.write frame err sendResult).run := by
  simp only [poll, Guarded.pollFrame, lib, Logged.mapLog_bind, bind_assoc]

end Device

namespace Guarded

open Device

variable {t : Traffic} {op : DeviceOp} {p : AccessPoint} {g : Guarded}

/-- The operation changed the driver to `d`, made the calls and had the result. -/
lemma ends_perform (d : Device) (calls : List HalCall) (r : Except Exn Unit)
    (hdevice : (t.device.perform op).device = d)
    (heffect : effect (t.device.perform op).run = (calls, r))
    (hends : body.Ends p t.guarded
      ⟨d.status, d.nativeHandle, d.logicalAddresses, t.calls ++ calls⟩ r) :
    body.Ends p t.guarded (t.perform op).guarded (t.device.perform op).run.result := by
  obtain ⟨hcalls, hresult⟩ := Prod.mk.inj heffect
  rw [hresult]
  have hguarded : (t.perform op).guarded =
      ⟨d.status, d.nativeHandle, d.logicalAddresses, t.calls ++ calls⟩ := by
    simp only [Traffic.perform, Traffic.guarded, hdevice, hcalls]
  rw [hguarded]
  exact hends

lemma ends_openDriver (t : Traffic) (handle err : ℤ) :
    body.Ends (.openTest handle err) t.guarded (t.perform (.openDriver handle err)).guarded
      (t.device.perform (.openDriver handle err)).run.result := by
  by_cases hclosed : t.device.status = .closed
  · have htest : body.access (.openTest handle err) t.guarded =
        (t.guarded, .inl (.hdmiCecOpen handle err)) := by
      simp [body, access, Traffic.guarded, hclosed]
    by_cases herr : err = DriverImpl.ioSuccess
    · have hopen : body.access (.hdmiCecOpen handle err) t.guarded =
          ({ t.guarded.call (.hdmiCecOpen handle err) with nativeHandle := handle },
            .inl .hdmiCecSetRxCallback) := by
        simp [body, access, herr]
      apply ends_perform { t.device with nativeHandle := handle, status := .opened }
        [.hdmiCecOpen handle err, .hdmiCecSetRxCallback handle, .hdmiCecSetTxCallback handle]
        (.ok ())
      · simp [Device.perform, openDriver, hclosed, herr]
      · simp only [Device.perform, openDriver, hclosed, herr, ne_eq, not_true_eq_false, if_false]
        rfl
      · refine .next htest (.next hopen (.next rfl (.next rfl (.last ?_))))
        simp [body, access, call, Traffic.guarded]
    · have hopen : body.access (.hdmiCecOpen handle err) t.guarded =
          ({ t.guarded.call (.hdmiCecOpen handle err) with nativeHandle := handle },
            .inr (.error .io)) := by
        simp [body, access, herr]
      apply ends_perform { t.device with nativeHandle := handle } [.hdmiCecOpen handle err]
        (.error .io)
      · simp [Device.perform, openDriver, hclosed, herr]
      · simp only [Device.perform, openDriver, hclosed, herr, ne_eq, not_true_eq_false, if_false,
          not_false_eq_true, if_true]
        rfl
      · exact .next htest (.last hopen)
  · apply ends_perform t.device [] (.ok ())
    · simp [Device.perform, openDriver, hclosed]
    · simp only [Device.perform, openDriver, ne_eq, hclosed, not_false_eq_true, if_true]
      rfl
    · apply Body.Ends.last
      simp [body, access, Traffic.guarded, hclosed]

lemma ends_closeDriver (t : Traffic) (err : ℤ) :
    body.Ends (.closeTest err) t.guarded (t.perform (.closeDriver err)).guarded
      (t.device.perform (.closeDriver err)).run.result := by
  by_cases hopened : t.device.status = .opened
  · have htest : body.access (.closeTest err) t.guarded = (t.guarded, .inl (.setClosing err)) := by
      simp [body, access, Traffic.guarded, hopened]
    apply ends_perform { t.device with rQueue := offerNull t.device.rQueue, status := .closed }
      [.hdmiCecClose t.device.nativeHandle]
      (if err ≠ DriverImpl.ioSuccess then .error .io else .ok ())
    · simp [Device.perform, closeDriver, hopened]
    · simp only [Device.perform, closeDriver, hopened, ne_eq, not_true_eq_false, if_false]
      split <;> split <;> rfl
    · exact .next htest (.next rfl (.next rfl (.last rfl)))
  · apply ends_perform t.device [] (.ok ())
    · simp [Device.perform, closeDriver, hopened]
    · simp only [Device.perform, closeDriver, ne_eq, hopened, not_false_eq_true, if_true]
      rfl
    · apply Body.Ends.last
      simp [body, access, Traffic.guarded, hopened]

lemma test_of_opened (h : t.device.status = .opened) (next : AccessPoint) :
    t.guarded.test next = (t.guarded, .inl next) := by
  simp [test, Traffic.guarded, h]

/-- An operation that tests the status is refused by a driver that is not open. -/
lemma ends_refused {next : AccessPoint} (hstatus : t.device.status ≠ .opened)
    (haccess : body.access p t.guarded = t.guarded.test next)
    (hdevice : (t.device.perform op).device = t.device)
    (heffect : effect (t.device.perform op).run = ([], .error .invalidState)) :
    body.Ends p t.guarded (t.perform op).guarded (t.device.perform op).run.result := by
  apply ends_perform t.device [] (.error .invalidState) hdevice heffect
  apply Body.Ends.last
  rw [haccess, List.append_nil]
  simp [test, Traffic.guarded, hstatus]

lemma effect_write (d : Device) {frame : CECFrame} (err sendResult : ℤ)
    (hprint : (DriverImpl.printFrameDetails frame).result = .ok ()) :
    effect (d.write frame err sendResult).run =
      if d.status ≠ .opened then ([], .error .invalidState)
      else ([.hdmiCecTx d.nativeHandle frame.bytes], (afterTx frame err sendResult).result) := by
  have hlog : (ccecLog logDebug "DriverImpl::write to call HdmiCecTx\r\n").result = .ok () := rfl
  rw [write_run, effect_lib_bind hprint, effect_checkOpened_bind, effect_lib_bind hlog,
    effect_hal_bind, effect_lib]

lemma effect_writeAsync (d : Device) {frame : CECFrame} (err : ℤ)
    (hprint : (DriverImpl.printFrameDetails frame).result = .ok ()) :
    effect (d.writeAsync frame err).run =
      if d.status ≠ .opened then ([], .error .invalidState)
      else ([.hdmiCecTxAsync d.nativeHandle frame.bytes], (afterTxAsync frame err).result) := by
  have hlog : (ccecLog logDebug "DriverImpl::write to call HdmiCecTxAsync\r\n").result = .ok () :=
    rfl
  rw [writeAsync_run, effect_lib_bind hprint, effect_checkOpened_bind, effect_lib_bind hlog,
    effect_hal_bind, effect_lib]

/-- `write` and `poll` from their test on. -/
lemma ends_write {frame : CECFrame} {err sendResult : ℤ}
    (hdevice : (t.device.perform op).device = t.device)
    (heffect : effect (t.device.perform op).run = effect (t.device.write frame err sendResult).run)
    (hprint : (DriverImpl.printFrameDetails frame).result = .ok ()) :
    body.Ends (.writeTest frame err sendResult) t.guarded (t.perform op).guarded
      (t.device.perform op).run.result := by
  rw [effect_write _ err sendResult hprint] at heffect
  by_cases hopened : t.device.status = .opened
  · rw [if_neg (not_not.mpr hopened)] at heffect
    apply ends_perform _ _ _ hdevice heffect
    exact .next (test_of_opened hopened _) (.last rfl)
  · rw [if_pos hopened] at heffect
    exact ends_refused hopened rfl hdevice heffect

lemma ends_writeAsync (t : Traffic) {frame : CECFrame} (err : ℤ)
    (hprint : (DriverImpl.printFrameDetails frame).result = .ok ()) :
    body.Ends (.writeAsyncTest frame err) t.guarded (t.perform (.writeAsync frame err)).guarded
      (t.device.perform (.writeAsync frame err)).run.result := by
  have heffect : effect (t.device.perform (.writeAsync frame err)).run = _ :=
    effect_writeAsync t.device err hprint
  by_cases hopened : t.device.status = .opened
  · rw [if_neg (not_not.mpr hopened)] at heffect
    apply ends_perform t.device _ _ rfl heffect
    exact .next (test_of_opened hopened _) (.last rfl)
  · rw [if_pos hopened] at heffect
    exact ends_refused hopened rfl rfl heffect

lemma toInt_ofByte (b : UInt8) : (LogicalAddress.toInt (.ofByte b)).result = .ok b.toNat := rfl

lemma effect_addLogicalAddress (d : Device) (source : UInt8) (retErr : ℤ) :
    effect (d.perform (.addLogicalAddress source retErr)).run =
      if d.status ≠ .opened then ([], .error .invalidState)
      else ([.hdmiCecAddLogicalAddress d.nativeHandle source.toNat retErr],
        (checkAdd retErr).result.map fun _ => ()) := by
  have hcheck : effect (lib (checkAdd retErr) >>= fun _ => pure ()) =
      ([], (checkAdd retErr).result.map fun _ => ()) := by
    cases hadd : (checkAdd retErr).result with
    | ok a => exact effect_lib_bind hadd
    | error e => exact effect_lib_bind_error hadd
  simp only [Device.perform, Outcome.void, addLogicalAddress, bind_assoc]
  rw [effect_checkOpened_bind, effect_lib_bind (toInt_ofByte source), effect_hal_bind, hcheck]

lemma ends_addLogicalAddress (t : Traffic) (source : UInt8) (retErr : ℤ) :
    body.Ends (.addTest (.ofByte source) retErr) t.guarded
      (t.perform (.addLogicalAddress source retErr)).guarded
      (t.device.perform (.addLogicalAddress source retErr)).run.result := by
  have heffect := effect_addLogicalAddress t.device source retErr
  by_cases hopened : t.device.status = .opened
  · rw [if_neg (not_not.mpr hopened)] at heffect
    have htest := test_of_opened hopened (.hdmiCecAddLogicalAddress (.ofByte source) retErr)
    by_cases hfails : retErr = DriverImpl.ioLogicalAddressUnavailable ∨
        retErr = DriverImpl.ioGeneralError
    · apply ends_perform t.device _ _ _ heffect
      · refine .next htest (.last ?_)
        obtain ⟨e, he⟩ : ∃ e, (checkAdd retErr).result = .error e := by
          unfold checkAdd
          split
          · exact ⟨_, rfl⟩
          · rw [if_pos (hfails.resolve_left ‹_›)]
            exact ⟨_, rfl⟩
        simp only [body, access, toInt_ofByte, he]
        rfl
      · simp only [Device.perform, Outcome.void, addLogicalAddress]
        rw [if_pos (.inr hfails)]
    · have hok : (checkAdd retErr).result = .ok true := by
        rw [not_or] at hfails
        rw [checkAdd, if_neg hfails.1, if_neg hfails.2]
        rfl
      apply ends_perform { t.device with
        logicalAddresses := t.device.logicalAddresses ++ [.ofByte source] } _ _ _ heffect
      · have hadd : body.access (.hdmiCecAddLogicalAddress (.ofByte source) retErr) t.guarded =
            (t.guarded.call
              (.hdmiCecAddLogicalAddress t.device.nativeHandle source.toNat retErr),
              .inl (.pushBack (.ofByte source))) := by
          simp only [body, access, toInt_ofByte, hok]
          rfl
        rw [hok]
        exact .next htest (.next hadd (.last rfl))
      · simp only [Device.perform, Outcome.void, addLogicalAddress]
        rw [if_neg]
        exact fun h => h.elim (· hopened) hfails
  · rw [if_pos hopened] at heffect
    refine ends_refused hopened rfl ?_ heffect
    simp only [Device.perform, Outcome.void, addLogicalAddress]
    rw [if_pos (.inl hopened)]

lemma ends_removeLogicalAddress (t : Traffic) (source : UInt8) :
    body.Ends (.removeTest (.ofByte source)) t.guarded
      (t.perform (.removeLogicalAddress source)).guarded
      (t.device.perform (.removeLogicalAddress source)).run.result := by
  have heffect : effect (t.device.perform (.removeLogicalAddress source)).run =
      if t.device.status ≠ .opened then ([], .error .invalidState)
      else ([.hdmiCecRemoveLogicalAddress t.device.nativeHandle source.toNat], .ok ()) := by
    simp only [Device.perform, removeLogicalAddress]
    rw [effect_checkOpened_bind, effect_lib_bind (toInt_ofByte source)]
    rfl
  by_cases hopened : t.device.status = .opened
  · rw [if_neg (not_not.mpr hopened)] at heffect
    apply ends_perform { t.device with
      logicalAddresses := t.device.logicalAddresses.filter (· ≠ .ofByte source) } _ _ _ heffect
    · exact .next (test_of_opened hopened _) (.next rfl (.last rfl))
    · simp only [Device.perform, removeLogicalAddress]
      rw [if_neg (not_not.mpr hopened)]
  · rw [if_pos hopened] at heffect
    refine ends_refused hopened rfl ?_ heffect
    simp only [Device.perform, removeLogicalAddress]
    rw [if_pos hopened]

section

variable {α : Type} {m : Ccec α} {next : α → AccessPoint ⊕ Except Exn Unit}
  {r : Except Exn Unit}

lemma before_eq_inl : before m next = .inl p ↔ ∃ a, m.result = .ok a ∧ next a = .inl p := by
  unfold before
  cases m.result <;> simp

lemma before_eq_inr : before m next = .inr r ↔
    (∃ e, m.result = .error e ∧ r = .error e) ∨ ∃ a, m.result = .ok a ∧ next a = .inr r := by
  unfold before
  cases m.result <;> simp [eq_comm]

end

/-- The accesses of an operation do what the operation does, and have its result. -/
lemma ends_of_enter (t : Traffic) (h : body.enter op = .inl p) :
    body.Ends p t.guarded (t.perform op).guarded (t.device.perform op).run.result := by
  cases op with
  | openDriver handle err =>
    cases h
    exact ends_openDriver t handle err
  | closeDriver err =>
    cases h
    exact ends_closeDriver t err
  | write frame err sendResult =>
    obtain ⟨_, hprint, hp⟩ := before_eq_inl.mp h
    cases hp
    exact ends_write rfl rfl hprint
  | writeAsync frame err =>
    obtain ⟨_, hprint, hp⟩ := before_eq_inl.mp h
    cases hp
    exact ends_writeAsync t err hprint
  | poll fromAddr toAddr err sendResult =>
    obtain ⟨frame, hframe, hwrite⟩ := before_eq_inl.mp h
    obtain ⟨_, hprint, hp⟩ := before_eq_inl.mp hwrite
    cases hp
    refine ends_write rfl ?_ hprint
    exact (congrArg effect (poll_run ..)).trans (effect_lib_bind hframe)
  | addLogicalAddress source retErr =>
    cases h
    exact ends_addLogicalAddress t source retErr
  | removeLogicalAddress source =>
    cases h
    exact ends_removeLogicalAddress t source
  | getLogicalAddress devType logicalAddress =>
    cases h
    exact ends_perform t.device [.hdmiCecGetLogicalAddress t.device.nativeHandle] (.ok ()) rfl rfl
      (.last rfl)
  | getPhysicalAddress physicalAddress =>
    cases h
    exact ends_perform t.device [.hdmiCecGetPhysicalAddress t.device.nativeHandle] (.ok ()) rfl rfl
      (.last rfl)

/-- What raises before the mutex leaves the guarded members alone. -/
lemma guarded_of_raised {e : Exn} (hdevice : (t.device.perform op).device = t.device)
    (heffect : effect (t.device.perform op).run = ([], .error e)) :
    (t.perform op).guarded = t.guarded ∧ (t.device.perform op).run.result = .error e := by
  obtain ⟨hcalls, hresult⟩ := Prod.mk.inj heffect
  refine ⟨?_, hresult⟩
  simp only [Traffic.perform, Traffic.guarded, hdevice, hcalls, List.append_nil]

lemma effect_write_of_print {frame : CECFrame} {e : Exn} (d : Device) (err sendResult : ℤ)
    (h : (DriverImpl.printFrameDetails frame).result = .error e) :
    effect (d.write frame err sendResult).run = ([], .error e) := by
  rw [write_run, effect_lib_bind_error h]

/-- An operation that does not come to the mutex raises what it raises there. -/
lemma guarded_of_enter {r : Except Exn Unit} (t : Traffic) (h : body.enter op = .inr r) :
    op.unchecked = false ∧ (t.perform op).guarded = t.guarded ∧
      (t.device.perform op).run.result = r := by
  cases op with
  | write frame err sendResult =>
    obtain ⟨e, hprint, rfl⟩ | ⟨_, -, hp⟩ := before_eq_inr.mp h
    · exact ⟨rfl, guarded_of_raised rfl (effect_write_of_print _ err sendResult hprint)⟩
    · cases hp
  | writeAsync frame err =>
    obtain ⟨e, hprint, rfl⟩ | ⟨_, -, hp⟩ := before_eq_inr.mp h
    · refine ⟨rfl, guarded_of_raised rfl ?_⟩
      exact (congrArg effect (writeAsync_run ..)).trans (effect_lib_bind_error hprint)
    · cases hp
  | poll fromAddr toAddr err sendResult =>
    have hpoll : effect (t.device.perform (.poll fromAddr toAddr err sendResult)).run = _ :=
      congrArg effect (poll_run ..)
    obtain ⟨e, hframe, rfl⟩ | ⟨frame, hframe, hwrite⟩ := before_eq_inr.mp h
    · exact ⟨rfl, guarded_of_raised rfl (hpoll.trans (effect_lib_bind_error hframe))⟩
    · obtain ⟨e, hprint, rfl⟩ | ⟨_, -, hp⟩ := before_eq_inr.mp hwrite
      · refine ⟨rfl, guarded_of_raised rfl ?_⟩
        rw [hpoll, effect_lib_bind hframe, effect_write_of_print _ err sendResult hprint]
      · cases hp
  | _ => cases h

/-! ### Interleavings -/

def rank : AccessPoint → ℕ
  | .openTest _ _ => 4
  | .hdmiCecOpen _ _ => 3
  | .hdmiCecSetRxCallback => 2
  | .hdmiCecSetTxCallback => 1
  | .closeTest _ => 3
  | .setClosing _ => 2
  | .hdmiCecClose _ => 1
  | .writeTest _ _ _ | .writeAsyncTest _ _ => 1
  | .addTest _ _ | .removeTest _ => 2
  | .hdmiCecAddLogicalAddress _ _ | .remove _ => 1
  | _ => 0

lemma test_eq_inl {g' : Guarded} {next q : AccessPoint} (h : g.test next = (g', .inl q)) :
    q = next := by
  simp only [test, Prod.mk.injEq] at h
  obtain ⟨-, h⟩ := h
  split at h <;> cases h
  rfl

lemma rank_access (p : AccessPoint) (g g' : Guarded) (q : AccessPoint)
    (h : body.access p g = (g', .inl q)) : rank q < rank p := by
  cases p <;> simp only [body, access] at h
  case writeTest | writeAsyncTest | addTest | removeTest =>
    rw [test_eq_inl h]
    simp [rank]
  all_goals grind [rank]

lemma calls_access (p : AccessPoint) (g : Guarded) : g.calls <+: (body.access p g).1.calls := by
  cases p with
  | hdmiCecAddLogicalAddress source retErr | hdmiCecRemoveLogicalAddress source =>
    simp only [body, access]
    split
    · exact List.prefix_refl _
    · exact List.prefix_append _ _
  | _ => first | exact List.prefix_refl _ | exact List.prefix_append _ _

end Guarded

/-! ### One after the other -/

/-- Operations with their results, performed one after the other from the start, where `ok` allows
it. -/
inductive Traffic.Performed (ok : Traffic → DeviceOp → Prop) :
    List (DeviceOp × Except Exn Unit) → Traffic → Prop
  | nil : Performed ok [] .new
  | snoc {done : List (DeviceOp × Except Exn Unit)} {t : Traffic} {op : DeviceOp} :
    Performed ok done t → ok t op →
      Performed ok (done ++ [(op, (t.device.perform op).run.result)]) (t.perform op)

namespace Traffic.Performed

variable {done : List (DeviceOp × Except Exn Unit)} {t : Traffic}

lemma inStep {ok : Traffic → DeviceOp → Prop} (h : Performed ok done t) : t.InStep := by
  induction h with
  | nil => exact inStep_new
  | snoc _ _ ih => exact ih.perform _

lemma disciplined (h : Performed QueriesOpened done t) : Disciplined none t.calls := by
  induction h with
  | nil => trivial
  | snoc hdone hok ih =>
    exact disciplined_append.mpr ⟨ih, ((hdone.inStep.respects_iff _).mpr hok).1⟩

end Traffic.Performed

namespace Guarded

/-- The operations without a check of the status get the mutex of an open driver only. -/
def QueriesOpened (g : Guarded) (op : DeviceOp) : Prop := op.unchecked = true → g.status = .opened

instance (g : Guarded) (op : DeviceOp) : Decidable (g.QueriesOpened op) :=
  inferInstanceAs (Decidable (_ → _))

/-- `allowed` may ask more than `ok` of the operations that do not get to the mutex. -/
lemma performed_of_serial {ok : Guarded → DeviceOp → Prop} {allowed : Traffic → DeviceOp → Prop}
    {done : List (DeviceOp × Except Exn Unit)} {g : Guarded}
    (hok : ∀ t op, ok t.guarded op → allowed t op)
    (hrefused : ∀ t op, op.unchecked = false → allowed t op) (h : body.Serial ok new done g) :
    ∃ t, Traffic.Performed allowed done t ∧ t.guarded = g := by
  induction h with
  | nil => exact ⟨.new, .nil, rfl⟩
  | @refused _ _ op _ _ henter ih =>
    obtain ⟨t, hdone, rfl⟩ := ih
    obtain ⟨hchecked, hguarded, hresult⟩ := guarded_of_enter t henter
    exact ⟨t.perform op, hresult ▸ hdone.snoc (hrefused t op hchecked), hguarded⟩
  | @snoc _ _ _ op _ _ _ henter hallowed hends ih =>
    obtain ⟨t, hdone, rfl⟩ := ih
    obtain ⟨hguarded, hresult⟩ := hends.unique (ends_of_enter t henter)
    exact ⟨t.perform op, hresult ▸ hdone.snoc (hok t op hallowed), hguarded.symm⟩

variable {x : Shared Guarded DeviceOp AccessPoint (Except Exn Unit)}

/-- In the middle of an operation the calls so far begin those of the operation. -/
lemma disciplined_of_serialized {t : Traffic}
    (hx : x.Serialized body QueriesOpened new t.guarded)
    (hdone : Traffic.Performed Traffic.QueriesOpened (x.done.map Prod.snd) t) :
    Disciplined none x.state.calls := by
  cases hmutex : x.mutex with
  | none =>
    rw [hx.free hmutex]
    exact hdone.disciplined
  | some i =>
    obtain ⟨op, p, p₀, -, henter, hok, hends⟩ := hx.owned i hmutex
    obtain ⟨g, r, hrest⟩ := body.exists_ends rank_access p x.state
    have hprefix : x.state.calls <+: g.calls :=
      hrest.rel (fun g g' => g.calls <+: g'.calls) List.IsPrefix.trans calls_access
    rw [((hends g r hrest).unique (ends_of_enter t henter)).1] at hprefix
    obtain ⟨calls, hcalls⟩ := hprefix
    have hafter : Disciplined none (t.perform op).guarded.calls := (hdone.snoc hok).disciplined
    rw [← hcalls] at hafter
    exact (disciplined_append.mp hafter).1

/-- In every interleaving, the operations that are over have the results that they have one after
the other, and a driver whose mutex is free is as they leave it. When `getLogicalAddress` and
`getPhysicalAddress` get the mutex of an open driver only, then one after the other they are called
on an open driver only, and the sessions of the hardware layer are kept, in the middle of an
operation too. -/
theorem serializes {x : Shared Guarded DeviceOp AccessPoint (Except Exn Unit)}
    (h : Run (Shared.step body) (fun _ _ => True) (.new new) x) :
    (∃ t, Traffic.Performed (fun _ _ => True) (x.done.map Prod.snd) t ∧
      (x.mutex = none → x.state = t.guarded)) ∧
    (Run (Shared.step body) (Shared.Admits QueriesOpened) (.new new) x →
      (∃ t, Traffic.Performed Traffic.QueriesOpened (x.done.map Prod.snd) t ∧
        (x.mutex = none → x.state = t.guarded)) ∧
      Disciplined none x.state.calls) := by
  constructor
  · have hall : Run (Shared.step body) (Shared.Admits fun _ _ => True) (.new new) x :=
      h.mono fun y l _ => y.admits_true l
    obtain ⟨g, hx⟩ := Shared.serialized_of_run hall
    obtain ⟨t, hdone, rfl⟩ := performed_of_serial (fun _ _ => id) (fun _ _ _ => trivial) hx.serial
    exact ⟨t, hdone, hx.free⟩
  · intro hopened
    obtain ⟨g, hx⟩ := Shared.serialized_of_run hopened
    have hrefused : ∀ (t : Traffic) (op : DeviceOp), op.unchecked = false → t.QueriesOpened op :=
      fun _ op hchecked hunchecked => by simp [hchecked] at hunchecked
    obtain ⟨t, hdone, rfl⟩ := performed_of_serial (fun _ _ => id) hrefused hx.serial
    exact ⟨⟨t, hdone, hx.free⟩, disciplined_of_serialized hx hdone⟩

/-- A thread asks for the physical address and another one closes the driver while a third opens
it. -/
theorem serializes_open : ∃ x : Shared Guarded DeviceOp AccessPoint (Except Exn Unit),
    Run (Shared.step body) (Shared.Admits QueriesOpened) (.new new) x ∧
      x.done.length = 3 ∧ x.state.calls.length = 5 ∧
      (∃ t, Traffic.Performed (fun _ _ => True) (x.done.map Prod.snd) t ∧
        (x.mutex = none → x.state = t.guarded)) ∧
      (∃ t, Traffic.Performed Traffic.QueriesOpened (x.done.map Prod.snd) t ∧
        (x.mutex = none → x.state = t.guarded)) ∧
      Disciplined none x.state.calls := by
  obtain ⟨x, hrun, hx⟩ := Run.of_execSat
    (show execSat (Shared.step body) (Shared.Admits QueriesOpened)
      (fun x => x.done.length == 3 && x.state.calls.length == 5) (.new new)
      [.call 0 (.openDriver 7 0), .lock 0, .access 0, .call 1 (.getPhysicalAddress 0x1000),
        .access 0, .call 2 (.closeDriver 0), .access 0, .access 0, .access 0, .lock 1, .access 1,
        .lock 2, .access 2, .access 2, .access 2, .access 2] = true by decide)
  rw [Bool.and_eq_true, beq_iff_eq, beq_iff_eq] at hx
  obtain ⟨hall, hopened⟩ := serializes (hrun.mono fun _ _ _ => trivial)
  exact ⟨x, hrun, hx.1, hx.2, hall, hopened hrun⟩

end Guarded

end HdmiCec
