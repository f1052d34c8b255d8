import HdmiCec.Driver.Session

/-!
# The registry of logical addresses

`DriverImpl` keeps the logical addresses that it has added to the hardware layer, and
`isValidLogicalAddress` looks an address up there. The list should say what the hardware layer says:
an address is registered from the call of `HdmiCecAddLogicalAddress` that succeeds until it is
removed or a new session begins. It does not in two cases: `addLogicalAddress` registers an address
when the hardware layer has refused it with another error than the two that are looked for, and the
list survives the session it was made in.
-/

namespace HdmiCec

open Lib

/-! ### The addresses of the hardware layer -/

namespace HalCall

/-- The call adds the address. -/
def adds (a : ℕ) : HalCall → Bool
  | hdmiCecAddLogicalAddress _ a' err => a' = a ∧ err = DriverImpl.ioSuccess
  | _ => false

/-- The call removes the address, or begins a session without addresses. -/
def drops (a : ℕ) : HalCall → Bool
  | hdmiCecOpen _ err => err = DriverImpl.ioSuccess
  | hdmiCecRemoveLogicalAddress _ a' => a' = a
  | _ => false

/-- The call has nothing to do with the addresses. -/
def neutral : HalCall → Bool
  | hdmiCecOpen _ _ | hdmiCecRemoveLogicalAddress _ _ | hdmiCecAddLogicalAddress _ _ _ => false
  | _ => true

end HalCall

/-- Since the last successful `HdmiCecOpen`, the address was added with success and not removed
afterwards. -/
def Added (a : ℕ) (calls : List HalCall) : Prop :=
  ∃ earlier call later, calls = earlier ++ call :: later ∧ call.adds a = true ∧
    ∀ call' ∈ later, call'.drops a = false

variable {a : ℕ} {calls calls' : List HalCall} {call : HalCall}

lemma not_added_nil : ¬Added a [] := by
  rintro ⟨earlier, call, later, h, -⟩
  simp at h

lemma added_snoc :
    Added a (calls ++ [call]) ↔ call.adds a = true ∨ Added a calls ∧ call.drops a = false := by
  constructor
  · rintro ⟨earlier, added, later, h, hadds, hlater⟩
    rcases List.eq_nil_or_concat later with rfl | ⟨later', last, rfl⟩
    · obtain ⟨-, hcall⟩ := List.append_inj' h rfl
      cases hcall
      exact .inl hadds
    · rw [List.concat_eq_append, ← List.cons_append, ← List.append_assoc] at h
      obtain ⟨hcalls, hcall⟩ := List.append_inj' h rfl
      cases hcall
      refine .inr ⟨⟨earlier, added, later', hcalls, hadds, ?_⟩, ?_⟩
      · intro call' hcall'
        exact hlater call' (by simp [hcall'])
      · exact hlater call (by simp)
  · rintro (hadds | ⟨⟨earlier, added, later, rfl, hadds, hlater⟩, hdrops⟩)
    · exact ⟨calls, call, [], rfl, hadds, by simp⟩
    · refine ⟨earlier, added, later ++ [call], by simp, hadds, ?_⟩
      intro call' hcall'
      obtain hcall' | hcall' := List.mem_append.mp hcall'
      · exact hlater call' hcall'
      · rw [List.mem_singleton.mp hcall']
        exact hdrops

/-- Calls that have nothing to do with the addresses leave them as they are. -/
lemma added_append_of_neutral (h : ∀ call ∈ calls', call.neutral = true) :
    Added a (calls ++ calls') ↔ Added a calls := by
  induction calls' generalizing calls with
  | nil => rw [List.append_nil]
  | cons call calls' ih =>
    obtain ⟨hcall, hrest⟩ := List.forall_mem_cons.mp h
    have hadds : call.adds a = false := by cases call <;> first | rfl | cases hcall
    have hdrops : call.drops a = false := by cases call <;> first | rfl | cases hcall
    rw [← List.singleton_append, ← List.append_assoc, ih hrest, added_snoc, hadds, hdrops]
    simp

/-! ### The operations and the addresses -/

/-- The operation may change the registry or the addresses of the hardware layer. -/
def DeviceOp.registers : DeviceOp → Bool
  | openDriver _ _ | addLogicalAddress _ _ | removeLogicalAddress _ => true
  | _ => false

namespace Device

variable {d : Device} {op : DeviceOp}

lemma perform_of_not_registers (h : op.registers = false) :
    (d.perform op).device.logicalAddresses = d.logicalAddresses ∧
      ∀ call ∈ halCalls (d.perform op).run.log, call.neutral = true := by
  cases op with
  | openDriver handle err => cases h
  | addLogicalAddress source retErr => cases h
  | removeLogicalAddress source => cases h
  | closeDriver err =>
    obtain ⟨-, hdevice, hcalls⟩ | ⟨-, hdevice, hcalls⟩ := d.closeDriver_cases err
    · simp [perform, hdevice, hcalls]
    · simp [perform, hdevice, hcalls, HalCall.neutral]
  | write frame err sendResult =>
    exact ⟨rfl, forall_mem_halCalls (all_write d frame err sendResult rfl)⟩
  | writeAsync frame err =>
    refine ⟨rfl, forall_mem_halCalls ?_⟩
    simp only [perform, writeAsync, checkOpened, Logged.all_bind, all_lib, all_hal,
      HalCall.neutral, implies_true, and_self]
  | poll fromAddr toAddr err sendResult =>
    refine ⟨rfl, forall_mem_halCalls ?_⟩
    simp only [perform, poll, Logged.all_bind, all_lib, true_and]
    intro _ _ _ _ _ _ _ _ _ _ frame _
    exact all_write d frame err sendResult rfl
  | getLogicalAddress devType logicalAddress =>
    refine ⟨rfl, forall_mem_halCalls ?_⟩
    simp only [perform, Outcome.void, getLogicalAddress, Logged.all_bind, all_lib, all_hal,
      HalCall.neutral, Logged.all_pure, implies_true, and_self]
  | getPhysicalAddress physicalAddress =>
    refine ⟨rfl, forall_mem_halCalls ?_⟩
    simp only [perform, Outcome.void, getPhysicalAddress, Logged.all_bind, all_lib, all_hal,
      HalCall.neutral, Logged.all_pure, implies_true, and_self]

/-- `addLogicalAddress` on an open driver: the address is registered unless one of the two errors
is returned that are looked for. -/
lemma addLogicalAddress_of_opened (h : d.status = .opened) (source : UInt8) (retErr : ℤ) :
    halCalls (d.perform (.addLogicalAddress source retErr)).run.log
        = [.hdmiCecAddLogicalAddress d.nativeHandle source.toNat retErr] ∧
      (d.perform (.addLogicalAddress source retErr)).device.logicalAddresses
        = if retErr = DriverImpl.ioLogicalAddressUnavailable ∨ retErr = DriverImpl.ioGeneralError
          then d.logicalAddresses else d.logicalAddresses ++ [.ofByte source] := by
  refine ⟨?_, ?_⟩
  · simp only [perform, Outcome.void, addLogicalAddress, checkOpened_of_opened h, checkAdd]
    split
    · rfl
    · split <;> rfl
  · simp only [perform, Outcome.void, addLogicalAddress, h, ne_eq, not_true_eq_false, false_or]
    split <;> rfl

lemma removeLogicalAddress_of_opened (h : d.status = .opened) (source : UInt8) :
    halCalls (d.perform (.removeLogicalAddress source)).run.log
        = [.hdmiCecRemoveLogicalAddress d.nativeHandle source.toNat] ∧
      (d.perform (.removeLogicalAddress source)).device.logicalAddresses
        = d.logicalAddresses.filter (· ≠ .ofByte source) := by
  refine ⟨?_, ?_⟩
  · simp only [perform, removeLogicalAddress, checkOpened_of_opened h]
    rfl
  · simp only [perform, removeLogicalAddress, h, ne_eq, not_true_eq_false, if_false]

end Device

/-! ### Agreement -/

namespace Traffic

/-- The registry says of every address what the hardware layer says. -/
def Agrees (t : Traffic) : Prop :=
  ∀ a : UInt8, t.device.isValidLogicalAddress (.ofByte a) = true ↔ Added a.toNat t.calls

/-- A new session finds the registry empty, and an address that is refused with another error than
the two that `addLogicalAddress` looks for is registered already. -/
def RegistersCleanly (t : Traffic) : DeviceOp → Prop
  | .openDriver _ err =>
    t.device.status = .closed → err = DriverImpl.ioSuccess → t.device.logicalAddresses = []
  | .addLogicalAddress source retErr => t.device.status = .opened →
    retErr = DriverImpl.ioSuccess ∨ retErr = DriverImpl.ioLogicalAddressUnavailable ∨
      retErr = DriverImpl.ioGeneralError ∨ t.device.isValidLogicalAddress (.ofByte source) = true
  | _ => True

variable {t : Traffic} {op : DeviceOp} {source : UInt8} {retErr : ℤ}

lemma isValidLogicalAddress_iff {d : Device} {x : LogicalAddress} :
    d.isValidLogicalAddress x = true ↔ x ∈ d.logicalAddresses := by
  simp [Device.isValidLogicalAddress]

lemma ofByte_injective {x y : UInt8} (h : (.ofByte x : LogicalAddress) = .ofByte y) : x = y := by
  simpa [CECBytes.ofByte] using h

/-- An operation that changes neither side keeps the agreement. -/
lemma agrees_iff_of_unchanged
    (hlist : (t.device.perform op).device.logicalAddresses = t.device.logicalAddresses)
    (hcalls : ∀ call ∈ halCalls (t.device.perform op).run.log, call.neutral = true) :
    (t.perform op).Agrees ↔ t.Agrees := by
  apply forall_congr'
  intro a
  simp only [isValidLogicalAddress_iff, Traffic.perform, hlist, added_append_of_neutral hcalls]

lemma Agrees.openDriver_iff (h : t.Agrees) (handle err : ℤ)
    (hbytes : ∀ x ∈ t.device.logicalAddresses, ∃ b, x = .ofByte b) :
    (t.perform (.openDriver handle err)).Agrees ↔
      t.RegistersCleanly (.openDriver handle err) := by
  obtain ⟨hopened, hdevice, hcalls⟩ | ⟨-, herr, hdevice, hcalls⟩ | ⟨hclosed, herr, hdevice, hcalls⟩ :=
    t.device.openDriver_cases handle err
  · have hiff : (t.perform (.openDriver handle err)).Agrees ↔ t.Agrees := by
      apply agrees_iff_of_unchanged
      · simp only [Device.perform, hdevice]
      · simp [Device.perform, hcalls]
    exact ⟨fun _ hclosed => absurd hclosed hopened, fun _ => hiff.mpr h⟩
  · refine ⟨fun _ _ hsuccess => absurd hsuccess herr, fun _ a => ?_⟩
    simp only [isValidLogicalAddress_iff, Traffic.perform, Device.perform, hdevice, hcalls,
      added_snoc, HalCall.adds, HalCall.drops, herr]
    simpa [isValidLogicalAddress_iff] using h a
  · -- the new session has no addresses, whatever is in the list
    have hadded : ∀ a, ¬Added a (t.perform (.openDriver handle err)).calls := by
      intro a
      simp only [Traffic.perform, Device.perform, hcalls]
      rw [← List.singleton_append, ← List.append_assoc,
        added_append_of_neutral (by simp [HalCall.neutral]), added_snoc]
      simp [HalCall.adds, HalCall.drops, herr]
    have hlist : (t.perform (.openDriver handle err)).device.logicalAddresses
        = t.device.logicalAddresses := by
      simp only [Traffic.perform, Device.perform, hdevice]
    constructor
    · intro hagrees _ _
      apply List.eq_nil_iff_forall_not_mem.mpr
      intro x hx
      obtain ⟨b, rfl⟩ := hbytes x hx
      exact hadded _ ((hagrees b).mp (isValidLogicalAddress_iff.mpr (by rwa [hlist])))
    · intro hclean a
      rw [isValidLogicalAddress_iff, hlist, hclean hclosed herr]
      exact iff_of_false List.not_mem_nil (hadded _)

/-- What an `addLogicalAddress` of an open driver that does not throw makes of the two sides. -/
lemma Agrees.addLogicalAddress_iff_of_accepted (h : t.Agrees) (hopened : t.device.status = .opened)
    (haccepted : ¬(retErr = DriverImpl.ioLogicalAddressUnavailable ∨
      retErr = DriverImpl.ioGeneralError)) :
    (t.perform (.addLogicalAddress source retErr)).Agrees ↔
      retErr = DriverImpl.ioSuccess ∨
        t.device.isValidLogicalAddress (.ofByte source) = true := by
  obtain ⟨hcalls, hlist⟩ := t.device.addLogicalAddress_of_opened hopened source retErr
  rw [if_neg haccepted] at hlist
  have hadded : ∀ a : UInt8, Added a.toNat (t.perform (.addLogicalAddress source retErr)).calls ↔
      (source = a ∧ retErr = DriverImpl.ioSuccess) ∨ Added a.toNat t.calls := by
    intro a
    simp only [Traffic.perform, hcalls, added_snoc]
    simp [HalCall.adds, HalCall.drops, UInt8.toNat_inj]
  have hmem : ∀ a : UInt8,
      ((t.perform (.addLogicalAddress source retErr)).device.isValidLogicalAddress (.ofByte a)
        = true) ↔ source = a ∨ Added a.toNat t.calls := by
    intro a
    rw [← h a, isValidLogicalAddress_iff, isValidLogicalAddress_iff]
    simp only [Traffic.perform, hlist, List.mem_append, List.mem_singleton]
    rw [or_comm]
    refine or_congr_left ⟨fun heq => (ofByte_injective heq).symm, ?_⟩
    rintro rfl
    rfl
  constructor
  · intro hagrees
    have hsource := (hagrees source).mp ((hmem source).mpr (.inl rfl))
    obtain ⟨-, hsuccess⟩ | hbefore := (hadded source).mp hsource
    · exact .inl hsuccess
    · exact .inr ((h source).mpr hbefore)
  · intro hcond a
    rw [hmem, hadded]
    constructor
    · rintro (rfl | hbefore)
      · exact hcond.imp (fun hsuccess => ⟨rfl, hsuccess⟩) (h source).mp
      · exact .inr hbefore
    · exact Or.imp_left And.left

lemma Agrees.addLogicalAddress_iff (h : t.Agrees) (source : UInt8) (retErr : ℤ) :
    (t.perform (.addLogicalAddress source retErr)).Agrees ↔
      t.RegistersCleanly (.addLogicalAddress source retErr) := by
  by_cases hopened : t.device.status = .opened
  · by_cases hrefused : retErr = DriverImpl.ioLogicalAddressUnavailable ∨
        retErr = DriverImpl.ioGeneralError
    · obtain ⟨hcalls, hlist⟩ := t.device.addLogicalAddress_of_opened hopened source retErr
      rw [if_pos hrefused] at hlist
      refine ⟨fun _ _ => ?_, fun _ a => ?_⟩
      · exact .inr (hrefused.imp_right .inl)
      · rw [isValidLogicalAddress_iff]
        simp only [Traffic.perform, hcalls, hlist, added_snoc, HalCall.adds, HalCall.drops]
        have herr : retErr ≠ DriverImpl.ioSuccess := by
          obtain rfl | rfl := hrefused <;> decide
        simpa [herr, isValidLogicalAddress_iff] using h a
    · rw [h.addLogicalAddress_iff_of_accepted hopened hrefused]
      rw [not_or] at hrefused
      simp [RegistersCleanly, hopened, hrefused]
  · have hrefused : Device.Refused (t.device.perform (.addLogicalAddress source retErr)).run :=
      Device.perform_of_not_opened rfl rfl hopened
    refine ⟨fun _ hopened' => absurd hopened' hopened, fun _ => (agrees_iff_of_unchanged ?_ ?_).mpr h⟩
    · simp only [Device.perform, Outcome.void, Device.addLogicalAddress, ne_eq, hopened,
        not_false_eq_true, true_or, if_true]
    · simp [hrefused.2]

lemma Agrees.removeLogicalAddress (h : t.Agrees) (source : UInt8) :
    (t.perform (.removeLogicalAddress source)).Agrees := by
  by_cases hopened : t.device.status = .opened
  · obtain ⟨hcalls, hlist⟩ := t.device.removeLogicalAddress_of_opened hopened source
    have hne : ∀ a : UInt8, (.ofByte a : LogicalAddress) ≠ .ofByte source ↔
        source.toNat ≠ a.toNat := by
      intro a
      rw [not_iff_not, UInt8.toNat_inj]
      exact ⟨fun heq => (ofByte_injective heq).symm, by rintro rfl; rfl⟩
    intro a
    rw [isValidLogicalAddress_iff]
    simp only [Traffic.perform, hcalls, hlist, added_snoc, HalCall.adds, HalCall.drops,
      List.mem_filter, ← h a, isValidLogicalAddress_iff, Bool.false_eq_true, false_or,
      decide_eq_true_eq, decide_eq_false_iff_not, hne]
  · have hrefused : Device.Refused (t.device.perform (.removeLogicalAddress source)).run :=
      Device.perform_of_not_opened rfl rfl hopened
    refine (agrees_iff_of_unchanged ?_ ?_).mpr h
    · simp only [Device.perform, Device.removeLogicalAddress, ne_eq, hopened, not_false_eq_true,
        if_true]
    · simp [hrefused.2]

/-- Only addresses are registered. -/
lemma registered_ofByte (h : ∀ x ∈ t.device.logicalAddresses, ∃ b, x = .ofByte b) (op : DeviceOp) :
    ∀ x ∈ (t.perform op).device.logicalAddresses, ∃ b, x = .ofByte b := by
  cases hop : op.registers with
  | false =>
    simp only [Traffic.perform, (Device.perform_of_not_registers hop).1]
    exact h
  | true =>
    cases op with
    | openDriver handle err =>
      obtain ⟨-, hdevice, -⟩ | ⟨-, -, hdevice, -⟩ | ⟨-, -, hdevice, -⟩ :=
        t.device.openDriver_cases handle err <;>
        simpa only [Traffic.perform, Device.perform, hdevice] using h
    | addLogicalAddress source retErr =>
      simp only [Traffic.perform, Device.perform, Outcome.void, Device.addLogicalAddress]
      split
      · exact h
      · intro x hx
        obtain hx | hx := List.mem_append.mp hx
        · exact h x hx
        · exact ⟨source, List.mem_singleton.mp hx⟩
    | removeLogicalAddress source =>
      simp only [Traffic.perform, Device.perform, Device.removeLogicalAddress]
      split
      · exact h
      · exact fun x hx => h x (List.mem_filter.mp hx).1
    | _ => cases hop

lemma Agrees.perform_iff (h : t.Agrees)
    (hbytes : ∀ x ∈ t.device.logicalAddresses, ∃ b, x = .ofByte b) (op : DeviceOp) :
    (t.perform op).Agrees ↔ t.RegistersCleanly op := by
  cases hop : op.registers with
  | false =>
    obtain ⟨hlist, hcalls⟩ := t.device.perform_of_not_registers hop
    rw [agrees_iff_of_unchanged hlist hcalls]
    cases op <;> first | exact iff_of_true h trivial | cases hop
  | true =>
    cases op with
    | openDriver handle err => exact h.openDriver_iff handle err hbytes
    | addLogicalAddress source retErr => exact h.addLogicalAddress_iff source retErr
    | removeLogicalAddress source => exact iff_of_true (h.removeLogicalAddress source) trivial
    | _ => cases hop

/-- In every run in which a new session finds the registry empty and `addLogicalAddress` meets only
the errors it looks for (or an address that is registered already), the registry agrees with the
hardware layer; and any further operation keeps it in agreement exactly when it meets that
condition. -/
theorem registry_agrees {t : Traffic} (h : Run Traffic.step RegistersCleanly .new t) :
    t.Agrees ∧ ∀ op, (t.perform op).Agrees ↔ t.RegistersCleanly op := by
  have hboth : t.Agrees ∧ ∀ x ∈ t.device.logicalAddresses, ∃ b, x = .ofByte b := by
    apply h.invariant
      (I := fun t => t.Agrees ∧ ∀ x ∈ t.device.logicalAddresses, ∃ b, x = .ofByte b)
    · rintro t op t' hok hstep ⟨hagrees, hbytes⟩
      cases hstep
      exact ⟨(hagrees.perform_iff hbytes op).mpr hok, registered_ofByte hbytes op⟩
    · exact ⟨fun a => iff_of_false (by simp [Traffic.new, Device.new, Device.isValidLogicalAddress])
        not_added_nil, by simp [Traffic.new, Device.new]⟩
  exact ⟨hboth.1, hboth.1.perform_iff hboth.2⟩

/-- A driver that is opened and has added the address 4. -/
theorem registry_agrees_on_playback :
    ∃ t, Run Traffic.step RegistersCleanly .new t ∧
      t.device.isValidLogicalAddress (.ofByte 4) = true ∧ Added 4 t.calls := by
  have hrun : Run Traffic.step RegistersCleanly .new
      ((Traffic.new.perform (.openDriver 7 0)).perform (.addLogicalAddress 4 0)) :=
    .tail (l := .addLogicalAddress 4 0)
      (.tail (l := .openDriver 7 0) .refl (fun _ _ => rfl) rfl) (fun _ => .inl rfl) rfl
  exact ⟨_, hrun, rfl, ((registry_agrees hrun).1 4).mp rfl⟩

/-- The hardware layer refuses the address 4 with `HDMI_CEC_IO_INVALID_STATE`, and it is registered
all the same. -/
theorem registry_disagrees :
    ¬∀ t, Run Traffic.step (fun _ _ => True) .new t → t.Agrees := by
  intro h
  have hadded := (h ((Traffic.new.perform (.openDriver 7 0)).perform (.addLogicalAddress 4 6))
    (.tail (.tail .refl trivial rfl) trivial rfl) 4).mp rfl
  obtain ⟨earlier, call, later, hcalls, hadds, -⟩ := hadded
  have hmem : call ∈ [HalCall.hdmiCecOpen 7 0, .hdmiCecSetRxCallback 7, .hdmiCecSetTxCallback 7,
      .hdmiCecAddLogicalAddress 7 4 6] := by
    change call ∈ (((Traffic.new.perform (.openDriver 7 0)).perform
      (.addLogicalAddress 4 6)).calls)
    rw [hcalls]
    simp
  simp only [List.mem_cons, List.not_mem_nil, or_false] at hmem
  rcases hmem with rfl | rfl | rfl | rfl <;> cases hadds

end Traffic

end HdmiCec
