import HdmiCec.Driver.Reception

/-!
# What becomes of a write

`DriverImpl::write` in closed form, for a frame that has a header: what it raises, in terms of the
status of the driver and of what `HdmiCecTx` returned and set, and whether `HdmiCecTx` was called.
-/

namespace HdmiCec

open Lib

/-- The low nibble of the first byte is 15. -/
def CECFrame.IsBroadcast (frame : CECFrame) : Prop := (frame.bytes.getD 0 0).toNat % 16 = 15

/-- A frame with the opcode `REPORT_PHYSICAL_ADDRESS`. -/
def CECFrame.IsAddressReport (frame : CECFrame) : Prop :=
  1 < frame.length ∧ (frame.bytes.getD 1 0).toNat = Op.reportPhysicalAddress

instance (frame : CECFrame) : Decidable frame.IsBroadcast :=
  inferInstanceAs (Decidable (_ = _))

instance (frame : CECFrame) : Decidable frame.IsAddressReport :=
  inferInstanceAs (Decidable (_ ∧ _))

namespace DriverImpl

/-- The send results that `write` raises for. -/
def IsRefused (sendResult : ℤ) : Prop :=
  sendResult = ioInvalidHandle ∨ sendResult = ioInvalidArgument ∨
    sendResult = ioLogicalAddressUnavailable ∨ sendResult = ioSentFailed ∨
    sendResult = ioGeneralError

instance (sendResult : ℤ) : Decidable (IsRefused sendResult) :=
  inferInstanceAs (Decidable (_ ∨ _))

/-- Somebody has to acknowledge the frame: it is no broadcast, or it reports a physical address. -/
def NeedsAck (frame : CECFrame) : Prop := ¬ frame.IsBroadcast ∨ frame.IsAddressReport

instance (frame : CECFrame) : Decidable (NeedsAck frame) := inferInstanceAs (Decidable (_ ∨ _))

section

variable {f : CECFrame} {status : Status} {err sendResult : ℤ}

lemma isBroadcast_eq (h : 1 ≤ f.length) : isBroadcast f = pure (decide f.IsBroadcast) := by
  have hmask (b : UInt8) : b &&& 0x0F = 0x0F ↔ b.toNat % 16 = 15 := by
    rw [← UInt8.toNat_inj, UInt8.toNat_and]
    exact iff_of_eq (congrArg (· = 15) (Nat.and_two_pow_sub_one_eq_mod b.toNat 4))
  rw [isBroadcast, CECFrame.byteAt_of_lt h, pure_bind]
  exact congrArg pure (decide_eq_decide.mpr (hmask _))

lemma isAddressReport_eq :
    andAlso (pure (decide (f.length > 1))) (isReportPhysicalAddress f) =
      pure (decide f.IsAddressReport) := by
  have hmask (b : UInt8) : b &&& 0xFF = b := by
    rw [← UInt8.toNat_inj, UInt8.toNat_and]
    exact (Nat.and_two_pow_sub_one_eq_mod b.toNat 8).trans (Nat.mod_eq_of_lt b.toNat_lt)
  by_cases hlen : 1 < f.length
  · rw [isReportPhysicalAddress, CECFrame.byteAt_of_lt hlen]
    simp [andAlso, hlen, hmask, CECFrame.IsAddressReport]
  · simp [andAlso, hlen, CECFrame.IsAddressReport]

lemma result_checkAck (h : 1 ≤ f.length) :
    (checkAck f sendResult).result =
      if sendResult = ioSentButNotAckd ∧ NeedsAck f then .error .cecNoAck else .ok () := by
  have hboth : andAlso (pure (decide f.IsBroadcast)) (pure (decide f.IsAddressReport)) =
      pure (decide (f.IsBroadcast ∧ f.IsAddressReport)) := by
    by_cases hb : f.IsBroadcast <;> simp [andAlso, hb]
  simp only [checkAck, isBroadcast_eq h, isAddressReport_eq, hboth, pure_bind, NeedsAck]
  by_cases hsr : sendResult = ioSentButNotAckd <;> by_cases hb : f.IsBroadcast <;>
    by_cases hr : f.IsAddressReport <;> simp [hsr, hb, hr]

/-- A check that raises, and what comes after it. -/
lemma result_check {α : Type} {c : Prop} [Decidable c] {e : Exn}
    {k : Unit → Logged Exn WriteEvent α} :
    (lib (if c then .raise e else pure ()) >>= k).result =
      if c then .error e else (k ()).result := by
  split
  · rfl
  · exact Logged.result_bind_of_ok rfl

lemma checkSendResult_eq :
    checkSendResult sendResult = if IsRefused sendResult then .raise .io else pure () := rfl

/-- `write` in closed form. -/
lemma result_write (h : 1 ≤ f.length) :
    (write status err sendResult f).result =
      if status ≠ .opened then .error .invalidState
      else if err ≠ ioSuccess ∨ IsRefused sendResult then .error .io
      else if sendResult = ioSentButNotAckd ∧ NeedsAck f then .error .cecNoAck
      else .ok () := by
  have hprint : (lib (printFrameDetails f)).result = .ok () := printFrameDetails_returns h
  have hdump : (lib (dumpBuffer f.bytes)).result = .ok () := result_dumpBuffer _
  have hack : (do
      lib (checkAck f sendResult)
      lib (ccecLog logDebug "Send Completed\r\n")).result =
      if sendResult = ioSentButNotAckd ∧ NeedsAck f then .error .cecNoAck else .ok () := by
    have hresult : (lib (checkAck f sendResult)).result = _ := result_checkAck h
    by_cases hneeds : sendResult = ioSentButNotAckd ∧ NeedsAck f
    · rw [if_pos hneeds] at hresult ⊢
      exact Logged.result_bind_of_error hresult
    · rw [if_neg hneeds] at hresult ⊢
      exact Logged.result_bind_of_ok hresult
  rw [write, Logged.result_bind_of_ok hprint, result_check, Logged.result_bind_of_ok rfl,
    Logged.result_bind_of_ok rfl, Logged.result_bind_of_ok rfl, Logged.result_bind_of_ok hdump,
    Logged.result_bind_of_ok rfl, Logged.result_bind_of_ok rfl, checkErr, result_check,
    checkSendResult_eq, result_check, hack]
  by_cases herr : err = ioSuccess
  · simp [herr]
  · simp [herr]

/-- `write` returns for every send result that is not in its list, acknowledgements apart. -/
lemma write_returns_iff (h : 1 ≤ f.length) :
    (write status err sendResult f).result = .ok () ↔
      status = .opened ∧ err = ioSuccess ∧ ¬ IsRefused sendResult ∧
        (sendResult = ioSentButNotAckd → f.IsBroadcast ∧ ¬ f.IsAddressReport) := by
  have hack : ¬ (sendResult = ioSentButNotAckd ∧ NeedsAck f) ↔
      (sendResult = ioSentButNotAckd → f.IsBroadcast ∧ ¬ f.IsAddressReport) := by
    rw [not_and, NeedsAck, not_or, not_not]
  rw [result_write h, ← hack]
  split_ifs with hopen hrefused hnoack
  · simp [hopen]
  · rw [iff_false_left (by decide)]
    rintro ⟨-, herr, hlisted, -⟩
    exact hrefused.elim (· herr) hlisted
  · simp [hnoack]
  · rw [not_or, not_not] at hrefused
    exact iff_of_true rfl ⟨not_not.mp hopen, hrefused.1, hrefused.2, hnoack⟩

/-- Writing a frame that has a header raises the library's exceptions only. -/
lemma write_raisesOnly (h : 1 ≤ f.length) :
    (write status err sendResult f).RaisesOnly (·.isException = true) := by
  intro e he
  rw [result_write h] at he
  split_ifs at he <;> cases he <;> rfl

/-- `HdmiCecTx` is called exactly when the driver is open. -/
lemma seen_write {β : Type} {g : WriteEvent → Option β} (hg : ∀ e, g (.lib e) = none)
    (h : 1 ≤ f.length) :
    (write status err sendResult f).seen g =
      if status = .opened then (g (.hdmiCecTx f.bytes)).toList else [] := by
  have hlib : ∀ {α : Type} (m : Ccec α), (lib m).All fun o => g o = none := by
    intro α m o ho
    obtain ⟨e, -, rfl⟩ := List.mem_map.mp ho
    exact hg e
  have hnil : ∀ {α : Type} (m : Ccec α), (lib m).seen g = [] := fun m => Logged.seen_eq_nil (hlib m)
  have hprint : (lib (printFrameDetails f)).result = .ok () := printFrameDetails_returns h
  rw [write, Logged.seen_bind_of_ok hprint, hnil, List.nil_append]
  by_cases hopen : status = .opened
  · subst hopen
    rw [Logged.seen_bind_of_ok rfl, hnil, Logged.seen_bind_of_ok rfl, hnil,
      Logged.seen_bind_of_ok rfl, Logged.seen_emit, if_pos rfl]
    -- nothing behind the call is seen
    refine (congrArg (_ ++ ·) (Logged.seen_eq_nil ?_)).trans (List.append_nil _)
    simp only [Logged.all_bind, hlib, implies_true, and_self]
  · have hstatus : (lib (if status ≠ .opened then .raise .invalidState else pure ())).result =
        .error .invalidState := by
      rw [if_pos hopen]
      rfl
    rw [Logged.seen_bind_of_error hstatus, hnil, if_neg hopen]

end

end DriverImpl

end HdmiCec
