import HdmiCec.Sending.Retry

/-!
# Sends that are reported as successful

A send should return only when the hardware layer says that the frame was acknowledged, or that it
was a broadcast. `DriverImpl::write` raises for the failures that it lists; a send result that is
not in its list is taken for a success.
-/

namespace HdmiCec

open Lib

/-- The calls of `HdmiCecTx`. -/
def SendEvent.transmitted : SendEvent → Option (List UInt8)
  | .hdmiCecTx bytes => some bytes
  | _ => none

namespace Bus

open DriverImpl

/-! ### The answers of the hardware layer -/

/-- The attempt gets as far as `HdmiCecTx`. -/
def Attempt.transmits (now : Attempt) : Bool := now.started && now.status = .opened

/-- `HdmiCecTx` returned without an error, and the frame was acknowledged, or it was a broadcast
that needs no acknowledgement. -/
def Attempt.Acknowledged (frame : CECFrame) (now : Attempt) : Prop :=
  now.err = ioSuccess ∧ (now.sendResult = ioSuccess ∨
    now.sendResult = ioSentButNotAckd ∧ frame.IsBroadcast ∧ ¬ frame.IsAddressReport)

/-- `HdmiCecTx` returned without an error, but with a send result that is neither a success nor one
of the failures in the list. -/
def Attempt.Unlisted (now : Attempt) : Prop :=
  now.err = ioSuccess ∧ now.sendResult ≠ ioSuccess ∧ now.sendResult ≠ ioSentButNotAckd ∧
    ¬ IsRefused now.sendResult

section

variable {attempts : ℕ → Attempt} {now : Attempt} {frame : CECFrame} {timeout : ℤ}

lemma not_refused_of_acknowledged (h : now.Acknowledged frame) : ¬ IsRefused now.sendResult := by
  rcases h.2 with hsr | ⟨hsr, -⟩
  · rw [hsr]
    decide
  · rw [hsr]
    decide

lemma not_unlisted_of_acknowledged (h : now.Acknowledged frame) : ¬ now.Unlisted := by
  rintro ⟨-, hne, hne', -⟩
  rcases h.2 with hsr | ⟨hsr, -⟩
  · exact hne hsr
  · exact hne' hsr

/-- An attempt succeeds when the frame is acknowledged, and also with a send result that is not in
the list. -/
lemma succeeds_iff_answer (h : 1 ≤ frame.length) (i : ℕ) :
    succeeds attempts frame i = true ↔ (attempts i).transmits = true ∧
      ((attempts i).Acknowledged frame ∨ (attempts i).Unlisted) := by
  have hnow : (sendNow (attempts i) frame).result = .ok () ↔ (attempts i).started = true ∧
      (DriverImpl.write (attempts i).status (attempts i).err (attempts i).sendResult frame).result =
        .ok () := by
    rw [result_sendNow h]
    cases (attempts i).started <;> simp
  rw [succeeds_iff, hnow, write_returns_iff h, Attempt.transmits, Bool.and_eq_true,
    decide_eq_true_eq, and_assoc]
  refine and_congr_right fun _ => and_congr_right fun _ => ?_
  constructor
  · rintro ⟨herr, hrefused, hack⟩
    by_cases hzero : (attempts i).sendResult = ioSuccess
    · exact .inl ⟨herr, .inl hzero⟩
    · by_cases hone : (attempts i).sendResult = ioSentButNotAckd
      · exact .inl ⟨herr, .inr ⟨hone, hack hone⟩⟩
      · exact .inr ⟨herr, hzero, hone, hrefused⟩
  · rintro (hack | ⟨herr, -, hone, hrefused⟩)
    · refine ⟨hack.1, not_refused_of_acknowledged hack, fun hone => ?_⟩
      rcases hack.2 with hzero | ⟨-, hbroadcast⟩
      · exact absurd (hzero.symm.trans hone) (by decide)
      · exact hbroadcast
    · exact ⟨herr, hrefused, fun hone' => absurd hone' hone⟩

/-! ### The last call -/

/-- The `i`th attempt makes the last call of `HdmiCecTx` of a run: as many attempts up to it get
that far as there are calls in the run. -/
def LastTransmission {α : Type} (attempts : ℕ → Attempt) (run : Logged Exn SendEvent α) (i : ℕ) :
    Prop :=
  (attempts i).transmits = true ∧
    ((List.range (i + 1)).filter fun j => (attempts j).transmits).length =
      (run.seen SendEvent.transmitted).length

/-- A send that returns has had an acknowledgement from its last call of `HdmiCecTx`. -/
def SuccessAcknowledged (attempts : ℕ → Attempt) (frame : CECFrame) (timeout : ℤ) : Prop :=
  (send attempts frame timeout).result = .ok () →
    ∃ i, LastTransmission attempts (send attempts frame timeout) i ∧
      (attempts i).Acknowledged frame

/-- The calls of `HdmiCecTx`: one for each attempt that gets that far. -/
lemma seen_transmitted (h : 1 ≤ frame.length) :
    (send attempts frame timeout).seen SendEvent.transmitted =
      ((List.range (attemptsMade attempts frame timeout)).filter fun i =>
        (attempts i).transmits).map fun _ => frame.bytes := by
  have hquiet : Quiet SendEvent.transmitted := ⟨fun _ => rfl, fun _ _ => rfl⟩
  refine seen_send_filter hquiet (fun _ => rfl) h fun i => ?_
  rw [seen_sendNow hquiet h, Attempt.transmits]
  cases (attempts i).started with
  | true => by_cases hopen : (attempts i).status = .opened <;> simp [hopen, SendEvent.transmitted]
  | false => rfl

/-- Later attempts that get as far count more. -/
lemma count_transmits_lt {i j : ℕ} (hij : i < j) (hj : (attempts j).transmits = true) :
    ((List.range (i + 1)).filter fun k => (attempts k).transmits).length <
      ((List.range (j + 1)).filter fun k => (attempts k).transmits).length := by
  have hsub : (List.range (i + 1)).Sublist (List.range j) := List.range_sublist.mpr hij
  have hle := (hsub.filter fun k => (attempts k).transmits).length_le
  rw [List.range_succ (n := j), List.filter_append, List.length_append]
  have hone : ([j].filter fun k => (attempts k).transmits).length = 1 := by simp [hj]
  omega

/-- The last call of a send that returns is that of its last attempt. -/
lemma lastTransmission_iff (h : 1 ≤ frame.length)
    (hlast : (attempts (attemptsMade attempts frame timeout - 1)).transmits = true) {i : ℕ} :
    LastTransmission attempts (send attempts frame timeout) i ↔
      i = attemptsMade attempts frame timeout - 1 := by
  have hmade := attemptsMade_pos attempts frame timeout
  have hcount : ((send attempts frame timeout).seen SendEvent.transmitted).length =
      ((List.range (attemptsMade attempts frame timeout - 1 + 1)).filter fun k =>
        (attempts k).transmits).length := by
    rw [seen_transmitted h, List.length_map, Nat.sub_add_cancel hmade]
  rw [LastTransmission, hcount]
  generalize attemptsMade attempts frame timeout - 1 = last at hlast ⊢
  constructor
  · rintro ⟨hi, hlen⟩
    rcases Nat.lt_trichotomy i last with hlt | heq | hgt
    · exact absurd hlen (count_transmits_lt hlt hlast).ne
    · exact heq
    · exact absurd hlen (count_transmits_lt hgt hi).ne'
  · rintro rfl
    exact ⟨hlast, rfl⟩

end

/-- A send that returns was acknowledged exactly when none of the attempts that its timeout allows
gets a send result outside the list, unless an earlier one was acknowledged. -/
theorem success_acknowledged_iff (attempts : ℕ → Attempt) (frame : CECFrame) (h : 1 ≤ frame.length)
    (timeout : ℤ) :
    SuccessAcknowledged attempts frame timeout ↔
      ∀ i < attemptsAllowed timeout, (attempts i).transmits = true → (attempts i).Unlisted →
        ∃ j < i, (attempts j).transmits = true ∧ (attempts j).Acknowledged frame := by
  constructor
  · intro hack i hi htransmits hunlisted
    have hsucceeds := (succeeds_iff_answer h i).mpr ⟨htransmits, .inr hunlisted⟩
    have hlast := exists_succeeds_iff.mpr ⟨i, hi, hsucceeds⟩
    have hok : (send attempts frame timeout).result = .ok () := by
      rw [result_send h]
      exact succeeds_iff.mp hlast
    obtain ⟨k, hk, hacknowledged⟩ := hack hok
    have htransmits' := ((succeeds_iff_answer h _).mp hlast).1
    rw [lastTransmission_iff h htransmits'] at hk
    subst hk
    refine ⟨_, ?_, htransmits', hacknowledged⟩
    have hle := attemptsMade_le_of_succeeds timeout hsucceeds
    have hne : attemptsMade attempts frame timeout - 1 ≠ i := by
      rintro rfl
      exact not_unlisted_of_acknowledged hacknowledged hunlisted
    omega
  · intro hcondition hok
    rw [result_send h] at hok
    obtain ⟨htransmits, hanswer⟩ := (succeeds_iff_answer h _).mp (succeeds_iff.mpr hok)
    refine ⟨_, (lastTransmission_iff h htransmits).mpr rfl, ?_⟩
    rcases hanswer with hacknowledged | hunlisted
    · exact hacknowledged
    · have hmade := attemptsMade_pos attempts frame timeout
      have hle := attemptsMade_le attempts frame timeout
      obtain ⟨j, hj, htransmits', hacknowledged⟩ := hcondition _ (by omega) htransmits hunlisted
      have hfirst := attemptsMade_le_of_succeeds timeout
        ((succeeds_iff_answer h j).mpr ⟨htransmits', .inl hacknowledged⟩)
      omega

/-- The second attempt is acknowledged, and the send returns after it. -/
theorem success_acknowledged_second :
    SuccessAcknowledged (fun i => ⟨true, .opened, 0, if i = 0 then 1 else 0⟩)
      ⟨[0x40, 0x04], by decide⟩ 500 := by
  apply (success_acknowledged_iff _ ⟨[0x40, 0x04], by decide⟩ (by decide) 500).mpr
  rintro i - - ⟨-, hzero, hone, -⟩
  dsimp only at hzero hone
  split at hone
  · exact absurd rfl hone
  · rename_i hi
    rw [if_neg hi] at hzero
    exact absurd rfl hzero

/-- The send result `HDMI_CEC_IO_INVALID_STATE` is taken for a success. -/
theorem invalid_state_reported_as_success :
    ¬ SuccessAcknowledged (fun _ => ⟨true, .opened, 0, 6⟩) ⟨[0x40, 0x04], by decide⟩ 0 := by
  intro h
  obtain ⟨i, -, -, hzero | ⟨hone, -⟩⟩ := h (by decide +kernel)
  · have hfalse : (6 : ℤ) = 0 := hzero
    exact absurd hfalse (by decide)
  · have hfalse : (6 : ℤ) = 1 := hone
    exact absurd hfalse (by decide)

end Bus

end HdmiCec
