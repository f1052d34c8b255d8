import HdmiCec.Operands.Basic

/-!
# Extracting an operand from a frame

The clamp of `CECBytes(frame, startPos, len)` is written with wrapping arithmetic. It does what it
is meant to do exactly when the operand starts inside the frame or at its end.
-/

namespace HdmiCec

open Lib

/-- The bytes an operand copies lie in the frame, in order. -/
def Event.InRange : Event → Prop
  | .extract first last size => first ≤ last ∧ last ≤ size
  | _ => True

instance (e : Event) : Decidable e.InRange := by
  cases e <;> unfold Event.InRange <;> infer_instance

namespace CECBytes

variable {c : OperandClass} {frame : CECFrame} {startPos len : ℕ}

/-- The end of the range that `CECBytes(frame, startPos, len)` copies. -/
def clampedEnd (frameLen startPos len : ℕ) : ℕ :=
  sizeAdd startPos (if sizeAdd startPos len > frameLen then sizeSub frameLen startPos else len)

/-- The clamped range is in order exactly when the operand starts in the frame or at its end and
`startPos + len` does not wrap. -/
lemma le_clampedEnd_iff {frameLen : ℕ} (hf : frameLen ≤ 128) (hs : startPos < 2 ^ 64)
    (hl : len < 2 ^ 64) :
    startPos ≤ clampedEnd frameLen startPos len ↔ startPos ≤ frameLen ∧ startPos + len < 2 ^ 64 := by
  unfold clampedEnd sizeAdd sizeSub
  by_cases h : (startPos + len) % 2 ^ 64 > frameLen
  · rw [if_pos h]; omega
  · rw [if_neg h]; omega

lemma clampedEnd_le {frameLen : ℕ} (hf : frameLen ≤ 128) (hs : startPos < 2 ^ 64) :
    clampedEnd frameLen startPos len ≤ frameLen := by
  unfold clampedEnd sizeAdd sizeSub
  by_cases h : (startPos + len) % 2 ^ 64 > frameLen
  · rw [if_pos h]; omega
  · rw [if_neg h]; omega

lemma clampedEnd_of_le {frameLen : ℕ} (hf : frameLen ≤ 128) (hs : startPos ≤ frameLen)
    (hl : startPos + len < 2 ^ 64) :
    clampedEnd frameLen startPos len = min (startPos + len) frameLen := by
  unfold clampedEnd sizeAdd sizeSub
  by_cases h : (startPos + len) % 2 ^ 64 > frameLen
  · rw [if_pos h]; omega
  · rw [if_neg h]; omega

lemma ofFrame_eq_insertRange :
    (ofFrame frame startPos len : Ccec (CECBytes c))
      = insertRange frame startPos (clampedEnd frame.length startPos len) >>= fun str =>
          if (⟨str⟩ : CECBytes c).validate CECFrame.maxLength then pure ⟨str⟩
          else .raise .invalidParam := rfl

lemma insertRange_of_le {first last : ℕ} (h : first ≤ last) :
    insertRange frame first last
      = ⟨.ok ((frame.bytes.drop first).take (last - first)), [.extract first last frame.length]⟩ := by
  simp only [insertRange, if_neg (Nat.not_lt.mpr h)]
  rfl

lemma insertRange_of_lt {first last : ℕ} (h : last < first) :
    insertRange frame first last
      = ⟨.error (.lengthError "vector::_M_range_insert"), [.extract first last frame.length]⟩ := by
  simp only [insertRange, if_pos h]
  rfl

/-- Constructing an operand logs its one range, whatever comes of it. -/
lemma log_ofFrame : (ofFrame frame startPos len : Ccec (CECBytes c)).log
    = [.extract startPos (clampedEnd frame.length startPos len) frame.length] := by
  rw [ofFrame_eq_insertRange]
  by_cases h : startPos ≤ clampedEnd frame.length startPos len
  · rw [Logged.log_bind_of_ok (by rw [insertRange_of_le h])]
    split_ifs <;> simp [insertRange_of_le h]
  · have h' : clampedEnd frame.length startPos len < startPos := Nat.not_le.mp h
    rw [Logged.log_bind_of_error (by rw [insertRange_of_lt h'])]
    rw [insertRange_of_lt h']

/-- The range is in order and in the frame exactly when the operand starts in the frame or at its
end. -/
lemma all_inRange_ofFrame (hs : startPos < 2 ^ 64) (hl : len < 2 ^ 64) :
    (ofFrame frame startPos len : Ccec (CECBytes c)).All Event.InRange
      ↔ startPos ≤ frame.length ∧ startPos + len < 2 ^ 64 := by
  have hf : frame.length ≤ 128 := frame.length_le
  simp only [Logged.All, log_ofFrame, List.mem_singleton, forall_eq, Event.InRange]
  rw [le_clampedEnd_iff hf hs hl]
  exact and_iff_left (clampedEnd_le hf hs)

/-- An operand that starts in the frame or at its end gets the bytes from there on, at most `len`
of them; without bytes it is refused. -/
lemma result_ofFrame_of_le (hs : startPos ≤ frame.length) (hl : startPos + len < 2 ^ 64) :
    (ofFrame frame startPos len : Ccec (CECBytes c)).result
      = if (frame.bytes.drop startPos).take len = [] then .error .invalidParam
        else .ok ⟨(frame.bytes.drop startPos).take len⟩ := by
  have hf : frame.length ≤ 128 := frame.length_le
  have hend := clampedEnd_of_le hf hs hl
  have hle : startPos ≤ clampedEnd frame.length startPos len := by
    rw [hend]; omega
  have htake : (frame.bytes.drop startPos).take (clampedEnd frame.length startPos len - startPos)
      = (frame.bytes.drop startPos).take len := by
    rw [hend, List.take_eq_take_iff]
    simp only [CECFrame.length] at hs ⊢
    simp only [List.length_drop]
    omega
  rw [ofFrame_eq_insertRange, Logged.result_bind_of_ok (by rw [insertRange_of_le hle]), htake]
  by_cases hnil : (frame.bytes.drop startPos).take len = []
  · simp [hnil, validate]
  · have hlen : ((frame.bytes.drop startPos).take len).length ≤ 128 := by
      have := frame.length_le
      simp only [List.length_take, List.length_drop]
      omega
    have hvalid : (⟨(frame.bytes.drop startPos).take len⟩ : CECBytes c).validate CECFrame.maxLength
        = true := by
      have hne : ((frame.bytes.drop startPos).take len).length ≠ 0 :=
        fun h => hnil (List.eq_nil_of_length_eq_zero h)
      simp only [validate, CECFrame.maxLength, hne, hlen, ne_eq, not_false_eq_true, decide_true,
        Bool.and_self]
    rw [if_pos hvalid, if_neg hnil]
    rfl

/-- An operand that starts past the end of the frame, or whose end wraps, asks for a reversed
range. -/
lemma result_ofFrame_of_not (hs : startPos < 2 ^ 64) (hl : len < 2 ^ 64)
    (h : ¬ (startPos ≤ frame.length ∧ startPos + len < 2 ^ 64)) :
    (ofFrame frame startPos len : Ccec (CECBytes c)).result
      = .error (.lengthError "vector::_M_range_insert") := by
  have hf : frame.length ≤ 128 := frame.length_le
  have hlt : clampedEnd frame.length startPos len < startPos :=
    Nat.not_le.mp fun hle => h ((le_clampedEnd_iff hf hs hl).mp hle)
  rw [ofFrame_eq_insertRange, Logged.result_bind_of_error (by rw [insertRange_of_lt hlt])]

/-- An operand is constructed exactly when it has a byte, and then from the bytes of the frame from
`startPos` on. -/
lemma ofFrame_returns_iff {o : CECBytes c} (hs : startPos < 2 ^ 64) (hl : len < 2 ^ 64) :
    (ofFrame frame startPos len).result = .ok o ↔
      startPos < frame.length ∧ 0 < len ∧ startPos + len < 2 ^ 64 ∧
        o = ⟨(frame.bytes.drop startPos).take len⟩ := by
  by_cases h : startPos ≤ frame.length ∧ startPos + len < 2 ^ 64
  · have hnil : (frame.bytes.drop startPos).take len = [] ↔ ¬ (startPos < frame.length ∧ 0 < len) := by
      rw [← List.length_eq_zero_iff]
      simp only [CECFrame.length, List.length_take, List.length_drop]
      omega
    rw [result_ofFrame_of_le h.1 h.2]
    split
    · rename_i hempty
      have := hnil.mp hempty
      simp only [reduceCtorEq, false_iff]
      rintro ⟨h1, h2, -⟩
      exact this ⟨h1, h2⟩
    · rename_i hne
      have := not_not.mp fun hno => hne (hnil.mpr hno)
      simp only [Except.ok.injEq, this, h.2, true_and, eq_comm]
  · rw [result_ofFrame_of_not hs hl h]
    simp only [reduceCtorEq, false_iff]
    omega

/-! ### The constructors that extract `MAX_LEN` bytes -/

lemma maxLen_lt (c : OperandClass) : c.maxLen < 2 ^ 32 := by cases c <;> decide

@[simp] lemma sizeT_natCast {n : ℕ} (h : n < 2 ^ 64) : sizeT (n : ℤ) = n := by
  simp only [sizeT]; omega

lemma ofFrameAt_natCast (n : ℕ) (h : n < 2 ^ 64) :
    (ofFrameAt frame (n : ℤ) : Ccec (CECBytes c)) = ofFrame frame n c.maxLen := by
  rw [ofFrameAt, sizeT_natCast h]

/-- An operand of a fixed length is in range exactly when it starts in the frame or at its end. -/
lemma all_inRange_ofFrameAt {n : ℕ} (h : n < 2 ^ 32) :
    (ofFrameAt frame (n : ℤ) : Ccec (CECBytes c)).All Event.InRange ↔ n ≤ frame.length := by
  have hc := maxLen_lt c
  rw [ofFrameAt_natCast n (by omega), all_inRange_ofFrame (by omega) (by omega)]
  omega

@[simp] lemma all_inRange_ofFrameAt_zero :
    (ofFrameAt frame 0 : Ccec (CECBytes c)).All Event.InRange :=
  (all_inRange_ofFrameAt (n := 0) (by decide)).mpr (Nat.zero_le _)

/-- An operand of a fixed length is constructed exactly when it starts in the frame. -/
lemma ofFrameAt_returns_iff {n : ℕ} {o : CECBytes c} (h : n < 2 ^ 32) :
    (ofFrameAt frame (n : ℤ)).result = .ok o ↔
      n < frame.length ∧ o = ⟨(frame.bytes.drop n).take c.maxLen⟩ := by
  have hc := maxLen_lt c
  have hpos : 0 < c.maxLen := by cases c <;> decide
  have hlt : n + c.maxLen < 2 ^ 64 := by omega
  rw [ofFrameAt_natCast n (by omega), ofFrame_returns_iff (by omega) (by omega)]
  simp only [hpos, hlt, true_and]

lemma ofFrameAt_zero_returns_iff {o : CECBytes c} :
    (ofFrameAt frame 0).result = .ok o ↔ 0 < frame.length ∧ o = ⟨frame.bytes.take c.maxLen⟩ :=
  ofFrameAt_returns_iff (n := 0) (by decide)

/-! ### Accessors and texts -/

@[simp] lemma result_byte {o : CECBytes c} {i : ℕ} : (o.byte i).result = .ok (o.str.getD i 0) := rfl

/-- A text is made for every byte. -/
lemma toName_returns (o : CECBytes c) (validate : UInt8 → Bool) (names : List String)
    (unknown : String) : ∃ text, (o.toName validate names unknown).result = .ok text := by
  simp only [toName, Logged.result_bind_of_ok result_byte]
  split
  · exact ⟨_, rfl⟩
  · exact ⟨_, rfl⟩

end CECBytes

lemma LogicalAddress.toString_returns (o : LogicalAddress) :
    ∃ text, o.toString.result = .ok text :=
  CECBytes.toName_returns o _ _ _

end HdmiCec
