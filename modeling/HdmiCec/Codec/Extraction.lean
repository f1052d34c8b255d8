import HdmiCec.Codec.Layout

/-!
# The byte ranges the decoder copies

Every operand of a received frame is copied out of the frame. The clamp of
`CECBytes(frame, startPos, len)` keeps the range inside the frame unless the operand starts past
the frame's end; the frames where that happens are `Mislaid`.
-/

namespace HdmiCec

open Lib

/-- The ranges copied in a run of the decoder lie in the frame, in order. -/
def DecodeEvent.InRange : DecodeEvent → Prop
  | .operand e => e.InRange
  | .process _ _ => True

/-- The operand bytes of a message with opcode `op` after which an operand would start past the
end: the second operand of three layouts when only half of the physical address is there, and the
device features when no byte ends the remote control profile. -/
def MislaidOperands (op : OpT) (operands : List UInt8) : Prop :=
  (op = Op.reportPhysicalAddress ∨ op = Op.routingChange ∨ op = Op.reportCurrentLatency) ∧
      operands.length = 1 ∨
    op = Op.reportFeatures ∧ 3 ≤ operands.length ∧ ∀ b ∈ operands.drop 2, b &&& 0x80 ≠ 0

/-- A frame with such operands. -/
def Mislaid (f : CECFrame) : Prop :=
  ∃ b op operands, f.bytes = b :: op :: operands ∧ MislaidOperands op.toNat operands

namespace MessageDecoder

variable {frame : CECFrame}

/-! ### The single layouts -/

/-- An operand at the front is in range, so only what follows it can go wrong. -/
lemma all_inRange_front {c : OperandClass} {α : Type} {k : CECBytes c → Ccec α} :
    (CECBytes.ofFrameAt frame 0 >>= k).All Event.InRange ↔
      (0 < frame.length → (k ⟨frame.bytes.take c.maxLen⟩).All Event.InRange) := by
  simp only [Logged.all_bind, CECBytes.all_inRange_ofFrameAt_zero,
    CECBytes.ofFrameAt_zero_returns_iff, true_and]
  constructor
  · intro h hlen
    exact h _ ⟨hlen, rfl⟩
  · rintro h o ⟨hlen, rfl⟩
    exact h hlen

/-- A second operand that starts behind a physical address. -/
lemma all_inRange_second {c c' : OperandClass} {k : CECBytes c → CECBytes c' → Msg}
    (hc : c.maxLen = 2) :
    ((do
      let first ← CECBytes.ofFrameAt frame 0
      let second ← CECBytes.ofFrameAt frame (0 + c.maxLen)
      pure (k first second) : Ccec Msg)).All Event.InRange ↔ frame.length ≠ 1 := by
  have hpos : (0 + (c.maxLen : ℤ)) = ((2 : ℕ) : ℤ) := by simp [hc]
  rw [all_inRange_front, hpos]
  simp only [Logged.all_bind, Logged.all_pure, implies_true, and_true,
    CECBytes.all_inRange_ofFrameAt (n := 2) (by decide)]
  omega

lemma all_inRange_reportPhysicalAddress :
    (ReportPhysicalAddress.ofFrame frame 0).All Event.InRange ↔ frame.length ≠ 1 :=
  all_inRange_second rfl

lemma all_inRange_routingChange :
    (RoutingChange.ofFrame frame 0).All Event.InRange ↔ frame.length ≠ 1 :=
  all_inRange_second rfl

/-- The opcode is read with a check, so the reason starts in the frame or at its end. -/
lemma all_inRange_featureAbort : (FeatureAbort.ofFrame frame 0).All Event.InRange := by
  have hpos : (0 + OpCode.maxLen) = ((1 : ℕ) : ℤ) := rfl
  by_cases hlen : 0 < frame.length
  · have hop : OpCode.ofFrame frame 0 = pure ⟨(frame.bytes.getD 0 0).toNat⟩ := by
      have hzero : sizeT 0 = 0 := rfl
      simp only [OpCode.ofFrame, hzero, CECFrame.byteAt_of_lt hlen, pure_bind]
    simp only [FeatureAbort.ofFrame, hop, pure_bind, hpos, Logged.all_bind, Logged.all_pure,
      implies_true, and_true]
    exact (CECBytes.all_inRange_ofFrameAt (by decide)).mpr hlen
  · have hbyte : (frame.byteAt (sizeT 0)).All Event.InRange := by
      simp only [CECFrame.byteAt]
      split
      · exact Logged.all_pure _
      · simp [Logged.all_bind, ccecLog, Event.InRange]
    have herr : ∀ b, (frame.byteAt (sizeT 0)).result ≠ .ok b := by
      intro b hb
      have hge : frame.length ≤ sizeT 0 := Nat.not_lt.mp hlen
      simp [CECFrame.byteAt_of_ge hge] at hb
    simp only [FeatureAbort.ofFrame, OpCode.ofFrame, Logged.all_bind, Logged.returns_bind]
    refine ⟨⟨hbyte, fun _ _ => Logged.all_pure _⟩, ?_⟩
    rintro op ⟨b, hb, -⟩
    exact absurd hb (herr b)

/-- Operands of a fixed length at the positions `i * n`, one for each `i` below `count`. -/
lemma all_inRange_collect {c : OperandClass} {n count : ℕ} {pos : ℕ → ℤ}
    (hpos : ∀ i, pos i = ((i * n : ℕ) : ℤ)) (h : count * n ≤ frame.length) :
    (Logged.collect (fun i => (CECBytes.ofFrameAt frame (pos i) : Ccec (CECBytes c)))
      (List.range count)).All Event.InRange := by
  have hg : frame.length ≤ 128 := frame.length_le
  apply Logged.all_collect
  intro i hi
  have hin : i * n ≤ count * n := Nat.mul_le_mul_right n (List.mem_range.mp hi).le
  rw [hpos i, CECBytes.all_inRange_ofFrameAt (by omega)]
  omega

lemma all_inRange_requestShortAudioDescriptor :
    (RequestShortAudioDescriptor.ofFrame frame 0).All Event.InRange := by
  simp only [RequestShortAudioDescriptor.ofFrame, Logged.all_bind, Logged.all_pure, implies_true,
    and_true]
  refine all_inRange_collect (n := 1) (by simp) ?_
  split <;> omega

lemma all_inRange_reportShortAudioDescriptor :
    (ReportShortAudioDescriptor.ofFrame frame 0).All Event.InRange := by
  simp only [ReportShortAudioDescriptor.ofFrame, Logged.all_bind, Logged.all_pure, implies_true,
    and_true]
  exact all_inRange_collect (n := 3) (by simp) (by omega)

lemma all_inRange_systemAudioModeRequest :
    (SystemAudioModeRequest.ofFrame frame 0).All Event.InRange := by
  rw [SystemAudioModeRequest.ofFrame, all_inRange_front]
  intro _
  split <;> exact Logged.all_pure _

lemma all_inRange_requestCurrentLatency :
    (RequestCurrentLatency.ofFrame frame 0).All Event.InRange := by
  rw [RequestCurrentLatency.ofFrame, all_inRange_front]
  intro _
  split <;> exact Logged.all_pure _

/-- The length `frame_len - 2` wraps when half of the address is missing. -/
lemma all_inRange_reportCurrentLatency :
    (ReportCurrentLatency.ofFrame frame 0).All Event.InRange ↔ frame.length ≠ 1 := by
  have hg : frame.length ≤ 128 := frame.length_le
  rw [ReportCurrentLatency.ofFrame, all_inRange_front]
  have hpos : sizeT (0 + 2) = 2 := rfl
  have hlen : ∀ i : ℤ, sizeT i < 2 ^ 64 := fun i => by simp only [sizeT]; omega
  simp only [Logged.all_bind, Logged.all_pure, implies_true, and_true, hpos,
    CECBytes.all_inRange_ofFrame (show 2 < 2 ^ 64 by decide) (hlen _)]
  constructor
  · intro h h1
    omega
  · intro h hpos
    refine ⟨by omega, ?_⟩
    simp only [sizeT]
    split <;> omega

/-! ### The features report -/

/-- The run goes to the end exactly when every byte has its extension bit set. -/
lemma extensionRun_eq_length_iff (bs : List UInt8) :
    extensionRun bs = bs.length ↔ ∀ b ∈ bs, b &&& 0x80 ≠ 0 := by
  induction bs with
  | nil => simp [extensionRun]
  | cons b bs ih =>
    simp only [extensionRun, List.length_cons, List.mem_cons, forall_eq_or_imp, ← ih]
    split
    · rename_i h
      simp [h]
    · rename_i h
      simp only [not_not] at h
      simp [h]

lemma all_inRange_log (level : ℕ) (text : String) : (ccecLog level text).All Event.InRange :=
  (Logged.all_emit _).mpr trivial

lemma all_inRange_dump (text : UInt8 → String) (bs : List UInt8) :
    (Logged.each (fun b => ccecLog logInfo (text b)) bs).All Event.InRange :=
  Logged.all_each fun _ _ => all_inRange_log _ _

/-- The device features start where the remote control profile ends, which is past the end of the
frame when no byte of the profile ends it. -/
lemma all_inRange_reportFeatures :
    (ReportFeatures.ofFrame frame 0).All Event.InRange ↔
      ¬ (3 ≤ frame.length ∧ ∀ b ∈ frame.bytes.drop 2, b &&& 0x80 ≠ 0) := by
  have hg : frame.length ≤ 128 := frame.length_le
  have hrc := rcLen_le frame
  have hfeatures := featuresLen_le frame
  have hend : rcLen frame = 1 + (frame.length - 2) ↔ ∀ b ∈ frame.bytes.drop 2, b &&& 0x80 ≠ 0 := by
    rw [← extensionRun_eq_length_iff]
    simp only [rcLen, List.length_drop, CECFrame.length]
    omega
  have hpos : 0 < rcLen frame := by simp only [rcLen]; omega
  have hdump : (Logged.each (fun b => ccecLog logInfo (hex02 b ++ " :\n")) frame.bytes).result
      = .ok () := Logged.result_each fun _ _ => rfl
  rw [reportFeatures_eq, all_inRange_front, ← hend]
  simp only [Logged.all_bind, Logged.all_pure, implies_true, and_true,
    CECBytes.all_inRange_ofFrameAt (show 1 < 2 ^ 32 by decide), all_inRange_dump, all_inRange_log,
    CECBytes.ofFrameAt_returns_iff (show 1 < 2 ^ 32 by decide), hdump, true_and,
    CECBytes.all_inRange_ofFrame (show 2 < 2 ^ 64 by decide)
      (show rcLen frame < 2 ^ 64 by omega),
    CECBytes.all_inRange_ofFrame (show 2 + rcLen frame < 2 ^ 64 by omega)
      (show featuresLen frame < 2 ^ 64 by omega),
    CECBytes.ofFrame_returns_iff (show 2 < 2 ^ 64 by decide)
      (show rcLen frame < 2 ^ 64 by omega)]
  constructor
  · rintro h ⟨h3, hall⟩
    obtain ⟨-, h⟩ := h (by omega)
    obtain ⟨-, h⟩ := h _ ⟨by omega, rfl⟩ () rfl () trivial
    have := h _ ⟨by omega, hpos, by omega, rfl⟩
    omega
  · intro h hlen
    refine ⟨hlen, ?_⟩
    rintro - ⟨hone, -⟩ - - - -
    refine ⟨by omega, ?_⟩
    rintro - ⟨htwo, -⟩
    omega

/-! ### Every frame -/

/-- The constructor that an opcode selects copies ranges of the frame only, unless the operands are
mislaid. -/
lemma all_inRange_construct {op : OpT} :
    (∀ construct, dispatch op = .process construct → (construct frame).All Event.InRange) ↔
      ¬ MislaidOperands op frame.bytes := by
  constructor
  · rintro h (⟨rfl | rfl | rfl, hlen⟩ | ⟨rfl, hlen, hall⟩)
    · exact all_inRange_reportPhysicalAddress.mp (h _ rfl) hlen
    · exact all_inRange_routingChange.mp (h _ rfl) hlen
    · exact all_inRange_reportCurrentLatency.mp (h _ rfl) hlen
    · exact all_inRange_reportFeatures.mp (h _ rfl) ⟨hlen, hall⟩
  · intro h construct hd
    cases layout_of_dispatch hd with
    | plain _ => exact Logged.all_pure _
    | standby => simp [all_inRange_log]
    | single _ => simp
    | reportPhysicalAddress =>
      exact all_inRange_reportPhysicalAddress.mpr fun hlen => h (.inl ⟨.inl rfl, hlen⟩)
    | featureAbort => exact all_inRange_featureAbort
    | routingChange =>
      exact all_inRange_routingChange.mpr fun hlen => h (.inl ⟨.inr (.inl rfl), hlen⟩)
    | requestShortAudioDescriptor => exact all_inRange_requestShortAudioDescriptor
    | reportShortAudioDescriptor => exact all_inRange_reportShortAudioDescriptor
    | systemAudioModeRequest => exact all_inRange_systemAudioModeRequest
    | reportFeatures =>
      exact all_inRange_reportFeatures.mpr fun hall => h (.inr ⟨rfl, hall⟩)
    | requestCurrentLatency => exact all_inRange_requestCurrentLatency
    | reportCurrentLatency =>
      exact all_inRange_reportCurrentLatency.mpr fun hlen => h (.inl ⟨.inr (.inr rfl), hlen⟩)

lemma all_inRange_header (f : CECFrame) : (Header.ofFrame f 0).All Event.InRange := by
  have hbyte : (f.byteAt 0).All Event.InRange := by
    simp only [CECFrame.byteAt]
    split
    · exact Logged.all_pure _
    · simp [Logged.all_bind, all_inRange_log]
  simp [Header.ofFrame, Logged.all_bind, hbyte]

/-- Decoding copies ranges of the frame only, exactly for the frames that are not mislaid. -/
theorem decode_inRange_iff (P : Processor) (f : CECFrame) :
    (decode P f).All DecodeEvent.InRange ↔ ¬ Mislaid f := by
  match hf : f.bytes with
  | [] =>
    have herr : (operands (Header.ofFrame f 0)).result = _ := Header.ofFrame_nil hf
    have hlog : (decode P f).log = (operands (Header.ofFrame f 0)).log := by
      rw [decode, Logged.log_bind_of_error herr]
    have hall : (operands (Header.ofFrame f 0)).All DecodeEvent.InRange :=
      (Logged.all_mapLog _ _).mpr (all_inRange_header f)
    simp only [Logged.All, hlog, Mislaid, hf, reduceCtorEq, false_and, exists_false,
      not_false_eq_true, iff_true]
    exact hall
  | [b] =>
    rw [decode_polling hf]
    simp [Logged.All, callProcess, DecodeEvent.InRange, Mislaid, hf]
  | b :: op :: rest =>
    have hmislaid := CECFrame.exists_operands_iff (R := MislaidOperands) hf
    rw [all_decode_cons hf fun _ _ => trivial, Mislaid, hmislaid, ← all_inRange_construct]
    simp only [DecodeEvent.InRange, implies_true, and_true]

/-- A report of a physical address that is cut after its first operand byte: the device type would
be the bytes from 2 to 1 of one byte. -/
theorem decode_truncated_report :
    ¬ (decode (fun _ _ => .ok ()) ⟨[0x4F, 0x84, 0x10], by decide⟩).All DecodeEvent.InRange := by
  intro h
  have hrange := h (.operand (.extract 2 1 1)) (by decide)
  simp [DecodeEvent.InRange, Event.InRange] at hrange

end MessageDecoder

end HdmiCec
