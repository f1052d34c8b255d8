import HdmiCec.Codec.Features

/-!
# Decoding from an offset

A message class has a constructor `M(frame, startPos)`. The decoder calls it with offset 0 only;
from another offset it should do what it does on the rest of the frame. Most classes do. The two
that hold lists of operands count them by the length of the whole frame, and `ReportFeatures` sets
its offset to 0.
-/

namespace HdmiCec

open Lib MessageDecoder

/-- The message classes with a constructor from a frame and an offset. -/
inductive MessageClass where
  | activeSource
  | inActiveSource
  | cecVersion
  | setMenuLanguage
  | setOSDName
  | setOSDString
  | reportPhysicalAddress
  | deviceVendorID
  | reportPowerStatus
  | featureAbort
  | routingChange
  | routingInformation
  | setStreamPath
  | requestShortAudioDescriptor
  | reportShortAudioDescriptor
  | systemAudioModeRequest
  | setSystemAudioMode
  | reportAudioStatus
  | userControlPressed
  | reportFeatures
  | requestCurrentLatency
  | reportCurrentLatency
deriving DecidableEq, Repr

/-- `M(frame, startPos)`. -/
def MessageClass.ofFrame : MessageClass → CECFrame → ℤ → Ccec Msg
  | activeSource => ActiveSource.ofFrame
  | inActiveSource => InActiveSource.ofFrame
  | cecVersion => CECVersion.ofFrame
  | setMenuLanguage => SetMenuLanguage.ofFrame
  | setOSDName => SetOSDName.ofFrame
  | setOSDString => SetOSDString.ofFrame
  | reportPhysicalAddress => ReportPhysicalAddress.ofFrame
  | deviceVendorID => DeviceVendorID.ofFrame
  | reportPowerStatus => ReportPowerStatus.ofFrame
  | featureAbort => FeatureAbort.ofFrame
  | routingChange => RoutingChange.ofFrame
  | routingInformation => RoutingInformation.ofFrame
  | setStreamPath => SetStreamPath.ofFrame
  | requestShortAudioDescriptor => RequestShortAudioDescriptor.ofFrame
  | reportShortAudioDescriptor => ReportShortAudioDescriptor.ofFrame
  | systemAudioModeRequest => SystemAudioModeRequest.ofFrame
  | setSystemAudioMode => SetSystemAudioMode.ofFrame
  | reportAudioStatus => ReportAudioStatus.ofFrame
  | userControlPressed => UserControlPressed.ofFrame
  | reportFeatures => ReportFeatures.ofFrame
  | requestCurrentLatency => RequestCurrentLatency.ofFrame
  | reportCurrentLatency => ReportCurrentLatency.ofFrame

/-- `M(F, s)` and `M(F.subFrame(s), 0)` construct the same message, or both raise. -/
def OffsetIndependent (M : MessageClass) (F : CECFrame) (s : ℕ) : Prop :=
  (M.ofFrame F s).value = (F.subFrame s 0 >>= fun rest => M.ofFrame rest 0).value

/-- Bytes that begin with a version, a type, a whole profile and something of the features. -/
def BeginsFeatures (bs : List UInt8) : Prop :=
  ∃ v t r rest, bs = v :: t :: (r ++ rest) ∧ ExtensionCoded r ∧ rest ≠ []

/-- The operand bytes of a features report. -/
def FeaturesBlock (bs : List UInt8) : Prop :=
  ∃ v t r d, bs = v :: t :: (r ++ d) ∧ ExtensionCoded r ∧ ExtensionCoded d

/-- Where the offset makes no difference. -/
def OffsetFree (M : MessageClass) (F : CECFrame) (s : ℕ) : Prop :=
  match M with
  | .requestShortAudioDescriptor => s = 0 ∨ 4 ≤ F.length - s
  | .reportShortAudioDescriptor => F.length / 3 = (F.length - s) / 3
  | .reportFeatures => s = 0 ∨
      (¬ BeginsFeatures F.bytes ∧ ¬ BeginsFeatures (F.bytes.drop s)) ∨
      ∃ block, FeaturesBlock block ∧ block <+: F.bytes ∧ block <+: F.bytes.drop s
  | _ => True

/-! ### Operands at an offset -/

/-- The frame from `s` on. -/
def CECFrame.rest (F : CECFrame) (s : ℕ) : CECFrame :=
  ⟨F.bytes.drop s, (List.drop_sublist s F.bytes).length_le.trans F.length_le⟩

section

variable {F : CECFrame} {s : ℕ} {c : OperandClass}

lemma CECFrame.length_rest : (F.rest s).length = F.length - s := List.length_drop

lemma offsetIndependent_iff {M : MessageClass} :
    OffsetIndependent M F s ↔ (M.ofFrame F s).value = (M.ofFrame (F.rest s) 0).value := by
  rw [OffsetIndependent, CECFrame.subFrame_eq]
  rfl

/-- An operand of a fixed length is the same in the frame and in its rest. -/
lemma value_ofFrameAt (hs : s ≤ F.length) {k : ℕ} (hk : k < 2 ^ 31) :
    (CECBytes.ofFrameAt F ((s : ℤ) + k) : Ccec (CECBytes c)).value =
      (CECBytes.ofFrameAt (F.rest s) (k : ℤ) : Ccec (CECBytes c)).value := by
  have hF : F.length ≤ 128 := F.length_le
  have hcast : ((s : ℤ) + k) = ((s + k : ℕ) : ℤ) := by push_cast; rfl
  apply Option.ext
  intro o
  rw [Logged.value_eq_some_iff, Logged.value_eq_some_iff, hcast,
    CECBytes.ofFrameAt_returns_iff (by omega), CECBytes.ofFrameAt_returns_iff (by omega),
    CECFrame.length_rest, CECFrame.rest, List.drop_drop]
  refine and_congr_left fun _ => ?_
  omega

lemma value_ofFrameAt_zero (hs : s ≤ F.length) :
    (CECBytes.ofFrameAt F (s : ℤ) : Ccec (CECBytes c)).value =
      (CECBytes.ofFrameAt (F.rest s) 0 : Ccec (CECBytes c)).value := by
  simpa using value_ofFrameAt (k := 0) hs (by decide)

lemma value_opCode (hs : s ≤ F.length) :
    (OpCode.ofFrame F (s : ℤ)).value = (OpCode.ofFrame (F.rest s) 0).value := by
  have hF : F.length ≤ 128 := F.length_le
  have hzero : sizeT 0 = 0 := rfl
  rw [OpCode.ofFrame, OpCode.ofFrame, CECBytes.sizeT_natCast (by omega), hzero]
  by_cases hlt : s < F.length
  · have hlt' : 0 < (F.rest s).length := by rw [CECFrame.length_rest]; omega
    rw [CECFrame.byteAt_of_lt hlt, CECFrame.byteAt_of_lt hlt', CECFrame.rest]
    simp
  · have hge' : (F.rest s).length ≤ 0 := by rw [CECFrame.length_rest]; omega
    have hraise := CECFrame.byteAt_of_ge (Nat.not_lt.mp hlt)
    have hraise' := CECFrame.byteAt_of_ge hge'
    rw [Logged.value, Logged.value, Logged.result_bind_of_error hraise,
      Logged.result_bind_of_error hraise']

lemma value_single (hs : s ≤ F.length) (k : CECBytes c → Msg) :
    (k <$> CECBytes.ofFrameAt F (s : ℤ)).value = (k <$> CECBytes.ofFrameAt (F.rest s) 0).value := by
  rw [map_eq_pure_bind, map_eq_pure_bind, Logged.value_bind, Logged.value_bind,
    value_ofFrameAt_zero hs]

/-- Two operands, the second a fixed number of bytes behind the first. -/
lemma value_second (hs : s ≤ F.length) {c' : OperandClass} {n : ℕ} (hn : n < 2 ^ 31)
    (k : CECBytes c → CECBytes c' → Msg) :
    (do
      let first ← CECBytes.ofFrameAt F (s : ℤ)
      let second ← CECBytes.ofFrameAt F ((s : ℤ) + n)
      pure (k first second) : Ccec Msg).value =
    (do
      let first ← CECBytes.ofFrameAt (F.rest s) 0
      let second ← CECBytes.ofFrameAt (F.rest s) (0 + n)
      pure (k first second) : Ccec Msg).value := by
  simp only [Logged.value_bind, value_ofFrameAt_zero hs, value_ofFrameAt hs hn, zero_add]

lemma value_featureAbort (hs : s ≤ F.length) :
    (FeatureAbort.ofFrame F s).value = (FeatureAbort.ofFrame (F.rest s) 0).value := by
  have hone : OpCode.maxLen = ((1 : ℕ) : ℤ) := rfl
  simp only [FeatureAbort.ofFrame, hone, Logged.value_bind, value_opCode hs,
    value_ofFrameAt hs (k := 1) (by decide), zero_add]

/-- An address alone: the frame that has no bytes raises before the default is put in. -/
lemma value_address (hs : s ≤ F.length) (k : PhysicalAddress → Msg) :
    (do
      let physicaladdress ← CECBytes.ofFrameAt F (s : ℤ)
      if F.length = 0 then pure (k (.ofNibbles 0xf 0xf 0xf 0xf))
      else pure (k physicaladdress) : Ccec Msg).value =
    (do
      let physicaladdress ← CECBytes.ofFrameAt (F.rest s) 0
      if (F.rest s).length = 0 then pure (k (.ofNibbles 0xf 0xf 0xf 0xf))
      else pure (k physicaladdress) : Ccec Msg).value := by
  rw [Logged.value_bind, Logged.value_bind, value_ofFrameAt_zero hs]
  cases hvalue : (CECBytes.ofFrameAt (F.rest s) 0 : Ccec PhysicalAddress).value with
  | none => rfl
  | some o =>
    have hpos := (CECBytes.ofFrameAt_zero_returns_iff.mp (Logged.value_eq_some_iff.mp hvalue)).1
    have hlen := hpos
    rw [CECFrame.length_rest] at hlen
    have hF : ¬ F.length = 0 := by omega
    rw [Option.bind_some, Option.bind_some, if_neg hF, if_neg hpos.ne']

lemma value_reportCurrentLatency (hs : s ≤ F.length) :
    (ReportCurrentLatency.ofFrame F s).value =
      (ReportCurrentLatency.ofFrame (F.rest s) 0).value := by
  apply Option.ext
  intro m
  rw [Logged.value_eq_some_iff, Logged.value_eq_some_iff, reportCurrentLatency_returns_iff_of_le hs,
    reportCurrentLatency_returns_iff, CECFrame.length_rest, CECFrame.rest, List.drop_drop]
  refine and_congr_left fun _ => ?_
  omega

/-! ### Lists of operands -/

/-- The lists are the same in the frame and in its rest exactly when they are as long. -/
lemma value_counted_iff (hs : s ≤ F.length) {k : List (CECBytes c) → ℕ → Msg}
    (hk : ∀ {os os' n n'}, k os n = k os' n' → n = n') {width count count' : ℕ}
    (hwidth : count' * width < 2 ^ 31) {m : Msg}
    (hrest : (countedOfFrame k width count' (F.rest s) 0).value = some m) :
    (countedOfFrame k width count F s).value = (countedOfFrame k width count' (F.rest s) 0).value ↔
      count = count' := by
  rw [hrest]
  constructor
  · intro h
    rw [countedOfFrame, Logged.value_bind, Option.bind_eq_some_iff] at h hrest
    obtain ⟨os, -, hos⟩ := h
    obtain ⟨os', -, hos'⟩ := hrest
    exact hk (Option.some.inj (hos.trans hos'.symm))
  · rintro rfl
    rw [← hrest, countedOfFrame, countedOfFrame, Logged.value_bind, Logged.value_bind]
    rw [Logged.value_collect_congr]
    intro i hi
    have hi' : i * width ≤ count * width := Nat.mul_le_mul_right width (List.mem_range.mp hi).le
    rw [zero_add]
    exact value_ofFrameAt hs (hi'.trans_lt hwidth)

lemma value_requestShortAudioDescriptor_iff (hs : s ≤ F.length) :
    (RequestShortAudioDescriptor.ofFrame F s).value =
      (RequestShortAudioDescriptor.ofFrame (F.rest s) 0).value ↔ s = 0 ∨ 4 ≤ F.length - s := by
  have hreturns := @requestShortAudioDescriptor_returns (F.rest s)
  rw [← Logged.value_eq_some_iff, requestShortAudioDescriptor_eq] at hreturns
  rw [requestShortAudioDescriptor_eq, requestShortAudioDescriptor_eq,
    value_counted_iff hs _ _ hreturns, CECFrame.length_rest]
  · omega
  · intro os os' n n' h
    exact (Msg.requestShortAudioDescriptor.inj h).2
  · omega

lemma value_reportShortAudioDescriptor_iff (hs : s ≤ F.length) :
    (ReportShortAudioDescriptor.ofFrame F s).value =
      (ReportShortAudioDescriptor.ofFrame (F.rest s) 0).value ↔
        F.length / 3 = (F.length - s) / 3 := by
  have hF : (F.rest s).length ≤ 128 := (F.rest s).length_le
  have hreturns := @reportShortAudioDescriptor_returns (F.rest s)
  rw [← Logged.value_eq_some_iff, reportShortAudioDescriptor_eq] at hreturns
  rw [reportShortAudioDescriptor_eq, reportShortAudioDescriptor_eq,
    value_counted_iff hs _ _ hreturns, CECFrame.length_rest]
  · intro os os' n n' h
    exact (Msg.reportShortAudioDescriptor.inj h).2
  · omega

end

/-! ### The features report -/

section

variable {frame : CECFrame} {bs : List UInt8}

/-- What stands before the end of a run, and the byte that ends it, are one operand. -/
lemma extensionCoded_take (h : extensionRun bs < bs.length) :
    ExtensionCoded (bs.take (1 + extensionRun bs)) := by
  induction bs with
  | nil => exact absurd h (Nat.not_lt_zero _)
  | cons b bs ih =>
    rw [extensionRun] at h ⊢
    by_cases hb : b &&& 0x80 ≠ 0
    · rw [if_pos hb] at h ⊢
      have hlt : extensionRun bs < bs.length := Nat.lt_of_succ_lt_succ h
      have ih := ih hlt
      have htake : (b :: bs).take (1 + (extensionRun bs + 1)) =
          b :: bs.take (1 + extensionRun bs) := by
        rw [Nat.add_comm, List.take_succ_cons, Nat.add_comm]
      rw [htake]
      cases htail : bs.take (1 + extensionRun bs) with
      | nil => exact (htail ▸ ih : ExtensionCoded []).elim
      | cons b' bs' => exact ⟨hb, htail ▸ ih⟩
    · rw [if_neg hb]
      exact not_not.mp hb

lemma beginsFeatures_iff : BeginsFeatures frame.bytes ↔ 2 + rcLen frame < frame.length := by
  constructor
  · rintro ⟨v, t, r, rest, hbytes, hr, hrest⟩
    have hrc : rcLen frame = r.length := by
      rw [rcLen, hbytes]
      exact extensionRun_append hr rest
    have hpos := List.length_pos_iff.mpr hrest
    rw [hrc, CECFrame.length, hbytes]
    simp only [List.length_cons, List.length_append]
    omega
  · intro hlen
    rcases hbytes : frame.bytes with _ | ⟨v, _ | ⟨t, tail⟩⟩
    · rw [CECFrame.length, hbytes] at hlen
      exact absurd hlen (Nat.not_lt_zero _)
    · rw [CECFrame.length, hbytes, List.length_singleton] at hlen
      omega
    · have hrc : rcLen frame = 1 + extensionRun tail := by rw [rcLen, hbytes]; rfl
      rw [hrc, CECFrame.length, hbytes, List.length_cons, List.length_cons] at hlen
      refine ⟨v, t, tail.take (1 + extensionRun tail), tail.drop (1 + extensionRun tail), ?_, ?_,
        ?_⟩
      · rw [List.take_append_drop]
      · exact extensionCoded_take (by omega)
      · rw [← List.length_pos_iff, List.length_drop]
        omega

/-- The constructor returns exactly when the bytes begin like a features report. -/
lemma value_reportFeatures_eq_none_iff :
    (ReportFeatures.ofFrame frame 0).value = none ↔ ¬ BeginsFeatures frame.bytes := by
  rw [beginsFeatures_iff, Option.eq_none_iff_forall_ne_some]
  constructor
  · intro h hlen
    exact h _ (Logged.value_eq_some_iff.mpr (reportFeatures_returns_iff.mpr ⟨hlen, rfl⟩))
  · intro hlen m hm
    exact hlen (reportFeatures_returns_iff.mp (Logged.value_eq_some_iff.mp hm)).1

/-- What follows the block makes no difference. -/
lemma value_reportFeatures_of_block {frame' : CECFrame} {block : List UInt8}
    (hblock : FeaturesBlock block) (hframe : block <+: frame.bytes)
    (hframe' : block <+: frame'.bytes) :
    (ReportFeatures.ofFrame frame 0).value = (ReportFeatures.ofFrame frame' 0).value := by
  obtain ⟨v, t, r, d, rfl, hr, hd⟩ := hblock
  have hvalue : ∀ f : CECFrame, (v :: t :: (r ++ d)) <+: f.bytes →
      (ReportFeatures.ofFrame f 0).value =
        some (.reportFeatures (.ofByte v) (.ofByte t) [⟨r⟩] [⟨d⟩]) := by
    rintro f ⟨rest, hf⟩
    have hbytes : f.bytes = v :: t :: (r ++ (d ++ rest)) := by
      rw [← hf, List.cons_append, List.cons_append, List.append_assoc]
    exact Logged.value_eq_some_iff.mpr (result_features hr hd hbytes)
  rw [hvalue frame hframe, hvalue frame' hframe']

/-- The operand bytes of a report are a block, or all the bytes of the frame. -/
lemma featuresBlock_or_eq {m : Msg} (hm : (ReportFeatures.ofFrame frame 0).result = .ok m) :
    FeaturesBlock m.operandBytes ∨ m.operandBytes = frame.bytes := by
  obtain ⟨hlen, rfl⟩ := reportFeatures_returns_iff.mp hm
  obtain ⟨v, t, r, rest, hbytes, hr, hrest⟩ := beginsFeatures_iff.mpr hlen
  have hrc : rcLen frame = r.length := by
    rw [rcLen, hbytes]
    exact extensionRun_append hr rest
  have hdrop : frame.bytes.drop (2 + r.length) = rest := by
    rw [hbytes, ← List.drop_drop]
    exact List.drop_left' rfl
  have hoperands : (Msg.reportFeatures ⟨frame.bytes.take 1⟩ ⟨(frame.bytes.drop 1).take 1⟩
      [⟨(frame.bytes.drop 2).take (rcLen frame)⟩]
      [⟨(frame.bytes.drop (2 + rcLen frame)).take (featuresLen frame)⟩]).operandBytes =
      v :: t :: (r ++ rest.take (1 + extensionRun rest)) := by
    simp only [Msg.operandBytes, featuresLen, hrc, hdrop, List.flatMap_cons, List.flatMap_nil,
      List.append_nil]
    rw [hbytes]
    simp
  rw [hoperands]
  by_cases hrun : extensionRun rest < rest.length
  · exact .inl ⟨v, t, r, _, rfl, hr, extensionCoded_take hrun⟩
  · right
    rw [List.take_of_length_le (by omega), hbytes]

lemma value_reportFeatures_iff {F : CECFrame} {s : ℕ} (hs : s ≤ F.length) :
    (ReportFeatures.ofFrame F s).value = (ReportFeatures.ofFrame (F.rest s) 0).value ↔
      OffsetFree .reportFeatures F s := by
  have hzero : ReportFeatures.ofFrame F s = ReportFeatures.ofFrame F 0 := rfl
  rw [hzero]
  constructor
  · intro heq
    cases hvalue : (ReportFeatures.ofFrame F 0).value with
    | none =>
      have hvalue' := heq.symm.trans hvalue
      exact .inr (.inl ⟨value_reportFeatures_eq_none_iff.mp hvalue,
        value_reportFeatures_eq_none_iff.mp hvalue'⟩)
    | some m =>
      have hm := Logged.value_eq_some_iff.mp hvalue
      have hm' := Logged.value_eq_some_iff.mp (heq.symm.trans hvalue)
      have hprefix := (operandBytes_construct .reportFeatures hm).2
      have hprefix' := (operandBytes_construct .reportFeatures hm').2
      rcases featuresBlock_or_eq hm with hblock | hall
      · exact .inr (.inr ⟨_, hblock, hprefix, hprefix'⟩)
      · -- the report takes the whole frame, so it is not found again behind a positive offset
        have hle := hprefix'.length_le
        have hpos := (reportFeatures_returns_iff.mp hm).1
        rw [hall, CECFrame.rest, List.length_drop] at hle
        rw [CECFrame.length] at hpos hs
        left
        omega
  · rintro (rfl | ⟨hnone, hnone'⟩ | ⟨block, hblock, hprefix, hprefix'⟩)
    · rfl
    · rw [value_reportFeatures_eq_none_iff.mpr hnone]
      exact (value_reportFeatures_eq_none_iff.mpr hnone').symm
    · exact value_reportFeatures_of_block hblock hprefix hprefix'

end

/-! ### All classes -/

/-- Decoding from an offset is decoding the rest of the frame exactly where `OffsetFree` says so:
for nineteen of the twenty-two classes always. -/
theorem offset_independent_iff (M : MessageClass) (F : CECFrame) (s : ℕ) (hs : s ≤ F.length) :
    OffsetIndependent M F s ↔ OffsetFree M F s := by
  rw [offsetIndependent_iff]
  cases M with
  | requestShortAudioDescriptor => exact value_requestShortAudioDescriptor_iff hs
  | reportShortAudioDescriptor => exact value_reportShortAudioDescriptor_iff hs
  | reportFeatures => exact value_reportFeatures_iff hs
  | reportPhysicalAddress => exact iff_of_true (value_second hs (by decide) _) trivial
  | routingChange => exact iff_of_true (value_second hs (by decide) _) trivial
  | featureAbort => exact iff_of_true (value_featureAbort hs) trivial
  | systemAudioModeRequest => exact iff_of_true (value_address hs _) trivial
  | requestCurrentLatency => exact iff_of_true (value_address hs _) trivial
  | reportCurrentLatency => exact iff_of_true (value_reportCurrentLatency hs) trivial
  | _ => exact iff_of_true (value_single hs _) trivial

/-- A report behind two bytes of header. -/
theorem offset_independent_activeSource :
    OffsetIndependent .activeSource ⟨[0x4F, 0x82, 0x10, 0x00], by decide⟩ 2 :=
  (offset_independent_iff .activeSource ⟨[0x4F, 0x82, 0x10, 0x00], by decide⟩ 2 (by decide)).mpr
    trivial

/-- Behind the header the features report reads the header as its version. -/
theorem offset_lost_reportFeatures :
    ¬ OffsetIndependent .reportFeatures ⟨[0x4F, 0xA6, 0x06, 0x10, 0x02, 0x01], by decide⟩ 2 := by
  rw [offsetIndependent_iff]
  decide +kernel

end HdmiCec
