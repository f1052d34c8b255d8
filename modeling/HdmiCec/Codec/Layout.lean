import HdmiCec.Codec.Properties

/-!
# The layouts of the decoded messages

What the branches of the decoder's `switch` construct, said once: a message without operands, a
message with one operand that takes all its bytes from the front, or one of the messages with a
layout of their own. The properties of the codec are case analyses over `Layout`.
-/

namespace HdmiCec

open Lib

/-- The messages without operands, with their opcodes. -/
inductive Msg.Plain : Msg → OpT → Prop
  | imageViewOn : Plain .imageViewOn Op.imageViewOn
  | textViewOn : Plain .textViewOn Op.textViewOn
  | requestActiveSource : Plain .requestActiveSource Op.requestActiveSource
  | getCECVersion : Plain .getCECVersion Op.getCecVersion
  | getMenuLanguage : Plain .getMenuLanguage Op.getMenuLanguage
  | giveOSDName : Plain .giveOSDName Op.giveOsdName
  | givePhysicalAddress : Plain .givePhysicalAddress Op.givePhysicalAddress
  | giveDeviceVendorID : Plain .giveDeviceVendorID Op.giveDeviceVendorId
  | giveDevicePowerStatus : Plain .giveDevicePowerStatus Op.giveDevicePowerStatus
  | abort : Plain .abort Op.abort
  | userControlReleased : Plain .userControlReleased Op.userControlReleased
  | initiateArc : Plain .initiateArc Op.initiateArc
  | terminateArc : Plain .terminateArc Op.terminateArc
  | giveFeatures : Plain .giveFeatures Op.giveFeatures

/-- The messages with a single operand at the front, with their opcodes. -/
inductive Msg.Single : {c : OperandClass} → (CECBytes c → Msg) → OpT → Prop
  | activeSource : Single Msg.activeSource Op.activeSource
  | inActiveSource : Single Msg.inActiveSource Op.inactiveSource
  | cecVersion : Single Msg.cecVersion Op.cecVersion
  | setMenuLanguage : Single Msg.setMenuLanguage Op.setMenuLanguage
  | setOSDName : Single Msg.setOSDName Op.setOsdName
  | setOSDString : Single Msg.setOSDString Op.setOsdString
  | deviceVendorID : Single Msg.deviceVendorID Op.deviceVendorId
  | reportPowerStatus : Single Msg.reportPowerStatus Op.reportPowerStatus
  | routingInformation : Single Msg.routingInformation Op.routingInformation
  | setStreamPath : Single Msg.setStreamPath Op.setStreamPath
  | setSystemAudioMode : Single Msg.setSystemAudioMode Op.setSystemAudioMode
  | reportAudioStatus : Single Msg.reportAudioStatus Op.reportAudioStatus
  | userControlPressed : Single Msg.userControlPressed Op.userControlPressed

namespace MessageDecoder

/-- The branches of the `switch` that construct a message. -/
inductive Layout : OpT → (CECFrame → Ccec Msg) → Prop
  | plain {m : Msg} {op : OpT} : m.Plain op → Layout op fun _ => pure m
  | standby : Layout Op.standby fun _ => do
      ccecLog logDebug "Decoding STANDBY\r\n"
      pure .standby
  | single {c : OperandClass} {k : CECBytes c → Msg} {op : OpT} :
      Msg.Single k op → Layout op fun frame => k <$> CECBytes.ofFrameAt frame 0
  | reportPhysicalAddress : Layout Op.reportPhysicalAddress (ReportPhysicalAddress.ofFrame · 0)
  | featureAbort : Layout Op.featureAbort (FeatureAbort.ofFrame · 0)
  | routingChange : Layout Op.routingChange (RoutingChange.ofFrame · 0)
  | requestShortAudioDescriptor :
      Layout Op.requestShortAudioDescriptor (RequestShortAudioDescriptor.ofFrame · 0)
  | reportShortAudioDescriptor :
      Layout Op.reportShortAudioDescriptor (ReportShortAudioDescriptor.ofFrame · 0)
  | systemAudioModeRequest : Layout Op.systemAudioModeRequest (SystemAudioModeRequest.ofFrame · 0)
  | reportFeatures : Layout Op.reportFeatures (ReportFeatures.ofFrame · 0)
  | requestCurrentLatency : Layout Op.requestCurrentLatency (RequestCurrentLatency.ofFrame · 0)
  | reportCurrentLatency : Layout Op.reportCurrentLatency (ReportCurrentLatency.ofFrame · 0)

/-- Every branch that constructs a message has one of the layouts. -/
lemma layout_of_dispatch {op : OpT} {construct : CECFrame → Ccec Msg}
    (h : dispatch op = .process construct) : Layout op construct := by
  unfold dispatch at h
  split at h <;> cases h
  all_goals
    first
    | exact .plain (by constructor)
    | exact .single (by constructor)
    | constructor

/-- Every layout belongs to a branch. -/
lemma dispatch_of_layout {op : OpT} {construct : CECFrame → Ccec Msg}
    (h : Layout op construct) : dispatch op = .process construct := by
  cases h with
  | plain h => cases h <;> rfl
  | single h => cases h <;> rfl
  | _ => rfl

/-- What the decoder delivers for a frame with an opcode. -/
lemma delivered_cons {f : CECFrame} {b op : UInt8} {rest : List UInt8} {m : Msg} {h : Header}
    (hf : f.bytes = b :: op :: rest) :
    delivered f = some (m, h) ↔ h = .ofByte b ∧ ∃ construct, Layout op.toNat construct ∧
      (construct f.operandFrame).result = .ok m := by
  simp only [delivered, hf]
  constructor
  · intro hm
    cases hd : dispatch op.toNat with
    | skip => simp [hd] at hm
    | unhandled => simp [hd] at hm
    | process construct =>
      simp only [hd] at hm
      cases hr : (construct f.operandFrame).result with
      | error e => simp [hr] at hm
      | ok m' =>
        simp only [hr, Option.some.injEq, Prod.mk.injEq] at hm
        obtain ⟨rfl, rfl⟩ := hm
        exact ⟨rfl, construct, layout_of_dispatch hd, hr⟩
  · rintro ⟨rfl, construct, hl, hr⟩
    simp only [dispatch_of_layout hl, hr]

/-! ### What the constructors return -/

section

variable {frame : CECFrame} {m : Msg}

lemma single_returns_iff {c : OperandClass} {k : CECBytes c → Msg} :
    (k <$> CECBytes.ofFrameAt frame 0).result = .ok m ↔
      0 < frame.length ∧ m = k ⟨frame.bytes.take c.maxLen⟩ := by
  simp only [map_eq_pure_bind, Logged.returns_bind, CECBytes.ofFrameAt_zero_returns_iff,
    Logged.result_pure, Except.ok.injEq]
  constructor
  · rintro ⟨_, ⟨hlen, rfl⟩, rfl⟩
    exact ⟨hlen, rfl⟩
  · rintro ⟨hlen, rfl⟩
    exact ⟨_, ⟨hlen, rfl⟩, rfl⟩

/-- Two operands, the second behind a physical address. -/
lemma second_returns_iff {c c' : OperandClass} {k : CECBytes c → CECBytes c' → Msg}
    (hc : c.maxLen = 2) :
    ((do
      let first ← CECBytes.ofFrameAt frame 0
      let second ← CECBytes.ofFrameAt frame (0 + c.maxLen)
      pure (k first second) : Ccec Msg)).result = .ok m ↔
      2 < frame.length ∧
        m = k ⟨frame.bytes.take 2⟩ ⟨(frame.bytes.drop 2).take c'.maxLen⟩ := by
  have hpos : (0 + (c.maxLen : ℤ)) = ((2 : ℕ) : ℤ) := by simp [hc]
  rw [hpos]
  simp only [Logged.returns_bind, CECBytes.ofFrameAt_zero_returns_iff,
    CECBytes.ofFrameAt_returns_iff (n := 2) (by decide), Logged.result_pure, Except.ok.injEq]
  constructor
  · rintro ⟨first, ⟨-, rfl⟩, second, ⟨hlen, rfl⟩, rfl⟩
    exact ⟨hlen, by rw [hc]⟩
  · rintro ⟨hlen, rfl⟩
    exact ⟨_, ⟨by omega, rfl⟩, _, ⟨hlen, rfl⟩, by rw [hc]⟩

lemma reportPhysicalAddress_returns_iff :
    (ReportPhysicalAddress.ofFrame frame 0).result = .ok m ↔
      2 < frame.length ∧
        m = .reportPhysicalAddress ⟨frame.bytes.take 2⟩ ⟨(frame.bytes.drop 2).take 1⟩ :=
  second_returns_iff rfl

lemma routingChange_returns_iff :
    (RoutingChange.ofFrame frame 0).result = .ok m ↔
      2 < frame.length ∧ m = .routingChange ⟨frame.bytes.take 2⟩ ⟨(frame.bytes.drop 2).take 2⟩ :=
  second_returns_iff rfl

lemma featureAbort_returns_iff :
    (FeatureAbort.ofFrame frame 0).result = .ok m ↔
      1 < frame.length ∧
        m = .featureAbort ⟨(frame.bytes.getD 0 0).toNat⟩ ⟨(frame.bytes.drop 1).take 1⟩ := by
  have hzero : sizeT 0 = 0 := rfl
  have hone : (0 + OpCode.maxLen) = ((1 : ℕ) : ℤ) := rfl
  simp only [FeatureAbort.ofFrame, OpCode.ofFrame, hzero, hone, Logged.returns_bind,
    CECBytes.ofFrameAt_returns_iff (n := 1) (by decide), Logged.result_pure, Except.ok.injEq]
  by_cases hlen : 0 < frame.length
  · simp only [CECFrame.byteAt_of_lt hlen, Logged.result_pure, Except.ok.injEq]
    constructor
    · rintro ⟨_, ⟨_, rfl, rfl⟩, _, ⟨hlen', rfl⟩, rfl⟩
      exact ⟨hlen', rfl⟩
    · rintro ⟨hlen', rfl⟩
      exact ⟨_, ⟨_, rfl, rfl⟩, _, ⟨hlen', rfl⟩, rfl⟩
  · simp only [CECFrame.byteAt_of_ge (Nat.not_lt.mp hlen), reduceCtorEq, false_and, exists_false,
      false_iff]
    omega

/-- A constructor that takes `count` operands, `width` bytes apart. -/
def countedOfFrame {c : OperandClass} (k : List (CECBytes c) → ℕ → Msg) (width count : ℕ)
    (frame : CECFrame) (startPos : ℤ) : Ccec Msg := do
  let os ← Logged.collect (fun i : ℕ => CECBytes.ofFrameAt frame (startPos + (i * width : ℕ)))
    (List.range count)
  pure (k os count)

/-- The operands are there when the frame is long enough. -/
lemma result_countedOfFrame {c : OperandClass} (k : List (CECBytes c) → ℕ → Msg) {width count : ℕ}
    (hwidth : 0 < width) (h : count * width ≤ frame.length) :
    (countedOfFrame k width count frame 0).result =
      .ok (k ((List.range count).map fun i => ⟨(frame.bytes.drop (i * width)).take c.maxLen⟩)
        count) := by
  have hg : frame.length ≤ 128 := frame.length_le
  have hcollect : (Logged.collect
      (fun i : ℕ => (CECBytes.ofFrameAt frame (0 + (i * width : ℕ)) : Ccec (CECBytes c)))
      (List.range count)).result =
      .ok ((List.range count).map fun i => ⟨(frame.bytes.drop (i * width)).take c.maxLen⟩) := by
    refine Logged.result_collect fun i hi => ?_
    have hin : i * width < count * width :=
      Nat.mul_lt_mul_of_pos_right (List.mem_range.mp hi) hwidth
    rw [zero_add, CECBytes.ofFrameAt_returns_iff (by omega)]
    exact ⟨by omega, rfl⟩
  exact Logged.result_bind_of_ok hcollect

lemma requestShortAudioDescriptor_eq (frame : CECFrame) (startPos : ℤ) :
    RequestShortAudioDescriptor.ofFrame frame startPos =
      countedOfFrame .requestShortAudioDescriptor 1 (min 4 frame.length) frame startPos := by
  have hg : frame.length ≤ 128 := frame.length_le
  have hcount : (if frame.length % 256 > 4 then 4 else frame.length % 256) = min 4 frame.length := by
    split <;> omega
  simp only [RequestShortAudioDescriptor.ofFrame, countedOfFrame, hcount, Nat.mul_one]

lemma reportShortAudioDescriptor_eq (frame : CECFrame) (startPos : ℤ) :
    ReportShortAudioDescriptor.ofFrame frame startPos =
      countedOfFrame .reportShortAudioDescriptor 3 (frame.length / 3) frame startPos := by
  have hg : frame.length ≤ 128 := frame.length_le
  have hcount : frame.length / 3 % 256 = frame.length / 3 := by omega
  simp only [ReportShortAudioDescriptor.ofFrame, countedOfFrame, hcount, Nat.cast_mul,
    Nat.cast_ofNat]

lemma requestShortAudioDescriptor_returns :
    (RequestShortAudioDescriptor.ofFrame frame 0).result
      = .ok (.requestShortAudioDescriptor
          ((List.range (min 4 frame.length)).map fun i => ⟨(frame.bytes.drop i).take 1⟩)
          (min 4 frame.length)) := by
  rw [requestShortAudioDescriptor_eq, result_countedOfFrame _ (by decide) (by omega)]
  simp only [Nat.mul_one]
  rfl

lemma reportShortAudioDescriptor_returns :
    (ReportShortAudioDescriptor.ofFrame frame 0).result
      = .ok (.reportShortAudioDescriptor
          ((List.range (frame.length / 3)).map fun i => ⟨(frame.bytes.drop (i * 3)).take 3⟩)
          (frame.length / 3)) := by
  rw [reportShortAudioDescriptor_eq, result_countedOfFrame _ (by decide) (by omega)]
  rfl

/-- An address alone. The body's default is for a frame without operands, which has already
raised. -/
lemma address_returns_iff {k : PhysicalAddress → Msg} :
    ((do
      let physicaladdress ← CECBytes.ofFrameAt frame 0
      if frame.length = 0 then pure (k (.ofNibbles 0xf 0xf 0xf 0xf))
      else pure (k physicaladdress) : Ccec Msg)).result = .ok m ↔
      0 < frame.length ∧ m = k ⟨frame.bytes.take 2⟩ := by
  simp only [Logged.returns_bind, CECBytes.ofFrameAt_zero_returns_iff]
  constructor
  · rintro ⟨_, ⟨hlen, rfl⟩, hm⟩
    rw [if_neg (by omega)] at hm
    cases hm
    exact ⟨hlen, rfl⟩
  · rintro ⟨hlen, rfl⟩
    refine ⟨_, ⟨hlen, rfl⟩, ?_⟩
    rw [if_neg (by omega)]
    rfl

lemma systemAudioModeRequest_returns_iff :
    (SystemAudioModeRequest.ofFrame frame 0).result = .ok m ↔
      0 < frame.length ∧ m = .systemAudioModeRequest ⟨frame.bytes.take 2⟩ :=
  address_returns_iff

lemma requestCurrentLatency_returns_iff :
    (RequestCurrentLatency.ofFrame frame 0).result = .ok m ↔
      0 < frame.length ∧ m = .requestCurrentLatency ⟨frame.bytes.take 2⟩ :=
  address_returns_iff

/-- The report from an offset. `LatencyInfo` gets at most three bytes: the length of the whole frame
is cut to five, and the operand ends with the frame anyway. -/
lemma reportCurrentLatency_returns_iff_of_le {s : ℕ} (hs : s ≤ frame.length) :
    (ReportCurrentLatency.ofFrame frame s).result = .ok m ↔
      s + 2 < frame.length ∧ m = .reportCurrentLatency ⟨(frame.bytes.drop s).take 2⟩
        [⟨(frame.bytes.drop (s + 2)).take 3⟩] := by
  have hg : frame.length ≤ 128 := frame.length_le
  have hcast : ((s : ℤ) + 2) = ((s + 2 : ℕ) : ℤ) := by push_cast; rfl
  have hsize : ∀ i : ℤ, sizeT i < 2 ^ 64 := fun i => by simp only [sizeT]; omega
  have hlen : s + 2 < frame.length →
      sizeT (((if frame.length % 256 > 5 then 5 else frame.length % 256 : ℕ) : ℤ) - 2)
        = min 3 (frame.length - 2) := by
    intro h
    simp only [sizeT]
    split <;> omega
  have htake : (frame.bytes.drop (s + 2)).take (min 3 (frame.length - 2))
      = (frame.bytes.drop (s + 2)).take 3 := by
    rw [List.take_eq_take_iff]
    simp only [CECFrame.length, List.length_drop]
    omega
  simp only [ReportCurrentLatency.ofFrame, hcast,
    CECBytes.sizeT_natCast (show s + 2 < 2 ^ 64 by omega), Logged.returns_bind,
    CECBytes.ofFrameAt_returns_iff (show s < 2 ^ 32 by omega), Logged.result_pure, Except.ok.injEq,
    CECBytes.ofFrame_returns_iff (show s + 2 < 2 ^ 64 by omega) (hsize _)]
  constructor
  · rintro ⟨_, ⟨-, rfl⟩, _, ⟨h, -, -, rfl⟩, rfl⟩
    exact ⟨h, by rw [hlen h, htake]; rfl⟩
  · rintro ⟨h, rfl⟩
    rw [hlen h, htake]
    exact ⟨_, ⟨by omega, rfl⟩, _, ⟨h, by omega, by omega, rfl⟩, rfl⟩

lemma reportCurrentLatency_returns_iff :
    (ReportCurrentLatency.ofFrame frame 0).result = .ok m ↔
      2 < frame.length ∧
        m = .reportCurrentLatency ⟨frame.bytes.take 2⟩ [⟨(frame.bytes.drop 2).take 3⟩] := by
  simpa using reportCurrentLatency_returns_iff_of_le (m := m) (Nat.zero_le frame.length)

lemma extensionRun_le (bs : List UInt8) : extensionRun bs ≤ bs.length := by
  induction bs with
  | nil => simp [extensionRun]
  | cons b bs ih =>
    simp only [extensionRun, List.length_cons]
    split <;> omega

/-- The number of bytes that the remote control profile announces. -/
def rcLen (frame : CECFrame) : ℕ := 1 + extensionRun (frame.bytes.drop 2)

/-- The number of bytes that the device features announce. -/
def featuresLen (frame : CECFrame) : ℕ := 1 + extensionRun (frame.bytes.drop (2 + rcLen frame))

lemma rcLen_le (frame : CECFrame) : rcLen frame ≤ 1 + (frame.length - 2) := by
  simpa [rcLen, CECFrame.length] using extensionRun_le (frame.bytes.drop 2)

lemma featuresLen_le (frame : CECFrame) : featuresLen frame ≤ 1 + frame.length := by
  have := extensionRun_le (frame.bytes.drop (2 + rcLen frame))
  simp only [List.length_drop] at this
  simp only [featuresLen, CECFrame.length]
  omega

/-- The constructor with its positions worked out: nothing wraps. -/
lemma reportFeatures_eq :
    ReportFeatures.ofFrame frame 0 = (do
      let version ← CECBytes.ofFrameAt frame 0
      let allDeviceTypes ← CECBytes.ofFrameAt frame ((1 : ℕ) : ℤ)
      ccecLog logInfo ("Features Buffer ----> Frame Length:  " ++ toString frame.length ++ "\n")
      Logged.each (fun b : UInt8 => ccecLog logInfo (hex02 b ++ " :\n")) frame.bytes
      let rcProfile ← CECBytes.ofFrame frame 2 (rcLen frame)
      let deviceFeatures ← CECBytes.ofFrame frame (2 + rcLen frame) (featuresLen frame)
      pure (.reportFeatures version allDeviceTypes [rcProfile] [deviceFeatures])) := by
  have hg : frame.length ≤ 128 := frame.length_le
  have hrc := rcLen_le frame
  have hstart : sizeAdd (sizeAdd (sizeT 0) (rcLen frame)) 2 = 2 + rcLen frame := by
    simp only [sizeAdd, show sizeT 0 = 0 from rfl]
    omega
  have hlen : featuresLen frame = 1 + extensionRun (frame.bytes.drop (rcLen frame + 2)) := by
    rw [featuresLen, Nat.add_comm 2]
  simp only [ReportFeatures.ofFrame, ← hstart, hlen]
  rfl

/-- The remote control profile and the device features are there, each with the bytes that its
extension bits announce, or as many of them as the frame has. -/
lemma reportFeatures_returns_iff :
    (ReportFeatures.ofFrame frame 0).result = .ok m ↔
      2 + rcLen frame < frame.length ∧
        m = .reportFeatures ⟨frame.bytes.take 1⟩ ⟨(frame.bytes.drop 1).take 1⟩
          [⟨(frame.bytes.drop 2).take (rcLen frame)⟩]
          [⟨(frame.bytes.drop (2 + rcLen frame)).take (featuresLen frame)⟩] := by
  have hg : frame.length ≤ 128 := frame.length_le
  have hrc := rcLen_le frame
  have hrc' : 0 < rcLen frame := by simp only [rcLen]; omega
  have hfeatures := featuresLen_le frame
  have hfeatures' : 0 < featuresLen frame := by simp only [featuresLen]; omega
  have hdump : (Logged.each (fun b => ccecLog logInfo (hex02 b ++ " :\n")) frame.bytes).result
      = .ok () := Logged.result_each fun _ _ => rfl
  simp only [reportFeatures_eq, Logged.returns_bind, CECBytes.ofFrameAt_zero_returns_iff,
    CECBytes.ofFrameAt_returns_iff (show 1 < 2 ^ 32 by decide), hdump, Logged.result_pure,
    Except.ok.injEq, CECBytes.ofFrame_returns_iff (show 2 < 2 ^ 64 by decide)
      (show rcLen frame < 2 ^ 64 by omega),
    CECBytes.ofFrame_returns_iff (show 2 + rcLen frame < 2 ^ 64 by omega)
      (show featuresLen frame < 2 ^ 64 by omega)]
  constructor
  · rintro ⟨_, ⟨-, rfl⟩, _, ⟨-, rfl⟩, _, -, _, -, _, ⟨-, -, -, rfl⟩, _, ⟨h, -, -, rfl⟩, rfl⟩
    exact ⟨h, rfl⟩
  · rintro ⟨h, rfl⟩
    exact ⟨_, ⟨by omega, rfl⟩, _, ⟨by omega, rfl⟩, (), rfl, (), trivial,
      _, ⟨by omega, hrc', by omega, rfl⟩, _, ⟨h, hfeatures', by omega, rfl⟩, rfl⟩

end

end MessageDecoder

end HdmiCec
