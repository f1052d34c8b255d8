import HdmiCec.Codec.Values

/-!
# The features report and the lengths of operands

Two operands of `ReportFeatures` have no fixed length: bit 7 of a byte announces another one. A
report of such operands comes back as it was sent. What the decoder does not look at is how long
they get: of all the operands that it constructs, these two alone can have more bytes than their
classes allow.
-/

namespace HdmiCec

open Lib MessageDecoder

/-! ### Extension bits -/

/-- The bytes of one operand: all but the last announce another byte. -/
def ExtensionCoded : List UInt8 → Prop
  | [] => False
  | [b] => b &&& 0x80 = 0
  | b :: bs => b &&& 0x80 ≠ 0 ∧ ExtensionCoded bs

instance decidableExtensionCoded : (bs : List UInt8) → Decidable (ExtensionCoded bs)
  | [] => inferInstanceAs (Decidable False)
  | [b] => inferInstanceAs (Decidable (b &&& 0x80 = 0))
  | b :: b' :: bs =>
    have := decidableExtensionCoded (b' :: bs)
    inferInstanceAs (Decidable (b &&& 0x80 ≠ 0 ∧ ExtensionCoded (b' :: bs)))

/-- The bytes before the last one are counted, whatever follows. -/
lemma extensionRun_append {bs : List UInt8} (h : ExtensionCoded bs) (rest : List UInt8) :
    1 + extensionRun (bs ++ rest) = bs.length := by
  induction bs with
  | nil => exact h.elim
  | cons b bs ih =>
    cases bs with
    | nil =>
      have hb : b &&& 0x80 = 0 := h
      simp [extensionRun, hb]
    | cons b' bs =>
      obtain ⟨hb, hbs⟩ := h
      have ih := ih hbs
      rw [List.cons_append, extensionRun, if_pos hb, List.length_cons]
      omega

/-- The getters of the values find all the bytes. -/
lemma extensionBytes_coded {bs : List UInt8} (h : ExtensionCoded bs) : extensionBytes bs = bs := by
  induction bs with
  | nil => exact h.elim
  | cons b bs ih =>
    cases bs with
    | nil =>
      have hb : b &&& 0x80 = 0 := h
      simp [extensionBytes, hb]
    | cons b' bs =>
      obtain ⟨hb, hbs⟩ := h
      rw [extensionBytes, if_pos hb, ih hbs]

lemma ExtensionCoded.pos {bs : List UInt8} (h : ExtensionCoded bs) : 1 ≤ bs.length := by
  cases bs with
  | nil => exact h.elim
  | cons b bs => exact Nat.succ_pos _

/-! ### The round trip -/

/-- The loop copies a vector that its counter can index. -/
lemma copyLoop_eq {α : Type} (vec : List α) (hvec : vec.length ≤ 255) (fuel : ℕ) (i : UInt8)
    (hi : i.toNat ≤ vec.length) (hfuel : vec.length < i.toNat + fuel) (out : List α) :
    copyLoop vec fuel i out = some (out ++ vec.drop i.toNat) := by
  induction fuel generalizing i out with
  | zero => omega
  | succ fuel ih =>
    by_cases hlt : i.toNat < vec.length
    · have hnext : (i + 1).toNat = i.toNat + 1 := by
        rw [UInt8.toNat_add]
        exact Nat.mod_eq_of_lt (by simp only [UInt8.reduceToNat]; omega)
      rw [copyLoop, List.getElem?_eq_getElem hlt]
      dsimp only
      rw [ih (i + 1) (by omega) (by omega), hnext, List.drop_eq_getElem_cons hlt, List.append_assoc,
        List.singleton_append]
    · have hge : vec.length ≤ i.toNat := Nat.not_lt.mp hlt
      rw [copyLoop, List.getElem?_eq_none hge, List.drop_eq_nil_of_le hge, List.append_nil]

lemma result_reportFeatures {fuel : ℕ} {version : Version} {types : AllDeviceTypes}
    {profiles : List RcProfile} {features : List DeviceFeatures} (hp : profiles.length < fuel)
    (hf : features.length < fuel) (hfuel : fuel ≤ 256) :
    ReportFeatures.new fuel version types profiles features =
      some (.reportFeatures version types profiles features) := by
  have hzero : (0 : UInt8).toNat = 0 := rfl
  have hprofiles := copyLoop_eq profiles (by omega) fuel 0 (by omega) (by omega) []
  have hfeatures := copyLoop_eq features (by omega) fuel 0 (by omega) (by omega) []
  simp only [ReportFeatures.new, hprofiles, hfeatures, hzero, List.drop_zero, List.nil_append]
  rfl

/-- The loops of the constructor stop where the operands were put together. -/
lemma result_features {frame : CECFrame} {v t : UInt8} {r d rest : List UInt8}
    (hr : ExtensionCoded r) (hd : ExtensionCoded d)
    (hframe : frame.bytes = v :: t :: (r ++ (d ++ rest))) :
    (ReportFeatures.ofFrame frame 0).result =
      .ok (.reportFeatures (.ofByte v) (.ofByte t) [⟨r⟩] [⟨d⟩]) := by
  have hpos := hd.pos
  have hrc : rcLen frame = r.length := by
    rw [rcLen, hframe]
    exact extensionRun_append hr _
  have hrest : frame.bytes.drop (2 + r.length) = d ++ rest := by
    rw [hframe, ← List.drop_drop]
    exact List.drop_left' rfl
  have hfeatures : featuresLen frame = d.length := by
    rw [featuresLen, hrc, hrest, extensionRun_append hd]
  rw [reportFeatures_returns_iff, hrc, hfeatures, hrest, CECFrame.length, hframe]
  refine ⟨?_, ?_⟩
  · simp only [List.length_cons, List.length_append]
    omega
  · simp [CECBytes.ofByte]

/-- A report of extension-coded operands, one byte for each element of the vectors, comes back with
the bytes of each vector in a single operand. -/
theorem reportFeatures_roundTrip (P : Processor) {x y : ℕ} (hx : x < 16) (hy : y < 16)
    (v t : UInt8) (r d : List UInt8) (hr : ExtensionCoded r) (hd : ExtensionCoded d)
    (hlen : r.length + d.length ≤ 124) :
    ∃ fuel m g, ∃ (profile : RcProfile) (features : DeviceFeatures),
      ReportFeatures.new fuel (.ofByte v) (.ofByte t) (r.map .ofByte) (d.map .ofByte) = some m ∧
      (MessageEncoder.encode (.ofInts x y) m).result = .ok g ∧
      calls (decode P g) =
        [(.reportFeatures (.ofByte v) (.ofByte t) [profile] [features], .ofInts x y)] ∧
      profile.getRcProfileVal = r ∧ features.getDeviceFeaturesVal = d := by
  have hnew : ReportFeatures.new 125 (.ofByte v) (.ofByte t) (r.map .ofByte) (d.map .ofByte) =
      some (.reportFeatures (.ofByte v) (.ofByte t) (r.map .ofByte) (d.map .ofByte)) := by
    apply result_reportFeatures
    · rw [List.length_map]
      omega
    · rw [List.length_map]
      omega
    · decide
  have hbytes : (Msg.reportFeatures (.ofByte v) (.ofByte t) (r.map .ofByte)
      (d.map .ofByte)).operandBytes = v :: t :: (r ++ d) := by
    simp only [Msg.operandBytes, flatMap_ofByte]
    rfl
  have hfits : (Msg.reportFeatures (.ofByte v) (.ofByte t) (r.map .ofByte)
      (d.map .ofByte)).operandBytes.length ≤ 126 := by
    rw [hbytes, List.length_cons, List.length_cons, List.length_append]
    omega
  obtain ⟨g, hg, hframe, -, hcalls⟩ := calls_encoded (m := .reportFeatures (.ofByte v) (.ofByte t)
    (r.map .ofByte) (d.map .ofByte)) P (by simp) .reportFeatures hfits hx hy
  rw [hbytes] at hframe
  rw [← List.append_nil d] at hframe
  rw [result_features hr hd hframe] at hcalls
  exact ⟨125, _, g, ⟨r⟩, ⟨d⟩, hnew, hg, hcalls, extensionBytes_coded hr, extensionBytes_coded hd⟩

/-- A profile of two bytes and features of three. -/
theorem reportFeatures_roundTrip_extended :
    ∃ fuel m g, ∃ (profile : RcProfile) (features : DeviceFeatures),
      ReportFeatures.new fuel (.ofByte 6) (.ofByte 0x10) ([0xC1, 0x02].map .ofByte)
        ([0x81, 0x82, 0x03].map .ofByte) = some m ∧
      (MessageEncoder.encode (.ofInts (4 : ℕ) (15 : ℕ)) m).result = .ok g ∧
      calls (decode (fun _ _ => .ok ()) g) =
        [(.reportFeatures (.ofByte 6) (.ofByte 0x10) [profile] [features],
          .ofInts (4 : ℕ) (15 : ℕ))] ∧
      profile.getRcProfileVal = [0xC1, 0x02] ∧
      features.getDeviceFeaturesVal = [0x81, 0x82, 0x03] :=
  reportFeatures_roundTrip (fun _ _ => .ok ()) (x := 4) (y := 15) (by decide) (by decide) 6 0x10
    [0xC1, 0x02] [0x81, 0x82, 0x03] (by decide) (by decide) (by decide)

/-! ### The lengths of operands -/

/-- The operands of a message that derive from `CECBytes`, each with its class. -/
def Msg.operands : Msg → List (Σ c, CECBytes c)
  | activeSource o | inActiveSource o | routingInformation o | setStreamPath o
  | systemAudioModeRequest o | requestCurrentLatency o => [⟨_, o⟩]
  | cecVersion o => [⟨_, o⟩]
  | setMenuLanguage o => [⟨_, o⟩]
  | setOSDName o => [⟨_, o⟩]
  | setOSDString o => [⟨_, o⟩]
  | reportPhysicalAddress physicalAddress deviceType => [⟨_, physicalAddress⟩, ⟨_, deviceType⟩]
  | deviceVendorID o => [⟨_, o⟩]
  | reportPowerStatus o => [⟨_, o⟩]
  | featureAbort _ reason => [⟨_, reason⟩]
  | routingChange fromAddr toAddr => [⟨_, fromAddr⟩, ⟨_, toAddr⟩]
  | requestShortAudioDescriptor formats _ => formats.map fun o => ⟨_, o⟩
  | reportShortAudioDescriptor descriptors _ => descriptors.map fun o => ⟨_, o⟩
  | setSystemAudioMode o => [⟨_, o⟩]
  | reportAudioStatus o => [⟨_, o⟩]
  | userControlPressed o => [⟨_, o⟩]
  | reportFeatures version allDeviceTypes rcProfile deviceFeatures =>
    ⟨_, version⟩ :: ⟨_, allDeviceTypes⟩ ::
      ((rcProfile.map fun o => ⟨_, o⟩) ++ deviceFeatures.map fun o => ⟨_, o⟩)
  | reportCurrentLatency o latencyInfo => ⟨_, o⟩ :: latencyInfo.map fun o => ⟨_, o⟩
  | _ => []

/-- The operand has a byte, and no more than `getMaxLen()` of its class. -/
def CECBytes.InLimit {c : OperandClass} (o : CECBytes c) : Prop :=
  1 ≤ o.str.length ∧ o.str.length ≤ c.maxLen

/-- An operand that begins with four bytes announcing another one, and goes on after them. -/
def LongOperand (bs : List UInt8) : Prop :=
  5 ≤ bs.length ∧ ∀ b ∈ bs.take 4, b &&& 0x80 ≠ 0

/-- A features report with an operand of more than four bytes: the profile, which begins at the
third operand byte, or the features behind the first byte that ends the profile. -/
def Overlong (f : CECFrame) : Prop :=
  f.bytes[1]? = some 0xA6 ∧
    (LongOperand (f.bytes.drop 4) ∨
      LongOperand (((f.bytes.drop 4).dropWhile fun b => b &&& 0x80 ≠ 0).tail))

section

variable {bs : List UInt8}

lemma le_extensionRun_iff (n : ℕ) (h : n ≤ bs.length) :
    n ≤ extensionRun bs ↔ ∀ b ∈ bs.take n, b &&& 0x80 ≠ 0 := by
  induction bs generalizing n with
  | nil =>
    obtain rfl : n = 0 := Nat.le_zero.mp h
    simp
  | cons b bs ih =>
    cases n with
    | zero => simp
    | succ n =>
      have ih := ih n (Nat.le_of_succ_le_succ h)
      rw [extensionRun, List.take_succ_cons, List.forall_mem_cons]
      split
      · rename_i hb
        rw [Nat.add_le_add_iff_right, ih]
        exact ⟨fun hall => ⟨hb, hall⟩, fun hall => hall.2⟩
      · rename_i hb
        exact ⟨fun hn => absurd hn (Nat.not_succ_le_zero n), fun hall => absurd hall.1 hb⟩

/-- An operand is long when what it announces, as far as it is there, is more than four bytes. -/
lemma longOperand_iff : LongOperand bs ↔ 4 < (bs.take (1 + extensionRun bs)).length := by
  rw [LongOperand, List.length_take]
  constructor
  · rintro ⟨hlen, hall⟩
    have := (le_extensionRun_iff 4 (by omega)).mpr hall
    omega
  · intro h
    exact ⟨by omega, (le_extensionRun_iff 4 (by omega)).mp (by omega)⟩

/-- What follows an operand. -/
lemma drop_extensionRun (bs : List UInt8) :
    bs.drop (1 + extensionRun bs) = (bs.dropWhile fun b => b &&& 0x80 ≠ 0).tail := by
  induction bs with
  | nil => rfl
  | cons b bs ih =>
    rw [extensionRun, List.dropWhile_cons]
    by_cases hb : b &&& 0x80 ≠ 0
    · rw [if_pos hb, if_pos (decide_eq_true hb), ← ih, Nat.add_comm, List.drop_succ_cons,
        Nat.add_comm]
    · rw [if_neg hb, if_neg (by simpa using hb)]
      rfl

end

variable {frame : CECFrame} {m : Msg}

/-- A slice of at most the class's length that begins inside the frame. -/
lemma inLimit_slice {c : OperandClass} {n : ℕ} (h : n < frame.length) :
    (⟨(frame.bytes.drop n).take c.maxLen⟩ : CECBytes c).InLimit := by
  have hpos : 1 ≤ c.maxLen := by cases c <;> decide
  rw [CECFrame.length] at h
  rw [CECBytes.InLimit, List.length_take, List.length_drop]
  omega

lemma inLimit_take {c : OperandClass} (h : 0 < frame.length) :
    (⟨frame.bytes.take c.maxLen⟩ : CECBytes c).InLimit := inLimit_slice h

/-- The operands of a message that is not a features report keep to their limits. -/
lemma inLimit_construct {op : OpT} {construct : CECFrame → Ccec Msg} (hl : Layout op construct)
    (hop : op ≠ Op.reportFeatures) (hm : (construct frame).result = .ok m) :
    ∀ o ∈ m.operands, o.2.InLimit := by
  cases hl with
  | plain hplain =>
    cases hm
    cases hplain <;> exact List.forall_mem_nil _
  | standby =>
    cases hm
    exact List.forall_mem_nil _
  | single hk =>
    obtain ⟨hlen, rfl⟩ := single_returns_iff.mp hm
    cases hk <;> exact List.forall_mem_singleton.mpr (inLimit_take hlen)
  | reportPhysicalAddress =>
    obtain ⟨hlen, rfl⟩ := reportPhysicalAddress_returns_iff.mp hm
    exact List.forall_mem_cons.mpr ⟨inLimit_take (by omega),
      List.forall_mem_singleton.mpr (inLimit_slice hlen)⟩
  | featureAbort =>
    obtain ⟨hlen, rfl⟩ := featureAbort_returns_iff.mp hm
    exact List.forall_mem_singleton.mpr (inLimit_slice hlen)
  | routingChange =>
    obtain ⟨hlen, rfl⟩ := routingChange_returns_iff.mp hm
    exact List.forall_mem_cons.mpr ⟨inLimit_take (by omega),
      List.forall_mem_singleton.mpr (inLimit_slice hlen)⟩
  | requestShortAudioDescriptor =>
    rw [requestShortAudioDescriptor_returns] at hm
    cases hm
    simp only [Msg.operands, List.forall_mem_map, List.mem_range]
    intro i hi
    exact inLimit_slice (by omega)
  | reportShortAudioDescriptor =>
    rw [reportShortAudioDescriptor_returns] at hm
    cases hm
    simp only [Msg.operands, List.forall_mem_map, List.mem_range]
    intro i hi
    exact inLimit_slice (by omega)
  | systemAudioModeRequest =>
    obtain ⟨hlen, rfl⟩ := systemAudioModeRequest_returns_iff.mp hm
    exact List.forall_mem_singleton.mpr (inLimit_take hlen)
  | reportFeatures => exact absurd rfl hop
  | requestCurrentLatency =>
    obtain ⟨hlen, rfl⟩ := requestCurrentLatency_returns_iff.mp hm
    exact List.forall_mem_singleton.mpr (inLimit_take hlen)
  | reportCurrentLatency =>
    obtain ⟨hlen, rfl⟩ := reportCurrentLatency_returns_iff.mp hm
    exact List.forall_mem_cons.mpr ⟨inLimit_take (by omega),
      List.forall_mem_singleton.mpr (inLimit_slice hlen)⟩

/-- The operands of a features report keep to their limits when neither of the two is long. -/
lemma inLimit_reportFeatures_iff (hm : (ReportFeatures.ofFrame frame 0).result = .ok m) :
    (∀ o ∈ m.operands, o.2.InLimit) ↔ ¬ (LongOperand (frame.bytes.drop 2) ∨
      LongOperand (((frame.bytes.drop 2).dropWhile fun b => b &&& 0x80 ≠ 0).tail)) := by
  obtain ⟨hlen, rfl⟩ := reportFeatures_returns_iff.mp hm
  have hversion : (⟨frame.bytes.take 1⟩ : Version).InLimit := inLimit_take (by omega)
  have htypes : (⟨(frame.bytes.drop 1).take 1⟩ : AllDeviceTypes).InLimit := inLimit_slice (by omega)
  have hpos : 1 ≤ ((frame.bytes.drop 2).take (rcLen frame)).length := by
    rw [CECFrame.length] at hlen
    rw [List.length_take, List.length_drop, rcLen]
    omega
  have hpos' : 1 ≤ ((frame.bytes.drop (2 + rcLen frame)).take (featuresLen frame)).length := by
    rw [CECFrame.length] at hlen
    rw [List.length_take, List.length_drop, featuresLen]
    omega
  rw [← drop_extensionRun, List.drop_drop, longOperand_iff, longOperand_iff]
  have hall : (∀ o ∈ (Msg.reportFeatures ⟨frame.bytes.take 1⟩ ⟨(frame.bytes.drop 1).take 1⟩
      [⟨(frame.bytes.drop 2).take (rcLen frame)⟩]
      [⟨(frame.bytes.drop (2 + rcLen frame)).take (featuresLen frame)⟩]).operands, o.2.InLimit) ↔
      ((frame.bytes.drop 2).take (rcLen frame)).length ≤ 4 ∧
        ((frame.bytes.drop (2 + rcLen frame)).take (featuresLen frame)).length ≤ 4 := by
    simp only [Msg.operands, List.map_cons, List.map_nil, List.forall_mem_cons,
      List.singleton_append]
    constructor
    · rintro ⟨-, -, hprofile, hfeatures, -⟩
      exact ⟨hprofile.2, hfeatures.2⟩
    · rintro ⟨hprofile, hfeatures⟩
      exact ⟨hversion, htypes, ⟨hpos, hprofile⟩, ⟨hpos', hfeatures⟩, List.forall_mem_nil _⟩
  rw [hall, not_or, Nat.not_lt, Nat.not_lt]
  rfl

/-- The operands of a delivered message keep to the limits of their classes exactly when the frame
is not a features report with an overlong operand. -/
theorem operands_inLimit_iff (P : Processor) (f : CECFrame) (m : Msg) (h : Header)
    (hcall : (m, h) ∈ calls (decode P f)) :
    (∀ o ∈ m.operands, o.2.InLimit) ↔ ¬ Overlong f := by
  rw [calls_decode, Option.mem_toList] at hcall
  match hf : f.bytes with
  | [] => simp [delivered, hf] at hcall
  | [b] =>
    simp only [delivered, hf, Option.some.injEq, Prod.mk.injEq] at hcall
    obtain ⟨rfl, -⟩ := hcall
    simp [Msg.operands, Overlong, hf]
  | b :: op :: rest =>
    obtain ⟨-, construct, hl, hm⟩ := (delivered_cons hf).mp hcall
    have hbytes : f.operandFrame.bytes = rest := by simp [CECFrame.bytes_operandFrame, hf]
    by_cases hop : op = 0xA6
    · have hbranch := dispatch_of_layout hl
      rw [hop] at hbranch
      cases hbranch
      rw [inLimit_reportFeatures_iff hm, hbytes, Overlong, hf, hop]
      simp
    · have hne : op.toNat ≠ Op.reportFeatures := fun heq => hop (UInt8.toNat_inj.mp heq)
      have hnot : ¬ Overlong f := by
        rintro ⟨hop', -⟩
        rw [hf] at hop'
        exact hop (Option.some.inj hop')
      exact iff_of_true (inLimit_construct hl hne hm) hnot

/-- A profile of four bytes and features of one are delivered and within the limits. -/
theorem operands_inLimit_four :
    (Msg.reportFeatures ⟨[0x06]⟩ ⟨[0x10]⟩ [⟨[0x80, 0x80, 0x80, 0x02]⟩] [⟨[0x01]⟩],
        Header.ofByte 0x4F) ∈ calls (decode (fun _ _ => .ok ())
          ⟨[0x4F, 0xA6, 0x06, 0x10, 0x80, 0x80, 0x80, 0x02, 0x01], by decide⟩) ∧
      ∀ o ∈ (Msg.reportFeatures ⟨[0x06]⟩ ⟨[0x10]⟩ [⟨[0x80, 0x80, 0x80, 0x02]⟩]
        [⟨[0x01]⟩]).operands, o.2.InLimit := by
  have hcall : (Msg.reportFeatures ⟨[0x06]⟩ ⟨[0x10]⟩ [⟨[0x80, 0x80, 0x80, 0x02]⟩] [⟨[0x01]⟩],
      Header.ofByte 0x4F) ∈ calls (decode (fun _ _ => .ok ())
        ⟨[0x4F, 0xA6, 0x06, 0x10, 0x80, 0x80, 0x80, 0x02, 0x01], by decide⟩) := by
    rw [calls_decode]
    decide +kernel
  refine ⟨hcall, (operands_inLimit_iff _ _ _ _ hcall).mpr ?_⟩
  rintro ⟨-, ⟨-, hall⟩ | ⟨hlen, -⟩⟩
  · exact absurd (hall 0x02 (by decide)) (by decide)
  · exact absurd hlen (by decide)

/-- A profile of five bytes is delivered. -/
theorem operand_overlong_delivered :
    ¬ ∀ call ∈ calls (decode (fun _ _ => .ok ())
        ⟨[0x4F, 0xA6, 0x06, 0x10, 0x80, 0x80, 0x80, 0x80, 0x02, 0x01], by decide⟩),
      ∀ o ∈ call.1.operands, o.2.InLimit := by
  intro h
  have hcall : (Msg.reportFeatures ⟨[0x06]⟩ ⟨[0x10]⟩ [⟨[0x80, 0x80, 0x80, 0x80, 0x02]⟩] [⟨[0x01]⟩],
      Header.ofByte 0x4F) ∈ calls (decode (fun _ _ => .ok ())
        ⟨[0x4F, 0xA6, 0x06, 0x10, 0x80, 0x80, 0x80, 0x80, 0x02, 0x01], by decide⟩) := by
    rw [calls_decode]
    decide +kernel
  have hprofile : (⟨[0x80, 0x80, 0x80, 0x80, 0x02]⟩ : RcProfile).InLimit :=
    h _ hcall ⟨.rcProfile, _⟩ (by simp [Msg.operands])
  exact absurd hprofile.2 (by decide)

end HdmiCec
