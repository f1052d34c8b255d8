import HdmiCec.Codec.Encoding
import HdmiCec.Codec.Layout

/-!
# Round trips

Decoding undoes encoding on the regular message formats, and encoding undoes decoding up to the
operand bytes that the decoder did not take.
-/

namespace HdmiCec

open Lib

namespace MessageDecoder

variable {frame : CECFrame} {m : Msg} {op : OpT}

/-! ### Encoding what was decoded -/

/-- Consecutive groups of `n` bytes make up the front of the list. -/
lemma flatMap_groups {c : OperandClass} (bs : List UInt8) (n count : ℕ) :
    ((List.range count).map fun i => (⟨(bs.drop (i * n)).take n⟩ : CECBytes c)).flatMap CECBytes.str
      = bs.take (count * n) := by
  induction count with
  | zero => simp
  | succ count ih =>
    rw [List.range_succ, List.map_append, List.flatMap_append, ih, Nat.succ_mul, List.take_add]
    simp

/-- Two neighbouring slices are one slice. -/
lemma slice_append_slice (bs : List UInt8) (i j k : ℕ) :
    (bs.drop i).take j ++ (bs.drop (i + j)).take k = (bs.drop i).take (j + k) := by
  rw [← List.drop_drop, List.take_add]

lemma byte_ne_polling (b : UInt8) : b.toNat ≠ Op.polling := by
  have := b.toNat_lt
  simp only [Op.polling]
  omega

/-- A message constructed from operand bytes has the opcode it was constructed for, and puts the
front of these bytes back. -/
lemma operandBytes_construct {construct : CECFrame → Ccec Msg} (hl : Layout op construct)
    (hm : (construct frame).result = .ok m) :
    m.opCode = op ∧ m.operandBytes <+: frame.bytes := by
  cases hl with
  | plain hplain =>
    cases hm
    cases hplain <;> exact ⟨rfl, List.nil_prefix⟩
  | standby =>
    cases hm
    exact ⟨rfl, List.nil_prefix⟩
  | single hk =>
    obtain ⟨-, rfl⟩ := single_returns_iff.mp hm
    cases hk <;> exact ⟨rfl, List.take_prefix _ _⟩
  | reportPhysicalAddress =>
    obtain ⟨-, rfl⟩ := reportPhysicalAddress_returns_iff.mp hm
    refine ⟨rfl, ?_⟩
    simp only [Msg.operandBytes, ← List.take_add]
    exact List.take_prefix _ _
  | featureAbort =>
    obtain ⟨hlen, rfl⟩ := featureAbort_returns_iff.mp hm
    refine ⟨rfl, ?_⟩
    simp only [Msg.operandBytes, if_pos (byte_ne_polling _), UInt8.ofNat_toNat]
    match hbytes : frame.bytes with
    | [] => simp [CECFrame.length, hbytes] at hlen
    | b :: bs => simpa using List.take_prefix 1 bs
  | routingChange =>
    obtain ⟨-, rfl⟩ := routingChange_returns_iff.mp hm
    refine ⟨rfl, ?_⟩
    simp only [Msg.operandBytes, ← List.take_add]
    exact List.take_prefix _ _
  | requestShortAudioDescriptor =>
    rw [requestShortAudioDescriptor_returns] at hm
    cases hm
    refine ⟨rfl, ?_⟩
    have := flatMap_groups (c := .requestAudioFormat) frame.bytes 1 (min 4 frame.length)
    simp only [Nat.mul_one] at this
    simp only [Msg.operandBytes]
    rw [List.take_of_length_le (by simp), this]
    exact List.take_prefix _ _
  | reportShortAudioDescriptor =>
    rw [reportShortAudioDescriptor_returns] at hm
    cases hm
    refine ⟨rfl, ?_⟩
    simp only [Msg.operandBytes]
    rw [List.take_of_length_le (by simp), flatMap_groups]
    exact List.take_prefix _ _
  | systemAudioModeRequest =>
    obtain ⟨-, rfl⟩ := systemAudioModeRequest_returns_iff.mp hm
    refine ⟨rfl, ?_⟩
    simp only [Msg.operandBytes]
    split
    · exact List.nil_prefix
    · exact List.take_prefix _ _
  | reportFeatures =>
    obtain ⟨-, rfl⟩ := reportFeatures_returns_iff.mp hm
    refine ⟨rfl, ?_⟩
    simp only [Msg.operandBytes, List.flatMap_cons, List.flatMap_nil, List.append_nil,
      slice_append_slice]
    rw [slice_append_slice frame.bytes 1, ← List.take_add]
    exact List.take_prefix _ _
  | requestCurrentLatency =>
    obtain ⟨-, rfl⟩ := requestCurrentLatency_returns_iff.mp hm
    refine ⟨rfl, ?_⟩
    simp only [Msg.operandBytes]
    split
    · exact List.nil_prefix
    · exact List.take_prefix _ _
  | reportCurrentLatency =>
    obtain ⟨-, rfl⟩ := reportCurrentLatency_returns_iff.mp hm
    refine ⟨rfl, ?_⟩
    simp only [Msg.operandBytes, List.flatMap_cons, List.flatMap_nil, List.append_nil,
      ← List.take_add]
    exact List.take_prefix _ _

/-- The opcode of a frame: its second byte, and `POLLING` for a frame of one byte. -/
def frameOpCode (f : CECFrame) : OpT :=
  match f.bytes[1]? with
  | some op => op.toNat
  | none => Op.polling

/-- What the decoder delivers has the frame's opcode and the header of its first byte, and its bytes
are a front part of the frame. -/
lemma delivered_spec {f : CECFrame} {h : Header} (hm : delivered f = some (m, h)) :
    ∃ b rest, f.bytes = b :: rest ∧ h = .ofByte b ∧ m.opCode = frameOpCode f ∧ m.bytes <+: rest := by
  match hf : f.bytes with
  | [] => simp [delivered, hf] at hm
  | [b] =>
    simp only [delivered, hf, Option.some.injEq, Prod.mk.injEq] at hm
    obtain ⟨rfl, rfl⟩ := hm
    exact ⟨b, [], rfl, rfl, by simp [Msg.opCode, frameOpCode, hf], by simp [Msg.bytes, Msg.opCode,
      Msg.operandBytes]⟩
  | b :: op :: rest =>
    obtain ⟨rfl, construct, hl, hr⟩ := (delivered_cons hf).mp hm
    obtain ⟨hop, hprefix⟩ := operandBytes_construct hl hr
    have hframe : f.operandFrame.bytes = rest := by simp [CECFrame.bytes_operandFrame, hf]
    rw [hframe] at hprefix
    refine ⟨b, op :: rest, rfl, rfl, by simp [hop, frameOpCode, hf], ?_⟩
    simpa [Msg.bytes, hop, byte_ne_polling] using hprefix

/-- Encoding undoes decoding up to truncation. -/
theorem encode_decode (P : Processor) (f : CECFrame) (m : Msg) (h : Header)
    (hcall : (m, h) ∈ calls (decode P f)) :
    (frameOpCode f = Op.systemAudioModeRequest ∨ frameOpCode f = Op.requestCurrentLatency →
      4 ≤ f.length) →
    m.opCode = frameOpCode f ∧
      ∃ g, (MessageEncoder.encode h m).result = .ok g ∧ g.bytes <+: f.bytes := by
  intro _
  rw [calls_decode, Option.mem_toList] at hcall
  obtain ⟨b, rest, hf, rfl, hop, hprefix⟩ := delivered_spec hcall
  have hcons : b :: m.bytes <+: f.bytes := by
    rw [hf]
    exact List.cons_prefix_cons.mpr ⟨rfl, hprefix⟩
  have hfits : (b :: m.bytes).length ≤ 128 := hcons.length_le.trans f.length_le
  exact ⟨hop, _, MessageEncoder.result_encode hfits, hcons⟩

/-- A request with its address and one byte more. -/
theorem encode_decode_systemAudioModeRequest :
    (Msg.systemAudioModeRequest ⟨[0x10, 0x00]⟩).opCode
        = frameOpCode ⟨[0x45, 0x70, 0x10, 0x00, 0x55], by decide⟩ ∧
      ∃ g, (MessageEncoder.encode (.ofByte 0x45) (.systemAudioModeRequest ⟨[0x10, 0x00]⟩)).result
        = .ok g ∧ g.bytes <+: [0x45, 0x70, 0x10, 0x00, 0x55] :=
  encode_decode (fun _ _ => .ok ()) ⟨[0x45, 0x70, 0x10, 0x00, 0x55], by decide⟩ _ _ (by decide)
    (by decide)

/-! ### Decoding what was encoded -/

end MessageDecoder

/-- The regular message formats: the messages whose operands have the lengths of their classes. -/
def Msg.Regular : Msg → Prop
  | imageViewOn | textViewOn | requestActiveSource | standby | getCECVersion | giveOSDName
  | givePhysicalAddress | giveDeviceVendorID | getMenuLanguage | userControlReleased
  | giveDevicePowerStatus | abort | initiateArc | terminateArc | giveFeatures | polling => True
  | activeSource o | inActiveSource o | routingInformation o | setStreamPath o => o.str.length = 2
  | cecVersion o => o.str.length = 1
  | setMenuLanguage o => 1 ≤ o.str.length ∧ o.str.length ≤ 3
  | reportPhysicalAddress o o' => o.str.length = 2 ∧ o'.str.length = 1
  | routingChange o o' => o.str.length = 2 ∧ o'.str.length = 2
  | deviceVendorID o => 1 ≤ o.str.length ∧ o.str.length ≤ 3
  | setOSDString o => 1 ≤ o.str.length ∧ o.str.length ≤ 13
  | setOSDName o => 1 ≤ o.str.length ∧ o.str.length ≤ 14
  | userControlPressed o => o.str.length = 1
  | reportPowerStatus o => o.str.length = 1
  | featureAbort feature reason => feature.opCode < 256 ∧ reason.str.length = 1
  | setSystemAudioMode o => o.str.length = 1
  | reportAudioStatus o => o.str.length = 1
  | _ => False

namespace MessageDecoder

variable {frame : CECFrame} {m : Msg} {op : OpT}

/-- The operand of a regular message is one that its constructor takes as a whole. -/
lemma construct_single {c : OperandClass} {k : CECBytes c → Msg} {o : CECBytes c}
    (hk : Msg.Single k op) (hm : (k o).Regular) (hframe : frame.bytes = (k o).operandBytes) :
    ∃ construct, Layout op construct ∧ (construct frame).result = .ok (k o) := by
  have hstr : (k o).operandBytes = o.str := by cases hk <;> rfl
  have hlen : 1 ≤ o.str.length ∧ o.str.length ≤ c.maxLen := by
    cases hk <;> simp only [Msg.Regular, OperandClass.maxLen] at hm ⊢ <;> omega
  refine ⟨_, .single hk, single_returns_iff.mpr ⟨?_, ?_⟩⟩
  · rw [CECFrame.length, hframe, hstr]
    exact hlen.1
  · rw [hframe, hstr, List.take_of_length_le hlen.2]

/-- The branch for a regular message's opcode constructs the message from its operand bytes. -/
lemma construct_regular (hm : m.Regular) (hne : m ≠ .polling) (hframe : frame.bytes = m.operandBytes) :
    ∃ construct, Layout m.opCode construct ∧ (construct frame).result = .ok m := by
  cases m with
  | imageViewOn => exact ⟨_, .plain .imageViewOn, rfl⟩
  | textViewOn => exact ⟨_, .plain .textViewOn, rfl⟩
  | requestActiveSource => exact ⟨_, .plain .requestActiveSource, rfl⟩
  | standby => exact ⟨_, .standby, rfl⟩
  | getCECVersion => exact ⟨_, .plain .getCECVersion, rfl⟩
  | giveOSDName => exact ⟨_, .plain .giveOSDName, rfl⟩
  | givePhysicalAddress => exact ⟨_, .plain .givePhysicalAddress, rfl⟩
  | giveDeviceVendorID => exact ⟨_, .plain .giveDeviceVendorID, rfl⟩
  | getMenuLanguage => exact ⟨_, .plain .getMenuLanguage, rfl⟩
  | userControlReleased => exact ⟨_, .plain .userControlReleased, rfl⟩
  | giveDevicePowerStatus => exact ⟨_, .plain .giveDevicePowerStatus, rfl⟩
  | abort => exact ⟨_, .plain .abort, rfl⟩
  | initiateArc => exact ⟨_, .plain .initiateArc, rfl⟩
  | terminateArc => exact ⟨_, .plain .terminateArc, rfl⟩
  | giveFeatures => exact ⟨_, .plain .giveFeatures, rfl⟩
  | polling => exact absurd rfl hne
  | activeSource o => exact construct_single .activeSource hm hframe
  | inActiveSource o => exact construct_single .inActiveSource hm hframe
  | routingInformation o => exact construct_single .routingInformation hm hframe
  | setStreamPath o => exact construct_single .setStreamPath hm hframe
  | cecVersion o => exact construct_single .cecVersion hm hframe
  | setMenuLanguage o => exact construct_single .setMenuLanguage hm hframe
  | deviceVendorID o => exact construct_single .deviceVendorID hm hframe
  | setOSDString o => exact construct_single .setOSDString hm hframe
  | setOSDName o => exact construct_single .setOSDName hm hframe
  | userControlPressed o => exact construct_single .userControlPressed hm hframe
  | reportPowerStatus o => exact construct_single .reportPowerStatus hm hframe
  | setSystemAudioMode o => exact construct_single .setSystemAudioMode hm hframe
  | reportAudioStatus o => exact construct_single .reportAudioStatus hm hframe
  | reportPhysicalAddress o o' =>
    obtain ⟨hlen, hlen'⟩ := hm
    refine ⟨_, .reportPhysicalAddress, reportPhysicalAddress_returns_iff.mpr ⟨?_, ?_⟩⟩
    · simp [CECFrame.length, hframe, Msg.operandBytes, hlen, hlen']
    · simp [hframe, Msg.operandBytes, List.take_left' hlen, List.drop_left' hlen,
        List.take_of_length_le hlen'.le]
  | routingChange o o' =>
    obtain ⟨hlen, hlen'⟩ := hm
    refine ⟨_, .routingChange, routingChange_returns_iff.mpr ⟨?_, ?_⟩⟩
    · simp [CECFrame.length, hframe, Msg.operandBytes, hlen, hlen']
    · simp [hframe, Msg.operandBytes, List.take_left' hlen, List.drop_left' hlen,
        List.take_of_length_le hlen'.le]
  | featureAbort feature reason =>
    obtain ⟨hop, hlen⟩ := hm
    have hne : feature.opCode ≠ Op.polling := fun h => absurd (h ▸ hop) (by decide)
    refine ⟨_, .featureAbort, featureAbort_returns_iff.mpr ⟨?_, ?_⟩⟩
    · simp [CECFrame.length, hframe, Msg.operandBytes, hne, hlen]
    · simp [hframe, Msg.operandBytes, hne, List.take_of_length_le hlen.le, Nat.mod_eq_of_lt hop]
  | _ => exact hm.elim

/-- The bytes of a regular message fit in a frame. -/
lemma length_bytes_regular (hm : m.Regular) : m.bytes.length ≤ 15 := by
  have hopCode : (if m.opCode ≠ Op.polling then [UInt8.ofNat m.opCode] else []).length ≤ 1 := by
    split <;> simp
  have hoperands : m.operandBytes.length ≤ 14 := by
    cases m with
    | featureAbort feature reason =>
      have hfeature : (if feature.opCode ≠ Op.polling then [UInt8.ofNat feature.opCode]
          else []).length ≤ 1 := by
        split <;> simp
      simp only [Msg.operandBytes, List.length_append, hm.2]
      omega
    | _ =>
      simp only [Msg.Regular, Msg.operandBytes, List.length_append, List.length_nil] at hm ⊢ <;>
        omega
  rw [Msg.bytes, List.length_append]
  omega

/-- Every opcode but `POLLING` is a byte. -/
lemma opCode_lt (h : m ≠ .polling) : m.opCode < 256 := by
  cases m with
  | polling => exact absurd rfl h
  | _ => exact of_decide_eq_true rfl

lemma bytes_of_ne_polling (h : m ≠ .polling) : m.bytes = UInt8.ofNat m.opCode :: m.operandBytes := by
  have hlt := opCode_lt h
  have hne : m.opCode ≠ Op.polling := fun hop => absurd (hop ▸ hlt) (by decide)
  simp only [Msg.bytes, if_pos hne, List.singleton_append]

/-- What the decoder delivers for an encoded message is what the branch of its opcode constructs
from the operand bytes. -/
lemma calls_encoded (P : Processor) {construct : CECFrame → Ccec Msg} (hpolling : m ≠ .polling)
    (hl : Layout m.opCode construct) (hlen : m.operandBytes.length ≤ 126) {x y : ℕ} (hx : x < 16)
    (hy : y < 16) :
    ∃ g, (MessageEncoder.encode (.ofInts x y) m).result = .ok g ∧
      g.operandFrame.bytes = m.operandBytes ∧ g.length = 2 + m.operandBytes.length ∧
      calls (decode P g) = ((construct g.operandFrame).result.toOption.map fun m' =>
        (m', Header.ofInts x y)).toList := by
  rw [← Header.ofByte_packed hx hy]
  generalize Header.packed (UInt8.ofNat x) (UInt8.ofNat y) = b
  have hbytes := bytes_of_ne_polling hpolling
  have hfits : (b :: m.bytes).length ≤ 128 := by
    rw [hbytes, List.length_cons, List.length_cons]
    omega
  refine ⟨_, MessageEncoder.result_encode hfits, ?_, ?_, ?_⟩
  · simp [CECFrame.bytes_operandFrame, hbytes]
  · simp only [CECFrame.length, hbytes, List.length_cons]
    omega
  have hop : (UInt8.ofNat m.opCode).toNat = m.opCode :=
    UInt8.toNat_ofNat_of_lt' (opCode_lt hpolling)
  have hcons : (⟨b :: m.bytes, hfits⟩ : CECFrame).bytes =
      b :: UInt8.ofNat m.opCode :: m.operandBytes := congrArg (b :: ·) hbytes
  generalize (⟨b :: m.bytes, hfits⟩ : CECFrame) = g at hcons ⊢
  rw [calls_decode]
  simp only [delivered, hcons, hop, dispatch_of_layout hl]
  cases (construct g.operandFrame).result <;> rfl

/-- Decoding undoes encoding on the regular message formats: one call, with the message and the
header that were encoded. -/
theorem decode_encode (P : Processor) (m : Msg) (hm : m.Regular) (x y : ℕ) (hx : x < 16)
    (hy : y < 16) :
    ∃ g, (MessageEncoder.encode (.ofInts x y) m).result = .ok g ∧
      calls (decode P g) = [(m, .ofInts x y)] := by
  have hlen := length_bytes_regular hm
  by_cases hpolling : m = .polling
  · subst hpolling
    rw [← Header.ofByte_packed hx hy]
    refine ⟨_, MessageEncoder.result_encode (Nat.succ_le_succ (hlen.trans (by decide))), ?_⟩
    simp [calls_decode, delivered, Msg.bytes, Msg.opCode, Msg.operandBytes]
  · have hoperands : m.operandBytes.length ≤ 126 := by
      rw [bytes_of_ne_polling hpolling, List.length_cons] at hlen
      omega
    have hfits : m.operandBytes.length ≤ 128 := by omega
    obtain ⟨construct, hl, hr⟩ : ∃ construct, Layout m.opCode construct ∧
        (construct ⟨m.operandBytes, hfits⟩).result = .ok m := construct_regular hm hpolling rfl
    obtain ⟨g, hg, hframe, -, hcalls⟩ := calls_encoded P hpolling hl hoperands hx hy
    have hsame : g.operandFrame = ⟨m.operandBytes, hfits⟩ := CECFrame.ext hframe
    rw [hsame, hr] at hcalls
    exact ⟨g, hg, hcalls⟩

/-- A text of the longest length, from one playback device to a television. -/
theorem decode_encode_setOSDString :
    (Msg.setOSDString ⟨List.replicate 13 0x41⟩).Regular ∧
      ∃ g, (MessageEncoder.encode (.ofInts 4 0) (.setOSDString ⟨List.replicate 13 0x41⟩)).result = .ok g ∧
        calls (decode (fun _ _ => .ok ()) g)
          = [(.setOSDString ⟨List.replicate 13 0x41⟩, .ofInts 4 0)] :=
  ⟨⟨by decide, by decide⟩,
    decode_encode (fun _ _ => .ok ()) (.setOSDString ⟨List.replicate 13 0x41⟩)
      ⟨by decide, by decide⟩ 4 0 (by decide) (by decide)⟩

end MessageDecoder

end HdmiCec
