import HdmiCec.Operands.Properties
import HdmiCec.Codec.Properties

/-!
# What the encoder writes

`Msg.operandBytes` says which bytes a message's `serialize` appends, and `encode` in closed form
follows: the header's byte, the opcode's byte, the operand bytes. The rules of `Appends` put the
steps of a `serialize` together.
-/

namespace HdmiCec

open Lib

/-- The step `k` appends the bytes `bs` to every frame they fit in. -/
def Appends (k : CECFrame → Ccec CECFrame) (bs : List UInt8) : Prop :=
  ∀ (frame : CECFrame) (h : (frame.bytes ++ bs).length ≤ 128),
    (k frame).result = .ok ⟨frame.bytes ++ bs, h⟩

namespace Appends

variable {k k' : CECFrame → Ccec CECFrame} {bs bs' : List UInt8}

lemma nil : Appends (fun frame => pure frame) [] := by
  intro frame h
  simp

lemma append (hk : Appends k bs) (hk' : Appends k' bs') :
    Appends (fun frame => k frame >>= k') (bs ++ bs') := by
  intro frame h
  have hfirst : (frame.bytes ++ bs).length ≤ 128 := by
    simp only [List.length_append] at h ⊢
    omega
  have hsecond : ((frame.bytes ++ bs) ++ bs').length ≤ 128 := by rwa [List.append_assoc]
  rw [Logged.result_bind_of_ok (hk frame hfirst), hk' _ hsecond]
  simp

/-- A step before it that returns and leaves the frame alone. -/
lemma after {α : Type} {m : Ccec α} {k : α → CECFrame → Ccec CECFrame} {a : α}
    (hm : m.result = .ok a) (hk : Appends (k a) bs) :
    Appends (fun frame => m >>= fun a => k a frame) bs := by
  intro frame h
  rw [Logged.result_bind_of_ok hm, hk frame h]

lemma byte (b : UInt8) : Appends (fun frame => frame.append b) [b] := by
  intro frame h
  simp only [CECFrame.append_of_lt h, Logged.result_pure]

lemma serialize {c : OperandClass} (o : CECBytes c) : Appends o.serialize o.str := by
  intro frame h
  rw [CECBytes.serialize, CECFrame.appendBuf_of_le h]
  rfl

/-- The loop over a vector of operands from the `i`th on. -/
lemma serializeLoop {c : OperandClass} (vec : List (CECBytes c)) (count i : ℕ) :
    Appends (HdmiCec.serializeLoop vec count i) (((vec.drop i).take count).flatMap CECBytes.str) := by
  induction count generalizing i with
  | zero => exact nil
  | succ count ih =>
    have hbytes : ((vec.drop i).take (count + 1)).flatMap CECBytes.str
        = (vec.getD i ⟨[]⟩).str ++ ((vec.drop (i + 1)).take count).flatMap CECBytes.str := by
      by_cases hi : i < vec.length
      · rw [List.drop_eq_getElem_cons hi, List.take_succ_cons, List.flatMap_cons,
          List.getD_eq_getElem?_getD, List.getElem?_eq_getElem hi, Option.getD_some]
      · have hi' : vec.length ≤ i := Nat.not_lt.mp hi
        simp [List.drop_eq_nil_of_le hi', List.drop_eq_nil_of_le (Nat.le_succ_of_le hi'),
          List.getElem?_eq_none hi']
    rw [hbytes]
    have hat : (vectorAt vec i).result = .ok (vec.getD i ⟨[]⟩) := rfl
    exact after hat (append (serialize _) (ih (i + 1)))

lemma serializeAll {c : OperandClass} (vec : List (CECBytes c)) :
    Appends (HdmiCec.serializeAll vec) (vec.flatMap CECBytes.str) := by
  have := serializeLoop vec vec.length 0
  rwa [List.drop_zero, List.take_length] at this

/-- The opcode block: a polling opcode is left out. -/
lemma opCode (o : OpCode) :
    Appends o.serialize (if o.opCode ≠ Op.polling then [UInt8.ofNat o.opCode] else []) := by
  intro frame h
  simp only [OpCode.serialize]
  split
  · rename_i hne
    simp only [if_pos hne] at h
    exact byte _ frame h
  · simp

end Appends

/-! ### The messages -/

/-- `F.F.F.F`, which two messages leave out. -/
def PhysicalAddress.IsDefault (o : PhysicalAddress) : Prop :=
  o.str.getD 0 0 = 0xFF ∧ o.str.getD 1 0 = 0xFF

instance (o : PhysicalAddress) : Decidable o.IsDefault := by
  unfold PhysicalAddress.IsDefault
  infer_instance

set_option maxRecDepth 4000 in
private lemma nibbles_table : ∀ i : Fin 256,
    (((UInt8.ofNat i.val &&& 0xF0) >>> 4 = 0xF ∧ UInt8.ofNat i.val &&& 0x0F = 0xF) ↔
      UInt8.ofNat i.val = 0xFF) := by decide

/-- A byte with both nibbles F. -/
lemma nibbles_eq_iff (b : UInt8) :
    ((b &&& 0xF0) >>> 4 = 0xF ∧ b &&& 0x0F = 0xF) ↔ b = 0xFF := by
  simpa using nibbles_table ⟨b.toNat, b.toNat_lt⟩

lemma result_andAlso {a b : Ccec Bool} {x y : Bool} (ha : a.result = .ok x) (hb : b.result = .ok y) :
    (andAlso a b).result = .ok (x && y) := by
  rw [andAlso, Logged.result_bind_of_ok ha]
  cases x with
  | true => simpa using hb
  | false => rfl

lemma result_serializeAddress (o : PhysicalAddress) (frame : CECFrame) :
    (HdmiCec.serializeAddress o frame).result
      = (if o.IsDefault then pure frame else CECBytes.serialize o frame).result := by
  have h3 : (o.nibbleIsF 3).result = .ok (decide (o.str.getD 1 0 &&& 0x0F = 0xF)) := rfl
  have h2 : (o.nibbleIsF 2).result = .ok (decide ((o.str.getD 1 0 &&& 0xF0) >>> 4 = 0xF)) := rfl
  have h1 : (o.nibbleIsF 1).result = .ok (decide (o.str.getD 0 0 &&& 0x0F = 0xF)) := rfl
  have h0 : (o.nibbleIsF 0).result = .ok (decide ((o.str.getD 0 0 &&& 0xF0) >>> 4 = 0xF)) := rfl
  rw [HdmiCec.serializeAddress, Logged.result_bind_of_ok
    (result_andAlso h3 (result_andAlso h2 (result_andAlso h1 h0)))]
  have hdefault : (decide (o.str.getD 1 0 &&& 0x0F = 0xF) &&
      (decide ((o.str.getD 1 0 &&& 0xF0) >>> 4 = 0xF) && (decide (o.str.getD 0 0 &&& 0x0F = 0xF) &&
        decide ((o.str.getD 0 0 &&& 0xF0) >>> 4 = 0xF)))) = true
      ↔ o.IsDefault := by
    rw [PhysicalAddress.IsDefault, ← nibbles_eq_iff (o.str.getD 0 0),
      ← nibbles_eq_iff (o.str.getD 1 0)]
    simp only [Bool.and_eq_true, decide_eq_true_eq]
    tauto
  simp only [hdefault]

lemma Appends.serializeAddress (o : PhysicalAddress) :
    Appends (HdmiCec.serializeAddress o) (if o.IsDefault then [] else o.str) := by
  intro frame h
  rw [result_serializeAddress]
  split
  · simp
  · rename_i hne
    simp only [if_neg hne] at h
    exact serialize o frame h

/-- The bytes that `serialize` appends. -/
def Msg.operandBytes : Msg → List UInt8
  | activeSource o | inActiveSource o | routingInformation o | setStreamPath o => o.str
  | cecVersion o => o.str
  | setMenuLanguage o => o.str
  | setOSDName o => o.str
  | setOSDString o => o.str
  | reportPhysicalAddress physicalAddress deviceType => physicalAddress.str ++ deviceType.str
  | deviceVendorID o => o.str
  | reportPowerStatus o => o.str
  | featureAbort feature reason =>
    (if feature.opCode ≠ Op.polling then [UInt8.ofNat feature.opCode] else []) ++ reason.str
  | routingChange fromAddr toAddr => fromAddr.str ++ toAddr.str
  | requestShortAudioDescriptor formats n => (formats.take n).flatMap CECBytes.str
  | reportShortAudioDescriptor descriptors n => (descriptors.take n).flatMap CECBytes.str
  | systemAudioModeRequest o | requestCurrentLatency o => if o.IsDefault then [] else o.str
  | setSystemAudioMode o => o.str
  | reportAudioStatus o => o.str
  | userControlPressed o => o.str
  | reportFeatures version allDeviceTypes rcProfile deviceFeatures =>
    version.str ++ (allDeviceTypes.str ++
      (rcProfile.flatMap CECBytes.str ++ deviceFeatures.flatMap CECBytes.str))
  | reportCurrentLatency o latencyInfo => o.str ++ latencyInfo.flatMap CECBytes.str
  | _ => []

/-- `serialize` appends the operand bytes. -/
lemma Appends.msg (m : Msg) : Appends m.serialize m.operandBytes := by
  have haddress : ∀ (o : PhysicalAddress), ∃ text, o.toString.result = .ok text := fun o => ⟨_, rfl⟩
  cases m with
  | activeSource o | inActiveSource o =>
    obtain ⟨text, htext⟩ := haddress o
    exact after htext (after rfl (serialize o))
  | cecVersion o => exact serialize o
  | setMenuLanguage o => exact serialize o
  | setOSDName o => exact serialize o
  | setOSDString o => exact serialize o
  | reportPhysicalAddress o o' => exact append (serialize o) (serialize o')
  | deviceVendorID o => exact serialize o
  | reportPowerStatus o => exact serialize o
  | featureAbort feature reason => exact append (opCode feature) (serialize reason)
  | routingChange o o' => exact append (serialize o) (serialize o')
  | routingInformation o => exact serialize o
  | setStreamPath o => exact serialize o
  | requestShortAudioDescriptor formats n => exact serializeLoop formats n 0
  | reportShortAudioDescriptor descriptors n => exact serializeLoop descriptors n 0
  | systemAudioModeRequest o => exact serializeAddress o
  | setSystemAudioMode o => exact serialize o
  | reportAudioStatus o => exact serialize o
  | userControlPressed o => exact serialize o
  | reportFeatures version types profiles features =>
    exact append (serialize version) (append (serialize types)
      (append (serializeAll profiles) (serializeAll features)))
  | requestCurrentLatency o => exact serializeAddress o
  | reportCurrentLatency o info => exact append (serialize o) (serializeAll info)
  | _ => exact nil

/-- The opcode byte and the operand bytes. -/
def Msg.bytes (m : Msg) : List UInt8 :=
  (if m.opCode ≠ Op.polling then [UInt8.ofNat m.opCode] else []) ++ m.operandBytes

lemma Appends.encodeBlock (m : Msg) : Appends (MessageEncoder.encodeBlock m) m.bytes :=
  append (opCode ⟨m.opCode⟩) (msg m)

/-! ### The header -/

/-- The byte with the nibbles `x` and `y`. -/
def Header.packed (x y : UInt8) : UInt8 := UInt8.ofNat (x.toNat <<< 4 ||| y.toNat)

lemma Header.result_serialize (x y : UInt8) :
    ((⟨⟨[x]⟩, ⟨[y]⟩⟩ : Header).serialize CECFrame.empty).result
      = .ok ⟨[Header.packed x y], by simp⟩ := by
  obtain ⟨fromText, hfrom⟩ := LogicalAddress.toString_returns ⟨[x]⟩
  obtain ⟨toText, hto⟩ := LogicalAddress.toString_returns ⟨[y]⟩
  have hto' : (CECBytes.serialize (⟨[y]⟩ : LogicalAddress) CECFrame.empty).result
      = .ok ⟨[y], by simp⟩ := Appends.serialize _ _ (by simp)
  have hbyte : ((⟨[y], by simp⟩ : CECFrame).byteAt (CECFrame.length ⟨[y], by simp⟩ - 1)).result
      = .ok y := rfl
  have hint : (LogicalAddress.toInt ⟨[y]⟩).result = .ok y.toNat := rfl
  have hassert : (assert (decide (y.toNat = y.toNat))).result = .ok () := by simp [assert]
  rw [Header.serialize, Logged.result_bind_of_ok hfrom, Logged.result_bind_of_ok hto,
    Logged.result_bind_of_ok rfl, Logged.result_bind_of_ok hto', Logged.result_bind_of_ok hbyte,
    Logged.result_bind_of_ok hint, Logged.result_bind_of_ok hassert, Logged.result_bind_of_ok rfl]
  rfl

set_option maxRecDepth 4000 in
private lemma packed_table : ∀ i : Fin 256,
    Header.packed ((UInt8.ofNat i.val &&& 0xF0) >>> 4) ((UInt8.ofNat i.val &&& 0x0F) >>> 0)
      = UInt8.ofNat i.val := by decide

/-- Packing the nibbles of a byte gives the byte back. -/
lemma Header.packed_nibbles (b : UInt8) :
    Header.packed ((b &&& 0xF0) >>> 4) ((b &&& 0x0F) >>> 0) = b := by
  simpa using packed_table ⟨b.toNat, b.toNat_lt⟩

lemma Header.ofInts_natCast (x y : ℕ) :
    Header.ofInts x y = ⟨⟨[UInt8.ofNat x]⟩, ⟨[UInt8.ofNat y]⟩⟩ := by
  have hcast : ∀ n : ℕ, UInt8.ofInt n = UInt8.ofNat n := by
    intro n
    have hmod : ((n : ℤ) % 2 ^ 8).toNat = n % 256 := by omega
    rw [UInt8.ofInt, hmod]
    exact UInt8.toNat_inj.mp (by simp)
  simp only [Header.ofInts, LogicalAddress.ofInt, CECBytes.ofByte, hcast]

lemma Header.ofByte_eq (b : UInt8) :
    Header.ofByte b = ⟨⟨[(b &&& 0xF0) >>> 4]⟩, ⟨[(b &&& 0x0F) >>> 0]⟩⟩ := by
  simp only [Header.ofByte, Header.ofInts_natCast, UInt8.ofNat_toNat]

private lemma ofByte_table : ∀ i j : Fin 16,
    Header.ofByte (Header.packed (UInt8.ofNat i.val) (UInt8.ofNat j.val))
      = ⟨⟨[UInt8.ofNat i.val]⟩, ⟨[UInt8.ofNat j.val]⟩⟩ := by decide

/-- A header is the one of the byte its nibbles are packed into. -/
lemma Header.ofByte_packed {x y : ℕ} (hx : x < 16) (hy : y < 16) :
    Header.ofByte (Header.packed (UInt8.ofNat x) (UInt8.ofNat y)) = Header.ofInts x y := by
  rw [Header.ofInts_natCast]
  exact ofByte_table ⟨x, hx⟩ ⟨y, hy⟩

/-- `encode` in closed form, for the header of a byte. -/
lemma MessageEncoder.result_encode {b : UInt8} {m : Msg} (h : (b :: m.bytes).length ≤ 128) :
    (MessageEncoder.encode (.ofByte b) m).result = .ok ⟨b :: m.bytes, h⟩ := by
  have hheader : ((Header.ofByte b).serialize CECFrame.empty).result = .ok ⟨[b], by simp⟩ := by
    rw [Header.ofByte_eq, Header.result_serialize]
    simp only [Header.packed_nibbles]
  rw [MessageEncoder.encode, Logged.result_bind_of_ok hheader]
  exact Appends.encodeBlock m ⟨[b], by simp⟩ h

end HdmiCec
