import HdmiCec.Codec.Printing
import HdmiCec.Codec.Values

/-!
# Lists of audio formats and descriptors

Round trips of the two messages that hold a list of operands: `RequestShortAudioDescriptor`, with
one byte for each format, and `ReportShortAudioDescriptor`, with three for each descriptor. The
frame has the operands one behind the other; the decoder cuts it into groups.
-/

namespace HdmiCec

open Lib MessageDecoder

/-! ### Groups of bytes -/

/-- Cutting what was put together gives the operands back. -/
lemma map_group_flatMap {c : OperandClass} {n : ℕ} (os : List (CECBytes c))
    (h : ∀ o ∈ os, o.str.length = n) :
    ((List.range os.length).map fun i =>
      (⟨((os.flatMap CECBytes.str).drop (i * n)).take n⟩ : CECBytes c)) = os := by
  induction os with
  | nil => rfl
  | cons o os ih =>
    have ho : o.str.length = n := h o List.mem_cons_self
    have ih := ih fun o' ho' => h o' (List.mem_cons_of_mem _ ho')
    rw [List.length_cons, List.range_succ_eq_map, List.map_cons, List.map_map, List.flatMap_cons]
    congr 1
    · rw [Nat.zero_mul, List.drop_zero, List.take_left' ho]
    · conv_rhs => rw [← ih]
      apply List.map_congr_left
      intro i _
      have hi : (i + 1) * n = o.str.length + i * n := by rw [ho, Nat.succ_mul, Nat.add_comm]
      simp only [Function.comp_apply, Nat.succ_eq_add_one, hi, List.drop_length_add_append]

lemma length_flatMap_str {c : OperandClass} {n : ℕ} {os : List (CECBytes c)}
    (h : ∀ o ∈ os, o.str.length = n) : (os.flatMap CECBytes.str).length = n * os.length := by
  induction os with
  | nil => rfl
  | cons o os ih =>
    rw [List.flatMap_cons, List.length_append, h o List.mem_cons_self,
      ih fun o' ho' => h o' (List.mem_cons_of_mem _ ho'), List.length_cons, Nat.mul_succ,
      Nat.add_comm]

section

variable {P : Processor} {x y : ℕ}

/-- At most four formats come back. -/
lemma roundTrips_formats (hx : x < 16) (hy : y < 16) {formats : List RequestAudioFormat}
    (hformats : ∀ o ∈ formats, o.str.length = 1) (hcount : formats.length ≤ 4) :
    RoundTrips P x y (.requestShortAudioDescriptor formats formats.length) := by
  have hlen := length_flatMap_str hformats
  have hbytes : (Msg.requestShortAudioDescriptor formats formats.length).operandBytes =
      formats.flatMap CECBytes.str := by rw [Msg.operandBytes, List.take_length]
  rw [roundTrips_iff (m := .requestShortAudioDescriptor formats formats.length) (by simp)
    .requestShortAudioDescriptor (by rw [hbytes]; omega) hx hy]
  intro frame hframe
  rw [hbytes] at hframe
  have hmin : min 4 frame.length = formats.length := by
    rw [CECFrame.length, hframe, hlen]
    omega
  have hgroups := map_group_flatMap formats hformats
  simp only [Nat.mul_one] at hgroups
  rw [requestShortAudioDescriptor_returns, hmin, hframe, hgroups]

/-- As many descriptors as a frame has room for come back. -/
lemma roundTrips_descriptors (hx : x < 16) (hy : y < 16) {descriptors : List ShortAudioDescriptor}
    (hdescriptors : ∀ o ∈ descriptors, o.str.length = 3) (hcount : descriptors.length ≤ 42) :
    RoundTrips P x y (.reportShortAudioDescriptor descriptors descriptors.length) := by
  have hlen := length_flatMap_str hdescriptors
  have hbytes : (Msg.reportShortAudioDescriptor descriptors descriptors.length).operandBytes =
      descriptors.flatMap CECBytes.str := by rw [Msg.operandBytes, List.take_length]
  rw [roundTrips_iff (m := .reportShortAudioDescriptor descriptors descriptors.length) (by simp)
    .reportShortAudioDescriptor (by rw [hbytes]; omega) hx hy]
  intro frame hframe
  rw [hbytes] at hframe
  have hdiv : frame.length / 3 = descriptors.length := by
    rw [CECFrame.length, hframe, hlen]
    omega
  rw [reportShortAudioDescriptor_returns, hdiv, hframe, map_group_flatMap descriptors hdescriptors]

end

/-! ### Audio formats -/

/-- The byte that a format is packed into. -/
def packedFormat (formatid audioFormatCode : UInt8) : RequestAudioFormat :=
  .ofByte (UInt8.ofNat (formatid.toNat <<< 6 ||| audioFormatCode.toNat &&& 0x3f))

lemma toNat_packedFormat (i c : UInt8) :
    (UInt8.ofNat (i.toNat <<< 6 ||| c.toNat &&& 0x3f)).toNat =
      (64 * i.toNat + c.toNat % 64) % 256 := by
  have hmask : c.toNat &&& 0x3f = c.toNat % 64 := Nat.and_two_pow_sub_one_eq_mod c.toNat 6
  have hor := Nat.two_pow_add_eq_or_of_lt (i := 6) (Nat.mod_lt c.toNat (by decide)) i.toNat
  rw [UInt8.toNat_ofNat', hmask, Nat.shiftLeft_eq, Nat.mul_comm i.toNat]
  exact congrArg (· % 256) hor.symm

/-- Two bits of the identifier are kept. -/
lemma getAudioformatId_packed (i c : UInt8) :
    (packedFormat i c).getAudioformatId.result = .ok (i.toNat % 4) := by
  have hresult : (packedFormat i c).getAudioformatId.result =
      .ok (UInt8.ofNat (i.toNat <<< 6 ||| c.toNat &&& 0x3f) >>> 6).toNat := rfl
  have hshift : (6 : UInt8).toNat % 8 = 6 := rfl
  rw [hresult, UInt8.toNat_shiftRight, toNat_packedFormat, hshift, Nat.shiftRight_eq_div_pow]
  congr 1
  omega

/-- Six bits of the code are kept. -/
lemma getAudioformatCode_packed (i c : UInt8) :
    (packedFormat i c).getAudioformatCode.result = .ok (c.toNat % 64) := by
  have hresult : (packedFormat i c).getAudioformatCode.result =
      .ok (UInt8.ofNat (i.toNat <<< 6 ||| c.toNat &&& 0x3f) &&& 0x3F).toNat := rfl
  rw [hresult, UInt8.toNat_and, toNat_packedFormat]
  congr 1
  refine (Nat.and_two_pow_sub_one_eq_mod _ 6).trans ?_
  omega

/-- The count is cut to four. -/
lemma count_eq_min (n : ℕ) : (if n > 4 then 4 else n) = min n 4 := by
  split <;> omega

lemma result_requestShortAudioDescriptor (ids codes : List UInt8) (n : UInt8) :
    (RequestShortAudioDescriptor.new ids codes n).result =
      .ok (.requestShortAudioDescriptor ((List.range (min n.toNat 4)).map fun i =>
        packedFormat (ids.getD i 0) (codes.getD i 0)) (min n.toNat 4)) := by
  unfold RequestShortAudioDescriptor.new
  rw [count_eq_min]
  exact Logged.result_bind_of_ok (Logged.result_collect fun _ _ => rfl)

/-- What a list says of its first elements. -/
lemma map_range_getD {α β : Type} (as : List α) (a : α) (f : α → β) {k : ℕ} (h : k ≤ as.length) :
    ((List.range k).map fun i => f (as.getD i a)) = (as.take k).map f := by
  apply List.ext_getElem
  · simp [h]
  · intro i hi _
    have hlt : i < as.length := by
      rw [List.length_map, List.length_range] at hi
      omega
    simp [hlt]

/-- A request for short audio descriptors comes back with the first four formats at most, each with
two bits of its identifier and six bits of its code. -/
theorem requestShortAudioDescriptor_roundTrip (P : Processor) {x y : ℕ} (hx : x < 16) (hy : y < 16)
    (ids codes : List UInt8) (n : UInt8) (hids : min n.toNat 4 ≤ ids.length)
    (hcodes : min n.toNat 4 ≤ codes.length) :
    ∃ m g, ∃ formats : List RequestAudioFormat,
      (RequestShortAudioDescriptor.new ids codes n).result = .ok m ∧
      (MessageEncoder.encode (.ofInts x y) m).result = .ok g ∧
      calls (decode P g) =
        [(.requestShortAudioDescriptor formats (min n.toNat 4), .ofInts x y)] ∧
      formats.length = min n.toNat 4 ∧
      (formats.map fun o => o.getAudioformatId.result) =
        (ids.take (min n.toNat 4)).map (fun b => .ok (b.toNat % 4)) ∧
      (formats.map fun o => o.getAudioformatCode.result) =
        (codes.take (min n.toNat 4)).map (fun b => .ok (b.toNat % 64)) := by
  generalize hk : min n.toNat 4 = k at hids hcodes
  have hnew := result_requestShortAudioDescriptor ids codes n
  rw [hk] at hnew
  have hcount : ((List.range k).map fun i =>
      packedFormat (ids.getD i 0) (codes.getD i 0)).length = k := by
    rw [List.length_map, List.length_range]
  have hone : ∀ o ∈ (List.range k).map (fun i => packedFormat (ids.getD i 0) (codes.getD i 0)),
      o.str.length = 1 := by
    intro o ho
    obtain ⟨i, -, rfl⟩ := List.mem_map.mp ho
    rfl
  obtain ⟨g, hg, hcalls⟩ := roundTrips_formats (P := P) hx hy hone (by omega)
  rw [hcount] at hg hcalls
  refine ⟨_, g, _, hnew, hg, hcalls, hcount, ?_, ?_⟩
  · rw [List.map_map]
    rw [← map_range_getD ids 0 _ hids]
    exact List.map_congr_left fun i _ => getAudioformatId_packed _ _
  · rw [List.map_map]
    rw [← map_range_getD codes 0 _ hcodes]
    exact List.map_congr_left fun i _ => getAudioformatCode_packed _ _

/-- Five formats are asked for, and four are sent. -/
theorem requestShortAudioDescriptor_roundTrip_five :
    ∃ m g, ∃ formats : List RequestAudioFormat,
      (RequestShortAudioDescriptor.new [0, 1, 2, 3, 0] [1, 2, 63, 64, 5] 5).result = .ok m ∧
      (MessageEncoder.encode (.ofInts (0 : ℕ) (5 : ℕ)) m).result = .ok g ∧
      calls (decode (fun _ _ => .ok ()) g) =
        [(.requestShortAudioDescriptor formats 4, .ofInts (0 : ℕ) (5 : ℕ))] ∧
      formats.length = 4 ∧
      (formats.map fun o => o.getAudioformatId.result) = [.ok 0, .ok 1, .ok 2, .ok 3] ∧
      (formats.map fun o => o.getAudioformatCode.result) = [.ok 1, .ok 2, .ok 63, .ok 0] :=
  requestShortAudioDescriptor_roundTrip (fun _ _ => .ok ()) (x := 0) (y := 5) (by decide)
    (by decide) [0, 1, 2, 3, 0] [1, 2, 63, 64, 5] 5 (by decide) (by decide)

/-! ### The subscripts of the encoder -/

@[simp] lemma all_indexed_append {frame : CECFrame} {b : UInt8} :
    (frame.append b).All Event.Indexed := by
  unfold CECFrame.append
  split <;> simp

@[simp] lemma all_indexed_appendBuf {frame : CECFrame} {bs : List UInt8} :
    (frame.appendBuf bs).All Event.Indexed := by
  induction bs generalizing frame with
  | nil => exact Logged.all_pure _
  | cons b bs ih => exact Logged.all_bind.mpr ⟨all_indexed_append, fun _ _ => ih⟩

lemma all_indexed_serialize {c : OperandClass} {o : CECBytes c} {frame : CECFrame} :
    (o.serialize frame).All Event.Indexed := all_indexed_appendBuf

/-- The header's addresses have a byte each. -/
lemma all_indexed_serialize_header (x y : ℤ) (frame : CECFrame) :
    ((Header.ofInts x y).serialize frame).All Event.Indexed := by
  have hbyteAt : ∀ (f : CECFrame) (i : ℕ), (f.byteAt i).All Event.Indexed := by
    intro f i
    unfold CECFrame.byteAt
    split <;> simp [Logged.all_bind]
  have hassert : ∀ b : Bool, (assert b).All Event.Indexed := by
    intro b
    unfold assert
    split <;> simp
  have hset : ∀ (f : CECFrame) (i : ℕ) (b : UInt8), (f.set i b).All Event.Indexed := by
    intro f i b
    unfold CECFrame.set
    split <;> simp
  have htext : ∀ z : ℤ, (LogicalAddress.ofInt z).toString.All Event.Indexed :=
    fun z => LogicalAddress.all_indexed_toString (Nat.succ_pos 0)
  have hint : ∀ z : ℤ, (LogicalAddress.ofInt z).toInt.All Event.Indexed := by
    intro z
    rw [LogicalAddress.toInt, Logged.all_bind, CECBytes.all_indexed_byte]
    exact ⟨Nat.succ_pos 0, fun _ _ => Logged.all_pure _⟩
  simp only [Header.serialize, Header.ofInts, Logged.all_bind, htext, hint, hbyteAt, hassert, hset,
    all_indexed_ccecLog, all_indexed_serialize, implies_true, and_self]

/-- A loop over a vector keeps to it exactly when its last element is there, as long as the bytes
fit in the frame. -/
lemma all_indexed_serializeLoop_iff {c : OperandClass} {vec : List (CECBytes c)} (count : ℕ) {i : ℕ}
    {frame : CECFrame} (hi : i ≤ vec.length)
    (hfits : (frame.bytes ++ (vec.drop i).flatMap CECBytes.str).length ≤ 128) :
    (serializeLoop vec count i frame).All Event.Indexed ↔ i + count ≤ vec.length := by
  induction count generalizing i frame with
  | zero => simpa [serializeLoop] using hi
  | succ count ih =>
    have hat : (vectorAt vec i).All Event.Indexed ↔ i < vec.length := by
      simp [vectorAt, Event.Indexed]
    have hget : (vectorAt vec i).result = .ok (vec.getD i ⟨[]⟩) := rfl
    rw [serializeLoop, Logged.all_bind, hat]
    by_cases hlt : i < vec.length
    · have hdrop : vec.drop i = vec.getD i ⟨[]⟩ :: vec.drop (i + 1) := by
        rw [List.drop_eq_getElem_cons hlt, List.getD_eq_getElem?_getD,
          List.getElem?_eq_getElem hlt, Option.getD_some]
      rw [hdrop, List.flatMap_cons, ← List.append_assoc] at hfits
      have hfirst : (frame.bytes ++ (vec.getD i ⟨[]⟩).str).length ≤ 128 := by
        rw [List.length_append] at hfits
        exact (Nat.le_add_right _ _).trans hfits
      have hserialize := Appends.serialize (vec.getD i ⟨[]⟩) frame hfirst
      have ih := @ih (i + 1) ⟨_, hfirst⟩ hlt hfits
      simp only [hget, Except.ok.injEq, forall_eq', Logged.all_bind, all_indexed_serialize,
        hserialize, ih, true_and]
      omega
    · have : ¬ i + (count + 1) ≤ vec.length := by omega
      simp only [hlt, this, false_and]

/-- The subscripts of the encoder are those of the message's `serialize`, behind the header and the
opcode. -/
lemma all_indexed_encode_iff (x y : ℕ) (m : Msg) :
    ∃ frame : CECFrame, frame.length ≤ 2 ∧
      ((MessageEncoder.encode (.ofInts x y) m).All Event.Indexed ↔
        (m.serialize frame).All Event.Indexed) := by
  have hheader := Header.result_serialize (UInt8.ofNat x) (UInt8.ofNat y)
  rw [← Header.ofInts_natCast] at hheader
  generalize hbyte : (⟨[Header.packed (UInt8.ofNat x) (UInt8.ofNat y)], by simp⟩ : CECFrame) = first
    at hheader
  have hone : first.bytes.length = 1 := by rw [← hbyte]; rfl
  have hopCode : (if m.opCode ≠ Op.polling then [UInt8.ofNat m.opCode] else []).length ≤ 1 := by
    split <;> simp
  have hle : (first.bytes ++
      if m.opCode ≠ Op.polling then [UInt8.ofNat m.opCode] else []).length ≤ 2 := by
    rw [List.length_append]
    omega
  have hblock := Appends.opCode ⟨m.opCode⟩ first (hle.trans (by decide))
  have hserialize : (OpCode.serialize ⟨m.opCode⟩ first).All Event.Indexed := by
    unfold OpCode.serialize
    split <;> simp
  refine ⟨⟨_, hle.trans (by decide)⟩, hle, ?_⟩
  simp only [MessageEncoder.encode, MessageEncoder.encodeBlock, Logged.all_bind,
    all_indexed_serialize_header, hheader, hserialize, hblock, Except.ok.injEq, forall_eq',
    true_and]

/-! ### Audio descriptors -/

/-- The three bytes that a descriptor is made of: the low nibbles of the word's. -/
def nibbleDescriptor (word : UInt32) : ShortAudioDescriptor :=
  .ofBytes (word &&& 0xF).toUInt8 ((word >>> 8) &&& 0xF).toUInt8 ((word >>> 16) &&& 0xF).toUInt8

/-- The high nibbles of the three low bytes are zero. -/
def LowNibbles (word : UInt32) : Prop :=
  word.toNat % 256 < 16 ∧ word.toNat / 256 % 256 < 16 ∧ word.toNat / 65536 % 256 < 16

instance (word : UInt32) : Decidable (LowNibbles word) := by
  unfold LowNibbles
  infer_instance

/-- A nibble of a word as a byte. -/
lemma toNat_nibble (word shift : UInt32) :
    ((word >>> shift) &&& 0xF).toUInt8.toNat = word.toNat / 2 ^ (shift.toNat % 32) % 16 := by
  have hmask := Nat.and_two_pow_sub_one_eq_mod (word.toNat / 2 ^ (shift.toNat % 32)) 4
  rw [UInt32.toNat_toUInt8, UInt32.toNat_and, UInt32.toNat_shiftRight, Nat.shiftRight_eq_div_pow]
  exact (congrArg (· % 2 ^ 8) hmask).trans (Nat.mod_eq_of_lt (by omega))

/-- Bytes at different places are added. -/
lemma or_shiftLeft_bytes {a b : ℕ} (ha : a < 256) (hb : b < 256) (c : ℕ) :
    a ||| b <<< 8 ||| c <<< 16 = a + b * 256 + c * 65536 := by
  have hlow : a ||| b <<< 8 = 2 ^ 8 * b + a := by
    rw [Nat.two_pow_add_eq_or_of_lt ha, Nat.or_comm, Nat.shiftLeft_eq, Nat.mul_comm]
  have hlt : 2 ^ 8 * b + a < 2 ^ 16 := by omega
  have hhigh : (2 ^ 8 * b + a) ||| c <<< 16 = 2 ^ 16 * c + (2 ^ 8 * b + a) := by
    rw [Nat.two_pow_add_eq_or_of_lt hlt, Nat.or_comm, Nat.shiftLeft_eq, Nat.mul_comm c]
  rw [hlow, hhigh]
  omega

lemma getAudiodescriptor_nibble (word : UInt32) :
    (nibbleDescriptor word).getAudiodescriptor.result =
      .ok (word.toNat % 16 + word.toNat / 256 % 16 * 256 + word.toNat / 65536 % 16 * 65536) := by
  have hfirst : (word &&& 0xF).toUInt8.toNat = word.toNat % 16 := by
    simpa using toNat_nibble word 0
  have hsecond : ((word >>> 8) &&& 0xF).toUInt8.toNat = word.toNat / 256 % 16 := toNat_nibble word 8
  have hthird : ((word >>> 16) &&& 0xF).toUInt8.toNat = word.toNat / 65536 % 16 :=
    toNat_nibble word 16
  have hor := or_shiftLeft_bytes (a := word.toNat % 16) (b := word.toNat / 256 % 16) (by omega)
    (by omega) (word.toNat / 65536 % 16)
  rw [← hfirst, ← hsecond, ← hthird] at hor
  rw [← hfirst, ← hsecond, ← hthird, ← hor]
  rfl

/-- The three nibbles make up the word exactly when there was nothing else in it. -/
lemma nibbles_eq_iff_lowNibbles {word : UInt32} (h : word.toNat < 2 ^ 24) :
    word.toNat % 16 + word.toNat / 256 % 16 * 256 + word.toNat / 65536 % 16 * 65536 = word.toNat ↔
      LowNibbles word := by
  unfold LowNibbles
  omega

lemma result_reportShortAudioDescriptor (d : List UInt32) (n u : UInt8) :
    (ReportShortAudioDescriptor.new d n u).result =
      .ok (.reportShortAudioDescriptor ((List.range (min n.toNat 4)).map fun i =>
        nibbleDescriptor (d.getD i 0)) u.toNat) := by
  unfold ReportShortAudioDescriptor.new
  rw [count_eq_min]
  exact Logged.result_bind_of_ok (Logged.result_collect fun _ _ => rfl)

/-- The report of the descriptors `d` is sent as `min n 4` groups of three bytes, without a
subscript outside a vector, and is delivered with these descriptors. -/
def ReportRoundTrips (P : Processor) (x y : ℕ) (d : List UInt32) (n indeterminate : UInt8) : Prop :=
  ∃ m g, ∃ descriptors : List ShortAudioDescriptor,
    (ReportShortAudioDescriptor.new d n indeterminate).result = .ok m ∧
    (MessageEncoder.encode (.ofInts x y) m).result = .ok g ∧
    (MessageEncoder.encode (.ofInts x y) m).All Event.Indexed ∧
    g.length = 2 + 3 * min n.toNat 4 ∧
    calls (decode P g) =
      [(.reportShortAudioDescriptor descriptors (min n.toNat 4), .ofInts x y)] ∧
    descriptors.length = min n.toNat 4 ∧
    (descriptors.map fun o => o.getAudiodescriptor.result) =
      (d.take (min n.toNat 4)).map (fun word => .ok word.toNat)

/-- The encoder sends as many descriptors as the count says, and keeps to the vector when it has
that many. -/
lemma encode_descriptors {x y : ℕ} (hx : x < 16) (hy : y < 16)
    {descriptors : List ShortAudioDescriptor} (hdescriptors : ∀ o ∈ descriptors, o.str.length = 3)
    (hfew : descriptors.length ≤ 4) (u : ℕ) :
    ∃ g, (MessageEncoder.encode (.ofInts x y) (.reportShortAudioDescriptor descriptors u)).result =
        .ok g ∧
      ((MessageEncoder.encode (.ofInts x y)
          (.reportShortAudioDescriptor descriptors u)).All Event.Indexed ↔ u ≤ descriptors.length) ∧
      g.length = 2 + 3 * min u descriptors.length := by
  have htake : ∀ o ∈ descriptors.take u, o.str.length = 3 :=
    fun o ho => hdescriptors o (List.mem_of_mem_take ho)
  have hsent : (Msg.reportShortAudioDescriptor descriptors u).operandBytes.length =
      3 * min u descriptors.length := by
    rw [Msg.operandBytes, length_flatMap_str htake, List.length_take]
  obtain ⟨g, hg, -, hlen, -⟩ := calls_encoded (m := .reportShortAudioDescriptor descriptors u)
    (fun _ _ => .ok ()) (by simp) .reportShortAudioDescriptor (by omega) hx hy
  obtain ⟨frame, hframe, hiff⟩ :=
    all_indexed_encode_iff x y (.reportShortAudioDescriptor descriptors u)
  have hfits : (frame.bytes ++ (descriptors.drop 0).flatMap CECBytes.str).length ≤ 128 := by
    rw [CECFrame.length] at hframe
    rw [List.drop_zero, List.length_append, length_flatMap_str hdescriptors]
    omega
  refine ⟨g, hg, ?_, by rw [hlen, hsent]⟩
  have hloop := all_indexed_serializeLoop_iff u (Nat.zero_le _) hfits
  rw [Nat.zero_add] at hloop
  exact hiff.trans hloop

/-- A report of short audio descriptors comes back exactly when the count that the constructor
leaves alone is right and the high nibbles of the descriptors' bytes, which it masks out, are zero.
-/
theorem reportShortAudioDescriptor_roundTrip_iff (P : Processor) {x y : ℕ} (hx : x < 16)
    (hy : y < 16) (d : List UInt32) (hd : ∀ word ∈ d, word.toNat < 2 ^ 24) (n indeterminate : UInt8)
    (hn : n.toNat ≤ d.length) :
    ReportRoundTrips P x y d n indeterminate ↔
      indeterminate.toNat = min n.toNat 4 ∧ ∀ word ∈ d.take (min n.toNat 4), LowNibbles word := by
  have hnew := result_reportShortAudioDescriptor d n indeterminate
  unfold ReportRoundTrips
  have hk : min n.toNat 4 ≤ d.length := by omega
  have hfour : min n.toNat 4 ≤ 4 := by omega
  generalize min n.toNat 4 = k at hnew hk hfour ⊢
  rw [map_range_getD d 0 nibbleDescriptor hk] at hnew
  have hcount : ((d.take k).map nibbleDescriptor).length = k := by
    rw [List.length_map, List.length_take, Nat.min_eq_left hk]
  have hthree : ∀ o ∈ (d.take k).map nibbleDescriptor, o.str.length = 3 := by
    intro o ho
    obtain ⟨word, -, rfl⟩ := List.mem_map.mp ho
    rfl
  have hvalues : ((d.take k).map nibbleDescriptor).map (fun o => o.getAudiodescriptor.result) =
      (d.take k).map (fun word => .ok word.toNat) ↔ ∀ word ∈ d.take k, LowNibbles word := by
    rw [List.map_map, List.map_inj_left]
    refine forall₂_congr fun word hword => ?_
    rw [Function.comp_apply, getAudiodescriptor_nibble, Except.ok.injEq]
    exact nibbles_eq_iff_lowNibbles (hd word (List.mem_of_mem_take hword))
  rw [← hvalues]
  obtain ⟨g, hg, hindexed, hlen⟩ :=
    encode_descriptors hx hy hthree (hcount.trans_le hfour) indeterminate.toNat
  rw [hcount] at hindexed hlen
  have hback : indeterminate.toNat = k → calls (decode P g) =
      [(.reportShortAudioDescriptor ((d.take k).map nibbleDescriptor) k, .ofInts x y)] := by
    intro hu
    obtain ⟨g', hg', hcalls⟩ :=
      roundTrips_descriptors (P := P) hx hy hthree (hcount.trans_le (hfour.trans (by decide)))
    rw [hcount] at hg' hcalls
    rw [hu, hg', Except.ok.injEq] at hg
    rw [← hg, hcalls]
  constructor
  · rintro ⟨m, g', descriptors, hm, hg', hindexed', hlen', hcalls', -, hdescriptors⟩
    rw [hnew, Except.ok.injEq] at hm
    subst hm
    rw [hg, Except.ok.injEq] at hg'
    subst hg'
    have hle := hindexed.mp hindexed'
    have hu : indeterminate.toNat = k := by omega
    have hcalls := hback hu
    rw [hcalls'] at hcalls
    have hsame : descriptors = (d.take k).map nibbleDescriptor := by
      simp only [List.cons.injEq, Prod.mk.injEq, Msg.reportShortAudioDescriptor.injEq] at hcalls
      exact hcalls.1.1.1
    exact ⟨hu, hsame ▸ hdescriptors⟩
  · rintro ⟨hu, hdescriptors⟩
    exact ⟨_, g, _, hnew, hg, hindexed.mpr hu.le, by omega, hback hu, hcount, hdescriptors⟩

/-- One descriptor of small bytes, when the member happens to hold 1. -/
theorem reportShortAudioDescriptor_roundTrip_small :
    ReportRoundTrips (fun _ _ => .ok ()) 5 0 [0x070609] 1 1 :=
  (reportShortAudioDescriptor_roundTrip_iff _ (by decide) (by decide) [0x070609]
    (List.forall_mem_singleton.mpr (by decide)) 1 1 (by decide)).mpr
      ⟨rfl, List.forall_mem_singleton.mpr (by decide)⟩

/-- The high nibble of the last byte is lost. -/
theorem reportShortAudioDescriptor_nibble_lost :
    ¬ ReportRoundTrips (fun _ _ => .ok ()) 5 0 [0x170709] 1 1 := by
  rintro ⟨m, g, descriptors, hm, hg, -, -, hcalls, -, hdescriptors⟩
  rw [result_reportShortAudioDescriptor, Except.ok.injEq] at hm
  subst hm
  have hencoded : (MessageEncoder.encode (.ofInts (5 : ℕ) (0 : ℕ))
      (.reportShortAudioDescriptor [⟨[0x09, 0x07, 0x07]⟩] 1)).result =
      .ok ⟨[0x50, 0xA3, 0x09, 0x07, 0x07], by decide⟩ := by decide +kernel
  have hg' := hencoded.symm.trans hg
  rw [Except.ok.injEq] at hg'
  subst hg'
  have hdecoded : calls (decode (fun _ _ => .ok ()) ⟨[0x50, 0xA3, 0x09, 0x07, 0x07], by decide⟩) =
      [(.reportShortAudioDescriptor [⟨[0x09, 0x07, 0x07]⟩] 1, .ofInts (5 : ℕ) (0 : ℕ))] := by
    rw [calls_decode]
    decide +kernel
  rw [hcalls] at hdecoded
  simp only [List.cons.injEq, Prod.mk.injEq, Msg.reportShortAudioDescriptor.injEq] at hdecoded
  obtain ⟨⟨⟨hsame, -⟩, -⟩, -⟩ := hdecoded
  rw [hsame] at hdescriptors
  exact absurd hdescriptors (by decide +kernel)

end HdmiCec
