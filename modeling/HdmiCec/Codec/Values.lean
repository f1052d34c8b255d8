import Mathlib.Data.List.Basic
import HdmiCec.Codec.RoundTrip

/-!
# Messages from values and back

Round trips of the messages whose encoder decides what goes on the wire: the two messages that leave
out the address F.F.F.F, the latency report with its optional third byte, and the texts, whose
constructors do not check their length.
-/

namespace HdmiCec

open Lib MessageDecoder

/-- The message is encoded, and decoding the frame makes one call, with the message. -/
def RoundTrips (P : Processor) (x y : ℕ) (m : Msg) : Prop :=
  ∃ g, (MessageEncoder.encode (.ofInts x y) m).result = .ok g ∧
    calls (decode P g) = [(m, .ofInts x y)]

section

variable {P : Processor} {x y : ℕ} {m : Msg} {construct : CECFrame → Ccec Msg}

/-- A message survives the wire exactly when the branch of its opcode constructs it from its operand
bytes. -/
lemma roundTrips_iff (hpolling : m ≠ .polling) (hl : Layout m.opCode construct)
    (hlen : m.operandBytes.length ≤ 126) (hx : x < 16) (hy : y < 16) :
    RoundTrips P x y m ↔
      ∀ frame : CECFrame, frame.bytes = m.operandBytes → (construct frame).result = .ok m := by
  obtain ⟨g, hg, hframe, -, hcalls⟩ := calls_encoded P hpolling hl hlen hx hy
  constructor
  · rintro ⟨g', hg', hcalls'⟩ frame hbytes
    rw [hg, Except.ok.injEq] at hg'
    subst hg'
    have hsame : frame = g.operandFrame := CECFrame.ext (hbytes.trans hframe.symm)
    rw [hcalls] at hcalls'
    rw [hsame]
    cases hresult : (construct g.operandFrame).result with
    | ok m' =>
      rw [hresult] at hcalls'
      simpa [Except.toOption] using hcalls'
    | error e =>
      rw [hresult] at hcalls'
      cases hcalls'
  · intro hconstruct
    refine ⟨g, hg, ?_⟩
    rw [hcalls, hconstruct _ hframe]
    rfl

end

/-! ### The address that is left out -/

lemma PhysicalAddress.isDefault_iff {p : PhysicalAddress} (hp : p.str.length = 2) :
    p.IsDefault ↔ p = .ofNibbles 0xF 0xF 0xF 0xF := by
  obtain ⟨b0, b1, hstr⟩ := List.length_eq_two.mp hp
  have hdefault : PhysicalAddress.ofNibbles 0xF 0xF 0xF 0xF = ⟨[0xFF, 0xFF]⟩ := by decide
  obtain ⟨str⟩ := p
  simp only at hstr
  subst hstr
  rw [hdefault]
  simp [PhysicalAddress.IsDefault]

section

variable {P : Processor} {x y : ℕ} {p : PhysicalAddress}

/-- A message that leaves out its address when that is F.F.F.F comes back when it does not. -/
lemma roundTrips_address_iff (k : PhysicalAddress → Msg) {construct : CECFrame → Ccec Msg}
    (hpolling : k p ≠ .polling) (hl : Layout (k p).opCode construct)
    (hbytes : (k p).operandBytes = if p.IsDefault then [] else p.str)
    (hreturns : ∀ (frame : CECFrame) (m : Msg), (construct frame).result = .ok m ↔
      0 < frame.length ∧ m = k ⟨frame.bytes.take 2⟩)
    (hx : x < 16) (hy : y < 16) (hp : p.str.length = 2) :
    RoundTrips P x y (k p) ↔ p ≠ .ofNibbles 0xF 0xF 0xF 0xF := by
  have hlen : (k p).operandBytes.length ≤ 126 := by
    rw [hbytes]
    split
    · exact Nat.zero_le _
    · rw [hp]
      decide
  rw [roundTrips_iff hpolling hl hlen hx hy, ne_eq, ← PhysicalAddress.isDefault_iff hp]
  constructor
  · intro hconstruct hdefault
    have hempty : (k p).operandBytes = [] := by rw [hbytes, if_pos hdefault]
    have hpos := ((hreturns _ _).mp (hconstruct .empty hempty.symm)).1
    exact absurd hpos (by decide)
  · intro hdefault frame hframe
    rw [hbytes, if_neg hdefault] at hframe
    rw [hreturns, CECFrame.length, hframe, List.take_of_length_le hp.le]
    exact ⟨hp ▸ by decide, rfl⟩

end

/-- `SystemAudioModeRequest` and `RequestCurrentLatency` come back with their address exactly when
it is not F.F.F.F: the encoder leaves that one out, and the decoder does not put it back. -/
theorem optional_address_iff (P : Processor) {x y : ℕ} (hx : x < 16) (hy : y < 16)
    (p : PhysicalAddress) (hp : p.str.length = 2) :
    (RoundTrips P x y (.systemAudioModeRequest p) ↔ p ≠ .ofNibbles 0xF 0xF 0xF 0xF) ∧
    (RoundTrips P x y (.requestCurrentLatency p) ↔ p ≠ .ofNibbles 0xF 0xF 0xF 0xF) := by
  constructor
  · apply roundTrips_address_iff Msg.systemAudioModeRequest _ .systemAudioModeRequest rfl _ hx hy hp
    · simp
    · intro frame m
      exact systemAudioModeRequest_returns_iff
  · apply roundTrips_address_iff Msg.requestCurrentLatency _ .requestCurrentLatency rfl _ hx hy hp
    · simp
    · intro frame m
      exact requestCurrentLatency_returns_iff

/-- A television asks for the system audio mode with the address 1.0.0.0. -/
theorem optional_address_iff_one :
    RoundTrips (fun _ _ => .ok ()) 0 5 (.systemAudioModeRequest ⟨[0x10, 0x00]⟩) ∧
      RoundTrips (fun _ _ => .ok ()) 0 5 (.requestCurrentLatency ⟨[0x10, 0x00]⟩) := by
  obtain ⟨hrequest, hlatency⟩ := optional_address_iff (fun _ _ => .ok ()) (x := 0) (y := 5)
    (by decide) (by decide) ⟨[0x10, 0x00]⟩ rfl
  exact ⟨hrequest.mpr (by decide), hlatency.mpr (by decide)⟩

/-- The request with the address F.F.F.F is lost. -/
theorem default_address_lost :
    ¬ RoundTrips (fun _ _ => .ok ()) 0 5
      (.systemAudioModeRequest (.ofNibbles 0xF 0xF 0xF 0xF)) := by
  rintro ⟨g, hg, hcalls⟩
  have hencoded : (MessageEncoder.encode (.ofInts (0 : ℕ) (5 : ℕ))
      (.systemAudioModeRequest (.ofNibbles 0xF 0xF 0xF 0xF))).result =
      .ok ⟨[0x05, 0x70], by decide⟩ := by decide +kernel
  rw [hencoded, Except.ok.injEq] at hg
  subst hg
  rw [calls_decode] at hcalls
  exact absurd hcalls (by decide +kernel)

/-! ### The latency report -/

/-- The bytes after the address: the delay is there when both low bits of the flags are set. -/
def latencyBytes (videoLatency latencyFlags audioOutputDelay : UInt8) : List UInt8 :=
  videoLatency :: latencyFlags :: if latencyFlags &&& 0x3 = 0x3 then [audioOutputDelay] else []

section

variable {P : Processor} {x y : ℕ} {p : PhysicalAddress} {v f d : UInt8}

lemma result_reportCurrentLatency :
    (ReportCurrentLatency.new p v f d).result =
      .ok (.reportCurrentLatency p ((latencyBytes v f d).map .ofByte)) := by
  unfold ReportCurrentLatency.new latencyBytes
  split <;> rfl

lemma length_latencyBytes : (latencyBytes v f d).length ≤ 3 := by
  unfold latencyBytes
  split <;> simp

lemma flatMap_ofByte {c : OperandClass} (bs : List UInt8) :
    (bs.map (CECBytes.ofByte (c := c))).flatMap CECBytes.str = bs := by
  induction bs with
  | nil => rfl
  | cons b bs ih => exact congrArg (b :: ·) ih

/-- The operands of a report made of single bytes, and of one made of all of them. -/
lemma operandBytes_latency (bs : List UInt8) :
    (Msg.reportCurrentLatency p (bs.map .ofByte)).operandBytes = p.str ++ bs ∧
      (Msg.reportCurrentLatency p [⟨bs⟩]).operandBytes = p.str ++ bs := by
  constructor
  · exact congrArg (p.str ++ ·) (flatMap_ofByte bs)
  · exact congrArg (p.str ++ ·) (List.append_nil bs)

/-- The report comes back with its bytes in one operand. -/
lemma calls_latency (hx : x < 16) (hy : y < 16) (hp : p.str.length = 2) :
    ∃ g, (MessageEncoder.encode (.ofInts x y)
        (.reportCurrentLatency p ((latencyBytes v f d).map .ofByte))).result = .ok g ∧
      calls (decode P g) =
        [(.reportCurrentLatency p [⟨latencyBytes v f d⟩], .ofInts x y)] := by
  have hbytes := (operandBytes_latency (p := p) (latencyBytes v f d)).1
  have hle := length_latencyBytes (v := v) (f := f) (d := d)
  have hlen : (Msg.reportCurrentLatency p ((latencyBytes v f d).map .ofByte)).operandBytes.length ≤
      126 := by
    rw [hbytes, List.length_append, hp]
    omega
  obtain ⟨g, hg, hframe, -, hcalls⟩ :=
    calls_encoded (m := .reportCurrentLatency p ((latencyBytes v f d).map .ofByte)) P (by simp)
      .reportCurrentLatency hlen hx hy
  refine ⟨g, hg, ?_⟩
  rw [hbytes] at hframe
  have hresult : (ReportCurrentLatency.ofFrame g.operandFrame 0).result =
      .ok (.reportCurrentLatency p [⟨latencyBytes v f d⟩]) := by
    rw [reportCurrentLatency_returns_iff, CECFrame.length, hframe, List.take_left' hp,
      List.drop_left' hp, List.take_of_length_le hle, List.length_append, hp]
    exact ⟨Nat.lt_add_of_pos_right (Nat.succ_pos _), rfl⟩
  rw [hcalls, hresult]
  rfl

end

/-- The report of the given values is delivered with the address and a single `LatencyInfo` that has
the values, and serializes as it did. -/
def LatencyRoundTrips (P : Processor) (x y : ℕ) (p : PhysicalAddress)
    (videoLatency latencyFlags audioOutputDelay : UInt8) : Prop :=
  ∃ m g, ∃ info : LatencyInfo,
    (ReportCurrentLatency.new p videoLatency latencyFlags audioOutputDelay).result = .ok m ∧
    (MessageEncoder.encode (.ofInts x y) m).result = .ok g ∧
    calls (decode P g) = [(.reportCurrentLatency p [info], .ofInts x y)] ∧
    info.getVideoLatency.result = .ok videoLatency ∧
    info.getLatencyFlags.result = .ok latencyFlags ∧
    info.getAudioOutputDelay.result =
      .ok (if latencyFlags &&& 0x3 = 0x3 then audioOutputDelay.toNat else 0xFF) ∧
    ((Msg.reportCurrentLatency p [info]).serialize .empty).result = (m.serialize .empty).result

/-- The delay that is read from the bytes of a report. -/
lemma result_getAudioOutputDelay (v f d : UInt8) :
    (LatencyInfo.getAudioOutputDelay ⟨latencyBytes v f d⟩).result =
      .ok (if f = 0x3 then d.toNat else 0xFF) := by
  have hflags : ((⟨latencyBytes v f d⟩ : LatencyInfo).byte 1).result = .ok f := rfl
  rw [LatencyInfo.getAudioOutputDelay, Logged.result_bind_of_ok hflags]
  by_cases hf : f = 0x3
  · subst hf
    rfl
  · simp [hf]

/-- A latency report comes back exactly when its flags are 3, or do not announce a delay, or
announce one of 255 ms. -/
theorem latency_roundTrips_iff (P : Processor) {x y : ℕ} (hx : x < 16) (hy : y < 16)
    (p : PhysicalAddress) (hp : p.str.length = 2) (v f d : UInt8) :
    LatencyRoundTrips P x y p v f d ↔ (f &&& 0x3 = 0x3 → f = 0x3 ∨ d = 0xFF) := by
  obtain ⟨g, hg, hcalls⟩ := calls_latency (P := P) (v := v) (f := f) (d := d) hx hy hp
  have hdelay : (if f = 0x3 then d.toNat else 0xFF) =
      (if f &&& 0x3 = 0x3 then d.toNat else 0xFF) ↔
        (f &&& 0x3 = 0x3 → f = 0x3 ∨ d = 0xFF) := by
    by_cases hf : f = 0x3
    · subst hf
      simp
    · by_cases hbits : f &&& 0x3 = 0x3
      · have hd : 0xFF = d.toNat ↔ d = 0xFF := by
          rw [eq_comm, ← UInt8.toNat_inj]
          rfl
        simp [hf, hbits, hd]
      · simp [hf, hbits]
  rw [← hdelay]
  constructor
  · rintro ⟨m, g', info, hm, hg', hcalls', -, -, hinfo, -⟩
    rw [result_reportCurrentLatency, Except.ok.injEq] at hm
    subst hm
    rw [hg, Except.ok.injEq] at hg'
    subst hg'
    have hsame : info = ⟨latencyBytes v f d⟩ := by
      rw [hcalls] at hcalls'
      simpa [eq_comm] using hcalls'
    rw [hsame, result_getAudioOutputDelay, Except.ok.injEq] at hinfo
    exact hinfo
  · intro heq
    refine ⟨_, g, ⟨latencyBytes v f d⟩, result_reportCurrentLatency, hg, hcalls, rfl, rfl, ?_, ?_⟩
    · rw [result_getAudioOutputDelay, heq]
    · obtain ⟨hbytes, hbytes'⟩ := operandBytes_latency (p := p) (latencyBytes v f d)
      have hle := length_latencyBytes (v := v) (f := f) (d := d)
      have hfits : (CECFrame.empty.bytes ++ (p.str ++ latencyBytes v f d)).length ≤ 128 := by
        simp only [CECFrame.bytes_empty, List.nil_append, List.length_append, hp]
        omega
      have happends := Appends.msg (.reportCurrentLatency p ((latencyBytes v f d).map .ofByte))
      have happends' := Appends.msg (.reportCurrentLatency p [⟨latencyBytes v f d⟩])
      rw [hbytes] at happends
      rw [hbytes'] at happends'
      rw [happends .empty hfits, happends' .empty hfits]

/-- A report whose flags are 3 has its delay. -/
theorem latency_roundTrips_compensated :
    LatencyRoundTrips (fun _ _ => .ok ()) 0 4 ⟨[0x10, 0x00]⟩ 20 0x3 50 :=
  (latency_roundTrips_iff _ (by decide) (by decide) ⟨[0x10, 0x00]⟩ rfl 20 0x3 50).mpr
    fun _ => .inl rfl

/-- With a flag more the delay of 50 ms is on the wire, and it is read as 255. -/
theorem latency_delay_lost :
    ¬ LatencyRoundTrips (fun _ _ => .ok ()) 0 4 ⟨[0x10, 0x00]⟩ 20 0x7 50 := by
  rintro ⟨m, g, info, hm, hg, hcalls, -, -, hdelay, -⟩
  rw [result_reportCurrentLatency, Except.ok.injEq] at hm
  subst hm
  obtain ⟨g', hg', hcalls'⟩ := calls_latency (P := fun _ _ => .ok ()) (x := 0) (y := 4)
    (p := ⟨[0x10, 0x00]⟩) (v := 20) (f := 0x7) (d := 50) (by decide) (by decide) rfl
  rw [hg, Except.ok.injEq] at hg'
  subst hg'
  have hinfo : info = ⟨latencyBytes 20 0x7 50⟩ := by
    rw [hcalls] at hcalls'
    simpa using hcalls'
  rw [hinfo, result_getAudioOutputDelay] at hdelay
  exact absurd hdelay (by decide)

/-! ### The texts -/

/-- Every operand that the constructor `make` makes of the C string has 1 to `MAX_LEN` bytes, and
its message is delivered with the string as its text. -/
def TextSurvives (P : Processor) (x y : ℕ) {c : OperandClass} (make : CString → Ccec (CECBytes c))
    (message : CECBytes c → Msg) (s : CString) : Prop :=
  ∀ o, (make s).result = .ok o →
    (1 ≤ o.str.length ∧ o.str.length ≤ c.maxLen) ∧
    ∃ g o', (MessageEncoder.encode (.ofInts x y) (message o)).result = .ok g ∧
      calls (decode P g) = [(message o', .ofInts x y)] ∧ o'.toText = stdString s.chars

/-- The constructor makes an operand of every C string, so the length of the string decides. -/
lemma textSurvives_iff {P : Processor} {x y : ℕ} (hx : x < 16) (hy : y < 16) {c : OperandClass}
    {message : CECBytes c → Msg}
    (hregular : ∀ o, (message o).Regular ↔ 1 ≤ o.str.length ∧ o.str.length ≤ c.maxLen)
    (s : CString) :
    TextSurvives P x y CECBytes.ofCString message s ↔
      1 ≤ s.chars.length ∧ s.chars.length ≤ c.maxLen := by
  have hmake : (CECBytes.ofCString s : Ccec (CECBytes c)).result = .ok ⟨s.chars⟩ := rfl
  constructor
  · intro h
    exact (h _ hmake).1
  · intro hlen o ho
    rw [hmake, Except.ok.injEq] at ho
    subst ho
    obtain ⟨g, hg, hcalls⟩ := decode_encode P _ ((hregular ⟨s.chars⟩).mpr hlen) x y hx hy
    exact ⟨hlen, g, _, hg, hcalls, rfl⟩

/-- The texts keep to their sizes and survive the wire exactly when the C string does keep to them:
what `validate()` says in the constructors is not used. -/
theorem osd_text_survives_iff (P : Processor) {x y : ℕ} (hx : x < 16) (hy : y < 16) (s : CString) :
    (TextSurvives P x y OSDName.ofCString .setOSDName s ↔
      1 ≤ s.chars.length ∧ s.chars.length ≤ 14) ∧
    (TextSurvives P x y OSDString.ofCString .setOSDString s ↔
      1 ≤ s.chars.length ∧ s.chars.length ≤ 13) :=
  ⟨textSurvives_iff hx hy (fun _ => Iff.rfl) s, textSurvives_iff hx hy (fun _ => Iff.rfl) s⟩

/-- A name of the longest length. -/
theorem osd_text_survives_longest :
    TextSurvives (fun _ _ => .ok ()) 4 0 OSDName.ofCString .setOSDName
      ⟨List.replicate 14 0x41, by decide⟩ :=
  (osd_text_survives_iff _ (by decide) (by decide) ⟨List.replicate 14 0x41, by decide⟩).1.mpr
    ⟨by decide, by decide⟩

/-- A name of 15 bytes is accepted. -/
theorem osd_text_too_long :
    ¬ TextSurvives (fun _ _ => .ok ()) 4 0 OSDName.ofCString .setOSDName
      ⟨List.replicate 15 0x41, by decide⟩ := by
  intro h
  obtain ⟨⟨-, hle⟩, -⟩ := h _ rfl
  exact absurd hle (by decide)

end HdmiCec
