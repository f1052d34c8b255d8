import HdmiCec.Codec.Encoding
import HdmiCec.Codec.Printing
import HdmiCec.Sending.Basic

/-!
# What a send hands to the driver

Every call of `Driver::write` that a send makes, in whichever round of its retries, gets one and the
same frame. For `send` it is the frame of the caller with the connection's source in the high nibble
of its first byte, when that source is registered; for `sendTo` it is the header and the payload.
-/

namespace HdmiCec

open Lib

/-! ### The initiator -/

/-- The high nibble of the first byte. -/
def CECFrame.initiator (frame : CECFrame) : ℕ := (frame.bytes.getD 0 0).toNat / 16

/-- The low nibble of an address. -/
def LogicalAddress.nibble (source : LogicalAddress) : ℕ := (source.str.getD 0 0).toNat % 16

/-- The frame with only the high nibble of its first byte replaced. -/
def CECFrame.withInitiator (frame : CECFrame) (x : ℕ) : CECFrame :=
  frame.setFirst (UInt8.ofNat (x * 16 + (frame.bytes.getD 0 0).toNat % 16))

namespace CECFrame

variable {frame : CECFrame} {x : ℕ}

@[simp] lemma bytes_setFirst (frame : CECFrame) (b : UInt8) :
    (frame.setFirst b).bytes = frame.bytes.set 0 b := rfl

lemma withInitiator_cons {b : UInt8} {bs : List UInt8} (h : frame.bytes = b :: bs) :
    (frame.withInitiator x).bytes = UInt8.ofNat (x * 16 + b.toNat % 16) :: bs := by
  simp [withInitiator, h]

/-- Replacing the initiator by itself changes nothing. -/
lemma withInitiator_initiator (frame : CECFrame) : frame.withInitiator frame.initiator = frame := by
  apply CECFrame.ext
  cases h : frame.bytes with
  | nil => simp [withInitiator, h]
  | cons b bs =>
    rw [withInitiator_cons h, initiator, h, List.getD_cons_zero, Nat.mul_comm, Nat.div_add_mod,
      UInt8.ofNat_toNat]

/-- A frame with a header has the initiator that was put there. -/
lemma initiator_withInitiator (h : 1 ≤ frame.length) (hx : x < 16) :
    (frame.withInitiator x).initiator = x := by
  cases hb : frame.bytes with
  | nil => simp [length, hb] at h
  | cons b bs =>
    have hlt : x * 16 + b.toNat % 16 < 256 := by omega
    rw [initiator, withInitiator_cons hb, List.getD_cons_zero, UInt8.toNat_ofNat_of_lt' hlt]
    omega

lemma withInitiator_eq_self_iff (h : 1 ≤ frame.length) (hx : x < 16) :
    frame.withInitiator x = frame ↔ frame.initiator = x := by
  constructor
  · intro heq
    rw [← heq, initiator_withInitiator h hx]
  · rintro rfl
    exact frame.withInitiator_initiator

end CECFrame

namespace Connection

variable {driver : Device} {source : LogicalAddress} {frame : CECFrame}

lemma nibble_lt (source : LogicalAddress) : source.nibble < 16 := Nat.mod_lt _ (by decide)

private lemma high_nibble (b : UInt8) : ((b >>> 4) &&& 0x0F).toNat = b.toNat / 16 := by
  have hlt := b.toNat_lt
  have hshift : (b >>> 4).toNat = b.toNat / 16 := by
    simp [Nat.shiftRight_eq_div_pow]
  rw [UInt8.toNat_and, hshift]
  have hand : b.toNat / 16 &&& (0x0F : UInt8).toNat = b.toNat / 16 % 16 :=
    Nat.and_two_pow_sub_one_eq_mod _ 4
  rw [hand]
  omega

private lemma replaced_nibble (b : UInt8) (x : ℕ) :
    (b &&& 0x0F).toNat ||| (x &&& 0x0F) <<< 4 = x % 16 * 16 + b.toNat % 16 := by
  have hlow : (b &&& 0x0F).toNat = b.toNat % 16 := by
    rw [UInt8.toNat_and]
    exact Nat.and_two_pow_sub_one_eq_mod _ 4
  have hhigh : x &&& 0x0F = x % 16 := Nat.and_two_pow_sub_one_eq_mod _ 4
  have hlt : b.toNat % 16 < 2 ^ 4 := Nat.mod_lt _ (by decide)
  rw [hlow, hhigh, Nat.or_comm, ← Nat.shiftLeft_add_eq_or_of_lt hlt, Nat.shiftLeft_eq]

/-- The frame that goes on the wire: with the source of the connection as its initiator when that is
registered, and as it is otherwise. -/
def wire (driver : Device) (source : LogicalAddress) (frame : CECFrame) : CECFrame :=
  if driver.isValidLogicalAddress source then frame.withInitiator source.nibble else frame

/-- `matchSource` returns and leaves the frame that goes on the wire. -/
lemma result_matchSource (driver : Device) (source : LogicalAddress) (frame : CECFrame) :
    (matchSource driver source frame).result = .ok (wire driver source frame) := by
  unfold matchSource wire
  split
  · obtain ⟨text, htext⟩ := source.toString_returns
    have hint : source.toInt.result = .ok (source.str.getD 0 0).toNat := rfl
    rw [Logged.result_bind_of_ok htext, Logged.result_bind_of_ok rfl, Logged.result_bind_of_ok rfl,
      Logged.result_bind_of_ok hint, high_nibble]
    have hmod : (source.str.getD 0 0).toNat &&& 0x0F = source.nibble :=
      Nat.and_two_pow_sub_one_eq_mod _ 4
    split
    · rw [Logged.result_bind_of_ok rfl, Logged.result_bind_of_ok hint, replaced_nibble]
      rfl
    · rename_i heq
      have hinitiator : frame.initiator = source.nibble := by
        rw [← hmod]
        exact not_not.mp heq
      rw [← hinitiator, CECFrame.withInitiator_initiator]
      rfl
  · rfl

end Connection

/-! ### The bus -/

/-- Every call of `Driver::write` in a run gets `frame`. -/
def WritesOnly {α : Type} (frame : CECFrame) (m : Logged Exn SendEvent α) : Prop :=
  m.All fun e => ∀ f, e = .write f → f = frame

section

variable {α β : Type} {frame : CECFrame}

lemma writesOnly_lib (m : Ccec α) : WritesOnly frame (Bus.lib m) := by
  intro e he f hf
  obtain ⟨_, -, rfl⟩ := List.mem_map.mp he
  cases hf

lemma writesOnly_emit {e : SendEvent} (h : ∀ f, e = .write f → f = frame) :
    WritesOnly frame (.emit e) := (Logged.all_emit e).mpr h

lemma writesOnly_pure (a : α) : WritesOnly frame (pure a) := Logged.all_pure a

lemma writesOnly_raise (e : Exn) : WritesOnly frame (.raise e : Logged Exn SendEvent α) :=
  Logged.all_raise e

lemma WritesOnly.bind {m : Logged Exn SendEvent α} {f : α → Logged Exn SendEvent β}
    (hm : WritesOnly frame m) (hf : ∀ a, m.result = .ok a → WritesOnly frame (f a)) :
    WritesOnly frame (m >>= f) := Logged.all_bind.mpr ⟨hm, hf⟩

lemma WritesOnly.catching {m : Logged Exn SendEvent α} {p : Exn → Bool}
    {handler : Exn → Logged Exn SendEvent α} (hm : WritesOnly frame m)
    (hh : ∀ e, WritesOnly frame (handler e)) : WritesOnly frame (m.catching p handler) :=
  (Logged.all_catching hh).mpr hm

end

namespace Bus

variable (frame : CECFrame)

lemma writesOnly_driverWrite (now : Attempt) : WritesOnly frame (driverWrite now frame) := by
  apply (writesOnly_emit ?_).bind
  · intro _ _ e he f hf
    obtain ⟨w, -, rfl⟩ := List.mem_map.mp he
    cases w <;> cases hf
  · intro f hf
    cases hf
    rfl

lemma writesOnly_reportFailure (e : Exn) : WritesOnly frame (reportFailure frame e) := by
  unfold reportFailure
  split
  · exact (writesOnly_emit (by simp)).bind fun _ _ => writesOnly_lib _
  · exact writesOnly_pure ()

lemma writesOnly_sendNow (now : Attempt) : WritesOnly frame (sendNow now frame) := by
  apply (writesOnly_lib _).bind
  intro _ _
  apply WritesOnly.catching
  · exact (writesOnly_driverWrite frame now).bind fun _ _ => writesOnly_lib _
  · intro e
    exact (writesOnly_reportFailure frame e).bind fun _ _ => writesOnly_raise e

lemma writesOnly_sendRound (now : Attempt) (retry : ℕ) :
    WritesOnly frame (sendRound now frame retry) := by
  apply WritesOnly.catching
  · apply (writesOnly_lib _).bind
    intro _ _
    exact (writesOnly_sendNow frame now).bind fun _ _ => writesOnly_pure true
  · intro e
    apply (writesOnly_lib _).bind
    intro _ _
    split
    · exact writesOnly_raise e
    · exact writesOnly_pure false

/-- The rounds of the loop all write the same frame. -/
lemma writesOnly_sendLoop (attempts : ℕ → Attempt) (n retry : ℕ) :
    WritesOnly frame (sendLoop attempts frame n retry) := by
  induction retry generalizing n with
  | zero =>
    apply (writesOnly_emit (by simp)).bind
    intro _ _
    exact (writesOnly_sendRound frame _ 0).bind fun _ _ => writesOnly_pure ()
  | succ retry ih =>
    apply (writesOnly_emit (by simp)).bind
    intro _ _
    apply (writesOnly_sendRound frame _ _).bind
    intro sent _
    split
    · exact writesOnly_pure ()
    · exact (writesOnly_emit (by simp)).bind fun _ _ => ih (n + 1)

lemma writesOnly_send (attempts : ℕ → Attempt) (timeout : ℤ) :
    WritesOnly frame (send attempts frame timeout) := by
  unfold send
  split
  · exact writesOnly_sendNow frame _
  · exact writesOnly_sendLoop frame attempts 0 _

lemma mem_sendNow {now : Attempt} (h : now.started = true) :
    .write frame ∈ (sendNow now frame).log := by
  apply Logged.mem_log_bind_of_ok (a := ())
  · simp [lib, checkStarted, h]
  · exact Logged.mem_log_catching (Logged.mem_log_bind (Logged.mem_log_bind (by simp)))

lemma mem_sendRound {now : Attempt} (h : now.started = true) (retry : ℕ) :
    .write frame ∈ (sendRound now frame retry).log := by
  apply Logged.mem_log_catching
  apply Logged.mem_log_bind_of_ok (a := ())
  · simp [lib, checkStarted, h]
  · exact Logged.mem_log_bind (mem_sendNow frame h)

/-- A bus that is started at the first attempt writes. -/
lemma mem_send {attempts : ℕ → Attempt} (h : (attempts 0).started = true) (timeout : ℤ) :
    .write frame ∈ (send attempts frame timeout).log := by
  unfold send
  split
  · exact mem_sendNow frame h
  · cases (timeout / 250).toNat with
    | zero =>
      exact Logged.mem_log_bind_of_ok rfl (Logged.mem_log_bind (mem_sendRound frame h 0))
    | succ retry =>
      exact Logged.mem_log_bind_of_ok rfl (Logged.mem_log_bind (mem_sendRound frame h _))

end Bus

/-! ### The connection -/

namespace Connection

section

variable {α : Type} (text : String) (driver : Device) (source : LogicalAddress) (frame : CECFrame)
  (rest : CECFrame → Logged Exn SendEvent α)

@[simp] lemma frame_matching :
    (matching text driver source frame rest).frame = wire driver source frame := by
  simp [matching, result_matchSource, Except.toOption]

lemma result_matching :
    (matching text driver source frame rest).run.result =
      (rest (wire driver source frame)).result := by
  rw [matching, Logged.result_bind_of_ok rfl]
  exact Logged.result_bind_of_ok (result_matchSource driver source frame)

variable {rest}

lemma writesOnly_matching {g : CECFrame} (h : WritesOnly g (rest (wire driver source frame))) :
    WritesOnly g (matching text driver source frame rest).run := by
  apply (writesOnly_lib _).bind
  intro _ _
  apply (writesOnly_lib _).bind
  intro frame' hframe'
  have hmatch : Except.ok frame' = Except.ok (wire driver source frame) :=
    hframe'.symm.trans (result_matchSource driver source frame)
  cases hmatch
  exact h

lemma mem_matching {o : SendEvent} (h : o ∈ (rest (wire driver source frame)).log) :
    o ∈ (matching text driver source frame rest).run.log := by
  apply Logged.mem_log_bind_of_ok rfl
  exact Logged.mem_log_bind_of_ok (result_matchSource driver source frame) h

end

/-! ### The frame with its header -/

section

variable {s d : ℕ} {p : CECFrame}

end

/-! ### The calls -/

section

variable (driver : Device) (source : LogicalAddress) (attempts : ℕ → Bus.Attempt) (frame : CECFrame)
  (timeout : ℤ)

lemma writesOnly_send :
    WritesOnly (wire driver source frame) (send driver source attempts frame timeout).run := by
  apply writesOnly_matching
  exact (Bus.writesOnly_send _ attempts timeout).catching fun _ => writesOnly_pure ()

lemma writesOnly_sendOrThrow :
    WritesOnly (wire driver source frame)
      (sendOrThrow driver source attempts frame timeout).run := by
  apply writesOnly_matching
  exact (Bus.writesOnly_send _ attempts timeout).catching writesOnly_raise

variable {attempts} (h : (attempts 0).started = true)

include h

lemma mem_send : .write (wire driver source frame) ∈
    (send driver source attempts frame timeout).run.log := by
  apply mem_matching
  exact Logged.mem_log_catching (Bus.mem_send _ h timeout)

end

section

variable (driver : Device) (attempts : ℕ → Bus.Attempt) (timeout : ℤ)

variable {s d : ℕ} {p : CECFrame}

variable {α : Type}

end

end Connection

end HdmiCec
