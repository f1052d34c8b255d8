import HdmiCec.Sending.Wire
import HdmiCec.System.Steps

/-!
# Sending one frame several times

`Connection::send` and `sendAsync` take the frame of the caller by `const` reference, and
`matchSource` writes into it. What that does to a caller who sends the same frame through several
connections, one call after the other.
-/

namespace HdmiCec

open Lib

/-- A call that sends the frame of the caller: the driver and the connection's source at the time of
the call, and what the bus is then. -/
inductive SendCall where
  | send (driver : Device) (source : LogicalAddress) (attempts : ℕ → Bus.Attempt) (timeout : ℤ)
  | sendOrThrow (driver : Device) (source : LogicalAddress) (attempts : ℕ → Bus.Attempt)
    (timeout : ℤ)
  | sendAsync (driver : Device) (source : LogicalAddress) (started : Bool) (wQueue : FrameQueue)
    (addr : ℕ)

namespace SendCall

def source : SendCall → LogicalAddress
  | send _ source _ _ | sendOrThrow _ source _ _ | sendAsync _ source _ _ _ => source

/-- The source of the connection is a registered logical address. -/
def registered : SendCall → Bool
  | send driver source _ _ | sendOrThrow driver source _ _ | sendAsync driver source _ _ _ =>
    driver.isValidLogicalAddress source

/-- The frame of the caller after the call. -/
def after : SendCall → CECFrame → CECFrame
  | send driver source attempts timeout, frame =>
    (Connection.send driver source attempts frame timeout).frame
  | sendOrThrow driver source attempts timeout, frame =>
    (Connection.sendOrThrow driver source attempts frame timeout).frame
  | sendAsync driver source started wQueue addr, frame =>
    (Connection.sendAsync driver source started wQueue addr frame).frame

/-- The call hands `g` to the driver: it gives `g` to `Driver::write`, or queues a copy of it for
the writer. -/
def Hands (frame g : CECFrame) : SendCall → Prop
  | send driver source attempts timeout =>
    .write g ∈ (Connection.send driver source attempts frame timeout).run.log
  | sendOrThrow driver source attempts timeout =>
    .write g ∈ (Connection.sendOrThrow driver source attempts frame timeout).run.log
  | sendAsync driver source started wQueue addr =>
    ∃ h, (Connection.sendAsync driver source started wQueue addr frame).run.result =
      .ok (wQueue.push (some ⟨addr, g⟩) h)

/-- What a call hands over by the content of the frame, its own source and its registration. -/
def wire (c : SendCall) (frame : CECFrame) : CECFrame :=
  if c.registered then frame.withInitiator c.source.nibble else frame

lemma after_eq_wire (c : SendCall) (frame : CECFrame) : c.after frame = c.wire frame := by
  cases c <;> exact Connection.frame_matching _ _ _ _ _

lemma Hands.eq_wire {c : SendCall} {frame g : CECFrame} (h : c.Hands frame g) :
    g = c.wire frame := by
  cases c with
  | send driver source attempts timeout =>
    exact Connection.writesOnly_send driver source attempts frame timeout _ h g rfl
  | sendOrThrow driver source attempts timeout =>
    exact Connection.writesOnly_sendOrThrow driver source attempts frame timeout _ h g rfl
  | sendAsync driver source started wQueue addr =>
    obtain ⟨hlt, hresult⟩ := h
    rw [Connection.sendAsync, Connection.result_matching] at hresult
    rcases Bus.sendAsync_cases started wQueue addr (Connection.wire driver source frame) with
      ⟨-, _, hreturned⟩ | ⟨-, hraised⟩
    · rw [Bus.lib, Logged.result_mapLog, hreturned, Except.ok.injEq] at hresult
      have hevents := congrArg EventQueue.events hresult.symm
      simp only [EventQueue.events_push, List.append_cancel_left_eq, List.cons.injEq,
        Option.some.injEq, FramePtr.mk.injEq, true_and, and_true] at hevents
      exact hevents
    · rw [Bus.lib, Logged.result_mapLog, hraised] at hresult
      cases hresult

/-- A call leaves a frame with a header unchanged exactly when it has nothing to rewrite. -/
lemma after_eq_self_iff {c : SendCall} {frame : CECFrame} (h : 1 ≤ frame.length) :
    c.after frame = frame ↔ (c.registered = true → frame.initiator = c.source.nibble) := by
  rw [after_eq_wire, wire]
  split
  · rename_i hregistered
    rw [CECFrame.withInitiator_eq_self_iff h (Connection.nibble_lt _)]
    exact ⟨fun heq _ => heq, fun himp => himp hregistered⟩
  · rename_i hregistered
    exact ⟨fun _ hregistered' => absurd hregistered' hregistered, fun _ => rfl⟩

/-- The frame of the caller after one call after the other. -/
def afterAll (frame : CECFrame) (calls : List SendCall) : CECFrame :=
  calls.foldl (fun frame c => c.after frame) frame

lemma afterAll_eq_self {frame : CECFrame} {calls : List SendCall}
    (h : ∀ c ∈ calls, c.after frame = frame) : afterAll frame calls = frame := by
  induction calls with
  | nil => rfl
  | cons c calls ih =>
    rw [afterAll, List.foldl_cons, h c List.mem_cons_self]
    exact ih fun c' hc' => h c' (List.mem_cons_of_mem c hc')

lemma afterAll_take_succ (frame : CECFrame) {calls : List SendCall} {n : ℕ} {c : SendCall}
    (h : calls[n]? = some c) :
    afterAll frame (calls.take (n + 1)) = c.after (afterAll frame (calls.take n)) := by
  rw [List.take_add_one, h, afterAll, List.foldl_append]
  rfl

end SendCall

open SendCall

/-- The frame of the caller stays as it is through a sequence of sends, and each of them hands over
what the original frame, its own source and its registration give, exactly when no connection whose
source is registered sends the frame under another initiator. -/
theorem sends_preserve_frame_iff (frame : CECFrame) (h : 1 ≤ frame.length)
    (calls : List SendCall) :
    ((∀ n, afterAll frame (calls.take n) = frame) ∧
      ∀ (n : ℕ) (c : SendCall) (g : CECFrame), calls[n]? = some c →
        c.Hands (afterAll frame (calls.take n)) g → g = c.wire frame) ↔
    ∀ c ∈ calls, c.registered = true → frame.initiator = c.source.nibble := by
  constructor
  · rintro ⟨hafter, -⟩ c hc
    obtain ⟨n, hn⟩ := List.mem_iff_getElem?.mp hc
    have hstep := afterAll_take_succ frame hn
    rw [hafter, hafter] at hstep
    exact (after_eq_self_iff h).mp hstep.symm
  · intro hcalls
    have hself : ∀ n, afterAll frame (calls.take n) = frame := by
      intro n
      apply afterAll_eq_self
      intro c hc
      exact (after_eq_self_iff h).mpr (hcalls c (List.mem_of_mem_take hc))
    refine ⟨hself, ?_⟩
    intro n c g _ hhands
    rw [hself] at hhands
    exact hhands.eq_wire

/-- A driver where the address 4 is registered. -/
def playbackDriver : Device := ⟨.opened, 1, .empty, [.ofInt 4]⟩

/-- A bus that is started and whose writes succeed. -/
def writable : ℕ → Bus.Attempt := fun _ => ⟨true, .opened, 0, 0⟩

/-- The connection with the registered source 4 sends, and then one whose source 5 is not
registered. -/
def twoSends : List SendCall :=
  [.send playbackDriver (.ofInt 4) writable 0, .send playbackDriver (.ofInt 5) writable 0]

/-- A frame from 4 is the same after both sends. -/
theorem sends_preserve_frame_iff_own_source :
    (∀ c ∈ twoSends, c.registered = true →
      CECFrame.initiator ⟨[0x4F, 0x36], by decide⟩ = c.source.nibble) ∧
    afterAll ⟨[0x4F, 0x36], by decide⟩ twoSends = ⟨[0x4F, 0x36], by decide⟩ := by
  have hown : ∀ c ∈ twoSends, c.registered = true →
      CECFrame.initiator ⟨[0x4F, 0x36], by decide⟩ = c.source.nibble := by
    intro c hc
    simp only [twoSends, List.mem_cons, List.not_mem_nil, or_false] at hc
    rcases hc with rfl | rfl
    · intro _
      decide
    · intro hregistered
      exact absurd hregistered (by decide)
  have hiff := sends_preserve_frame_iff ⟨[0x4F, 0x36], by decide⟩ (by decide) twoSends
  exact ⟨hown, (hiff.mpr hown).1 2⟩

/-- The first send makes a frame from 0 a frame from 4, and the second one hands over that frame and
not the original. -/
theorem registered_send_rewrites_frame :
    (¬ ∀ n, afterAll ⟨[0x0F, 0x36], by decide⟩ (twoSends.take n) = ⟨[0x0F, 0x36], by decide⟩) ∧
    ¬ ∀ (n : ℕ) (c : SendCall) (g : CECFrame), twoSends[n]? = some c →
      c.Hands (afterAll ⟨[0x0F, 0x36], by decide⟩ (twoSends.take n)) g →
        g = c.wire ⟨[0x0F, 0x36], by decide⟩ := by
  have hafter : afterAll ⟨[0x0F, 0x36], by decide⟩ (twoSends.take 1) =
      ⟨[0x4F, 0x36], by decide⟩ := by
    simp only [twoSends, List.take_succ_cons, List.take_zero, afterAll, List.foldl_cons,
      List.foldl_nil, after_eq_wire]
    decide
  constructor
  · intro hsame
    exact absurd (hafter.symm.trans (hsame 1)) (by decide)
  · intro hwire
    have hhands : SendCall.Hands (afterAll ⟨[0x0F, 0x36], by decide⟩ (twoSends.take 1))
        ⟨[0x4F, 0x36], by decide⟩ (.send playbackDriver (.ofInt 5) writable 0) := by
      rw [hafter]
      exact Connection.mem_send playbackDriver (.ofInt 5) ⟨[0x4F, 0x36], by decide⟩ 0 rfl
    exact absurd (hwire 1 _ _ rfl hhands) (by decide)

end HdmiCec
