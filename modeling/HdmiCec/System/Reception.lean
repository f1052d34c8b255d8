import HdmiCec.Driver.Reception
import HdmiCec.System.Steps

/-!
# Received frames in the system

The two parts of a callback are together the callback of the driver, and the step of a reader that
notifies the listeners is the round of its loop: every frame that comes there has a header, so that
no exception leaves it.
-/

namespace HdmiCec

open Lib DriverImpl

/-! ### The callback -/

lemma receive_of_opened {s : State} {frame : CECFrame} (hlen : 1 ≤ frame.length)
    (hs : s.status = .opened) :
    receive s frame = some { s with
      callbacks := s.callbacks ++ [⟨s.nextAddr, frame⟩], nextAddr := s.nextAddr + 1 } := by
  rw [receive, if_neg (Nat.ne_of_gt hlen), if_pos hs]

lemma eraseIdx_concat_length {α : Type} (xs : List α) (a : α) :
    (xs ++ [a]).eraseIdx xs.length = xs := by
  rw [List.eraseIdx_append_of_length_le le_rfl, Nat.sub_self]
  exact List.append_nil xs

/-- A callback that is not interrupted between its two parts does what the driver's callback does.
-/
theorem callback_refines {s : State} {buf : Option (ℕ → UInt8)} {len : ℤ}
    (hvalid : isValidReceiveFrame buf len = true) :
    ∃ frame : CECFrame, frame.bytes = (List.range len.toNat).map (buf.getD fun _ => 0) ∧
      ∃ s₁, receive s frame = some s₁ ∧
        (s.status ≠ .opened → s₁ = s ∧
          (driverReceiveCallback s.status s.rQueue s.nextAddr buf len).result = .ok s.rQueue) ∧
        (s.status = .opened → ∃ s₂, offer s₁ s.callbacks.length = some s₂ ∧
          s₂.callbacks = s.callbacks ∧
          (driverReceiveCallback s.status s.rQueue s.nextAddr buf len).result = .ok s₂.rQueue) := by
  obtain ⟨frame, hbytes, hlen, hresult⟩ :=
    result_driverReceiveCallback s.status s.rQueue s.nextAddr hvalid
  refine ⟨frame, hbytes, ?_⟩
  by_cases hs : s.status = .opened
  · refine ⟨_, receive_of_opened hlen hs, fun hne => absurd hs hne, fun _ => ?_⟩
    rw [offer, List.getElem?_concat_length]
    dsimp only
    rcases hresult with ⟨-, hlt, hok⟩ | ⟨hne | hfull, hok⟩
    · rw [EventQueue.result_offer_of_lt hlt]
      exact ⟨_, rfl, eraseIdx_concat_length _ _, hok⟩
    · exact absurd hs hne
    · rw [EventQueue.result_offer_of_eq hfull]
      exact ⟨_, rfl, eraseIdx_concat_length _ _, hok⟩
  · refine ⟨s, ?_, fun _ => ⟨rfl, ?_⟩, fun hs' => absurd hs' hs⟩
    · rw [receive, if_neg (Nat.ne_of_gt hlen), if_neg hs]
    · rcases hresult with ⟨hs', -⟩ | ⟨-, hok⟩
      · exact absurd hs' hs
      · exact hok

/-! ### The dispatch -/

/-- The frame that a reader thread has taken from the queue. -/
def ReaderPC.held : ReaderPC → List FramePtr
  | got p | lock p | dispatch p => [p]
  | _ => []

/-- The frames that were received: in the callbacks, in the hands of the readers, and in the
queue. -/
def State.received (s : State) : List FramePtr :=
  s.callbacks ++ (s.readers.flatMap ReaderPC.held ++ s.rQueue.frames)

variable {s t : State} {l : Label} {err : ℤ}

lemma CtlStep.received_eq (h : CtlStep s err t) : t.received = s.received := by
  cases h with
  | initOpen _ _ hopen | startOpen _ _ hopen => cases hopen <;> rfl
  | build | restartReader => simp [State.received, ReaderPC.held]
  | closeOffer => simp [State.received]
  | _ => rfl

lemma ReaderStep.held_subset {pc : ReaderPC} {m : ReaderMove} (h : ReaderStep s pc m) :
    m.pc.toList.flatMap ReaderPC.held ++ m.rQueue.frames ⊆ pc.held ++ s.rQueue.frames := by
  cases h with
  | pop htake => simp [ReaderPC.held, EventQueue.frames_of_take_some htake]
  | popNull htake => simp [ReaderPC.held, EventQueue.frames_of_take_none htake]
  | flushPop => simpa [ReaderPC.held] using (EventQueue.frames_take_sublist _).subset
  | _ => simp [ReaderMove.goto, ReaderPC.held]

/-- A received frame is new, or was received before. -/
lemma Step.received_cases {p : FramePtr} (h : Step s l t) (hp : p ∈ t.received) :
    p ∈ s.received ∨ ∃ frame, frame.length ≠ 0 ∧ p = ⟨s.nextAddr, frame⟩ := by
  cases h with
  | ctl h => exact .inl (h.received_eq ▸ hp)
  | reader hpc h =>
    rcases List.mem_append.mp hp with hp | hp
    · exact .inl (List.mem_append_left _ hp)
    · exact .inl (List.mem_append_right _ (moveThread_subset hpc h.held_subset hp))
  | @receive frame hlen _ =>
    simp only [State.received, List.append_assoc, List.mem_append, List.mem_singleton] at hp ⊢
    rcases hp with hp | hp | hp
    · exact .inl (.inl hp)
    · exact .inr ⟨frame, hlen, hp⟩
    · exact .inl (.inr hp)
  | @offer j q hlt hq =>
    simp only [State.received, EventQueue.frames_push, List.mem_append, Option.toList_some,
      List.mem_singleton] at hp ⊢
    rcases hp with hp | hp | hp | rfl
    · exact .inl (.inl (List.mem_of_mem_eraseIdx hp))
    · exact .inl (.inr (.inl hp))
    · exact .inl (.inr (.inr hp))
    · exact .inl (.inl (List.mem_of_getElem? hq))
  | offerRefused =>
    rcases List.mem_append.mp hp with hp | hp
    · exact .inl (List.mem_append_left _ (List.mem_of_mem_eraseIdx hp))
    · exact .inl (List.mem_append_right _ hp)
  | _ => exact .inl hp

/-- Every received frame has a header. -/
lemma received_header (h : Run step (fun _ _ => True) .init s) :
    ∀ p ∈ s.received, 1 ≤ p.frame.length := by
  apply h.invariant
  · intro s l t _ hstep hs p hp
    rcases (Step.of_step hstep).2.received_cases hp with hp | ⟨frame, hlen, rfl⟩
    · exact hs p hp
    · exact Nat.one_le_iff_ne_zero.mpr hlen
  · intro p hp
    cases hp

/-- No exception leaves the round of a reader that notifies the listeners, in any reachable state.
-/
theorem dispatch_of_run {i : ℕ} {p : FramePtr} (h : Run step (fun _ _ => True) .init s)
    (hpc : s.readers[i]? = some (.dispatch p)) (isRunning : Bool) {listeners : List Connection}
    (hP : ∀ c ∈ listeners, ∀ P ∈ c.frameListeners, ∀ m h, P m h = .ok ()) :
    (Reader.round isRunning listeners p.frame).result = .ok () := by
  have hp : p ∈ s.received := by
    apply List.mem_append_right
    apply List.mem_append_left
    exact List.mem_flatMap.mpr ⟨_, List.mem_of_getElem? hpc, List.mem_singleton_self p⟩
  have hdispatch := dispatch_returns (received_header h p hp) hP
  rw [Reader.round, Logged.result_catching_of_ok hdispatch, hdispatch]

end HdmiCec
