import HdmiCec.Driver.Writing
import HdmiCec.System.Steps

/-!
# The writer survives

`Bus::Writer::run` catches the library's exceptions, and `printFrameDetails` does too, but reading
the header of a frame without bytes raises `std::out_of_range`, which neither of them catches. When
every frame that `sendAsync` is given has a byte, nothing escapes the writer: each frame it takes is
given to `HdmiCecTx` or dropped, and it goes on.
-/

namespace HdmiCec

open Lib DriverImpl

/-! ### Writing a frame with a header -/

/-- Writing a frame that has a header hands it to `HdmiCecTx` or drops it, and goes on. -/
lemma writeMove_of_header (s : State) {p : FramePtr} (err sendResult : ℤ)
    (h : 1 ≤ p.frame.length) : ∃ o, (o = .tx p ∨ o = .dropped p) ∧
      writeMove s p err sendResult = ⟨some .test, s.writer, s.wQueue, [.handed p, o], none⟩ := by
  have hobs : ∀ log, ∃ o, (o = .tx p ∨ o = .dropped p) ∧ writeObs p log = [.handed p, o] := by
    intro log
    unfold writeObs
    split
    · exact ⟨_, .inl rfl, rfl⟩
    · exact ⟨_, .inr rfl, rfl⟩
  obtain ⟨o, ho, hlog⟩ := hobs (DriverImpl.write s.status err sendResult p.frame).log
  refine ⟨o, ho, ?_⟩
  simp only [writeMove, hlog]
  split
  · rfl
  · rename_i e he
    simp [write_raisesOnly h e he]

/-! ### The frames on their way out -/

/-- The frame in the hand of a writer thread. -/
def WriterPC.hand : WriterPC → List FramePtr
  | write p => [p]
  | _ => []

/-- The frames that `sendAsync` has accepted and the writer has not written: in its hand, and in the
queue. -/
def State.outgoing (s : State) : List FramePtr := s.writers.flatMap WriterPC.hand ++ s.wQueue.frames

variable {s t : State} {l : Label}

/-- A step of the writer puts no frame into its hand or the queue that was not there. -/
lemma WriterStep.outgoing_subset {err sendResult : ℤ} {pc : WriterPC} {m : WriterMove}
    (h : WriterStep s err sendResult pc m) :
    m.pc.toList.flatMap WriterPC.hand ++ m.wQueue.frames ⊆ pc.hand ++ s.wQueue.frames := by
  cases h with
  | pop htake => simp [WriterPC.hand, EventQueue.frames_of_take_some htake]
  | popNull htake => simp [WriterPC.hand, EventQueue.frames_of_take_none htake]
  | drainPop => simpa [WriterPC.hand] using (EventQueue.frames_take_sublist _).subset
  | @write p _ =>
    obtain ⟨-, hqueue, hpc | hpc⟩ := writeMove_frame s p err sendResult <;>
      simp [hqueue, hpc, WriterPC.hand]
  | _ => simp [WriterMove.goto, WriterPC.hand]

/-! ### The invariant -/

/-- Every frame given to `sendAsync` has a header. -/
def SendsHeader : Label → Prop
  | .sendAsync frame => 1 ≤ frame.length
  | _ => True

instance (l : Label) : Decidable (SendsHeader l) :=
  match l with
  | .sendAsync _ => inferInstanceAs (Decidable (_ ≤ _))
  | .callInit | .callTerm | .callBusStart | .callBusStop | .ctl _ | .reader _ | .writer ..
  | .receive _ | .offer _ => .isTrue trivial

/-- The frames on their way out have a header. -/
def HasHeaders (s : State) : Prop := ∀ p ∈ s.outgoing, 1 ≤ p.frame.length

/-- What the control thread does to the frames on their way out: nothing. -/
lemma CtlStep.outgoing_eq {err : ℤ} (h : CtlStep s err t) : t.outgoing = s.outgoing := by
  cases h with
  | initOpen _ _ hopen | startOpen _ _ hopen => cases hopen <;> rfl
  | construct | restartWriter => simp [State.outgoing, WriterPC.hand]
  | writerOffer => simp [State.outgoing]
  | _ => rfl

lemma HasHeaders.applyWriter {err sendResult : ℤ} {i : ℕ} {pc : WriterPC} {m : WriterMove}
    (h : HasHeaders s) (hpc : s.writers[i]? = some pc) (hm : WriterStep s err sendResult pc m) :
    HasHeaders (s.applyWriter i m) := by
  intro p hp
  exact h p (moveThread_subset hpc hm.outgoing_subset hp)

lemma HasHeaders.step (h : HasHeaders s) (hl : SendsHeader l) (hstep : Step s l t) :
    HasHeaders t := by
  cases hstep with
  | ctl hstep =>
    rw [HasHeaders, hstep.outgoing_eq]
    exact h
  | writer hpc hm => exact h.applyWriter hpc hm
  | sendAsync hlt _ _ =>
    intro p hp
    simp only [State.outgoing, EventQueue.frames_push, Option.toList_some,
      ← List.append_assoc] at hp
    rcases List.mem_append.mp hp with hp | hp
    · exact h p hp
    · rw [List.mem_singleton.mp hp]
      exact hl
  | _ => exact h

lemma HasHeaders.hand {i : ℕ} {pc : WriterPC} (h : HasHeaders s) (hpc : s.writers[i]? = some pc) :
    ∀ p ∈ pc.hand, 1 ≤ p.frame.length := by
  intro p hp
  apply h p
  exact List.mem_append_left _ (List.mem_flatMap.mpr ⟨pc, List.mem_of_getElem? hpc, hp⟩)

lemma WriterStep.escaped_eq_none {err sendResult : ℤ} {pc : WriterPC} {m : WriterMove}
    (h : WriterStep s err sendResult pc m) (hpc : ∀ p ∈ pc.hand, 1 ≤ p.frame.length) :
    m.escaped = none := by
  cases h with
  | write _ =>
    obtain ⟨o, -, hm⟩ := writeMove_of_header s err sendResult (hpc _ (List.mem_singleton_self _))
    rw [hm]
  | _ => rfl

lemma HasHeaders.escaped_eq_none (h : HasHeaders s) (hescaped : s.escaped = none)
    (hstep : Step s l t) : t.escaped = none := by
  cases hstep with
  | ctl hstep => exact hstep.frame.escaped.trans hescaped
  | writer hpc hm => exact hm.escaped_eq_none (h.hand hpc)
  | _ => exact hescaped

/-! ### The theorem -/

/-- No exception has left the writer; and a frame that it has taken from the queue is given to
`HdmiCecTx` or dropped, whatever the driver returns, and the writer goes on. -/
def WriterSurvives (s : State) : Prop :=
  s.escaped = none ∧
    ∀ i err sendResult p t, s.writers[i]? = some (.write p) →
      step s (.writer i err sendResult) = some t →
      t.escaped = none ∧ t.writers[i]? = some .test ∧
        (t.trace = s.trace ++ [.handed p, .tx p] ∨ t.trace = s.trace ++ [.handed p, .dropped p])

lemma WriterSurvives.of_hasHeaders (h : HasHeaders s) (hescaped : s.escaped = none) :
    WriterSurvives s := by
  refine ⟨hescaped, ?_⟩
  intro i err sendResult p t hpc hstep
  obtain ⟨-, hstep⟩ := Step.of_step hstep
  cases hstep with
  | writer hpc' hm =>
    rw [hpc, Option.some.injEq] at hpc'
    subst hpc'
    cases hm with
    | write _ =>
      obtain ⟨o, ho, hm⟩ := writeMove_of_header s err sendResult
        (h.hand hpc p (List.mem_singleton_self p))
      rw [hm]
      refine ⟨rfl, ?_, ?_⟩
      · exact List.getElem?_set_self (List.getElem?_eq_some_iff.mp hpc).1
      · rcases ho with rfl | rfl
        · exact .inl rfl
        · exact .inr rfl

/-- The writer survives every run in which all frames given to `sendAsync` have a header. -/
theorem writer_survives (h : Run step (fun _ l => SendsHeader l) .init s) : WriterSurvives s := by
  have hinit : HasHeaders .init := by
    intro p hp
    cases hp
  have hinv : HasHeaders s ∧ s.escaped = none := by
    apply h.invariant _ ⟨hinit, rfl⟩
    rintro s l t hl hstep ⟨hheaders, -⟩
    obtain ⟨hescaped, hstep⟩ := Step.of_step hstep
    exact ⟨hheaders.step hl hstep, hheaders.escaped_eq_none hescaped hstep⟩
  exact .of_hasHeaders hinv.1 hinv.2

/-! ### Runs -/

/-- A frame that the driver fails to send. -/
theorem writer_survives_failed_write :
    ∃ s, s.trace = [.opened, .accepted ⟨0, ⟨[0x40], by decide⟩⟩, .handed ⟨0, ⟨[0x40], by decide⟩⟩,
      .tx ⟨0, ⟨[0x40], by decide⟩⟩] ∧ WriterSurvives s := by
  obtain ⟨s, hrun, hs⟩ := Run.of_execSat
    (show execSat step (fun _ l => SendsHeader l)
      (fun s => s.trace = [.opened, .accepted ⟨0, ⟨[0x40], by decide⟩⟩,
        .handed ⟨0, ⟨[0x40], by decide⟩⟩, .tx ⟨0, ⟨[0x40], by decide⟩⟩]) .init
      (startUp ++ .sendAsync ⟨[0x40], by decide⟩ ::
        List.replicate 4 (.writer 0 ioGeneralError ioSuccess)) = true by
      decide +kernel)
  exact ⟨s, of_decide_eq_true hs, writer_survives hrun⟩

/-- A frame without bytes ends the process. -/
theorem empty_frame_escapes :
    ∃ s, Run step (fun _ _ => True) .init s ∧ ¬ WriterSurvives s := by
  obtain ⟨s, hrun, hs⟩ := Run.of_execSat
    (show execSat step (fun _ _ => True) (fun s => s.escaped.isSome) .init
      (startUp ++ .sendAsync .empty :: List.replicate 4 (.writer 0 ioSuccess ioSuccess)) = true by
      decide +kernel)
  refine ⟨s, hrun, fun hsurvives => ?_⟩
  rw [hsurvives.1] at hs
  cases hs

end HdmiCec
