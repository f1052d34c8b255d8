import HdmiCec.System.Coherence
import HdmiCec.System.Stopping
import HdmiCec.System.Transmission

/-!
# Orderly runs

Any number of sessions: the library is started and stopped through `LibCCEC::init` and
`LibCCEC::term`, `term` is not called before both threads have called `runStarted()`, and the frames
that are sent have a header. `Orderly` collects what holds in every state of such a run. From the
call of `term` until it returns, the run is one of those that `Stopping` is about.
-/

namespace HdmiCec

open Lib DriverImpl

/-- `term` is called when both threads have called `runStarted()`. -/
def OnceStarted (s : State) : Label → Prop
  | .callTerm => s.initialized = true → s.reader ≠ .stopped ∧ s.writer ≠ .stopped
  | _ => True

instance (s : State) (l : Label) : Decidable (OnceStarted s l) :=
  match l with
  | .callTerm => inferInstanceAs (Decidable (_ → _))
  | .callInit | .callBusStart | .callBusStop | .ctl _ | .reader _ | .writer .. | .receive _
  | .offer _ | .sendAsync _ => .isTrue trivial

/-- The steps of an orderly run. -/
def Regular (s : State) (l : Label) : Prop := ThroughLib l ∧ SendsHeader l ∧ OnceStarted s l

instance (s : State) (l : Label) : Decidable (Regular s l) :=
  inferInstanceAs (Decidable (_ ∧ _ ∧ _))

structure Orderly (s : State) : Prop extends Lifecycle s, Coherent s where
  consistent : Consistent s
  terminating : s.ctl.terminating = true → Stopping s
  readerFed : ReaderFed s
  writerFed : WriterFed s
  headers : HasHeaders s
  escaped : s.escaped = none

variable {s t : State} {l : Label} {err : ℤ}

/-! ### The threads -/

lemma Lifecycle.readers_length (h : Lifecycle s) : s.readers.length ≤ 1 := by
  rw [← List.length_map ReaderPC.life]
  exact h.reader.length_le

lemma Lifecycle.writers_length (h : Lifecycle s) : s.writers.length ≤ 1 := by
  rw [← List.length_map WriterPC.life]
  exact h.writer.length_le

lemma nil_or_singleton {PC : Type} {threads : List PC} (h : threads.length ≤ 1) :
    threads = [] ∨ ∃ pc, threads = [pc] := by
  match threads, h with
  | [], _ => exact .inl rfl
  | [pc], _ => exact .inr ⟨pc, rfl⟩

/-! ### The call of `term` -/

lemma CtlStep.terminating_eq_false (h : CtlStep s err t) (hs : s.ctl.terminating = false) :
    t.ctl.terminating = false := by
  cases h with
  | initOpen _ _ hopen | startOpen _ _ hopen => cases hopen <;> rfl
  | found | build | construct | startLock | restartReader | startReader | restartWriter
  | startWriter | startDone | termDone | closeFailed => rfl
  | stopFlag hc | readerStop hc | closed hc | close hc | closeOffer hc | closeHal hc
  | readerWait hc | writerLock hc | writerRuns hc | writerRests hc | writerSet hc | writerOffer hc
  | writerWait hc =>
    rw [hc] at hs
    cases hs

/-- The control thread comes to `term` by its call only. -/
lemma Step.terminating_cases (h : Step s l t) (hlib : ThroughLib l)
    (hs : s.ctl.terminating = false) : t.ctl.terminating = false ∨ l = .callTerm := by
  cases h with
  | callInit | callBusStart => exact .inl rfl
  | callTerm | termRefused => exact .inr rfl
  | callBusStop => exact absurd rfl hlib.2
  | ctl hstep => exact .inl (hstep.terminating_eq_false hs)
  | _ => exact .inl hs

/-- `term` is called on a library whose threads are running. -/
lemma Orderly.callTerm (h : Orderly s) (hidle : s.ctl = .idle) (hinit : s.initialized = true)
    (hok : OnceStarted s .callTerm) : Stopping { s with ctl := .stopFlag, lib := true } := by
  obtain ⟨hreader, hwriter⟩ := hok hinit
  have hup : s.flags = flagsUp := h.up_of_initialized hidle hinit
  have hreaderPhase := h.reader
  have hwriterPhase := h.writer
  simp only [State.readerPhase, State.writerPhase, hidle, hinit, if_true]
    at hreaderPhase hwriterPhase
  exact {
    toLifecycle := h.toLifecycle.callTerm hidle hinit
    route := rfl
    readerRuns := fun _ => hreaderPhase.running_of_up hreader
    writerRuns := fun _ => hwriterPhase.running_of_up hwriter
    opened := fun _ => congrArg (·.2.2) hup
    closed := by simp [Ctl.holdsDriver] }

lemma Orderly.terminating_step (h : Orderly s) (hl : Regular s l) (hstep : Step s l t)
    (ht : t.ctl.terminating = true) : Stopping t := by
  by_cases hs : s.ctl.terminating = true
  · have hterm : l ≠ .callInit := by
      rintro rfl
      cases hstep with
      | callInit => cases ht
      | initRefused hidle =>
        rw [hidle] at hs
        cases hs
    exact (h.terminating hs).step ⟨hterm, hl.1⟩ hstep
  · obtain hnot | rfl := hstep.terminating_cases hl.1 (Bool.not_eq_true _ ▸ hs)
    · rw [hnot] at ht
      cases ht
    · cases hstep with
      | callTerm hidle hinit => exact h.callTerm hidle hinit hl.2.2
      | termRefused => exact absurd ht hs

lemma Orderly.stopsStarted (h : Orderly s) : StopsStarted s l := by
  cases l with
  | ctl err =>
    refine ⟨fun hc => ?_, fun hc => ?_⟩
    · have hstopping : Stopping s := h.terminating (by rw [hc]; rfl)
      exact (hstopping.stopsStarted (l := .ctl err)).1 hc
    · have hstopping : Stopping s := h.terminating (by rw [hc]; rfl)
      exact (hstopping.stopsStarted (l := .ctl err)).2 hc
  | _ => trivial

/-! ### The queues -/

/-- Nobody else takes the event that a reader has seen in the flush. -/
lemma Orderly.flush_step (h : Orderly s) (hstep : Step s l t) :
    .flushWait ∈ t.readers → t.rQueue.events ≠ [] := by
  have hflush := h.readerFed.flush
  cases hstep with
  | ctl hstep =>
    cases hstep with
    | initOpen _ _ hopen | startOpen _ _ hopen => cases hopen <;> exact hflush
    | build | restartReader => simpa using hflush
    | closeOffer => exact fun _ => offerNull_ne_nil (by rw [h.readerFed.cap]; decide)
    | _ => exact hflush
  | @reader i pc m hpc hm =>
    obtain ⟨rfl, hpcs⟩ := eq_singleton_of_getElem? h.readers_length hpc
    rw [State.applyReader, hpcs, moveThread_singleton]
    cases hm with
    | flush hne => exact fun _ => hne
    | _ => simp [ReaderMove.goto]
  | offer => simp
  | _ => exact hflush

lemma Orderly.drain_step (h : Orderly s) (hstep : Step s l t) :
    .drainWait ∈ t.writers → t.wQueue.events ≠ [] := by
  have hdrain := h.writerFed.drain
  cases hstep with
  | ctl hstep =>
    cases hstep with
    | initOpen _ _ hopen | startOpen _ _ hopen => cases hopen <;> exact hdrain
    | construct | restartWriter => simpa using hdrain
    | writerOffer => exact fun _ => offerNull_ne_nil (by rw [h.writerFed.cap]; decide)
    | _ => exact hdrain
  | @writer i err sendResult pc m hpc hm =>
    obtain ⟨rfl, hpcs⟩ := eq_singleton_of_getElem? h.writers_length hpc
    rw [State.applyWriter, hpcs, moveThread_singleton]
    cases hm with
    | drain hne => exact fun _ => hne
    | @write p _ => obtain ⟨-, -, hpc | hpc⟩ := writeMove_frame s p err sendResult <;> simp [hpc]
    | _ => simp [WriterMove.goto]
  | sendAsync => simp
  | _ => exact hdrain

/-- Outside `term` no sentinel is waited for. -/
lemma Orderly.fed_step (h : Orderly s) (hl : Regular s l) (hstep : Step s l t) :
    ReaderFed t ∧ WriterFed t := by
  have ht : Consistent t := h.consistent.step hstep
  by_cases hs : s.ctl.terminating = true
  · have hterm : l ≠ .callInit := by
      rintro rfl
      cases hstep with
      | callInit hidle | initRefused hidle =>
        rw [hidle] at hs
        cases hs
    have hstopping := h.terminating hs
    exact ⟨h.readerFed.step hstopping ⟨hterm, hl.1⟩ hstep,
      h.writerFed.step hstopping ⟨hterm, hl.1⟩ hstep⟩
  · have hc : t.ctl.readerSignaled = false ∧ t.ctl ≠ .writerWait := by
      obtain hnot | rfl := hstep.terminating_cases hl.1 (Bool.not_eq_true _ ▸ hs)
      · cases hc : t.ctl <;> simp_all [Ctl.readerSignaled, Ctl.terminating]
      · cases hstep with
        | callTerm => exact ⟨rfl, by simp⟩
        | termRefused hidle => simp [hidle, Ctl.readerSignaled]
    refine ⟨⟨ht.rCap, h.flush_step hstep, ?_⟩, ⟨ht.wCap, h.drain_step hstep, ?_⟩⟩
    · simp [hc.1]
    · exact fun hwait => absurd hwait hc.2

/-! ### Runs -/

lemma Orderly.step (h : Orderly s) (hl : Regular s l) (hstep : HdmiCec.step s l = some t) :
    Orderly t := by
  have hstep' := (Step.of_step hstep).2
  obtain ⟨hreaderFed, hwriterFed⟩ := h.fed_step hl hstep'
  exact {
    toLifecycle := h.toLifecycle.step hl.1 h.stopsStarted hstep'
    toCoherent := hstep'.coherent h.toCoherent hl.1
    consistent := h.consistent.step hstep'
    terminating := h.terminating_step hl hstep'
    readerFed := hreaderFed
    writerFed := hwriterFed
    headers := h.headers.step hl.2.1 hstep'
    escaped := h.headers.escaped_eq_none h.escaped hstep' }

lemma Orderly.init : Orderly .init where
  toLifecycle := .init
  toCoherent := coherent_init
  consistent := .init
  terminating h := by cases h
  readerFed := ⟨rfl, by simp [State.init], by simp [State.init]⟩
  writerFed := ⟨rfl, by simp [State.init], by simp [State.init]⟩
  headers := by
    intro p hp
    cases hp
  escaped := rfl

theorem orderly_of_run (h : Run step Regular .init s) : Orderly s := by
  apply h.invariant _ Orderly.init
  intro s l t hl hstep hs
  exact hs.step hl hstep

end HdmiCec
