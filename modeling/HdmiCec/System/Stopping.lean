import HdmiCec.System.Lifecycle
import HdmiCec.System.Reachable

/-!
# Stopping strands no worker

`term` is called on a library that is running. `Reader::stop` waits for the reader after the driver
was closed, and `Writer::stop` for the writer after the sentinel was offered. The sentinel may have
been refused by a full queue, or stand behind others; but when the wait begins, a thread that waits
in `poll()` always has an event in its queue.
-/

namespace HdmiCec

open Lib DriverImpl

/-! ### The property -/

/-- `Reader::stop` waits for a reader that waits for an event in an empty queue. -/
def ReaderStranded (s : State) : Prop :=
  s.ctl = .readerWait ∧ (.wait ∈ s.readers ∨ .flushWait ∈ s.readers) ∧ s.rQueue.events = []

/-- `Writer::stop` waits for a writer that waits for an event in an empty queue. -/
def WriterStranded (s : State) : Prop :=
  s.ctl = .writerWait ∧ (.wait ∈ s.writers ∨ .drainWait ∈ s.writers) ∧ s.wQueue.events = []

/-- The library is initialized and started, and both threads are running in their loops. Every
reachable state is consistent. -/
structure Running (s : State) : Prop where
  idle : s.ctl = .idle
  initialized : s.initialized = true
  started : s.started = true
  reader : s.reader = .running
  writer : s.writer = .running
  reading : ∃ pc : ReaderPC, s.readers = [pc] ∧ pc.life = .looping
  writing : ∃ pc : WriterPC, s.writers = [pc] ∧ pc.life = .looping
  consistent : Consistent s

/-- The only call of the control thread is `LibCCEC::term`. -/
def TermOnly (l : Label) : Prop := l ≠ .callInit ∧ ThroughLib l

instance (l : Label) : Decidable (TermOnly l) := inferInstanceAs (Decidable (_ ∧ _))

/-! ### The stages of `term` -/

namespace State

/-- The reader has not been told to stop. -/
def beforeReaderStop (s : State) : Bool :=
  match s.ctl with
  | .idle => s.initialized
  | .stopFlag | .readerStop => true
  | _ => false

/-- The driver has not been closed. -/
def beforeClose (s : State) : Bool :=
  match s.ctl with
  | .idle => s.initialized
  | .stopFlag | .readerStop | .close .readerStop => true
  | _ => false

/-- The writer has not been told to stop. -/
def beforeWriterStop (s : State) : Bool :=
  match s.ctl with
  | .idle => s.initialized
  | .stopFlag | .readerStop | .close .readerStop | .closeOffer _ | .closeHal _ | .readerWait
  | .writerLock | .writerTest => true
  | _ => false

end State

/-- The sentinel for the reader has been offered. -/
def Ctl.readerSignaled : Ctl → Bool
  | closeHal _ | readerWait => true
  | _ => false

/-- What holds while `term` is called, besides the phases of the workers. -/
structure Stopping (s : State) : Prop extends Lifecycle s where
  route : s.ctl.starting = false
  readerRuns : s.beforeReaderStop = true →
    Phase.running.Holds s.reader (s.readers.map ReaderPC.life)
  writerRuns : s.beforeWriterStop = true →
    Phase.running.Holds s.writer (s.writers.map WriterPC.life)
  opened : s.beforeClose = true → s.status = .opened
  closed : s.ctl.holdsDriver = true → s.status ≠ .opened

/-- A reader that waits in `poll()` finds an event, in the flush always and else once the sentinel
has been offered. -/
structure ReaderFed (s : State) : Prop where
  cap : s.rQueue.cap = 32
  flush : .flushWait ∈ s.readers → s.rQueue.events ≠ []
  wait : s.ctl.readerSignaled = true → .wait ∈ s.readers → s.rQueue.events ≠ []

/-- A writer that waits in `poll()`, or will, finds an event, when it drains the queue always and
else once the sentinel has been offered. -/
structure WriterFed (s : State) : Prop where
  cap : s.wQueue.cap = 32
  drain : .drainWait ∈ s.writers → s.wQueue.events ≠ []
  wait : s.ctl = .writerWait → .spawned ∈ s.writers ∨ .wait ∈ s.writers → s.wQueue.events ≠ []

variable {s t : State} {l : Label} {err : ℤ}

/-! ### The stages of `term` are kept -/

lemma Stopping.stopsStarted (h : Stopping s) : StopsStarted s l := by
  cases l with
  | ctl err =>
    refine ⟨fun hc => ?_, fun hc => ?_⟩
    · rw [(h.readerRuns (by simp [State.beforeReaderStop, hc])).eq_running]
      simp
    · rw [(h.writerRuns (by simp [State.beforeWriterStop, hc])).eq_running]
      simp
  | _ => trivial

/-- What the control thread does in `term`, when nothing goes wrong. -/
inductive TermStep (s : State) : State → Prop
  | stopFlag : s.ctl = .stopFlag → TermStep s { s with started := false, ctl := .readerStop }
  | readerStop : s.ctl = .readerStop →
    TermStep s { s with reader := s.reader.stopStarted, ctl := .close .readerStop }
  | close : s.ctl = .close .readerStop →
    TermStep s { s with status := .closing, ctl := .closeOffer .readerStop }
  | closeOffer : s.ctl = .closeOffer .readerStop →
    TermStep s { s with rQueue := offerNull s.rQueue, ctl := .closeHal .readerStop }
  | closeHal : s.ctl = .closeHal .readerStop →
    TermStep s { s with status := .closed, trace := s.trace ++ [.closed], ctl := .readerWait }
  | readerWait : s.ctl = .readerWait → TermStep s { s with ctl := .writerLock }
  | writerLock : s.ctl = .writerLock → TermStep s { s with ctl := .writerTest }
  | writerTest : s.ctl = .writerTest → TermStep s { s with ctl := .writerSet }
  | writerSet : s.ctl = .writerSet →
    TermStep s { s with writer := s.writer.stopStarted, ctl := .writerOffer }
  | writerOffer : s.ctl = .writerOffer →
    TermStep s { s with wQueue := offerNull s.wQueue, ctl := .writerWait }
  | writerWait : s.ctl = .writerWait → TermStep s { s with ctl := .close .busStop }
  | busStop : s.ctl = .close .busStop →
    TermStep s { s with trace := s.trace ++ [.closed], ctl := .close .libTerm }
  | libTerm : s.ctl = .close .libTerm →
    TermStep s { s with trace := s.trace ++ [.closed], ctl := .termDone }
  | termDone : s.ctl = .termDone → TermStep s { s with initialized := false, ctl := .idle }

/-- In `term` the driver is open when `Reader::stop` closes it and closed after that, and the writer
is running when `Writer::stop` looks at it. -/
lemma Stopping.termStep (h : Stopping s) (hstep : CtlStep s err t) : TermStep s t := by
  have hroute := h.route
  cases hstep with
  | initOpen hc | found hc | build hc | construct hc | startLock hc | restartReader hc
  | startReader hc | restartWriter hc | startWriter hc | startOpen hc | startDone hc =>
    rw [hc] at hroute
    cases hroute
  | stopFlag hc => exact .stopFlag hc
  | readerStop hc => exact .readerStop hc
  | @closed caller hc _ hs =>
    have hlib : s.lib = true := h.inLib (by simp [hc])
    cases caller with
    | readerStop => exact absurd (h.opened (by simp [State.beforeClose, hc])) hs
    | busStop => simpa [State.afterClose, hlib] using TermStep.busStop hc
    | libTerm => exact .libTerm hc
  | @close caller hc _ hs =>
    cases caller with
    | readerStop => exact .close hc
    | busStop | libTerm => exact absurd hs (h.closing (by rw [hc]; rfl))
  | closeOffer hc =>
    obtain rfl := h.closer _ (.inl hc)
    exact .closeOffer hc
  | closeFailed hc hcaller => exact absurd (h.closer _ (.inr hc)) hcaller
  | closeHal hc =>
    obtain rfl := h.closer _ (.inr hc)
    exact .closeHal hc
  | readerWait hc => exact .readerWait hc
  | writerLock hc => exact .writerLock hc
  | writerRuns hc => exact .writerTest hc
  | writerRests hc hs =>
    exact absurd (h.writerRuns (by simp [State.beforeWriterStop, hc])).eq_running hs
  | writerSet hc => exact .writerSet hc
  | writerOffer hc => exact .writerOffer hc
  | writerWait hc => exact .writerWait hc
  | termDone hc => exact .termDone hc

lemma Stopping.ctlStep (h : Stopping s) (hstep : CtlStep s err t) : Stopping t where
  toLifecycle := h.toLifecycle.step (l := .ctl err) ⟨by simp, by simp⟩ h.stopsStarted (.ctl hstep)
  route := hstep.starting_eq_false h.route
  readerRuns := by
    cases h.termStep hstep with
    | stopFlag hc =>
      intro _
      apply h.readerRuns
      simp [State.beforeReaderStop, hc]
    | _ => simp [State.beforeReaderStop]
  writerRuns := by
    cases h.termStep hstep with
    | stopFlag hc | readerStop hc | close hc | closeOffer hc | closeHal hc | readerWait hc
    | writerLock hc =>
      intro _
      apply h.writerRuns
      simp [State.beforeWriterStop, hc]
    | _ => simp [State.beforeWriterStop]
  opened := by
    cases h.termStep hstep with
    | stopFlag hc | readerStop hc =>
      intro _
      apply h.opened
      simp [State.beforeClose, hc]
    | _ => simp [State.beforeClose]
  closed := by
    cases h.termStep hstep with
    | close hc => simp
    | closeOffer hc =>
      intro _
      apply h.closed
      rw [hc]
      rfl
    | _ => simp [Ctl.holdsDriver]

lemma Stopping.callTerm (h : Stopping s) (hidle : s.ctl = .idle) (hinit : s.initialized = true) :
    Stopping { s with ctl := .stopFlag, lib := true } where
  toLifecycle := h.toLifecycle.callTerm hidle hinit
  route := rfl
  readerRuns _ := h.readerRuns (by simp [State.beforeReaderStop, hidle, hinit])
  writerRuns _ := h.writerRuns (by simp [State.beforeWriterStop, hidle, hinit])
  opened _ := h.opened (by simp [State.beforeClose, hidle, hinit])
  closed := by simp [Ctl.holdsDriver]

lemma Stopping.applyReader {i : ℕ} {pc : ReaderPC} {m : ReaderMove} (h : Stopping s)
    (hpc : s.readers[i]? = some pc) (hm : ReaderStep s pc m) : Stopping (s.applyReader i m) where
  toLifecycle := h.toLifecycle.applyReader hpc hm
  route := h.route
  readerRuns hs := by
    rw [State.applyReader, map_moveThread]
    exact (h.readerRuns hs).step (by rw [List.getElem?_map, hpc]; rfl) hm.life
  writerRuns := h.writerRuns
  opened := h.opened
  closed := h.closed

lemma Stopping.applyWriter {i : ℕ} {sendResult : ℤ} {pc : WriterPC} {m : WriterMove}
    (h : Stopping s) (hpc : s.writers[i]? = some pc) (hm : WriterStep s err sendResult pc m) :
    Stopping (s.applyWriter i m) where
  toLifecycle := h.toLifecycle.applyWriter hpc hm
  route := h.route
  readerRuns := h.readerRuns
  writerRuns hs := by
    rw [State.applyWriter, map_moveThread]
    exact (h.writerRuns hs).step (by rw [List.getElem?_map, hpc]; rfl) hm.life
  opened := h.opened
  closed := h.closed

lemma Stopping.step (h : Stopping s) (hl : TermOnly l) (hstep : Step s l t) : Stopping t := by
  have hlife : Lifecycle t := h.toLifecycle.step hl.2 h.stopsStarted hstep
  cases hstep with
  | initRefused | termRefused | discard | sendAsyncRefused => exact h
  | callInit => exact absurd rfl hl.1
  | callTerm hidle hinit => exact h.callTerm hidle hinit
  | callBusStart => exact absurd rfl hl.2.1
  | callBusStop => exact absurd rfl hl.2.2
  | ctl hstep => exact h.ctlStep hstep
  | reader hpc hm => exact h.applyReader hpc hm
  | writer hpc hm => exact h.applyWriter hpc hm
  | receive | offer | offerRefused | sendAsync =>
    exact ⟨hlife, h.route, h.readerRuns, h.writerRuns, h.opened, h.closed⟩

/-! ### The reader's queue -/

lemma Stopping.status_ne_opened (h : Stopping s) (hs : s.ctl.readerSignaled = true) :
    s.status ≠ .opened := by
  cases hc : s.ctl with
  | closeHal caller => exact h.closed (by rw [hc]; rfl)
  | readerWait => exact h.closing (by rw [hc]; rfl)
  | _ =>
    rw [hc] at hs
    cases hs

lemma ReaderFed.ctlStep (h : ReaderFed s) (hs : Stopping s) (hstep : CtlStep s err t) :
    ReaderFed t := by
  cases hs.termStep hstep with
  | closeOffer hc =>
    have hne : (offerNull s.rQueue).events ≠ [] := offerNull_ne_nil (by rw [h.cap]; decide)
    exact ⟨(cap_offerNull _).trans h.cap, fun _ => hne, fun _ _ => hne⟩
  | closeHal hc => exact ⟨h.cap, h.flush, fun _ => h.wait (by rw [hc]; rfl)⟩
  | _ => exact ⟨h.cap, h.flush, fun hsignaled => by cases hsignaled⟩

/-- A step of the reader. It waits again only while the driver is open, and in the flush only after
it has seen an event. -/
lemma ReaderFed.applyReader {i : ℕ} {pc : ReaderPC} {m : ReaderMove} (h : ReaderFed s)
    (hs : Stopping s) (hpc : s.readers[i]? = some pc) (hm : ReaderStep s pc m) :
    ReaderFed (s.applyReader i m) := by
  have hlen : s.readers.length ≤ 1 := by
    rw [← List.length_map ReaderPC.life]
    exact hs.reader.length_le
  obtain ⟨rfl, hpcs⟩ := eq_singleton_of_getElem? hlen hpc
  have hmove : (s.applyReader 0 m).readers = m.pc.toList := by
    rw [State.applyReader, hpcs, moveThread_singleton]
  refine ⟨hm.cap.trans h.cap, ?_, ?_⟩
  · rw [hmove]
    cases hm with
    | flush hne => exact fun _ => hne
    | _ => simp [ReaderMove.goto]
  · rw [hmove]
    intro hsignaled
    cases hm with
    | read _ hopened | pollAgain _ hopened => exact absurd hopened (hs.status_ne_opened hsignaled)
    | _ => simp [ReaderMove.goto]

lemma ReaderFed.step (h : ReaderFed s) (hs : Stopping s) (hl : TermOnly l) (hstep : Step s l t) :
    ReaderFed t := by
  cases hstep with
  | callInit => exact absurd rfl hl.1
  | callTerm => exact ⟨h.cap, h.flush, fun hsignaled => by cases hsignaled⟩
  | callBusStart => exact absurd rfl hl.2.1
  | callBusStop => exact absurd rfl hl.2.2
  | ctl hstep => exact h.ctlStep hs hstep
  | reader hpc hm => exact h.applyReader hs hpc hm
  | offer =>
    have hne : ∀ {e : Option FramePtr}, s.rQueue.events ++ [e] ≠ [] :=
      List.append_ne_nil_of_right_ne_nil _ (List.cons_ne_nil _ _)
    exact ⟨h.cap, fun _ => hne, fun _ _ => hne⟩
  | _ => exact ⟨h.cap, h.flush, h.wait⟩

/-! ### The writer's queue -/

lemma WriterFed.ctlStep (h : WriterFed s) (hs : Stopping s) (hstep : CtlStep s err t) :
    WriterFed t := by
  cases hs.termStep hstep with
  | writerOffer hc =>
    have hne : (offerNull s.wQueue).events ≠ [] := offerNull_ne_nil (by rw [h.cap]; decide)
    exact ⟨(cap_offerNull _).trans h.cap, fun _ => hne, fun _ _ => hne⟩
  | _ => exact ⟨h.cap, h.drain, fun hc => by cases hc⟩

/-- A step of the writer. It waits again only while it is running, and when it drains the queue only
after it has seen an event. -/
lemma WriterFed.applyWriter {i : ℕ} {sendResult : ℤ} {pc : WriterPC} {m : WriterMove}
    (h : WriterFed s) (hs : Stopping s) (hpc : s.writers[i]? = some pc)
    (hm : WriterStep s err sendResult pc m) : WriterFed (s.applyWriter i m) := by
  have hlen : s.writers.length ≤ 1 := by
    rw [← List.length_map WriterPC.life]
    exact hs.writer.length_le
  obtain ⟨rfl, hpcs⟩ := eq_singleton_of_getElem? hlen hpc
  have hmove : (s.applyWriter 0 m).writers = m.pc.toList := by
    rw [State.applyWriter, hpcs, moveThread_singleton]
  refine ⟨hm.cap.trans h.cap, ?_, ?_⟩
  · rw [hmove]
    cases hm with
    | drain hne => exact fun _ => hne
    | @write p _ =>
      obtain ⟨-, -, hpc | hpc⟩ := writeMove_frame s p err sendResult <;> simp [hpc]
    | _ => simp [WriterMove.goto]
  · rw [hmove]
    intro hc
    have hphase : Phase.stopping.Holds s.writer (s.writers.map WriterPC.life) := by
      have hwriter := hs.writer
      rwa [State.writerPhase, show s.ctl = .writerWait from hc] at hwriter
    cases hm with
    | check => exact fun _ => h.wait hc (.inl (by simp [hpcs]))
    | start => exact absurd (by simp [hpcs, WriterPC.life]) hphase.starting_notMem
    | again hrunning => exact absurd hrunning hphase.ne_running
    | @write p _ =>
      obtain ⟨-, -, hpc | hpc⟩ := writeMove_frame s p err sendResult <;> simp [hpc]
    | _ => simp [WriterMove.goto]

lemma WriterFed.step (h : WriterFed s) (hs : Stopping s) (hl : TermOnly l) (hstep : Step s l t) :
    WriterFed t := by
  cases hstep with
  | callInit => exact absurd rfl hl.1
  | callTerm => exact ⟨h.cap, h.drain, fun hc => by cases hc⟩
  | callBusStart => exact absurd rfl hl.2.1
  | callBusStop => exact absurd rfl hl.2.2
  | ctl hstep => exact h.ctlStep hs hstep
  | writer hpc hm => exact h.applyWriter hs hpc hm
  | sendAsync =>
    have hne : ∀ {e : Option FramePtr}, s.wQueue.events ++ [e] ≠ [] :=
      List.append_ne_nil_of_right_ne_nil _ (List.cons_ne_nil _ _)
    exact ⟨h.cap, fun _ => hne, fun _ _ => hne⟩
  | _ => exact ⟨h.cap, h.drain, h.wait⟩

/-! ### The theorem -/

lemma Running.stopping (h : Running s) : Stopping s := by
  obtain ⟨rpc, hrpc, hrlife⟩ := h.reading
  obtain ⟨wpc, hwpc, hwlife⟩ := h.writing
  obtain ⟨hconstructed, hopened⟩ := h.consistent.started h.started
  have hreader : Phase.running.Holds s.reader (s.readers.map ReaderPC.life) := by
    rw [h.reader, hrpc]
    exact .running (.inr hrlife)
  have hwriter : Phase.running.Holds s.writer (s.writers.map WriterPC.life) := by
    rw [h.writer, hwpc]
    exact .running (.inr hwlife)
  exact {
    inLib := fun hc => absurd h.idle hc
    built := fun _ => hconstructed
    initOpen := by simp [h.idle]
    opening := by simp [h.idle, Ctl.opening]
    closing := by simp [h.idle, Ctl.closing]
    closer := by simp [h.idle]
    reader := by simpa [State.readerPhase, h.idle, h.initialized] using Phase.Holds.up hreader
    writer := by simpa [State.writerPhase, h.idle, h.initialized] using Phase.Holds.up hwriter
    route := by rw [h.idle]; rfl
    readerRuns := fun _ => hreader
    writerRuns := fun _ => hwriter
    opened := fun _ => hopened
    closed := by simp [h.idle, Ctl.holdsDriver] }

lemma Running.readerFed (h : Running s) : ReaderFed s where
  cap := h.consistent.rCap
  flush hmem := absurd (h.consistent.started h.started).2 (h.consistent.flush _ hmem rfl)
  wait := by simp [h.idle, Ctl.readerSignaled]

lemma Running.writerFed (h : Running s) : WriterFed s where
  cap := h.consistent.wCap
  drain hmem := by
    -- a writer in its loop does not drain the queue
    obtain ⟨pc, hpc, hlife⟩ := h.writing
    rw [hpc, List.mem_singleton] at hmem
    subst hmem
    cases hlife
  wait := by simp [h.idle]

/-- No call of `term` on a running library ends in a wait for a thread that waits for an event in an
empty queue. -/
theorem term_strands_no_worker {s₀ : State} (h₀ : Running s₀)
    (h : Run step (fun _ l => TermOnly l) s₀ s) : ¬ ReaderStranded s ∧ ¬ WriterStranded s := by
  have hinv : Stopping s ∧ ReaderFed s ∧ WriterFed s := by
    apply h.invariant _ ⟨h₀.stopping, h₀.readerFed, h₀.writerFed⟩
    rintro s l t hl hstep ⟨hs, hreader, hwriter⟩
    have hstep' := (Step.of_step hstep).2
    exact ⟨hs.step hl hstep', hreader.step hs hl hstep', hwriter.step hs hl hstep'⟩
  obtain ⟨-, hreader, hwriter⟩ := hinv
  constructor
  · rintro ⟨hc, hwait | hflush, hempty⟩
    · exact hreader.wait (by rw [hc]; rfl) hwait hempty
    · exact hreader.flush hflush hempty
  · rintro ⟨hc, hwait | hdrain, hempty⟩
    · exact hwriter.wait hc (.inr hwait) hempty
    · exact hwriter.drain hdrain hempty

/-- `term` waits for a writer that has yet to take the sentinel. -/
theorem term_strands_no_worker_waiting :
    ∃ s : State, (s.ctl = .writerWait ∧ s.writers = [.wait]) ∧
      ¬ ReaderStranded s ∧ ¬ WriterStranded s := by
  obtain ⟨s, hrun, hs⟩ := Run.of_execSat
    (show execSat step (fun _ l => TermOnly l)
      (fun s => s.ctl = .writerWait ∧ s.writers = [.wait]) waitingBus
      (.callTerm :: List.replicate 5 (.ctl ioSuccess) ++ List.replicate 6 (.reader 0) ++
        List.replicate 5 (.ctl ioSuccess)) = true by decide +kernel)
  have hrunning : Running waitingBus :=
    ⟨rfl, rfl, rfl, rfl, rfl, ⟨.wait, rfl, rfl⟩, ⟨.wait, rfl, rfl⟩, waitingBus_consistent⟩
  exact ⟨s, of_decide_eq_true hs, term_strands_no_worker hrunning hrun⟩

end HdmiCec
