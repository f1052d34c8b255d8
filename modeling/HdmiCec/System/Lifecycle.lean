import HdmiCec.System.Worker

/-!
# At most one worker each

Runs in which the library is started and stopped through `LibCCEC::init` and `LibCCEC::term`.
`Ctl.readerPhase` and `Ctl.writerPhase` say in which phase the workers are at each point of the
control thread. A session that is stopped before its threads have called `runStarted()` breaks this:
`stopStarted()` does nothing to a state that is still stopped, the wait for `isStopped()` is over at
once, and the thread runs on. When that does not happen there is at most one thread in each loop,
and none when `term` has returned.
-/

namespace HdmiCec

open Lib DriverImpl

/-! ### The property -/

/-- The number of threads in the loop of `Bus::Reader::run`. -/
def State.readersInLoop (s : State) : ℕ := (s.readers.map ReaderPC.life).count .looping

/-- The number of threads in the loop of `Bus::Writer::run`. -/
def State.writersInLoop (s : State) : ℕ := (s.writers.map WriterPC.life).count .looping

/-- The library is controlled through `LibCCEC::init` and `LibCCEC::term` only. -/
def ThroughLib (l : Label) : Prop := l ≠ .callBusStart ∧ l ≠ .callBusStop

instance (l : Label) : Decidable (ThroughLib l) := inferInstanceAs (Decidable (_ ∧ _))

/-- There is at most one thread in each loop. While the library is not initialized there is none,
and none comes in until `init` is called. -/
def OneWorkerEach (s : State) : Prop :=
  s.readersInLoop ≤ 1 ∧ s.writersInLoop ≤ 1 ∧
    (s.ctl = .idle → s.initialized = false →
      ∀ t, Run step (fun _ l => ThroughLib l ∧ l ≠ .callInit) s t →
        t.readersInLoop = 0 ∧ t.writersInLoop = 0)

/-- `Reader::stop` and `Writer::stop` do not find their thread before its `runStarted()`: the state
is not stopped when they look at it. -/
def StopsStarted (s : State) : Label → Prop
  | .ctl _ =>
    (s.ctl = .readerStop → s.reader ≠ .stopped) ∧ (s.ctl = .writerTest → s.writer ≠ .stopped)
  | _ => True

instance (s : State) (l : Label) : Decidable (StopsStarted s l) :=
  match l with
  | .ctl _ => inferInstanceAs (Decidable (_ ∧ _))
  | .callInit | .callTerm | .callBusStart | .callBusStop | .reader _ | .writer .. | .receive _
  | .offer _ | .sendAsync _ => .isTrue trivial

/-! ### The invariant -/

namespace State

/-- The phase of the reader at each point of the control thread. -/
def readerPhase (s : State) : Phase :=
  match s.ctl with
  | .idle => if s.initialized then .up else if s.constructed then .down else .unborn
  | .initOpen | .getInstance => if s.constructed then .down else .unborn
  | .construct => .running
  | .startLock | .startReader => .ready
  | .startWriter | .startOpen | .startDone | .stopFlag | .readerStop => .up
  | .close .readerStop | .closeOffer _ | .closeHal _ | .readerWait => .stopping
  | .writerLock | .writerTest | .writerSet | .writerOffer | .writerWait | .close _ | .termDone =>
    .down

/-- The phase of the writer at each point of the control thread. -/
def writerPhase (s : State) : Phase :=
  match s.ctl with
  | .idle => if s.initialized then .up else if s.constructed then .down else .unborn
  | .initOpen | .getInstance => if s.constructed then .down else .unborn
  | .construct => .unborn
  | .startLock | .startReader | .startWriter => .ready
  | .startOpen | .startDone | .stopFlag | .readerStop | .close .readerStop | .closeOffer _
  | .closeHal _ | .readerWait | .writerLock | .writerTest => .up
  | .writerSet => .running
  | .writerOffer | .writerWait => .stopping
  | .close _ | .termDone => .down

end State

/-- The driver was opened by `init`, which has yet to return. -/
def Ctl.opening : Ctl → Bool
  | getInstance | construct | startLock | startReader | startWriter | startOpen => true
  | _ => false

/-- The driver was closed by `Reader::stop`, and `term` has yet to return. -/
def Ctl.closing : Ctl → Bool
  | readerWait | writerLock | writerTest | writerSet | writerOffer | writerWait | close .busStop
  | close .libTerm | termDone => true
  | _ => false

/-- Between calls, or before `Bus::getInstance()` has constructed the bus. -/
def Ctl.before : Ctl → Bool
  | idle | initOpen | getInstance => true
  | _ => false

/-- What holds of the control thread and the driver. -/
structure Control (s : State) : Prop where
  inLib : s.ctl ≠ .idle → s.lib = true
  built : s.ctl.before = false ∨ s.initialized = true → s.constructed = true
  initOpen : s.ctl = .initOpen → s.initialized = false
  opening : s.ctl.opening = true → s.status ≠ .closed
  closing : s.ctl.closing = true → s.status ≠ .opened
  closer : ∀ caller, s.ctl = .closeOffer caller ∨ s.ctl = .closeHal caller → caller = .readerStop

/-- The workers are in the phases that the control thread takes them to be in. -/
structure Lifecycle (s : State) : Prop extends Control s where
  reader : s.readerPhase.Holds s.reader (s.readers.map ReaderPC.life)
  writer : s.writerPhase.Holds s.writer (s.writers.map WriterPC.life)

variable {s t : State} {err : ℤ} {l : Label}

lemma Ctl.opening_eq_false {c : Ctl} (h : c.closing = true) : c.opening = false := by
  cases c <;> first | rfl | cases h

lemma State.closing_afterClose (hlib : s.lib = true) (caller : Closer) :
    (s.afterClose caller).closing = true := by
  cases caller <;> simp [State.afterClose, hlib, Ctl.closing]

section

variable (h : Control s) (hstep : CtlStep s err t)
include h hstep

lemma Control.lib_ctlStep : t.lib = true :=
  hstep.frame.lib.trans (h.inLib hstep.ctl_ne_idle)

lemma Control.built_ctlStep :
    t.ctl.before = false ∨ t.initialized = true → t.constructed = true := by
  cases hstep with
  | initOpen hc _ hopen =>
    have hinit := h.initOpen hc
    cases hopen <;> simp [Ctl.before, hinit]
  | found _ hb => exact fun _ => hb
  | build _ _ => exact fun _ => rfl
  | startOpen hc _ hopen =>
    have hb : s.constructed = true := h.built (.inl (by rw [hc]; rfl))
    cases hopen <;> exact fun _ => hb
  | construct hc | startLock hc | restartReader hc | startReader hc | restartWriter hc
  | startWriter hc | startDone hc | stopFlag hc | readerStop hc | closed hc | close hc
  | closeOffer hc | closeFailed hc | closeHal hc | readerWait hc | writerLock hc | writerRuns hc
  | writerRests hc | writerSet hc | writerOffer hc | writerWait hc | termDone hc =>
    exact fun _ => h.built (.inl (by rw [hc]; rfl))

lemma Control.opening_ctlStep : t.ctl.opening = true → t.status ≠ .closed := by
  cases hstep with
  | initOpen _ _ hopen =>
    cases hopen with
    | already hs => exact fun _ => hs
    | failed => simp [Ctl.opening]
    | opened => simp
  | found hc | build hc | construct hc | startLock hc | restartReader hc | startReader hc
  | restartWriter hc | startWriter hc =>
    intro _
    apply h.opening
    rw [hc]
    rfl
  | startOpen _ _ hopen => cases hopen <;> simp [Ctl.opening]
  | closed hc | closeHal hc =>
    have hlib : s.lib = true := h.inLib (by simp [hc])
    simp [Ctl.opening_eq_false (s.closing_afterClose hlib _)]
  | _ => simp [Ctl.opening]

lemma Control.closing_ctlStep : t.ctl.closing = true → t.status ≠ .opened := by
  cases hstep with
  | initOpen _ _ hopen | startOpen _ _ hopen => cases hopen <;> simp [Ctl.closing]
  | closed _ _ hs => exact fun _ => hs
  | closeFailed | closeHal => simp
  | readerWait hc | writerLock hc | writerRuns hc | writerRests hc | writerSet hc | writerOffer hc
  | writerWait hc =>
    intro _
    apply h.closing
    rw [hc]
    rfl
  | _ => simp [Ctl.closing]

lemma Control.closer_ctlStep (caller : Closer) :
    t.ctl = .closeOffer caller ∨ t.ctl = .closeHal caller → caller = .readerStop := by
  cases hstep with
  | initOpen _ _ hopen | startOpen _ _ hopen => cases hopen <;> simp
  | @closed caller' hc | @closeHal caller' hc =>
    have hlib : s.lib = true := h.inLib (by simp [hc])
    cases caller' <;> simp [State.afterClose, hlib]
  | @close caller' hc _ hs =>
    cases caller' with
    | readerStop => simp [eq_comm]
    | busStop | libTerm => exact absurd hs (h.closing (by rw [hc]; rfl))
  | @closeOffer caller' hc => simp [eq_comm, h.closer caller' (.inl hc)]
  | _ => simp

lemma Control.ctlStep : Control t where
  inLib _ := h.lib_ctlStep hstep
  built := h.built_ctlStep hstep
  initOpen := by
    cases hstep with
    | initOpen _ _ hopen | startOpen _ _ hopen => cases hopen <;> simp
    | @closed caller hc | @closeHal caller hc =>
      have hlib : s.lib = true := h.inLib (by simp [hc])
      cases caller <;> simp [State.afterClose, hlib]
    | _ => simp
  opening := h.opening_ctlStep hstep
  closing := h.closing_ctlStep hstep
  closer := h.closer_ctlStep hstep

end

lemma OpenStep.ctl_eq {next : Ctl} (h : OpenStep s err next t) (hs : s.status ≠ .closed) :
    t = { s with ctl := next } := by
  cases h with
  | already => rfl
  | failed hclosed | opened hclosed => exact absurd hclosed hs

/-- The control thread keeps the phases of the reader. -/
lemma Lifecycle.readerPhase_ctlStep (h : Lifecycle s) (hok : StopsStarted s (.ctl err))
    (hstep : CtlStep s err t) : t.readerPhase.Holds t.reader (t.readers.map ReaderPC.life) := by
  have hreader := h.reader
  cases hstep with
  | initOpen hc _ hopen =>
    have hinit := h.initOpen hc
    cases hopen <;> simpa [State.readerPhase, hc, hinit] using hreader
  | found hc hb =>
    simp only [State.readerPhase, hc, hb, if_true] at hreader
    exact .readyDown hreader
  | build hc hb =>
    simp only [State.readerPhase, hc, hb, Bool.false_eq_true, if_false] at hreader
    simpa [State.readerPhase, ReaderPC.life] using hreader.born
  | construct hc =>
    simp only [State.readerPhase, hc] at hreader
    exact .readyRunning hreader
  | restartReader hc hs =>
    simp only [State.readerPhase, hc] at hreader
    simpa [State.readerPhase, ReaderPC.life] using hreader.restart hs
  | startReader hc hs =>
    simp only [State.readerPhase, hc] at hreader
    exact hreader.started hs
  | startOpen hc _ hopen =>
    rw [hopen.ctl_eq (h.opening (by rw [hc]; rfl))]
    simpa only [State.readerPhase, hc] using hreader
  | startDone hc =>
    have hlib : s.lib = true := h.inLib (by simp [hc])
    simpa [State.readerPhase, hc, hlib] using hreader
  | readerStop hc _ =>
    simp only [State.readerPhase, hc] at hreader
    exact (hreader.running_of_up (hok.1 hc)).stopStarted
  | @closed caller hc _ _ =>
    have hlib : s.lib = true := h.inLib (by simp [hc])
    cases caller <;> simpa [State.readerPhase, State.afterClose, hc, hlib] using hreader
  | @close caller hc _ hs =>
    cases caller with
    | readerStop => simpa only [State.readerPhase, hc] using hreader
    | busStop | libTerm => exact absurd hs (h.closing (by rw [hc]; rfl))
  | @closeFailed caller hc hcaller => exact absurd (h.closer caller (.inr hc)) hcaller
  | @closeHal caller hc =>
    obtain rfl := h.closer caller (.inr hc)
    simpa only [State.readerPhase, State.afterClose, hc] using hreader
  | readerWait hc hs =>
    simp only [State.readerPhase, hc] at hreader
    exact hreader.down_of_stopping hs
  | termDone hc =>
    have hb : s.constructed = true := h.built (.inl (by rw [hc]; rfl))
    simpa [State.readerPhase, hc, hb] using hreader
  | startLock hc | restartWriter hc | startWriter hc | stopFlag hc | closeOffer hc | writerLock hc
  | writerRuns hc | writerRests hc | writerSet hc | writerOffer hc | writerWait hc =>
    simpa only [State.readerPhase, hc] using hreader

/-- The control thread keeps the phases of the writer. -/
lemma Lifecycle.writerPhase_ctlStep (h : Lifecycle s) (hok : StopsStarted s (.ctl err))
    (hstep : CtlStep s err t) : t.writerPhase.Holds t.writer (t.writers.map WriterPC.life) := by
  have hwriter := h.writer
  cases hstep with
  | initOpen hc _ hopen =>
    have hinit := h.initOpen hc
    cases hopen <;> simpa [State.writerPhase, hc, hinit] using hwriter
  | found hc hb =>
    simp only [State.writerPhase, hc, hb, if_true] at hwriter
    exact .readyDown hwriter
  | build hc hb => simpa [State.writerPhase, hc, hb] using hwriter
  | construct hc =>
    simp only [State.writerPhase, hc] at hwriter
    simpa [State.writerPhase, WriterPC.life] using Phase.Holds.readyRunning hwriter.born
  | restartWriter hc hs =>
    simp only [State.writerPhase, hc] at hwriter
    simpa [State.writerPhase, WriterPC.life] using hwriter.restart hs
  | startWriter hc hs =>
    simp only [State.writerPhase, hc] at hwriter
    exact hwriter.started hs
  | startOpen hc _ hopen =>
    rw [hopen.ctl_eq (h.opening (by rw [hc]; rfl))]
    simpa only [State.writerPhase, hc] using hwriter
  | startDone hc =>
    have hlib : s.lib = true := h.inLib (by simp [hc])
    simpa [State.writerPhase, hc, hlib] using hwriter
  | @closed caller hc _ _ =>
    have hlib : s.lib = true := h.inLib (by simp [hc])
    cases caller <;> simpa [State.writerPhase, State.afterClose, hc, hlib] using hwriter
  | @close caller hc _ hs =>
    cases caller with
    | readerStop => simpa only [State.writerPhase, hc] using hwriter
    | busStop | libTerm => exact absurd hs (h.closing (by rw [hc]; rfl))
  | @closeFailed caller hc hcaller => exact absurd (h.closer caller (.inr hc)) hcaller
  | @closeHal caller hc =>
    obtain rfl := h.closer caller (.inr hc)
    simpa only [State.writerPhase, State.afterClose, hc] using hwriter
  | writerRuns hc hs =>
    simp only [State.writerPhase, hc] at hwriter
    exact hwriter.running_of_up (by simp [hs])
  | writerRests hc hs =>
    -- a writer that has started is running here
    simp only [State.writerPhase, hc] at hwriter
    exact absurd (hwriter.running_of_up (hok.2 hc)).eq_running hs
  | writerSet hc =>
    simp only [State.writerPhase, hc] at hwriter
    exact hwriter.stopStarted
  | writerWait hc hs =>
    simp only [State.writerPhase, hc] at hwriter
    exact hwriter.down_of_stopping hs
  | termDone hc =>
    have hb : s.constructed = true := h.built (.inl (by rw [hc]; rfl))
    simpa [State.writerPhase, hc, hb] using hwriter
  | startLock hc | restartReader hc | startReader hc | stopFlag hc | readerStop hc | closeOffer hc
  | readerWait hc | writerLock hc | writerOffer hc =>
    simpa only [State.writerPhase, hc] using hwriter

lemma Lifecycle.applyReader {i : ℕ} {pc : ReaderPC} {m : ReaderMove} (h : Lifecycle s)
    (hpc : s.readers[i]? = some pc) (hm : ReaderStep s pc m) : Lifecycle (s.applyReader i m) := by
  refine ⟨⟨h.inLib, h.built, h.initOpen, h.opening, h.closing, h.closer⟩, ?_, h.writer⟩
  have hlife : (s.readers.map ReaderPC.life)[i]? = some pc.life := by
    rw [List.getElem?_map, hpc]
    rfl
  rw [State.applyReader, map_moveThread]
  exact h.reader.step hlife hm.life

lemma Lifecycle.applyWriter {i : ℕ} {sendResult : ℤ} {pc : WriterPC} {m : WriterMove}
    (h : Lifecycle s) (hpc : s.writers[i]? = some pc) (hm : WriterStep s err sendResult pc m) :
    Lifecycle (s.applyWriter i m) := by
  refine ⟨⟨h.inLib, h.built, h.initOpen, h.opening, h.closing, h.closer⟩, h.reader, ?_⟩
  have hlife : (s.writers.map WriterPC.life)[i]? = some pc.life := by
    rw [List.getElem?_map, hpc]
    rfl
  rw [State.applyWriter, map_moveThread]
  exact h.writer.step hlife hm.life

lemma Lifecycle.callInit (h : Lifecycle s) (hidle : s.ctl = .idle) (hinit : s.initialized = false) :
    Lifecycle { s with ctl := .initOpen, lib := true } where
  inLib _ := rfl
  built := by simp [Ctl.before, hinit]
  initOpen _ := hinit
  opening := by simp [Ctl.opening]
  closing := by simp [Ctl.closing]
  closer := by simp
  reader := by simpa [State.readerPhase, hidle, hinit] using h.reader
  writer := by simpa [State.writerPhase, hidle, hinit] using h.writer

lemma Lifecycle.callTerm (h : Lifecycle s) (hidle : s.ctl = .idle) (hinit : s.initialized = true) :
    Lifecycle { s with ctl := .stopFlag, lib := true } where
  inLib _ := rfl
  built _ := h.built (.inr hinit)
  initOpen := by simp
  opening := by simp [Ctl.opening]
  closing := by simp [Ctl.closing]
  closer := by simp
  reader := by simpa [State.readerPhase, hidle, hinit] using h.reader
  writer := by simpa [State.writerPhase, hidle, hinit] using h.writer

/-- Every step of a run in which no session is stopped too early keeps the phases. -/
lemma Lifecycle.step (h : Lifecycle s) (hlib : ThroughLib l) (hok : StopsStarted s l)
    (hstep : Step s l t) : Lifecycle t := by
  cases hstep with
  | initRefused | termRefused | discard | sendAsyncRefused => exact h
  | callInit hidle hinit => exact h.callInit hidle hinit
  | callTerm hidle hinit => exact h.callTerm hidle hinit
  | callBusStart => exact absurd rfl hlib.1
  | callBusStop => exact absurd rfl hlib.2
  | ctl hstep =>
    exact ⟨h.toControl.ctlStep hstep, h.readerPhase_ctlStep hok hstep,
      h.writerPhase_ctlStep hok hstep⟩
  | reader hpc hm => exact h.applyReader hpc hm
  | writer hpc hm => exact h.applyWriter hpc hm
  | receive | offer | offerRefused | sendAsync =>
    exact ⟨⟨h.inLib, h.built, h.initOpen, h.opening, h.closing, h.closer⟩, h.reader, h.writer⟩

lemma Lifecycle.init : Lifecycle .init where
  inLib h := absurd rfl h
  built := by simp [State.init, Ctl.before]
  initOpen := by simp [State.init]
  opening := by simp [State.init, Ctl.opening]
  closing := by simp [State.init, Ctl.closing]
  closer := by simp [State.init]
  reader := .unborn
  writer := .unborn

/-! ### The theorem -/

lemma count_looping_le {ph : Phase} {f : StopState} {threads : List Life}
    (h : ph.Holds f threads) : threads.count .looping ≤ 1 :=
  List.count_le_length.trans h.length_le

/-- The library is not initialized, and no call is under way. -/
def State.Resting (s : State) : Prop := s.ctl = .idle ∧ s.initialized = false

lemma Lifecycle.inLoop_eq_zero (h : Lifecycle s) (hrest : s.Resting) :
    s.readersInLoop = 0 ∧ s.writersInLoop = 0 := by
  have hreader := h.reader
  have hwriter := h.writer
  simp only [State.readerPhase, State.writerPhase, hrest.1, hrest.2, Bool.false_eq_true, if_false]
    at hreader hwriter
  rw [State.readersInLoop, State.writersInLoop, hreader.eq_nil, hwriter.eq_nil]
  exact ⟨rfl, rfl⟩

lemma State.Resting.step (h : s.Resting) (hlib : ThroughLib l) (hinit : l ≠ .callInit)
    (hstep : Step s l t) : t.Resting ∧ StopsStarted s l := by
  cases hstep with
  | callInit | initRefused => exact absurd rfl hinit
  | callTerm _ hinitialized =>
    rw [h.2] at hinitialized
    cases hinitialized
  | callBusStart => exact absurd rfl hlib.1
  | callBusStop => exact absurd rfl hlib.2
  | ctl hstep => exact absurd h.1 hstep.ctl_ne_idle
  | _ => exact ⟨h, trivial⟩

lemma Lifecycle.oneWorkerEach (h : Lifecycle s) : OneWorkerEach s := by
  refine ⟨count_looping_le h.reader, count_looping_le h.writer, ?_⟩
  intro hidle hinit t hrun
  have hinv : Lifecycle t ∧ t.Resting := by
    apply hrun.invariant _ ⟨h, hidle, hinit⟩
    rintro s l t ⟨hlib, hcall⟩ hstep ⟨h, hrest⟩
    have hstep' := (Step.of_step hstep).2
    obtain ⟨hrest', hok⟩ := hrest.step hlib hcall hstep'
    exact ⟨h.step hlib hok hstep', hrest'⟩
  exact hinv.1.inLoop_eq_zero hinv.2

/-- In a run in which `Reader::stop` and `Writer::stop` always find a thread that has started, there
is at most one worker each, and none after `term`. -/
theorem one_worker_each
    (h : Run step (fun s l => ThroughLib l ∧ StopsStarted s l) .init s) : OneWorkerEach s := by
  have hinv : Lifecycle s := by
    apply h.invariant _ Lifecycle.init
    rintro s l t ⟨hlib, hok⟩ hstep h
    exact h.step hlib hok (Step.of_step hstep).2
  exact hinv.oneWorkerEach

/-! ### Sessions -/

/-- `init` and `term` for the first time. The threads end when they are told to. -/
def firstSession : List Label :=
  startUp ++ .callTerm :: List.replicate 5 (.ctl ioSuccess) ++ List.replicate 3 (.reader 0) ++
    List.replicate 5 (.ctl ioSuccess) ++ List.replicate 7 (.writer 0 ioSuccess ioSuccess) ++
    List.replicate 4 (.ctl ioSuccess)

/-- `init`, and `term` before the new threads have made a step. -/
def shortSession : List Label :=
  .callInit :: List.replicate 7 (.ctl ioSuccess) ++ .callTerm :: List.replicate 12 (.ctl ioSuccess)

/-- A second session whose threads have started. -/
theorem one_worker_each_second_session :
    ∃ s, (s.readersInLoop = 1 ∧ s.writersInLoop = 1) ∧ OneWorkerEach s := by
  obtain ⟨s, hrun, hs⟩ := Run.of_execSat
    (show execSat step (fun s l => ThroughLib l ∧ StopsStarted s l)
      (fun s => s.readersInLoop = 1 ∧ s.writersInLoop = 1) .init
      (firstSession ++ .callInit :: List.replicate 7 (.ctl ioSuccess) ++
        List.replicate 3 (.reader 0) ++ List.replicate 2 (.writer 0 ioSuccess ioSuccess)) = true by
      decide +kernel)
  exact ⟨s, of_decide_eq_true hs, one_worker_each hrun⟩

/-- Two sessions that are stopped too early leave two readers in the loop after `term`. -/
theorem two_readers_after_short_sessions :
    ∃ s, Run step (fun _ l => ThroughLib l) .init s ∧ ¬ OneWorkerEach s := by
  obtain ⟨s, hrun, hs⟩ := Run.of_execSat
    (show execSat step (fun _ l => ThroughLib l) (fun s => s.readersInLoop = 2) .init
      (firstSession ++ shortSession ++ shortSession ++
        [.reader 0, .reader 1, .reader 0, .reader 1, .reader 0, .reader 1]) = true by
      decide +kernel)
  refine ⟨s, hrun, fun hone => ?_⟩
  have htwo : s.readersInLoop = 2 := of_decide_eq_true hs
  have hle := hone.1
  omega

end HdmiCec
