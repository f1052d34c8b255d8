import HdmiCec.System.Orderly
import Mathlib.Algebra.Order.BigOperators.Group.List

/-!
# The library comes to rest

In an orderly run, once nobody calls, receives or sends any more, the control thread, the workers
and the callbacks that have begun take a bounded number of steps, in whatever order they are
scheduled and whatever the driver returns; and when none of them can go on, the call of the control
thread has returned, and either both workers wait for events in front of empty queues, or both have
ended. The loops of the workers cannot go on for ever: each round takes an event from a queue, and
no reader spins on a closed driver, because it is told to stop before the driver is closed.
-/

namespace HdmiCec

open Lib DriverImpl

/-- The steps of the threads that are there: no call, and no new callback. -/
def Label.internal : Label → Bool
  | ctl _ | reader _ | writer .. | offer _ => true
  | callInit | callTerm | callBusStart | callBusStop | receive _ | sendAsync _ => false

variable {s t : State} {l : Label} {err : ℤ}

lemma Label.internal_regular (h : l.internal = true) : Regular s l := by
  cases l with
  | ctl | reader | writer | offer => exact ⟨by simp [ThroughLib], trivial, trivial⟩
  | _ => cases h

/-- A reader that finds the driver closed has been told to stop. -/
lemma Orderly.reader_ne_running {pc : ReaderPC} (h : Orderly s) (hpc : s.readers = [pc])
    (hs : s.status ≠ .opened) : s.reader ≠ .running := by
  have hphase := h.reader
  have hflags := h.flags
  have hdown : ∀ constructed : Bool,
      ¬ (if constructed then Phase.down else Phase.unborn).Holds s.reader
        (s.readers.map ReaderPC.life) := by
    intro constructed hholds
    have hnil := hholds.eq_nil
    simp [hpc] at hnil
  simp only [State.flags] at hflags
  cases hc : s.ctl with
  | idle =>
    cases hinit : s.initialized with
    | true => exact absurd (congrArg (·.2.2) (h.up_of_initialized hc hinit)) hs
    | false =>
      simp only [State.readerPhase, hc, hinit] at hphase
      exact absurd hphase (hdown _)
  | initOpen =>
    simp only [State.readerPhase, hc] at hphase
    exact absurd hphase (hdown _)
  | getInstance | construct | startLock | startReader | startWriter | startOpen | startDone
  | stopFlag | readerStop => simp_all [Ctl.flags, flagsUp]
  | close caller =>
    cases caller with
    | readerStop => simp_all [Ctl.flags]
    | busStop | libTerm =>
      simp only [State.readerPhase, hc] at hphase
      exact absurd hphase (hdown true)
  | closeOffer | closeHal | readerWait =>
    simp only [State.readerPhase, hc] at hphase
    exact hphase.ne_running
  | writerLock | writerTest | writerSet | writerOffer | writerWait | termDone =>
    simp only [State.readerPhase, hc] at hphase
    exact absurd hphase (hdown true)

/-! ### The rank -/

/-- The steps that a reader has left in this round of its loop, and those that follow without taking
an event from the queue. -/
def ReaderPC.left (running empty : Bool) : ReaderPC → ℕ
  | spawned => 12
  | starting => 11
  | test => if running then 9 else 2
  | readCheck => 8
  | wait => 7
  | pop => if empty then 12 else 6
  | got _ => 12
  | lock _ => 11
  | dispatch _ => 10
  | null => 11
  | flush => 10
  | flushWait => 9
  | flushPop => if empty then 11 else 8
  | exit => 1

/-- The same for a writer. -/
def WriterPC.left (empty : Bool) : WriterPC → ℕ
  | spawned => 7
  | starting => 6
  | write _ => 6
  | test => 5
  | wait => 4
  | drainTest => 4
  | pop => if empty then 6 else 3
  | drain => 3
  | drainWait => 2
  | drainPop => if empty then 4 else 1
  | exit => 1

namespace State

def readersLeft (s : State) : ℕ :=
  (s.readers.map (ReaderPC.left s.reader.isRunning s.rQueue.events.isEmpty)).sum +
    10 * s.rQueue.events.length

def writersLeft (s : State) : ℕ :=
  (s.writers.map (WriterPC.left s.wQueue.events.isEmpty)).sum + 10 * s.wQueue.events.length

/-- What all threads have left to do. A sentinel and the frame of a callback count for the round of
the worker that takes them. -/
def rank (s : State) : ℕ :=
  20 * s.ctl.rank + s.readersLeft + s.writersLeft + 11 * s.callbacks.length

end State

lemma length_take {E : Type} {q : EventQueue E} (h : q.events ≠ []) :
    q.take.2.events.length + 1 = q.events.length := by
  obtain ⟨e, rest, hq⟩ := List.exists_cons_of_ne_nil h
  rw [(EventQueue.take_of_cons hq).2.1, hq, List.length_cons]

lemma take_of_empty {E : Type} {q : EventQueue E} (h : q.events = []) : q.take.2 = q := by
  rw [EventQueue.take_of_nil h]

/-- Taking an event pays for a round, and finding none costs nothing more. -/
lemma ReaderStep.left_lt {pc : ReaderPC} {m : ReaderMove} (h : ReaderStep s pc m)
    (hspin : s.status ≠ .opened → s.reader ≠ .running) :
    (m.pc.toList.map (ReaderPC.left m.reader.isRunning m.rQueue.events.isEmpty)).sum +
      10 * m.rQueue.events.length <
    pc.left s.reader.isRunning s.rQueue.events.isEmpty + 10 * s.rQueue.events.length := by
  cases h with
  | enter hs => simp [ReaderMove.goto, ReaderPC.left, StopState.isRunning, hs]
  | leave hs => simp [ReaderMove.goto, ReaderPC.left, StopState.isRunning, hs]
  | readRefused _ hs => simp [ReaderMove.goto, ReaderPC.left, StopState.isRunning, hspin hs]
  | check | dispatch | flushDone =>
    simp only [ReaderMove.goto, ReaderPC.left, Option.toList_some, List.map_cons, List.map_nil,
      List.sum_singleton]
    split <;> omega
  | start => simp [ReaderPC.left, StopState.isRunning]
  | wait hne => simp [ReaderMove.goto, ReaderPC.left, hne]
  | flushWait hne => simp [ReaderMove.goto, ReaderPC.left, hne]
  | pop htake =>
    have hne : s.rQueue.events ≠ [] := by
      intro hnil
      rw [EventQueue.take_of_nil hnil] at htake
      cases htake
    have := length_take hne
    simp only [ReaderPC.left, Option.toList_some, List.map_cons, List.map_nil, List.sum_singleton]
    split <;> omega
  | popNull | flushPop =>
    by_cases hnil : s.rQueue.events = []
    · simp [ReaderPC.left, take_of_empty hnil, hnil]
    · have := length_take hnil
      simp only [ReaderPC.left, Option.toList_some, List.map_cons, List.map_nil, List.sum_singleton]
      split <;> omega
  | checkStopped | read | got | lock | pollAgain | flushStart | flush | exit =>
    simp [ReaderMove.goto, ReaderPC.left]

/-- A call of `write` with a frame that has a header ends in the loop. -/
lemma WriterStep.left_lt {sendResult : ℤ} {pc : WriterPC} {m : WriterMove}
    (h : WriterStep s err sendResult pc m) (hheaders : ∀ p ∈ pc.hand, 1 ≤ p.frame.length) :
    (m.pc.toList.map (WriterPC.left m.wQueue.events.isEmpty)).sum + 10 * m.wQueue.events.length <
      pc.left s.wQueue.events.isEmpty + 10 * s.wQueue.events.length := by
  cases h with
  | wait hne => simp [WriterMove.goto, WriterPC.left, hne]
  | drainWait hne => simp [WriterMove.goto, WriterPC.left, hne]
  | pop htake =>
    have hne : s.wQueue.events ≠ [] := by
      intro hnil
      rw [EventQueue.take_of_nil hnil] at htake
      cases htake
    have := length_take hne
    simp only [WriterPC.left, Option.toList_some, List.map_cons, List.map_nil, List.sum_singleton]
    split <;> omega
  | popNull | drainPop =>
    by_cases hnil : s.wQueue.events = []
    · simp [WriterPC.left, take_of_empty hnil, hnil]
    · have := length_take hnil
      simp only [WriterPC.left, Option.toList_some, List.map_cons, List.map_nil, List.sum_singleton]
      split <;> omega
  | write =>
    obtain ⟨o, -, hm⟩ :=
      writeMove_of_header s err sendResult (hheaders _ (List.mem_singleton_self _))
    simp [hm, WriterPC.left]
  | checkStopped | check | start | again | leave | drainSkipped | drainStart | drain | drainDone
  | exit => simp [WriterMove.goto, WriterPC.left]

/-- A worker that is told to stop, or finds an event, has not more left. -/
lemma ReaderPC.left_le {running running' empty empty' : Bool}
    (hrunning : running' = true → running = true) (hempty : empty' = true → empty = true)
    (pc : ReaderPC) : pc.left running' empty' ≤ pc.left running empty := by
  cases pc <;> cases running <;> cases running' <;> cases empty <;> cases empty' <;>
    simp_all [ReaderPC.left]

lemma WriterPC.left_le {empty empty' : Bool} (hempty : empty' = true → empty = true)
    (pc : WriterPC) : pc.left empty' ≤ pc.left empty := by
  cases pc <;> cases empty <;> cases empty' <;> simp_all [WriterPC.left]

lemma readersLeft_le (hreaders : t.readers = s.readers)
    (hrunning : t.reader.isRunning = true → s.reader.isRunning = true)
    (hempty : t.rQueue.events.isEmpty = true → s.rQueue.events.isEmpty = true) :
    t.readersLeft + 10 * s.rQueue.events.length ≤ s.readersLeft + 10 * t.rQueue.events.length := by
  have hsum : (t.readers.map (ReaderPC.left t.reader.isRunning t.rQueue.events.isEmpty)).sum ≤
      (s.readers.map (ReaderPC.left s.reader.isRunning s.rQueue.events.isEmpty)).sum := by
    rw [hreaders]
    exact List.sum_le_sum fun pc _ => pc.left_le hrunning hempty
  simp only [State.readersLeft]
  omega

lemma writersLeft_le (hwriters : t.writers = s.writers)
    (hempty : t.wQueue.events.isEmpty = true → s.wQueue.events.isEmpty = true) :
    t.writersLeft + 10 * s.wQueue.events.length ≤ s.writersLeft + 10 * t.wQueue.events.length := by
  have hsum : (t.writers.map (WriterPC.left t.wQueue.events.isEmpty)).sum ≤
      (s.writers.map (WriterPC.left s.wQueue.events.isEmpty)).sum := by
    rw [hwriters]
    exact List.sum_le_sum fun pc _ => pc.left_le hempty
  simp only [State.writersLeft]
  omega

lemma offerNull_length (q : FrameQueue) :
    (offerNull q).events.length ≤ q.events.length + 1 ∧
      ((offerNull q).events.isEmpty = true → q.events.isEmpty = true) := by
  rcases offerNull_cases q with ⟨h, hq⟩ | ⟨-, hq⟩
  · simp [hq]
  · simp [hq]

lemma isRunning_stopStarted (f : StopState) : f.stopStarted.isRunning = false := by
  cases f <;> rfl

/-- The control thread gets on with its call. -/
lemma CtlStep.ctl_rank_lt (h : CtlStep s err t) : t.ctl.rank < s.ctl.rank := by
  cases h with
  | initOpen hc _ hopen | startOpen hc _ hopen => cases hopen <;> simp [hc, Ctl.rank]
  | @closed caller hc =>
    rw [hc]
    exact (afterClose_rank s caller).trans (by cases caller <;> simp [Ctl.rank])
  | @close caller hc | @closeOffer caller hc | @closeFailed caller hc =>
    cases caller <;> simp [hc, Ctl.rank]
  | @closeHal caller hc =>
    rw [hc]
    exact afterClose_rank s caller
  | found hc | build hc | construct hc | startLock hc | restartReader hc | startReader hc
  | restartWriter hc | startWriter hc | startDone hc | stopFlag hc | readerStop hc | readerWait hc
  | writerLock hc | writerRuns hc | writerRests hc | writerSet hc | writerOffer hc | writerWait hc
  | termDone hc => simp [hc, Ctl.rank]

/-- It starts a worker, or offers a sentinel that is a round for a worker. -/
lemma CtlStep.left_le (h : CtlStep s err t) :
    t.readersLeft + t.writersLeft ≤ s.readersLeft + s.writersLeft + 12 := by
  cases h with
  | initOpen _ _ hopen | startOpen _ _ hopen => cases hopen <;> exact Nat.le_add_right _ _
  | build | restartReader =>
    simp only [State.readersLeft, State.writersLeft, List.map_append, List.sum_append,
      List.map_cons, List.map_nil, List.sum_singleton, ReaderPC.left]
    omega
  | construct | restartWriter =>
    simp only [State.readersLeft, State.writersLeft, List.map_append, List.sum_append,
      List.map_cons, List.map_nil, List.sum_singleton, WriterPC.left]
    omega
  | readerStop =>
    have hreaders := readersLeft_le (s := s)
      (t := { s with reader := s.reader.stopStarted, ctl := .close .readerStop })
      rfl (by simp [isRunning_stopStarted]) id
    change _ + s.writersLeft ≤ _
    dsimp only at hreaders
    omega
  | @closeOffer caller =>
    obtain ⟨hlen, hempty⟩ := offerNull_length s.rQueue
    have hreaders := readersLeft_le (s := s)
      (t := { s with rQueue := offerNull s.rQueue, ctl := .closeHal caller }) rfl id hempty
    change _ + s.writersLeft ≤ _
    dsimp only at hreaders
    omega
  | writerOffer =>
    obtain ⟨hlen, hempty⟩ := offerNull_length s.wQueue
    have hwriters := writersLeft_le (s := s)
      (t := { s with wQueue := offerNull s.wQueue, ctl := .writerWait }) rfl hempty
    change s.readersLeft + _ ≤ _
    dsimp only at hwriters
    omega
  | _ => exact Nat.le_add_right _ _

lemma CtlStep.callbacks_eq (h : CtlStep s err t) : t.callbacks = s.callbacks := by
  cases h with
  | initOpen _ _ hopen | startOpen _ _ hopen => cases hopen <;> rfl
  | _ => rfl

lemma CtlStep.rank_lt (h : CtlStep s err t) : t.rank < s.rank := by
  have hctl := h.ctl_rank_lt
  have hleft := h.left_le
  simp only [State.rank, h.callbacks_eq]
  omega

lemma Orderly.rank_applyReader {i : ℕ} {pc : ReaderPC} {m : ReaderMove} (h : Orderly s)
    (hpc : s.readers[i]? = some pc) (hm : ReaderStep s pc m) :
    (s.applyReader i m).rank < s.rank := by
  obtain ⟨rfl, hpcs⟩ := eq_singleton_of_getElem? h.readers_length hpc
  have hlt := hm.left_lt (h.reader_ne_running hpcs)
  have hleft : (s.applyReader 0 m).readersLeft < s.readersLeft := by
    simpa only [State.readersLeft, State.applyReader, hpcs, moveThread_singleton, List.map_cons,
      List.map_nil, List.sum_singleton] using hlt
  change 20 * s.ctl.rank + _ + s.writersLeft + 11 * s.callbacks.length < _
  rw [State.rank]
  omega

lemma Orderly.rank_applyWriter {i : ℕ} {sendResult : ℤ} {pc : WriterPC} {m : WriterMove}
    (h : Orderly s) (hpc : s.writers[i]? = some pc) (hm : WriterStep s err sendResult pc m) :
    (s.applyWriter i m).rank < s.rank := by
  have hlt := hm.left_lt (h.headers.hand hpc)
  obtain ⟨rfl, hpcs⟩ := eq_singleton_of_getElem? h.writers_length hpc
  have hleft : (s.applyWriter 0 m).writersLeft < s.writersLeft := by
    simpa only [State.writersLeft, State.applyWriter, hpcs, moveThread_singleton, List.map_cons,
      List.map_nil, List.sum_singleton] using hlt
  change 20 * s.ctl.rank + s.readersLeft + _ + 11 * s.callbacks.length < _
  rw [State.rank]
  omega

/-- A frame is worth more in a callback than in the queue. -/
lemma rank_offer {j : ℕ} {p : FramePtr} (hlt : s.rQueue.events.length < s.rQueue.cap)
    (hp : s.callbacks[j]? = some p) :
    State.rank { s with
      callbacks := s.callbacks.eraseIdx j
      rQueue := s.rQueue.push (some p) hlt
      trace := s.trace ++ [.enqueued p] } < s.rank := by
  obtain ⟨hj, -⟩ := List.getElem?_eq_some_iff.mp hp
  have hreaders := readersLeft_le (s := s)
    (t := { s with rQueue := s.rQueue.push (some p) hlt }) rfl id (by simp)
  simp only [EventQueue.events_push, List.length_append, List.length_singleton] at hreaders
  have hcallbacks := List.length_eraseIdx_of_lt hj
  change 20 * s.ctl.rank + State.readersLeft { s with rQueue := s.rQueue.push (some p) hlt } +
    s.writersLeft + 11 * (s.callbacks.eraseIdx j).length < _
  rw [State.rank]
  omega

lemma rank_offerRefused {j : ℕ} {p : FramePtr} (hp : s.callbacks[j]? = some p) :
    State.rank { s with callbacks := s.callbacks.eraseIdx j } < s.rank := by
  obtain ⟨hj, -⟩ := List.getElem?_eq_some_iff.mp hp
  have hcallbacks := List.length_eraseIdx_of_lt hj
  change 20 * s.ctl.rank + s.readersLeft + s.writersLeft + 11 * (s.callbacks.eraseIdx j).length < _
  rw [State.rank]
  omega

lemma Orderly.rank_lt (h : Orderly s) (hl : l.internal = true) (hstep : Step s l t) :
    t.rank < s.rank := by
  cases hstep with
  | ctl hstep => exact hstep.rank_lt
  | reader hpc hm => exact h.rank_applyReader hpc hm
  | writer hpc hm => exact h.rank_applyWriter hpc hm
  | offer hlt hp => exact rank_offer hlt hp
  | offerRefused _ hp => exact rank_offerRefused hp
  | _ => cases hl

lemma ReaderPC.left_le_twelve (pc : ReaderPC) (running empty : Bool) :
    pc.left running empty ≤ 12 := by
  cases pc <;> cases running <;> cases empty <;> simp [ReaderPC.left]

lemma WriterPC.left_le_seven (pc : WriterPC) (empty : Bool) : pc.left empty ≤ 7 := by
  cases pc <;> cases empty <;> simp [WriterPC.left]

lemma Ctl.rank_le (c : Ctl) : c.rank ≤ 18 := by
  cases c with
  | close caller | closeOffer caller | closeHal caller => cases caller <;> simp [Ctl.rank]
  | _ => simp [Ctl.rank]

/-- The queues hold 32 events each. -/
lemma Orderly.rank_le (h : Orderly s) : s.rank ≤ 1019 + 11 * s.callbacks.length := by
  have hreaders : s.readersLeft ≤ 332 := by
    have hlen := s.rQueue.length_le
    rw [h.readerFed.cap] at hlen
    rcases nil_or_singleton h.readers_length with hpcs | ⟨pc, hpcs⟩
    · simp only [State.readersLeft, hpcs, List.map_nil, List.sum_nil]
      omega
    · have := pc.left_le_twelve s.reader.isRunning s.rQueue.events.isEmpty
      simp only [State.readersLeft, hpcs, List.map_cons, List.map_nil, List.sum_singleton]
      omega
  have hwriters : s.writersLeft ≤ 327 := by
    have hlen := s.wQueue.length_le
    rw [h.writerFed.cap] at hlen
    rcases nil_or_singleton h.writers_length with hpcs | ⟨pc, hpcs⟩
    · simp only [State.writersLeft, hpcs, List.map_nil, List.sum_nil]
      omega
    · have := pc.left_le_seven s.wQueue.events.isEmpty
      simp only [State.writersLeft, hpcs, List.map_cons, List.map_nil, List.sum_singleton]
      omega
  have hctl := s.ctl.rank_le
  rw [State.rank]
  omega

/-! ### When nothing can go on -/

/-- No thread that is there can take a step. -/
def State.Halted (s : State) : Prop := ∀ l : Label, l.internal = true → HdmiCec.step s l = none

namespace State.Halted

variable (h : s.Halted) (hescaped : s.escaped = none)
include h hescaped

lemma ctlStep : ctlStep s ioSuccess = none := by
  simpa [HdmiCec.step, hescaped] using h (.ctl ioSuccess) rfl

lemma readerMove {pc : ReaderPC} (hpc : s.readers = [pc]) : readerMove s pc = none := by
  simpa [HdmiCec.step, hescaped, hpc] using h (.reader 0) rfl

lemma writerMove {pc : WriterPC} (hpc : s.writers = [pc]) :
    writerMove s ioSuccess ioSuccess pc = none := by
  simpa [HdmiCec.step, hescaped, hpc] using h (.writer 0 ioSuccess ioSuccess) rfl

lemma callbacks : s.callbacks = [] := by
  cases hs : s.callbacks with
  | nil => rfl
  | cons p rest =>
    have hoffer := h (.offer 0) rfl
    simp only [HdmiCec.step, hescaped, offer, hs, List.getElem?_cons_zero, Option.isSome_none,
      Bool.false_eq_true, if_false] at hoffer
    split at hoffer <;> cases hoffer

end State.Halted

/-- A worker that has been told to stop and has ended is stopped. -/
lemma Phase.Holds.eq_stopped {f : StopState} (h : Phase.stopping.Holds f []) : f = .stopped := by
  cases h
  rfl

namespace Orderly

variable (h : Orderly s) (hhalted : s.Halted)
include h hhalted

/-- A reader that holds the driver's mutex can go on. -/
lemma driverMutexFree (hc : s.ctl.holdsDriver = false) : s.driverMutexFree = true := by
  have hreaders : s.readers.all (!·.holdsDriver) = true := by
    rcases nil_or_singleton h.readers_length with hnil | ⟨pc, hpc⟩
    · simp [hnil]
    · have hmove := hhalted.readerMove h.escaped hpc
      cases pc with
      | flush | flushPop => cases hmove
      | flushWait =>
        have hne : s.rQueue.events ≠ [] := h.readerFed.flush (by simp [hpc])
        simp [readerMove, (EventQueue.ready_iff _).mpr hne] at hmove
      | _ => simp [hpc, ReaderPC.holdsDriver]
  simp [State.driverMutexFree, hc, hreaders]

/-- A reader that notifies the listeners can go on. -/
lemma rMutexFree (hc : s.ctl.holdsBus = false) : s.rMutexFree = true := by
  have hreaders : s.readers.all (!·.holdsBus) = true := by
    rcases nil_or_singleton h.readers_length with hnil | ⟨pc, hpc⟩
    · simp [hnil]
    · have hmove := hhalted.readerMove h.escaped hpc
      cases pc with
      | dispatch p => cases hmove
      | _ => simp [hpc, ReaderPC.holdsBus]
  simp [State.rMutexFree, hc, hreaders]

/-- A reader that has not ended waits for an event. -/
lemma readers_cases (hdriver : s.ctl.holdsDriver = false) (hbus : s.ctl.holdsBus = false) :
    s.readers = [] ∨ s.readers = [.wait] ∧ s.rQueue.events = [] := by
  rcases nil_or_singleton h.readers_length with hnil | ⟨pc, hpc⟩
  · exact .inl hnil
  · have hmove := hhalted.readerMove h.escaped hpc
    have hdriver : s.driverMutexFree = true := h.driverMutexFree hhalted hdriver
    have hbus : s.rMutexFree = true := h.rMutexFree hhalted hbus
    cases pc with
    | wait =>
      refine .inr ⟨hpc, ?_⟩
      by_contra hne
      simp [readerMove, (EventQueue.ready_iff _).mpr hne] at hmove
    | flushWait =>
      have hne : s.rQueue.events ≠ [] := h.readerFed.flush (by simp [hpc])
      simp [readerMove, (EventQueue.ready_iff _).mpr hne] at hmove
    | pop =>
      simp only [readerMove] at hmove
      split at hmove <;> cases hmove
    | _ => simp [readerMove, hdriver, hbus] at hmove

/-- A writer that has not ended waits for an event. -/
lemma writers_cases (hdriver : s.ctl.holdsDriver = false) :
    s.writers = [] ∨ s.writers = [.wait] ∧ s.wQueue.events = [] := by
  rcases nil_or_singleton h.writers_length with hnil | ⟨pc, hpc⟩
  · exact .inl hnil
  · have hmove := hhalted.writerMove h.escaped hpc
    have hdriver : s.driverMutexFree = true := h.driverMutexFree hhalted hdriver
    cases pc with
    | wait =>
      refine .inr ⟨hpc, ?_⟩
      by_contra hne
      simp [writerMove, (EventQueue.ready_iff _).mpr hne] at hmove
    | drainWait =>
      have hne : s.wQueue.events ≠ [] := h.writerFed.drain (by simp [hpc])
      simp [writerMove, (EventQueue.ready_iff _).mpr hne] at hmove
    | pop =>
      simp only [writerMove] at hmove
      split at hmove <;> cases hmove
    | _ => simp [writerMove, hdriver] at hmove

/-- The worker that `Reader::stop` or `Writer::stop` waits for has ended. -/
lemma reader_eq_stopped (hc : s.ctl = .readerWait) : s.reader = .stopped := by
  have hphase := h.reader
  simp only [State.readerPhase, hc] at hphase
  rcases h.readers_cases hhalted (by rw [hc]; rfl) (by rw [hc]; rfl) with hnil | ⟨hwait, hempty⟩
  · rw [hnil] at hphase
    exact hphase.eq_stopped
  · exact absurd hempty (h.readerFed.wait (by rw [hc]; rfl) (by simp [hwait]))

lemma writer_eq_stopped (hc : s.ctl = .writerWait) : s.writer = .stopped := by
  have hphase := h.writer
  simp only [State.writerPhase, hc] at hphase
  rcases h.writers_cases hhalted (by rw [hc]; rfl) with hnil | ⟨hwait, hempty⟩
  · rw [hnil] at hphase
    exact hphase.eq_stopped
  · exact absurd hempty (h.writerFed.wait hc (.inr (by simp [hwait])))

/-- The control thread has returned. -/
lemma ctl_eq_idle : s.ctl = .idle := by
  by_contra hne
  have hanswered : s.answered = true := by
    unfold State.answered
    cases hc : s.ctl with
    | initOpen | startOpen | close => exact h.driverMutexFree hhalted (by rw [hc]; rfl)
    | startLock | stopFlag | readerStop | writerLock =>
      exact h.rMutexFree hhalted (by rw [hc]; rfl)
    | readerWait => exact decide_eq_true (h.reader_eq_stopped hhalted hc)
    | writerWait => exact decide_eq_true (h.writer_eq_stopped hhalted hc)
    | _ => rfl
  obtain ⟨t, ht, -⟩ := ctlStep_of_answered hne hanswered ioSuccess
  rw [hhalted.ctlStep h.escaped] at ht
  cases ht

end Orderly

/-! ### The theorem -/

/-- The control thread is between calls, and no callback is under way. When the library is
initialized, both workers are in their loops and wait for events in front of empty queues; when it
is not, both have ended. -/
structure AtRest (s : State) : Prop where
  idle : s.ctl = .idle
  callbacks : s.callbacks = []
  up : s.initialized = true → Running s ∧ s.readers = [.wait] ∧ s.writers = [.wait] ∧
    s.rQueue.events = [] ∧ s.wQueue.events = []
  down : s.initialized = false → s.readers = [] ∧ s.writers = []

/-- A worker that waits for an event was not started just now. -/
lemma Phase.Holds.running_of_looping {f : StopState} (h : Phase.up.Holds f [.looping]) :
    f = .running := by
  cases h with
  | up h => exact h.eq_running
  | restarted hlife => simp at hlife

lemma Phase.Holds.ne_nil {f : StopState} {threads : List Life} (h : Phase.up.Holds f threads) :
    threads ≠ [] := by
  cases h with
  | up h =>
    cases h
    simp
  | restarted _ => simp

lemma Orderly.atRest (h : Orderly s) (hhalted : s.Halted) : AtRest s := by
  have hidle : s.ctl = .idle := h.ctl_eq_idle hhalted
  have hreader := h.reader
  have hwriter := h.writer
  refine ⟨hidle, hhalted.callbacks h.escaped, ?_, ?_⟩
  · intro hinit
    simp only [State.readerPhase, State.writerPhase, hidle, hinit, if_true] at hreader hwriter
    obtain ⟨hreaders, hrQueue⟩ := (h.readers_cases hhalted (by rw [hidle]; rfl)
      (by rw [hidle]; rfl)).resolve_left fun hnil => hreader.ne_nil (by rw [hnil]; rfl)
    obtain ⟨hwriters, hwQueue⟩ := (h.writers_cases hhalted
      (by rw [hidle]; rfl)).resolve_left fun hnil => hwriter.ne_nil (by rw [hnil]; rfl)
    rw [hreaders] at hreader
    rw [hwriters] at hwriter
    have hrunning : Running s := {
      idle := hidle
      initialized := hinit
      started := congrArg (·.2.1) (h.up_of_initialized hidle hinit)
      reader := hreader.running_of_looping
      writer := hwriter.running_of_looping
      reading := ⟨_, hreaders, rfl⟩
      writing := ⟨_, hwriters, rfl⟩
      consistent := h.consistent }
    exact ⟨hrunning, hreaders, hwriters, hrQueue, hwQueue⟩
  · intro hinit
    simp only [State.readerPhase, State.writerPhase, hidle, hinit, Bool.false_eq_true, if_false]
      at hreader hwriter
    exact ⟨List.map_eq_nil_iff.mp hreader.eq_nil, List.map_eq_nil_iff.mp hwriter.eq_nil⟩

lemma Orderly.comes_to_rest {ls : List Label} (h : Orderly s)
    (hls : ∀ l ∈ ls, l.internal = true)
    (hexec : exec HdmiCec.step (fun _ _ => True) s ls = some t) :
    Orderly t ∧ ls.length ≤ 1019 + 11 * s.callbacks.length := by
  have hstep : ∀ s l t, Orderly s → l.internal = true → HdmiCec.step s l = some t →
      Orderly t ∧ t.rank < s.rank := by
    intro s l t hs hl hstep
    exact ⟨hs.step (Label.internal_regular hl) hstep, hs.rank_lt hl (Step.of_step hstep).2⟩
  obtain ⟨ht, hlen⟩ := length_add_rank_le hstep h hls hexec
  have hrank := h.rank_le
  exact ⟨ht, by omega⟩

/-- In an orderly run the threads that are there take a bounded number of steps; and when none of
them can go on, the library is at rest. -/
theorem library_comes_to_rest {ls : List Label} (h : Run step Regular .init s)
    (hls : ∀ l ∈ ls, l.internal = true) (hexec : exec step (fun _ _ => True) s ls = some t) :
    ls.length ≤ 1019 + 11 * s.callbacks.length ∧ (t.Halted → AtRest t) := by
  obtain ⟨ht, hlen⟩ := (orderly_of_run h).comes_to_rest hls hexec
  exact ⟨hlen, fun hhalted => ht.atRest hhalted⟩

/-! ### A session -/

lemma State.Halted.of_waiting (hctl : s.ctl = .idle) (hreaders : s.readers = [.wait])
    (hwriters : s.writers = [.wait]) (hrQueue : s.rQueue.events = [])
    (hwQueue : s.wQueue.events = []) (hcallbacks : s.callbacks = []) : s.Halted := by
  have hrReady : s.rQueue.ready = false := by
    by_contra hready
    exact (EventQueue.ready_iff _).mp (Bool.not_eq_false _ ▸ hready) hrQueue
  have hwReady : s.wQueue.ready = false := by
    by_contra hready
    exact (EventQueue.ready_iff _).mp (Bool.not_eq_false _ ▸ hready) hwQueue
  intro l hl
  cases l with
  | ctl | offer => simp [step, HdmiCec.ctlStep, offer, hctl, hcallbacks]
  | reader i =>
    simp only [step, hreaders]
    cases i <;> simp [HdmiCec.readerMove, hrReady]
  | writer i =>
    simp only [step, hwriters]
    cases i <;> simp [HdmiCec.writerMove, hwReady]
  | _ => cases hl

/-- The first `init` of the library, and its workers up to their loops. -/
def firstInit : List Label :=
  List.replicate 8 (.ctl ioSuccess) ++ List.replicate 3 (.reader 0) ++
    [.writer 0 ioSuccess ioSuccess]

/-- `init` is called for the first time. -/
theorem library_comes_to_rest_first_init : ∃ s t, s.ctl = .initOpen ∧
    exec step (fun _ _ => True) s firstInit = some t ∧
      firstInit.length ≤ 1019 + 11 * s.callbacks.length ∧ AtRest t := by
  have hrun : Run step Regular .init { State.init with ctl := .initOpen, lib := true } :=
    .tail .refl (l := .callInit) (by decide) rfl
  obtain ⟨t, hexec, ht⟩ := exists_exec_of_execSat
    (show execSat step (fun _ _ => True)
      (fun t => t.ctl = .idle ∧ t.readers = [.wait] ∧ t.writers = [.wait] ∧
        t.rQueue.events = [] ∧ t.wQueue.events = [] ∧ t.callbacks = [])
      { State.init with ctl := .initOpen, lib := true } firstInit = true by decide +kernel)
  obtain ⟨hidle, hreaders, hwriters, hrQueue, hwQueue, hcallbacks⟩ := of_decide_eq_true ht
  obtain ⟨hlen, hrest⟩ := library_comes_to_rest hrun (by decide) hexec
  exact ⟨_, t, rfl, hexec, hlen, hrest (.of_waiting hidle hreaders hwriters hrQueue hwQueue
    hcallbacks)⟩

end HdmiCec
