import HdmiCec.System.Basic

/-!
# What one step does

The functions `readerMove`, `writerMove`, `ctlStep` and `step` as inductive relations, with one
constructor for each branch of the source. Invariants are proved by cases on `Step`, and no later
proof unfolds the functions.
-/

namespace HdmiCec

open Lib DriverImpl

variable {s t : State} {err sendResult : ℤ}

/-- A thread after a step was there before, or is the one that moved. -/
lemma mem_moveThread {PC : Type} {threads : List PC} {i : ℕ} {o : Option PC} {pc : PC}
    (h : pc ∈ moveThread threads i o) : pc ∈ threads ∨ o = some pc := by
  cases o with
  | none => exact .inl (List.mem_of_mem_eraseIdx h)
  | some pc' =>
    rcases List.mem_or_eq_of_mem_set h with h | rfl
    · exact .inl h
    · exact .inr rfl

/-- What the threads hold and what is queued, after the step of a thread that takes nothing else
than what it held or what was queued. -/
lemma moveThread_subset {PC : Type} {hand : PC → List FramePtr} {threads : List PC} {i : ℕ}
    {pc : PC} {o : Option PC} {queued queued' : List FramePtr} (hpc : threads[i]? = some pc)
    (h : o.toList.flatMap hand ++ queued' ⊆ hand pc ++ queued) :
    (moveThread threads i o).flatMap hand ++ queued' ⊆ threads.flatMap hand ++ queued := by
  have hmove : hand pc ++ queued ⊆ threads.flatMap hand ++ queued := by
    intro p hp
    rcases List.mem_append.mp hp with hp | hp
    · exact List.mem_append_left _ (List.mem_flatMap.mpr ⟨pc, List.mem_of_getElem? hpc, hp⟩)
    · exact List.mem_append_right _ hp
  intro p hp
  rcases List.mem_append.mp hp with hp | hp
  · obtain ⟨pc', hpc', hhand⟩ := List.mem_flatMap.mp hp
    rcases mem_moveThread hpc' with hmem | rfl
    · exact List.mem_append_left _ (List.mem_flatMap.mpr ⟨pc', hmem, hhand⟩)
    · apply hmove (h (List.mem_append_left _ _))
      simpa using hhand
  · exact hmove (h (List.mem_append_right _ hp))

/-! ### The reader thread -/

/-- The branches of `readerMove`. -/
inductive ReaderStep (s : State) : ReaderPC → ReaderMove → Prop
  | checkStopped : s.reader = .stopped → ReaderStep s .spawned (.goto s .starting)
  | check : s.reader ≠ .stopped → ReaderStep s .spawned (.goto s .test)
  | start : ReaderStep s .starting ⟨some .test, .running, s.rQueue, []⟩
  | enter : s.reader = .running → ReaderStep s .test (.goto s .readCheck)
  | leave : s.reader ≠ .running → ReaderStep s .test (.goto s .exit)
  | read : s.driverMutexFree = true → s.status = .opened → ReaderStep s .readCheck (.goto s .wait)
  | readRefused :
    s.driverMutexFree = true → s.status ≠ .opened → ReaderStep s .readCheck (.goto s .test)
  | wait : s.rQueue.events ≠ [] → ReaderStep s .wait (.goto s .pop)
  | pop {p : FramePtr} : s.rQueue.take.1 = some (some p) →
    ReaderStep s .pop ⟨some (.got p), s.reader, s.rQueue.take.2, []⟩
  | popNull : s.rQueue.take.1.join = none →
    ReaderStep s .pop ⟨some .null, s.reader, s.rQueue.take.2, []⟩
  | got {p : FramePtr} : ReaderStep s (.got p) ⟨some (.lock p), s.reader, s.rQueue, [.returned p]⟩
  | lock {p : FramePtr} : s.rMutexFree = true → ReaderStep s (.lock p) (.goto s (.dispatch p))
  | dispatch {p : FramePtr} : ReaderStep s (.dispatch p) (.goto s .test)
  | pollAgain : s.driverMutexFree = true → s.status = .opened → ReaderStep s .null (.goto s .wait)
  | flushStart : s.driverMutexFree = true → s.status ≠ .opened → ReaderStep s .null (.goto s .flush)
  | flush : s.rQueue.events ≠ [] → ReaderStep s .flush (.goto s .flushWait)
  | flushDone : s.rQueue.events = [] → ReaderStep s .flush (.goto s .test)
  | flushWait : s.rQueue.events ≠ [] → ReaderStep s .flushWait (.goto s .flushPop)
  | flushPop : ReaderStep s .flushPop ⟨some .flush, s.reader, s.rQueue.take.2, []⟩
  | exit : ReaderStep s .exit ⟨none, .stopped, s.rQueue, []⟩

lemma size_pos_iff {E : Type} (q : EventQueue E) : q.size > 0 ↔ q.events ≠ [] :=
  List.length_pos_iff

lemma ReaderStep.of_readerMove {pc : ReaderPC} {m : ReaderMove} (h : readerMove s pc = some m) :
    ReaderStep s pc m := by
  cases pc with
  | spawned =>
    cases h
    split
    · rename_i hs
      exact .checkStopped (of_decide_eq_true hs)
    · rename_i hs
      exact .check fun hs' => hs (decide_eq_true hs')
  | starting =>
    cases h
    exact .start
  | test =>
    cases h
    split
    · rename_i hs
      exact .enter (of_decide_eq_true hs)
    · rename_i hs
      exact .leave fun hs' => hs (decide_eq_true hs')
  | readCheck =>
    simp only [readerMove, Option.ite_none_right_eq_some, Option.some.injEq] at h
    obtain ⟨hfree, rfl⟩ := h
    split
    · rename_i hs
      exact .read hfree hs
    · rename_i hs
      exact .readRefused hfree hs
  | wait =>
    simp only [readerMove, Option.ite_none_right_eq_some, Option.some.injEq] at h
    obtain ⟨hready, rfl⟩ := h
    exact .wait ((EventQueue.ready_iff _).mp hready)
  | pop =>
    simp only [readerMove] at h
    split at h
    · rename_i p hp
      cases h
      exact .pop (Option.join_eq_some_iff.mp hp)
    · rename_i hp
      cases h
      exact .popNull hp
  | got p =>
    cases h
    exact .got
  | lock p =>
    simp only [readerMove, Option.ite_none_right_eq_some, Option.some.injEq] at h
    obtain ⟨hfree, rfl⟩ := h
    exact .lock hfree
  | dispatch p =>
    cases h
    exact .dispatch
  | null =>
    simp only [readerMove, Option.ite_none_right_eq_some, Option.some.injEq] at h
    obtain ⟨hfree, rfl⟩ := h
    split
    · rename_i hs
      exact .pollAgain hfree hs
    · rename_i hs
      exact .flushStart hfree hs
  | flush =>
    cases h
    split
    · rename_i hs
      exact .flush ((size_pos_iff _).mp hs)
    · rename_i hs
      exact .flushDone (by_contra fun hne => hs ((size_pos_iff _).mpr hne))
  | flushWait =>
    simp only [readerMove, Option.ite_none_right_eq_some, Option.some.injEq] at h
    obtain ⟨hready, rfl⟩ := h
    exact .flushWait ((EventQueue.ready_iff _).mp hready)
  | flushPop =>
    cases h
    exact .flushPop
  | exit =>
    cases h
    exact .exit

lemma ReaderStep.cap {pc : ReaderPC} {m : ReaderMove} (h : ReaderStep s pc m) :
    m.rQueue.cap = s.rQueue.cap := by
  cases h with
  | pop | popNull | flushPop => exact EventQueue.cap_take _
  | _ => rfl

@[simp] lemma applyReader_rQueue (s : State) (i : ℕ) (m : ReaderMove) :
    (s.applyReader i m).rQueue = m.rQueue := rfl

/-! ### The writer thread -/

@[simp] lemma applyWriter_wQueue (s : State) (i : ℕ) (m : WriterMove) :
    (s.applyWriter i m).wQueue = m.wQueue := rfl

/-- The branches of `writerMove`. -/
inductive WriterStep (s : State) (err sendResult : ℤ) : WriterPC → WriterMove → Prop
  | checkStopped : s.writer = .stopped → WriterStep s err sendResult .spawned (.goto s .starting)
  | check : s.writer ≠ .stopped → WriterStep s err sendResult .spawned (.goto s .wait)
  | start : WriterStep s err sendResult .starting ⟨some .wait, .running, s.wQueue, [], none⟩
  | wait : s.wQueue.events ≠ [] → WriterStep s err sendResult .wait (.goto s .pop)
  | pop {p : FramePtr} : s.wQueue.take.1 = some (some p) →
    WriterStep s err sendResult .pop ⟨some (.write p), s.writer, s.wQueue.take.2, [], none⟩
  | popNull : s.wQueue.take.1.join = none →
    WriterStep s err sendResult .pop ⟨some .test, s.writer, s.wQueue.take.2, [], none⟩
  | write {p : FramePtr} : s.driverMutexFree = true →
    WriterStep s err sendResult (.write p) (writeMove s p err sendResult)
  | again : s.writer = .running → WriterStep s err sendResult .test (.goto s .wait)
  | leave : s.writer ≠ .running → WriterStep s err sendResult .test (.goto s .drainTest)
  | drainSkipped : s.writer = .running → WriterStep s err sendResult .drainTest (.goto s .exit)
  | drainStart : s.writer ≠ .running → WriterStep s err sendResult .drainTest (.goto s .drain)
  | drain : s.wQueue.events ≠ [] → WriterStep s err sendResult .drain (.goto s .drainWait)
  | drainDone : s.wQueue.events = [] → WriterStep s err sendResult .drain (.goto s .exit)
  | drainWait : s.wQueue.events ≠ [] → WriterStep s err sendResult .drainWait (.goto s .drainPop)
  | drainPop :
    WriterStep s err sendResult .drainPop ⟨some .drain, s.writer, s.wQueue.take.2, [], none⟩
  | exit : WriterStep s err sendResult .exit ⟨none, .stopped, s.wQueue, [], none⟩

/-- A call of `write` changes neither the state of the writer nor its queue. -/
lemma writeMove_frame (s : State) (p : FramePtr) (err sendResult : ℤ) :
    (writeMove s p err sendResult).writer = s.writer ∧
      (writeMove s p err sendResult).wQueue = s.wQueue ∧
      ((writeMove s p err sendResult).pc = some .test ∨
        (writeMove s p err sendResult).pc = some (.write p)) := by
  simp only [writeMove]
  split
  · exact ⟨rfl, rfl, .inl rfl⟩
  · split
    · exact ⟨rfl, rfl, .inl rfl⟩
    · exact ⟨rfl, rfl, .inr rfl⟩

lemma WriterStep.of_writerMove {pc : WriterPC} {m : WriterMove}
    (h : writerMove s err sendResult pc = some m) : WriterStep s err sendResult pc m := by
  cases pc with
  | spawned =>
    cases h
    split
    · rename_i hs
      exact .checkStopped (of_decide_eq_true hs)
    · rename_i hs
      exact .check fun hs' => hs (decide_eq_true hs')
  | starting =>
    cases h
    exact .start
  | wait =>
    simp only [writerMove, Option.ite_none_right_eq_some, Option.some.injEq] at h
    obtain ⟨hready, rfl⟩ := h
    exact .wait ((EventQueue.ready_iff _).mp hready)
  | pop =>
    simp only [writerMove] at h
    split at h
    · rename_i p hp
      cases h
      exact .pop (Option.join_eq_some_iff.mp hp)
    · rename_i hp
      cases h
      exact .popNull hp
  | write p =>
    simp only [writerMove, Option.ite_none_right_eq_some, Option.some.injEq] at h
    obtain ⟨hfree, rfl⟩ := h
    exact .write hfree
  | test =>
    cases h
    split
    · rename_i hs
      exact .again (of_decide_eq_true hs)
    · rename_i hs
      exact .leave fun hs' => hs (decide_eq_true hs')
  | drainTest =>
    cases h
    split
    · rename_i hs
      exact .drainSkipped (of_decide_eq_true hs)
    · rename_i hs
      exact .drainStart fun hs' => hs (decide_eq_true hs')
  | drain =>
    cases h
    split
    · rename_i hs
      exact .drain ((size_pos_iff _).mp hs)
    · rename_i hs
      exact .drainDone (by_contra fun hne => hs ((size_pos_iff _).mpr hne))
  | drainWait =>
    simp only [writerMove, Option.ite_none_right_eq_some, Option.some.injEq] at h
    obtain ⟨hready, rfl⟩ := h
    exact .drainWait ((EventQueue.ready_iff _).mp hready)
  | drainPop =>
    cases h
    exact .drainPop
  | exit =>
    cases h
    exact .exit

lemma WriterStep.cap {sendResult : ℤ} {pc : WriterPC} {m : WriterMove}
    (h : WriterStep s err sendResult pc m) : m.wQueue.cap = s.wQueue.cap := by
  cases h with
  | pop | popNull | drainPop => exact EventQueue.cap_take _
  | write => exact congrArg _ (writeMove_frame ..).2.1
  | _ => rfl

/-! ### The control thread -/

lemma offerNull_cases (q : FrameQueue) :
    (∃ h, offerNull q = q.push none h) ∨ (q.events.length = q.cap ∧ offerNull q = q) := by
  rcases q.offer_cases none with ⟨hlt, hoffer⟩ | ⟨hfull, hoffer⟩
  · refine .inl ⟨hlt, ?_⟩
    rw [offerNull, hoffer]
  · refine .inr ⟨hfull, ?_⟩
    rw [offerNull, hoffer]

@[simp] lemma cap_offerNull (q : FrameQueue) : (offerNull q).cap = q.cap := by
  rcases offerNull_cases q with ⟨h, hq⟩ | ⟨-, hq⟩ <;> rw [hq]
  rfl

/-- After `offer(0)` there is something in the queue, whether or not it was refused. -/
lemma offerNull_ne_nil {q : FrameQueue} (h : 0 < q.cap) : (offerNull q).events ≠ [] := by
  rcases offerNull_cases q with ⟨hlt, hq⟩ | ⟨hfull, hq⟩
  · rw [hq, EventQueue.events_push]
    exact List.append_ne_nil_of_right_ne_nil _ (List.cons_ne_nil _ _)
  · rw [hq]
    apply List.ne_nil_of_length_pos
    rwa [hfull]

@[simp] lemma frames_offerNull (q : FrameQueue) : (offerNull q).frames = q.frames := by
  rcases offerNull_cases q with ⟨h, hq⟩ | ⟨-, hq⟩
  · rw [hq, EventQueue.frames_push]
    exact List.append_nil _
  · rw [hq]

/-- The branches of `Driver::open()`. -/
inductive OpenStep (s : State) (err : ℤ) (next : Ctl) : State → Prop
  | already : s.status ≠ .closed → OpenStep s err next { s with ctl := next }
  | failed : s.status = .closed → err ≠ ioSuccess → OpenStep s err next { s with ctl := .idle }
  | opened : s.status = .closed → err = ioSuccess →
    OpenStep s err next { s with status := .opened, trace := s.trace ++ [.opened], ctl := next }

/-- The branches of `ctlStep`. -/
inductive CtlStep (s : State) (err : ℤ) : State → Prop
  | initOpen {t : State} : s.ctl = .initOpen → s.driverMutexFree = true →
    OpenStep s err .getInstance t → CtlStep s err t
  | found : s.ctl = .getInstance → s.constructed = true →
    CtlStep s err { s with ctl := .startLock }
  | build : s.ctl = .getInstance → s.constructed = false → CtlStep s err
    { s with constructed := true, readers := s.readers ++ [.spawned], ctl := .construct }
  | construct : s.ctl = .construct →
    CtlStep s err { s with writers := s.writers ++ [.spawned], ctl := .startLock }
  | startLock : s.ctl = .startLock → s.rMutexFree = true →
    CtlStep s err { s with ctl := .startReader }
  | restartReader : s.ctl = .startReader → s.reader = .stopped →
    CtlStep s err { s with readers := s.readers ++ [.spawned], ctl := .startWriter }
  | startReader : s.ctl = .startReader → s.reader ≠ .stopped →
    CtlStep s err { s with ctl := .startWriter }
  | restartWriter : s.ctl = .startWriter → s.writer = .stopped →
    CtlStep s err { s with writers := s.writers ++ [.spawned], ctl := .startOpen }
  | startWriter : s.ctl = .startWriter → s.writer ≠ .stopped →
    CtlStep s err { s with ctl := .startOpen }
  | startOpen {t : State} : s.ctl = .startOpen → s.driverMutexFree = true →
    OpenStep s err .startDone t → CtlStep s err t
  | startDone : s.ctl = .startDone → CtlStep s err
    { s with started := true, initialized := s.initialized || s.lib, ctl := .idle }
  | stopFlag : s.ctl = .stopFlag → s.rMutexFree = true →
    CtlStep s err { s with started := false, ctl := .readerStop }
  | readerStop : s.ctl = .readerStop → s.rMutexFree = true →
    CtlStep s err { s with reader := s.reader.stopStarted, ctl := .close .readerStop }
  | closed {caller : Closer} : s.ctl = .close caller → s.driverMutexFree = true →
    s.status ≠ .opened →
    CtlStep s err { s with trace := s.trace ++ [.closed], ctl := s.afterClose caller }
  | close {caller : Closer} : s.ctl = .close caller → s.driverMutexFree = true →
    s.status = .opened → CtlStep s err { s with status := .closing, ctl := .closeOffer caller }
  | closeOffer {caller : Closer} : s.ctl = .closeOffer caller →
    CtlStep s err { s with rQueue := offerNull s.rQueue, ctl := .closeHal caller }
  | closeFailed {caller : Closer} : s.ctl = .closeHal caller → caller ≠ .readerStop → CtlStep s err
    { s with status := .closed, trace := s.trace ++ [.closed], ctl := .idle }
  | closeHal {caller : Closer} : s.ctl = .closeHal caller → CtlStep s err
    { s with status := .closed, trace := s.trace ++ [.closed], ctl := s.afterClose caller }
  | readerWait : s.ctl = .readerWait → s.reader = .stopped →
    CtlStep s err { s with ctl := .writerLock }
  | writerLock : s.ctl = .writerLock → s.rMutexFree = true →
    CtlStep s err { s with ctl := .writerTest }
  | writerRuns : s.ctl = .writerTest → s.writer = .running →
    CtlStep s err { s with ctl := .writerSet }
  | writerRests : s.ctl = .writerTest → s.writer ≠ .running →
    CtlStep s err { s with ctl := .writerWait }
  | writerSet : s.ctl = .writerSet →
    CtlStep s err { s with writer := s.writer.stopStarted, ctl := .writerOffer }
  | writerOffer : s.ctl = .writerOffer →
    CtlStep s err { s with wQueue := offerNull s.wQueue, ctl := .writerWait }
  | writerWait : s.ctl = .writerWait → s.writer = .stopped →
    CtlStep s err { s with ctl := .close .busStop }
  | termDone : s.ctl = .termDone → CtlStep s err { s with initialized := false, ctl := .idle }

lemma OpenStep.of_openDriver {next : Ctl} (h : s.openDriver err next = some t) :
    s.driverMutexFree = true ∧ OpenStep s err next t := by
  simp only [State.openDriver, Option.ite_none_right_eq_some] at h
  obtain ⟨hfree, h⟩ := h
  refine ⟨hfree, ?_⟩
  split at h
  · rename_i hs
    cases h
    exact .already hs
  · rename_i hs
    rw [not_not] at hs
    split at h
    · rename_i herr
      cases h
      exact .failed hs herr
    · rename_i herr
      cases h
      exact .opened hs (not_not.mp herr)

lemma CtlStep.of_ctlStep (h : ctlStep s err = some t) : CtlStep s err t := by
  unfold ctlStep at h
  split at h
  case h_1 => cases h
  case h_2 hc => exact .initOpen hc (OpenStep.of_openDriver h).1 (OpenStep.of_openDriver h).2
  case h_3 hc =>
    split at h
    · rename_i hb
      cases h
      exact .found hc hb
    · rename_i hb
      cases h
      exact .build hc (Bool.not_eq_true _ ▸ hb)
  case h_4 hc =>
    cases h
    exact .construct hc
  case h_5 hc =>
    simp only [Option.ite_none_right_eq_some, Option.some.injEq] at h
    obtain ⟨hfree, rfl⟩ := h
    exact .startLock hc hfree
  case h_6 hc =>
    cases h
    split
    · rename_i hs
      exact .restartReader hc (of_decide_eq_true hs)
    · rename_i hs
      exact .startReader hc fun hs' => hs (decide_eq_true hs')
  case h_7 hc =>
    cases h
    split
    · rename_i hs
      exact .restartWriter hc (of_decide_eq_true hs)
    · rename_i hs
      exact .startWriter hc fun hs' => hs (decide_eq_true hs')
  case h_8 hc => exact .startOpen hc (OpenStep.of_openDriver h).1 (OpenStep.of_openDriver h).2
  case h_9 hc =>
    cases h
    exact .startDone hc
  case h_10 hc =>
    simp only [Option.ite_none_right_eq_some, Option.some.injEq] at h
    obtain ⟨hfree, rfl⟩ := h
    exact .stopFlag hc hfree
  case h_11 hc =>
    simp only [Option.ite_none_right_eq_some, Option.some.injEq] at h
    obtain ⟨hfree, rfl⟩ := h
    exact .readerStop hc hfree
  case h_12 caller hc =>
    simp only [Option.ite_none_right_eq_some] at h
    obtain ⟨hfree, h⟩ := h
    split at h
    · rename_i hs
      cases h
      exact .closed hc hfree hs
    · rename_i hs
      cases h
      exact .close hc hfree (not_not.mp hs)
  case h_13 caller hc =>
    cases h
    exact .closeOffer hc
  case h_14 caller hc =>
    cases h
    split
    · rename_i hs
      exact .closeFailed hc hs.2
    · exact .closeHal hc
  case h_15 hc =>
    simp only [Option.ite_none_right_eq_some, Option.some.injEq] at h
    obtain ⟨hs, rfl⟩ := h
    exact .readerWait hc (of_decide_eq_true hs)
  case h_16 hc =>
    simp only [Option.ite_none_right_eq_some, Option.some.injEq] at h
    obtain ⟨hfree, rfl⟩ := h
    exact .writerLock hc hfree
  case h_17 hc =>
    cases h
    split
    · rename_i hs
      exact .writerRuns hc (of_decide_eq_true hs)
    · rename_i hs
      exact .writerRests hc fun hs' => hs (decide_eq_true hs')
  case h_18 hc =>
    cases h
    exact .writerSet hc
  case h_19 hc =>
    cases h
    exact .writerOffer hc
  case h_20 hc =>
    simp only [Option.ite_none_right_eq_some, Option.some.injEq] at h
    obtain ⟨hs, rfl⟩ := h
    exact .writerWait hc (of_decide_eq_true hs)
  case h_21 hc =>
    cases h
    exact .termDone hc

/-- The control thread is in `LibCCEC::init` or `Bus::start`. -/
def Ctl.starting : Ctl → Bool
  | initOpen | getInstance | construct | startLock | startReader | startWriter | startOpen
  | startDone => true
  | _ => false

/-- The control thread is in `Bus::stop` or `LibCCEC::term`, after `started = false`. -/
def Ctl.unstarted : Ctl → Bool
  | readerStop | close _ | closeOffer _ | closeHal _ | readerWait | writerLock | writerTest
  | writerSet | writerOffer | writerWait | termDone => true
  | _ => false

/-- The control thread has no step of its own between calls. -/
lemma CtlStep.ctl_ne_idle (h : CtlStep s err t) : s.ctl ≠ .idle := by
  intro hidle
  cases h <;> simp_all

lemma State.afterClose_starting (s : State) (caller : Closer) :
    (s.afterClose caller).starting = false := by
  cases caller with
  | busStop =>
    simp only [State.afterClose]
    split <;> rfl
  | readerStop | libTerm => rfl

/-- Nothing is started without a call. -/
lemma CtlStep.starting_eq_false (h : CtlStep s err t) (hs : s.ctl.starting = false) :
    t.ctl.starting = false := by
  cases h with
  | initOpen hc | found hc | build hc | construct hc | startLock hc | restartReader hc
  | startReader hc | restartWriter hc | startWriter hc | startOpen hc | startDone hc =>
    rw [hc] at hs
    cases hs
  | closed | closeHal => exact s.afterClose_starting _
  | _ => rfl

/-- What the control thread does not touch. -/
structure CtlStep.Frame (s t : State) : Prop where
  lib : t.lib = s.lib
  escaped : t.escaped = s.escaped

lemma CtlStep.frame (h : CtlStep s err t) : CtlStep.Frame s t := by
  cases h with
  | initOpen _ _ hopen | startOpen _ _ hopen => cases hopen <;> exact ⟨rfl, rfl⟩
  | _ => exact ⟨rfl, rfl⟩

/-! ### The system -/

/-- The branches of `step`. -/
inductive Step (s : State) : Label → State → Prop
  | initRefused : s.ctl = .idle → s.initialized = true → Step s .callInit s
  | callInit : s.ctl = .idle → s.initialized = false →
    Step s .callInit { s with ctl := .initOpen, lib := true }
  | callTerm : s.ctl = .idle → s.initialized = true →
    Step s .callTerm { s with ctl := .stopFlag, lib := true }
  | termRefused : s.ctl = .idle → s.initialized = false → Step s .callTerm s
  | callBusStart : s.ctl = .idle → Step s .callBusStart { s with ctl := .getInstance, lib := false }
  | callBusStop : s.ctl = .idle → s.constructed = true →
    Step s .callBusStop { s with ctl := .stopFlag, lib := false }
  | ctl {err : ℤ} {t : State} : CtlStep s err t → Step s (.ctl err) t
  | reader {i : ℕ} {pc : ReaderPC} {m : ReaderMove} : s.readers[i]? = some pc → ReaderStep s pc m →
    Step s (.reader i) (s.applyReader i m)
  | writer {i : ℕ} {err sendResult : ℤ} {pc : WriterPC} {m : WriterMove} : s.writers[i]? = some pc →
    WriterStep s err sendResult pc m → Step s (.writer i err sendResult) (s.applyWriter i m)
  | receive {frame : CECFrame} : frame.length ≠ 0 → s.status = .opened → Step s (.receive frame)
    { s with callbacks := s.callbacks ++ [⟨s.nextAddr, frame⟩], nextAddr := s.nextAddr + 1 }
  | discard {frame : CECFrame} : s.status ≠ .opened → Step s (.receive frame) s
  | offer {j : ℕ} {p : FramePtr} (h : s.rQueue.events.length < s.rQueue.cap) :
    s.callbacks[j]? = some p → Step s (.offer j)
      { s with
        callbacks := s.callbacks.eraseIdx j
        rQueue := s.rQueue.push (some p) h
        trace := s.trace ++ [.enqueued p] }
  | offerRefused {j : ℕ} {p : FramePtr} : s.rQueue.events.length = s.rQueue.cap →
    s.callbacks[j]? = some p → Step s (.offer j) { s with callbacks := s.callbacks.eraseIdx j }
  | sendAsync {frame : CECFrame} (h : s.wQueue.events.length < s.wQueue.cap) :
    s.wMutexFree = true → s.started = true → Step s (.sendAsync frame)
      { s with
        wQueue := s.wQueue.push (some ⟨s.nextAddr, frame⟩) h
        nextAddr := s.nextAddr + 1
        trace := s.trace ++ [.accepted ⟨s.nextAddr, frame⟩] }
  | sendAsyncRefused {frame : CECFrame} : s.wMutexFree = true →
    (s.started = false ∨ s.wQueue.events.length = s.wQueue.cap) → Step s (.sendAsync frame) s

lemma Step.of_offer {j : ℕ} (h : HdmiCec.offer s j = some t) : Step s (.offer j) t := by
  unfold HdmiCec.offer at h
  split at h
  · cases h
  · rename_i p hp
    rcases s.rQueue.offer_cases (some p) with ⟨hlt, hoffer⟩ | ⟨hfull, hoffer⟩
    · rw [hoffer] at h
      cases h
      exact .offer hlt hp
    · rw [hoffer] at h
      cases h
      exact .offerRefused hfull hp

/-- `sendAsync` puts a copy of the frame at the end of the queue, or raises: the bus is not started
or the queue is full. -/
lemma Bus.sendAsync_cases (started : Bool) (wQueue : FrameQueue) (addr : ℕ) (frame : CECFrame) :
    started = true ∧ (∃ h, (sendAsync started wQueue addr frame).result =
      .ok (wQueue.push (some ⟨addr, frame⟩) h)) ∨
    (started = false ∨ wQueue.events.length = wQueue.cap) ∧
      (sendAsync started wQueue addr frame).result =
        .error (if started then .osalInvalidState else .invalidState) := by
  cases started with
  | false => exact .inr ⟨.inl rfl, rfl⟩
  | true =>
    have hstarted : (checkStarted true).result = .ok () := rfl
    rw [sendAsync, Logged.result_bind_of_ok hstarted]
    rcases wQueue.offer_cases (some ⟨addr, frame⟩) with ⟨hlt, hoffer⟩ | ⟨hfull, hoffer⟩
    · refine .inl ⟨rfl, hlt, ?_⟩
      rw [Logged.result_catching_of_ok hoffer, hoffer]
    · refine .inr ⟨.inr hfull, ?_⟩
      rw [Logged.result_catching_of_error hoffer rfl, Logged.result_bind_of_ok rfl]
      rfl

/-- The frame of a call that returns is accepted. -/
lemma State.queued_push (s : State) (frame : CECFrame)
    (h : s.wQueue.events.length < s.wQueue.cap) :
    s.queued (.ok (s.wQueue.push (some ⟨s.nextAddr, frame⟩) h)) = { s with
      wQueue := s.wQueue.push (some ⟨s.nextAddr, frame⟩) h
      nextAddr := s.nextAddr + 1
      trace := s.trace ++ [.accepted ⟨s.nextAddr, frame⟩] } := by
  simp [State.queued]

lemma Step.of_sendAsync {frame : CECFrame} (h : HdmiCec.sendAsync s frame = some t) :
    Step s (.sendAsync frame) t := by
  unfold HdmiCec.sendAsync at h
  rw [Option.ite_none_right_eq_some, Option.some.injEq] at h
  obtain ⟨hfree, rfl⟩ := h
  rcases Bus.sendAsync_cases s.started s.wQueue s.nextAddr frame with
    ⟨hstarted, hlt, hresult⟩ | ⟨hrefused, hresult⟩
  · rw [hresult, State.queued_push]
    exact .sendAsync hlt hfree hstarted
  · rw [hresult]
    exact .sendAsyncRefused hfree hrefused

theorem Step.of_step {l : Label} (h : step s l = some t) : s.escaped = none ∧ Step s l t := by
  unfold step at h
  rw [Option.ite_none_left_eq_some] at h
  obtain ⟨hescaped, h⟩ := h
  refine ⟨Option.not_isSome_iff_eq_none.mp hescaped, ?_⟩
  cases l with
  | callInit =>
    simp only [HdmiCec.callInit, Option.ite_none_right_eq_some, Option.some.injEq] at h
    obtain ⟨hidle, rfl⟩ := h
    split
    · rename_i hi
      exact .initRefused hidle hi
    · rename_i hi
      exact .callInit hidle (Bool.not_eq_true _ ▸ hi)
  | callTerm =>
    simp only [HdmiCec.callTerm, Option.ite_none_right_eq_some, Option.some.injEq] at h
    obtain ⟨hidle, rfl⟩ := h
    split
    · rename_i hi
      exact .callTerm hidle hi
    · rename_i hi
      exact .termRefused hidle (Bool.not_eq_true _ ▸ hi)
  | callBusStart =>
    simp only [HdmiCec.callBusStart, Option.ite_none_right_eq_some, Option.some.injEq] at h
    obtain ⟨hidle, rfl⟩ := h
    exact .callBusStart hidle
  | callBusStop =>
    simp only [HdmiCec.callBusStop, Option.ite_none_right_eq_some, Option.some.injEq] at h
    obtain ⟨⟨hidle, hb⟩, rfl⟩ := h
    exact .callBusStop hidle hb
  | ctl err => exact .ctl (.of_ctlStep h)
  | reader i =>
    obtain ⟨pc, hpc, hmove⟩ := Option.bind_eq_some_iff.mp h
    obtain ⟨m, hm, rfl⟩ := Option.map_eq_some_iff.mp hmove
    exact .reader hpc (.of_readerMove hm)
  | writer i err sendResult =>
    obtain ⟨pc, hpc, hmove⟩ := Option.bind_eq_some_iff.mp h
    obtain ⟨m, hm, rfl⟩ := Option.map_eq_some_iff.mp hmove
    exact .writer hpc (.of_writerMove hm)
  | receive frame =>
    simp only [HdmiCec.receive, Option.ite_none_left_eq_some] at h
    obtain ⟨hlen, h⟩ := h
    split at h
    · rename_i hs
      cases h
      exact .receive hlen hs
    · rename_i hs
      cases h
      exact .discard hs
  | offer j => exact .of_offer h
  | sendAsync frame => exact .of_sendAsync h

/-- `init` is called for the first time and returns. -/
def startUp : List Label := .callInit :: List.replicate 8 (.ctl ioSuccess)

end HdmiCec
