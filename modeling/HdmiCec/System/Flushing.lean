import HdmiCec.System.Isolation
import HdmiCec.System.Orderly

/-!
# The flush at the end of a session

`close` puts a sentinel into the receive queue, and a reader that takes it from a driver that is not
open empties the queue. When the reader does come to the sentinel before it leaves its loop, the
queue has room for it, and no callback offers its frame after the flush, nothing is left for the
next session, whatever was enqueued while the driver was being closed.
-/

namespace HdmiCec

open Lib DriverImpl

/-! ### The property -/

/-- The reader has taken a sentinel. -/
def ReaderPC.flushing : ReaderPC → Bool
  | null | flush | flushWait | flushPop => true
  | _ => false

/-- The reader has the flush ahead of it: it has taken the sentinel, or the sentinel is in the queue
or about to be offered. -/
def State.toFlush (s : State) : Bool :=
  s.readers.any fun pc => pc.flushing ||
    decide (pc ≠ .exit ∧ (s.ctl = .closeOffer .readerStop ∨ none ∈ s.rQueue.events))

/-- The reader leaves its loop only when the driver was closed and the sentinel was taken, `close`
finds room for the sentinel, and a callback that has found the driver open puts its frame into the
queue before the flush is over. -/
def ComesToSentinel (s : State) : Label → Prop
  | .reader i => s.readers[i]? = some .test → s.reader ≠ .running →
    s.status = .closed ∧ none ∉ s.rQueue.events
  | .ctl _ => s.ctl = .closeOffer .readerStop → s.rQueue.size < s.rQueue.cap
  | .offer _ => s.status ≠ .opened → s.toFlush = true
  | _ => True

instance (s : State) (l : Label) : Decidable (ComesToSentinel s l) :=
  match l with
  | .reader _ | .ctl _ | .offer _ => inferInstanceAs (Decidable (_ → _))
  | .callInit | .callTerm | .callBusStart | .callBusStop | .writer .. | .receive _
  | .sendAsync _ => .isTrue trivial

/-! ### The invariant -/

/-- While the driver is open the reader does not leave; then the queue is empty, or the flush is
ahead. -/
structure Flushing (s : State) : Prop extends Orderly s where
  reads : s.ctl.terminating = true → s.status = .opened → ∃ pc ∈ s.readers, pc ≠ .exit
  flushed : s.status ≠ .opened → s.rQueue.frames = [] ∨ s.toFlush = true

variable {s t : State} {l : Label} {err : ℤ}

lemma State.toFlush_iff : s.toFlush = true ↔ ∃ pc ∈ s.readers, pc.flushing = true ∨
    pc ≠ .exit ∧ (s.ctl = .closeOffer .readerStop ∨ none ∈ s.rQueue.events) := by
  simp [State.toFlush]

lemma ReaderStep.rQueue_cases {pc : ReaderPC} {m : ReaderMove} (h : ReaderStep s pc m) :
    m.rQueue = s.rQueue ∨ m.rQueue = s.rQueue.take.2 := by
  cases h with
  | pop | popNull | flushPop => exact .inr rfl
  | _ => exact .inl rfl

/-- A sentinel stays behind a frame that is taken. -/
lemma EventQueue.none_mem_take {q : FrameQueue} {p : FramePtr} (h : none ∈ q.events)
    (htake : q.take.1 = some (some p)) : none ∈ q.take.2.events := by
  cases hq : q.events with
  | nil =>
    rw [hq] at h
    cases h
  | cons e rest =>
    obtain ⟨hfirst, hrest, -⟩ := take_of_cons hq
    rw [htake, Option.some.injEq] at hfirst
    subst hfirst
    rw [hrest]
    simpa [hq] using h

/-- Only the first `close` of `term` finds the driver open. -/
lemma Coherent.closer_of_opened {caller : Closer} (h : Coherent s) (hc : s.ctl = .close caller)
    (hopen : s.status = .opened) : caller = .readerStop := by
  cases caller with
  | readerStop => rfl
  | busStop | libTerm =>
    rw [(h.flags_eq (by rw [hc]; rfl)).2.2] at hopen
    cases hopen

namespace Flushing

/-- The queue keeps its sentinel and the readers their places. -/
lemma flushed_of_eq (h : Flushing s) (hs : s.status ≠ .opened)
    (hctl : s.ctl ≠ .closeOffer .readerStop) (hreaders : ∀ pc ∈ s.readers, pc ∈ t.readers)
    (hqueue : t.rQueue = s.rQueue) : t.rQueue.frames = [] ∨ t.toFlush = true := by
  refine (h.flushed hs).imp (fun hnil => by rw [hqueue, hnil]) fun hflush => ?_
  obtain ⟨pc, hpc, hahead⟩ := State.toFlush_iff.mp hflush
  rw [State.toFlush_iff, hqueue]
  exact ⟨pc, hreaders pc hpc, hahead.imp_right (And.imp_right (Or.imp_left (absurd · hctl)))⟩

/-- A step of the reader on a driver that is not open. -/
lemma flushed_reader {i : ℕ} {pc : ReaderPC} {m : ReaderMove} (h : Flushing s)
    (hs : s.status ≠ .opened) (hok : ComesToSentinel s (.reader i))
    (hpc : s.readers[i]? = some pc) (hm : ReaderStep s pc m) :
    (s.applyReader i m).rQueue.frames = [] ∨ (s.applyReader i m).toFlush = true := by
  obtain ⟨rfl, hpcs⟩ := eq_singleton_of_getElem? h.readers_length hpc
  obtain hnil | hflush := h.flushed hs
  · left
    rw [applyReader_rQueue]
    obtain hqueue | hqueue := hm.rQueue_cases
    · rw [hqueue, hnil]
    · rw [hqueue]
      exact List.sublist_nil.mp (hnil ▸ EventQueue.frames_take_sublist s.rQueue)
  · have hahead : ∀ {pc'}, m.pc = some pc' → (pc'.flushing = true ∨ pc' ≠ .exit ∧
        (s.ctl = .closeOffer .readerStop ∨ none ∈ m.rQueue.events)) →
        (s.applyReader 0 m).toFlush = true := by
      intro pc' hpc' hahead
      refine State.toFlush_iff.mpr ⟨pc', ?_, hahead⟩
      rw [State.applyReader, hpcs, moveThread_singleton, hpc']
      exact List.mem_singleton_self pc'
    obtain ⟨pc', hpc', hfound⟩ := State.toFlush_iff.mp hflush
    rw [hpcs, List.mem_singleton] at hpc'
    subst hpc'
    cases hm with
    | read _ hopen | pollAgain _ hopen => exact absurd hopen hs
    | leave hstop =>
      -- the sentinel has been taken, but not by this reader
      obtain ⟨hclosed, hnone⟩ := hok hpc hstop
      obtain hflushing | ⟨-, hctl | hmem⟩ := hfound
      · cases hflushing
      · rw [(h.flags_eq (by rw [hctl]; rfl)).2.2] at hclosed
        cases hclosed
      · exact absurd hmem hnone
    | pop htake =>
      obtain hflushing | ⟨-, hctl | hmem⟩ := hfound
      · cases hflushing
      · exact .inr (hahead rfl (.inr ⟨by simp, .inl hctl⟩))
      · exact .inr (hahead rfl (.inr ⟨by simp, .inr (EventQueue.none_mem_take hmem htake)⟩))
    | popNull | flushStart | flush | flushWait | flushPop => exact .inr (hahead rfl (.inl rfl))
    | flushDone hempty =>
      left
      simp [ReaderMove.goto, EventQueue.frames, hempty]
    | exit =>
      obtain hflushing | ⟨hexit, -⟩ := hfound
      · cases hflushing
      · exact absurd rfl hexit
    | _ =>
      obtain hflushing | ⟨-, hcoming⟩ := hfound
      · cases hflushing
      · exact .inr (hahead rfl (.inr ⟨by simp, hcoming⟩))

/-- A step of the control thread that leaves the driver closed or closes it. -/
lemma flushed_ctl (h : Flushing s) (hok : ComesToSentinel s (.ctl err)) (hstep : CtlStep s err t)
    (ht : t.status ≠ .opened) : t.rQueue.frames = [] ∨ t.toFlush = true := by
  cases hstep with
  | initOpen hc _ hopen | startOpen hc _ hopen =>
    cases hopen with
    | opened => exact absurd rfl ht
    | already | failed => exact h.flushed_of_eq ht (by simp [hc]) (fun _ => id) rfl
  | build hc | restartReader hc =>
    exact h.flushed_of_eq ht (by simp [hc]) (fun _ => List.mem_append_left _) rfl
  | close hc _ hopen =>
    -- the first close of `term`: the reader is in its loop, and the sentinel is about to come
    obtain rfl := h.closer_of_opened hc hopen
    obtain ⟨pc, hpc, hne⟩ := h.reads (by rw [hc]; rfl) hopen
    exact .inr (State.toFlush_iff.mpr ⟨pc, hpc, .inr ⟨hne, .inl rfl⟩⟩)
  | closeOffer hc =>
    obtain rfl := h.closer _ (.inl hc)
    refine (h.flushed ht).imp (fun hnil => (frames_offerNull _).trans hnil) fun hflush => ?_
    obtain ⟨pc, hpc, hahead⟩ := State.toFlush_iff.mp hflush
    refine State.toFlush_iff.mpr ⟨pc, hpc, hahead.imp_right (And.imp_right fun _ => .inr ?_)⟩
    obtain ⟨hlt, hqueue⟩ | ⟨hfull, -⟩ := offerNull_cases s.rQueue
    · simp [hqueue]
    · exact absurd hfull (Nat.ne_of_lt (hok hc))
  | closeHal hc | closeFailed hc =>
    have hclosing : s.status ≠ .opened := by
      obtain rfl := h.closer _ (.inr hc)
      simp [(h.flags_eq (by rw [hc]; rfl)).2.2]
    exact h.flushed_of_eq hclosing (by simp [hc]) (fun _ => id) rfl
  | found hc | construct hc | startLock hc | startReader hc | restartWriter hc | startWriter hc
  | startDone hc | stopFlag hc | readerStop hc | closed hc | readerWait hc | writerLock hc
  | writerRuns hc | writerRests hc | writerSet hc | writerOffer hc | writerWait hc | termDone hc =>
    exact h.flushed_of_eq ht (by simp [hc]) (fun _ => id) rfl

lemma flushed_step (h : Flushing s) (hok : ComesToSentinel s l) (hstep : Step s l t)
    (ht : t.status ≠ .opened) : t.rQueue.frames = [] ∨ t.toFlush = true := by
  cases hstep with
  | ctl hstep => exact h.flushed_ctl hok hstep ht
  | reader hpc hm => exact h.flushed_reader ht hok hpc hm
  | callInit hidle | callBusStart hidle | callTerm hidle | callBusStop hidle =>
    exact h.flushed_of_eq ht (by simp [hidle]) (fun _ => id) rfl
  | offer =>
    -- the frame comes before the flush is over
    obtain ⟨pc, hpc, hahead⟩ := State.toFlush_iff.mp (hok ht)
    refine .inr (State.toFlush_iff.mpr ⟨pc, hpc, hahead.imp_right (And.imp_right ?_)⟩)
    exact Or.imp_right fun hmem => by simpa using hmem
  | _ => exact h.flushed ht

lemma reads_step (h : Flushing s) (hl : Regular s l) (hok : ComesToSentinel s l)
    (hstep : Step s l t) (hterm : t.ctl.terminating = true) (ht : t.status = .opened) :
    ∃ pc ∈ t.readers, pc ≠ .exit := by
  cases hstep with
  | callInit | callBusStart => cases hterm
  | callBusStop => exact absurd rfl hl.1.2
  | callTerm hidle hinit =>
    have hrunning : Phase.running.Holds s.reader (s.readers.map ReaderPC.life) :=
      (h.callTerm hidle hinit hl.2.2).readerRuns rfl
    obtain ⟨_, hlife, hne⟩ := hrunning.exists_ne_leaving
    obtain ⟨pc, hpc, rfl⟩ := List.mem_map.mp hlife
    refine ⟨pc, hpc, ?_⟩
    rintro rfl
    exact hne rfl
  | ctl hstep =>
    have hs : s.ctl.terminating = true := by
      by_contra hs
      rw [hstep.terminating_eq_false (Bool.not_eq_true _ ▸ hs)] at hterm
      cases hterm
    cases hstep with
    | close | closeHal | closeFailed => cases ht
    | initOpen hc | startOpen hc | build hc | restartReader hc =>
      rw [hc] at hs
      cases hs
    | _ => exact h.reads hs ht
  | @reader i pc m hpc hm =>
    obtain ⟨rfl, hpcs⟩ := eq_singleton_of_getElem? h.readers_length hpc
    obtain ⟨pc', hpc', hne⟩ := h.reads hterm ht
    rw [hpcs, List.mem_singleton] at hpc'
    subst hpc'
    rw [State.applyReader, hpcs, moveThread_singleton]
    cases hm with
    | leave hstop =>
      have hclosed := (hok hpc hstop).1
      rw [show s.status = .opened from ht] at hclosed
      cases hclosed
    | exit => exact absurd rfl hne
    | _ => simp [ReaderMove.goto]
  | _ => exact h.reads hterm ht

lemma step (h : Flushing s) (hl : Regular s l) (hok : ComesToSentinel s l)
    (hstep : HdmiCec.step s l = some t) : Flushing t where
  toOrderly := h.toOrderly.step hl hstep
  reads := h.reads_step hl hok (Step.of_step hstep).2
  flushed := h.flushed_step hok (Step.of_step hstep).2

lemma init : Flushing .init where
  toOrderly := .init
  reads h := by cases h
  flushed _ := .inl rfl

/-- Without a reader there is nothing left of the frames that were enqueued. -/
lemma incoming_eq_nil (h : Flushing s) (hs : s.status ≠ .opened) (hreaders : s.readers = []) :
    s.incoming = [] := by
  have hframes : s.rQueue.frames = [] := by
    refine (h.flushed hs).resolve_right fun hflush => ?_
    obtain ⟨pc, hpc, -⟩ := State.toFlush_iff.mp hflush
    rw [hreaders] at hpc
    cases hpc
  simp [State.incoming, hreaders, hframes]

/-- The driver is opened by `init`, which finds no reader and no frame. -/
lemma opensFlushed (h : Flushing s) : OpensFlushed s l := by
  cases l with
  | ctl err =>
    intro hopens p hp
    simp only [opens, decide_eq_true_eq] at hopens
    obtain ⟨-, hclosed, hc | hc⟩ := hopens
    · have hreader := h.reader
      simp only [State.readerPhase, hc] at hreader
      rw [h.incoming_eq_nil (by simp [hclosed]) (List.map_eq_nil_iff.mp hreader.eq_nil)] at hp
      cases hp
    · exact absurd hclosed (h.opening (by rw [hc]; rfl))
  | _ =>
    intro hopens
    cases hopens

end Flushing

/-! ### The theorem -/

/-- In an orderly run in which the reader comes to the sentinel of every `close` before it leaves,
no frame is returned in a later session, and none is left when `term` has returned. -/
theorem sessions_flushed (h : Run step (fun s l => Regular s l ∧ ComesToSentinel s l) .init s) :
    Isolated s ∧ (s.Resting → s.incoming = []) := by
  have hinv : Flushing s ∧ Sessions s := by
    apply h.invariant _ ⟨Flushing.init, Sessions.init⟩
    rintro s l t ⟨hl, hok⟩ hstep ⟨hs, hsessions⟩
    exact ⟨hs.step hl hok hstep,
      hsessions.step hs.opensFlushed (Step.of_step hstep).2.incomingStep⟩
  refine ⟨hinv.2.isolated, fun hrest => ?_⟩
  have hdown := hinv.1.down_of_not_initialized hrest.1 hrest.2
  have hreader := hinv.1.reader
  simp only [State.readerPhase, hrest.1, hrest.2, Bool.false_eq_true, if_false] at hreader
  exact hinv.1.incoming_eq_nil (by simp [show s.status = .closed from congrArg (·.2.2) hdown])
    (List.map_eq_nil_iff.mp hreader.eq_nil)

/-- A callback offers its frame after the sentinel, and the reader flushes it; the next session
returns a frame of its own. -/
theorem sessions_flushed_late_callback :
    ∃ s, [.enqueued ⟨1, ⟨[0x4F, 0x85], by decide⟩⟩, .closed, .opened,
        .returned ⟨2, ⟨[0x4F, 0x85], by decide⟩⟩].Sublist s.trace ∧
      Isolated s ∧ (s.Resting → s.incoming = []) := by
  obtain ⟨s, hrun, hs⟩ := Run.of_execSat
    (show execSat step (fun s l => Regular s l ∧ ComesToSentinel s l)
      (fun s => [.enqueued ⟨1, ⟨[0x4F, 0x85], by decide⟩⟩, .closed, .opened,
        .returned ⟨2, ⟨[0x4F, 0x85], by decide⟩⟩].Sublist s.trace) .init
      (startUp ++ [.receive ⟨[0x40], by decide⟩, .offer 0] ++ List.replicate 10 (.reader 0) ++
        [.receive ⟨[0x4F, 0x85], by decide⟩, .callTerm] ++ List.replicate 4 (.ctl ioSuccess) ++
        [.offer 0, .ctl ioSuccess] ++ List.replicate 9 (.reader 0) ++
        List.replicate 5 (.ctl ioSuccess) ++ List.replicate 7 (.writer 0 ioSuccess ioSuccess) ++
        List.replicate 4 (.ctl ioSuccess) ++ nextSession ++
        [.receive ⟨[0x4F, 0x85], by decide⟩, .offer 0] ++ List.replicate 6 (.reader 0)) = true
      by decide +kernel)
  exact ⟨s, of_decide_eq_true hs, sessions_flushed hrun⟩

end HdmiCec
