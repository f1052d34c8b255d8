import HdmiCec.System.Reading

/-!
# A call of `DriverImpl::read`

One thread in `read`, with one step for each access to the status, to the receive queue or to the
frame behind a pointer, among other threads that offer to the queue at any time and change the
status while they have the driver's mutex. A `NULL` in the queue is a sentinel of `close`: it ends
the call when the driver is not open any more and is left over from an earlier session otherwise.
-/

namespace HdmiCec

open Lib DriverImpl

/-! ### The thread in `read` and the others -/

/-- How a call of `read` ends. -/
inductive ReadEnd where
  | returned (p : FramePtr)
  | raised (e : Exn)
deriving DecidableEq

/-- The points of a thread in `read`, with the pointer `inFrame` where it is used. -/
inductive ReadPoint where
  /-- before the check of the status -/
  | check
  /-- waiting in `rQueue.poll()` -/
  | poll
  /-- before the part of `rQueue.poll()` under the lock -/
  | pop
  /-- at `if (inFrame != 0)` -/
  | test (inFrame : Option FramePtr)
  /-- before `frame = *inFrame` -/
  | copy (inFrame : Option FramePtr)
  /-- in the `else`, before the mutex is taken and the status is checked again -/
  | recheck
  /-- at `while (rQueue.size() > 0)`, with the mutex -/
  | flush
  /-- in the loop after it, waiting in `rQueue.poll()` -/
  | flushPoll
  /-- in the loop after it, before the part of `rQueue.poll()` under the lock -/
  | flushPop
  /-- in the loop after it, at `if (inFrame != 0)` -/
  | flushTest (inFrame : Option FramePtr)
  /-- in the loop after it, before `frame = *inFrame` -/
  | flushCopy (inFrame : Option FramePtr)
  /-- the call is over -/
  | ended (how : ReadEnd)
  /-- `NULL` was dereferenced -/
  | fault
deriving DecidableEq

/-- Who has the driver's mutex. -/
inductive Holder where
  | reader
  | other
deriving DecidableEq

/-- A call of `read(frame)`. Besides the state of the driver: what the call has taken from the
queue, what the others have put there since it began, and what it found when it checked the status
again, each in order. -/
structure ReadCall where
  status : Status
  rQueue : FrameQueue
  mutex : Option Holder
  pc : ReadPoint
  /-- the caller's frame -/
  frame : CECFrame
  taken : List (Option FramePtr)
  offered : List (Option FramePtr)
  rechecks : List Status

namespace ReadCall

/-- `frame = *inFrame`, and then `next`. -/
def deref (r : ReadCall) (inFrame : Option FramePtr) (next : FramePtr → ReadPoint) : ReadCall :=
  match inFrame with
  | some p => { r with frame := p.frame, pc := next p }
  | none => { r with pc := .fault }

/-- `inFrame = rQueue.poll()`, under the lock of the queue, and then `next`. -/
def popInto (r : ReadCall) (next : Option FramePtr → ReadPoint) : ReadCall :=
  { r with
    rQueue := r.rQueue.take.2
    taken := r.taken ++ r.rQueue.take.1.toList
    pc := next r.rQueue.take.1.join }

/-- The step of the thread in `read`. `none`: it has to wait, or it is not in `read` any more. -/
def read (r : ReadCall) : Option ReadCall :=
  match r.pc with
  | .check =>
    if r.mutex = none then
      some { r with pc := if r.status ≠ .opened then .ended (.raised .invalidState) else .poll }
    else
      none
  | .poll => if r.rQueue.ready then some { r with pc := .pop } else none
  | .pop => some (r.popInto .test)
  | .test inFrame => some { r with pc := if inFrame ≠ none then .copy inFrame else .recheck }
  | .copy inFrame => some (r.deref inFrame fun p => .ended (.returned p))
  | .recheck =>
    if r.mutex = none then
      if r.status ≠ .opened then
        -- the mutex is kept until the call is over
        some { r with mutex := some .reader, rechecks := r.rechecks ++ [r.status], pc := .flush }
      else
        some { r with rechecks := r.rechecks ++ [r.status], pc := .poll }
    else
      none
  | .flush =>
    if r.rQueue.size > 0 then
      some { r with pc := .flushPoll }
    else
      some { r with mutex := none, pc := .ended (.raised .invalidState) }
  | .flushPoll => if r.rQueue.ready then some { r with pc := .flushPop } else none
  | .flushPop => some (r.popInto .flushTest)
  | .flushTest inFrame => some { r with pc := if inFrame ≠ none then .flushCopy inFrame else .flush }
  | .flushCopy inFrame => some (r.deref inFrame fun _ => .flush)
  | .ended _ => none
  | .fault => none

end ReadCall

/-- The steps: the thread in `read` goes on; another thread takes or releases the driver's mutex,
sets the status, or offers to the queue. -/
inductive ReadLabel where
  | read
  | lock
  | unlock
  | setStatus (status : Status)
  | offer (element : Option FramePtr)

namespace ReadCall

def step (r : ReadCall) : ReadLabel → Option ReadCall
  | .read => r.read
  | .lock => if r.mutex = none then some { r with mutex := some .other } else none
  | .unlock => if r.mutex = some .other then some { r with mutex := none } else none
  | .setStatus status => if r.mutex = some .other then some { r with status := status } else none
  | .offer element =>
    -- a full queue throws in the thread that offers
    match (r.rQueue.offer element).result with
    | .ok rQueue => some { r with rQueue := rQueue, offered := r.offered ++ [element] }
    | .error _ => some r

/-- The call is over. -/
def isOver (r : ReadCall) : Bool :=
  match r.pc with
  | .ended _ => true
  | _ => false

/-- What a step of the thread in `read` does. -/
inductive Step (r : ReadCall) : ReadCall → Prop
  | rejected : r.pc = .check → r.mutex = none → r.status ≠ .opened →
      Step r { r with pc := .ended (.raised .invalidState) }
  | entered : r.pc = .check → r.mutex = none → r.status = .opened →
      Step r { r with pc := .poll }
  | ready : r.pc = .poll → r.rQueue.events ≠ [] → Step r { r with pc := .pop }
  | pop : r.pc = .pop → Step r (r.popInto .test)
  | found {p : FramePtr} : r.pc = .test (some p) → Step r { r with pc := .copy (some p) }
  | null : r.pc = .test none → Step r { r with pc := .recheck }
  | copied {p : FramePtr} : r.pc = .copy (some p) →
      Step r { r with frame := p.frame, pc := .ended (.returned p) }
  | closed : r.pc = .recheck → r.mutex = none → r.status ≠ .opened →
      Step r { r with
        mutex := some .reader, rechecks := r.rechecks ++ [r.status], pc := .flush }
  | skipped : r.pc = .recheck → r.mutex = none → r.status = .opened →
      Step r { r with rechecks := r.rechecks ++ [r.status], pc := .poll }
  | flush : r.pc = .flush → r.rQueue.events ≠ [] → Step r { r with pc := .flushPoll }
  | flushed : r.pc = .flush → r.rQueue.events = [] →
      Step r { r with mutex := none, pc := .ended (.raised .invalidState) }
  | flushReady : r.pc = .flushPoll → r.rQueue.events ≠ [] → Step r { r with pc := .flushPop }
  | flushPop : r.pc = .flushPop → Step r (r.popInto .flushTest)
  | flushFound {p : FramePtr} : r.pc = .flushTest (some p) →
      Step r { r with pc := .flushCopy (some p) }
  | flushNull : r.pc = .flushTest none → Step r { r with pc := .flush }
  | flushCopied {p : FramePtr} : r.pc = .flushCopy (some p) →
      Step r { r with frame := p.frame, pc := .flush }
  | fault : r.pc = .copy none ∨ r.pc = .flushCopy none → Step r { r with pc := .fault }

variable {r r' : ReadCall}

/-- Every step is one of these. -/
lemma Step.of_read (h : r.read = some r') : Step r r' := by
  unfold read at h
  cases hpc : r.pc with
  | check =>
    simp only [hpc, Option.ite_none_right_eq_some, Option.some.injEq] at h
    obtain ⟨hfree, rfl⟩ := h
    by_cases hstatus : r.status = .opened
    · rw [if_neg (not_not.mpr hstatus)]
      exact .entered hpc hfree hstatus
    · rw [if_pos hstatus]
      exact .rejected hpc hfree hstatus
  | poll =>
    simp only [hpc, Option.ite_none_right_eq_some, Option.some.injEq] at h
    obtain ⟨hready, rfl⟩ := h
    exact .ready hpc (r.rQueue.ready_iff.mp hready)
  | pop =>
    rw [hpc] at h
    cases h
    exact .pop hpc
  | test inFrame =>
    rw [hpc] at h
    cases h
    cases inFrame with
    | some p => exact .found hpc
    | none => exact .null hpc
  | copy inFrame =>
    rw [hpc] at h
    cases h
    cases inFrame with
    | some p => exact .copied hpc
    | none => exact .fault (.inl hpc)
  | recheck =>
    simp only [hpc, Option.ite_none_right_eq_some] at h
    obtain ⟨hfree, h⟩ := h
    by_cases hstatus : r.status = .opened
    · rw [if_neg (not_not.mpr hstatus)] at h
      cases h
      exact .skipped hpc hfree hstatus
    · rw [if_pos hstatus] at h
      cases h
      exact .closed hpc hfree hstatus
  | flush =>
    by_cases hempty : r.rQueue.events = []
    · simp only [hpc, EventQueue.size, hempty, List.length_nil, gt_iff_lt, Nat.lt_irrefl,
        if_false] at h
      cases h
      exact .flushed hpc hempty
    · simp only [hpc, EventQueue.size, gt_iff_lt, List.length_pos_iff.mpr hempty, if_true] at h
      cases h
      exact .flush hpc hempty
  | flushPoll =>
    simp only [hpc, Option.ite_none_right_eq_some, Option.some.injEq] at h
    obtain ⟨hready, rfl⟩ := h
    exact .flushReady hpc (r.rQueue.ready_iff.mp hready)
  | flushPop =>
    rw [hpc] at h
    cases h
    exact .flushPop hpc
  | flushTest inFrame =>
    rw [hpc] at h
    cases h
    cases inFrame with
    | some p => exact .flushFound hpc
    | none => exact .flushNull hpc
  | flushCopy inFrame =>
    rw [hpc] at h
    cases h
    cases inFrame with
    | some p => exact .flushCopied hpc
    | none => exact .fault (.inr hpc)
  | ended how =>
    rw [hpc] at h
    cases h
  | fault =>
    rw [hpc] at h
    cases h

/-- What a step of any of the threads does. -/
inductive Move (r : ReadCall) : ReadLabel → ReadCall → Prop
  | read {r' : ReadCall} : Step r r' → Move r .read r'
  | lock : r.mutex = none → Move r .lock { r with mutex := some .other }
  | unlock : r.mutex = some .other → Move r .unlock { r with mutex := none }
  | setStatus {status : Status} : r.mutex = some .other →
      Move r (.setStatus status) { r with status := status }
  | offered {element : Option FramePtr} (h : r.rQueue.events.length < r.rQueue.cap) :
      Move r (.offer element) { r with
        rQueue := r.rQueue.push element h, offered := r.offered ++ [element] }
  | refused {element : Option FramePtr} : Move r (.offer element) r

lemma Move.of_step {l : ReadLabel} (h : r.step l = some r') : Move r l r' := by
  cases l with
  | read => exact .read (.of_read h)
  | lock =>
    simp only [step, Option.ite_none_right_eq_some, Option.some.injEq] at h
    obtain ⟨hfree, rfl⟩ := h
    exact .lock hfree
  | unlock =>
    simp only [step, Option.ite_none_right_eq_some, Option.some.injEq] at h
    obtain ⟨hother, rfl⟩ := h
    exact .unlock hother
  | setStatus status =>
    simp only [step, Option.ite_none_right_eq_some, Option.some.injEq] at h
    obtain ⟨hother, rfl⟩ := h
    exact .setStatus hother
  | offer element =>
    obtain ⟨hroom, hoffer⟩ | ⟨-, hoffer⟩ := r.rQueue.offer_cases element
    · simp only [step, hoffer] at h
      cases h
      exact .offered hroom
    · simp only [step, hoffer] at h
      cases h
      exact .refused

/-- The thread in `read` takes the mutex for itself only. -/
lemma Step.mutex (h : Step r r') (hfree : r.mutex ≠ some .other) : r'.mutex ≠ some .other := by
  cases h with
  | closed => simp
  | flushed => simp
  | _ => exact hfree

/-! ### The reading thread of the receiver -/

/-- The call for somebody who does not see what it does with a pointer. -/
def toReceiver (r : ReadCall) : Receiver where
  status := r.status
  rQueue := r.rQueue
  pc :=
    match r.pc with
    | .check => .check
    | .poll => .wait
    | .pop => .pop
    | .test (some p) | .copy (some p) => .got p
    | .test none | .recheck => .null
    | .flush | .flushTest _ | .flushCopy _ => .flush
    | .flushPoll => .flushWait
    | .flushPop => .flushPop
    | .copy none | .ended _ | .fault => .outside
  nextAddr := 0
  enqueued := []
  returned :=
    match r.pc with
    | .ended (.returned p) => [p]
    | _ => []

/-- A step of the call is a step of the reading thread of the receiver, or is not seen. -/
lemma Step.refines (h : Step r r') (hfault : r'.pc ≠ .fault) :
    r'.toReceiver = r.toReceiver ∨ r.toReceiver.read = some r'.toReceiver := by
  cases h with
  | rejected hpc _ hstatus => exact .inr (by simp [Receiver.read, toReceiver, hpc, hstatus])
  | entered hpc _ hstatus => exact .inr (by simp [Receiver.read, toReceiver, hpc, hstatus])
  | ready hpc hne =>
    have hready := r.rQueue.ready_iff.mpr hne
    exact .inr (by simp [Receiver.read, toReceiver, hpc, hready])
  | pop hpc =>
    refine .inr ?_
    cases hp : r.rQueue.take.1.join with
    | some p => simp [Receiver.read, toReceiver, popInto, hpc, hp]
    | none => simp [Receiver.read, toReceiver, popInto, hpc, hp]
  | found hpc => exact .inl (by simp [toReceiver, hpc])
  | null hpc => exact .inl (by simp [toReceiver, hpc])
  | copied hpc => exact .inr (by simp [Receiver.read, toReceiver, hpc])
  | closed hpc _ hstatus => exact .inr (by simp [Receiver.read, toReceiver, hpc, hstatus])
  | skipped hpc _ hstatus => exact .inr (by simp [Receiver.read, toReceiver, hpc, hstatus])
  | flush hpc hne =>
    have hsize := List.length_pos_iff.mpr hne
    exact .inr (by simp [Receiver.read, toReceiver, EventQueue.size, hpc, hsize])
  | flushed hpc hempty =>
    exact .inr (by simp [Receiver.read, toReceiver, EventQueue.size, hpc, hempty])
  | flushReady hpc hne =>
    have hready := r.rQueue.ready_iff.mpr hne
    exact .inr (by simp [Receiver.read, toReceiver, hpc, hready])
  | flushPop hpc => exact .inr (by simp [Receiver.read, toReceiver, popInto, hpc])
  | flushFound hpc => exact .inl (by simp [toReceiver, hpc])
  | flushNull hpc => exact .inl (by simp [toReceiver, hpc])
  | flushCopied hpc => exact .inl (by simp [toReceiver, hpc])
  | fault => exact absurd rfl hfault

/-! ### What the call has taken -/

/-- The call has met `k` sentinels and the driver was open each time. -/
def Skipped (r : ReadCall) (k : ℕ) : Prop :=
  r.taken = List.replicate k none ∧ r.rechecks = List.replicate k .opened

/-- The call has met a sentinel and the driver was not open. -/
def Flushing (r : ReadCall) : Prop :=
  ∃ k rest s, r.taken = List.replicate (k + 1) none ++ rest ∧
    r.rechecks = List.replicate k .opened ++ [s] ∧ s ≠ .opened

/-- What has happened at each point of the call. -/
def Phase (r : ReadCall) : ReadPoint → Prop
  | .check => False
  | .poll => ∃ k, r.Skipped k
  | .pop => r.rQueue.events ≠ [] ∧ ∃ k, r.Skipped k
  | .test inFrame =>
    ∃ k, r.taken = List.replicate k none ++ [inFrame] ∧ r.rechecks = List.replicate k .opened
  | .copy inFrame =>
    ∃ p k, inFrame = some p ∧ r.taken = List.replicate k none ++ [some p] ∧
      r.rechecks = List.replicate k .opened
  | .recheck =>
    ∃ k, r.taken = List.replicate (k + 1) none ∧ r.rechecks = List.replicate k .opened
  | .flush => r.Flushing
  | .flushPoll | .flushPop => r.rQueue.events ≠ [] ∧ r.Flushing
  | .flushTest _ => r.Flushing
  | .flushCopy inFrame => inFrame ≠ none ∧ r.Flushing
  | .ended (.returned p) =>
    r.frame = p.frame ∧ ∃ k, r.taken = List.replicate k none ++ [some p] ∧
      r.rechecks = List.replicate k .opened
  | .ended (.raised e) => e = .invalidState ∧ r.rQueue.events = [] ∧ r.Flushing
  | .fault => False

end ReadCall

/-- The thread has the driver's mutex. -/
def ReadPoint.holds : ReadPoint → Bool
  | flush | flushPoll | flushPop | flushTest _ | flushCopy _ => true
  | _ => false

namespace ReadCall

variable {r r' : ReadCall} {events : List (Option FramePtr)}

/-- The call that found `events` in the queue is on its way. -/
structure Reading (events : List (Option FramePtr)) (r : ReadCall) : Prop where
  order : events ++ r.offered = r.taken ++ r.rQueue.events
  mutex : r.mutex = some .reader ↔ r.pc.holds = true
  phase : r.Phase r.pc

lemma Reading.goto {pc : ReadPoint} (h : Reading events r) (hholds : pc.holds = r.pc.holds)
    (hphase : r.Phase pc) : Reading events { r with pc := pc } :=
  ⟨h.order, by rw [h.mutex, hholds], hphase⟩

/-- What `popInto` takes from a queue that is not empty. -/
lemma popInto_of_cons (next : Option FramePtr → ReadPoint) {e : Option FramePtr}
    {rest : List (Option FramePtr)} (h : r.rQueue.events = e :: rest) :
    (r.popInto next).pc = next e ∧ (r.popInto next).taken = r.taken ++ [e] ∧
      (r.popInto next).rQueue.events = rest := by
  obtain ⟨hfirst, hrest, -⟩ := EventQueue.take_of_cons h
  refine ⟨?_, ?_, hrest⟩
  · simp only [popInto, hfirst, Option.join_some]
  · simp only [popInto, hfirst, Option.toList_some]

lemma Reading.popInto {next : Option FramePtr → ReadPoint} (h : Reading events r)
    (hne : r.rQueue.events ≠ []) (hholds : ∀ e, (next e).holds = r.pc.holds)
    (hphase : ∀ e, (r.popInto next).taken = r.taken ++ [e] → (r.popInto next).Phase (next e)) :
    Reading events (r.popInto next) := by
  obtain ⟨e, rest, hevents⟩ := List.exists_cons_of_ne_nil hne
  obtain ⟨hpc, htaken, hrest⟩ := popInto_of_cons next hevents
  refine ⟨?_, ?_, ?_⟩
  · rw [htaken, hrest, List.append_assoc, List.singleton_append, ← hevents]
    exact h.order
  · rw [hpc, hholds]
    exact h.mutex
  · rw [hpc]
    exact hphase e htaken

lemma Flushing.taken {e : Option FramePtr} (h : r.Flushing) (htaken : r'.taken = r.taken ++ [e])
    (hrechecks : r'.rechecks = r.rechecks) : r'.Flushing := by
  obtain ⟨k, rest, s, htaken', hrechecks', hs⟩ := h
  exact ⟨k, rest ++ [e], s, by rw [htaken, htaken', List.append_assoc], hrechecks ▸ hrechecks', hs⟩

/-- The thread in `read` keeps to the phases, and never comes to a fault. -/
lemma Reading.read (h : Reading events r) (hstep : Step r r') : Reading events r' := by
  have hmutex := h.mutex
  have hphase := h.phase
  cases hstep with
  | rejected hpc =>
    rw [hpc] at hphase
    exact hphase.elim
  | entered hpc =>
    rw [hpc] at hphase
    exact hphase.elim
  | ready hpc hne =>
    rw [hpc] at hphase
    exact h.goto (by rw [hpc]; rfl) ⟨hne, hphase⟩
  | pop hpc =>
    rw [hpc] at hphase
    obtain ⟨hne, k, htaken, hrechecks⟩ := hphase
    refine h.popInto hne (fun _ => by rw [hpc]; rfl) fun e htaken' => ⟨k, ?_, hrechecks⟩
    rw [htaken', htaken]
  | found hpc =>
    rw [hpc] at hphase
    obtain ⟨k, htaken, hrechecks⟩ := hphase
    exact h.goto (by rw [hpc]; rfl) ⟨_, k, rfl, htaken, hrechecks⟩
  | null hpc =>
    rw [hpc] at hphase
    obtain ⟨k, htaken, hrechecks⟩ := hphase
    refine h.goto (by rw [hpc]; rfl) ⟨k, ?_, hrechecks⟩
    rw [htaken, List.replicate_succ']
  | copied hpc =>
    rw [hpc] at hphase hmutex
    obtain ⟨p, k, hp, htaken, hrechecks⟩ := hphase
    cases hp
    exact ⟨h.order, hmutex, rfl, k, htaken, hrechecks⟩
  | closed hpc _ hstatus =>
    rw [hpc] at hphase
    obtain ⟨k, htaken, hrechecks⟩ := hphase
    refine ⟨h.order, iff_of_true rfl rfl, k, [], r.status, ?_, ?_, hstatus⟩
    · rw [htaken, List.append_nil]
    · rw [hrechecks]
  | skipped hpc _ hstatus =>
    rw [hpc] at hphase hmutex
    obtain ⟨k, htaken, hrechecks⟩ := hphase
    refine ⟨h.order, hmutex, k + 1, htaken, ?_⟩
    simp only [hrechecks, hstatus, List.replicate_succ']
  | flush hpc hne =>
    rw [hpc] at hphase
    exact h.goto (by rw [hpc]; rfl) ⟨hne, hphase⟩
  | flushed hpc hempty =>
    rw [hpc] at hphase
    exact ⟨h.order, iff_of_false (by simp) (by simp [ReadPoint.holds]), rfl, hempty, hphase⟩
  | flushReady hpc _ =>
    rw [hpc] at hphase
    exact h.goto (by rw [hpc]; rfl) hphase
  | flushPop hpc =>
    rw [hpc] at hphase
    exact h.popInto hphase.1 (fun _ => by rw [hpc]; rfl) fun e htaken => hphase.2.taken htaken rfl
  | flushFound hpc =>
    rw [hpc] at hphase
    exact h.goto (by rw [hpc]; rfl) ⟨by simp, hphase⟩
  | flushNull hpc =>
    rw [hpc] at hphase
    exact h.goto (by rw [hpc]; rfl) hphase
  | flushCopied hpc =>
    rw [hpc] at hphase hmutex
    exact ⟨h.order, hmutex, hphase.2⟩
  | fault hpc =>
    obtain hpc | hpc := hpc
    · rw [hpc] at hphase
      obtain ⟨p, k, hp, -⟩ := hphase
      cases hp
    · rw [hpc] at hphase
      exact absurd rfl hphase.1

lemma Reading.offer {element : Option FramePtr} (h : Reading events r) (hactive : r.isOver = false)
    (hroom : r.rQueue.events.length < r.rQueue.cap) :
    Reading events { r with
      rQueue := r.rQueue.push element hroom, offered := r.offered ++ [element] } := by
  have hphase := h.phase
  refine ⟨?_, h.mutex, ?_⟩
  · rw [EventQueue.events_push, ← List.append_assoc, ← List.append_assoc, h.order]
  · dsimp only
    cases hpc : r.pc with
    | ended how =>
      rw [isOver, hpc] at hactive
      cases hactive
    | pop | flushPoll | flushPop =>
      rw [hpc] at hphase
      exact ⟨List.append_ne_nil_of_left_ne_nil hphase.1 _, hphase.2⟩
    | check | poll | test | copy | recheck | flush | flushTest | flushCopy | fault =>
      rw [hpc] at hphase
      exact hphase

/-- Whatever the others do in between, the call keeps to the phases. -/
lemma Reading.move {l : ReadLabel} (h : Reading events r) (hactive : r.isOver = false)
    (hmove : Move r l r') : Reading events r' := by
  cases hmove with
  | read hstep => exact h.read hstep
  | lock hfree =>
    refine ⟨h.order, iff_of_false (by simp) fun hholds => ?_, h.phase⟩
    rw [h.mutex.mpr hholds] at hfree
    cases hfree
  | unlock hother =>
    refine ⟨h.order, iff_of_false (by simp) fun hholds => ?_, h.phase⟩
    rw [h.mutex.mpr hholds] at hother
    cases hother
  | setStatus => exact ⟨h.order, h.mutex, h.phase⟩
  | offered hroom => exact h.offer hactive hroom
  | refused => exact h

end ReadCall

end HdmiCec
