import Mathlib.Logic.Function.Basic
import HdmiCec.Lib.Fifo
import HdmiCec.Lib.Transition
import HdmiCec.Osal

/-!
# The event queue under concurrent callers

`EventQueue` as the threads execute it: any number of threads in `offer`, `poll` and `size`, with
the queue's mutex and one step for each access to the deque or to the condition variable. `poll`
waits for the condition before it takes the mutex, so the condition may have changed when it looks
again.

The sections under the mutex are shown to act like the operations of `EventQueue`, one after the
other in the order in which they release it, and these like a bounded first-in-first-out queue.
-/

namespace HdmiCec

open Lib

/-! ### The threads -/

/-- A call that is over: an `offer` that returned or threw, a `poll` with what it took from the
deque and what it returned (`none` stands for a variable `front` that was never assigned), a `size`.
-/
inductive QueueCall (E : Type) where
  | offered (element : E)
  | raised (element : E) (e : Exn)
  | polled (popped returned : Option E)
  | sized (n : ℕ)
deriving DecidableEq

/-- The points of a thread in the functions of an `EventQueue`. -/
inductive QueuePC (E : Type) where
  /-- in none of them -/
  | idle
  /-- in `offer`, before the mutex is taken -/
  | offerLock (element : E)
  /-- at `if (events->size() == cap)` -/
  | offerTest (element : E)
  /-- before `events->push_back(element)` -/
  | offerPush (element : E)
  /-- before `cond.set()` -/
  | offerSet (element : E)
  /-- before `cond.notifyAll()` -/
  | offerNotify (element : E)
  /-- in `poll`, in `cond.wait()` -/
  | pollWait
  /-- in `poll`, before the mutex is taken -/
  | pollLock
  /-- at `!cond.isSet()` -/
  | pollIsSet
  /-- at `events->empty()` after it -/
  | pollEmpty
  /-- at the second `if (cond.isSet())` -/
  | pollIsSetAgain
  /-- at `if (!events->empty())` -/
  | pollEmptyAgain
  /-- before `front = events->front()` -/
  | pollFront
  /-- before `events->pop_front()` -/
  | pollPop (front : E)
  /-- at `if (events->empty())` after it -/
  | pollLast (popped : Option E) (front : E)
  /-- before `cond.reset()` -/
  | pollReset (popped front : Option E)
  /-- in `size`, before the mutex is taken -/
  | sizeLock
  /-- before `events->size()` -/
  | sizeRead
  /-- before the mutex is released -/
  | unlock (call : QueueCall E)
deriving DecidableEq

/-- An event queue with the threads in its functions. -/
structure SharedQueue (E : Type) where
  events : List E
  cap : ℕ
  /-- the state of the condition variable -/
  cond : Bool
  /-- the thread that holds the mutex -/
  mutex : Option ℕ
  threads : ℕ → QueuePC E
  /-- the calls that are over, in the order in which they released the mutex -/
  log : List (QueueCall E)

namespace SharedQueue

variable {E : Type}

/-- `EventQueue(cap)`. -/
def new (cap : ℕ) : SharedQueue E := ⟨[], cap, false, none, fun _ => .idle, []⟩

/-- Thread `i` goes to `pc`. -/
def goto (s : SharedQueue E) (i : ℕ) (pc : QueuePC E) : SharedQueue E :=
  { s with threads := Function.update s.threads i pc }

/-- Thread `i` takes the mutex and goes to `pc`. `none`: it has to wait. -/
def lock (s : SharedQueue E) (i : ℕ) (pc : QueuePC E) : Option (SharedQueue E) :=
  match s.mutex with
  | none => some ({ s with mutex := some i }.goto i pc)
  | some _ => none

/-- Thread `i` releases the mutex and its call is over. -/
def release (s : SharedQueue E) (i : ℕ) (call : QueueCall E) : SharedQueue E :=
  { s with mutex := none, log := s.log ++ [call] }.goto i .idle

variable [Inhabited E]

/-- The step of thread `i` at `pc`. `none`: it has to wait. -/
def advance (s : SharedQueue E) (i : ℕ) : QueuePC E → Option (SharedQueue E)
  | .idle => none
  | .offerLock element => s.lock i (.offerTest element)
  | .offerTest element =>
    some (s.goto i (if s.events.length = s.cap then
      .unlock (.raised element .osalInvalidState) else .offerPush element))
  | .offerPush element =>
    some ({ s with events := s.events ++ [element] }.goto i (.offerSet element))
  | .offerSet element => some ({ s with cond := true }.goto i (.offerNotify element))
  | .offerNotify element =>
    -- `notifyAll` sets the condition once more
    some ({ s with cond := true }.goto i (.unlock (.offered element)))
  | .pollWait => if s.cond then some (s.goto i .pollLock) else none
  | .pollLock => s.lock i .pollIsSet
  | .pollIsSet =>
    some (s.goto i (if !s.cond then .unlock (.polled none (some default)) else .pollEmpty))
  | .pollEmpty =>
    some (s.goto i (if s.events.isEmpty then
      .unlock (.polled none (some default)) else .pollIsSetAgain))
  | .pollIsSetAgain =>
    some (s.goto i (if s.cond then .pollEmptyAgain else .unlock (.polled none none)))
  | .pollEmptyAgain =>
    some (s.goto i (if !s.events.isEmpty then .pollFront else .pollReset none none))
  | .pollFront => s.events.head?.map fun front => s.goto i (.pollPop front)
  | .pollPop front =>
    some ({ s with events := s.events.tail }.goto i (.pollLast s.events.head? front))
  | .pollLast popped front =>
    some (s.goto i (if s.events.isEmpty then
      .pollReset popped (some front) else .unlock (.polled popped (some front))))
  | .pollReset popped front =>
    some ({ s with cond := false }.goto i (.unlock (.polled popped front)))
  | .sizeLock => s.lock i .sizeRead
  | .sizeRead => some (s.goto i (.unlock (.sized s.events.length)))
  | .unlock call => some (s.release i call)

end SharedQueue

/-- The steps: thread `i` calls a function, or goes on in the one that it has called. -/
inductive QueueLabel (E : Type) where
  | offer (i : ℕ) (element : E)
  | poll (i : ℕ)
  | size (i : ℕ)
  | run (i : ℕ)

namespace SharedQueue

variable {E : Type}

/-- Thread `i` calls a function that starts at `pc`, if it is in none. -/
def call (s : SharedQueue E) (i : ℕ) (pc : QueuePC E) : Option (SharedQueue E) :=
  match s.threads i with
  | .idle => some (s.goto i pc)
  | _ => none

def step [Inhabited E] (s : SharedQueue E) : QueueLabel E → Option (SharedQueue E)
  | .offer i element => s.call i (.offerLock element)
  | .poll i => s.call i .pollWait
  | .size i => s.call i .sizeLock
  | .run i => s.advance i (s.threads i)

end SharedQueue

/-! ### The operations, one after the other -/

namespace EventQueue

variable {E : Type}

/-- `EventQueue(cap)`. -/
def new (cap : ℕ) : EventQueue E := ⟨[], cap, false, rfl, Nat.zero_le _⟩

/-- What a call of `offer`, `poll` or `size` on the queue `q` may report, and the queue after it. -/
inductive Call [Inhabited E] (q : EventQueue E) : QueueCall E → EventQueue E → Prop
  | offered {element : E} {q' : EventQueue E} :
      (q.offer element).result = .ok q' → Call q (.offered element) q'
  | raised {element : E} {e : Exn} :
      (q.offer element).result = .error e → Call q (.raised element e) q
  | popped {front : E} {q' : EventQueue E} :
      q.take = (some front, q') → Call q (.polled (some front) (some front)) q'
  | vacant {q' : EventQueue E} :
      q.take = (none, q') → Call q (.polled none (some default)) q'
  | sized : Call q (.sized q.size) q

/-- `Calls q₀ log q`: the calls of `log`, one after the other, lead from `q₀` to `q`. -/
inductive Calls [Inhabited E] (q₀ : EventQueue E) : List (QueueCall E) → EventQueue E → Prop
  | nil : Calls q₀ [] q₀
  | snoc {log : List (QueueCall E)} {q q' : EventQueue E} {call : QueueCall E} :
      Calls q₀ log q → Call q call q' → Calls q₀ (log ++ [call]) q'

end EventQueue

/-! ### The calls of a thread -/

/-- A call of a function of an `EventQueue`. -/
inductive QueueOp (E : Type) where
  | offer (element : E)
  | poll
  | size
deriving DecidableEq

def QueueCall.op {E : Type} : QueueCall E → QueueOp E
  | offered element | raised element _ => .offer element
  | polled _ _ => .poll
  | sized _ => .size

/-- The call that a thread is in. -/
def QueuePC.op {E : Type} : QueuePC E → Option (QueueOp E)
  | idle => none
  | offerLock element | offerTest element | offerPush element | offerSet element
  | offerNotify element => some (.offer element)
  | pollWait | pollLock | pollIsSet | pollEmpty | pollIsSetAgain | pollEmptyAgain | pollFront
  | pollPop _ | pollLast _ _ | pollReset _ _ => some .poll
  | sizeLock | sizeRead => some .size
  | unlock call => some call.op

/-- A bound for the steps of a thread in its call. -/
def QueuePC.left {E : Type} : QueuePC E → ℕ
  | idle => 0
  | unlock _ => 1
  | sizeRead | offerNotify _ | pollReset _ _ => 2
  | sizeLock | offerSet _ | pollLast _ _ => 3
  | offerPush _ | pollPop _ => 4
  | offerTest _ | pollFront => 5
  | offerLock _ | pollEmptyAgain => 6
  | pollIsSetAgain => 7
  | pollEmpty => 8
  | pollIsSet => 9
  | pollLock => 10
  | pollWait => 11

namespace SharedQueue

variable {E : Type} {s s' : SharedQueue E} {i : ℕ} {pc : QueuePC E}

lemma lock_eq_some (h : s.lock i pc = some s') :
    s.mutex = none ∧ s' = { s with mutex := some i }.goto i pc := by
  unfold lock at h
  split at h
  · rename_i hfree
    cases h
    exact ⟨hfree, rfl⟩
  · cases h

lemma call_eq_some (h : s.call i pc = some s') : s.threads i = .idle ∧ s' = s.goto i pc := by
  unfold call at h
  split at h
  · rename_i hidle
    cases h
    exact ⟨hidle, rfl⟩
  · cases h

@[simp] lemma threads_goto (s : SharedQueue E) (i : ℕ) (pc : QueuePC E) :
    (s.goto i pc).threads i = pc := Function.update_self ..

@[simp] lemma threads_release (s : SharedQueue E) (i : ℕ) (call : QueueCall E) :
    (s.release i call).threads i = .idle := Function.update_self ..

variable [Inhabited E]

/-- A step of a thread brings it nearer to the end of its call. -/
lemma left_advance (h : s.advance i pc = some s') : (s'.threads i).left < pc.left := by
  cases pc with
  | idle => cases h
  | offerLock | pollLock | sizeLock =>
    obtain ⟨-, rfl⟩ := lock_eq_some h
    simp [QueuePC.left]
  | pollWait =>
    simp only [advance] at h
    split at h
    · cases h
      simp [QueuePC.left]
    · cases h
  | pollFront =>
    obtain ⟨front, -, rfl⟩ := Option.map_eq_some_iff.mp h
    simp [QueuePC.left]
  | offerTest | pollIsSet | pollEmpty | pollIsSetAgain | pollEmptyAgain | pollLast =>
    cases h
    rw [threads_goto]
    split <;> simp [QueuePC.left]
  | _ =>
    cases h
    simp [QueuePC.left]

/-- It stays in this call until it releases the mutex. -/
lemma op_advance (h : s.advance i pc = some s') :
    (s'.threads i).op = pc.op ∨ ∃ call, pc = .unlock call := by
  cases pc with
  | idle => cases h
  | offerLock | pollLock | sizeLock =>
    obtain ⟨-, rfl⟩ := lock_eq_some h
    simp [QueuePC.op]
  | pollWait =>
    simp only [advance] at h
    split at h
    · cases h
      simp [QueuePC.op]
    · cases h
  | pollFront =>
    obtain ⟨front, -, rfl⟩ := Option.map_eq_some_iff.mp h
    simp [QueuePC.op]
  | offerTest | pollIsSet | pollEmpty | pollIsSetAgain | pollEmptyAgain | pollLast =>
    cases h
    rw [threads_goto]
    split <;> exact .inl rfl
  | unlock call => exact .inr ⟨call, rfl⟩
  | _ =>
    cases h
    rw [threads_goto]
    exact .inl rfl

end SharedQueue

/-! ### A section under the mutex -/

/-- The thread is between taking and releasing the mutex. -/
def QueuePC.inSection {E : Type} : QueuePC E → Bool
  | idle | offerLock _ | pollWait | pollLock | sizeLock => false
  | _ => true

namespace SharedQueue

variable {E : Type} [Inhabited E]

/-- How far a section has come that found the queue `q`: the deque and the condition at each point
of the thread that holds the mutex. -/
def Phase (q : EventQueue E) (events : List E) (cond : Bool) : QueuePC E → Prop
  | .offerTest _ | .pollIsSet | .sizeRead => events = q.events ∧ cond = q.cond
  | .offerPush _ => events = q.events ∧ cond = q.cond ∧ q.events.length < q.cap
  | .offerSet element =>
    events = q.events ++ [element] ∧ cond = q.cond ∧ q.events.length < q.cap
  | .offerNotify element =>
    events = q.events ++ [element] ∧ cond = true ∧ q.events.length < q.cap
  | .pollEmpty => events = q.events ∧ cond = q.cond ∧ q.cond = true
  | .pollIsSetAgain | .pollEmptyAgain | .pollFront =>
    events = q.events ∧ cond = q.cond ∧ q.events ≠ []
  | .pollPop front => events = q.events ∧ cond = q.cond ∧ ∃ rest, q.events = front :: rest
  | .pollLast popped front => popped = some front ∧ cond = q.cond ∧ q.events = front :: events
  | .pollReset popped front =>
    ∃ v, popped = some v ∧ front = some v ∧ events = [] ∧ cond = q.cond ∧ q.events = [v]
  | .unlock call => ∃ q', q.Call call q' ∧ events = q'.events ∧ cond = q'.cond ∧ q'.cap = q.cap
  | .idle | .offerLock _ | .pollWait | .pollLock | .sizeLock => False

variable {q : EventQueue E} {s s' : SharedQueue E} {i : ℕ}

lemma phase_offerTest {element : E} (h : Phase q s.events s.cond (.offerTest element))
    (hcap : q.cap = s.cap) :
    Phase q s.events s.cond (if s.events.length = s.cap then
      .unlock (.raised element .osalInvalidState) else .offerPush element) := by
  obtain ⟨hevents, hcond⟩ := h
  split
  · rename_i hfull
    rw [hevents, ← hcap] at hfull
    exact ⟨q, .raised (EventQueue.result_offer_of_eq hfull), hevents, hcond, rfl⟩
  · rename_i hroom
    rw [hevents, ← hcap] at hroom
    exact ⟨hevents, hcond, Nat.lt_of_le_of_ne q.length_le hroom⟩

lemma phase_offered {element : E} {cond : Bool}
    (h : Phase q s.events cond (.offerNotify element)) :
    Phase q s.events true (.unlock (.offered element)) := by
  obtain ⟨hevents, -, hroom⟩ := h
  exact ⟨q.push element hroom, .offered (EventQueue.result_offer_of_lt hroom), hevents, rfl, rfl⟩

lemma phase_vacant (hevents : s.events = q.events) (hcond : s.cond = q.cond)
    (hnil : q.events = []) : Phase q s.events s.cond (.unlock (.polled none (some default))) :=
  ⟨q, .vacant (EventQueue.take_of_nil hnil), hevents, hcond, rfl⟩

lemma phase_popped {front : E} {rest : List E} {cond : Bool} (hq : q.events = front :: rest)
    (hcond : cond = !rest.isEmpty) :
    Phase q rest cond (.unlock (.polled (some front) (some front))) := by
  obtain ⟨hfirst, hrest, hcap⟩ := EventQueue.take_of_cons hq
  refine ⟨q.take.2, .popped (Prod.ext hfirst rfl), hrest.symm, ?_, hcap⟩
  rw [hcond, q.take.2.cond_eq, hrest]

/-- A step of the thread that holds the mutex brings its section on, or ends it. -/
lemma phase_advance {pc : QueuePC E} (h : Phase q s.events s.cond pc) (hcap : q.cap = s.cap)
    (hstep : s.advance i pc = some s') :
    (∃ events cond pc', s' = { s with events := events, cond := cond }.goto i pc' ∧
      Phase q events cond pc') ∨
    ∃ call, pc = .unlock call ∧ s' = s.release i call := by
  cases pc with
  | idle => cases hstep
  | offerLock element => cases h
  | pollWait => cases h
  | pollLock => cases h
  | sizeLock => cases h
  | offerTest element =>
    cases hstep
    exact .inl ⟨_, _, _, rfl, phase_offerTest h hcap⟩
  | offerPush element =>
    cases hstep
    obtain ⟨hevents, hcond, hroom⟩ := h
    exact .inl ⟨_, _, _, rfl, by rw [hevents], hcond, hroom⟩
  | offerSet element =>
    cases hstep
    obtain ⟨hevents, -, hroom⟩ := h
    exact .inl ⟨_, _, _, rfl, hevents, rfl, hroom⟩
  | offerNotify element =>
    cases hstep
    exact .inl ⟨_, _, _, rfl, phase_offered h⟩
  | pollIsSet =>
    cases hstep
    obtain ⟨hevents, hcond⟩ := h
    refine .inl ⟨_, _, _, rfl, ?_⟩
    split
    · rename_i hreset
      apply phase_vacant hevents hcond
      simpa [hcond, q.cond_eq] using hreset
    · rename_i hset
      exact ⟨hevents, hcond, by simpa [hcond] using hset⟩
  | pollEmpty =>
    cases hstep
    obtain ⟨hevents, hcond, hset⟩ := h
    have hne : q.events ≠ [] := q.ready_iff.mp hset
    refine .inl ⟨_, _, _, rfl, ?_⟩
    rw [if_neg (by simpa [hevents] using hne)]
    exact ⟨hevents, hcond, hne⟩
  | pollIsSetAgain =>
    cases hstep
    obtain ⟨hevents, hcond, hne⟩ := h
    refine .inl ⟨_, _, _, rfl, ?_⟩
    rw [if_pos (by rw [hcond]; exact q.ready_iff.mpr hne)]
    exact ⟨hevents, hcond, hne⟩
  | pollEmptyAgain =>
    cases hstep
    obtain ⟨hevents, hcond, hne⟩ := h
    refine .inl ⟨_, _, _, rfl, ?_⟩
    rw [if_pos (by simpa [hevents] using hne)]
    exact ⟨hevents, hcond, hne⟩
  | pollFront =>
    obtain ⟨hevents, hcond, hne⟩ := h
    obtain ⟨front, rest, hq⟩ := List.exists_cons_of_ne_nil hne
    simp only [advance, hevents, hq, List.head?_cons, Option.map_some] at hstep
    cases hstep
    exact .inl ⟨_, _, _, rfl, hevents, hcond, rest, hq⟩
  | pollPop front =>
    cases hstep
    obtain ⟨hevents, hcond, rest, hq⟩ := h
    refine .inl ⟨_, _, _, rfl, ?_, hcond, ?_⟩
    · rw [hevents, hq, List.head?_cons]
    · rw [hevents, hq, List.tail_cons]
  | pollLast popped front =>
    cases hstep
    obtain ⟨rfl, hcond, hq⟩ := h
    refine .inl ⟨_, _, _, rfl, ?_⟩
    split
    · rename_i hnil
      rw [List.isEmpty_iff] at hnil
      exact ⟨front, rfl, rfl, hnil, hcond, by rw [hq, hnil]⟩
    · rename_i hne
      apply phase_popped hq
      have hset : q.cond = true := q.ready_iff.mpr (by simp [hq])
      rw [hcond, hset]
      simpa using hne
  | pollReset popped front =>
    cases hstep
    obtain ⟨v, rfl, rfl, hnil, -, hq⟩ := h
    refine .inl ⟨_, _, _, rfl, ?_⟩
    rw [hnil]
    exact phase_popped hq rfl
  | sizeRead =>
    cases hstep
    obtain ⟨hevents, hcond⟩ := h
    refine .inl ⟨_, _, _, rfl, q, ?_, hevents, hcond, rfl⟩
    rw [hevents]
    exact .sized
  | unlock call =>
    cases hstep
    exact .inr ⟨call, rfl, rfl⟩

/-- The thread that holds the mutex never has to wait. -/
lemma advance_of_phase {pc : QueuePC E} (h : Phase q s.events s.cond pc) (i : ℕ) :
    (s.advance i pc).isSome = true := by
  cases pc with
  | pollFront =>
    obtain ⟨hevents, -, hne⟩ := h
    obtain ⟨front, rest, hq⟩ := List.exists_cons_of_ne_nil hne
    simp [advance, hevents, hq]
  | idle | offerLock | pollWait | pollLock | sizeLock => cases h
  | _ => rfl

/-! ### The threads together -/

/-- What a step does: a thread moves outside the sections, it takes the mutex, or it goes on in its
section. -/
inductive Step (s : SharedQueue E) : SharedQueue E → Prop
  | outside {i : ℕ} {pc : QueuePC E} : (s.threads i).inSection = false → pc.inSection = false →
      Step s (s.goto i pc)
  | enter {i : ℕ} {pc : QueuePC E} : s.mutex = none →
      (∀ q, s.events = q.events → s.cond = q.cond → Phase q s.events s.cond pc) →
      Step s ({ s with mutex := some i }.goto i pc)
  | inside {i : ℕ} {s' : SharedQueue E} : (s.threads i).inSection = true →
      s.advance i (s.threads i) = some s' → Step s s'

lemma Step.of_call {pc : QueuePC E} (hpc : pc.inSection = false) (h : s.call i pc = some s') :
    Step s s' := by
  obtain ⟨hidle, rfl⟩ := call_eq_some h
  exact .outside (by rw [hidle]; rfl) hpc

lemma Step.of_lock {pc : QueuePC E} (h : s.lock i pc = some s')
    (hpc : ∀ q, s.events = q.events → s.cond = q.cond → Phase q s.events s.cond pc) :
    Step s s' := by
  obtain ⟨hfree, rfl⟩ := lock_eq_some h
  exact .enter hfree hpc

/-- Every step is one of these. -/
lemma Step.of_step {l : QueueLabel E} (h : s.step l = some s') : Step s s' := by
  cases l with
  | offer i element => exact .of_call rfl h
  | poll i => exact .of_call rfl h
  | size i => exact .of_call rfl h
  | run i =>
    change s.advance i (s.threads i) = some s' at h
    by_cases hin : (s.threads i).inSection = true
    · exact .inside hin h
    · generalize hpc : s.threads i = pc at h hin
      cases pc with
      | idle => cases h
      | offerLock element => exact .of_lock h fun _ hevents hcond => ⟨hevents, hcond⟩
      | pollLock => exact .of_lock h fun _ hevents hcond => ⟨hevents, hcond⟩
      | sizeLock => exact .of_lock h fun _ hevents hcond => ⟨hevents, hcond⟩
      | pollWait =>
        simp only [advance] at h
        split at h
        · cases h
          exact .outside (by rw [hpc]; rfl) rfl
        · cases h
      | _ => exact absurd rfl hin

/-- The queue with its threads behaves like `q`: the calls that are over were made of a queue of
capacity `cap` one after the other, and the section that is going on found `q` as they left it. -/
structure Refines (cap : ℕ) (s : SharedQueue E) (q : EventQueue E) : Prop where
  cap_eq : q.cap = s.cap
  calls : (EventQueue.new cap).Calls s.log q
  free : s.mutex = none → s.events = q.events ∧ s.cond = q.cond
  held : ∀ i, s.mutex = some i → Phase q s.events s.cond (s.threads i)
  excluded : ∀ i, (s.threads i).inSection = true → s.mutex = some i

variable {cap : ℕ}

lemma refines_new (cap : ℕ) : Refines cap (new cap : SharedQueue E) (.new cap) where
  cap_eq := rfl
  calls := .nil
  free _ := ⟨rfl, rfl⟩
  held i h := by cases h
  excluded i h := by cases h

lemma not_phase_of_not_inSection {events : List E} {cond : Bool} {pc : QueuePC E}
    (hpc : pc.inSection = false) : ¬Phase q events cond pc := by
  cases pc <;> simp_all [QueuePC.inSection, Phase]

/-- A thread that is outside the sections and stays outside changes nothing for the others. -/
lemma Refines.outside {pc : QueuePC E} (h : Refines cap s q)
    (hfrom : (s.threads i).inSection = false) (hto : pc.inSection = false) :
    Refines cap (s.goto i pc) q := by
  refine ⟨h.cap_eq, h.calls, h.free, ?_, ?_⟩
  · intro j hj
    have hheld := h.held j hj
    have hne : j ≠ i := by
      rintro rfl
      exact not_phase_of_not_inSection hfrom hheld
    simpa only [goto, Function.update_of_ne hne] using hheld
  · intro j hj
    by_cases hji : j = i
    · subst hji
      simp only [goto, Function.update_self, hto] at hj
      cases hj
    · simp only [goto, Function.update_of_ne hji] at hj
      exact h.excluded j hj

/-- The thread that takes the mutex is the only one in a section. -/
lemma Refines.enter {pc : QueuePC E} (h : Refines cap s q) (hfree : s.mutex = none)
    (hpc : Phase q s.events s.cond pc) :
    Refines cap ({ s with mutex := some i }.goto i pc) q := by
  refine ⟨h.cap_eq, h.calls, by simp [goto], ?_, ?_⟩
  · intro j hj
    cases hj
    simpa only [goto, Function.update_self] using hpc
  · intro j hj
    by_cases hji : j = i
    · rw [hji]
      rfl
    · simp only [goto, Function.update_of_ne hji] at hj
      rw [h.excluded j hj] at hfree
      cases hfree

lemma Refines.inside {events : List E} {cond : Bool} {pc : QueuePC E} (h : Refines cap s q)
    (hmutex : s.mutex = some i) (hpc : Phase q events cond pc) :
    Refines cap ({ s with events := events, cond := cond }.goto i pc) q := by
  refine ⟨h.cap_eq, h.calls, ?_, ?_, ?_⟩
  · intro hnone
    cases hmutex.symm.trans hnone
  · intro j hj
    cases hmutex.symm.trans hj
    simpa only [goto, Function.update_self] using hpc
  · intro j hj
    by_cases hji : j = i
    · rw [hji]
      exact hmutex
    · simp only [goto, Function.update_of_ne hji] at hj
      exact h.excluded j hj

/-- The section that releases the mutex adds its call to those that are over. -/
lemma Refines.release {call : QueueCall E} (h : Refines cap s q) (hmutex : s.mutex = some i)
    (hpc : Phase q s.events s.cond (.unlock call)) : ∃ q', Refines cap (s.release i call) q' := by
  obtain ⟨q', hcall, hevents, hcond, hcap⟩ := hpc
  refine ⟨q', hcap.trans h.cap_eq, h.calls.snoc hcall, fun _ => ⟨hevents, hcond⟩,
    by simp [SharedQueue.release, goto], ?_⟩
  intro j hj
  by_cases hji : j = i
  · subst hji
    simp only [SharedQueue.release, goto, Function.update_self] at hj
    cases hj
  · simp only [SharedQueue.release, goto, Function.update_of_ne hji] at hj
    cases hmutex.symm.trans (h.excluded j hj)
    exact absurd rfl hji

/-- One step keeps the threads in line with the queue. -/
theorem Refines.step {l : QueueLabel E} (h : Refines cap s q) (hstep : s.step l = some s') :
    ∃ q', Refines cap s' q' := by
  cases Step.of_step hstep with
  | outside hfrom hto => exact ⟨q, h.outside hfrom hto⟩
  | enter hfree hpc =>
    obtain ⟨hevents, hcond⟩ := h.free hfree
    exact ⟨q, h.enter hfree (hpc q hevents hcond)⟩
  | @inside i _ hin hadvance =>
    have hmutex := h.excluded i hin
    have hheld := h.held i hmutex
    obtain ⟨events, cond, pc, rfl, hpc⟩ | ⟨call, hpc, rfl⟩ :=
      phase_advance hheld h.cap_eq hadvance
    · exact ⟨q, h.inside hmutex hpc⟩
    · rw [hpc] at hheld
      exact h.release hmutex hheld

/-- In every run the threads behave like a queue whose operations are called one after the other. -/
theorem exists_refines_of_run {ok : SharedQueue E → QueueLabel E → Prop}
    (h : Run SharedQueue.step ok (new cap) s) : ∃ q, Refines cap s q := by
  apply h.invariant (I := fun s => ∃ q, Refines cap s q)
  · rintro s l s' - hstep ⟨q, hq⟩
    exact hq.step hstep
  · exact ⟨_, refines_new cap⟩

end SharedQueue

end HdmiCec
