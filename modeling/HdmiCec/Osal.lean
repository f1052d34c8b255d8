import HdmiCec.Frame

/-!
# The operating system layer

`EventQueue` with its condition variable, and the state of a `Stoppable`.

A queue carries the invariant that its condition is set exactly when it holds an event, and that it
is within its capacity; every operation keeps it.
-/

namespace HdmiCec

open Lib

/-! ### Event queues -/

/-- `EventQueue<E>`: the events, the capacity and the state of the condition variable. -/
structure EventQueue (E : Type) where
  events : List E
  cap : ℕ
  cond : Bool
  cond_eq : cond = !events.isEmpty
  length_le : events.length ≤ cap
deriving DecidableEq

namespace EventQueue

variable {E : Type}

/-- The constructor with the default capacity. -/
def empty : EventQueue E := ⟨[], 32, false, rfl, Nat.zero_le _⟩

/-- `size()`. -/
def size (q : EventQueue E) : ℕ := q.events.length

/-- The queue with one event more. -/
def push (q : EventQueue E) (element : E) (h : q.events.length < q.cap) : EventQueue E where
  events := q.events ++ [element]
  cap := q.cap
  cond := true
  cond_eq := by simp
  length_le := by
    rw [List.length_append, List.length_singleton]
    exact h

/-- `offer(element)`: a full queue refuses. -/
def offer (q : EventQueue E) (element : E) : Ccec (EventQueue E) :=
  if h : q.events.length = q.cap then
    .raise .osalInvalidState
  else
    pure (q.push element (Nat.lt_of_le_of_ne q.length_le h))

/-- What `poll()` waits for before it takes the lock: `cond.wait()` returns once the condition is
set. -/
def ready (q : EventQueue E) : Bool := q.cond

/-- The part of `poll()` under the lock. Between the wait and the lock another thread may have taken
the last event and reset the condition; then the default value is returned. -/
def take (q : EventQueue E) : Option E × EventQueue E :=
  match h : q.events with
  | [] => (none, q)
  | front :: rest =>
    (some front,
      { events := rest
        cap := q.cap
        cond := if rest.isEmpty then false else q.cond
        cond_eq := by
          have hcond : q.cond = true := by rw [q.cond_eq, h]; rfl
          cases rest <;> simp [hcond]
        length_le := by
          have hle := q.length_le
          rw [h, List.length_cons] at hle
          omega })

/-! #### What the operations do -/

lemma ready_iff (q : EventQueue E) : q.ready = true ↔ q.events ≠ [] := by
  rw [ready, q.cond_eq]
  simp

@[simp] lemma events_push (q : EventQueue E) (e : E) (h : q.events.length < q.cap) :
    (q.push e h).events = q.events ++ [e] := rfl

/-- An event is queued behind the others unless the queue is full. -/
lemma result_offer_of_lt {q : EventQueue E} {e : E} (h : q.events.length < q.cap) :
    (q.offer e).result = .ok (q.push e h) := by
  simp only [offer, dif_neg (Nat.ne_of_lt h)]
  rfl

lemma result_offer_of_eq {q : EventQueue E} {e : E} (h : q.events.length = q.cap) :
    (q.offer e).result = .error .osalInvalidState := by
  simp only [offer, dif_pos h]
  rfl

/-- `offer` queues the event, or finds the queue full and raises. -/
lemma offer_cases (q : EventQueue E) (e : E) :
    (∃ h, (q.offer e).result = .ok (q.push e h)) ∨
      (q.events.length = q.cap ∧ (q.offer e).result = .error .osalInvalidState) := by
  rcases Nat.lt_or_eq_of_le q.length_le with hlt | hfull
  · exact .inl ⟨hlt, result_offer_of_lt hlt⟩
  · exact .inr ⟨hfull, result_offer_of_eq hfull⟩

/-- A queue gives its first event, and the rest stays in order. -/
lemma take_of_cons {q : EventQueue E} {e : E} {rest : List E} (h : q.events = e :: rest) :
    q.take.1 = some e ∧ q.take.2.events = rest ∧ q.take.2.cap = q.cap := by
  unfold take
  split
  · rename_i hnil
    rw [h] at hnil
    cases hnil
  · rename_i front tail hcons
    rw [h, List.cons.injEq] at hcons
    obtain ⟨rfl, rfl⟩ := hcons
    exact ⟨rfl, rfl, rfl⟩

lemma take_of_nil {q : EventQueue E} (h : q.events = []) : q.take = (none, q) := by
  unfold take
  split
  · rfl
  · rename_i hcons
    rw [h] at hcons
    cases hcons

@[simp] lemma cap_take (q : EventQueue E) : q.take.2.cap = q.cap := by
  cases h : q.events with
  | nil => rw [take_of_nil h]
  | cons e rest => exact (take_of_cons h).2.2

end EventQueue

/-! ### Stoppable -/

/-- The state of a `Stoppable`. -/
inductive StopState where
  | running
  | stopping
  | stopped
deriving DecidableEq, Repr

namespace StopState

def isRunning (s : StopState) : Bool := s = running

def isStopped (s : StopState) : Bool := s = stopped

/-- `runStarted()`. -/
def runStarted (_ : StopState) : StopState := running

/-- `stopStarted()`. -/
def stopStarted (s : StopState) : StopState := if s = running then stopping else s

/-- `stopCompleted()`. -/
def stopCompleted (_ : StopState) : StopState := stopped

end StopState

end HdmiCec
