import HdmiCec.System.Delivery
import Mathlib.Data.List.Nodup
import Mathlib.Data.List.TakeWhile

/-!
# Listeners that call the connection

`DefaultFrameListener::notify` with listeners that call the connection while they are notified. The
connection's mutex is recursive, so that a listener may add and remove listeners of the same
connection, or close it, while the loop of `notify` stands on the listener's own place in
`frameListeners`. The places of the list have an identity here: an iterator points to one of them,
and it cannot be advanced once that place has been removed.
-/

namespace HdmiCec

open Lib

/-! ### The list of listeners -/

/-- A place in `frameListeners`: its identity and the `FrameListener *` there. -/
structure ListenerNode where
  id : ℕ
  listener : ℕ
deriving DecidableEq

/-- `frameListeners` as a linked list. A new place is different from all places there have been. -/
structure NodeList where
  nodes : List ListenerNode
  nextId : ℕ
  nodup : (nodes.map ListenerNode.id).Nodup
  fresh : ∀ n ∈ nodes, n.id < nextId

namespace NodeList

/-- `push_back(listener)`. -/
def pushBack (l : NodeList) (listener : ℕ) : NodeList where
  nodes := l.nodes ++ [⟨l.nextId, listener⟩]
  nextId := l.nextId + 1
  nodup := by
    have hnew : ∀ n ∈ l.nodes, n.id ≠ l.nextId := fun n hn => Nat.ne_of_lt (l.fresh n hn)
    rw [List.map_append, List.nodup_append]
    refine ⟨l.nodup, List.nodup_singleton _, ?_⟩
    simpa using hnew
  fresh := by
    intro n hn
    obtain hn | hn := List.mem_append.mp hn
    · exact Nat.lt_succ_of_lt (l.fresh n hn)
    · rw [List.mem_singleton.mp hn]
      exact Nat.lt_succ_self _

/-- `remove(listener)`: every place with this listener. -/
def remove (l : NodeList) (listener : ℕ) : NodeList where
  nodes := l.nodes.filter (·.listener ≠ listener)
  nextId := l.nextId
  nodup := l.nodup.sublist (List.filter_sublist.map _)
  fresh n hn := l.fresh n (List.mem_filter.mp hn).1

/-- `clear()`. -/
def clear (l : NodeList) : NodeList := ⟨[], l.nextId, List.nodup_nil, by simp⟩

/-- `begin()`; `none` is `end()`. -/
def begin (l : NodeList) : Option ℕ := l.nodes.head?.map ListenerNode.id

/-- `list_it++`: where the iterator at the place `id` points to then. `none`: there is no such
place. -/
def next (l : NodeList) (id : ℕ) : Option (Option ℕ) :=
  match l.nodes.dropWhile (·.id ≠ id) with
  | [] => none
  | _ :: rest => some (rest.head?.map ListenerNode.id)

/-- `*list_it`. -/
def deref (l : NodeList) (id : ℕ) : Option ListenerNode := l.nodes.find? (·.id = id)

/-- The listeners, in order. -/
def listeners (l : NodeList) : List ℕ := l.nodes.map ListenerNode.listener

@[simp] lemma listeners_pushBack (l : NodeList) (listener : ℕ) :
    (l.pushBack listener).listeners = l.listeners ++ [listener] := by
  simp [listeners, pushBack]

@[simp] lemma listeners_remove (l : NodeList) (listener : ℕ) :
    (l.remove listener).listeners = l.listeners.filter (· ≠ listener) := by
  simp [listeners, remove, List.filter_map, Function.comp_def]

variable {l : NodeList} {n : ListenerNode} {before after : List ListenerNode}

lemma id_ne_of_split (h : l.nodes = before ++ n :: after) : ∀ m ∈ before, m.id ≠ n.id := by
  have hnodup := l.nodup
  rw [h, List.map_append, List.nodup_append] at hnodup
  intro m hm
  exact hnodup.2.2 m.id (List.mem_map_of_mem hm) n.id (by simp)

lemma dropWhile_of_split (h : l.nodes = before ++ n :: after) :
    l.nodes.dropWhile (·.id ≠ n.id) = n :: after := by
  have hbefore : ∀ m ∈ before, decide (m.id ≠ n.id) = true := by
    simpa using id_ne_of_split h
  rw [h, List.dropWhile_append_of_pos hbefore]
  simp

lemma deref_of_split (h : l.nodes = before ++ n :: after) : l.deref n.id = some n := by
  have hbefore : before.find? (·.id = n.id) = none := by
    simpa using id_ne_of_split h
  rw [deref, h, List.find?_append, hbefore]
  simp

lemma next_of_split (h : l.nodes = before ++ n :: after) :
    l.next n.id = some (after.head?.map ListenerNode.id) := by
  rw [next, dropWhile_of_split h]

/-- An iterator whose place is gone cannot be advanced. -/
lemma next_of_removed {id : ℕ} (h : ∀ n ∈ l.nodes, n.id ≠ id) : l.next id = none := by
  have hdrop : l.nodes.dropWhile (·.id ≠ id) = [] := by
    simpa [List.dropWhile_eq_nil_iff] using h
  rw [next, hdrop]

end NodeList

/-! ### The mutex of the connection -/

/-- A mutex of the type `PTHREAD_MUTEX_RECURSIVE_NP`: the thread that has it, and how often. -/
structure RecursiveMutex where
  owner : Option ℕ
  depth : ℕ
deriving DecidableEq

namespace RecursiveMutex

def free : RecursiveMutex := ⟨none, 0⟩

/-- `lock()`; `none`: the thread waits. -/
def lock (m : RecursiveMutex) (thread : ℕ) : Option RecursiveMutex :=
  match m.owner with
  | none => some ⟨some thread, 1⟩
  | some owner => if owner = thread then some ⟨some thread, m.depth + 1⟩ else none

/-- `unlock()`, by the owner. -/
def unlock (m : RecursiveMutex) : RecursiveMutex :=
  if m.depth ≤ 1 then free else ⟨m.owner, m.depth - 1⟩

end RecursiveMutex

/-! ### The loop -/

/-- The points of the thread in `notify`, under `lock_`. -/
inductive NotifyPC where
  /-- at `if (!filter.isFiltered(frame))` -/
  | filter
  /-- at `list_it != frameListeners.end()` -/
  | test (it : Option ℕ)
  /-- in `(*list_it)->notify(frame)` -/
  | call (id listener : ℕ)
  /-- before `list_it++` -/
  | advance (id : ℕ)
  /-- the loop is over -/
  | done
  /-- the frame was not for this connection -/
  | filtered
  /-- the filter or a listener has thrown -/
  | raised (e : Exn)
  /-- an iterator was used whose place is not there any more -/
  | dangling
deriving DecidableEq

/-- The listener that is being notified. -/
def NotifyPC.current : NotifyPC → Option ℕ
  | .call _ listener => some listener
  | .filter | .test _ | .advance _ | .done | .filtered | .raised _ | .dangling => none

/-- `notify` is at its end. -/
def NotifyPC.ended : NotifyPC → Bool
  | .done | .filtered | .raised _ => true
  | .filter | .test _ | .call _ _ | .advance _ | .dangling => false

/-- A call of `notify(frame)`, with the places whose listeners have been notified, in order. -/
structure Dispatch where
  /-- the thread that is in `notify` -/
  thread : ℕ
  mutex : RecursiveMutex
  busFrameFilter : LogicalAddress
  frame : CECFrame
  frameListeners : NodeList
  pc : NotifyPC
  notified : List ListenerNode

/-- The functions of the connection that change `frameListeners`. -/
inductive ListCall where
  | addFrameListener (listener : ℕ)
  | removeFrameListener (listener : ℕ)
  | close
deriving DecidableEq

/-- What the function does under `lock_`. -/
def ListCall.apply : ListCall → NodeList → NodeList
  | .addFrameListener listener, l => l.pushBack listener
  | .removeFrameListener listener, l => l.remove listener
  | .close, l => l.clear

/-- The function on a connection of the application. -/
def ListCall.onConn : ListCall → World → ℕ → Option World
  | .addFrameListener listener, w, id => w.addFrameListener id listener
  | .removeFrameListener listener, w, id => w.removeFrameListener id listener
  | .close, w, id => w.closeConn id

/-- The places of the list hold the listeners of the connection before and after the call. -/
theorem ListCall.apply_refines (f : ListCall) {w w' : World} {id : ℕ} {c : Conn} {l : NodeList}
    (hc : w.conns id = .live c) (hl : l.listeners = c.frameListeners)
    (h : f.onConn w id = some w') :
    ∃ c', w'.conns id = .live c' ∧ (f.apply l).listeners = c'.frameListeners := by
  cases f with
  | addFrameListener listener =>
    simp only [onConn, World.addFrameListener, World.onLive, hc, Option.some.injEq] at h
    subst h
    refine ⟨{ c with frameListeners := c.frameListeners ++ [listener] }, ?_, ?_⟩
    · simp [World.record, World.put]
    · rw [apply, NodeList.listeners_pushBack, hl]
  | removeFrameListener listener =>
    simp only [onConn, World.removeFrameListener, World.onLive, hc, Option.some.injEq] at h
    subst h
    refine ⟨{ c with frameListeners := c.frameListeners.filter (· ≠ listener) }, ?_, ?_⟩
    · simp [World.record, World.put]
    · rw [apply, NodeList.listeners_remove, hl]
  | close =>
    simp only [onConn, World.closeConn, World.onLive, hc] at h
    refine ⟨{ c with frameListeners := [] }, ?_, rfl⟩
    split at h
    · cases h
    · split at h
      · obtain rfl := Option.some.inj h
        simp [World.record, World.put]
      · obtain rfl := Option.some.inj h
        simp [World.record, World.put]

/-- The call removes the places of the listener. -/
def ListCall.removes : ListCall → ℕ → Bool
  | .addFrameListener _, _ => false
  | .removeFrameListener listener, current => listener = current
  | .close, _ => true

/-- The steps: the loop goes on; a thread calls the connection; the listener that is being notified
returns, or throws. -/
inductive NotifyLabel where
  | loop
  | call (thread : ℕ) (f : ListCall)
  | ret
  | throw (e : Exn)
deriving DecidableEq

namespace Dispatch

/-- `notify(frame)` in a thread that has just taken the mutex. -/
def start (thread : ℕ) (busFrameFilter : LogicalAddress) (frame : CECFrame)
    (frameListeners : NodeList) : Dispatch :=
  ⟨thread, ⟨some thread, 1⟩, busFrameFilter, frame, frameListeners, .filter, []⟩

/-- The step of the loop. -/
def loop (d : Dispatch) : Option Dispatch :=
  match d.pc with
  | .filter =>
    match (Connection.isFiltered d.busFrameFilter d.frame).result with
    | .ok filtered =>
      some { d with pc := if !filtered then .test d.frameListeners.begin else .filtered }
    | .error e => some { d with pc := .raised e }
  | .test none => some { d with pc := .done }
  | .test (some id) =>
    match d.frameListeners.deref id with
    | some n => some { d with pc := .call n.id n.listener, notified := d.notified ++ [n] }
    | none => some { d with pc := .dangling }
  | .advance id =>
    match d.frameListeners.next id with
    | some it => some { d with pc := .test it }
    | none => some { d with pc := .dangling }
  | .call _ _ | .done | .filtered | .raised _ | .dangling => none

/-- A thread calls the connection: it takes the mutex, changes the list and gives the mutex back.
The thread that is in `notify` can do so only in a listener. -/
def call (d : Dispatch) (thread : ℕ) (f : ListCall) : Option Dispatch :=
  if thread = d.thread ∧ d.pc.current = none then none
  else
    match d.mutex.lock thread with
    | none => none
    | some m => some { d with mutex := m.unlock, frameListeners := f.apply d.frameListeners }

/-- A listener returns, or throws. -/
def leave (d : Dispatch) (next : ℕ → NotifyPC) : Option Dispatch :=
  match d.pc with
  | .call id _ => some { d with pc := next id }
  | _ => none

def step (d : Dispatch) : NotifyLabel → Option Dispatch
  | .loop => d.loop
  | .call thread f => d.call thread f
  | .ret => d.leave .advance
  | .throw e => d.leave fun _ => .raised e

/-- The step does not remove the listener that is being notified. -/
def KeepsCurrent (d : Dispatch) : NotifyLabel → Prop
  | .call _ f => ∀ listener ∈ d.pc.current, f.removes listener = false
  | .loop | .ret | .throw _ => True

instance (d : Dispatch) : (l : NotifyLabel) → Decidable (d.KeepsCurrent l)
  | .call _ f => inferInstanceAs (Decidable (∀ listener ∈ d.pc.current, f.removes listener = false))
  | .loop | .ret | .throw _ => inferInstanceAs (Decidable True)

/-! ### What a step does -/

variable {d d' : Dispatch} {l : NotifyLabel}

/-- The steps under the mutex of the thread that is in `notify`. -/
inductive Step (d : Dispatch) : NotifyLabel → Dispatch → Prop
  | pass : d.pc = .filter →
    Step d .loop { d with pc := .test d.frameListeners.begin }
  | filtered : d.pc = .filter → Step d .loop { d with pc := .filtered }
  | noHeader (e : Exn) : d.pc = .filter → Step d .loop { d with pc := .raised e }
  | finish : d.pc = .test none → Step d .loop { d with pc := .done }
  | visit {id : ℕ} {n : ListenerNode} : d.pc = .test (some id) →
    d.frameListeners.deref id = some n →
    Step d .loop { d with pc := .call n.id n.listener, notified := d.notified ++ [n] }
  | lost {id : ℕ} : d.pc = .test (some id) → d.frameListeners.deref id = none →
    Step d .loop { d with pc := .dangling }
  | next {id : ℕ} {it : Option ℕ} : d.pc = .advance id → d.frameListeners.next id = some it →
    Step d .loop { d with pc := .test it }
  | removed {id : ℕ} : d.pc = .advance id → d.frameListeners.next id = none →
    Step d .loop { d with pc := .dangling }
  | call {id listener : ℕ} (f : ListCall) : d.pc = .call id listener →
    Step d (.call d.thread f) { d with frameListeners := f.apply d.frameListeners }
  | ret {id listener : ℕ} : d.pc = .call id listener → Step d .ret { d with pc := .advance id }
  | throw {id listener : ℕ} (e : Exn) : d.pc = .call id listener →
    Step d (.throw e) { d with pc := .raised e }

lemma Step.of_loop (h : d.loop = some d') : Step d .loop d' := by
  unfold loop at h
  split at h
  next hpc =>
    split at h
    next filtered _ =>
      obtain rfl := Option.some.inj h
      cases filtered with
      | false => exact .pass hpc
      | true => exact .filtered hpc
    next e _ =>
      obtain rfl := Option.some.inj h
      exact .noHeader e hpc
  next hpc =>
    obtain rfl := Option.some.inj h
    exact .finish hpc
  next id hpc =>
    split at h
    next n hn =>
      obtain rfl := Option.some.inj h
      exact .visit hpc hn
    next hn =>
      obtain rfl := Option.some.inj h
      exact .lost hpc hn
  next id hpc =>
    split at h
    next it hit =>
      obtain rfl := Option.some.inj h
      exact .next hpc hit
    next hit =>
      obtain rfl := Option.some.inj h
      exact .removed hpc hit
  all_goals cases h

lemma exists_of_current (h : d.pc.current ≠ none) : ∃ id listener, d.pc = .call id listener := by
  cases hpc : d.pc with
  | call id listener => exact ⟨id, listener, rfl⟩
  | _ =>
    rw [hpc] at h
    exact absurd rfl h

/-- The thread in `notify` takes the mutex once more; another thread does not get it. -/
lemma lock_eq {m : RecursiveMutex} {thread : ℕ} (hmutex : d.mutex = ⟨some d.thread, 1⟩)
    (h : d.mutex.lock thread = some m) : thread = d.thread ∧ m.unlock = d.mutex := by
  rw [hmutex, RecursiveMutex.lock] at h
  by_cases hthread : d.thread = thread
  · simp only [hthread, if_true, Option.some.injEq] at h
    subst h
    exact ⟨hthread.symm, by rw [hmutex, hthread]; rfl⟩
  · simp [hthread] at h

lemma Step.of_call {thread : ℕ} {f : ListCall} (hmutex : d.mutex = ⟨some d.thread, 1⟩)
    (h : d.call thread f = some d') : Step d (.call thread f) d' := by
  unfold Dispatch.call at h
  split at h
  next => cases h
  next hlistener =>
    split at h
    next => cases h
    next m hm =>
      obtain rfl := Option.some.inj h
      obtain ⟨rfl, hunlock⟩ := lock_eq hmutex hm
      rw [hunlock]
      obtain ⟨id, listener, hpc⟩ := exists_of_current fun hnone => hlistener ⟨rfl, hnone⟩
      exact .call f hpc

lemma exists_of_leave {next : ℕ → NotifyPC} (h : d.leave next = some d') :
    ∃ id listener, d.pc = .call id listener ∧ d' = { d with pc := next id } := by
  unfold leave at h
  split at h
  next id listener hpc => exact ⟨id, listener, hpc, (Option.some.inj h).symm⟩
  next => cases h

lemma Step.of_step (hmutex : d.mutex = ⟨some d.thread, 1⟩) (h : d.step l = some d') :
    Step d l d' := by
  cases l with
  | loop => exact .of_loop h
  | call thread f => exact .of_call hmutex h
  | ret =>
    obtain ⟨id, listener, hpc, rfl⟩ := exists_of_leave h
    exact .ret hpc
  | throw e =>
    obtain ⟨id, listener, hpc, rfl⟩ := exists_of_leave h
    exact .throw e hpc

lemma Step.mutex_eq (h : Step d l d') : d'.thread = d.thread ∧ d'.mutex = d.mutex := by
  cases h <;> exact ⟨rfl, rfl⟩

/-! ### The walk along the list -/

variable {nodes₀ before after : List ListenerNode} {n : ListenerNode}

/-- The list is cut where the iterator stands: the places in `before` have had their notification,
those in `after` have not. Of the places `nodes₀` that were there at first, those that still wait
come before all that were added, in their order, and no later than they would without any change. -/
structure Walked (nodes₀ : List ListenerNode) (d : Dispatch) (before after : List ListenerNode) :
    Prop where
  split : d.frameListeners.nodes = before ++ after
  visited : ∀ n ∈ before, d.notified.count n = 1
  waiting : ∀ n ∈ after, n ∉ d.notified
  known : ∀ n ∈ d.notified, n.id < d.frameListeners.nextId
  initial : ∀ n ∈ nodes₀, n.id < d.frameListeners.nextId
  order : ∃ old new, after = old ++ new ∧ old.Sublist (nodes₀.drop d.notified.length) ∧
    ∀ n ∈ new, n ∉ nodes₀

namespace Walked

lemma goto (h : Walked nodes₀ d before after) (pc : NotifyPC) :
    Walked nodes₀ { d with pc := pc } before after :=
  ⟨h.split, h.visited, h.waiting, h.known, h.initial, h.order⟩

lemma ne_of_mem_before (h : Walked nodes₀ d before (n :: after)) {m : ListenerNode}
    (hm : m ∈ before) : m ≠ n := by
  rintro rfl
  exact NodeList.id_ne_of_split h.split m hm rfl

lemma ne_of_mem_after (h : Walked nodes₀ d before (n :: after)) {m : ListenerNode}
    (hm : m ∈ after) : m ≠ n := by
  have hsplit : d.frameListeners.nodes = (before ++ [n]) ++ after := by
    rw [h.split, List.append_assoc]
    rfl
  obtain ⟨p, q, rfl⟩ := List.append_of_mem hm
  rintro rfl
  exact NodeList.id_ne_of_split (hsplit.trans (List.append_assoc _ _ _).symm) m (by simp) rfl

/-- The next listener is notified. -/
lemma visit (h : Walked nodes₀ d before (n :: after)) (pc : NotifyPC) :
    Walked nodes₀ { d with pc := pc, notified := d.notified ++ [n] } (before ++ [n]) after where
  split := by
    rw [List.append_assoc]
    exact h.split
  visited := by
    intro m hm
    rw [List.count_append]
    obtain hm | hm := List.mem_append.mp hm
    · have hne : n ≠ m := (h.ne_of_mem_before hm).symm
      rw [h.visited m hm, List.count_singleton, beq_false_of_ne hne]
      rfl
    · obtain rfl := List.mem_singleton.mp hm
      rw [List.count_eq_zero_of_not_mem (h.waiting m List.mem_cons_self), List.count_singleton_self]
  waiting := by
    intro m hm hmem
    obtain hmem | hmem := List.mem_append.mp hmem
    · exact h.waiting m (List.mem_cons_of_mem _ hm) hmem
    · exact h.ne_of_mem_after hm (List.mem_singleton.mp hmem)
  known := by
    intro m hm
    obtain hm | hm := List.mem_append.mp hm
    · exact h.known m hm
    · rw [List.mem_singleton.mp hm]
      exact d.frameListeners.fresh n (by rw [h.split]; simp)
  initial := h.initial
  order := by
    obtain ⟨old, new, hafter, hold, hnew⟩ := h.order
    cases old with
    | nil =>
      refine ⟨[], after, rfl, List.nil_sublist _, ?_⟩
      intro m hm
      rw [List.nil_append] at hafter
      exact hnew m (hafter ▸ List.mem_cons_of_mem _ hm)
    | cons m old =>
      obtain ⟨rfl, rfl⟩ := List.cons.inj hafter
      refine ⟨old, new, rfl, ?_, hnew⟩
      rw [List.length_append, List.length_singleton, ← List.tail_drop]
      exact hold.tail

/-- A listener is added, behind all others. -/
lemma pushBack (h : Walked nodes₀ d before after) (listener : ℕ) :
    Walked nodes₀ { d with frameListeners := d.frameListeners.pushBack listener } before
      (after ++ [⟨d.frameListeners.nextId, listener⟩]) where
  split := by
    rw [← List.append_assoc, ← h.split]
    rfl
  visited := h.visited
  waiting := by
    intro m hm
    obtain hm | hm := List.mem_append.mp hm
    · exact h.waiting m hm
    · obtain rfl := List.mem_singleton.mp hm
      exact fun hmem => Nat.lt_irrefl _ (h.known _ hmem)
  known m hm := Nat.lt_succ_of_lt (h.known m hm)
  initial m hm := Nat.lt_succ_of_lt (h.initial m hm)
  order := by
    obtain ⟨old, new, rfl, hold, hnew⟩ := h.order
    refine ⟨old, new ++ [⟨d.frameListeners.nextId, listener⟩], List.append_assoc _ _ _, hold, ?_⟩
    intro m hm
    obtain hm | hm := List.mem_append.mp hm
    · exact hnew m hm
    · obtain rfl := List.mem_singleton.mp hm
      exact fun hmem => Nat.lt_irrefl _ (h.initial _ hmem)

/-- A listener is removed, on both sides of the iterator. -/
lemma remove (h : Walked nodes₀ d before after) (listener : ℕ) :
    Walked nodes₀ { d with frameListeners := d.frameListeners.remove listener }
      (before.filter (·.listener ≠ listener)) (after.filter (·.listener ≠ listener)) where
  split := by
    rw [← List.filter_append, ← h.split]
    rfl
  visited m hm := h.visited m (List.mem_filter.mp hm).1
  waiting m hm := h.waiting m (List.mem_filter.mp hm).1
  known := h.known
  initial := h.initial
  order := by
    obtain ⟨old, new, rfl, hold, hnew⟩ := h.order
    refine ⟨old.filter (·.listener ≠ listener), new.filter (·.listener ≠ listener),
      List.filter_append _ _, List.filter_sublist.trans hold, ?_⟩
    intro m hm
    exact hnew m (List.mem_filter.mp hm).1

/-- A call that does not remove the listener on which the iterator stands leaves it there. -/
lemma apply (h : Walked nodes₀ d (before ++ [n]) after) {f : ListCall}
    (hkeep : f.removes n.listener = false) : ∃ before' after',
      Walked nodes₀ { d with frameListeners := f.apply d.frameListeners } (before' ++ [n])
        after' := by
  cases f with
  | addFrameListener listener => exact ⟨before, _, h.pushBack listener⟩
  | removeFrameListener listener =>
    have hne : n.listener ≠ listener := by
      rintro rfl
      simp [ListCall.removes] at hkeep
    have hfilter : (before ++ [n]).filter (·.listener ≠ listener) =
        before.filter (·.listener ≠ listener) ++ [n] := by
      simp [List.filter_append, hne]
    exact ⟨before.filter (·.listener ≠ listener), _, hfilter ▸ h.remove listener⟩
  | close => cases hkeep

end Walked

/-- Where the thread is, for the list as it is cut. -/
def At (before after : List ListenerNode) : NotifyPC → Prop
  | .filter | .filtered => before = []
  | .test it => it = after.head?.map ListenerNode.id
  | .call id listener => ∃ before', before = before' ++ [⟨id, listener⟩]
  | .advance id => ∃ before' n, before = before' ++ [n] ∧ n.id = id
  | .done => after = []
  | .raised _ => True
  | .dangling => False

lemma At.exists_of_test {id : ℕ} (h : At before after (.test (some id))) :
    ∃ n after', after = n :: after' ∧ id = n.id := by
  cases after with
  | nil => cases h
  | cons n after' => exact ⟨n, after', rfl, Option.some.inj h⟩

/-- The invariant of a dispatch that began with the places `nodes₀`. -/
def Inv (nodes₀ : List ListenerNode) (d : Dispatch) : Prop :=
  d.mutex = ⟨some d.thread, 1⟩ ∧ ∃ before after, Walked nodes₀ d before after ∧ At before after d.pc

lemma inv_start (thread : ℕ) (busFrameFilter : LogicalAddress) (frame : CECFrame)
    (frameListeners : NodeList) :
    Inv frameListeners.nodes (start thread busFrameFilter frame frameListeners) := by
  refine ⟨rfl, [], frameListeners.nodes, ?_, rfl⟩
  refine ⟨rfl, by simp, by simp [start], by simp [start], frameListeners.fresh, ?_⟩
  exact ⟨frameListeners.nodes, [], by simp, List.Sublist.refl _, by simp⟩

/-- A step that keeps the current listener keeps the invariant. -/
lemma Inv.preserved (h : Inv nodes₀ d) (hok : d.KeepsCurrent l) (hstep : Step d l d') :
    Inv nodes₀ d' := by
  obtain ⟨hmutex, before, after, hwalked, hat⟩ := h
  obtain ⟨hthread, hmutex'⟩ := hstep.mutex_eq
  refine ⟨by rw [hmutex', hthread, hmutex], ?_⟩
  cases hstep with
  | pass hpc =>
    rw [hpc] at hat
    obtain rfl : before = [] := hat
    refine ⟨[], after, hwalked.goto _, ?_⟩
    show d.frameListeners.nodes.head?.map ListenerNode.id = _
    rw [hwalked.split, List.nil_append]
  | filtered hpc =>
    rw [hpc] at hat
    exact ⟨before, after, hwalked.goto _, hat⟩
  | noHeader e hpc => exact ⟨before, after, hwalked.goto _, trivial⟩
  | finish hpc =>
    rw [hpc] at hat
    refine ⟨before, after, hwalked.goto _, ?_⟩
    simpa [At] using hat
  | @visit id n hpc hn =>
    rw [hpc] at hat
    obtain ⟨m, after, rfl, rfl⟩ := hat.exists_of_test
    obtain rfl : m = n := Option.some.inj ((NodeList.deref_of_split hwalked.split).symm.trans hn)
    exact ⟨before ++ [m], after, hwalked.visit _, before, rfl⟩
  | @lost id hpc hn =>
    -- the iterator was set under the same lock, so its place is there
    rw [hpc] at hat
    obtain ⟨m, after, rfl, rfl⟩ := hat.exists_of_test
    rw [NodeList.deref_of_split hwalked.split] at hn
    cases hn
  | @next id it hpc hit =>
    rw [hpc] at hat
    obtain ⟨before', n, rfl, rfl⟩ := hat
    have hsplit := hwalked.split.trans (List.append_assoc _ _ _)
    rw [NodeList.next_of_split hsplit] at hit
    exact ⟨before' ++ [n], after, hwalked.goto _, (Option.some.inj hit).symm⟩
  | @removed id hpc hit =>
    rw [hpc] at hat
    obtain ⟨before', n, rfl, rfl⟩ := hat
    have hsplit := hwalked.split.trans (List.append_assoc _ _ _)
    rw [NodeList.next_of_split hsplit] at hit
    cases hit
  | @call id listener f hpc =>
    have hkeep : f.removes listener = false := hok listener (by rw [hpc]; rfl)
    rw [hpc] at hat
    obtain ⟨before', rfl⟩ := hat
    obtain ⟨before'', after', hwalked'⟩ := hwalked.apply hkeep
    exact ⟨_, _, hwalked', by rw [hpc]; exact ⟨before'', rfl⟩⟩
  | ret hpc =>
    rw [hpc] at hat
    obtain ⟨before', rfl⟩ := hat
    exact ⟨_, _, hwalked.goto _, before', _, rfl, rfl⟩
  | throw e hpc => exact ⟨before, after, hwalked.goto _, trivial⟩

/-- What every run whose steps keep the current listener has as its invariant. -/
lemma inv_of_run {thread : ℕ} {busFrameFilter : LogicalAddress} {frame : CECFrame} {l : NodeList}
    (h : Run step KeepsCurrent (start thread busFrameFilter frame l) d) : Inv l.nodes d := by
  refine h.invariant ?_ (inv_start thread busFrameFilter frame l)
  intro d k d' hok hstep hinv
  exact hinv.preserved hok (.of_step hinv.1 hstep)

/-! ### Listeners that only return -/

/-- One listener is notified and returns, and the iterator is advanced. -/
lemma run_visit (hsplit : d.frameListeners.nodes = before ++ n :: after)
    (hpc : d.pc = .test (some n.id)) {u : Dispatch}
    (h : Run step KeepsCurrent
      { d with pc := .test (after.head?.map ListenerNode.id), notified := d.notified ++ [n] } u) :
    Run step KeepsCurrent d u := by
  refine .head (l := .loop) trivial (t := { d with
    pc := .call n.id n.listener, notified := d.notified ++ [n] }) ?_ ?_
  · simp only [step, loop, hpc, NodeList.deref_of_split hsplit]
  · refine .head (l := .ret) trivial (t := { d with
      pc := .advance n.id, notified := d.notified ++ [n] }) rfl ?_
    refine .head (l := .loop) trivial ?_ h
    simp only [step, loop, NodeList.next_of_split hsplit]

/-- From the head of the loop on, listeners that only return are notified in order. -/
lemma run_returns (hsplit : d.frameListeners.nodes = before ++ after)
    (hpc : d.pc = .test (after.head?.map ListenerNode.id)) :
    Run step KeepsCurrent d { d with pc := .done, notified := d.notified ++ after } := by
  induction after generalizing d before with
  | nil =>
    refine .tail .refl (l := .loop) trivial ?_
    simp only [step, loop, hpc, List.head?_nil, Option.map_none, List.append_nil]
  | cons n after ih =>
    refine run_visit hsplit hpc ?_
    have hnodes : d.frameListeners.nodes = (before ++ [n]) ++ after := by
      rw [hsplit, List.append_assoc]
      rfl
    have hrest := ih (d := { d with
      pc := .test (after.head?.map ListenerNode.id), notified := d.notified ++ [n] }) hnodes rfl
    simpa only [List.append_assoc, List.singleton_append] using hrest

/-- The same from before `list_it++` on. -/
lemma run_advances (hsplit : d.frameListeners.nodes = before ++ n :: after)
    (hpc : d.pc = .advance n.id) :
    Run step KeepsCurrent d { d with pc := .done, notified := d.notified ++ after } := by
  have hnodes : d.frameListeners.nodes = (before ++ [n]) ++ after := by
    rw [hsplit, List.append_assoc]
    rfl
  refine .head (l := .loop) trivial
    (t := { d with pc := .test (after.head?.map ListenerNode.id) }) ?_
    (run_returns (d := { d with pc := .test (after.head?.map ListenerNode.id) }) hnodes rfl)
  simp only [step, loop, hpc, NodeList.next_of_split hsplit]

/-- However far it is, `notify` gets to its end when the listeners return. -/
lemma Inv.finishes (h : Inv nodes₀ d) : ∃ u, Run step KeepsCurrent d u ∧ u.pc.ended = true := by
  obtain ⟨-, before, after, hwalked, hat⟩ := h
  cases hpc : d.pc with
  | filter =>
    rw [hpc] at hat
    obtain rfl : before = [] := hat
    cases hfilter : (Connection.isFiltered d.busFrameFilter d.frame).result with
    | error e =>
      refine ⟨{ d with pc := .raised e }, .tail .refl (l := .loop) trivial ?_, rfl⟩
      simp only [step, loop, hpc, hfilter]
    | ok filtered =>
      cases filtered with
      | true =>
        refine ⟨{ d with pc := .filtered }, .tail .refl (l := .loop) trivial ?_, rfl⟩
        simp only [step, loop, hpc, hfilter]
        rfl
      | false =>
        refine ⟨_, .head (l := .loop) trivial
          (t := { d with pc := .test d.frameListeners.begin }) ?_
          (run_returns (List.nil_append d.frameListeners.nodes).symm rfl), rfl⟩
        simp only [step, loop, hpc, hfilter]
        rfl
  | test it =>
    rw [hpc] at hat
    obtain rfl : it = _ := hat
    exact ⟨_, run_returns hwalked.split hpc, rfl⟩
  | call id listener =>
    rw [hpc] at hat
    obtain ⟨before', rfl⟩ := hat
    have hsplit := hwalked.split.trans (List.append_assoc _ _ _)
    refine ⟨_, .head (l := .ret) trivial (t := { d with pc := .advance id }) ?_
      (run_advances hsplit rfl), rfl⟩
    simp only [step, leave, hpc]
  | advance id =>
    rw [hpc] at hat
    obtain ⟨before', n, rfl, rfl⟩ := hat
    exact ⟨_, run_advances (hwalked.split.trans (List.append_assoc _ _ _)) hpc, rfl⟩
  | dangling =>
    rw [hpc] at hat
    exact hat.elim
  | _ => exact ⟨d, .refl, by rw [hpc]; rfl⟩

/-- With listeners that only return, the places are notified as `Conn.notify` says. -/
theorem notify_refines {app : App} (happ : ∀ listener frame, app listener frame = .ok ())
    {frame : CECFrame} (hframe : 1 ≤ frame.length) (thread id : ℕ) (c : Conn) {l : NodeList}
    (hl : l.listeners = c.frameListeners) :
    ∃ d, Run step KeepsCurrent (start thread c.busFrameFilter frame l) d ∧ d.pc.ended = true ∧
      HdmiCec.notified (c.notify app id frame).log =
        d.notified.map fun n => (id, n.listener, frame) := by
  have hfilter := result_isFiltered c.busFrameFilter hframe
  rw [(Conn.notify_spec happ id c hframe).2]
  by_cases hfor : frame.IsFor c.busFrameFilter
  · refine ⟨_, .head (l := .loop) trivial
      (t := { start thread c.busFrameFilter frame l with pc := .test l.begin }) ?_
      (run_returns (List.nil_append l.nodes).symm rfl), rfl, ?_⟩
    · simp only [step, loop, start, hfilter, hfor]
      rfl
    · rw [if_pos hfor, ← hl, NodeList.listeners, List.map_map]
      rfl
  · refine ⟨{ start thread c.busFrameFilter frame l with pc := .filtered },
      .tail .refl (l := .loop) trivial ?_, rfl, ?_⟩
    · simp only [step, loop, start, hfilter, hfor]
      rfl
    · rw [if_neg hfor]
      rfl

/-! ### Every listener that stays is notified once -/

lemma Inv.count_le (h : Inv nodes₀ d) (hn : n ∈ d.frameListeners.nodes) :
    d.notified.count n ≤ 1 := by
  obtain ⟨-, before, after, hwalked, -⟩ := h
  rw [hwalked.split] at hn
  obtain hn | hn := List.mem_append.mp hn
  · exact (hwalked.visited n hn).le
  · rw [List.count_eq_zero_of_not_mem (hwalked.waiting n hn)]
    exact Nat.zero_le _

lemma Inv.count_of_done (h : Inv nodes₀ d) (hpc : d.pc = .done)
    (hn : n ∈ d.frameListeners.nodes) : d.notified.count n = 1 := by
  obtain ⟨-, before, after, hwalked, hat⟩ := h
  rw [hpc] at hat
  obtain rfl : after = [] := hat
  rw [hwalked.split, List.append_nil] at hn
  exact hwalked.visited n hn

/-- A place that was at the position `idxOf` at first has had its turn when more than that many
listeners have been notified, however many are added. -/
lemma Inv.count_of_idxOf_lt (h : Inv nodes₀ d) (hnodup : nodes₀.Nodup) (hn₀ : n ∈ nodes₀)
    (hn : n ∈ d.frameListeners.nodes) (hlt : nodes₀.idxOf n < d.notified.length) :
    d.notified.count n = 1 := by
  obtain ⟨-, before, after, hwalked, -⟩ := h
  rw [hwalked.split] at hn
  obtain hn | hn := List.mem_append.mp hn
  · exact hwalked.visited n hn
  · obtain ⟨old, new, rfl, hold, hnew⟩ := hwalked.order
    have hmem : n ∈ old := by
      obtain hn | hn := List.mem_append.mp hn
      · exact hn
      · exact absurd hn₀ (hnew n hn)
    -- the places from a position on are not before it
    obtain ⟨k, hk, hget⟩ := List.mem_iff_getElem.mp (hold.subset hmem)
    rw [List.getElem_drop] at hget
    have hidx := hnodup.idxOf_getElem (d.notified.length + k) (by
      rw [List.length_drop] at hk
      omega)
    rw [hget] at hidx
    omega

/-- A call that removes the current listener takes its place out of the list. -/
lemma id_ne_of_removes {f : ListCall} {m : NodeList} {n : ListenerNode}
    (h : f.removes n.listener = true) (hmem : n ∈ m.nodes) :
    ∀ n' ∈ (f.apply m).nodes, n'.id ≠ n.id := by
  intro n' hn' hid
  cases f with
  | addFrameListener listener => cases h
  | removeFrameListener listener =>
    obtain ⟨hn', hne⟩ := List.mem_filter.mp hn'
    obtain rfl : n' = n := List.inj_on_of_nodup_map m.nodup hn' hmem hid
    obtain rfl : listener = n'.listener := by simpa [ListCall.removes] using h
    simp at hne
  | close => cases hn'

/-- A listener that removes its own place and returns leaves the iterator there. -/
lemma Inv.dangling_of_removes (h : Inv nodes₀ d) (hstep : Step d l d') (hok : ¬ d.KeepsCurrent l) :
    ∃ u, Run step (fun _ _ => True) d' u ∧ u.pc = .dangling := by
  obtain ⟨-, before, after, hwalked, hat⟩ := h
  cases hstep with
  | @call id listener f hpc =>
    have hremoves : f.removes listener = true := by
      simpa [KeepsCurrent, hpc, NotifyPC.current] using hok
    rw [hpc] at hat
    obtain ⟨before', rfl⟩ := hat
    have hmem : ⟨id, listener⟩ ∈ d.frameListeners.nodes := by
      rw [hwalked.split]
      simp
    have hgone := id_ne_of_removes hremoves hmem
    refine ⟨{ d with frameListeners := f.apply d.frameListeners, pc := .dangling },
      .head (l := .ret) trivial
        (t := { d with frameListeners := f.apply d.frameListeners, pc := .advance id }) ?_
        (.tail .refl (l := .loop) trivial ?_), rfl⟩
    · simp only [step, leave, hpc]
    · simp only [step, loop, NodeList.next_of_removed hgone]
  | _ => exact absurd trivial hok

/-- As long as no listener removes itself or closes the connection while it is notified, the loop
never advances from a place that is not there any more, and of the places that were there at first
each one that stays is notified exactly once: at most once at any time, by the end of the loop, and
also when its turn has come while listeners go on adding others. The loop comes to its end when the
listeners return. A listener that does remove itself is safe only if it does not return. -/
theorem notify_visits_each_once {thread : ℕ} {busFrameFilter : LogicalAddress} {frame : CECFrame}
    {l : NodeList} {d : Dispatch}
    (h : Run step KeepsCurrent (start thread busFrameFilter frame l) d) :
    d.pc ≠ .dangling ∧
    (∀ n ∈ l.nodes, n ∈ d.frameListeners.nodes →
      d.notified.count n ≤ 1 ∧
      (d.pc = .done → d.notified.count n = 1) ∧
      (l.nodes.idxOf n < d.notified.length → d.notified.count n = 1)) ∧
    (∃ u, Run step KeepsCurrent d u ∧ u.pc.ended = true) ∧
    ∀ k d', d.step k = some d' → ¬ d.KeepsCurrent k →
      ∃ u, Run step (fun _ _ => True) d' u ∧ u.pc = .dangling := by
  have hinv := inv_of_run h
  refine ⟨?_, ?_, hinv.finishes, ?_⟩
  · intro hpc
    obtain ⟨-, before, after, -, hat⟩ := hinv
    rw [hpc] at hat
    exact hat
  · intro n hn₀ hn
    exact ⟨hinv.count_le hn, fun hpc => hinv.count_of_done hpc hn,
      hinv.count_of_idxOf_lt (.of_map _ l.nodup) hn₀ hn⟩
  · intro k d' hstep hok
    exact hinv.dangling_of_removes (.of_step hinv.1 hstep) hok

/-- A call with a frame that is not filtered, and with two listeners. -/
def twoListeners : Dispatch :=
  start 0 (.ofInt LogicalAddress.unregistered) .empty
    ⟨[⟨0, 7⟩, ⟨1, 8⟩], 2, by decide, by decide⟩

/-- The first listener removes the second and adds it again behind itself, and the new place is
notified. -/
theorem notify_visits_each_once_added :
    ∃ d, Run step KeepsCurrent twoListeners d ∧ d.pc = .done ∧
      d.notified = [⟨0, 7⟩, ⟨2, 8⟩] ∧ d.notified.count ⟨0, 7⟩ = 1 := by
  obtain ⟨d, hrun, hd⟩ := Run.of_execSat
    (show execSat step KeepsCurrent
      (fun d => d.pc = .done ∧ d.notified = [⟨0, 7⟩, ⟨2, 8⟩] ∧ ⟨0, 7⟩ ∈ d.frameListeners.nodes)
      twoListeners
      [.loop, .loop, .call 0 (.removeFrameListener 8), .call 0 (.addFrameListener 8), .ret, .loop,
        .loop, .ret, .loop, .loop] = true by decide)
  simp only [decide_eq_true_eq] at hd
  obtain ⟨hpc, hnotified, hmem⟩ := hd
  exact ⟨d, hrun, hpc, hnotified,
    ((notify_visits_each_once hrun).2.1 ⟨0, 7⟩ (by decide) hmem).2.1 hpc⟩

/-- A listener that removes itself while it is notified, and returns. -/
theorem notify_removed_listener_dangles :
    ∃ d, Run step (fun _ _ => True) twoListeners d ∧ d.pc = .dangling := by
  obtain ⟨d, hrun, hd⟩ := Run.of_execSat
    (show execSat step (fun _ _ => True) (fun d => d.pc = .dangling) twoListeners
      [.loop, .loop, .call 0 (.removeFrameListener 7), .ret, .loop] = true by decide)
  exact ⟨d, hrun, by simpa using hd⟩

end Dispatch

end HdmiCec
