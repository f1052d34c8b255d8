import HdmiCec.System.Dispatch

/-!
# Listeners that call any connection

`Bus::Reader::run` dispatches a frame to the places of `bus.listeners`, and each connection there to
the places of its `frameListeners`. A listener may call any connection meanwhile: it may open and
close connections, and add and remove listeners. So both lists change while both loops stand on one
of their places; the reader's thread has `bus.rMutex` and the mutex of the connection in whose
`notify` it is, and both are recursive. Other threads change the lists of the other connections.

The loop over `bus.listeners` is a `Dispatch` that begins behind the filter; the listeners at its
places are the connections.
-/

namespace HdmiCec

open Lib

/-- The dispatch of a frame by `Bus::Reader::run`. -/
structure Round where
  /-- the loop over `bus.listeners` -/
  bus : Dispatch
  started : Bool
  frameListeners : ℕ → NodeList
  busFrameFilter : ℕ → LogicalAddress
  /-- the call of `notify` in which the thread is: its point, and the places it has notified -/
  inner : Option (NotifyPC × List ListenerNode)
  /-- the places of `bus.listeners` whose `notify` has returned, each with what it has notified -/
  delivered : List (ListenerNode × List ListenerNode)

/-- The steps: the loop over `bus.listeners` goes on, the loop in `notify` goes on, a thread calls a
connection, the listener that is being notified opens a connection, returns, or throws. -/
inductive RoundLabel where
  | bus
  | notify
  | call (thread conn : ℕ) (f : ListCall)
  | openConn (conn : ℕ)
  | ret
  | throw (e : Exn)

/-! ### More about one loop -/

namespace ListCall

variable {l : NodeList} {n : ListenerNode}

lemma nextId_le (f : ListCall) (l : NodeList) : l.nextId ≤ (f.apply l).nextId := by
  cases f with
  | addFrameListener listener => exact Nat.le_succ _
  | removeFrameListener listener => exact Nat.le_refl _
  | close => exact Nat.le_refl _

/-- A place that was there once and is there after the call was there before it. -/
lemma mem_of_mem_apply {f : ListCall} (h : n ∈ (f.apply l).nodes) (hid : n.id < l.nextId) :
    n ∈ l.nodes := by
  cases f with
  | addFrameListener listener =>
    obtain h | h := List.mem_append.mp h
    · exact h
    · obtain rfl := List.mem_singleton.mp h
      exact absurd hid (Nat.lt_irrefl _)
  | removeFrameListener listener => exact (List.mem_filter.mp h).1
  | close => cases h

end ListCall

namespace Dispatch

variable {d d' : Dispatch} {k : NotifyLabel} {nodes₀ : List ListenerNode}

lemma Step.frame_eq (h : Step d k d') :
    d'.frame = d.frame ∧ d'.busFrameFilter = d.busFrameFilter := by
  cases h <;> exact ⟨rfl, rfl⟩

lemma Step.lists_eq (h : Step d k d') (hk : ∀ thread f, k ≠ .call thread f) :
    d'.frameListeners = d.frameListeners := by
  cases h with
  | call f => exact absurd rfl (hk d.thread f)
  | _ => rfl

/-- No place is notified twice, not even one that is removed. -/
lemma Inv.nodup_notified (h : Inv nodes₀ d) (hnodup : d.notified.Nodup) (hstep : Step d k d') :
    d'.notified.Nodup := by
  cases hstep with
  | @visit id n hpc hn =>
    obtain ⟨-, before, after, hwalked, hat⟩ := h
    rw [hpc] at hat
    obtain ⟨m, after, rfl, rfl⟩ := hat.exists_of_test
    obtain rfl : m = n := Option.some.inj ((NodeList.deref_of_split hwalked.split).symm.trans hn)
    refine List.nodup_append.mpr ⟨hnodup, List.nodup_singleton m, ?_⟩
    rintro x hx y hy rfl
    obtain rfl := List.mem_singleton.mp hy
    exact hwalked.waiting x List.mem_cons_self hx
  | _ => exact hnodup

lemma keepsCurrent_of_ne (hk : ∀ thread f, k ≠ .call thread f) : d.KeepsCurrent k := by
  cases k with
  | call thread f => exact absurd rfl (hk thread f)
  | _ => trivial

/-- The loop does not come back to the filter. -/
lemma pc_ne_filter (h : d.loop = some d') : d'.pc ≠ .filter := by
  cases Step.of_loop h <;> simp

/-- What the filter says about the frame, once it was asked. -/
def Heard (d : Dispatch) : Prop :=
  match d.pc with
  | .filter => d.notified = []
  | .filtered => d.notified = [] ∧ ¬ d.frame.IsFor d.busFrameFilter
  | _ => d.frame.IsFor d.busFrameFilter

lemma Heard.of_loop (h : d.Heard) (hframe : 1 ≤ d.frame.length) (hloop : d.loop = some d') :
    d'.Heard := by
  unfold loop at hloop
  unfold Heard at h
  split at hloop
  · rename_i hpc
    rw [hpc] at h
    rw [result_isFiltered _ hframe] at hloop
    cases hloop
    by_cases hfor : d.frame.IsFor d.busFrameFilter
    · simp [Heard, hfor]
    · simpa [Heard, hfor] using h
  · rename_i hpc
    rw [hpc] at h
    cases hloop
    exact h
  · rename_i hpc
    rw [hpc] at h
    split at hloop <;> cases hloop <;> exact h
  · rename_i hpc
    rw [hpc] at h
    split at hloop <;> cases hloop <;> exact h
  all_goals cases hloop

lemma Heard.of_leave {next : ℕ → NotifyPC} (h : d.Heard) (hleave : d.leave next = some d')
    (hnext : ∀ id, next id ≠ .filter ∧ next id ≠ .filtered) : d'.Heard := by
  obtain ⟨id, listener, hpc, rfl⟩ := exists_of_leave hleave
  unfold Heard at h
  rw [hpc] at h
  unfold Heard
  split
  · rename_i hfilter
    exact absurd hfilter (hnext id).1
  · rename_i hfiltered
    exact absurd hfiltered (hnext id).2
  · exact h

lemma Heard.of_step (h : d.Heard) (hframe : 1 ≤ d.frame.length) (hstep : d.step k = some d')
    (hk : ∀ thread f, k ≠ .call thread f) : d'.Heard := by
  cases k with
  | loop => exact h.of_loop hframe hstep
  | call thread f => exact absurd rfl (hk thread f)
  | ret => exact h.of_leave hstep (by simp)
  | throw e => exact h.of_leave hstep (by simp)

end Dispatch

/-- The step of the call of `notify` that the step is. -/
def RoundLabel.inNotify : RoundLabel → Option NotifyLabel
  | .notify => some .loop
  | .ret => some .ret
  | .throw e => some (.throw e)
  | .bus | .call _ _ _ | .openConn _ => none

lemma RoundLabel.ne_call {l : RoundLabel} {k : NotifyLabel} (h : l.inNotify = some k)
    (thread : ℕ) (f : ListCall) : k ≠ .call thread f := by
  cases l <;> cases h <;> simp

namespace Round

/-- The reader has the frame and `bus.rMutex`. -/
def start (thread : ℕ) (frame : CECFrame) (started : Bool) (listeners : NodeList)
    (frameListeners : ℕ → NodeList) (busFrameFilter : ℕ → LogicalAddress) : Round where
  bus := { Dispatch.start thread (.ofInt LogicalAddress.unregistered) frame listeners with
    pc := .test listeners.begin }
  started := started
  frameListeners := frameListeners
  busFrameFilter := busFrameFilter
  inner := none
  delivered := []

/-- The call of `notify` of the connection `conn`. -/
def notify (s : Round) (conn : ℕ) (pc : NotifyPC) (notified : List ListenerNode) : Dispatch :=
  ⟨s.bus.thread, ⟨some s.bus.thread, 1⟩, s.busFrameFilter conn, s.bus.frame, s.frameListeners conn,
    pc, notified⟩

/-- The call of `notify` has come to `d`. -/
def resume (s : Round) (conn : ℕ) (d : Dispatch) : Round :=
  { s with
    frameListeners := Function.update s.frameListeners conn d.frameListeners
    inner := some (d.pc, d.notified) }

def busGoto (s : Round) (pc : NotifyPC) : Round := { s with bus := { s.bus with pc := pc } }

/-- The step of the loop over `bus.listeners`. The frame is printed before each `notify`; when that
is at its end, the reader goes on behind it. -/
def busLoop (s : Round) : Option Round :=
  match s.inner, s.bus.pc with
  | none, _ =>
    match s.bus.loop with
    | none => none
    | some b =>
      match b.pc with
      | .call _ _ =>
        match (DriverImpl.printFrameDetails s.bus.frame).result with
        | .ok _ => some { s with bus := b, inner := some (.filter, []) }
        | .error e => some (s.busGoto (.raised e))
      | _ => some { s with bus := b }
  | some (.done, notified), .call id conn | some (.filtered, notified), .call id conn =>
    some { s.busGoto (.advance id) with
      inner := none, delivered := s.delivered ++ [(⟨id, conn⟩, notified)] }
  | some (.raised e, _), .call _ _ => some { s.busGoto (.raised e) with inner := none }
  | _, _ => none

/-- A step in `notify`. -/
def inNotify (s : Round) (l : NotifyLabel) : Option Round :=
  match s.inner, s.bus.pc with
  | some (pc, notified), .call _ conn =>
    ((s.notify conn pc notified).step l).map (s.resume conn)
  | _, _ => none

/-- The connection in whose `notify` the reader's thread is, and the listener that it is in. -/
def current (s : Round) : Option (ℕ × ℕ) :=
  match s.inner, s.bus.pc with
  | some (.call _ listener, _), .call _ conn => some (conn, listener)
  | _, _ => none

/-- The reader's thread has the mutex of the connection. -/
def locked (s : Round) (conn : ℕ) : Bool :=
  match s.inner, s.bus.pc with
  | some _, .call _ c => c = conn
  | _, _ => false

/-- What `f` does to the listeners of the connection `conn`. -/
def onLists (s : Round) (conn : ℕ) (f : ListCall) : Round :=
  { s with frameListeners :=
      Function.update s.frameListeners conn (f.apply (s.frameListeners conn)) }

/-- What `Bus::addFrameListener` and `Bus::removeFrameListener` do: nothing on a bus that is not
started, where they throw. -/
def onBus (s : Round) (f : ListCall) : Round :=
  if s.started then { s with bus := { s.bus with frameListeners := f.apply s.bus.frameListeners } }
  else s

/-- `close()` goes on with the bus when it has cleared the listeners of the connection. -/
def unregister (s : Round) (conn : ℕ) : ListCall → Round
  | .close => s.onBus (.removeFrameListener conn)
  | .addFrameListener _ | .removeFrameListener _ => s

/-- A thread calls the connection `conn`. The reader's thread can do so only in a listener; another
one waits for a mutex that the reader's thread has, in `close()` for `bus.rMutex`. -/
def call (s : Round) (thread conn : ℕ) (f : ListCall) : Option Round :=
  if thread = s.bus.thread then
    match s.current with
    | none => none
    | some _ => some ((s.onLists conn f).unregister conn f)
  else if s.locked conn then none
  else some (s.onLists conn f)

/-- The listener opens the connection `conn`. -/
def openConn (s : Round) (conn : ℕ) : Option Round :=
  match s.current with
  | none => none
  | some _ => some (s.onBus (.addFrameListener conn))

def step (s : Round) : RoundLabel → Option Round
  | .bus => s.busLoop
  | .notify => s.inNotify .loop
  | .call thread conn f => s.call thread conn f
  | .openConn conn => s.openConn conn
  | .ret => s.inNotify .ret
  | .throw e => s.inNotify (.throw e)

/-- The step does not take the listener that is being notified out of the connection in whose
`notify` it is. -/
def KeepsCurrent (s : Round) : RoundLabel → Prop
  | .call _ conn f =>
    match s.current with
    | some (c, listener) => c = conn → f.removes listener = false
    | none => True
  | _ => True

instance (s : Round) (l : RoundLabel) : Decidable (s.KeepsCurrent l) := by
  unfold KeepsCurrent
  split
  · split <;> infer_instance
  · infer_instance

/-! ### What a step does -/

/-- The thread is in `notify` of the connection `conn`, for the place `id` of `bus.listeners`. -/
structure InNotify (s : Round) (id conn : ℕ) (pc : NotifyPC) (notified : List ListenerNode) :
    Prop where
  inner : s.inner = some (pc, notified)
  outer : s.bus.pc = .call id conn

variable {s s' : Round} {id conn : ℕ} {pc : NotifyPC} {notified : List ListenerNode}

lemma exists_of_current {c listener : ℕ} (h : s.current = some (c, listener)) :
    ∃ id place notified, s.InNotify id c (.call place listener) notified := by
  unfold current at h
  split at h
  · rename_i hinner houter
    cases h
    exact ⟨_, _, _, hinner, houter⟩
  · cases h

lemma InNotify.current {place listener : ℕ} (h : s.InNotify id conn (.call place listener) notified) :
    s.current = some (conn, listener) := by
  simp only [Round.current, h.inner, h.outer]

/-- The steps of a round. -/
inductive Moves (s : Round) : RoundLabel → Round → Prop
  | bus {b : Dispatch} : s.inner = none → s.bus.loop = some b → b.pc.current = none →
    Moves s .bus { s with bus := b }
  | enter {b : Dispatch} {id conn : ℕ} : s.inner = none → s.bus.loop = some b → b.pc = .call id conn →
    Moves s .bus { s with bus := b, inner := some (.filter, []) }
  | unprinted {e : Exn} : s.inner = none →
    (DriverImpl.printFrameDetails s.bus.frame).result = .error e →
    Moves s .bus (s.busGoto (.raised e))
  | leave {id conn : ℕ} {pc : NotifyPC} {notified : List ListenerNode} :
    s.InNotify id conn pc notified → pc = .done ∨ pc = .filtered →
    Moves s .bus { s.busGoto (.advance id) with
      inner := none, delivered := s.delivered ++ [(⟨id, conn⟩, notified)] }
  | escape {e : Exn} {id conn : ℕ} {notified : List ListenerNode} :
    s.InNotify id conn (.raised e) notified →
    Moves s .bus { s.busGoto (.raised e) with inner := none }
  | inner {l : RoundLabel} {k : NotifyLabel} {d : Dispatch} {id conn : ℕ} {pc : NotifyPC}
    {notified : List ListenerNode} : s.InNotify id conn pc notified →
    (s.notify conn pc notified).step k = some d → l.inNotify = some k →
    Moves s l (s.resume conn d)
  | own (conn : ℕ) (f : ListCall) {c listener : ℕ} : s.current = some (c, listener) →
    Moves s (.call s.bus.thread conn f) ((s.onLists conn f).unregister conn f)
  | other {thread conn : ℕ} (f : ListCall) : thread ≠ s.bus.thread → s.locked conn = false →
    Moves s (.call thread conn f) (s.onLists conn f)
  | opened (conn : ℕ) {c listener : ℕ} : s.current = some (c, listener) →
    Moves s (.openConn conn) (s.onBus (.addFrameListener conn))

lemma Moves.of_busLoop (h : s.busLoop = some s') : Moves s .bus s' := by
  unfold busLoop at h
  split at h
  · rename_i hinner
    split at h
    · cases h
    · rename_i b hb
      split at h
      · rename_i hpc
        split at h
        · cases h
          exact .enter hinner hb hpc
        · rename_i he
          cases h
          exact .unprinted hinner he
      · rename_i hpc
        cases h
        refine .bus hinner hb ?_
        cases hb : b.pc with
        | call id conn => exact absurd hb (hpc id conn)
        | _ => rfl
  · rename_i hinner houter
    cases h
    exact .leave ⟨hinner, houter⟩ (.inl rfl)
  · rename_i hinner houter
    cases h
    exact .leave ⟨hinner, houter⟩ (.inr rfl)
  · rename_i hinner houter
    cases h
    exact .escape ⟨hinner, houter⟩
  · cases h

lemma Moves.of_inNotify {l : RoundLabel} {k : NotifyLabel} (hl : l.inNotify = some k)
    (h : s.inNotify k = some s') : Moves s l s' := by
  unfold inNotify at h
  split at h
  · rename_i hinner houter
    obtain ⟨d, hd, rfl⟩ := Option.map_eq_some_iff.mp h
    exact .inner ⟨hinner, houter⟩ hd hl
  · cases h

lemma Moves.of_step {l : RoundLabel} (h : s.step l = some s') : Moves s l s' := by
  cases l with
  | bus => exact .of_busLoop h
  | notify => exact .of_inNotify rfl h
  | ret => exact .of_inNotify rfl h
  | throw e => exact .of_inNotify rfl h
  | call thread conn f =>
    simp only [step, call] at h
    split at h
    · rename_i hthread
      subst hthread
      split at h
      · cases h
      · rename_i hcurrent
        cases h
        exact .own conn f hcurrent
    · rename_i hthread
      split at h
      · cases h
      · rename_i hlocked
        cases h
        exact .other f hthread (by simpa using hlocked)
  | openConn conn =>
    simp only [step, openConn] at h
    split at h
    · cases h
    · rename_i hcurrent
      cases h
      exact .opened conn hcurrent

/-! ### The invariant -/

/-- The places that are notified but not delivered: the one where the loop stands, or where it was
left. -/
def Pending : NotifyPC → List ListenerNode → Prop
  | .call id conn, rest => rest = [⟨id, conn⟩]
  | .raised _, _ => True
  | _, rest => rest = []

/-- What was delivered to the place of a connection: each place of the connection that was there at
first and still is has been notified, when the frame is for the connection, and no place twice. -/
structure Delivered (s₀ s : Round) (place : ListenerNode) (notified : List ListenerNode) : Prop where
  nodup : notified.Nodup
  heard : s₀.bus.frame.IsFor (s₀.busFrameFilter place.listener) →
    ∀ n ∈ (s₀.frameListeners place.listener).nodes,
      n ∈ (s.frameListeners place.listener).nodes → n ∈ notified
  unheard : ¬ s₀.bus.frame.IsFor (s₀.busFrameFilter place.listener) → notified = []

/-- The invariant of a round that began with `s₀`. -/
structure Sound (s₀ s : Round) : Prop where
  frame_eq : s.bus.frame = s₀.bus.frame
  filter_eq : s.busFrameFilter = s₀.busFrameFilter
  outer : Dispatch.Inv s₀.bus.frameListeners.nodes s.bus
  nodup : s.bus.notified.Nodup
  outside : s.inner = none → s.bus.pc.current = none ∧ s.bus.pc ≠ .filter
  inside : ∀ pc notified, s.inner = some (pc, notified) → ∃ id conn, s.bus.pc = .call id conn ∧
    (∃ nodes, Dispatch.Inv nodes (s.notify conn pc notified)) ∧ notified.Nodup ∧
    (s.notify conn pc notified).Heard
  fresh : ∀ conn, ∀ n ∈ (s₀.frameListeners conn).nodes, n.id < (s.frameListeners conn).nextId
  visited : ∃ rest, s.bus.notified = s.delivered.map Prod.fst ++ rest ∧ Pending s.bus.pc rest
  delivered : ∀ e ∈ s.delivered, Delivered s₀ s e.1 e.2

variable {s₀ : Round} {l : RoundLabel}

@[simp] lemma onLists_self (s : Round) (conn : ℕ) (f : ListCall) :
    (s.onLists conn f).frameListeners conn = f.apply (s.frameListeners conn) :=
  Function.update_self ..

lemma onLists_of_ne {c : ℕ} (s : Round) (f : ListCall) (h : c ≠ conn) :
    (s.onLists conn f).frameListeners c = s.frameListeners c := Function.update_of_ne h ..

/-- What a step in `notify` that is no call does not touch. -/
lemma eq_notify {d : Dispatch} {k : NotifyLabel}
    (h : Dispatch.Step (s.notify conn pc notified) k d) (hk : ∀ thread f, k ≠ .call thread f) :
    d = s.notify conn d.pc d.notified := by
  cases h with
  | call f => exact absurd rfl (hk _ f)
  | _ => rfl

lemma resume_eq {d : Dispatch} (h : d.frameListeners = s.frameListeners conn) :
    s.resume conn d = { s with inner := some (d.pc, d.notified) } := by
  rw [resume, h, Function.update_eq_self]

lemma sound_start (thread : ℕ) (frame : CECFrame) (started : Bool) (listeners : NodeList)
    (frameListeners : ℕ → NodeList) (busFrameFilter : ℕ → LogicalAddress) :
    Sound (start thread frame started listeners frameListeners busFrameFilter)
      (start thread frame started listeners frameListeners busFrameFilter) where
  frame_eq := rfl
  filter_eq := rfl
  outer := (Dispatch.inv_start ..).preserved (l := .loop) trivial (.pass rfl)
  nodup := List.nodup_nil
  outside _ := ⟨rfl, by simp [start]⟩
  inside pc notified h := by cases h
  fresh conn n hn := (frameListeners conn).fresh n hn
  visited := ⟨[], rfl, rfl⟩
  delivered e he := by cases he

namespace Sound

lemma inside_notify (h : Sound s₀ s) (hin : s.InNotify id conn pc notified) :
    (∃ nodes, Dispatch.Inv nodes (s.notify conn pc notified)) ∧ notified.Nodup ∧
      (s.notify conn pc notified).Heard := by
  obtain ⟨id', conn', houter, hinside⟩ := h.inside pc notified hin.inner
  obtain ⟨rfl, rfl⟩ := NotifyPC.call.inj (hin.outer.symm.trans houter)
  exact hinside

/-- The loop over `bus.listeners` goes on. -/
lemma busStep {b : Dispatch} {k : NotifyLabel} (h : Sound s₀ s) (hstep : Dispatch.Step s.bus k b)
    (hok : s.bus.KeepsCurrent k)
    (hvisited : ∃ rest, b.notified = s.delivered.map Prod.fst ++ rest ∧ Pending b.pc rest)
    (houtside : b.pc.current = none ∧ b.pc ≠ .filter) : Sound s₀ { s with bus := b, inner := none } where
  frame_eq := hstep.frame_eq.1.trans h.frame_eq
  filter_eq := h.filter_eq
  outer := h.outer.preserved hok hstep
  nodup := h.outer.nodup_notified h.nodup hstep
  outside _ := houtside
  inside pc notified hinner := by cases hinner
  fresh := h.fresh
  visited := hvisited
  delivered e he := ⟨(h.delivered e he).nodup, (h.delivered e he).heard, (h.delivered e he).unheard⟩

lemma visited_loop {b : Dispatch} (h : Sound s₀ s) (hloop : s.bus.loop = some b) :
    ∃ rest, b.notified = s.delivered.map Prod.fst ++ rest ∧ Pending b.pc rest := by
  obtain ⟨rest, hnotified, hpending⟩ := h.visited
  cases Dispatch.Step.of_loop hloop with
  | @visit id n hpc hn =>
    rw [hpc] at hpending
    obtain rfl : rest = [] := hpending
    refine ⟨[n], ?_, rfl⟩
    rw [hnotified, List.append_nil]
  | noHeader e hpc => exact ⟨rest, hnotified, trivial⟩
  | pass hpc | filtered hpc | finish hpc | lost hpc _ | next hpc _ | removed hpc _ =>
    rw [hpc] at hpending
    exact ⟨rest, hnotified, hpending⟩

/-- `notify` of the connection at the next place is called. -/
lemma enter {b : Dispatch} (h : Sound s₀ s)
    (hloop : s.bus.loop = some b) (hpc : b.pc = .call id conn) :
    Sound s₀ { s with bus := b, inner := some (.filter, []) } where
  frame_eq := (Dispatch.Step.of_loop hloop).frame_eq.1.trans h.frame_eq
  filter_eq := h.filter_eq
  outer := h.outer.preserved (l := .loop) trivial (.of_loop hloop)
  nodup := h.outer.nodup_notified h.nodup (.of_loop hloop)
  outside hnone := by cases hnone
  inside pc notified hsome := by
    cases hsome
    exact ⟨id, conn, hpc, ⟨_, Dispatch.inv_start ..⟩, List.nodup_nil, rfl⟩
  fresh := h.fresh
  visited := h.visited_loop hloop
  delivered e he := ⟨(h.delivered e he).nodup, (h.delivered e he).heard, (h.delivered e he).unheard⟩

/-- What `notify` has notified when it returns. -/
lemma delivered_leave (h : Sound s₀ s) (hin : s.InNotify id conn pc notified)
    (hpc : pc = .done ∨ pc = .filtered) : Delivered s₀ s ⟨id, conn⟩ notified := by
  obtain ⟨⟨nodes, hinv⟩, hnodup, hheard⟩ := h.inside_notify hin
  have hfor : s₀.bus.frame.IsFor (s₀.busFrameFilter conn) ↔
      s.bus.frame.IsFor (s.busFrameFilter conn) := by
    rw [h.frame_eq, h.filter_eq]
  obtain rfl | rfl := hpc
  · refine ⟨hnodup, ?_, fun hnot => absurd (hfor.mpr hheard) hnot⟩
    intro _ n _ hn
    have hcount : notified.count n = 1 := hinv.count_of_done rfl hn
    exact List.count_pos_iff.mp (hcount ▸ Nat.one_pos)
  · exact ⟨hnodup, fun hyes => absurd (hfor.mp hyes) hheard.2, fun _ => hheard.1⟩

lemma leave (h : Sound s₀ s) (hin : s.InNotify id conn pc notified)
    (hpc : pc = .done ∨ pc = .filtered) :
    Sound s₀ { s.busGoto (.advance id) with
      inner := none, delivered := s.delivered ++ [(⟨id, conn⟩, notified)] } where
  frame_eq := h.frame_eq
  filter_eq := h.filter_eq
  outer := h.outer.preserved (l := .ret) trivial (.ret hin.outer)
  nodup := h.nodup
  outside _ := ⟨rfl, by simp [busGoto]⟩
  inside pc notified hinner := by cases hinner
  fresh := h.fresh
  visited := by
    obtain ⟨rest, hnotified, hpending⟩ := h.visited
    rw [hin.outer] at hpending
    obtain rfl : rest = [⟨id, conn⟩] := hpending
    refine ⟨[], ?_, rfl⟩
    rw [List.map_append, List.append_nil]
    exact hnotified
  delivered e he := by
    have hdelivered : Delivered s₀ s e.1 e.2 := by
      obtain he | he := List.mem_append.mp he
      · exact h.delivered e he
      · obtain rfl := List.mem_singleton.mp he
        exact h.delivered_leave hin hpc
    exact ⟨hdelivered.nodup, hdelivered.heard, hdelivered.unheard⟩

/-- An exception leaves `notify`. -/
lemma escape {e : Exn} (h : Sound s₀ s) (hin : s.InNotify id conn (.raised e) notified) :
    Sound s₀ { s.busGoto (.raised e) with inner := none } := by
  obtain ⟨rest, hnotified, -⟩ := h.visited
  exact h.busStep (.throw e hin.outer) trivial ⟨rest, hnotified, trivial⟩ ⟨rfl, by simp [busGoto]⟩

/-- A step in `notify` that is no call. -/
lemma resume {d : Dispatch} {k : NotifyLabel} (hframe : 1 ≤ s₀.bus.frame.length) (h : Sound s₀ s)
    (hin : s.InNotify id conn pc notified) (hstep : (s.notify conn pc notified).step k = some d)
    (hk : ∀ thread f, k ≠ .call thread f) : Sound s₀ (s.resume conn d) := by
  obtain ⟨⟨nodes, hinv⟩, hnodup, hheard⟩ := h.inside_notify hin
  have hmoves := Dispatch.Step.of_step hinv.1 hstep
  have hd := eq_notify hmoves hk
  have hinv' := hinv.preserved (Dispatch.keepsCurrent_of_ne hk) hmoves
  have hnodup' := hinv.nodup_notified hnodup hmoves
  have hheard' := hheard.of_step (h.frame_eq ▸ hframe) hstep hk
  rw [hd] at hinv' hheard'
  rw [resume_eq (hmoves.lists_eq hk)]
  exact {
    frame_eq := h.frame_eq
    filter_eq := h.filter_eq
    outer := h.outer
    nodup := h.nodup
    outside := fun hnone => by cases hnone
    inside := fun pc' notified' hinner => by
      cases hinner
      exact ⟨id, conn, hin.outer, ⟨nodes, hinv'⟩, hnodup', hheard'⟩
    fresh := h.fresh
    visited := h.visited
    delivered := fun e he =>
      ⟨(h.delivered e he).nodup, (h.delivered e he).heard, (h.delivered e he).unheard⟩ }

/-- The listeners of a connection change. -/
lemma onLists (h : Sound s₀ s) (conn : ℕ) (f : ListCall)
    (hcurrent : ∀ id pc notified, s.InNotify id conn pc notified →
      ∃ nodes, Dispatch.Inv nodes ((s.onLists conn f).notify conn pc notified)) :
    Sound s₀ (s.onLists conn f) where
  frame_eq := h.frame_eq
  filter_eq := h.filter_eq
  outer := h.outer
  nodup := h.nodup
  outside := h.outside
  inside pc notified hinner := by
    obtain ⟨id, c, houter, hinv, hnodup, hheard⟩ := h.inside pc notified hinner
    refine ⟨id, c, houter, ?_, hnodup, hheard⟩
    by_cases hc : c = conn
    · subst hc
      exact hcurrent id pc notified ⟨hinner, houter⟩
    · have hsame : (s.onLists conn f).notify c pc notified = s.notify c pc notified := by
        rw [Round.notify, onLists_of_ne s f hc]
        rfl
      rw [hsame]
      exact hinv
  fresh c n hn := by
    have hlt := h.fresh c n hn
    by_cases hc : c = conn
    · subst hc
      rw [onLists_self]
      exact hlt.trans_le (f.nextId_le _)
    · rw [onLists_of_ne s f hc]
      exact hlt
  visited := h.visited
  delivered e he := by
    obtain ⟨hnodup, hheard, hunheard⟩ := h.delivered e he
    refine ⟨hnodup, ?_, hunheard⟩
    intro hfor n hn₀ hn
    apply hheard hfor n hn₀
    by_cases hc : e.1.listener = conn
    · subst hc
      rw [onLists_self] at hn
      exact ListCall.mem_of_mem_apply hn (h.fresh _ n hn₀)
    · rwa [onLists_of_ne s f hc] at hn

/-- `bus.listeners` changes while a listener is notified. -/
lemma onBus (h : Sound s₀ s) (hin : s.InNotify id conn pc notified) (f : ListCall)
    (hkeeps : f.removes conn = false) : Sound s₀ (s.onBus f) := by
  unfold Round.onBus
  split
  · have hok : s.bus.KeepsCurrent (.call s.bus.thread f) := by
      intro c hc
      rw [hin.outer] at hc
      obtain rfl : conn = c := Option.some.inj hc
      exact hkeeps
    exact {
      frame_eq := h.frame_eq
      filter_eq := h.filter_eq
      outer := h.outer.preserved hok (.call f hin.outer)
      nodup := h.nodup
      outside := h.outside
      inside := h.inside
      fresh := h.fresh
      visited := h.visited
      delivered := fun e he =>
        ⟨(h.delivered e he).nodup, (h.delivered e he).heard, (h.delivered e he).unheard⟩ }
  · exact h

/-- A listener calls a connection, which leaves the listener where it is. -/
lemma own (h : Sound s₀ s) (conn : ℕ) (f : ListCall) {c listener : ℕ}
    (hcurrent : s.current = some (c, listener)) (hok : c = conn → f.removes listener = false) :
    Sound s₀ ((s.onLists conn f).unregister conn f) := by
  obtain ⟨id, place, notified, hin⟩ := exists_of_current hcurrent
  have hlists : Sound s₀ (s.onLists conn f) := by
    apply h.onLists
    rintro id' pc' notified' ⟨hinner, houter⟩
    cases hinner.symm.trans hin.inner
    cases houter.symm.trans hin.outer
    obtain ⟨⟨nodes, hinv⟩, -⟩ := h.inside_notify hin
    have hkeeps : (s.notify conn (.call place listener) notified).KeepsCurrent
        (.call s.bus.thread f) := by
      intro listener' hlistener
      obtain rfl : listener = listener' := Option.some.inj hlistener
      exact hok rfl
    have hcall := hinv.preserved hkeeps (.call f rfl)
    refine ⟨nodes, ?_⟩
    rw [Round.notify, onLists_self]
    exact hcall
  cases f with
  | close =>
    have hne : conn ≠ c := by
      rintro rfl
      cases hok rfl
    have hin' : (s.onLists conn .close).InNotify id c (.call place listener) notified :=
      ⟨hin.inner, hin.outer⟩
    exact hlists.onBus hin' _ (by simpa [ListCall.removes] using hne)
  | _ => exact hlists

/-- A step that keeps the current listener keeps the invariant. -/
lemma preserved (hframe : 1 ≤ s₀.bus.frame.length) (h : Sound s₀ s) (hok : s.KeepsCurrent l)
    (hmoves : Moves s l s') : Sound s₀ s' := by
  cases hmoves with
  | bus hinner hloop hcurrent =>
    have hbus := h.busStep (.of_loop hloop) trivial (h.visited_loop hloop)
      ⟨hcurrent, Dispatch.pc_ne_filter hloop⟩
    rwa [← hinner] at hbus
  | enter hinner hloop hpc => exact h.enter hloop hpc
  | @unprinted e hinner hprint =>
    rw [printFrameDetails_returns (h.frame_eq ▸ hframe)] at hprint
    cases hprint
  | leave hin hpc => exact h.leave hin hpc
  | escape hin => exact h.escape hin
  | inner hin hstep hl => exact h.resume hframe hin hstep (RoundLabel.ne_call hl)
  | own conn f hcurrent =>
    simp only [KeepsCurrent, hcurrent] at hok
    exact h.own conn f hcurrent hok
  | @other thread conn f hthread hlocked =>
    apply h.onLists
    intro id pc notified hin
    simp [locked, hin.inner, hin.outer] at hlocked
  | opened conn hcurrent =>
    obtain ⟨id, place, notified, hin⟩ := exists_of_current hcurrent
    exact h.onBus hin _ rfl

end Sound

end Round

end HdmiCec
