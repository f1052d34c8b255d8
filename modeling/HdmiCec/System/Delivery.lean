import Mathlib.Data.List.Basic
import HdmiCec.System.Filtering
import HdmiCec.System.Listeners
import HdmiCec.System.Reception

/-!
# Who is notified of a frame, and how often

When a reader thread dispatches a frame, the connections in `Bus::listeners` are notified in turn,
and each of them notifies its listeners when its filter lets the frame pass. Both lists may have
duplicates: `open()` and `addFrameListener` append, and `close()` and `removeFrameListener` take
every occurrence away.
-/

namespace HdmiCec

open Lib

/-! ### The listeners of a connection -/

/-- A call of `addFrameListener(listener)` of the connection `id`. -/
def Call.isAdd (id listener : ℕ) (e : Call) : Bool := e = .addFrameListener id listener

/-- A call of `removeFrameListener(listener)` or `close()` of the connection `id`. -/
def Call.isRemoveOrClose (id listener : ℕ) (e : Call) : Bool :=
  e = .removeFrameListener id listener || e.isClose id

/-- The bus was started, where that matters. -/
def Call.returned : Call → Bool
  | openConn _ started | close _ started => started
  | addFrameListener _ _ | removeFrameListener _ _ => true

/-- What the calls do to the listeners of the connection `id`. -/
def Call.onConn (id : ℕ) : Edits Call ℕ where
  adds
    | addFrameListener id' listener => if id' = id then some listener else none
    | _ => none
  removes e listener := e.isRemoveOrClose id listener
  exclusive e a h := by
    cases e with
    | addFrameListener => simp [isRemoveOrClose, isClose]
    | openConn | close | removeFrameListener => cases h

namespace Call

variable {id id' : ℕ} (listener : ℕ) (xs : List ℕ)

lemma onConn_close (id : ℕ) (started : Bool) : (onConn id).apply (.close id started) xs = [] := by
  rw [Edits.apply_of_adds_none rfl]
  simp [onConn, isRemoveOrClose, isClose]

lemma onConn_add (id : ℕ) :
    (onConn id).apply (.addFrameListener id listener) xs = xs ++ [listener] := by
  apply Edits.apply_of_adds
  · simp [onConn]
  · simp [onConn, isRemoveOrClose, isClose]

lemma onConn_remove (id : ℕ) :
    (onConn id).apply (.removeFrameListener id listener) xs = xs.filter (· ≠ listener) := by
  rw [Edits.apply_of_adds_none rfl]
  simp [onConn, isRemoveOrClose, isClose, eq_comm]

/-- The connection a call is about. -/
def about : Call → ℕ
  | openConn id _ | close id _ | addFrameListener id _ | removeFrameListener id _ => id

/-- A call of a function of another connection. -/
lemma onConn_other {e : Call} (h : e.about ≠ id) : (onConn id).apply e xs = xs := by
  apply Edits.apply_of_skips
  · cases e <;> simp_all [onConn, about]
  · intro listener
    cases e <;> simp_all [onConn, isRemoveOrClose, isClose, about]

lemma onConn_open (id id' : ℕ) (started : Bool) :
    (onConn id).apply (.openConn id' started) xs = xs := by
  apply Edits.apply_of_skips rfl
  simp [onConn, isRemoveOrClose, isClose]

end Call

/-- The listeners at the place of a connection, while there is something to say about them: there
are none before it is constructed. -/
def Slot.frameListeners : Slot → Option (List ℕ)
  | absent => some []
  | live c => some c.frameListeners
  | destroyed => none

namespace World

variable {app : App} {w v : World} {a : Act}

/-- The listeners of every connection are what the calls made of them. -/
def ListsAdded (w : World) : Prop :=
  ∀ id xs, (w.conns id).frameListeners = some xs → xs = (Call.onConn id).content w.history

namespace ListsAdded

/-- Only the connections and the calls matter. -/
lemma congr (h : w.ListsAdded) (hconns : v.conns = w.conns) (hhistory : v.history = w.history) :
    v.ListsAdded := by
  unfold ListsAdded
  rw [hconns, hhistory]
  exact h

lemma put {id : ℕ} {slot : Slot} (h : w.ListsAdded)
    (hslot : ∀ xs, slot.frameListeners = some xs → xs = (Call.onConn id).content w.history) :
    (w.put id slot).ListsAdded := by
  intro id' xs hxs
  by_cases hid : id' = id
  · subst hid
    rw [conns_put_self] at hxs
    exact hslot xs hxs
  · rw [conns_put_of_ne w _ hid] at hxs
    exact h id' xs hxs

/-- A call changes the listeners of the connection it is about and those of no other. -/
lemma call {e : Call} (h : w.ListsAdded) (id : ℕ) (c : Conn) (he : e.about = id)
    (hc : c.frameListeners = (Call.onConn id).apply e ((Call.onConn id).content w.history)) :
    ((w.put id (.live c)).record e).ListsAdded := by
  intro id' xs hxs
  rw [record, Edits.content_concat]
  by_cases hid : id' = id
  · subst hid
    simp only [record, conns_put_self, Slot.frameListeners, Option.some.injEq] at hxs
    exact hxs.symm.trans hc
  · simp only [record, conns_put_of_ne w _ hid] at hxs
    rw [Call.onConn_other _ (he ▸ Ne.symm hid)]
    exact h id' xs hxs

lemma opened (h : w.ListsAdded) (id : ℕ) (started : Bool) :
    (w.record (.openConn id started)).ListsAdded := by
  intro id' xs hxs
  rw [record, Edits.content_concat, Call.onConn_open]
  exact h id' xs hxs

lemma construct {id : ℕ} (h : w.ListsAdded) (source : LogicalAddress) (name : String)
    (habsent : w.conns id = .absent) :
    (w.getInstance.put id (.live (.new source name))).ListsAdded := by
  apply (h.congr (getInstance_conns w) (getInstance_history w)).put
  intro xs hxs
  rw [getInstance_history]
  apply h id xs
  rw [habsent]
  exact hxs

lemma step (h : w.ListsAdded) (hmove : Moves app w a v) : v.ListsAdded := by
  cases hmove with
  | construct habsent => exact h.construct _ _ habsent
  | constructOpened habsent _ => exact ((h.construct _ _ habsent).opened _ true).congr rfl rfl
  | constructRefused _ _ =>
    exact (h.congr (getInstance_conns w) (getInstance_history w)).opened _ false
  | opened _ _ => exact (h.opened _ true).congr rfl rfl
  | openRefused _ _ => exact h.opened _ false
  | @closed id c _ _ =>
    have hclose := (Call.onConn_close ((Call.onConn id).content w.history) id true).symm
    exact (h.call id { c with frameListeners := [] } rfl hclose).congr rfl rfl
  | @closeRefused id c _ _ =>
    have hclose := (Call.onConn_close ((Call.onConn id).content w.history) id false).symm
    exact h.call id { c with frameListeners := [] } rfl hclose
  | @addFrameListener id listener c hc =>
    have hlive := h id _ (congrArg Slot.frameListeners hc)
    apply h.call id _ rfl
    rw [Call.onConn_add, ← hlive]
  | @removeFrameListener id listener c hc =>
    have hlive := h id _ (congrArg Slot.frameListeners hc)
    apply h.call id _ rfl
    rw [Call.onConn_remove, ← hlive]
  | @setSource id source c hc =>
    apply h.put
    intro xs hxs
    exact h id xs ((congrArg Slot.frameListeners hc).trans hxs)
  | destroy _ =>
    apply h.put
    intro xs hxs
    cases hxs
  | _ => exact h

end ListsAdded

/-! ### The frames -/

/-- A send does not touch what was received. -/
lemma received_queued (s : State) (result : Except Exn FrameQueue) :
    (s.queued result).received = s.received := by
  cases result <;> rfl

/-- Every frame that was received has a header. -/
def ReceivesHeaders (w : World) : Prop := ∀ p ∈ w.sys.received, 1 ≤ p.frame.length

lemma received_getInstance (w : World) : w.getInstance.sys.received = w.sys.received := by
  unfold getInstance
  split
  · rfl
  · simp [State.received, ReaderPC.held]

lemma ReceivesHeaders.of_step {l : Label} {s : State} (h : w.ReceivesHeaders)
    (hstep : Step w.sys l s) : ∀ p ∈ s.received, 1 ≤ p.frame.length := by
  intro p hp
  rcases hstep.received_cases hp with hp | ⟨frame, hlen, rfl⟩
  · exact h p hp
  · exact Nat.one_le_iff_ne_zero.mpr hlen

lemma ReceivesHeaders.step (h : w.ReceivesHeaders) (hmove : Moves app w a v) :
    v.ReceivesHeaders := by
  cases hmove with
  | sys hstep _ => exact h.of_step hstep
  | dispatch hpc =>
    intro p hp
    exact h.of_step (.reader hpc .dispatch) p hp
  | construct | constructOpened | constructRefused =>
    intro p hp
    apply h p
    rw [← received_getInstance]
    exact hp
  | sendAsync | sendToAsync =>
    intro p hp
    apply h p
    rw [← received_queued]
    exact hp
  | _ => exact h

end World

/-! ### One round -/

/-- The calls of `notify` of the application's listeners in a log: the connection, the listener and
the frame. -/
def notified (log : List Notice) : List (ℕ × ℕ × CECFrame) :=
  log.filterMap fun
    | .notified id listener frame => some (id, listener, frame)
    | .lib _ | .dangling _ => none

section

variable {app : App} (happ : ∀ listener frame, app listener frame = .ok ()) {frame : CECFrame}

@[simp] lemma notified_append (log log' : List Notice) :
    notified (log ++ log') = notified log ++ notified log' := List.filterMap_append

@[simp] lemma notified_quiet {α : Type} (m : Ccec α) : notified (Notice.quiet m).log = [] := by
  simp [notified, Notice.quiet, List.filterMap_map]

lemma notified_flatMap {α : Type} (f : α → List Notice) (xs : List α) :
    notified (xs.flatMap f) = xs.flatMap fun x => notified (f x) := by
  simp [notified, List.filterMap_flatMap]

include happ

/-- The calls of `notify` of the listeners of a connection, in order. -/
lemma each_notify_spec (id : ℕ) (text : String) (listeners : List ℕ) :
    (Logged.each (fun listener => do
      Notice.quiet (ccecLog logDebug text)
      app.notify id frame listener) listeners).result = .ok () ∧
    notified (Logged.each (fun listener => do
      Notice.quiet (ccecLog logDebug text)
      app.notify id frame listener) listeners).log =
        listeners.map fun listener => (id, listener, frame) := by
  have hlog : (Notice.quiet (ccecLog logDebug text)).result = .ok () := rfl
  have hone : ∀ listener ∈ listeners, (do
      Notice.quiet (ccecLog logDebug text)
      app.notify id frame listener : Logged Exn Notice Unit).result = .ok () := by
    intro listener _
    rw [Logged.result_bind_of_ok hlog]
    exact happ listener frame
  refine ⟨Logged.result_each hone, ?_⟩
  rw [Logged.log_each hone, notified_flatMap, List.map_eq_flatMap]
  apply List.flatMap_congr
  intro listener _
  exact (congrArg notified (Logged.log_bind_of_ok hlog)).trans rfl

/-- A connection notifies its listeners when its filter lets the frame pass. -/
lemma Conn.notify_spec (id : ℕ) (c : Conn) (h : 1 ≤ frame.length) :
    (c.notify app id frame).result = .ok () ∧ notified (c.notify app id frame).log =
      if frame.IsFor c.busFrameFilter then
        c.frameListeners.map fun listener => (id, listener, frame)
      else [] := by
  have hfiltered : (Notice.quiet (Connection.isFiltered c.busFrameFilter frame)).result =
      .ok (!decide (frame.IsFor c.busFrameFilter)) := result_isFiltered _ h
  rw [Conn.notify, Logged.result_bind_of_ok hfiltered, Logged.log_bind_of_ok hfiltered,
    notified_append, notified_quiet, List.nil_append]
  by_cases hfor : frame.IsFor c.busFrameFilter
  · simp only [hfor, decide_true, Bool.not_true, Bool.not_false, if_true]
    exact each_notify_spec happ id _ c.frameListeners
  · obtain ⟨header, hheader⟩ := header_returns h
    have hheader' : (Notice.quiet (Header.ofFrame frame 0)).result = .ok header := hheader
    simp only [hfor, decide_false, Bool.not_false, Bool.not_true, Bool.false_eq_true, if_false]
    rw [Logged.result_bind_of_ok hheader', Logged.log_bind_of_ok hheader', notified_append,
      notified_quiet]
    exact ⟨rfl, rfl⟩

end

namespace World

variable {app : App} {w v : World} {a : Act} {frame : CECFrame}

/-- The connection `id` is there, and the frame is for its source. -/
def accepts (w : World) (frame : CECFrame) (id : ℕ) : Bool :=
  match w.conns id with
  | .live c => frame.IsFor c.source
  | .absent | .destroyed => false

/-- What the calls so far ask for: the connections in the order of the `open()` calls that no
`close()` has undone, and for each of them that accepts the frame its listeners in the order of the
`addFrameListener` calls that nothing has undone. -/
def deliveries (w : World) (frame : CECFrame) : List (ℕ × ℕ × CECFrame) :=
  (Call.onBus.survivors w.history).flatMap fun id =>
    if w.accepts frame id then
      ((Call.onConn id).survivors w.history).map fun listener => (id, listener, frame)
    else
      []

/-- A connection on the bus that accepts the frame notifies its listeners. -/
lemma notify_spec (happ : ∀ listener frame, app listener frame = .ok ()) (hadded : w.ListsAdded)
    (hlive : w.ListsLive) (hfilters : w.FiltersBySource) (h : 1 ≤ frame.length) {id : ℕ}
    (hid : id ∈ w.listeners) :
    (w.notify app frame id).result = .ok () ∧ notified (w.notify app frame id).log =
      if w.accepts frame id then
        ((Call.onConn id).survivors w.history).map fun listener => (id, listener, frame)
      else [] := by
  obtain ⟨c, hc⟩ := hlive id hid
  obtain ⟨hresult, hnotified⟩ := Conn.notify_spec happ id c h
  have hlisteners : c.frameListeners = (Call.onConn id).survivors w.history := by
    rw [← Edits.content_eq_survivors]
    exact hadded id _ (congrArg Slot.frameListeners hc)
  rw [hfilters id c hc, hlisteners] at hnotified
  simp only [World.notify, accepts, hc, decide_eq_true_eq]
  exact ⟨hresult, hnotified⟩

/-- A round notifies the listeners of the connections on the bus. -/
lemma round_spec (happ : ∀ listener frame, app listener frame = .ok ()) (hlist : w.ListsOpened)
    (hadded : w.ListsAdded) (hlive : w.ListsLive) (hfilters : w.FiltersBySource)
    (h : 1 ≤ frame.length) :
    (w.round app frame).result = .ok () ∧
      notified (w.round app frame).log = w.deliveries frame := by
  have hlog : (Notice.quiet (if w.listeners.length = 0 then
      ccecLog logDebug "Bus::Reader discarding msgs for lack of listener\r\n" else
        pure ())).result = .ok () := by
    split <;> rfl
  have hnotify : (Notice.quiet (ccecLog logDebug
    "Bus::Reader::run() notify Listener\r\n")).result = .ok () := rfl
  have hprint : (Notice.quiet (DriverImpl.printFrameDetails frame)).result = .ok () :=
    printFrameDetails_returns h
  have hone : ∀ id ∈ w.listeners, (do
      Notice.quiet (ccecLog logDebug "Bus::Reader::run() notify Listener\r\n")
      Notice.quiet (DriverImpl.printFrameDetails frame)
      w.notify app frame id : Logged Exn Notice Unit).result = .ok () := by
    intro id hid
    rw [Logged.result_bind_of_ok hnotify, Logged.result_bind_of_ok hprint]
    exact (notify_spec happ hadded hlive hfilters h hid).1
  have hdispatch : (w.dispatch app frame).result = .ok () := by
    rw [dispatch, Logged.result_bind_of_ok hlog]
    exact Logged.result_each hone
  rw [round, Logged.result_catching_of_ok hdispatch]
  refine ⟨hdispatch, ?_⟩
  rw [dispatch, Logged.log_bind_of_ok hlog, notified_append, notified_quiet, List.nil_append,
    Logged.log_each hone, notified_flatMap, deliveries, ← Edits.content_eq_survivors, ← hlist]
  apply List.flatMap_congr
  intro id hid
  rw [Logged.log_bind_of_ok hnotify, Logged.log_bind_of_ok hprint, notified_append, notified_append,
    notified_quiet, notified_quiet, List.nil_append, List.nil_append]
  exact (notify_spec happ hadded hlive hfilters h hid).2

/-! ### Counting -/

/-- A listener is behind a connection as often as it was added since it was removed or the
connection was closed. -/
lemma count_onConn (id listener : ℕ) (history : List Call) :
    ((Call.onConn id).content history).count listener =
      countSince (Call.isAdd id listener) (Call.isRemoveOrClose id listener) history := by
  rw [Edits.count_content]
  apply countSince_congr
  · intro e _
    cases e with
    | addFrameListener id' listener' =>
      by_cases hid : id' = id <;> simp [Call.onConn, Call.isAdd, hid]
    | openConn | close | removeFrameListener => simp [Call.onConn, Call.isAdd]
  · intro e _
    rfl

lemma count_deliveries (w : World) (frame : CECFrame) (id listener : ℕ) :
    (w.deliveries frame).count (id, listener, frame) =
      if w.accepts frame id then (Call.onBus.content w.history).count id *
        ((Call.onConn id).content w.history).count listener else 0 := by
  have hpairs : w.deliveries frame = (Call.onBus.content w.history).flatMap fun id =>
      (if w.accepts frame id then ((Call.onConn id).content w.history).map (·, frame) else []).map
        (Prod.mk id) := by
    rw [deliveries, Edits.content_eq_survivors]
    apply List.flatMap_congr
    intro id _
    rw [Edits.content_eq_survivors]
    split
    · rw [List.map_map]
      rfl
    · rfl
  rw [hpairs, count_flatMap_pair]
  split
  · rw [List.count_map_of_injective _ _ (Prod.mk_left_injective frame)]
  · simp

/-! ### Runs -/

/-- `open()` and `close()` are called while the bus is started, `setSource` is not called, and no
connection is destroyed that is still on the bus. -/
def routine (w : World) (a : Act) : Bool :=
  w.closedFirst a && match a with
    | .construct _ _ true _ | .openConn _ | .closeConn _ => w.sys.started
    | .setSource _ _ => false
    | _ => true

/-- The calls of `open()` and `close()` so far returned. -/
def CallsReturned (w : World) : Prop := ∀ e ∈ w.history, e.returned = true

lemma CallsReturned.record {e : Call} (h : w.CallsReturned) (he : e.returned = true) :
    (w.record e).CallsReturned := by
  intro e' he'
  rcases List.mem_append.mp he' with he' | he'
  · exact h e' he'
  · exact List.mem_singleton.mp he' ▸ he

lemma CallsReturned.step (h : w.CallsReturned) (ha : w.routine a = true)
    (hmove : Moves app w a v) : v.CallsReturned := by
  have hinstance : w.getInstance.CallsReturned := by
    simpa [CallsReturned] using h
  cases hmove with
  | construct _ => exact hinstance
  | constructOpened _ _ => exact hinstance.record rfl
  | opened _ _ | closed _ _ | addFrameListener _ | removeFrameListener _ => exact h.record rfl
  | constructRefused _ hstarted | openRefused _ hstarted | closeRefused _ hstarted =>
    simp [routine, hstarted] at ha
  | _ => exact h

/-- When the calls returned, a connection is on the bus as often as `open()` was called since the
last `close()`. -/
lemma CallsReturned.openings_eq (h : w.CallsReturned) (id : ℕ) :
    w.openings id = countSince (Call.isOpen id) (Call.isClose id) w.history := by
  apply countSince_congr
  · intro e he
    have hreturned := h e he
    cases e <;> simp_all [Call.returned, Call.isOpen]
  · intro e he
    have hreturned := h e he
    cases e <;> simp_all [Call.returned, Call.isClose]

/-- What holds when the calls are routine. -/
structure Routine (w : World) : Prop where
  opened : w.ListsOpened
  added : w.ListsAdded
  live : w.ListsLive
  filters : w.FiltersBySource
  headers : w.ReceivesHeaders
  returned : w.CallsReturned

lemma Routine.init : World.init.Routine where
  opened := rfl
  added := by
    intro id xs hxs
    cases hxs
    rfl
  live := by
    intro id hid
    cases hid
  filters := by
    intro id c hc
    cases hc
  headers := by
    intro p hp
    cases hp
  returned := by
    intro e he
    cases he

lemma Routine.step (h : w.Routine) (ha : w.routine a = true) (hmove : Moves app w a v) :
    v.Routine := by
  have hclosed : w.closedFirst a = true := (Bool.and_eq_true_iff.mp ha).1
  have hsource : w.keepsSource a = true := by
    cases a with
    | setSource => simp [routine] at ha
    | _ => rfl
  exact ⟨h.opened.step hmove, h.added.step hmove, h.live.step h.opened hclosed hmove,
    h.filters.step hsource hmove, h.headers.step hmove, h.returned.step ha hmove⟩

end World

open World

/-- When a reader thread dispatches a frame, the notifications are those that the calls ask for, in
the order of registration. A listener of a connection is notified as often as `open()` was called
since the last `close()`, times the `addFrameListener` calls since it was last removed or the
connection closed, when the frame is for the source of the connection; otherwise it is not
notified. -/
theorem frame_delivery {app : App} (happ : ∀ listener frame, app listener frame = .ok ())
    {w v : World} (h : Run (World.step app) (fun w a => w.routine a = true) .init w) {i : ℕ}
    {p : FramePtr} (hpc : w.sys.readers[i]? = some (.dispatch p))
    (hstep : w.step app (.sys (.reader i)) = some v) :
    ∃ log, v.notices = w.notices ++ log ∧ notified log = w.deliveries p.frame ∧
      ∀ id c listener, w.conns id = .live c →
        (notified log).count (id, listener, p.frame) =
          if p.frame.IsFor c.source then
            countSince (Call.isOpen id) (Call.isClose id) w.history *
              countSince (Call.isAdd id listener) (Call.isRemoveOrClose id listener) w.history
          else 0 := by
  have hw : w.Routine := by
    apply h.invariant _ Routine.init
    intro w a v ha hstep hw
    exact hw.step ha (Moves.of_step hstep).2
  have hreceived : p ∈ w.sys.received := by
    apply List.mem_append_right
    apply List.mem_append_left
    exact List.mem_flatMap.mpr ⟨_, List.mem_of_getElem? hpc, List.mem_singleton_self p⟩
  have hround := (round_spec happ hw.opened hw.added hw.live hw.filters
    (hw.headers p hreceived)).2
  refine ⟨(w.round app p.frame).log, ?_, hround, ?_⟩
  · have hmove := (Moves.of_step hstep).2
    cases hmove with
    | sys _ hnone => simp [State.dispatched, hpc] at hnone
    | dispatch hpc' =>
      rw [hpc, Option.some.injEq, ReaderPC.dispatch.injEq] at hpc'
      subst hpc'
      rfl
  · intro id c listener hc
    rw [hround, count_deliveries, ← hw.opened, hw.opened.count, hw.returned.openings_eq,
      count_onConn]
    simp [accepts, hc]

/-- A connection for 4 is opened twice, with the listener 7 added twice and the listener 8 added and
removed, and so is one that is not registered. A frame for 4 is dispatched. -/
theorem frame_delivery_twice_opened :
    ∃ log, (notified log).count (0, 7, ⟨[0x04, 0x36], by decide⟩) = 4 ∧
      (notified log).count (0, 8, ⟨[0x04, 0x36], by decide⟩) = 0 := by
  obtain ⟨w, hrun, hw⟩ := Run.of_execSat
    (show execSat (World.step fun _ _ => .ok ()) (fun w a => w.routine a = true)
      (fun w => (w.sys.readers[0]? = some (.dispatch ⟨0, ⟨[0x04, 0x36], by decide⟩⟩) ∧
        w.history = [.openConn 0 true, .openConn 0 true, .openConn 1 true, .addFrameListener 0 7,
          .addFrameListener 0 8, .addFrameListener 0 7, .removeFrameListener 0 8] ∧
        (w.step (fun _ _ => .ok ()) (.sys (.reader 0))).isSome = true) ∧
        (w.liveSat 0 fun c => c.source = .ofInt 4) = true) .init
      (startUp.map .sys ++ [.construct 0 (.ofInt 4) true "playback", .openConn 0,
        .construct 1 (.ofInt 15) true "sniffer", .addFrameListener 0 7, .addFrameListener 0 8,
        .addFrameListener 0 7, .removeFrameListener 0 8] ++
        (reception ⟨[0x04, 0x36], by decide⟩ 7).map .sys) = true by decide +kernel)
  obtain ⟨⟨hpc, hhistory, hnext⟩, hlive⟩ := of_decide_eq_true hw
  obtain ⟨c, hc, hsource⟩ := exists_of_liveSat hlive
  have hsource : c.source = .ofInt 4 := of_decide_eq_true hsource
  obtain ⟨v, hstep⟩ := Option.isSome_iff_exists.mp hnext
  obtain ⟨log, -, -, hcount⟩ := frame_delivery (fun _ _ => rfl) hrun hpc hstep
  refine ⟨log, ?_, ?_⟩
  · rw [hcount 0 c 7 hc, hsource, hhistory]
    decide
  · rw [hcount 0 c 8 hc, hsource, hhistory]
    decide

end HdmiCec
