import HdmiCec.System.Round

/-!
# Both loops of the dispatch, with listeners that call the library

What a round of `Bus::Reader::run` does, whatever its listeners call. With listeners that only
return it is the dispatch of `World` (`Round.dispatch_refines`), and with listeners that do not
remove themselves no iterator is left behind and none of those that stay is missed
(`Round.round_visits_each_once`).
-/

namespace HdmiCec

open Lib

namespace Round

variable {s s' s₀ : Round} {l : RoundLabel} {id conn : ℕ} {pc : NotifyPC}
  {notified : List ListenerNode}

/-! ### The round comes to its end -/

/-- The call of `notify` has the thread, the mutex, the filter and the frame of the round. -/
def Hosts (s : Round) (conn : ℕ) (d : Dispatch) : Prop :=
  (s.resume conn d).notify conn d.pc d.notified = d

lemma hosts_iff {d : Dispatch} : s.Hosts conn d ↔
    d.thread = s.bus.thread ∧ d.mutex = ⟨some s.bus.thread, 1⟩ ∧
      d.busFrameFilter = s.busFrameFilter conn ∧ d.frame = s.bus.frame := by
  obtain ⟨thread, mutex, filter, frame, lists, pc, notified⟩ := d
  simp only [Hosts, notify, resume, Function.update_self, Dispatch.mk.injEq, and_true]
  constructor
  · rintro ⟨rfl, rfl, rfl, rfl⟩
    exact ⟨rfl, rfl, rfl, rfl⟩
  · rintro ⟨rfl, rfl, rfl, rfl⟩
    exact ⟨rfl, rfl, rfl, rfl⟩

lemma Hosts.of_step {d d' : Dispatch} {k : NotifyLabel} (h : s.Hosts conn d)
    (hstep : Dispatch.Step d k d') : s.Hosts conn d' := by
  obtain ⟨hthread, hmutex, hfilter, hframe⟩ := hosts_iff.mp h
  obtain ⟨hthread', hmutex'⟩ := hstep.mutex_eq
  obtain ⟨hframe', hfilter'⟩ := hstep.frame_eq
  exact hosts_iff.mpr ⟨hthread'.trans hthread, hmutex'.trans hmutex, hfilter'.trans hfilter,
    hframe'.trans hframe⟩

lemma resume_resume (s : Round) (conn : ℕ) (d d' : Dispatch) :
    (s.resume conn d).resume conn d' = s.resume conn d' := by
  simp only [resume, Function.update_idem]

/-- A step of the call of `notify` is a step of the round. -/
lemma exists_step {d d' : Dispatch} {k : NotifyLabel} (houter : s.bus.pc = .call id conn)
    (hosts : s.Hosts conn d) (hok : d.KeepsCurrent k) (hstep : d.step k = some d') :
    ∃ l, (s.resume conn d).KeepsCurrent l ∧
      (s.resume conn d).step l = some (s.resume conn d') := by
  have hinner : ∀ k, d.step k = some d' →
      (s.resume conn d).inNotify k = some (s.resume conn d') := by
    intro k hk
    have hpc : (s.resume conn d).bus.pc = .call id conn := houter
    have hd : (s.resume conn d).notify conn d.pc d.notified = d := hosts
    have hsome : (s.resume conn d).inner = some (d.pc, d.notified) := rfl
    simp only [inNotify, hsome, hpc, hd, hk, Option.map_some, resume_resume]
  cases k with
  | loop => exact ⟨.notify, trivial, hinner _ hstep⟩
  | ret => exact ⟨.ret, trivial, hinner _ hstep⟩
  | throw e => exact ⟨.throw e, trivial, hinner _ hstep⟩
  | call thread f =>
    obtain ⟨hthread, hmutex, -⟩ := hosts_iff.mp hosts
    cases Dispatch.Step.of_step (hmutex.trans (by rw [hthread])) hstep with
    | @call place listener f hpc =>
      have hin : (s.resume conn d).InNotify id conn (.call place listener) d.notified :=
        ⟨by rw [← hpc]; rfl, houter⟩
      have hkeeps : f.removes listener = false := hok listener (by rw [hpc]; rfl)
      have hlists : (s.resume conn d).onLists conn f =
          s.resume conn { d with frameListeners := f.apply d.frameListeners } := by
        simp only [onLists, resume, Function.update_self, Function.update_idem]
      refine ⟨.call s.bus.thread conn f, ?_, ?_⟩
      · simp only [KeepsCurrent, hin.current]
        exact fun _ => hkeeps
      · have hcall : (s.resume conn d).call s.bus.thread conn f =
            some (((s.resume conn d).onLists conn f).unregister conn f) := by
          have hthread : s.bus.thread = (s.resume conn d).bus.thread := rfl
          rw [call, if_pos hthread, hin.current]
        rw [step, hcall, hlists]
        cases f with
        | close => cases hkeeps
        | _ => rfl

lemma InNotify.resume_self (hin : s.InNotify id conn pc notified) :
    s.resume conn (s.notify conn pc notified) = s := by
  have hsame : ({ s with inner := some (pc, notified) } : Round) = s := by
    rw [← hin.inner]
  exact (resume_eq rfl).trans hsame

/-- A run of the call of `notify` is a run of the round. -/
lemma run_resume {d d' : Dispatch} (houter : s.bus.pc = .call id conn) (hosts : s.Hosts conn d)
    (h : Run Dispatch.step Dispatch.KeepsCurrent d d') :
    s.Hosts conn d' ∧ Run step KeepsCurrent (s.resume conn d) (s.resume conn d') := by
  induction h with
  | refl => exact ⟨hosts, .refl⟩
  | tail _ hok hnext ih =>
    obtain ⟨hosts', hrun⟩ := ih
    obtain ⟨hthread, hmutex, -⟩ := hosts_iff.mp hosts'
    obtain ⟨l, hl, hstep⟩ := exists_step houter hosts' hok hnext
    have hmoves := Dispatch.Step.of_step (hmutex.trans (by rw [hthread])) hnext
    exact ⟨hosts'.of_step hmoves, .tail hrun hl hstep⟩

/-- The reader can come to the end of the loop over `bus.listeners`. -/
def Finishes (s : Round) : Prop := ∃ u, Run step KeepsCurrent s u ∧ u.bus.pc.ended = true

lemma Finishes.head (hstep : s.step .bus = some s') (h : s'.Finishes) : s.Finishes := by
  obtain ⟨u, hrun, hended⟩ := h
  exact ⟨u, .head (l := .bus) trivial hstep hrun, hended⟩

variable {before after : List ListenerNode} {n : ListenerNode}

/-- The reader stands before the first of the places `after`. -/
structure Ready (before after : List ListenerNode) (s : Round) : Prop where
  inner : s.inner = none
  split : s.bus.frameListeners.nodes = before ++ after
  outer : s.bus.pc = .test (after.head?.map ListenerNode.id)
  header : 1 ≤ s.bus.frame.length

/-- The reader goes on behind a place. -/
lemma finishes_of_advance (hinner : s.inner = none)
    (hsplit : s.bus.frameListeners.nodes = before ++ n :: after) (hpc : s.bus.pc = .advance n.id)
    (hheader : 1 ≤ s.bus.frame.length)
    (hrest : ∀ s, Ready (before ++ [n]) after s → s.Finishes) : s.Finishes := by
  have hloop : s.bus.loop =
      some { s.bus with pc := .test (after.head?.map ListenerNode.id) } := by
    simp only [Dispatch.loop, hpc, NodeList.next_of_split hsplit]
  have hstep : s.step .bus = some (s.busGoto (.test (after.head?.map ListenerNode.id))) := by
    simp only [step, busLoop, hinner, hloop, busGoto]
  refine .head hstep (hrest _ ⟨hinner, ?_, rfl, hheader⟩)
  rw [List.append_assoc]
  exact hsplit

lemma Finishes.of_run (hrun : Run step KeepsCurrent s s') (h : s'.Finishes) : s.Finishes := by
  obtain ⟨u, hrun', hended⟩ := h
  exact ⟨u, hrun.trans hrun', hended⟩

/-- `notify` for a place is at its end. -/
lemma finishes_of_ended (hin : s.InNotify n.id n.listener pc notified) (hended : pc.ended = true)
    (hsplit : s.bus.frameListeners.nodes = before ++ n :: after)
    (hheader : 1 ≤ s.bus.frame.length)
    (hrest : ∀ s, Ready (before ++ [n]) after s → s.Finishes) : s.Finishes := by
  have hinner := hin.inner
  cases pc with
  | done | filtered =>
    have hstep : s.step .bus = some { s.busGoto (.advance n.id) with
        inner := none, delivered := s.delivered ++ [(n, notified)] } := by
      simp only [step, busLoop, hinner, hin.outer]
    exact .head hstep (finishes_of_advance rfl hsplit rfl hheader hrest)
  | raised e =>
    have hstep : s.step .bus = some { s.busGoto (.raised e) with inner := none } := by
      simp only [step, busLoop, hinner, hin.outer]
    exact .head hstep ⟨_, .refl, rfl⟩
  | _ => cases hended

/-- The reader is in `notify` for a place. -/
lemma finishes_of_notify {nodes : List ListenerNode} (hin : s.InNotify n.id n.listener pc notified)
    (hinv : Dispatch.Inv nodes (s.notify n.listener pc notified))
    (hsplit : s.bus.frameListeners.nodes = before ++ n :: after)
    (hheader : 1 ≤ s.bus.frame.length)
    (hrest : ∀ s, Ready (before ++ [n]) after s → s.Finishes) : s.Finishes := by
  obtain ⟨d, hrun, hended⟩ := hinv.finishes
  have hosts : s.Hosts n.listener (s.notify n.listener pc notified) :=
    hosts_iff.mpr ⟨rfl, rfl, rfl, rfl⟩
  have hresume := (run_resume hin.outer hosts hrun).2
  rw [hin.resume_self] at hresume
  exact .of_run hresume (finishes_of_ended ⟨rfl, hin.outer⟩ hended hsplit hheader hrest)

/-- The places that are left have their turn one after the other. -/
lemma Ready.finishes (h : Ready before after s) : s.Finishes := by
  induction after generalizing before s with
  | nil =>
    have hpc : s.bus.pc = .test none := h.outer
    have hloop : s.bus.loop = some { s.bus with pc := .done } := by
      simp only [Dispatch.loop, hpc]
    have hstep : s.step .bus = some (s.busGoto .done) := by
      simp only [step, busLoop, h.inner, hloop, busGoto]
    exact .head hstep ⟨_, .refl, rfl⟩
  | cons n after ih =>
    have hpc : s.bus.pc = .test (some n.id) := h.outer
    have hloop : s.bus.loop = some { s.bus with
        pc := .call n.id n.listener, notified := s.bus.notified ++ [n] } := by
      simp only [Dispatch.loop, hpc, NodeList.deref_of_split h.split]
    have hstep : s.step .bus = some { s with
        bus := { s.bus with pc := .call n.id n.listener, notified := s.bus.notified ++ [n] }
        inner := some (.filter, []) } := by
      simp only [step, busLoop, h.inner, hloop, printFrameDetails_returns h.header]
    exact .head hstep (finishes_of_notify ⟨rfl, rfl⟩ (Dispatch.inv_start ..) h.split h.header
      fun s hs => ih hs)

/-- However far it is, the round comes to its end when the listeners return. -/
lemma Sound.finishes (hframe : 1 ≤ s₀.bus.frame.length) (h : Sound s₀ s) : s.Finishes := by
  have hheader : 1 ≤ s.bus.frame.length := h.frame_eq ▸ hframe
  obtain ⟨-, before, after, hwalked, hat⟩ := h.outer
  cases hinner : s.inner with
  | some p =>
    obtain ⟨pc, notified⟩ := p
    obtain ⟨id, conn, houter, ⟨nodes, hinv⟩, -⟩ := h.inside pc notified hinner
    rw [houter] at hat
    obtain ⟨before', rfl⟩ := hat
    have hsplit := hwalked.split.trans (List.append_assoc _ _ _)
    exact finishes_of_notify (n := ⟨id, conn⟩) ⟨hinner, houter⟩ hinv hsplit hheader
      fun s hs => hs.finishes
  | none =>
    cases hpc : s.bus.pc with
    | test it =>
      rw [hpc] at hat
      obtain rfl : it = _ := hat
      exact Ready.finishes ⟨hinner, hwalked.split, hpc, hheader⟩
    | advance id =>
      rw [hpc] at hat
      obtain ⟨before', n, rfl, rfl⟩ := hat
      exact finishes_of_advance hinner (hwalked.split.trans (List.append_assoc _ _ _)) hpc hheader
        fun s hs => hs.finishes
    | filter => exact absurd hpc (h.outside hinner).2
    | call id conn =>
      have hnone := (h.outside hinner).1
      rw [hpc] at hnone
      cases hnone
    | dangling =>
      rw [hpc] at hat
      exact hat.elim
    | _ => exact ⟨s, .refl, by rw [hpc]; rfl⟩

/-! ### Listeners that only return -/

/-- What a place of `bus.listeners` notifies when the listeners only return. -/
def due (s : Round) (place : ListenerNode) : List ListenerNode :=
  if s.bus.frame.IsFor (s.busFrameFilter place.listener) then
    (s.frameListeners place.listener).nodes
  else []

/-- A call of `notify` with listeners that only return. -/
lemma run_notify (hin : s.InNotify id conn .filter []) (hheader : 1 ≤ s.bus.frame.length) :
    ∃ pc, (pc = .done ∨ pc = .filtered) ∧ Run step KeepsCurrent s
      { s with inner := some (pc, s.due ⟨id, conn⟩) } := by
  have hfilter : (Connection.isFiltered (s.notify conn .filter []).busFrameFilter
      (s.notify conn .filter []).frame).result = _ := result_isFiltered _ hheader
  have hosts : s.Hosts conn (s.notify conn .filter []) := hosts_iff.mpr ⟨rfl, rfl, rfl, rfl⟩
  by_cases hfor : s.bus.frame.IsFor (s.busFrameFilter conn)
  · have hrun : Run Dispatch.step Dispatch.KeepsCurrent (s.notify conn .filter [])
        (s.notify conn .done (s.frameListeners conn).nodes) := by
      refine .head (l := .loop) trivial (t := s.notify conn (.test (s.frameListeners conn).begin) [])
        ?_ (Dispatch.run_returns (List.nil_append _).symm rfl)
      simp only [Dispatch.step, Dispatch.loop, hfilter]
      simp [notify, hfor]
    have hresume := (run_resume hin.outer hosts hrun).2
    rw [hin.resume_self, resume_eq rfl] at hresume
    refine ⟨.done, .inl rfl, ?_⟩
    rw [due, if_pos hfor]
    exact hresume
  · have hrun : Run Dispatch.step Dispatch.KeepsCurrent (s.notify conn .filter [])
        (s.notify conn .filtered []) := by
      refine .tail .refl (l := .loop) trivial ?_
      simp only [Dispatch.step, Dispatch.loop, hfilter]
      simp [notify, hfor]
    have hresume := (run_resume hin.outer hosts hrun).2
    rw [hin.resume_self, resume_eq rfl] at hresume
    refine ⟨.filtered, .inr rfl, ?_⟩
    rw [due, if_neg hfor]
    exact hresume

/-- The reader has passed the places, each with what it was due. -/
def passed (s : Round) (places : List ListenerNode) (pc : NotifyPC) : Round :=
  { s with
    bus := { s.bus with pc := pc, notified := s.bus.notified ++ places }
    delivered := s.delivered ++ places.map fun place => (place, s.due place) }

lemma run_place (h : Ready before (n :: after) s) :
    Run step KeepsCurrent s (s.passed [n] (.test (after.head?.map ListenerNode.id))) := by
  have hpc : s.bus.pc = .test (some n.id) := h.outer
  have hloop : s.bus.loop = some { s.bus with
      pc := .call n.id n.listener, notified := s.bus.notified ++ [n] } := by
    simp only [Dispatch.loop, hpc, NodeList.deref_of_split h.split]
  have henter : s.step .bus = some { s with
      bus := { s.bus with pc := .call n.id n.listener, notified := s.bus.notified ++ [n] }
      inner := some (.filter, []) } := by
    simp only [step, busLoop, h.inner, hloop, printFrameDetails_returns h.header]
  have hin : ({ s with
      bus := { s.bus with pc := .call n.id n.listener, notified := s.bus.notified ++ [n] }
      inner := some (.filter, []) } : Round).InNotify n.id n.listener .filter [] := ⟨rfl, rfl⟩
  refine .head (l := .bus) trivial henter ?_
  obtain ⟨pc, hend, hrun⟩ := run_notify hin h.header
  have hleave : ({ s with
      bus := { s.bus with pc := .call n.id n.listener, notified := s.bus.notified ++ [n] }
      inner := some (pc, s.due n) } : Round).step .bus =
      some { s.passed [n] (.advance n.id) with inner := none } := by
    rcases hend with rfl | rfl <;> rfl
  have hadvance : ({ s.passed [n] (.advance n.id) with inner := none } : Round).step .bus =
      some (s.passed [n] (.test (after.head?.map ListenerNode.id))) := by
    have hnext : (s.passed [n] (.advance n.id)).bus.loop =
        some (s.passed [n] (.test (after.head?.map ListenerNode.id))).bus := by
      simp only [passed, Dispatch.loop, NodeList.next_of_split h.split]
    simp only [step, busLoop, hnext]
    simp only [passed, h.inner]
  exact hrun.trans (.head (l := .bus) trivial hleave (.tail .refl (l := .bus) trivial hadvance))

/-- All places have their turn. -/
lemma run_places (h : Ready before after s) : Run step KeepsCurrent s (s.passed after .done) := by
  induction after generalizing before s with
  | nil =>
    have hpc : s.bus.pc = .test none := h.outer
    have hloop : s.bus.loop = some { s.bus with pc := .done } := by
      simp only [Dispatch.loop, hpc]
    refine .tail .refl (l := .bus) trivial ?_
    simp only [step, busLoop, h.inner, hloop]
    simp [passed, h.inner]
  | cons n after ih =>
    have hsplit : s.bus.frameListeners.nodes = (before ++ [n]) ++ after := by
      rw [h.split, List.append_assoc]
      rfl
    have hrest := ih (s := s.passed [n] (.test (after.head?.map ListenerNode.id)))
      ⟨h.inner, hsplit, rfl, h.header⟩
    have hpassed : (s.passed [n] (.test (after.head?.map ListenerNode.id))).passed after .done =
        s.passed (n :: after) .done := by
      simp [passed, due]
    exact (run_place h).trans (hpassed ▸ hrest)

/-- The listeners that were notified: the connection, the listener and the frame. -/
def heard (s : Round) : List (ℕ × ℕ × CECFrame) :=
  s.delivered.flatMap fun e => e.2.map fun n => (e.1.listener, n.listener, s.bus.frame)

lemma notified_dispatch {app : App} (happ : ∀ listener frame, app listener frame = .ok ())
    {w : World} (hlive : w.ListsLive) {frame : CECFrame} (hframe : 1 ≤ frame.length) :
    HdmiCec.notified (w.dispatch app frame).log =
      w.listeners.flatMap fun id => HdmiCec.notified (w.notify app frame id).log := by
  have hlog : (Notice.quiet (if w.listeners.length = 0 then
      ccecLog logDebug "Bus::Reader discarding msgs for lack of listener\r\n" else
        pure ())).result = .ok () := by
    split <;> rfl
  have hprint : (Notice.quiet (DriverImpl.printFrameDetails frame)).result = .ok () :=
    printFrameDetails_returns hframe
  have hone : ∀ id ∈ w.listeners, (do
      Notice.quiet (ccecLog logDebug "Bus::Reader::run() notify Listener\r\n")
      Notice.quiet (DriverImpl.printFrameDetails frame)
      w.notify app frame id : Logged Exn Notice Unit).result = .ok () := by
    intro id hid
    obtain ⟨c, hc⟩ := hlive id hid
    rw [Logged.result_bind_of_ok rfl, Logged.result_bind_of_ok hprint]
    simp only [World.notify, hc]
    exact (Conn.notify_spec happ id c hframe).1
  rw [World.dispatch, Logged.log_bind_of_ok hlog, notified_append, notified_quiet, List.nil_append,
    Logged.log_each hone, notified_flatMap]
  apply List.flatMap_congr
  intro id _
  rw [Logged.log_bind_of_ok rfl, Logged.log_bind_of_ok hprint, notified_append, notified_append,
    notified_quiet, notified_quiet, List.nil_append, List.nil_append]

/-- With listeners that only return, a round notifies those that `World.dispatch` does. -/
theorem dispatch_refines {app : App} (happ : ∀ listener frame, app listener frame = .ok ())
    {w : World} (hlive : w.ListsLive) {frame : CECFrame} (hframe : 1 ≤ frame.length) (thread : ℕ)
    (started : Bool) {listeners : NodeList} {frameListeners : ℕ → NodeList}
    {busFrameFilter : ℕ → LogicalAddress} (hlisteners : listeners.listeners = w.listeners)
    (hconns : ∀ id c, w.conns id = .live c → (frameListeners id).listeners = c.frameListeners ∧
      busFrameFilter id = c.busFrameFilter) :
    ∃ u, Run step KeepsCurrent
        (start thread frame started listeners frameListeners busFrameFilter) u ∧
      u.bus.pc = .done ∧ u.heard = HdmiCec.notified (w.dispatch app frame).log := by
  have hready : Ready [] listeners.nodes
      (start thread frame started listeners frameListeners busFrameFilter) :=
    ⟨rfl, rfl, rfl, hframe⟩
  refine ⟨_, run_places hready, rfl, ?_⟩
  have hheard : ∀ place ∈ listeners.nodes,
      ((start thread frame started listeners frameListeners busFrameFilter).due place).map
        (fun n => (place.listener, n.listener, frame)) =
      HdmiCec.notified (w.notify app frame place.listener).log := by
    intro place hplace
    have hmem : place.listener ∈ w.listeners := hlisteners ▸ List.mem_map_of_mem hplace
    obtain ⟨c, hc⟩ := hlive _ hmem
    obtain ⟨hlists, hfilter⟩ := hconns _ c hc
    have hnotify : w.notify app frame place.listener = c.notify app place.listener frame := by
      simp only [World.notify, hc]
    rw [hnotify, (Conn.notify_spec happ _ c hframe).2, ← hfilter, ← hlists, due]
    by_cases hfor : frame.IsFor (busFrameFilter place.listener)
    · rw [if_pos hfor, NodeList.listeners, List.map_map]
      exact congrArg _ (if_pos hfor)
    · rw [if_neg hfor]
      exact congrArg _ (if_neg hfor)
  rw [notified_dispatch happ hlive hframe, ← hlisteners, NodeList.listeners, List.flatMap_map]
  refine (List.flatMap_map ..).trans (List.flatMap_congr ?_)
  exact hheard

/-! ### Every listener that stays is notified once -/

/-- `close()` leaves the reader where it is. -/
lemma InNotify.unregister (hin : s.InNotify id conn pc notified) (c : ℕ) (f : ListCall) :
    (s.unregister c f).InNotify id conn pc notified ∧
      (s.unregister c f).frameListeners = s.frameListeners := by
  cases f with
  | close =>
    simp only [Round.unregister, onBus]
    split
    · exact ⟨⟨hin.inner, hin.outer⟩, rfl⟩
    · exact ⟨hin, rfl⟩
  | _ => exact ⟨hin, rfl⟩

lemma inNotify_eq {k : NotifyLabel} {d : Dispatch} (hin : s.InNotify id conn pc notified)
    (hstep : (s.notify conn pc notified).step k = some d) :
    s.inNotify k = some (s.resume conn d) := by
  simp only [inNotify, hin.inner, hin.outer, hstep, Option.map_some]

/-- A listener that takes its own place out of the connection and returns leaves the iterator of
`notify` there. -/
lemma Sound.dangling_of_removes (h : Sound s₀ s) (hmoves : Moves s l s')
    (hok : ¬ s.KeepsCurrent l) :
    ∃ u, Run step (fun _ _ => True) s' u ∧ ∃ notified, u.inner = some (.dangling, notified) := by
  cases hmoves with
  | @own conn f c listener hcurrent =>
    simp only [KeepsCurrent, hcurrent, not_forall, exists_prop, Bool.not_eq_false] at hok
    obtain ⟨rfl, hremoves⟩ := hok
    obtain ⟨id, place, notified, hin⟩ := exists_of_current hcurrent
    obtain ⟨⟨nodes, -, before, after, hwalked, hat⟩, -⟩ := h.inside_notify hin
    obtain ⟨before', rfl⟩ := hat
    have hmem : ⟨place, listener⟩ ∈ (s.frameListeners c).nodes := by
      have hsplit : (s.frameListeners c).nodes = _ := hwalked.split
      rw [hsplit]
      simp
    have hgone := Dispatch.id_ne_of_removes hremoves hmem
    have hlists : (s.onLists c f).InNotify id c (.call place listener) notified :=
      ⟨hin.inner, hin.outer⟩
    obtain ⟨hin', hsame⟩ := hlists.unregister c f
    generalize (s.onLists c f).unregister c f = t at hin' hsame
    have hret := inNotify_eq hin' (k := .ret) rfl
    rw [resume_eq rfl] at hret
    have hin'' : ({ t with inner := some (.advance place, notified) } : Round).InNotify id c
        (.advance place) notified := ⟨rfl, hin'.outer⟩
    have hnext : (t.frameListeners c).next place = none := by
      rw [hsame, onLists_self]
      exact NodeList.next_of_removed hgone
    have hloop : (({ t with inner := some (.advance place, notified) } : Round).notify c
        (.advance place) notified).step .loop =
        some (t.notify c .dangling notified) := by
      simp only [Dispatch.step, Dispatch.loop, notify, hnext]
    exact ⟨_, .head (l := .ret) trivial hret
      (.tail .refl (l := .notify) trivial (inNotify_eq hin'' hloop)), notified, rfl⟩
  | @other thread conn f hthread hlocked =>
    -- the mutex of that connection is held by the reader's thread
    simp only [KeepsCurrent] at hok
    split at hok
    · rename_i c listener hcurrent
      obtain ⟨id, place, notified, hin⟩ := exists_of_current hcurrent
      have hne : c ≠ conn := by
        simpa [locked, hin.inner, hin.outer] using hlocked
      exact absurd (fun hc => absurd hc hne) hok
    · exact absurd trivial hok
  | inner hin hstep hl =>
    cases l with
    | call thread conn f => cases hl
    | _ => exact absurd trivial hok
  | _ => exact absurd trivial hok

/-- As long as no listener, while it is notified, removes itself from the connection that notifies it
or closes that connection, neither loop advances from a place that is not there any more: whatever
other connections the listeners open, close and change, and whatever other threads do. No place of
`bus.listeners` has two calls of `notify`, and no place of a connection is notified twice in one; a
call that has returned has notified the places that were there from the beginning and still are, if
the frame is for the connection. When the reader has come to the end, every place of `bus.listeners`
has had its call, also of a connection that was opened meanwhile. It comes to the end when the
listeners return. A listener that does remove itself is safe only if it does not return. -/
theorem round_visits_each_once {thread : ℕ} {frame : CECFrame} {started : Bool}
    {listeners : NodeList} {frameListeners : ℕ → NodeList} {busFrameFilter : ℕ → LogicalAddress}
    {s₀ s : Round} (hframe : 1 ≤ frame.length)
    (hs₀ : s₀ = start thread frame started listeners frameListeners busFrameFilter)
    (h : Run step KeepsCurrent s₀ s) :
    s.bus.pc ≠ .dangling ∧ (∀ notified, s.inner ≠ some (.dangling, notified)) ∧
    (s.delivered.map Prod.fst).Nodup ∧ (∀ e ∈ s.delivered, Delivered s₀ s e.1 e.2) ∧
    (s.bus.pc = .done →
      ∀ place ∈ s.bus.frameListeners.nodes, ∃ notified, (place, notified) ∈ s.delivered) ∧
    (∃ u, Run step KeepsCurrent s u ∧ u.bus.pc.ended = true) ∧
    ∀ l s', s.step l = some s' → ¬ s.KeepsCurrent l →
      ∃ u, Run step (fun _ _ => True) s' u ∧ ∃ notified, u.inner = some (.dangling, notified) := by
  have hframe₀ : 1 ≤ s₀.bus.frame.length := by
    rw [hs₀]
    exact hframe
  have hsound : Sound s₀ s := by
    apply h.invariant
    · intro s l s' hok hstep hs
      exact hs.preserved hframe₀ hok (.of_step hstep)
    · rw [hs₀]
      exact sound_start ..
  obtain ⟨rest, hnotified, hpending⟩ := hsound.visited
  refine ⟨?_, ?_, ?_, hsound.delivered, ?_, hsound.finishes hframe₀, ?_⟩
  · intro hpc
    obtain ⟨-, before, after, -, hat⟩ := hsound.outer
    rw [hpc] at hat
    exact hat
  · intro notified hinner
    obtain ⟨id, conn, -, ⟨nodes, -, before, after, -, hat⟩, -⟩ := hsound.inside _ _ hinner
    exact hat
  · have hnodup := hsound.nodup
    rw [hnotified] at hnodup
    exact (List.nodup_append.mp hnodup).1
  · intro hpc place hplace
    have hcount := hsound.outer.count_of_done hpc hplace
    rw [hpc] at hpending
    obtain rfl : rest = [] := hpending
    have hmem : place ∈ s.bus.notified := List.count_pos_iff.mp (hcount ▸ Nat.one_pos)
    rw [hnotified, List.append_nil] at hmem
    obtain ⟨e, he, rfl⟩ := List.mem_map.mp hmem
    exact ⟨e.2, he⟩
  · intro l s' hstep hok
    exact hsound.dangling_of_removes (.of_step hstep) hok

/-- Two connections with a listener each, both for every frame. -/
def twoConns : Round :=
  start 0 ⟨[0x04], by decide⟩ true ⟨[⟨0, 3⟩, ⟨1, 4⟩], 2, by decide, by decide⟩
    (fun _ => ⟨[⟨0, 7⟩], 1, by decide, by decide⟩) fun _ => .ofInt LogicalAddress.unregistered

/-- The listener of the first connection closes the second, opens it again and adds a listener to
it; the new place has its call of `notify`. -/
theorem round_visits_each_once_reopened : ∃ s, Run step KeepsCurrent twoConns s ∧
    s.bus.pc = .done ∧ ⟨2, 4⟩ ∈ s.bus.frameListeners.nodes ∧
    ∃ notified, (⟨2, 4⟩, notified) ∈ s.delivered := by
  obtain ⟨s, hrun, hs⟩ := Run.of_execSat
    (show execSat step KeepsCurrent
      (fun s => s.bus.pc = .done ∧ ⟨2, 4⟩ ∈ s.bus.frameListeners.nodes) twoConns
      [.bus, .notify, .notify, .call 0 4 .close, .openConn 4, .call 0 4 (.addFrameListener 8), .ret,
        .notify, .notify, .bus, .bus, .bus, .notify, .notify, .ret, .notify, .notify, .bus, .bus,
        .bus] = true by decide)
  simp only [decide_eq_true_eq] at hs
  obtain ⟨hpc, hmem⟩ := hs
  exact ⟨s, hrun, hpc, hmem, (round_visits_each_once (by decide) rfl hrun).2.2.2.2.1 hpc _ hmem⟩

end Round

end HdmiCec
