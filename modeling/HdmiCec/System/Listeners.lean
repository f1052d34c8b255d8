import HdmiCec.System.Connections
import HdmiCec.System.Isolation

/-!
# The listeners of the bus

`Bus::listeners` has the connections that were opened and not closed since, once for each `open()`.
`close()` is refused by a bus that is not started, and the connection stays in the list; when it is
then destroyed, the list has a pointer to nothing. This does not happen when every connection that
is destroyed was closed on a started bus after its last `open()`.
-/

namespace HdmiCec

open Lib

/-- A call of `open()` of the connection `id`. -/
def Call.isOpen (id : ℕ) : Call → Bool
  | openConn id' _ => id' = id
  | _ => false

/-- A call of `close()` of the connection `id`. -/
def Call.isClose (id : ℕ) : Call → Bool
  | close id' _ => id' = id
  | _ => false

/-- What the calls do to `Bus::listeners`. -/
def Call.onBus : Edits Call ℕ where
  adds
    | openConn id true => some id
    | _ => none
  removes
    | close id true, id' => id = id'
    | _, _ => false
  exclusive e a h := by
    cases e with
    | openConn => rfl
    | close | addFrameListener | removeFrameListener => cases h

namespace Call

variable (id listener : ℕ) (xs : List ℕ)

@[simp] lemma onBus_opened : onBus.apply (.openConn id true) xs = xs ++ [id] :=
  Edits.apply_of_adds rfl (fun _ => rfl) xs

@[simp] lemma onBus_openRefused : onBus.apply (.openConn id false) xs = xs :=
  Edits.apply_of_skips rfl (fun _ => rfl) xs

@[simp] lemma onBus_closed : onBus.apply (.close id true) xs = xs.filter (· ≠ id) := by
  rw [Edits.apply_of_adds_none rfl]
  simp [onBus, eq_comm]

@[simp] lemma onBus_closeRefused : onBus.apply (.close id false) xs = xs :=
  Edits.apply_of_skips rfl (fun _ => rfl) xs

@[simp] lemma onBus_addFrameListener : onBus.apply (.addFrameListener id listener) xs = xs :=
  Edits.apply_of_skips rfl (fun _ => rfl) xs

@[simp] lemma onBus_removeFrameListener :
    onBus.apply (.removeFrameListener id listener) xs = xs :=
  Edits.apply_of_skips rfl (fun _ => rfl) xs

end Call

namespace World

variable {app : App} {w v : World} {a : Act}

/-! ### The list and the calls -/

/-- `Bus::listeners` is what the calls made of it. -/
def ListsOpened (w : World) : Prop := w.listeners = Call.onBus.content w.history

lemma ListsOpened.step (h : w.ListsOpened) (hmove : Moves app w a v) : v.ListsOpened := by
  unfold ListsOpened at h ⊢
  cases hmove with
  | construct => simpa [put] using h
  | constructOpened | constructRefused | opened | openRefused | closed | closeRefused
  | addFrameListener | removeFrameListener => simp [record, put, ← h]
  | _ => exact h

lemma listsOpened_of_run {ok : World → Act → Prop} (h : Run (World.step app) ok .init w) :
    w.ListsOpened := by
  apply h.invariant
  · intro w a v _ hstep hw
    exact hw.step (Moves.of_step hstep).2
  · rfl

/-- The number of calls of `open()` that put the connection on the bus and that no `close()` has
undone. -/
def openings (w : World) (id : ℕ) : ℕ :=
  countSince (· = .openConn id true) (· = .close id true) w.history

/-- A connection is in the list as often as it was opened since it was closed. -/
lemma ListsOpened.count (h : w.ListsOpened) (id : ℕ) : w.listeners.count id = w.openings id := by
  rw [h, Edits.count_content, openings]
  congr 1
  · funext e
    cases e with
    | openConn id' started => cases started <;> simp [Call.onBus]
    | close | addFrameListener | removeFrameListener => simp [Call.onBus]
  · funext e
    cases e with
    | close id' started => cases started <;> simp [Call.onBus]
    | openConn | addFrameListener | removeFrameListener => simp [Call.onBus]

/-! ### The entries -/

/-- Every connection in the list is there. -/
def ListsLive (w : World) : Prop := ∀ id ∈ w.listeners, ∃ c, w.conns id = .live c

/-- A connection that is destroyed was closed on a started bus after it was last put on the bus. -/
def closedFirst (w : World) : Act → Bool
  | .destroy id => w.openings id = 0
  | _ => true

lemma ListsLive.put {id : ℕ} (h : w.ListsLive) (c : Conn) : (w.put id (.live c)).ListsLive := by
  intro id' hid'
  by_cases hid : id' = id
  · exact ⟨c, hid ▸ conns_put_self w id _⟩
  · obtain ⟨c', hc'⟩ := h id' hid'
    exact ⟨c', (conns_put_of_ne w _ hid).trans hc'⟩

/-- A connection that is there is put on the list. -/
lemma ListsLive.append {id : ℕ} {c : Conn} (h : w.ListsLive) (hc : w.conns id = .live c) :
    ListsLive { w with listeners := w.listeners ++ [id] } := by
  intro id' hid'
  rcases List.mem_append.mp hid' with hid' | hid'
  · exact h id' hid'
  · exact ⟨c, List.mem_singleton.mp hid' ▸ hc⟩

lemma ListsLive.step (h : w.ListsLive) (hlist : w.ListsOpened) (ha : w.closedFirst a = true)
    (hmove : Moves app w a v) : v.ListsLive := by
  have hinstance : w.getInstance.ListsLive := by
    simpa [ListsLive] using h
  cases hmove with
  | construct _ => exact hinstance.put _
  | @constructOpened id source name _ _ =>
    have hput : (w.getInstance.put id (.live (.new source name))).ListsLive := hinstance.put _
    have happend := hput.append (conns_put_self w.getInstance id (.live (.new source name)))
    simpa [ListsLive, record, World.put] using happend
  | constructRefused _ _ => exact hinstance
  | opened hc _ => exact h.append hc
  | closed hc _ =>
    intro id' hid'
    exact h.put _ id' (List.mem_filter.mp hid').1
  | closeRefused hc _ | addFrameListener hc | removeFrameListener hc | setSource hc =>
    exact h.put _
  | @destroy id c hc =>
    intro id' hid'
    have hne : id' ≠ id := by
      rintro rfl
      have hzero : w.openings id' = 0 := of_decide_eq_true ha
      rw [← hlist.count, List.count_eq_zero] at hzero
      exact hzero hid'
    obtain ⟨c', hc'⟩ := h id' hid'
    exact ⟨c', (conns_put_of_ne w _ hne).trans hc'⟩
  | _ => exact h

/-! ### The notifications -/

/-- A notice that is not about a connection that does not exist. -/
def Sound (n : Notice) : Prop := ∀ id, n ≠ .dangling id

lemma all_sound_quiet {α : Type} (m : Ccec α) : (Notice.quiet m).All Sound := by
  rw [Notice.quiet, Logged.all_mapLog]
  intro e _ id hid
  cases hid

lemma all_sound_notify (id : ℕ) (c : Conn) (frame : CECFrame) :
    (c.notify app id frame).All Sound := by
  rw [Conn.notify, Logged.all_bind]
  refine ⟨all_sound_quiet _, ?_⟩
  intro filtered _
  split
  · apply Logged.all_each
    intro listener _
    rw [Logged.all_bind]
    refine ⟨all_sound_quiet _, ?_⟩
    intro _ _ n hn id'
    rw [List.mem_singleton.mp hn]
    simp
  · rw [Logged.all_bind]
    exact ⟨all_sound_quiet _, fun _ _ => Logged.all_pure ()⟩

/-- A round notifies connections that are there. -/
lemma ListsLive.all_sound_round (h : w.ListsLive) (frame : CECFrame) :
    (w.round app frame).All Sound := by
  rw [World.round, Logged.all_catching fun _ => all_sound_quiet _, World.dispatch, Logged.all_bind]
  refine ⟨all_sound_quiet _, ?_⟩
  intro _ _
  apply Logged.all_each
  intro id hid
  obtain ⟨c, hc⟩ := h id hid
  simp only [Logged.all_bind, World.notify, hc]
  exact ⟨all_sound_quiet _, fun _ _ => ⟨all_sound_quiet _, fun _ _ => all_sound_notify id c frame⟩⟩

lemma ListsLive.sound_step (h : w.ListsLive) (hsound : ∀ n ∈ w.notices, Sound n)
    (hmove : Moves app w a v) : ∀ n ∈ v.notices, Sound n := by
  cases hmove with
  | @dispatch i p hpc =>
    intro n hn
    rcases List.mem_append.mp hn with hn | hn
    · exact hsound n hn
    · exact h.all_sound_round p.frame n hn
  | construct | constructOpened | constructRefused => simpa [record, World.put] using hsound
  | _ => exact hsound

end World

open World

/-- As long as every connection that is destroyed was closed on a started bus after it was last put
on the bus, every entry of `Bus::listeners` is a connection that is there, and the readers have
notified no other. The next destruction keeps this exactly when it meets the condition too. -/
theorem listeners_live {app : App} {w : World}
    (h : Run (World.step app) (fun w a => w.closedFirst a = true) .init w) :
    (∀ id ∈ w.listeners, ∃ c, w.conns id = .live c) ∧ (∀ id, .dangling id ∉ w.notices) ∧
    ∀ id v, w.step app (.destroy id) = some v →
      ((∀ id' ∈ v.listeners, ∃ c, v.conns id' = .live c) ↔ w.openings id = 0) := by
  have hlist := listsOpened_of_run h
  have hinv : (w.ListsOpened ∧ w.ListsLive) ∧ ∀ n ∈ w.notices, Sound n := by
    apply h.invariant
    · rintro w a v ha hstep ⟨⟨hlist, hlive⟩, hsound⟩
      have hmove := (Moves.of_step hstep).2
      exact ⟨⟨hlist.step hmove, hlive.step hlist ha hmove⟩, hlive.sound_step hsound hmove⟩
    · refine ⟨⟨rfl, ?_⟩, ?_⟩
      · intro id hid
        cases hid
      · intro n hn
        cases hn
  obtain ⟨⟨-, hlive⟩, hsound⟩ := hinv
  refine ⟨hlive, fun id hid => hsound _ hid id rfl, ?_⟩
  intro id v hstep
  have hmove := (Moves.of_step hstep).2
  constructor
  · intro hv
    cases hmove with
    | destroy hc =>
      rw [← hlist.count, List.count_eq_zero]
      intro hid
      obtain ⟨c, hc'⟩ := hv id hid
      rw [conns_put_self] at hc'
      cases hc'
  · intro hzero
    have ha : w.closedFirst (.destroy id) = true := decide_eq_true hzero
    exact hlive.step hlist ha hmove

/-- Two connections are opened, and the first one is closed and destroyed. -/
theorem listeners_live_after_destroy :
    ∃ w : World, (w.listeners = [1] ∧ w.history.length = 3) ∧
      ∀ id ∈ w.listeners, ∃ c, w.conns id = .live c := by
  obtain ⟨w, hrun, hw⟩ := Run.of_execSat
    (show execSat (World.step fun _ _ => .ok ()) (fun w a => w.closedFirst a = true)
      (fun w => w.listeners = [1] ∧ w.history.length = 3) .init
      (startUp.map .sys ++ [.construct 0 (.ofInt 4) true "first",
        .construct 1 (.ofInt 5) true "second", .closeConn 0, .destroy 0]) = true by decide +kernel)
  exact ⟨w, of_decide_eq_true hw, (listeners_live hrun).1⟩

/-- `close()` was called, whether it returned or threw, since the last `open()` of a connection that
is destroyed. -/
def World.closeCalled (w : World) : Act → Bool
  | .destroy id => countSince (Call.isOpen id) (Call.isClose id) w.history = 0
  | _ => true

/-- A frame is received, and the reader takes `n` steps. -/
def reception (frame : CECFrame) (n : ℕ) : List Label :=
  [.receive frame, .offer 0] ++ List.replicate n (.reader 0)

/-- A connection is closed after `LibCCEC::term()`, which throws, and destroyed. When the library is
initialized again, the next frame is given to the connection that does not exist any more. -/
theorem closed_after_term_dangles :
    ∃ w : World, Run (World.step fun _ _ => .ok ()) (fun w a => w.closeCalled a = true) .init w ∧
      0 ∈ w.listeners ∧ w.conns 0 = .destroyed ∧ .dangling 0 ∈ w.notices := by
  obtain ⟨w, hrun, hw⟩ := Run.of_execSat
    (show execSat (World.step fun _ _ => .ok ()) (fun w a => w.closeCalled a = true)
      (fun w => (0 ∈ w.listeners ∧ .dangling 0 ∈ w.notices) ∧ w.isDestroyed 0 = true) .init
      (startUp.map .sys ++ [.construct 0 (.ofInt 4) true "playback"] ++
        (reception ⟨[0x04], by decide⟩ 8 ++ endSession).map .sys ++ [.closeConn 0, .destroy 0] ++
        (nextSession ++ reception ⟨[0x04, 0x36], by decide⟩ 8).map .sys) = true by decide +kernel)
  obtain ⟨⟨hmem, hnotice⟩, hdestroyed⟩ := of_decide_eq_true hw
  exact ⟨w, hrun, hmem, eq_destroyed hdestroyed, hnotice⟩

end HdmiCec
