import HdmiCec.System.Delivery
import HdmiCec.System.Termination

/-!
# From the callback to the listener

While the bus is up and nobody calls about a listener, the frames that the listener is notified of
are those that the callbacks put into the queue and that are for the source of its connection, in
order, each as often as the listener is registered, up to those that are still in the queue or in
the hand of the reader; and when no thread can go on, none is.

This holds under the conditions of `frame_delivery`: every listener returns, since an exception ends
the round before the listeners behind it are notified; and all calls from the start on are routine,
that is `open` and `close` are called on a started bus only, no connection is given another source,
and none is destroyed while it is on the bus.
-/

namespace HdmiCec

open Lib DriverImpl

variable {s t : State} {l : Label} {err : ℤ}

/-! ### The reader -/

/-- The frames that were put into the receive queue, in order. -/
def enqueued (obs : List Obs) : List FramePtr :=
  obs.filterMap fun
    | .enqueued p => some p
    | _ => none

/-- The frames that were put into the queue and are not dispatched yet: in the hand of the reader,
and in the queue. -/
def State.undelivered (s : State) : List FramePtr :=
  s.readers.flatMap ReaderPC.held ++ s.rQueue.frames

/-- The bus is up: the driver is open, one reader is in its loop and is not told to stop. -/
structure Listening (s : State) : Prop where
  constructed : s.constructed = true
  opened : s.status = .opened
  running : s.reader = .running
  reading : ∃ pc : ReaderPC, s.readers = [pc] ∧ pc.life = .looping ∧ pc.holdsDriver = false
  outside : s.ctl.terminating = false

namespace Listening

/-- Outside `term` the control thread leaves the reader and its queue alone. -/
lemma ctlStep (h : Listening s) (hstep : CtlStep s err t) :
    Listening t ∧ t.trace = s.trace ∧ t.undelivered = s.undelivered := by
  have hs := h.outside
  have ht := hstep.terminating_eq_false hs
  cases hstep with
  | initOpen _ _ hopen | startOpen _ _ hopen =>
    cases hopen with
    | already => exact ⟨⟨h.constructed, h.opened, h.running, h.reading, ht⟩, rfl, rfl⟩
    | failed hclosed | opened hclosed =>
      rw [h.opened] at hclosed
      cases hclosed
  | build _ hbuilt =>
    rw [h.constructed] at hbuilt
    cases hbuilt
  | restartReader _ hstopped =>
    rw [h.running] at hstopped
    cases hstopped
  | found | construct | startLock | startReader | restartWriter | startWriter | startDone =>
    exact ⟨⟨h.constructed, h.opened, h.running, h.reading, ht⟩, rfl, rfl⟩
  | stopFlag hc | readerStop hc | closed hc | close hc | closeOffer hc | closeFailed hc
  | closeHal hc | readerWait hc | writerLock hc | writerRuns hc | writerRests hc | writerSet hc
  | writerOffer hc | writerWait hc | termDone hc =>
    rw [hc] at hs
    cases hs

/-- A step of the reader takes the next frame or dispatches it. -/
lemma applyReader {i : ℕ} {pc : ReaderPC} {m : ReaderMove} (h : Listening s)
    (hpc : s.readers[i]? = some pc) (hm : ReaderStep s pc m) :
    Listening (s.applyReader i m) ∧ enqueued m.obs = [] ∧
      ∃ out : List FramePtr, out.map (·.frame) = (s.dispatched (.reader i)).toList ∧
        out ++ (s.applyReader i m).undelivered = s.undelivered := by
  obtain ⟨pc', hpcs, hlife, hholds⟩ := h.reading
  rw [hpcs] at hpc
  obtain ⟨rfl, rfl⟩ := getElem?_singleton_eq_some hpc
  have hmove : (s.applyReader 0 m).readers = m.pc.toList := by
    rw [State.applyReader, hpcs, moveThread_singleton]
  have hlistening : ∀ pc'' : ReaderPC, m.pc = some pc'' → pc''.life = .looping →
      pc''.holdsDriver = false → m.reader = s.reader → Listening (s.applyReader 0 m) := by
    intro pc'' hpc'' hlife'' hholds'' hreader
    exact ⟨h.constructed, h.opened, hreader.trans h.running,
      ⟨pc'', by rw [hmove, hpc'']; rfl, hlife'', hholds''⟩, h.outside⟩
  have hundelivered : (s.applyReader 0 m).undelivered =
      m.pc.toList.flatMap ReaderPC.held ++ m.rQueue.frames := by
    rw [State.undelivered, hmove, applyReader_rQueue]
  rw [hundelivered, State.undelivered, hpcs, State.dispatched, hpcs, List.getElem?_cons_zero]
  cases hm with
  | checkStopped | check | start | exit => cases hlife
  | flush | flushDone | flushWait | flushPop => cases hholds
  | leave hnot => exact absurd h.running hnot
  | readRefused _ hnot | flushStart _ hnot => exact absurd h.opened hnot
  | enter | read | wait | pollAgain =>
    exact ⟨hlistening _ rfl rfl rfl rfl, rfl, [], rfl, by simp [ReaderMove.goto, ReaderPC.held]⟩
  | pop htake =>
    refine ⟨hlistening _ rfl rfl rfl rfl, rfl, [], rfl, ?_⟩
    simp [ReaderPC.held, EventQueue.frames_of_take_some htake]
  | popNull htake =>
    refine ⟨hlistening _ rfl rfl rfl rfl, rfl, [], rfl, ?_⟩
    simp [ReaderPC.held, EventQueue.frames_of_take_none htake]
  | got | lock =>
    exact ⟨hlistening _ rfl rfl rfl rfl, rfl, [], rfl, by simp [ReaderMove.goto, ReaderPC.held]⟩
  | @dispatch p =>
    exact ⟨hlistening _ rfl rfl rfl rfl, rfl, [p], rfl, by simp [ReaderMove.goto, ReaderPC.held]⟩

/-- What is dispatched and what is not yet is what was not yet and what was enqueued, in order. -/
lemma step (h : Listening s) (hterm : l ≠ .callTerm) (hstop : l ≠ .callBusStop)
    (hstep : Step s l t) : Listening t ∧ ∃ obs out, t.trace = s.trace ++ obs ∧
      out.map (·.frame) = (s.dispatched l).toList ∧
      out ++ t.undelivered = s.undelivered ++ enqueued obs := by
  have hsame : ∀ t : State, t.constructed = s.constructed → t.status = s.status →
      t.reader = s.reader → t.readers = s.readers → t.ctl.terminating = false → Listening t := by
    intro t hconstructed hstatus hreader hreaders hc
    refine ⟨hconstructed.trans h.constructed, hstatus.trans h.opened, hreader.trans h.running, ?_,
      hc⟩
    rw [hreaders]
    exact h.reading
  have hquiet : s.undelivered = s.undelivered ++ enqueued [] := (List.append_nil _).symm
  cases hstep with
  | callTerm | termRefused => exact absurd rfl hterm
  | callBusStop => exact absurd rfl hstop
  | initRefused | discard | sendAsyncRefused =>
    exact ⟨h, [], [], (List.append_nil _).symm, rfl, hquiet⟩
  | callInit | callBusStart =>
    exact ⟨hsame _ rfl rfl rfl rfl rfl, [], [], (List.append_nil _).symm, rfl, hquiet⟩
  | ctl hstep =>
    obtain ⟨ht, htrace, hundelivered⟩ := h.ctlStep hstep
    exact ⟨ht, [], [], htrace.trans (List.append_nil _).symm, rfl, hundelivered.trans hquiet⟩
  | reader hpc hm =>
    obtain ⟨ht, hobs, out, hout, heq⟩ := h.applyReader hpc hm
    refine ⟨ht, _, out, rfl, hout, ?_⟩
    rw [hobs, List.append_nil]
    exact heq
  | @writer i err sendResult pc m hpc hm =>
    refine ⟨hsame _ rfl rfl rfl rfl h.outside, m.obs, [], rfl, rfl, ?_⟩
    have hobs : enqueued m.obs = [] := by
      rw [enqueued, List.filterMap_eq_nil_iff]
      intro o ho
      have hquiet := hm.obs_quiet o ho
      cases o <;> simp_all [Obs.quiet]
    rw [hobs]
    exact hquiet
  | receive | offerRefused =>
    exact ⟨hsame _ rfl rfl rfl rfl h.outside, [], [], (List.append_nil _).symm, rfl, hquiet⟩
  | offer =>
    refine ⟨hsame _ rfl rfl rfl rfl h.outside, _, [], rfl, rfl, ?_⟩
    simp [State.undelivered, enqueued]
  | sendAsync => exact ⟨hsame _ rfl rfl rfl rfl h.outside, _, [], rfl, rfl, hquiet⟩

end Listening

/-- When no thread can go on, every frame was dispatched. -/
lemma Listening.undelivered_eq_nil (h : Listening s) (hescaped : s.escaped = none)
    (hhalted : s.Halted) : s.undelivered = [] := by
  obtain ⟨pc, hpcs, hlife, hholds⟩ := h.reading
  have hmove := hhalted.readerMove hescaped hpcs
  have houtside := h.outside
  have hdriver : s.driverMutexFree = true := by
    have hctl : s.ctl.holdsDriver = false := by
      cases hc : s.ctl <;> simp_all [Ctl.holdsDriver, Ctl.terminating]
    simp [State.driverMutexFree, hctl, hpcs, hholds]
  have hreader : pc.holdsBus = false := by
    cases pc with
    | dispatch p => cases hmove
    | _ => rfl
  have hidle : s.ctl = .idle := by
    by_contra hne
    have hanswered : s.answered = true := by
      unfold State.answered
      cases hc : s.ctl with
      | startLock => simp [State.rMutexFree, hc, Ctl.holdsBus, hpcs, hreader]
      | initOpen | startOpen => exact hdriver
      | _ => simp_all [Ctl.terminating]
    obtain ⟨t, ht, -⟩ := ctlStep_of_answered hne hanswered ioSuccess
    rw [hhalted.ctlStep hescaped] at ht
    cases ht
  have hbus : s.rMutexFree = true := by
    simp [State.rMutexFree, hidle, Ctl.holdsBus, hpcs, hreader]
  cases pc with
  | wait =>
    have hempty : s.rQueue.events = [] := by
      by_contra hne
      simp [readerMove, (EventQueue.ready_iff _).mpr hne] at hmove
    simp [State.undelivered, hpcs, ReaderPC.held, EventQueue.frames, hempty]
  | pop =>
    simp only [readerMove] at hmove
    split at hmove <;> cases hmove
  | spawned | starting | exit => cases hlife
  | flush | flushWait | flushPop => cases hholds
  | test | readCheck | got | lock | dispatch | null =>
    simp [readerMove, hdriver, hbus] at hmove

/-! ### The listener -/

/-- The frames that a listener of the connection `id` was notified of, in order. -/
def heard (id listener : ℕ) (log : List Notice) : List CECFrame :=
  (notified log).filterMap fun n => if n.1 = id ∧ n.2.1 = listener then some n.2.2 else none

lemma heard_append (id listener : ℕ) (log log' : List Notice) :
    heard id listener (log ++ log') = heard id listener log ++ heard id listener log' := by
  simp [heard]

/-- What a listener is notified of when it is registered `k` times behind a connection for
`source`. -/
def due (source : LogicalAddress) (k : ℕ) (ps : List FramePtr) : List CECFrame :=
  (ps.filter fun p => p.frame.IsFor source).flatMap fun p => List.replicate k p.frame

lemma due_append (source : LogicalAddress) (k : ℕ) (ps qs : List FramePtr) :
    due source k (ps ++ qs) = due source k ps ++ due source k qs := by
  simp [due]

/-- How often a listener of the connection `id` is notified of a frame for its source. -/
def World.times (w : World) (id listener : ℕ) : ℕ :=
  countSince (Call.isOpen id) (Call.isClose id) w.history *
    countSince (Call.isAdd id listener) (Call.isRemoveOrClose id listener) w.history

/-- The bus goes on, and the act is not about the listener. -/
def Spares (id listener : ℕ) : Act → Prop
  | .sys l => l ≠ .callTerm ∧ l ≠ .callBusStop
  | .construct id' .. | .openConn id' | .closeConn id' | .destroy id' => id' ≠ id
  | .addFrameListener id' listener' | .removeFrameListener id' listener' =>
    ¬ (id' = id ∧ listener' = listener)
  | _ => True

instance (id listener : ℕ) (a : Act) : Decidable (Spares id listener a) := by
  unfold Spares
  split <;> infer_instance

namespace World

variable {app : App} {w v : World} {a : Act} {id listener : ℕ}

/-- A call that is not about the listener does not change how often it is notified. -/
lemma times_record {e : Call} (hopen : e.isOpen id = false) (hclose : e.isClose id = false)
    (hadd : e.isAdd id listener = false) (hremove : e.isRemoveOrClose id listener = false) :
    (w.record e).times id listener = w.times id listener := by
  simp only [times, record, countSince_concat, hopen, hclose, hadd, hremove, Bool.false_eq_true,
    if_false, Nat.add_zero]

/-- A call of another connection. -/
lemma times_record_other {e : Call} (h : e.about ≠ id) :
    (w.record e).times id listener = w.times id listener := by
  apply times_record <;> cases e <;>
    simp_all [Call.about, Call.isOpen, Call.isClose, Call.isAdd, Call.isRemoveOrClose]

/-- All notifications of a round carry its frame. -/
lemma filterMap_eq_replicate {frame : CECFrame} (notices : List (ℕ × ℕ × CECFrame))
    (h : ∀ n ∈ notices, n.2.2 = frame) :
    notices.filterMap (fun n => if n.1 = id ∧ n.2.1 = listener then some n.2.2 else none) =
      List.replicate (notices.count (id, listener, frame)) frame := by
  induction notices with
  | nil => rfl
  | cons n notices ih =>
    obtain ⟨id', listener', frame'⟩ := n
    obtain rfl : frame' = frame := h _ List.mem_cons_self
    have ih' := ih fun n hn => h n (List.mem_cons_of_mem _ hn)
    by_cases hn : id' = id ∧ listener' = listener
    · obtain ⟨rfl, rfl⟩ := hn
      simp [ih', List.replicate_succ]
    · rw [List.count_cons_of_ne (by simpa [Prod.ext_iff] using hn)]
      simp only [List.filterMap_cons, hn, if_false, ih']

/-- What the listener is notified of in the round of a frame. -/
lemma Routine.heard_round {frame : CECFrame} {c : Conn} (h : w.Routine) (listener : ℕ)
    (happ : ∀ listener frame, app listener frame = .ok ()) (hc : w.conns id = .live c)
    (hlen : 1 ≤ frame.length) :
    heard id listener (w.round app frame).log =
      if frame.IsFor c.source then List.replicate (w.times id listener) frame else [] := by
  have hround := (round_spec happ h.opened h.added h.live h.filters hlen).2
  have hframe : ∀ n ∈ w.deliveries frame, n.2.2 = frame := by
    intro n hn
    simp only [deliveries, List.mem_flatMap] at hn
    obtain ⟨id', -, hn⟩ := hn
    split at hn
    · obtain ⟨listener', -, rfl⟩ := List.mem_map.mp hn
      rfl
    · cases hn
  rw [heard, hround, filterMap_eq_replicate _ hframe, count_deliveries, ← h.opened, h.opened.count,
    h.returned.openings_eq, count_onConn]
  by_cases hfor : frame.IsFor c.source <;> simp [accepts, hc, hfor, times]

lemma getInstance_eq (h : w.sys.constructed = true) : w.getInstance = w := by
  simp [getInstance, h]

/-- A send leaves the reader alone. -/
lemma listening_queued {s : State} (h : Listening s) (result : Except Exn FrameQueue) :
    Listening (s.queued result) ∧ ∃ obs, (s.queued result).trace = s.trace ++ obs ∧
      (s.queued result).undelivered = s.undelivered ++ enqueued obs := by
  cases result with
  | ok q =>
    refine ⟨⟨h.constructed, h.opened, h.running, h.reading, h.outside⟩, _, rfl, ?_⟩
    have hobs : enqueued ((q.events.getLast?.join.map Obs.accepted).toList) = [] := by
      cases q.events.getLast?.join <;> rfl
    rw [hobs, List.append_nil]
    rfl
  | error e => exact ⟨h, [], (List.append_nil _).symm, (List.append_nil _).symm⟩

/-- What holds when the bus was up in `w₀` and nobody has called about the listener since. -/
structure Delivering (w₀ : World) (id listener : ℕ) (source : LogicalAddress) (k : ℕ)
    (w : World) : Prop where
  routine : w.Routine
  listening : Listening w.sys
  conn : ∃ c, w.conns id = .live c ∧ c.source = source
  times : w.times id listener = k
  books : ∃ obs log, w.sys.trace = w₀.sys.trace ++ obs ∧ w.notices = w₀.notices ++ log ∧
    heard id listener log ++ due source k w.sys.undelivered =
      due source k (w₀.sys.undelivered ++ enqueued obs)

namespace Delivering

variable {w₀ : World} {source : LogicalAddress} {k : ℕ}

/-- The connection stays, and the listener is notified as often as before. -/
lemma registered (h : Delivering w₀ id listener source k w) (hspares : Spares id listener a)
    (ha : w.routine a = true) (hmove : Moves app w a v) :
    (∃ c, v.conns id = .live c ∧ c.source = source) ∧ v.times id listener = k := by
  obtain ⟨c, hc, hsource⟩ := h.conn
  have hinstance : w.getInstance = w := getInstance_eq h.listening.constructed
  have hput : ∀ (id' : ℕ) (slot : Slot), id' ≠ id →
      ∃ c, (w.put id' slot).conns id = .live c ∧ c.source = source := by
    intro id' slot hid
    exact ⟨c, (conns_put_of_ne w slot hid.symm).trans hc, hsource⟩
  have hlive : ∀ (id' : ℕ) (c' c'' : Conn), w.conns id' = .live c' → c''.source = c'.source →
      ∃ c, (w.put id' (.live c'')).conns id = .live c ∧ c.source = source := by
    intro id' c' c'' hc' hkeeps
    by_cases hid : id' = id
    · subst hid
      rw [hc', Slot.live.injEq] at hc
      exact ⟨c'', conns_put_self w _ _, by rw [hkeeps, hc, hsource]⟩
    · exact hput id' _ hid
  cases hmove with
  | construct _ =>
    rw [hinstance]
    exact ⟨hput _ _ hspares, h.times⟩
  | constructOpened _ _ =>
    rw [hinstance]
    exact ⟨hput _ _ hspares, (times_record_other (e := .openConn _ true) hspares).trans h.times⟩
  | constructRefused _ hstarted | openRefused _ hstarted | closeRefused _ hstarted =>
    simp [World.routine, hstarted] at ha
  | opened _ _ =>
    exact ⟨h.conn, (times_record_other (e := .openConn _ true) hspares).trans h.times⟩
  | closed _ _ =>
    exact ⟨hput _ _ hspares, (times_record_other (e := .close _ true) hspares).trans h.times⟩
  | @addFrameListener id' listener' c' hc' =>
    refine ⟨hlive id' c' _ hc' rfl, (times_record rfl rfl ?_ rfl).trans h.times⟩
    simpa [Call.isAdd, Spares] using hspares
  | @removeFrameListener id' listener' c' hc' =>
    refine ⟨hlive id' c' _ hc' rfl, (times_record rfl rfl rfl ?_).trans h.times⟩
    simpa [Call.isRemoveOrClose, Call.isClose, Spares] using hspares
  | setSource _ => simp [World.routine] at ha
  | destroy _ => exact ⟨hput _ _ hspares, h.times⟩
  | _ => exact ⟨h.conn, h.times⟩

/-- A step adds to the books. -/
lemma moves (h : Delivering w₀ id listener source k w)
    (happ : ∀ listener frame, app listener frame = .ok ()) (hspares : Spares id listener a)
    (hmove : Moves app w a v) : Listening v.sys ∧ ∃ obs log out,
      v.sys.trace = w.sys.trace ++ obs ∧ v.notices = w.notices ++ log ∧
      out ++ v.sys.undelivered = w.sys.undelivered ++ enqueued obs ∧
      heard id listener log = due source k out := by
  have hinstance : w.getInstance = w := getInstance_eq h.listening.constructed
  have hnil : ∀ {α : Type} (xs : List α), xs = xs ++ [] := fun xs => (List.append_nil xs).symm
  cases hmove with
  | @sys l s hstep hnone =>
    obtain ⟨hs, obs, out, htrace, hout, heq⟩ := h.listening.step hspares.1 hspares.2 hstep
    rw [hnone] at hout
    obtain rfl : out = [] := List.map_eq_nil_iff.mp hout
    exact ⟨hs, obs, [], [], htrace, hnil _, heq, rfl⟩
  | @dispatch i p hpc =>
    obtain ⟨c, hc, rfl⟩ := h.conn
    obtain ⟨hs, hobs, out, hout, heq⟩ := h.listening.applyReader hpc .dispatch
    have hreceived : p ∈ w.sys.received := by
      apply List.mem_append_right
      apply List.mem_append_left
      exact List.mem_flatMap.mpr ⟨_, List.mem_of_getElem? hpc, List.mem_singleton_self p⟩
    have hheard := h.routine.heard_round listener happ hc
      (h.routine.headers p hreceived)
    obtain ⟨q, rfl, hq⟩ : ∃ q : FramePtr, out = [q] ∧ q.frame = p.frame := by
      simpa [State.dispatched, hpc, List.map_eq_singleton_iff] using hout
    refine ⟨⟨hs.constructed, hs.opened, hs.running, hs.reading, hs.outside⟩, [], _, [q], rfl, rfl,
      heq.trans (hnil _), ?_⟩
    rw [hheard, h.times, ← hq]
    by_cases hfor : q.frame.IsFor c.source <;> simp [due, hfor]
  | construct _ | constructOpened _ _ | constructRefused _ _ =>
    rw [hinstance]
    exact ⟨h.listening, [], [], [], hnil _, hnil _, hnil _, rfl⟩
  | sendAsync _ | sendToAsync _ =>
    obtain ⟨hs, obs, htrace, hundelivered⟩ := listening_queued h.listening _
    exact ⟨hs, obs, [], [], htrace, hnil _, hundelivered, rfl⟩
  | _ => exact ⟨h.listening, [], [], [], hnil _, hnil _, hnil _, rfl⟩

lemma step (h : Delivering w₀ id listener source k w)
    (happ : ∀ listener frame, app listener frame = .ok ()) (hspares : Spares id listener a)
    (ha : w.routine a = true) (hmove : Moves app w a v) :
    Delivering w₀ id listener source k v := by
  obtain ⟨hconn, htimes⟩ := h.registered hspares ha hmove
  obtain ⟨hs, obs', log', out, htrace', hnotices', hout, hheard⟩ := h.moves happ hspares hmove
  obtain ⟨obs, log, htrace, hnotices, hbooks⟩ := h.books
  refine ⟨h.routine.step ha hmove, hs, hconn, htimes, obs ++ obs', log ++ log', ?_, ?_, ?_⟩
  · rw [htrace', htrace, List.append_assoc]
  · rw [hnotices', hnotices, List.append_assoc]
  · have henqueued : enqueued (obs ++ obs') = enqueued obs ++ enqueued obs' :=
      List.filterMap_append
    rw [heard_append, hheard, List.append_assoc, ← due_append, hout, due_append,
      ← List.append_assoc, hbooks, henqueued, ← due_append, List.append_assoc]

end Delivering

end World

open World

/-- When every listener returns and all calls are routine: while the bus is up and nobody calls
about a listener, what it is notified of and what it will be notified of is what it was to be
notified of at first and what was enqueued since, in order. When no thread can go on, it was
notified of all of it. -/
theorem frames_reach_listener {app : App} (happ : ∀ listener frame, app listener frame = .ok ())
    {w₀ w : World} (h₀ : Run (World.step app) (fun w a => w.routine a = true) .init w₀)
    (hup : Listening w₀.sys) {id listener : ℕ} {c : Conn} (hc : w₀.conns id = .live c)
    (h : Run (World.step app) (fun w a => Spares id listener a ∧ w.routine a = true) w₀ w) :
    ∃ obs log, w.sys.trace = w₀.sys.trace ++ obs ∧ w.notices = w₀.notices ++ log ∧
      heard id listener log ++ due c.source (w₀.times id listener) w.sys.undelivered =
        due c.source (w₀.times id listener) (w₀.sys.undelivered ++ enqueued obs) ∧
      (w.sys.escaped = none → w.sys.Halted → heard id listener log =
        due c.source (w₀.times id listener) (w₀.sys.undelivered ++ enqueued obs)) := by
  have hroutine : w₀.Routine := by
    apply h₀.invariant _ Routine.init
    intro w a v ha hstep hw
    exact hw.step ha (Moves.of_step hstep).2
  have hbegin : Delivering w₀ id listener c.source (w₀.times id listener) w₀ :=
    ⟨hroutine, hup, ⟨c, hc, rfl⟩, rfl, [], [], (List.append_nil _).symm, (List.append_nil _).symm,
      by simp [heard, notified, enqueued]⟩
  have hend : Delivering w₀ id listener c.source (w₀.times id listener) w := by
    apply h.invariant _ hbegin
    rintro w a v ⟨hspares, ha⟩ hstep hw
    exact hw.step happ hspares ha (Moves.of_step hstep).2
  obtain ⟨obs, log, htrace, hnotices, hbooks⟩ := hend.books
  refine ⟨obs, log, htrace, hnotices, hbooks, fun hescaped hhalted => ?_⟩
  rw [← hbooks, hend.listening.undelivered_eq_nil hescaped hhalted]
  exact (List.append_nil _).symm

/-- A listener of a connection for 4, while another connection is opened: of two frames, the one for
4 reaches it. -/
theorem frames_reach_listener_playback : ∃ w : World,
    enqueued w.sys.trace =
      [⟨0, ⟨[0x04, 0x36], by decide⟩⟩, ⟨1, ⟨[0x05, 0x36], by decide⟩⟩] ∧
    heard 0 7 w.notices = [⟨[0x04, 0x36], by decide⟩] := by
  obtain ⟨w₀, hrun₀, hw₀⟩ := Run.of_execSat
    (show execSat (World.step fun _ _ => .ok ()) (fun w a => w.routine a = true)
      (fun w => (w.sys.constructed = true ∧ w.sys.status = .opened ∧ w.sys.reader = .running ∧
          w.sys.readers = [.wait] ∧ w.sys.ctl.terminating = false ∧ w.sys.undelivered = [] ∧
          enqueued w.sys.trace = [] ∧ w.notices = [] ∧ w.times 0 7 = 1) ∧
        (w.liveSat 0 fun c => c.source = .ofInt 4) = true ∧
        execSat (World.step fun _ _ => .ok ()) (fun w a => Spares 0 7 a ∧ w.routine a = true)
          (fun w => w.sys.escaped = none ∧ w.sys.ctl = .idle ∧ w.sys.readers = [.wait] ∧
            w.sys.writers = [.wait] ∧ w.sys.rQueue.events = [] ∧ w.sys.wQueue.events = [] ∧
            w.sys.callbacks = [] ∧ enqueued w.sys.trace =
              [⟨0, ⟨[0x04, 0x36], by decide⟩⟩, ⟨1, ⟨[0x05, 0x36], by decide⟩⟩]) w
          (.construct 1 (.ofInt 15) true "sniffer" ::
            (reception ⟨[0x04, 0x36], by decide⟩ 4 ++ reception ⟨[0x05, 0x36], by decide⟩ 10).map
              .sys) = true) .init
      (startUp.map .sys ++ List.replicate 3 (.sys (.reader 0)) ++
        [.sys (.writer 0 ioSuccess ioSuccess), .construct 0 (.ofInt 4) true "playback",
          .addFrameListener 0 7]) = true by decide +kernel)
  obtain ⟨⟨hconstructed, hopened, hrunning, hreaders, hctl, hundelivered, htrace₀, hnotices₀,
    htimes⟩, hlive, hnext⟩ := of_decide_eq_true hw₀
  obtain ⟨c, hc, hsource⟩ := exists_of_liveSat hlive
  have hsource : c.source = .ofInt 4 := of_decide_eq_true hsource
  obtain ⟨w, hrun, hw⟩ := Run.of_execSat hnext
  obtain ⟨hescaped, hidle, hreaders', hwriters, hrQueue, hwQueue, hcallbacks, htrace⟩ :=
    of_decide_eq_true hw
  have hup : Listening w₀.sys :=
    ⟨hconstructed, hopened, hrunning, ⟨.wait, hreaders, rfl, rfl⟩, hctl⟩
  obtain ⟨obs, log, hobs, hlog, -, hall⟩ :=
    frames_reach_listener (fun _ _ => rfl) hrun₀ hup hc hrun
  have hheard := hall hescaped (.of_waiting hidle hreaders' hwriters hrQueue hwQueue hcallbacks)
  have henqueued : enqueued w.sys.trace = enqueued obs := by
    rw [hobs, enqueued, List.filterMap_append]
    exact (congrArg (· ++ _) htrace₀).trans (List.nil_append _)
  refine ⟨w, htrace, ?_⟩
  rw [hlog, hnotices₀, List.nil_append, hheard, hundelivered, ← henqueued, htrace, htimes, hsource]
  decide +kernel

end HdmiCec
