import HdmiCec.System.Reachable
import HdmiCec.System.Transmission
import HdmiCec.System.Worker

/-!
# Asynchronous transmission is first in, first out

A session of the bus from a state in which it is started and the writer is in its loop, up to the
next start. `Ledger` compares the frames that were accepted by `sendAsync` with those handed to
`Driver::write`, the one in the writer's hand and those in the queue.
-/

namespace HdmiCec

open Lib DriverImpl

/-- The frames accepted by `sendAsync`, in order. -/
def accepted (obs : List Obs) : List FramePtr :=
  obs.filterMap fun
    | .accepted p => some p
    | _ => none

/-- The frames handed to `Driver::write`, in order. -/
def handed (obs : List Obs) : List FramePtr :=
  obs.filterMap fun
    | .handed p => some p
    | _ => none

@[simp] lemma accepted_append (obs obs' : List Obs) :
    accepted (obs ++ obs') = accepted obs ++ accepted obs' := List.filterMap_append

@[simp] lemma handed_append (obs obs' : List Obs) :
    handed (obs ++ obs') = handed obs ++ handed obs' := List.filterMap_append

/-! ### Sessions -/

/-- The bus is started, and the writer is running in its loop. -/
structure InSession (s : State) : Prop where
  idle : s.ctl = .idle
  started : s.started = true
  running : s.writer = .running
  looping : ∃ pc : WriterPC, s.writers = [pc] ∧ pc.life = .looping
  headers : HasHeaders s
  cap : s.wQueue.cap = 32

/-- The session goes on: the bus is not started again. -/
def WithinSession (l : Label) : Prop := l ≠ .callInit ∧ l ≠ .callBusStart ∧ SendsHeader l

instance (l : Label) : Decidable (WithinSession l) := inferInstanceAs (Decidable (_ ∧ _ ∧ _))

/-- Where the control thread is within a session. -/
structure Route (s : State) : Prop where
  starting : s.ctl.starting = false
  unstarted : s.ctl.unstarted = true → s.started = false

variable {s t : State} {l : Label} {err : ℤ}

/-- What the control thread does to the writer within a session. -/
structure SessionStep (s t : State) : Prop where
  route : Route t
  writers : t.writers = s.writers
  frames : t.wQueue.frames = s.wQueue.frames
  cap : t.wQueue.cap = s.wQueue.cap
  writer : t.writer = s.writer ∨ t.writer = s.writer.stopStarted ∧ s.started = false
  started : t.started = s.started ∨ t.started = false
  trace : ∃ obs, t.trace = s.trace ++ obs ∧ handed obs = [] ∧ accepted obs = []

/-- A step that leaves the writer and its queue alone. -/
lemma SessionStep.of_eq (hroute : Route t) (hwriters : t.writers = s.writers)
    (hwriter : t.writer = s.writer) (hqueue : t.wQueue = s.wQueue)
    (hstarted : t.started = s.started ∨ t.started = false)
    (htrace : t.trace = s.trace ∨ t.trace = s.trace ++ [.closed]) : SessionStep s t where
  route := hroute
  writers := hwriters
  frames := congrArg _ hqueue
  cap := congrArg _ hqueue
  writer := .inl hwriter
  started := hstarted
  trace := by
    rcases htrace with htrace | htrace
    · exact ⟨[], htrace.trans (List.append_nil _).symm, rfl, rfl⟩
    · exact ⟨[.closed], htrace, rfl, rfl⟩

lemma Route.ctlStep (h : Route s) (hstep : CtlStep s err t) : SessionStep s t := by
  have hstarting := h.starting
  cases hstep with
  | initOpen hc | found hc | build hc | construct hc | startLock hc | restartReader hc
  | startReader hc | restartWriter hc | startWriter hc | startOpen hc | startDone hc =>
    rw [hc] at hstarting
    cases hstarting
  | stopFlag hc _ => exact .of_eq ⟨rfl, fun _ => rfl⟩ rfl rfl rfl (.inr rfl) (.inl rfl)
  | readerStop hc | close hc | closeOffer hc | readerWait hc | writerLock hc | writerRuns hc
  | writerRests hc | writerWait hc | termDone hc =>
    have hs : s.started = false := h.unstarted (by rw [hc]; rfl)
    exact .of_eq ⟨rfl, fun _ => hs⟩ rfl rfl rfl (.inl rfl) (.inl rfl)
  | closeFailed hc =>
    have hs : s.started = false := h.unstarted (by rw [hc]; rfl)
    exact .of_eq ⟨rfl, fun _ => hs⟩ rfl rfl rfl (.inl rfl) (.inr rfl)
  | closed hc | closeHal hc =>
    have hs : s.started = false := h.unstarted (by rw [hc]; rfl)
    exact .of_eq ⟨s.afterClose_starting _, fun _ => hs⟩ rfl rfl rfl (.inl rfl) (.inr rfl)
  | writerSet hc =>
    have hs : s.started = false := h.unstarted (by rw [hc]; rfl)
    exact ⟨⟨rfl, fun _ => hs⟩, rfl, rfl, rfl, .inr ⟨rfl, hs⟩, .inl rfl, [],
      (List.append_nil _).symm, rfl, rfl⟩
  | writerOffer hc =>
    have hs : s.started = false := h.unstarted (by rw [hc]; rfl)
    exact ⟨⟨rfl, fun _ => hs⟩, rfl, frames_offerNull _, cap_offerNull _, .inl rfl, .inl rfl, [],
      (List.append_nil _).symm, rfl, rfl⟩

/-! ### The books -/

/-- What was accepted since the session began with the frames `old` on their way out, and what has
become of it. In the loop every accepted frame was handed to `write`, is in the writer's hand, or is
in the queue; after it the frames in the queue are thrown away. -/
inductive Ledger (old : List FramePtr) (obs : List Obs) (s : State) : Prop
  | looping {pc : WriterPC} : s.writers = [pc] → pc.life = .looping →
    (s.writer = .running ∨ s.writer = .stopping ∧ s.started = false) →
    handed obs ++ (pc.hand ++ s.wQueue.frames) = old ++ accepted obs → Ledger old obs s
  | leaving {pc : WriterPC} : s.writers = [pc] → pc.life = .leaving → s.writer = .stopping →
    s.started = false → handed obs <+: old ++ accepted obs → (pc = .exit → s.wQueue.frames = []) →
    Ledger old obs s
  | stopped : s.writers = [] → s.writer = .stopped → s.started = false →
    handed obs <+: old ++ accepted obs → s.wQueue.frames = [] → Ledger old obs s

namespace Ledger

variable {old : List FramePtr} {obs obs' : List Obs}

lemma handed_initial (h : Ledger old obs s) : handed obs <+: old ++ accepted obs := by
  cases h with
  | looping _ _ _ heq => exact ⟨_, heq⟩
  | leaving _ _ _ _ hinitial => exact hinitial
  | stopped _ _ _ hinitial => exact hinitial

/-- Steps that do not touch the writer and its queue. -/
lemma congr (h : Ledger old obs s) (hwriters : t.writers = s.writers)
    (hwriter : t.writer = s.writer) (hframes : t.wQueue.frames = s.wQueue.frames)
    (hstarted : t.started = s.started ∨ t.started = false) (hhanded : handed obs' = [])
    (haccepted : accepted obs' = []) : Ledger old (obs ++ obs') t := by
  have hstarted' : s.started = false → t.started = false := by
    intro hs
    rcases hstarted with ht | ht
    · rw [ht, hs]
    · exact ht
  have hh : handed (obs ++ obs') = handed obs := by simp [hhanded]
  have ha : accepted (obs ++ obs') = accepted obs := by simp [haccepted]
  cases h with
  | looping hpc hlife hflag heq =>
    refine .looping (hwriters.trans hpc) hlife ?_ ?_
    · rw [hwriter]
      exact hflag.imp_right fun hflag => ⟨hflag.1, hstarted' hflag.2⟩
    · rw [hh, ha, hframes, heq]
  | leaving hpc hlife hflag hs hinitial hexit =>
    refine .leaving (hwriters.trans hpc) hlife (hwriter.trans hflag) (hstarted' hs) ?_ ?_
    · rwa [hh, ha]
    · rwa [hframes]
  | stopped hpc hflag hs hinitial hempty =>
    refine .stopped (hwriters.trans hpc) (hwriter.trans hflag) (hstarted' hs) ?_ ?_
    · rwa [hh, ha]
    · rwa [hframes]

/-- `stopStarted()` in `Writer::stop`. -/
lemma stopStarted (h : Ledger old obs s) (hstarted : s.started = false) :
    Ledger old obs { s with writer := s.writer.stopStarted } := by
  cases h with
  | looping hpc hlife hflag heq =>
    refine .looping hpc hlife (.inr ⟨?_, hstarted⟩) heq
    rcases hflag with hflag | ⟨hflag, -⟩ <;> simp [StopState.stopStarted, hflag]
  | leaving hpc hlife hflag hs hinitial hexit =>
    exact .leaving hpc hlife (by simp [StopState.stopStarted, hflag]) hs hinitial hexit
  | stopped hpc hflag hs hinitial hempty =>
    exact .stopped hpc (by simp [StopState.stopStarted, hflag]) hs hinitial hempty

/-- A step of the writer in its loop. -/
lemma looping_writer {sendResult : ℤ} {pc : WriterPC} {m : WriterMove} (hpc : s.writers = [pc])
    (hlife : pc.life = .looping)
    (hflag : s.writer = .running ∨ s.writer = .stopping ∧ s.started = false)
    (heq : handed obs ++ (pc.hand ++ s.wQueue.frames) = old ++ accepted obs)
    (hhand : ∀ p ∈ pc.hand, 1 ≤ p.frame.length) (hm : WriterStep s err sendResult pc m) :
    Ledger old (obs ++ m.obs) (s.applyWriter 0 m) := by
  have hmove : (s.applyWriter 0 m).writers = m.pc.toList := by
    rw [State.applyWriter, hpc, moveThread_singleton]
  cases hm with
  | checkStopped | check | start | drainSkipped | drainStart | drain | drainDone | drainWait
  | drainPop | exit => cases hlife
  | wait hne | again hflag' =>
    refine .looping hmove rfl hflag ?_
    simpa [WriterMove.goto, WriterPC.hand] using heq
  | pop htake =>
    refine .looping hmove rfl hflag ?_
    simpa [WriterPC.hand, EventQueue.frames_of_take_some htake] using heq
  | popNull htake =>
    refine .looping hmove rfl hflag ?_
    simpa [WriterPC.hand, EventQueue.frames_of_take_none htake] using heq
  | @write p _ =>
    obtain ⟨o, ho, hm⟩ := writeMove_of_header s err sendResult (hhand p (List.mem_singleton_self p))
    rw [hm] at hmove ⊢
    refine .looping hmove rfl hflag ?_
    rcases ho with rfl | rfl <;> simpa [WriterPC.hand, handed, accepted] using heq
  | leave hflag' =>
    obtain hflag | ⟨hflag, hs⟩ := hflag
    · exact absurd hflag hflag'
    · exact .leaving hmove rfl hflag hs ⟨_, by simpa [WriterMove.goto] using heq⟩ (by simp)

/-- A step of the writer after its loop. -/
lemma leaving_writer {sendResult : ℤ} {pc : WriterPC} {m : WriterMove} (hpc : s.writers = [pc])
    (hlife : pc.life = .leaving) (hflag : s.writer = .stopping) (hs : s.started = false)
    (hinitial : handed obs <+: old ++ accepted obs) (hexit : pc = .exit → s.wQueue.frames = [])
    (hm : WriterStep s err sendResult pc m) : Ledger old (obs ++ m.obs) (s.applyWriter 0 m) := by
  have hmove : (s.applyWriter 0 m).writers = m.pc.toList := by
    rw [State.applyWriter, hpc, moveThread_singleton]
  have hinitial' : handed (obs ++ []) <+: old ++ accepted (obs ++ []) := by
    rwa [List.append_nil]
  cases hm with
  | checkStopped | check | start | wait | pop | popNull | write | again | leave => cases hlife
  | drainSkipped hflag' =>
    rw [hflag] at hflag'
    cases hflag'
  | drainStart | drain | drainWait | drainPop =>
    exact .leaving hmove rfl hflag hs hinitial' (by simp)
  | drainDone hempty =>
    refine .leaving hmove rfl hflag hs hinitial' fun _ => ?_
    simp [WriterMove.goto, State.applyWriter, EventQueue.frames, hempty]
  | exit => exact .stopped hmove rfl hs hinitial' (hexit rfl)

lemma applyWriter {sendResult : ℤ} {i : ℕ} {pc : WriterPC} {m : WriterMove} (h : Ledger old obs s)
    (hheaders : HasHeaders s) (hpc : s.writers[i]? = some pc)
    (hm : WriterStep s err sendResult pc m) : Ledger old (obs ++ m.obs) (s.applyWriter i m) := by
  have hhand := hheaders.hand hpc
  cases h with
  | looping hpcs hlife hflag heq =>
    rw [hpcs] at hpc
    obtain ⟨rfl, rfl⟩ := getElem?_singleton_eq_some hpc
    exact looping_writer hpcs hlife hflag heq hhand hm
  | leaving hpcs hlife hflag hs hinitial hexit =>
    rw [hpcs] at hpc
    obtain ⟨rfl, rfl⟩ := getElem?_singleton_eq_some hpc
    exact leaving_writer hpcs hlife hflag hs hinitial hexit hm
  | stopped hpcs =>
    rw [hpcs] at hpc
    cases hpc

/-- An accepted frame goes to the end of the queue. -/
lemma sendAsync {frame : CECFrame} (h : Ledger old obs s) (hs : s.started = true)
    (hlt : s.wQueue.events.length < s.wQueue.cap) :
    Ledger old (obs ++ [.accepted ⟨s.nextAddr, frame⟩])
      { s with
        wQueue := s.wQueue.push (some ⟨s.nextAddr, frame⟩) hlt
        nextAddr := s.nextAddr + 1
        trace := s.trace ++ [.accepted ⟨s.nextAddr, frame⟩] } := by
  cases h with
  | looping hpcs hlife hflag heq =>
    refine .looping hpcs hlife (.inl ?_) ?_
    · rcases hflag with hflag | ⟨-, hs'⟩
      · exact hflag
      · rw [hs] at hs'
        cases hs'
    · have heq' : handed obs ++ (_ ++ s.wQueue.frames) ++ [⟨s.nextAddr, frame⟩] = _ :=
        congrArg (· ++ [⟨s.nextAddr, frame⟩]) heq
      simpa [handed, accepted] using heq'
  | leaving _ _ _ hs' | stopped _ _ hs' =>
    rw [hs] at hs'
    cases hs'

end Ledger

/-! ### Runs -/

lemma ReaderStep.obs {pc : ReaderPC} {m : ReaderMove} (h : ReaderStep s pc m) :
    handed m.obs = [] ∧ accepted m.obs = [] := by
  cases h <;> exact ⟨rfl, rfl⟩

lemma WriterStep.accepted_obs {sendResult : ℤ} {pc : WriterPC} {m : WriterMove}
    (h : WriterStep s err sendResult pc m) (hhand : ∀ p ∈ pc.hand, 1 ≤ p.frame.length) :
    accepted m.obs = [] := by
  cases h with
  | @write p _ =>
    obtain ⟨o, ho, hm⟩ := writeMove_of_header s err sendResult (hhand p (List.mem_singleton_self p))
    rw [hm]
    rcases ho with rfl | rfl <;> rfl
  | _ => rfl

/-- What holds in a session that began in `s₀`. -/
structure Session (s₀ s : State) : Prop where
  route : Route s
  headers : HasHeaders s
  cap : s.wQueue.cap = 32
  ledger : ∃ obs, s.trace = s₀.trace ++ obs ∧ Ledger s₀.outgoing obs s

lemma Route.step (h : Route s) (hl : WithinSession l) (hstep : Step s l t) : Route t := by
  cases hstep with
  | initRefused | callInit => exact absurd rfl hl.1
  | callBusStart => exact absurd rfl hl.2.1
  | callTerm | callBusStop => exact ⟨rfl, by simp [Ctl.unstarted]⟩
  | ctl hstep => exact (h.ctlStep hstep).route
  | _ => exact ⟨h.starting, h.unstarted⟩

/-- A step in a session adds to the books. -/
lemma Ledger.step {old : List FramePtr} {obs : List Obs} (h : Ledger old obs s) (hroute : Route s)
    (hheaders : HasHeaders s) (hl : WithinSession l) (hstep : Step s l t) :
    ∃ obs', t.trace = s.trace ++ obs' ∧ Ledger old (obs ++ obs') t := by
  cases hstep with
  | initRefused | callInit => exact absurd rfl hl.1
  | callBusStart => exact absurd rfl hl.2.1
  | callTerm | callBusStop | receive | offerRefused =>
    exact ⟨[], (List.append_nil _).symm, h.congr rfl rfl rfl (.inl rfl) rfl rfl⟩
  | termRefused | discard | sendAsyncRefused =>
    exact ⟨[], (List.append_nil _).symm, (List.append_nil obs).symm ▸ h⟩
  | ctl hstep =>
    have hsession := hroute.ctlStep hstep
    obtain ⟨obs', htrace, hhanded, haccepted⟩ := hsession.trace
    refine ⟨obs', htrace, ?_⟩
    rcases hsession.writer with hwriter | ⟨hwriter, hs⟩
    · exact h.congr hsession.writers hwriter hsession.frames hsession.started hhanded haccepted
    · exact (h.stopStarted hs).congr hsession.writers hwriter hsession.frames hsession.started
        hhanded haccepted
  | reader hpc hm => exact ⟨_, rfl, h.congr rfl rfl rfl (.inl rfl) hm.obs.1 hm.obs.2⟩
  | writer hpc hm => exact ⟨_, rfl, h.applyWriter hheaders hpc hm⟩
  | offer => exact ⟨_, rfl, h.congr rfl rfl rfl (.inl rfl) rfl rfl⟩
  | sendAsync hlt _ hs => exact ⟨_, rfl, h.sendAsync hs hlt⟩

lemma Session.step {s₀ : State} (h : Session s₀ s) (hl : WithinSession l) (hstep : Step s l t) :
    Session s₀ t := by
  obtain ⟨obs, htrace, hledger⟩ := h.ledger
  refine ⟨h.route.step hl hstep, h.headers.step hl.2.2 hstep, ?_, ?_⟩
  · cases hstep with
    | ctl hstep => exact (h.route.ctlStep hstep).cap.trans h.cap
    | writer hpc hm => exact hm.cap.trans h.cap
    | _ => exact h.cap
  · obtain ⟨obs', htrace', hledger'⟩ := hledger.step h.route h.headers hl hstep
    refine ⟨obs ++ obs', ?_, hledger'⟩
    rw [htrace', htrace, List.append_assoc]

lemma InSession.session (h : InSession s) : Session s s := by
  obtain ⟨pc, hpc, hlife⟩ := h.looping
  refine ⟨⟨?_, ?_⟩, h.headers, h.cap, [], (List.append_nil _).symm, ?_⟩
  · rw [h.idle]
    rfl
  · rw [h.idle]
    intro hunstarted
    cases hunstarted
  · refine .looping hpc hlife (.inl h.running) ?_
    simp [State.outgoing, hpc, handed, accepted]

lemma Session.of_run {s₀ : State} (h₀ : InSession s₀)
    (h : Run HdmiCec.step (fun _ l => WithinSession l) s₀ s) : Session s₀ s := by
  apply h.invariant _ h₀.session
  intro s l t hl hstep hsession
  exact hsession.step hl (Step.of_step hstep).2

/-- A bus that is not started accepts nothing. -/
lemma Route.unstarted_step (h : Route s) (hheaders : HasHeaders s) (hs : s.started = false)
    (hl : WithinSession l) (hstep : Step s l t) :
    t.started = false ∧ ∃ obs, t.trace = s.trace ++ obs ∧ accepted obs = [] := by
  cases hstep with
  | callBusStart => exact absurd rfl hl.2.1
  | ctl hstep =>
    have hsession := h.ctlStep hstep
    obtain ⟨obs, htrace, -, haccepted⟩ := hsession.trace
    exact ⟨hsession.started.elim (·.trans hs) id, obs, htrace, haccepted⟩
  | reader hpc hm => exact ⟨hs, _, rfl, hm.obs.2⟩
  | writer hpc hm => exact ⟨hs, _, rfl, hm.accepted_obs (hheaders.hand hpc)⟩
  | offer => exact ⟨hs, _, rfl, rfl⟩
  | sendAsync _ _ hs' =>
    rw [hs] at hs'
    cases hs'
  | _ => exact ⟨hs, [], (List.append_nil _).symm, rfl⟩

lemma Session.accepts_nothing {s₀ : State} (h : Session s₀ s) (hs : s.started = false)
    (hrun : Run HdmiCec.step (fun _ l => WithinSession l) s t) :
    ∃ obs, t.trace = s.trace ++ obs ∧ accepted obs = [] := by
  have hinv : (Route t ∧ HasHeaders t) ∧ t.started = false ∧
      ∃ obs, t.trace = s.trace ++ obs ∧ accepted obs = [] := by
    apply hrun.invariant _ ⟨⟨h.route, h.headers⟩, hs, [], (List.append_nil _).symm, rfl⟩
    rintro u l v hl hstep ⟨⟨hroute, hheaders⟩, hs, obs, htrace, haccepted⟩
    have hstep' := (Step.of_step hstep).2
    obtain ⟨hs', obs', htrace', haccepted'⟩ := hroute.unstarted_step hheaders hs hl hstep'
    refine ⟨⟨hroute.step hl hstep', hheaders.step hl.2.2 hstep'⟩, hs', obs ++ obs', ?_, ?_⟩
    · rw [htrace', htrace, List.append_assoc]
    · rw [accepted_append, haccepted, haccepted', List.append_nil]
  exact hinv.2.2

/-! ### The theorem -/

/-- `sendAsync(frame)` accepted the frame. -/
def Accepts (s : State) (frame : CECFrame) (t : State) : Prop :=
  t.wQueue.events = s.wQueue.events ++ [some ⟨s.nextAddr, frame⟩] ∧
    t.trace = s.trace ++ [.accepted ⟨s.nextAddr, frame⟩]

/-- How a call of `sendAsync(frame)` in `s` ends for its caller: it returns, or it throws. -/
def State.asyncResult (s : State) (frame : CECFrame) : Except Exn FrameQueue :=
  (Bus.sendAsync s.started s.wQueue s.nextAddr frame).result

lemma Session.sendAsync {s₀ : State} (h : Session s₀ s) {frame : CECFrame}
    (hstep : HdmiCec.step s (.sendAsync frame) = some t) :
    (Accepts s frame t ↔ s.started = true ∧ s.wQueue.size < 32) ∧
      (Accepts s frame t → s.asyncResult frame = .ok t.wQueue) ∧
      (¬ Accepts s frame t → t = s ∧
        s.asyncResult frame = .error (if s.started then .osalInvalidState else .invalidState)) := by
  simp only [HdmiCec.step, Option.ite_none_left_eq_some, HdmiCec.sendAsync,
    Option.ite_none_right_eq_some, Option.some.injEq] at hstep
  obtain ⟨-, -, rfl⟩ := hstep
  unfold State.asyncResult
  rcases Bus.sendAsync_cases s.started s.wQueue s.nextAddr frame with
    ⟨hstarted, hlt, hresult⟩ | ⟨hrefused, hresult⟩
  · have hsize : s.wQueue.size < 32 := h.cap ▸ hlt
    rw [hresult]
    have haccepts : Accepts s frame
        (s.queued (.ok (s.wQueue.push (some ⟨s.nextAddr, frame⟩) hlt))) := by
      rw [State.queued_push]
      exact ⟨rfl, rfl⟩
    exact ⟨⟨fun _ => ⟨hstarted, hsize⟩, fun _ => haccepts⟩, fun _ => rfl, absurd haccepts⟩
  · rw [hresult]
    have hnot : ¬ Accepts s frame s := by
      rintro ⟨hevents, -⟩
      simp at hevents
    refine ⟨⟨fun haccepts => absurd haccepts hnot, ?_⟩, fun haccepts => absurd haccepts hnot,
      fun _ => ⟨rfl, rfl⟩⟩
    rintro ⟨hstarted, hsize⟩
    rcases hrefused with hstopped | hfull
    · rw [hstarted] at hstopped
      cases hstopped
    · rw [h.cap] at hfull
      exact absurd hfull (Nat.ne_of_lt hsize)

/-- Within a session, `sendAsync` can be called whenever `wMutex` is free. It accepts the frame and
returns exactly when the bus is started and the queue has room, and otherwise it throws and changes
nothing. While the writer is running, the frames handed to `write`, the one in its hand and those in
the queue are the accepted frames in their order; the frames handed to `write` are always the first
of these; and when the writer has stopped no frame is left in the queue, and none is accepted until
the bus is started again. -/
theorem sendAsync_fifo {s₀ : State} (h₀ : InSession s₀)
    (h : Run step (fun _ l => WithinSession l) s₀ s) :
    (∀ frame, s.escaped = none → s.wMutexFree = true → (step s (.sendAsync frame)).isSome = true) ∧
    (∀ frame t, step s (.sendAsync frame) = some t →
      (Accepts s frame t ↔ s.started = true ∧ s.wQueue.size < 32) ∧
      (Accepts s frame t → s.asyncResult frame = .ok t.wQueue) ∧
      (¬ Accepts s frame t → t = s ∧
        s.asyncResult frame = .error (if s.started then .osalInvalidState else .invalidState))) ∧
    ∃ obs, s.trace = s₀.trace ++ obs ∧
      (s.writer = .running → handed obs ++ s.outgoing = s₀.outgoing ++ accepted obs) ∧
      handed obs <+: s₀.outgoing ++ accepted obs ∧
      (s.writer = .stopped → s.wQueue.frames = [] ∧
        ∀ t, Run step (fun _ l => WithinSession l) s t →
          ∃ obs', t.trace = s.trace ++ obs' ∧ accepted obs' = []) := by
  have hsession := Session.of_run h₀ h
  refine ⟨?_, fun frame t hstep => hsession.sendAsync hstep, ?_⟩
  · intro frame hescaped hfree
    simp [step, hescaped, sendAsync, hfree]
  obtain ⟨obs, htrace, hledger⟩ := hsession.ledger
  refine ⟨obs, htrace, ?_, hledger.handed_initial, ?_⟩
  · intro hrunning
    cases hledger with
    | looping hpcs _ _ heq => simpa [State.outgoing, hpcs] using heq
    | leaving _ _ hflag | stopped _ hflag =>
      rw [hrunning] at hflag
      cases hflag
  · intro hstopped
    cases hledger with
    | looping _ _ hflag => simp [hstopped] at hflag
    | leaving _ _ hflag =>
      rw [hstopped] at hflag
      cases hflag
    | stopped _ _ hs _ hempty =>
      exact ⟨hempty, fun t hrun => hsession.accepts_nothing hs hrun⟩

lemma waitingBus_inSession : InSession waitingBus where
  idle := rfl
  started := rfl
  running := rfl
  looping := ⟨.wait, rfl, rfl⟩
  headers := fun p hp => by cases hp
  cap := rfl

/-- Two frames are accepted, the first is written, and the bus is stopped before the second. A call
after that throws. -/
theorem sendAsync_fifo_stopped :
    ∃ s : State, (s.writer = .stopped ∧ (accepted s.trace).length = 2) ∧ s.wQueue.frames = [] ∧
      handed s.trace <+: accepted s.trace ∧
      step s (.sendAsync ⟨[0x40], by decide⟩) = some s ∧
      s.asyncResult ⟨[0x40], by decide⟩ = .error .invalidState := by
  obtain ⟨s, hrun, hs⟩ := Run.of_execSat
    (show execSat step (fun _ l => WithinSession l)
      (fun s => s.writer = .stopped ∧ (accepted s.trace).length = 2 ∧ s.escaped = none ∧
        s.wMutexFree = true ∧ s.started = false) waitingBus
      ([.sendAsync ⟨[0x40], by decide⟩, .sendAsync ⟨[0x4F, 0x82], by decide⟩] ++
        List.replicate 3 (.writer 0 ioSuccess ioSuccess) ++
        .callBusStop :: List.replicate 5 (.ctl ioSuccess) ++ List.replicate 6 (.reader 0) ++
        List.replicate 5 (.ctl ioSuccess) ++ List.replicate 10 (.writer 0 ioSuccess ioSuccess) ++
        List.replicate 2 (.ctl ioSuccess)) =
      true by decide +kernel)
  obtain ⟨hstopped, hlength, hescaped, hfree, hstarted⟩ : s.writer = .stopped ∧
    (accepted s.trace).length = 2 ∧ s.escaped = none ∧ s.wMutexFree = true ∧ s.started = false :=
    of_decide_eq_true hs
  obtain ⟨hcall, hends, obs, htrace, -, hinitial, hend⟩ :=
    sendAsync_fifo waitingBus_inSession hrun
  obtain rfl : s.trace = obs := htrace
  obtain ⟨t, ht⟩ := Option.isSome_iff_exists.mp (hcall ⟨[0x40], by decide⟩ hescaped hfree)
  obtain ⟨haccepts, -, hrefused⟩ := hends _ t ht
  have hnot : ¬ Accepts s ⟨[0x40], by decide⟩ t := by
    rw [haccepts, hstarted]
    simp
  obtain ⟨rfl, hresult⟩ := hrefused hnot
  rw [hstarted] at hresult
  exact ⟨_, ⟨hstopped, hlength⟩, (hend hstopped).1, hinitial, ht, hresult⟩

end HdmiCec
