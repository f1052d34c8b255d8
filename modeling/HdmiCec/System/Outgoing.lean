import HdmiCec.System.Fifo
import HdmiCec.System.Isolation
import HdmiCec.System.Termination
import Mathlib.Data.List.DropRight

/-!
# What becomes of the frames that are sent

Any number of sessions of `LibCCEC::init` and `LibCCEC::term`. `term` closes the driver before it
stops the writer, so the frames that are still on their way then are dropped by `write`, or taken
from the queue by the loop at the end of `Bus::Writer::run`. None of them comes to the next session.
-/

namespace HdmiCec

open Lib DriverImpl

/-! ### What is observed -/

/-- The frames given to `HdmiCecTx`, in order. -/
def transmitted (obs : List Obs) : List FramePtr :=
  obs.filterMap fun
    | .tx p => some p
    | _ => none

/-- What was observed since the driver was opened last. -/
def sinceOpened (obs : List Obs) : List Obs := obs.rtakeWhile (· ≠ .opened)

@[simp] lemma transmitted_append (obs obs' : List Obs) :
    transmitted (obs ++ obs') = transmitted obs ++ transmitted obs' := List.filterMap_append

@[simp] lemma sinceOpened_opened (obs : List Obs) : sinceOpened (obs ++ [.opened]) = [] :=
  List.rtakeWhile_concat_neg _ _ _ (by simp)

lemma sinceOpened_append (obs : List Obs) {obs' : List Obs} (h : .opened ∉ obs') :
    sinceOpened (obs ++ obs') = sinceOpened obs ++ obs' := by
  induction obs' using List.reverseRecOn with
  | nil => simp
  | append_singleton obs' o ih =>
    rw [List.mem_append, not_or, List.mem_singleton] at h
    have hconcat : sinceOpened (obs ++ obs' ++ [o]) = sinceOpened (obs ++ obs') ++ [o] :=
      List.rtakeWhile_concat_pos _ _ _ (decide_eq_true (Ne.symm h.2))
    rw [← List.append_assoc, hconcat, ih h.1, List.append_assoc]

/-! ### The writer -/

variable {s t : State} {l : Label} {err : ℤ}

/-- What a step of the writer does to the frames on their way out, which go from `old` to `new`:
nothing, or the first of them is given to `HdmiCecTx`, or it is lost when the driver is not open. -/
inductive Passes (s : State) (obs : List Obs) (old new : List FramePtr) : Prop
  | keeps : transmitted obs = [] → new = old → Passes s obs old new
  | transmits {p : FramePtr} : transmitted obs = [p] → s.status = .opened → old = p :: new →
    Passes s obs old new
  | loses {p : FramePtr} : transmitted obs = [] → s.status ≠ .opened → old = p :: new →
    Passes s obs old new

/-- A call of `HdmiCecTx`. -/
def txBytes : WriteEvent → Option (List UInt8)
  | .lib _ => none
  | .hdmiCecTx bytes => some bytes

/-- A frame with a header is given to `HdmiCecTx` when the driver is open, and dropped otherwise. -/
lemma writeObs_of_header (s : State) {p : FramePtr} (err sendResult : ℤ)
    (h : 1 ≤ p.frame.length) :
    writeObs p (DriverImpl.write s.status err sendResult p.frame).log =
      [.handed p, if s.status = .opened then .tx p else .dropped p] := by
  have hseen : (DriverImpl.write s.status err sendResult p.frame).log.filterMap txBytes =
      if s.status = .opened then [p.frame.bytes] else [] :=
    DriverImpl.seen_write (fun _ => rfl) h
  have hmem : .hdmiCecTx p.frame.bytes ∈
      (DriverImpl.write s.status err sendResult p.frame).log ↔ s.status = .opened := by
    have hiff : p.frame.bytes ∈
        (DriverImpl.write s.status err sendResult p.frame).log.filterMap txBytes ↔
          s.status = .opened := by
      rw [hseen]
      split <;> simp [*]
    rw [← hiff, List.mem_filterMap]
    constructor
    · exact fun hlog => ⟨_, hlog, rfl⟩
    · rintro ⟨e, hlog, he⟩
      cases e with
      | lib e => cases he
      | hdmiCecTx bytes =>
        cases he
        exact hlog
  simp only [writeObs, hmem]

lemma writeMove_eq (s : State) {p : FramePtr} (err sendResult : ℤ) (h : 1 ≤ p.frame.length) :
    writeMove s p err sendResult = ⟨some .test, s.writer, s.wQueue,
      [.handed p, if s.status = .opened then .tx p else .dropped p], none⟩ := by
  simp only [writeMove, writeObs_of_header s err sendResult h]
  split
  · rfl
  · rename_i e he
    simp [write_raisesOnly h e he]

lemma WriterStep.passes {sendResult : ℤ} {pc : WriterPC} {m : WriterMove}
    (h : WriterStep s err sendResult pc m) (hhand : ∀ p ∈ pc.hand, 1 ≤ p.frame.length)
    (hleaving : pc.life = .leaving → s.status ≠ .opened) :
    Passes s m.obs (pc.hand ++ s.wQueue.frames)
      (m.pc.toList.flatMap WriterPC.hand ++ m.wQueue.frames) := by
  cases h with
  | pop htake =>
    refine .keeps rfl ?_
    simp [WriterPC.hand, EventQueue.frames_of_take_some htake]
  | popNull htake =>
    refine .keeps rfl ?_
    simp [WriterPC.hand, EventQueue.frames_of_take_none htake]
  | @write p _ =>
    rw [writeMove_eq s err sendResult (hhand p (List.mem_singleton_self p))]
    by_cases hopen : s.status = .opened
    · exact .transmits (by simp [transmitted, hopen]) hopen rfl
    · exact .loses (by simp [transmitted, hopen]) hopen rfl
  | drainPop =>
    cases htake : s.wQueue.take.1.join with
    | none =>
      refine .keeps rfl ?_
      simp [WriterPC.hand, EventQueue.frames_of_take_none htake]
    | some p =>
      refine .loses (p := p) rfl (hleaving rfl) ?_
      exact EventQueue.frames_of_take_some (Option.join_eq_some_iff.mp htake)
  | _ => exact .keeps rfl (by simp [WriterMove.goto, WriterPC.hand])

/-! ### The control thread -/

lemma Phase.Holds.eq_stopping {ph : Phase} {f : StopState} {threads : List Life}
    (h : ph.Holds f threads) (hmem : .leaving ∈ threads) : ph = .stopping := by
  induction h with
  | readyRunning _ ih | readyDown _ ih | up _ ih => cases ih hmem
  | running hlife | restarted hlife =>
    obtain rfl := List.mem_singleton.mp hmem
    simp at hlife
  | stopping | stopped => rfl
  | unborn | down => cases hmem

/-- A writer that is leaving its loop was told to stop, and the driver was closed before that. -/
lemma Orderly.not_opened_of_leaving (h : Orderly s) {pc : WriterPC} (hpc : pc ∈ s.writers)
    (hlife : pc.life = .leaving) : s.status ≠ .opened := by
  have hphase : s.writerPhase = .stopping :=
    h.writer.eq_stopping (hlife ▸ List.mem_map_of_mem hpc)
  apply h.closing
  cases hc : s.ctl with
  | writerOffer | writerWait => rfl
  | idle | initOpen | getInstance =>
    simp only [State.writerPhase, hc] at hphase
    split_ifs at hphase
  | close caller =>
    cases caller <;> simp [State.writerPhase, hc] at hphase
  | _ => simp [State.writerPhase, hc] at hphase

/-- When `Bus::stop` begins, the writer has not left its loop. -/
lemma Orderly.exists_ne_exit (h : Orderly s) (hc : s.ctl = .stopFlag) :
    ¬ ∀ pc ∈ s.writers, pc = .exit := by
  intro hexit
  have hwriter := h.writer
  simp only [State.writerPhase, hc] at hwriter
  obtain ⟨a, ha⟩ := List.exists_mem_of_ne_nil _ hwriter.ne_nil
  obtain ⟨pc, hpc, rfl⟩ := List.mem_map.mp ha
  obtain rfl := hexit pc hpc
  cases hwriter.eq_stopping ha

lemma Ctl.terminating_of_closing {c : Ctl} (h : c.closing = true) : c.terminating = true := by
  cases c <;> first | rfl | cases h

/-- `term` ends with its last step only. -/
lemma Orderly.ctl_eq_termDone (h : Orderly s) (hstep : CtlStep s err t)
    (hs : s.ctl.terminating = true) (ht : t.ctl.terminating = false) : s.ctl = .termDone := by
  cases hstep with
  | termDone hc => exact hc
  | initOpen hc | found hc | build hc | construct hc | startLock hc | restartReader hc
  | startReader hc | restartWriter hc | startWriter hc | startOpen hc | startDone hc =>
    rw [hc] at hs
    cases hs
  | stopFlag | readerStop | close | closeOffer | readerWait | writerLock | writerRuns | writerRests
  | writerSet | writerOffer | writerWait => cases ht
  | closeFailed hc hcaller => exact absurd (h.closer _ (.inr hc)) hcaller
  | @closed caller hc | @closeHal caller hc =>
    have hlib : s.lib = true := h.inLib (by simp [hc])
    have hterm : (s.afterClose caller).terminating = true :=
      Ctl.terminating_of_closing (s.closing_afterClose hlib caller)
    rw [hterm] at ht
    cases ht

/-! ### The books -/

/-- Of the frames that were accepted since the driver was opened, the first were given to
`HdmiCecTx`, the next are lost, which happens when the driver is not open only, and the others are
on their way out. -/
structure Conveyed (s : State) : Prop where
  order : (transmitted s.trace ++ s.outgoing).Sublist (accepted s.trace)
  inSession : ∃ lost, accepted (sinceOpened s.trace) =
    transmitted (sinceOpened s.trace) ++ lost ++ s.outgoing ∧ (s.status = .opened → lost = [])

namespace Conveyed

variable {obs : List Obs}

/-- Nothing is accepted. -/
lemma passes (h : Conveyed s) (htrace : t.trace = s.trace ++ obs) (hopened : .opened ∉ obs)
    (haccepted : accepted obs = []) (hstatus : t.status = .opened → s.status = .opened)
    (hpasses : Passes s obs s.outgoing t.outgoing) : Conveyed t := by
  obtain ⟨lost, hsession, hlost⟩ := h.inSession
  have horder := h.order
  have hs : sinceOpened t.trace = sinceOpened s.trace ++ obs :=
    htrace ▸ sinceOpened_append _ hopened
  have hall : accepted t.trace = accepted s.trace := by simp [htrace, haccepted]
  have hlast : accepted (sinceOpened t.trace) = accepted (sinceOpened s.trace) := by
    simp [hs, haccepted]
  cases hpasses with
  | keeps htx hout =>
    refine ⟨?_, lost, ?_, fun hopen => hlost (hstatus hopen)⟩
    · rwa [hall, hout, htrace, transmitted_append, htx, List.append_nil]
    · rw [hlast, hout, hs, transmitted_append, htx, List.append_nil, hsession]
  | @transmits p htx hopen hout =>
    rw [hout] at horder hsession
    refine ⟨?_, lost, ?_, fun hopen => hlost (hstatus hopen)⟩
    · rw [hall, htrace, transmitted_append, htx]
      simpa using horder
    · rw [hlast, hs, transmitted_append, htx, hsession, hlost hopen]
      simp
  | @loses p htx hclosed hout =>
    rw [hout] at horder hsession
    refine ⟨?_, lost ++ [p], ?_, fun hopen => absurd (hstatus hopen) hclosed⟩
    · rw [hall, htrace, transmitted_append, htx, List.append_nil]
      exact ((List.sublist_cons_self p _).append_left _).trans horder
    · rw [hlast, hs, transmitted_append, htx, hsession]
      simp

/-- Nothing happens to the frames on their way out. -/
lemma keeps (h : Conveyed s) (htrace : t.trace = s.trace ++ obs) (hopened : .opened ∉ obs)
    (htx : transmitted obs = []) (haccepted : accepted obs = [])
    (hstatus : t.status = .opened → s.status = .opened) (hout : t.outgoing = s.outgoing) :
    Conveyed t :=
  h.passes htrace hopened haccepted hstatus (.keeps htx hout)

/-- A frame is accepted at the end. -/
lemma accepts {p : FramePtr} (h : Conveyed s) (htrace : t.trace = s.trace ++ [.accepted p])
    (hstatus : t.status = s.status) (hout : t.outgoing = s.outgoing ++ [p]) : Conveyed t := by
  obtain ⟨lost, hsession, hlost⟩ := h.inSession
  constructor
  · rw [htrace, hout, transmitted_append, accepted_append]
    simpa [transmitted, accepted] using h.order.append_right [p]
  · refine ⟨lost, ?_, fun hopen => hlost (hstatus ▸ hopen)⟩
    rw [htrace, hout, sinceOpened_append _ (by simp), transmitted_append, accepted_append, hsession]
    simp [transmitted, accepted]

/-- A session begins with nothing on its way out. -/
lemma opened (h : Conveyed s) (htrace : t.trace = s.trace ++ [.opened])
    (hout : t.outgoing = s.outgoing) (hquiet : s.outgoing = []) : Conveyed t := by
  constructor
  · rw [htrace, hout, transmitted_append, accepted_append]
    simpa [transmitted, accepted] using h.order
  · refine ⟨[], ?_, fun _ => rfl⟩
    rw [htrace, hout, sinceOpened_opened, hquiet]
    rfl

end Conveyed

/-! ### The invariant -/

/-- Nothing is on its way out while the bus is down. -/
structure Conveying (s : State) : Prop extends Orderly s, Conveyed s where
  quiet : s.started = false → s.ctl.terminating = false → s.outgoing = []
  drained : s.started = false → (∀ pc ∈ s.writers, pc = .exit) → s.wQueue.frames = []

/-- Nothing is left when `term` returns. -/
lemma Conveying.quiet_ctlStep (h : Conveying s) (hstep : CtlStep s err t)
    (hstarted : t.started = false) (hterm : t.ctl.terminating = false) : t.outgoing = [] := by
  rw [hstep.outgoing_eq]
  by_cases hs : s.ctl.terminating = true
  · have hc : s.ctl = .termDone := h.ctl_eq_termDone hstep hs hterm
    obtain ⟨-, hdown, -⟩ := h.flags_eq (by rw [hc]; rfl)
    have hwriter := h.writer
    simp only [State.writerPhase, hc] at hwriter
    have hwriters : s.writers = [] :=
      List.map_eq_nil_iff.mp (@Phase.Holds.eq_nil s.writer _ true hwriter)
    simp [State.outgoing, hwriters, h.drained hdown]
  · refine h.quiet ?_ (Bool.not_eq_true _ ▸ hs)
    cases hstep with
    | initOpen _ _ hopen | startOpen _ _ hopen => cases hopen <;> exact hstarted
    | startDone => cases hstarted
    | stopFlag hc => simp [hc, Ctl.terminating] at hs
    | _ => exact hstarted

lemma Conveying.conveyed_ctlStep (h : Conveying s) (hstep : CtlStep s err t) : Conveyed t := by
  have hout : t.outgoing = s.outgoing := hstep.outgoing_eq
  cases hstep with
  | initOpen hc _ hopen =>
    obtain ⟨-, hdown, -⟩ := h.flags_eq (by rw [hc]; rfl)
    cases hopen with
    | opened => exact h.opened rfl hout (h.quiet hdown (by rw [hc]; rfl))
    | already | failed => exact h.keeps (List.append_nil _).symm (by simp) rfl rfl id hout
  | startOpen hc _ hopen =>
    cases hopen with
    | opened hs => exact absurd hs (h.opening (by rw [hc]; rfl))
    | already | failed => exact h.keeps (List.append_nil _).symm (by simp) rfl rfl id hout
  | closed => exact h.keeps rfl (by simp) rfl rfl id hout
  | closeFailed | closeHal => exact h.keeps rfl (by simp) rfl rfl (by simp) hout
  | close => exact h.keeps (List.append_nil _).symm (by simp) rfl rfl (by simp) hout
  | _ => exact h.keeps (List.append_nil _).symm (by simp) rfl rfl id hout

/-- The frames on their way out and the thread of the writer. -/
lemma State.outgoing_singleton {pc : WriterPC} (hpc : s.writers = [pc]) :
    s.outgoing = pc.hand ++ s.wQueue.frames := by
  simp [State.outgoing, hpc]

lemma Conveying.conveyed_applyWriter {sendResult : ℤ} {i : ℕ} {pc : WriterPC} {m : WriterMove}
    (h : Conveying s) (hpc : s.writers[i]? = some pc) (hm : WriterStep s err sendResult pc m) :
    Conveyed (s.applyWriter i m) := by
  have hhand := h.headers.hand hpc
  obtain ⟨rfl, hpcs⟩ := eq_singleton_of_getElem? h.writers_length hpc
  have hpasses := hm.passes hhand fun hlife =>
    h.not_opened_of_leaving (List.mem_of_getElem? hpc) hlife
  have hnew : (s.applyWriter 0 m).outgoing =
      m.pc.toList.flatMap WriterPC.hand ++ m.wQueue.frames := by
    rw [State.outgoing, State.applyWriter, hpcs, moveThread_singleton]
  have hopened : .opened ∉ m.obs := fun hmem => by cases hm.obs_quiet _ hmem
  refine h.toConveyed.passes rfl hopened (hm.accepted_obs hhand) id ?_
  rwa [hnew, State.outgoing_singleton hpcs]

lemma Conveying.conveyed_step (h : Conveying s) (hstep : Step s l t) : Conveyed t := by
  cases hstep with
  | ctl hstep => exact h.conveyed_ctlStep hstep
  | writer hpc hm => exact h.conveyed_applyWriter hpc hm
  | reader hpc hm =>
    cases hm <;> exact h.keeps rfl (by simp [ReaderMove.goto]) rfl rfl id rfl
  | offer => exact h.keeps rfl (by simp) rfl rfl id rfl
  | sendAsync hlt => exact h.accepts rfl rfl (by simp [State.outgoing])
  | _ => exact h.keeps (List.append_nil _).symm (by simp) rfl rfl id rfl

lemma Conveying.quiet_step (h : Conveying s) (hstep : Step s l t) (hstarted : t.started = false)
    (hterm : t.ctl.terminating = false) : t.outgoing = [] := by
  cases hstep with
  | ctl hstep => exact h.quiet_ctlStep hstep hstarted hterm
  | callInit hidle | callBusStart hidle => exact h.quiet hstarted (by rw [hidle]; rfl)
  | callTerm | callBusStop => cases hterm
  | writer hpc hm =>
    have hsubset := moveThread_subset hpc hm.outgoing_subset
    exact List.subset_nil.mp (h.quiet hstarted hterm ▸ hsubset)
  | sendAsync _ _ hs =>
    rw [hs] at hstarted
    cases hstarted
  | _ => exact h.quiet hstarted hterm

/-- A writer ends with its queue empty. -/
lemma Conveying.drained_applyWriter {sendResult : ℤ} {i : ℕ} {pc : WriterPC} {m : WriterMove}
    (h : Conveying s) (hpc : s.writers[i]? = some pc) (hm : WriterStep s err sendResult pc m)
    (hstarted : s.started = false) (hexit : ∀ pc ∈ (s.applyWriter i m).writers, pc = .exit) :
    m.wQueue.frames = [] := by
  have hhand := h.headers.hand hpc
  obtain ⟨rfl, hpcs⟩ := eq_singleton_of_getElem? h.writers_length hpc
  rw [State.applyWriter, hpcs, moveThread_singleton] at hexit
  cases hm with
  | exit => exact h.drained hstarted (by simp [hpcs])
  | drainDone hempty => simp [WriterMove.goto, EventQueue.frames, hempty]
  | drainSkipped hrunning =>
    -- a writer that has left its loop was told to stop
    have hwriter := h.writer
    have hmem : .leaving ∈ s.writers.map WriterPC.life := by simp [hpcs, WriterPC.life]
    rw [hwriter.eq_stopping hmem] at hwriter
    exact absurd hrunning hwriter.ne_running
  | write => simp [writeMove_eq s err _ (hhand _ (List.mem_singleton_self _))] at hexit
  | _ => simp [WriterMove.goto] at hexit

lemma Conveying.drained_step (h : Conveying s) (hstep : Step s l t) (hstarted : t.started = false)
    (hexit : ∀ pc ∈ t.writers, pc = .exit) : t.wQueue.frames = [] := by
  cases hstep with
  | ctl hstep =>
    cases hstep with
    | initOpen _ _ hopen | startOpen _ _ hopen => cases hopen <;> exact h.drained hstarted hexit
    | construct | restartWriter => cases hexit .spawned (by simp)
    | startDone => cases hstarted
    | stopFlag hc => exact absurd hexit (h.exists_ne_exit hc)
    | writerOffer => rw [frames_offerNull, h.drained hstarted hexit]
    | _ => exact h.drained hstarted hexit
  | writer hpc hm => exact h.drained_applyWriter hpc hm hstarted hexit
  | sendAsync _ _ hs =>
    rw [hs] at hstarted
    cases hstarted
  | _ => exact h.drained hstarted hexit

/-! ### Runs -/

lemma Conveying.step (h : Conveying s) (hl : Regular s l) (hstep : HdmiCec.step s l = some t) :
    Conveying t := by
  have hstep' := (Step.of_step hstep).2
  exact {
    toOrderly := h.toOrderly.step hl hstep
    toConveyed := h.conveyed_step hstep'
    quiet := h.quiet_step hstep'
    drained := h.drained_step hstep' }

lemma Conveying.init : Conveying .init where
  toOrderly := .init
  order := .refl _
  inSession := ⟨[], rfl, fun _ => rfl⟩
  quiet _ _ := rfl
  drained _ _ := rfl

lemma Conveying.of_run (h : Run HdmiCec.step Regular .init s) : Conveying s := by
  apply h.invariant _ Conveying.init
  intro s l t hl hstep hs
  exact hs.step hl hstep

/-! ### The theorem -/

/-- In an orderly run, over any number of sessions, the frames given to `HdmiCecTx` and those on
their way out are among the accepted ones and in their order. Of the frames accepted in a session
the first are given to `HdmiCecTx`, the next are lost, and the others are on their way out; none is
lost while the driver is open. Nothing is left for the next session; and when the threads have come
to rest within one, every frame that was accepted in it has been given to `HdmiCecTx`. -/
theorem frames_transmitted (h : Run step Regular .init s) :
    (transmitted s.trace ++ s.outgoing).Sublist (accepted s.trace) ∧
      (∃ lost, accepted (sinceOpened s.trace) =
        transmitted (sinceOpened s.trace) ++ lost ++ s.outgoing ∧
          (s.status = .opened → lost = [])) ∧
      (s.Resting → s.outgoing = []) ∧
      (s.Halted → s.initialized = true →
        transmitted (sinceOpened s.trace) = accepted (sinceOpened s.trace)) := by
  have hs : Conveying s := .of_run h
  refine ⟨hs.order, hs.inSession, ?_, ?_⟩
  · intro hrest
    have hdown := hs.down_of_not_initialized hrest.1 hrest.2
    exact hs.quiet (congrArg (·.2.1) hdown) (by rw [hrest.1]; rfl)
  · intro hhalted hinit
    obtain ⟨lost, hsession, hlost⟩ := hs.inSession
    have hrest := hs.toOrderly.atRest hhalted
    obtain ⟨-, -, hwriters, -, hempty⟩ := hrest.up hinit
    have hopen : s.status = .opened := congrArg (·.2.2) (hs.up_of_initialized hrest.idle hinit)
    have hout : s.outgoing = [] := by
      simp [State.outgoing, hwriters, WriterPC.hand, EventQueue.frames, hempty]
    rw [hsession, hlost hopen, hout]
    simp

/-- A session that is stopped with a frame in the queue, and a second one that sends another. -/
def lostThenSent : List Label :=
  startUp ++ .sendAsync ⟨[0x40], by decide⟩ :: .callTerm :: List.replicate 5 (.ctl ioSuccess) ++
    List.replicate 3 (.reader 0) ++ List.replicate 5 (.ctl ioSuccess) ++
    List.replicate 11 (.writer 0 ioSuccess ioSuccess) ++ List.replicate 4 (.ctl ioSuccess) ++
    .callInit :: List.replicate 7 (.ctl ioSuccess) ++ List.replicate 7 (.reader 0) ++
    List.replicate 2 (.writer 0 ioSuccess ioSuccess) ++ .sendAsync ⟨[0x4F, 0x82], by decide⟩ ::
    List.replicate 4 (.writer 0 ioSuccess ioSuccess)

/-- The frame of the first session is lost; in the second one the other is sent. -/
theorem frames_transmitted_second_session : ∃ s : State, (accepted s.trace).length = 2 ∧
    accepted (sinceOpened s.trace) = [⟨1, ⟨[0x4F, 0x82], by decide⟩⟩] ∧
      transmitted (sinceOpened s.trace) = accepted (sinceOpened s.trace) := by
  obtain ⟨s, hrun, hs⟩ := Run.of_execSat
    (show execSat step Regular
      (fun s => (s.ctl = .idle ∧ s.initialized = true ∧ s.readers = [.wait] ∧
        s.writers = [.wait] ∧ s.rQueue.events = [] ∧ s.wQueue.events = [] ∧ s.callbacks = []) ∧
        (accepted s.trace).length = 2 ∧
          accepted (sinceOpened s.trace) = [⟨1, ⟨[0x4F, 0x82], by decide⟩⟩])
      .init lostThenSent = true by decide +kernel)
  obtain ⟨⟨hidle, hinit, hreaders, hwriters, hrQueue, hwQueue, hcallbacks⟩, hall, hlast⟩ :=
    of_decide_eq_true hs
  have hhalted : s.Halted :=
    .of_waiting hidle hreaders hwriters hrQueue hwQueue hcallbacks
  exact ⟨s, hall, hlast, (frames_transmitted hrun).2.2.2 hhalted hinit⟩

end HdmiCec
