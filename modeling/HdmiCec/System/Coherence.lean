import HdmiCec.System.Lifecycle

/-!
# The three singletons agree

`LibCCEC::initialized`, `Bus::started` and the status of the driver, in the runs in which only
`LibCCEC::init` and `term` start and stop the library. `init` opens the driver through two
components and `term` closes it up to three times; whatever the hardware layer returns, between the
calls the three are all up or all down.
-/

namespace HdmiCec

open Lib DriverImpl

/-! ### The flags -/

/-- `LibCCEC::initialized`, `Bus::started` and the driver's `status`. -/
def State.flags (s : State) : Bool × Bool × Status := (s.initialized, s.started, s.status)

/-- All three are up. -/
def flagsUp : Bool × Bool × Status := (true, true, .opened)

/-- All three are down. -/
def flagsDown : Bool × Bool × Status := (false, false, .closed)

/-- The steps of a call of `LibCCEC` that is going on. -/
def InCall (s : State) (l : Label) : Prop := s.ctl ≠ .idle ∧ ThroughLib l

/-- An exception leaves the call of the control thread in this step: it is refused, or the driver
cannot be opened, or `HdmiCecClose` fails outside the `try` of `Reader::stop`. -/
def throws (s : State) : Label → Bool
  | .callInit => s.initialized
  | .callTerm => !s.initialized
  | .ctl err => err ≠ ioSuccess && match s.ctl with
    | .initOpen | .startOpen => s.status = .closed
    | .closeHal caller => caller ≠ .readerStop
    | _ => false
  | _ => false

/-! ### The flags at each point of the control thread -/

/-- The values of the flags at each point. `term` has cleared `started` before it comes to the
driver; the first of its three calls of `close` closes it, and the other two find it closed. -/
def Ctl.flags : Ctl → List (Bool × Bool × Status)
  | idle => [flagsUp, flagsDown]
  | initOpen => [flagsDown]
  | getInstance | construct | startLock | startReader | startWriter | startOpen | startDone =>
    [(false, false, .opened)]
  | stopFlag => [flagsUp]
  | readerStop | close .readerStop => [(true, false, .opened)]
  | closeOffer .readerStop | closeHal .readerStop => [(true, false, .closing)]
  | readerWait | writerLock | writerTest | writerSet | writerOffer | writerWait | close .busStop
  | close .libTerm | termDone => [(true, false, .closed)]
  | closeOffer .busStop | closeOffer .libTerm | closeHal .busStop | closeHal .libTerm => []

/-- The flags are as they should be where the control thread is. -/
structure Coherent (s : State) : Prop where
  flags : s.flags ∈ s.ctl.flags
  lib : s.ctl ≠ .idle → s.lib = true

variable {s t : State} {l : Label} {err : ℤ}

lemma coherent_init : Coherent .init :=
  ⟨by simp [Ctl.flags, State.init, State.flags, flagsDown], fun h => absurd rfl h⟩

/-- The flags at a point where they have one value. -/
lemma Coherent.flags_eq {initialized started : Bool} {status : Status} (h : Coherent s)
    (hc : s.ctl.flags = [(initialized, started, status)]) :
    s.initialized = initialized ∧ s.started = started ∧ s.status = status := by
  have hflags := h.flags
  rw [hc, List.mem_singleton] at hflags
  simpa [State.flags] using hflags

/-- A step between two points with the same flags. -/
lemma Coherent.goto (h : Coherent s) (hflags : t.flags = s.flags) (hctl : t.ctl.flags = s.ctl.flags)
    (hc : s.ctl ≠ .idle) (hlib : t.lib = s.lib) : Coherent t := by
  refine ⟨?_, fun _ => hlib.trans (h.lib hc)⟩
  rw [hflags, hctl]
  exact h.flags

lemma OpenStep.coherent_of_initOpen (hopen : OpenStep s err .getInstance t) (h : Coherent s)
    (hc : s.ctl = .initOpen) : Coherent t := by
  obtain ⟨hinit, hstarted, hstatus⟩ := h.flags_eq (by rw [hc]; rfl)
  cases hopen with
  | already hs => exact absurd hstatus hs
  | failed _ _ =>
    refine ⟨?_, fun hidle => absurd rfl hidle⟩
    simp [Ctl.flags, State.flags, flagsDown, hinit, hstarted, hstatus]
  | opened _ _ =>
    refine ⟨?_, fun _ => h.lib (by simp [hc])⟩
    simp [Ctl.flags, State.flags, hinit, hstarted]

lemma OpenStep.coherent_of_startOpen (hopen : OpenStep s err .startDone t) (h : Coherent s)
    (hc : s.ctl = .startOpen) : Coherent t := by
  obtain ⟨-, -, hstatus⟩ := h.flags_eq (by rw [hc]; rfl)
  cases hopen with
  | already _ => exact h.goto rfl (by rw [hc]; rfl) (by simp [hc]) rfl
  | failed hs _ =>
    rw [hstatus] at hs
    cases hs
  | opened hs _ =>
    rw [hstatus] at hs
    cases hs

/-- `DriverImpl::close` that finds the driver closed already. -/
lemma Coherent.closed {caller : Closer} (h : Coherent s) (hc : s.ctl = .close caller)
    (hs : s.status ≠ .opened) :
    Coherent { s with trace := s.trace ++ [.closed], ctl := s.afterClose caller } := by
  have hlib := h.lib (by simp [hc])
  cases caller with
  | readerStop =>
    obtain ⟨-, -, hstatus⟩ := h.flags_eq (by rw [hc]; rfl)
    exact absurd hstatus hs
  | busStop =>
    refine h.goto rfl ?_ (by simp [hc]) rfl
    simp only [hc, State.afterClose, hlib, if_true]
    rfl
  | libTerm => exact h.goto rfl (by rw [hc]; rfl) (by simp [hc]) rfl

/-- `DriverImpl::close` that closes it: only the first of the three does. -/
lemma Coherent.close {caller : Closer} (h : Coherent s) (hc : s.ctl = .close caller)
    (hs : s.status = .opened) :
    Coherent { s with status := .closing, ctl := .closeOffer caller } := by
  cases caller with
  | readerStop =>
    obtain ⟨hinit, hstarted, -⟩ := h.flags_eq (by rw [hc]; rfl)
    refine ⟨?_, fun _ => h.lib (by simp [hc])⟩
    simp [Ctl.flags, State.flags, hinit, hstarted]
  | busStop =>
    obtain ⟨-, -, hstatus⟩ := h.flags_eq (by rw [hc]; rfl)
    cases hs.symm.trans hstatus
  | libTerm =>
    obtain ⟨-, -, hstatus⟩ := h.flags_eq (by rw [hc]; rfl)
    cases hs.symm.trans hstatus

/-- Only `Reader::stop` comes to `HdmiCecClose`. -/
lemma Coherent.caller_eq {caller : Closer} (h : Coherent s)
    (hc : s.ctl = .closeOffer caller ∨ s.ctl = .closeHal caller) : caller = .readerStop := by
  have hflags := h.flags
  obtain hc | hc := hc <;> rw [hc] at hflags <;> cases caller <;>
    first | rfl | exact absurd hflags (List.not_mem_nil)

lemma CtlStep.coherent (hstep : CtlStep s err t) (h : Coherent s) : Coherent t := by
  have hne := hstep.ctl_ne_idle
  cases hstep with
  | initOpen hc _ hopen => exact hopen.coherent_of_initOpen h hc
  | startOpen hc _ hopen => exact hopen.coherent_of_startOpen h hc
  | startDone hc =>
    obtain ⟨-, -, hstatus⟩ := h.flags_eq (by rw [hc]; rfl)
    refine ⟨?_, fun hidle => absurd rfl hidle⟩
    simp [Ctl.flags, State.flags, flagsUp, hstatus, h.lib hne]
  | stopFlag hc _ =>
    obtain ⟨hinit, -, hstatus⟩ := h.flags_eq (by rw [hc]; rfl)
    refine ⟨?_, fun _ => h.lib hne⟩
    simp [Ctl.flags, State.flags, hinit, hstatus]
  | closed hc _ hs => exact h.closed hc hs
  | close hc _ hs => exact h.close hc hs
  | closeOffer hc =>
    cases h.caller_eq (.inl hc)
    exact h.goto rfl (by rw [hc]; rfl) hne rfl
  | closeFailed hc hcaller => exact absurd (h.caller_eq (.inr hc)) hcaller
  | closeHal hc =>
    cases h.caller_eq (.inr hc)
    obtain ⟨hinit, hstarted, -⟩ := h.flags_eq (by rw [hc]; rfl)
    refine ⟨?_, fun _ => h.lib hne⟩
    simp [State.afterClose, Ctl.flags, State.flags, hinit, hstarted]
  | termDone hc =>
    obtain ⟨-, hstarted, hstatus⟩ := h.flags_eq (by rw [hc]; rfl)
    refine ⟨?_, fun hidle => absurd rfl hidle⟩
    simp [Ctl.flags, State.flags, flagsDown, hstarted, hstatus]
  | found hc _ | build hc _ | construct hc | startLock hc _ | restartReader hc _
  | startReader hc _ | restartWriter hc _ | startWriter hc _ | readerStop hc _ | readerWait hc _
  | writerLock hc _ | writerRuns hc _ | writerRests hc _ | writerSet hc | writerOffer hc
  | writerWait hc _ => exact h.goto rfl (by rw [hc]; rfl) hne rfl

lemma Coherent.up_of_initialized (h : Coherent s) (hc : s.ctl = .idle)
    (hinit : s.initialized = true) : s.flags = flagsUp := by
  have hflags := h.flags
  rw [hc] at hflags
  simp only [Ctl.flags, List.mem_cons, List.not_mem_nil, or_false] at hflags
  obtain hup | hdown := hflags
  · exact hup
  · simp [State.flags, flagsDown, hinit] at hdown

lemma Coherent.down_of_not_initialized (h : Coherent s) (hc : s.ctl = .idle)
    (hinit : s.initialized = false) : s.flags = flagsDown := by
  have hflags := h.flags
  rw [hc] at hflags
  simp only [Ctl.flags, List.mem_cons, List.not_mem_nil, or_false] at hflags
  obtain hup | hdown := hflags
  · simp [State.flags, flagsUp, hinit] at hup
  · exact hdown

/-- Every step through `LibCCEC` keeps the flags coherent. -/
lemma Step.coherent (hstep : Step s l t) (h : Coherent s) (hlib : ThroughLib l) : Coherent t := by
  cases hstep with
  | initRefused _ _ | termRefused _ _ | discard _ | sendAsyncRefused _ _ => exact h
  | callInit hc hinit =>
    refine ⟨?_, fun _ => rfl⟩
    change s.flags ∈ [flagsDown]
    rw [h.down_of_not_initialized hc hinit]
    exact List.mem_singleton_self _
  | callTerm hc hinit =>
    refine ⟨?_, fun _ => rfl⟩
    change s.flags ∈ [flagsUp]
    rw [h.up_of_initialized hc hinit]
    exact List.mem_singleton_self _
  | callBusStart _ => exact absurd rfl hlib.1
  | callBusStop _ _ => exact absurd rfl hlib.2
  | ctl hctl => exact hctl.coherent h
  | reader _ _ | writer _ _ | receive _ _ | offer _ _ | offerRefused _ _ | sendAsync _ _ _ =>
    exact ⟨h.flags, h.lib⟩

lemma coherent_of_run {u : State} (h : Run step (fun _ l => ThroughLib l) s u) (hs : Coherent s) :
    Coherent u :=
  h.invariant (fun _ _ _ hok hstep hv => (Step.of_step hstep).2.coherent hv hok) hs

/-! ### Calls of `init` and `term` -/

/-- A step of a call that is going on: of the control thread, or of another one that changes neither
the flags nor where the control thread is. -/
lemma Step.of_inCall (hstep : Step s l t) (hc : s.ctl ≠ .idle) :
    (∃ err, l = .ctl err ∧ CtlStep s err t) ∨
      (t.ctl = s.ctl ∧ t.flags = s.flags ∧ throws s l = false) := by
  cases hstep with
  | initRefused hidle _ | callInit hidle _ | callTerm hidle _ | termRefused hidle _
  | callBusStart hidle | callBusStop hidle _ => exact absurd hidle hc
  | ctl hctl => exact .inl ⟨_, rfl, hctl⟩
  | _ => exact .inr ⟨rfl, rfl, rfl⟩

/-- `init` and `term` change `initialized` with their last step. -/
lemma CtlStep.initialized_eq (hstep : CtlStep s err t) :
    t.ctl = .idle ∨ t.initialized = s.initialized := by
  cases hstep with
  | startDone _ | termDone _ | closeFailed _ _ => exact .inl rfl
  | initOpen _ _ hopen | startOpen _ _ hopen =>
    cases hopen with
    | failed _ _ => exact .inl rfl
    | already _ | opened _ _ => exact .inr rfl
  | _ => exact .inr rfl

lemma Step.initialized_eq (hstep : Step s l t) (hc : s.ctl ≠ .idle) :
    t.ctl = .idle ∨ t.initialized = s.initialized := by
  obtain ⟨err, -, hctl⟩ | ⟨-, hflags, -⟩ := hstep.of_inCall hc
  · exact hctl.initialized_eq
  · exact .inr (congrArg Prod.fst hflags)

/-- During a call `initialized` has the value it had at the beginning. -/
lemma initialized_of_inCall {u : State} (h : Run step InCall s u) (hs : Coherent s) :
    Coherent u ∧ (u.ctl ≠ .idle → u.initialized = s.initialized) := by
  apply h.invariant (I := fun u => Coherent u ∧ (u.ctl ≠ .idle → u.initialized = s.initialized))
  · rintro u l v ⟨hne, hlib⟩ hstep ⟨hu, hinit⟩
    have hv := (Step.of_step hstep).2
    refine ⟨hv.coherent hu hlib, fun hv_ne => ?_⟩
    rw [← hinit hne]
    exact (hv.initialized_eq hne).resolve_left hv_ne
  · exact ⟨hs, fun _ => rfl⟩

/-- The points of `LibCCEC::term`. -/
def Ctl.terminating : Ctl → Bool
  | stopFlag | readerStop | close _ | closeOffer _ | closeHal _ | readerWait | writerLock
  | writerTest | writerSet | writerOffer | writerWait | termDone => true
  | _ => false

lemma Coherent.initialized_of_terminating (h : Coherent s) (hc : s.ctl.terminating = true) :
    s.initialized = true := by
  have hflags := h.flags
  generalize hctl : s.ctl = ctl at hc hflags
  have hinit : ∀ f ∈ ctl.flags, f.1 = true := by
    cases ctl with
    | close caller | closeOffer caller | closeHal caller =>
      cases caller <;> simp [Ctl.flags]
    | _ => simp_all [Ctl.flags, Ctl.terminating, flagsUp]
  exact hinit _ hflags

lemma Coherent.initialized_of_starting (h : Coherent s) (hc : s.ctl.terminating = false)
    (hne : s.ctl ≠ .idle) : s.initialized = false := by
  have hflags := h.flags
  generalize hctl : s.ctl = ctl at hc hne hflags
  have hinit : ∀ f ∈ ctl.flags, f.1 = false := by
    cases ctl <;> simp_all [Ctl.flags, Ctl.terminating, flagsDown]
  exact hinit _ hflags

/-- A step of `init` that throws leaves the flags down; one that ends it without throwing leaves
them up. -/
lemma CtlStep.of_init (hstep : CtlStep s err t) (h : Coherent s) (hinit : s.initialized = false) :
    (throws s (.ctl err) = true → t.ctl = .idle ∧ t.flags = flagsDown) ∧
      (t.ctl = .idle → throws s (.ctl err) = false → t.flags = flagsUp) := by
  have hphase : s.ctl.terminating = false := by
    by_contra hc
    rw [h.initialized_of_terminating (by simpa using hc)] at hinit
    cases hinit
  have hne := hstep.ctl_ne_idle
  have ht := hstep.coherent h
  cases hstep with
  | initOpen hc _ hopen =>
    obtain ⟨-, -, hstatus⟩ := h.flags_eq (by rw [hc]; rfl)
    cases hopen with
    | already hs => exact absurd hstatus hs
    | failed hs herr =>
      refine ⟨fun _ => ⟨rfl, ht.down_of_not_initialized rfl hinit⟩, fun _ hthrows => ?_⟩
      simp [throws, hc, hs, herr] at hthrows
    | opened hs herr =>
      refine ⟨fun hthrows => ?_, by simp⟩
      simp [throws, herr] at hthrows
  | startOpen hc _ hopen =>
    obtain ⟨-, -, hstatus⟩ := h.flags_eq (by rw [hc]; rfl)
    cases hopen with
    | already hs =>
      refine ⟨fun hthrows => ?_, by simp⟩
      simp [throws, hc, hstatus] at hthrows
    | failed hs _ => cases hstatus.symm.trans hs
    | opened hs _ => cases hstatus.symm.trans hs
  | startDone hc =>
    refine ⟨fun hthrows => ?_, fun _ _ => ?_⟩
    · simp [throws, hc] at hthrows
    · exact ht.up_of_initialized rfl (by simp [h.lib hne])
  | found hc _ | build hc _ | construct hc | startLock hc _ | restartReader hc _
  | startReader hc _ | restartWriter hc _ | startWriter hc _ =>
    refine ⟨fun hthrows => ?_, by simp⟩
    simp [throws, hc] at hthrows
  | stopFlag hc _ | readerStop hc _ | closed hc _ _ | close hc _ _ | closeOffer hc
  | closeFailed hc _ | closeHal hc | readerWait hc _ | writerLock hc _ | writerRuns hc _
  | writerRests hc _ | writerSet hc | writerOffer hc | writerWait hc _ | termDone hc =>
    rw [hc] at hphase
    cases hphase

/-- A step of `term` does not throw; the one that ends it leaves the flags down. -/
lemma CtlStep.of_term (hstep : CtlStep s err t) (h : Coherent s) (hinit : s.initialized = true) :
    throws s (.ctl err) = false ∧ (t.ctl = .idle → t.flags = flagsDown) := by
  have hne := hstep.ctl_ne_idle
  have hphase : s.ctl.terminating = true := by
    by_contra hc
    rw [h.initialized_of_starting (by simpa using hc) hne] at hinit
    cases hinit
  have ht := hstep.coherent h
  cases hstep with
  | @closed caller hc _ _ =>
    refine ⟨by simp [throws, hc], fun hidle => ?_⟩
    cases caller <;> simp [State.afterClose, h.lib hne] at hidle
  | closeFailed hc hcaller => exact absurd (h.caller_eq (.inr hc)) hcaller
  | closeHal hc =>
    cases h.caller_eq (.inr hc)
    exact ⟨by simp [throws, hc], by simp [State.afterClose]⟩
  | writerRests hc _ | writerRuns hc _ | stopFlag hc _ | readerStop hc _ | close hc _ _
  | closeOffer hc | readerWait hc _ | writerLock hc _ | writerSet hc | writerOffer hc
  | writerWait hc _ => exact ⟨by simp [throws, hc], by simp⟩
  | termDone hc => exact ⟨by simp [throws, hc], fun _ => ht.down_of_not_initialized rfl rfl⟩
  | initOpen hc _ _ | found hc _ | build hc _ | construct hc | startLock hc _
  | restartReader hc _ | startReader hc _ | restartWriter hc _ | startWriter hc _
  | startOpen hc _ _ | startDone hc =>
    rw [hc] at hphase
    cases hphase

/-! ### The calls end -/

/-- Nobody else holds the mutex that the control thread needs next, and the worker that it waits for
has answered. -/
def State.answered (s : State) : Bool :=
  match s.ctl with
  | .initOpen | .startOpen | .close _ => s.driverMutexFree
  | .startLock | .stopFlag | .readerStop | .writerLock => s.rMutexFree
  | .readerWait => s.reader.isStopped
  | .writerWait => s.writer.isStopped
  | _ => true

/-- A bound on the steps that the control thread has left in its call. -/
def Ctl.rank : Ctl → ℕ
  | idle => 0
  | startDone | termDone => 1
  | startOpen | closeHal .libTerm => 2
  | startWriter | closeOffer .libTerm => 3
  | startReader | close .libTerm => 4
  | startLock | closeHal .busStop => 5
  | construct | closeOffer .busStop => 6
  | getInstance | close .busStop => 7
  | initOpen | writerWait => 8
  | writerOffer => 9
  | writerSet => 10
  | writerTest => 11
  | writerLock => 12
  | readerWait => 13
  | closeHal .readerStop => 14
  | closeOffer .readerStop => 15
  | close .readerStop => 16
  | readerStop => 17
  | stopFlag => 18

lemma openDriver_rank {next : Ctl} {n : ℕ} (hfree : s.driverMutexFree = true)
    (hnext : next.rank < n) : ∃ t, s.openDriver err next = some t ∧ t.ctl.rank < n := by
  simp only [State.openDriver, if_pos hfree]
  split
  · exact ⟨_, rfl, hnext⟩
  · split
    · exact ⟨_, rfl, Nat.zero_lt_of_lt hnext⟩
    · exact ⟨_, rfl, hnext⟩

lemma afterClose_rank (s : State) (caller : Closer) :
    (s.afterClose caller).rank < (Ctl.closeHal caller).rank := by
  cases caller with
  | readerStop | libTerm => simp [State.afterClose, Ctl.rank]
  | busStop =>
    simp only [State.afterClose]
    split <;> simp [Ctl.rank]

/-- The control thread goes on when it is answered, and comes closer to the end of its call. -/
lemma ctlStep_of_answered (hne : s.ctl ≠ .idle) (h : s.answered = true) (err : ℤ) :
    ∃ t, ctlStep s err = some t ∧ t.ctl.rank < s.ctl.rank := by
  unfold State.answered at h
  unfold ctlStep
  cases hctl : s.ctl with
  | idle => exact absurd hctl hne
  | initOpen | startOpen =>
    simp only [hctl] at h
    exact openDriver_rank h (by simp [Ctl.rank])
  | getInstance =>
    dsimp only
    split <;> exact ⟨_, rfl, by simp [Ctl.rank]⟩
  | startLock | stopFlag | readerStop | writerLock | readerWait | writerWait =>
    simp only [hctl] at h
    exact ⟨_, if_pos h, by simp [Ctl.rank]⟩
  | close caller =>
    simp only [hctl] at h
    simp only [if_pos h]
    split
    · refine ⟨_, rfl, (afterClose_rank s caller).trans ?_⟩
      cases caller <;> simp [Ctl.rank]
    · refine ⟨_, rfl, ?_⟩
      cases caller <;> simp [Ctl.rank]
  | closeOffer caller =>
    refine ⟨_, rfl, ?_⟩
    cases caller <;> simp [Ctl.rank]
  | closeHal caller =>
    refine ⟨_, rfl, ?_⟩
    dsimp only
    split
    · cases caller <;> simp [Ctl.rank]
    · exact afterClose_rank s caller
  | writerTest =>
    refine ⟨_, rfl, ?_⟩
    dsimp only
    split <;> simp [Ctl.rank]
  | construct | startReader | startWriter | startDone | writerSet | writerOffer | termDone =>
    exact ⟨_, rfl, by simp [Ctl.rank]⟩

/-- The library through any sequence of calls of `init` and `term`, with any results of the hardware
layer: between the calls the three flags are all up or all down; a call that is refused changes
nothing; an `init` that throws leaves the flags as they were, and one that returns leaves them up;
and `term` does not throw and leaves them down. The control thread has a bounded number of steps in
each call, and can take the next one as soon as it is answered. -/
theorem flags_coherent {s : State} (h : Run step (fun _ l => ThroughLib l) .init s)
    (hidle : s.ctl = .idle) :
    (s.flags = flagsUp ∨ s.flags = flagsDown) ∧
    (s.initialized = true → ∀ t, step s .callInit = some t → t = s) ∧
    (s.initialized = false → ∀ t, step s .callTerm = some t → t = s) ∧
    (s.initialized = false → ∀ t u l v, step s .callInit = some t → Run step InCall t u →
      InCall u l → step u l = some v →
        (throws u l = true → v.ctl = .idle ∧ v.flags = s.flags) ∧
        (v.ctl = .idle → throws u l = false → v.flags = flagsUp)) ∧
    (s.initialized = true → ∀ t u l v, step s .callTerm = some t → Run step InCall t u →
      InCall u l → step u l = some v →
        throws u l = false ∧ (v.ctl = .idle → v.flags = flagsDown)) ∧
    (∀ u, u.ctl ≠ .idle → u.escaped = none → u.answered = true → ∀ err,
      ∃ v, step u (.ctl err) = some v ∧ v.ctl.rank < u.ctl.rank) := by
  have hs := coherent_of_run h coherent_init
  refine ⟨?_, ?_, ?_, ?_, ?_, ?_⟩
  · cases hinit : s.initialized with
    | true => exact .inl (hs.up_of_initialized hidle hinit)
    | false => exact .inr (hs.down_of_not_initialized hidle hinit)
  · intro hinit t ht
    cases (Step.of_step ht).2 with
    | initRefused _ _ => rfl
    | callInit _ hnot => cases hinit.symm.trans hnot
  · intro hinit t ht
    cases (Step.of_step ht).2 with
    | termRefused _ _ => rfl
    | callTerm _ hnot => cases hinit.symm.trans hnot
  · intro hinit t u l v ht hrun hcall hstep
    have hstart := (Step.of_step ht).2
    have htinit : t.initialized = false := by
      cases hstart with
      | initRefused _ hnot => cases hinit.symm.trans hnot
      | callInit _ _ => exact hinit
    obtain ⟨hu, huinit⟩ := initialized_of_inCall hrun (hstart.coherent hs (by simp [ThroughLib]))
    rw [hs.down_of_not_initialized hidle hinit]
    obtain ⟨err, rfl, hctl⟩ | ⟨hvc, -, hthrows⟩ := (Step.of_step hstep).2.of_inCall hcall.1
    · exact hctl.of_init hu ((huinit hcall.1).trans htinit)
    · refine ⟨fun hthrows' => ?_, fun hidle' => absurd (hvc.symm.trans hidle') hcall.1⟩
      rw [hthrows] at hthrows'
      cases hthrows'
  · intro hinit t u l v ht hrun hcall hstep
    have hstart := (Step.of_step ht).2
    have htinit : t.initialized = true := by
      cases hstart with
      | termRefused _ hnot => cases hinit.symm.trans hnot
      | callTerm _ _ => exact hinit
    obtain ⟨hu, huinit⟩ := initialized_of_inCall hrun (hstart.coherent hs (by simp [ThroughLib]))
    obtain ⟨err, rfl, hctl⟩ | ⟨hvc, -, hthrows⟩ := (Step.of_step hstep).2.of_inCall hcall.1
    · exact hctl.of_term hu ((huinit hcall.1).trans htinit)
    · exact ⟨hthrows, fun hidle' => absurd (hvc.symm.trans hidle') hcall.1⟩
  · intro u hne hescaped hanswered err
    obtain ⟨v, hv, hrank⟩ := ctlStep_of_answered hne hanswered err
    refine ⟨v, ?_, hrank⟩
    simp only [step, hescaped]
    exact hv

/-- The library is initialized and terminated, and `HdmiCecClose` fails. -/
theorem flags_coherent_after_failed_close :
    ∃ s : State, Run step (fun _ l => ThroughLib l) .init s ∧ s.ctl = .idle ∧ s.constructed = true ∧
      s.flags = flagsDown := by
  obtain ⟨s, hrun, hs⟩ := Run.of_execSat
    (show execSat step (fun _ l => ThroughLib l)
      (fun s => s.ctl = .idle ∧ s.constructed = true ∧ s.initialized = false) .init
      (startUp ++ [.reader 0, .reader 0, .reader 0, .writer 0 ioSuccess ioSuccess, .callTerm] ++
        List.replicate 5 (.ctl ioGeneralError) ++ List.replicate 6 (.reader 0) ++
        List.replicate 5 (.ctl ioGeneralError) ++
        List.replicate 6 (.writer 0 ioSuccess ioSuccess) ++
        List.replicate 4 (.ctl ioGeneralError)) = true by decide +kernel)
  obtain ⟨hidle, hconstructed, hinit⟩ := of_decide_eq_true hs
  refine ⟨s, hrun, hidle, hconstructed, ?_⟩
  obtain hup | hdown := (flags_coherent hrun hidle).1
  · simp [State.flags, flagsUp, hinit] at hup
  · exact hdown

end HdmiCec
