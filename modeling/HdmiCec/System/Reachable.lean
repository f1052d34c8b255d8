import HdmiCec.System.Steps

/-!
# What holds in every reachable state

A bus that is started has been constructed, and its driver is open; a reader that flushes the queue
has the driver's mutex, and the driver is not open then; and the queues keep their capacity.
-/

namespace HdmiCec

open Lib DriverImpl

/-- The control thread is in `Bus::Bus` or `Bus::start`. -/
def Ctl.inBus : Ctl → Bool
  | construct | startLock | startReader | startWriter | startOpen | startDone => true
  | _ => false

structure Consistent (s : State) : Prop where
  started : s.started = true → s.constructed = true ∧ s.status = .opened
  unstarted : s.ctl.unstarted = true → s.started = false
  inBus : s.ctl.inBus = true → s.constructed = true
  startDone : s.ctl = .startDone → s.status = .opened
  closing : s.status = .closing → s.ctl.holdsDriver = true
  flush : ∀ pc ∈ s.readers, pc.holdsDriver = true → s.status ≠ .opened
  rCap : s.rQueue.cap = 32
  wCap : s.wQueue.cap = 32

variable {s t : State} {l : Label} {err : ℤ}

lemma State.not_holdsDriver (h : s.driverMutexFree = true) :
    ∀ pc ∈ s.readers, pc.holdsDriver = false := by
  simp only [State.driverMutexFree, Bool.and_eq_true, List.all_eq_true, Bool.not_eq_true'] at h
  exact h.2

lemma Consistent.not_closing (h : Consistent s) (hc : s.ctl.holdsDriver = false) :
    s.status ≠ .closing := by
  intro hs
  rw [h.closing hs] at hc
  cases hc

lemma Consistent.openStep {next : Ctl} (h : Consistent s) (hfree : s.driverMutexFree = true)
    (hc : s.ctl.holdsDriver = false) (hnext : next.unstarted = false)
    (hbuilt : next.inBus = true → s.constructed = true) (hopen : OpenStep s err next t) :
    Consistent t := by
  have hopened : s.status ≠ .closed → s.status = .opened := by
    intro hs
    cases hstatus : s.status with
    | closed => exact absurd hstatus hs
    | closing => exact absurd hstatus (h.not_closing hc)
    | opened => rfl
  cases hopen with
  | already hs =>
    refine ⟨h.started, ?_, hbuilt, fun _ => hopened hs, ?_, h.flush, h.rCap, h.wCap⟩
    · simp [hnext]
    · simp [hopened hs]
  | failed hs =>
    refine ⟨h.started, ?_, ?_, ?_, ?_, h.flush, h.rCap, h.wCap⟩ <;>
      simp [Ctl.unstarted, Ctl.inBus, hs]
  | opened hs =>
    refine ⟨fun hstarted => ⟨(h.started hstarted).1, rfl⟩, ?_, hbuilt, fun _ => rfl, ?_, ?_, h.rCap,
      h.wCap⟩
    · simp [hnext]
    · simp
    · intro pc hpc hholds
      rw [State.not_holdsDriver hfree pc hpc] at hholds
      cases hholds

lemma Ctl.inBus_eq_false {c : Ctl} (h : c.starting = false) : c.inBus = false := by
  cases c <;> first | rfl | cases h

lemma Ctl.ne_startDone {c : Ctl} (h : c.starting = false) : c ≠ .startDone := by
  rintro rfl
  cases h

/-- A step that leaves the driver and `started` alone. -/
lemma Consistent.goto {readers : List ReaderPC} {writers : List WriterPC}
    {reader writer : StopState} {wQueue : FrameQueue} {initialized : Bool}
    {trace : List Obs} {ctl : Ctl} (h : Consistent s)
    (hc : s.ctl.holdsDriver = false) (hunstarted : ctl.unstarted = true → s.started = false)
    (hbus : ctl.inBus = true → s.constructed = true) (hdone : ctl ≠ .startDone)
    (hreaders : ∀ pc ∈ readers, pc ∈ s.readers ∨ pc = .spawned) (hcap : wQueue.cap = s.wQueue.cap) :
    Consistent { s with
      readers := readers, writers := writers, reader := reader, writer := writer, wQueue := wQueue
      initialized := initialized, trace := trace, ctl := ctl } where
  started := h.started
  unstarted := hunstarted
  inBus := hbus
  startDone hc' := absurd hc' hdone
  closing hs := absurd hs (h.not_closing hc)
  flush pc hpc := by
    rcases hreaders pc hpc with hpc | rfl
    · exact h.flush pc hpc
    · simp [ReaderPC.holdsDriver]
  rCap := h.rCap
  wCap := hcap.trans h.wCap

lemma Consistent.ctlStep (h : Consistent s) (hstep : CtlStep s err t) : Consistent t := by
  cases hstep with
  | initOpen hc hfree hopen =>
    exact h.openStep hfree (by rw [hc]; rfl) rfl (by simp [Ctl.inBus]) hopen
  | startOpen hc hfree hopen =>
    exact h.openStep hfree (by rw [hc]; rfl) rfl (fun _ => h.inBus (by rw [hc]; rfl)) hopen
  | found hc hb =>
    exact h.goto (by rw [hc]; rfl) (by simp [Ctl.unstarted]) (fun _ => hb) (by simp)
      (fun _ hpc => .inl hpc) rfl
  | build hc hb =>
    have hclosing : s.status ≠ .closing := h.not_closing (by rw [hc]; rfl)
    refine ⟨fun hs => ⟨rfl, (h.started hs).2⟩, ?_, fun _ => rfl, ?_, ?_, ?_, h.rCap, h.wCap⟩
    · simp [Ctl.unstarted]
    · simp
    · simp [hclosing]
    · intro pc hpc
      rcases List.mem_append.mp hpc with hpc | hpc
      · exact h.flush pc hpc
      · simp [List.mem_singleton.mp hpc, ReaderPC.holdsDriver]
  | construct hc | startLock hc | startReader hc | restartWriter hc | startWriter hc =>
    exact h.goto (by rw [hc]; rfl) (by simp [Ctl.unstarted]) (fun _ => h.inBus (by rw [hc]; rfl))
      (by simp) (fun _ hpc => .inl hpc) rfl
  | restartReader hc _ =>
    exact h.goto (by rw [hc]; rfl) (by simp [Ctl.unstarted]) (fun _ => h.inBus (by rw [hc]; rfl))
      (by simp) (by simp [or_comm]) rfl
  | startDone hc =>
    have hb : s.constructed = true := h.inBus (by rw [hc]; rfl)
    have hs : s.status = .opened := h.startDone hc
    refine ⟨fun _ => ⟨hb, hs⟩, ?_, ?_, ?_, ?_, h.flush, h.rCap, h.wCap⟩ <;>
      simp [Ctl.unstarted, Ctl.inBus, hs]
  | stopFlag hc _ =>
    have hclosing : s.status ≠ .closing := h.not_closing (by rw [hc]; rfl)
    refine ⟨?_, fun _ => rfl, ?_, ?_, ?_, h.flush, h.rCap, h.wCap⟩ <;> simp [Ctl.inBus, hclosing]
  | readerStop hc | readerWait hc | writerLock hc | writerRuns hc | writerRests hc | writerSet hc
  | writerWait hc | termDone hc =>
    exact h.goto (by rw [hc]; rfl) (fun _ => h.unstarted (by rw [hc]; rfl)) (by simp [Ctl.inBus])
      (by simp) (fun _ hpc => .inl hpc) rfl
  | closed hc =>
    have hstarting := s.afterClose_starting
    exact h.goto (by rw [hc]; rfl) (fun _ => h.unstarted (by rw [hc]; rfl))
      (by simp [Ctl.inBus_eq_false (hstarting _)]) (Ctl.ne_startDone (hstarting _))
      (fun _ hpc => .inl hpc) rfl
  | close hc =>
    have hs : s.started = false := h.unstarted (by rw [hc]; rfl)
    refine ⟨?_, fun _ => hs, ?_, ?_, fun _ => rfl, ?_, h.rCap, h.wCap⟩ <;> simp [hs, Ctl.inBus]
  | closeOffer hc =>
    have hs : s.started = false := h.unstarted (by rw [hc]; rfl)
    exact ⟨h.started, fun _ => hs, by simp [Ctl.inBus], by simp, fun _ => rfl, h.flush,
      (cap_offerNull _).trans h.rCap, h.wCap⟩
  | closeFailed hc =>
    have hs : s.started = false := h.unstarted (by rw [hc]; rfl)
    refine ⟨?_, fun _ => hs, ?_, ?_, ?_, ?_, h.rCap, h.wCap⟩ <;> simp [hs, Ctl.inBus]
  | closeHal hc =>
    have hs : s.started = false := h.unstarted (by rw [hc]; rfl)
    have hstarting := s.afterClose_starting
    refine ⟨?_, fun _ => hs, ?_, ?_, ?_, ?_, h.rCap, h.wCap⟩ <;>
      simp [hs, Ctl.inBus_eq_false (hstarting _), Ctl.ne_startDone (hstarting _)]
  | writerOffer hc =>
    exact h.goto (by rw [hc]; rfl) (fun _ => h.unstarted (by rw [hc]; rfl)) (by simp [Ctl.inBus])
      (by simp) (fun _ hpc => .inl hpc) (cap_offerNull _)

/-- A reader that goes into the flush, or is in it, finds the driver not open. -/
lemma ReaderStep.holdsDriver {pc pc' : ReaderPC} {m : ReaderMove} (h : ReaderStep s pc m)
    (hpc' : m.pc = some pc') (hholds : pc'.holdsDriver = true) :
    pc.holdsDriver = true ∨ s.status ≠ .opened := by
  cases h with
  | flushStart _ hs => exact .inr hs
  | flush | flushWait | flushPop => exact .inl rfl
  | _ => cases hpc' <;> cases hholds

lemma Consistent.step (h : Consistent s) (hstep : Step s l t) : Consistent t := by
  cases hstep with
  | initRefused | termRefused | discard | sendAsyncRefused => exact h
  | callInit hidle | callTerm hidle | callBusStart hidle | callBusStop hidle =>
    have hclosing : s.status ≠ .closing := h.not_closing (by rw [hidle]; rfl)
    refine ⟨h.started, ?_, ?_, ?_, ?_, h.flush, h.rCap, h.wCap⟩ <;>
      simp [Ctl.unstarted, Ctl.inBus, hclosing]
  | ctl hstep => exact h.ctlStep hstep
  | reader hpc hm =>
    refine ⟨h.started, h.unstarted, h.inBus, h.startDone, h.closing, ?_, hm.cap.trans h.rCap,
      h.wCap⟩
    intro pc' hpc' hholds
    rcases mem_moveThread hpc' with hmem | hm'
    · exact h.flush pc' hmem hholds
    · rcases hm.holdsDriver hm' hholds with hholds | hs
      · exact h.flush _ (List.mem_of_getElem? hpc) hholds
      · exact hs
  | writer hpc hm =>
    exact ⟨h.started, h.unstarted, h.inBus, h.startDone, h.closing, h.flush, h.rCap,
      hm.cap.trans h.wCap⟩
  | receive | offer | offerRefused | sendAsync =>
    exact ⟨h.started, h.unstarted, h.inBus, h.startDone, h.closing, h.flush, h.rCap, h.wCap⟩

lemma Consistent.init : Consistent .init := by
  constructor <;> simp [State.init, Ctl.unstarted, Ctl.inBus, EventQueue.empty]

/-- Every reachable state is consistent, whatever is called in whatever order. -/
theorem consistent_of_run (h : Run step (fun _ _ => True) .init s) : Consistent s := by
  apply h.invariant _ Consistent.init
  intro s l t _ hstep hs
  exact hs.step (Step.of_step hstep).2

/-- A library that is running, with both threads waiting for frames. -/
def waitingBus : State :=
  { State.init with
    initialized := true, lib := true, constructed := true, started := true, status := .opened
    readers := [.wait], writers := [.wait] }

lemma waitingBus_consistent : Consistent waitingBus := by
  constructor <;>
    simp [waitingBus, State.init, Ctl.unstarted, Ctl.inBus, ReaderPC.holdsDriver, EventQueue.empty]

end HdmiCec
