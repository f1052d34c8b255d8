import HdmiCec.System.Transmission

/-!
# Sessions of the receive queue

A frame that was enqueued before the driver was closed should not be returned by `read` after the
driver was opened again. The reader flushes the queue when it takes a sentinel and finds the driver
closed; but a reader that is told to stop before it has come to the sentinel leaves its loop at the
test of `isRunning()`, and the frames stay in the queue for the next session. When every `open`
finds only frames that came after the last `close`, the sessions are isolated. `Flushing` goes back
from there to the reader and to `close`.
-/

namespace HdmiCec

open Lib DriverImpl

/-! ### The property -/

/-- No frame was enqueued before a `close` and returned by `read` after the next `open`. -/
def Isolated (s : State) : Prop :=
  ∀ p, ¬ [.enqueued p, .closed, .opened, .returned p].Sublist s.trace

/-- The frame that `read` has taken from the queue and will return. -/
def ReaderPC.hand : ReaderPC → List FramePtr
  | got p => [p]
  | _ => []

/-- The frames that were enqueued and not returned yet: in the hand of `read`, and in the queue. -/
def State.incoming (s : State) : List FramePtr := s.readers.flatMap ReaderPC.hand ++ s.rQueue.frames

/-- The step is the `open` of a driver that is closed. -/
def opens (s : State) : Label → Bool
  | .ctl err => err = ioSuccess ∧ s.status = .closed ∧ (s.ctl = .initOpen ∨ s.ctl = .startOpen)
  | _ => false

/-- A driver that is opened finds only frames that were enqueued after the last `close`. -/
def OpensFlushed (s : State) (l : Label) : Prop :=
  opens s l = true → ∀ p ∈ s.incoming, ¬ [.enqueued p, .closed].Sublist s.trace

instance (s : State) (l : Label) : Decidable (OpensFlushed s l) :=
  inferInstanceAs (Decidable (_ → _))

/-! ### What a step does to the frames on their way in -/

/-- Observations that say nothing of incoming frames and of the driver being opened. -/
def Obs.quiet : Obs → Bool
  | enqueued _ | opened | returned _ => false
  | _ => true

/-- The steps of the system, as far as incoming frames go. -/
inductive IncomingStep (s : State) (l : Label) (t : State) : Prop
  | quiet {obs : List Obs} : t.trace = s.trace ++ obs → (∀ o ∈ obs, o.quiet = true) →
    t.incoming ⊆ s.incoming → t.callbacks.Sublist s.callbacks → s.nextAddr ≤ t.nextAddr →
    IncomingStep s l t
  | received {frame : CECFrame} : t.trace = s.trace → t.incoming = s.incoming →
    t.callbacks = s.callbacks ++ [⟨s.nextAddr, frame⟩] → t.nextAddr = s.nextAddr + 1 →
    IncomingStep s l t
  | enqueued {j : ℕ} {p : FramePtr} : s.callbacks[j]? = some p →
    t.trace = s.trace ++ [.enqueued p] → t.incoming = s.incoming ++ [p] →
    t.callbacks = s.callbacks.eraseIdx j → t.nextAddr = s.nextAddr → IncomingStep s l t
  | opened : opens s l = true → t.trace = s.trace ++ [.opened] → t.incoming = s.incoming →
    t.callbacks = s.callbacks → t.nextAddr = s.nextAddr → IncomingStep s l t
  | returned {p : FramePtr} : p ∈ s.incoming → t.trace = s.trace ++ [.returned p] →
    t.incoming ⊆ s.incoming → t.callbacks = s.callbacks → t.nextAddr = s.nextAddr →
    IncomingStep s l t

variable {s t : State} {l : Label} {err : ℤ}

lemma OpenStep.incomingStep {next : Ctl} (h : OpenStep s err next t)
    (hc : s.ctl = .initOpen ∨ s.ctl = .startOpen) : IncomingStep s (.ctl err) t := by
  cases h with
  | already | failed =>
    exact .quiet (List.append_nil _).symm (by simp) (List.Subset.refl _) (.refl _) le_rfl
  | opened hs herr => exact .opened (by simp [opens, hs, herr, hc]) rfl rfl rfl rfl

lemma CtlStep.incomingStep (h : CtlStep s err t) : IncomingStep s (.ctl err) t := by
  cases h with
  | initOpen hc _ hopen => exact hopen.incomingStep (.inl hc)
  | startOpen hc _ hopen => exact hopen.incomingStep (.inr hc)
  | closed | closeFailed | closeHal =>
    exact .quiet rfl (by simp [Obs.quiet]) (List.Subset.refl _) (.refl _) le_rfl
  | build | restartReader =>
    refine .quiet (List.append_nil _).symm (by simp) ?_ (.refl _) le_rfl
    simp [State.incoming, ReaderPC.hand]
  | closeOffer =>
    refine .quiet (List.append_nil _).symm (by simp) ?_ (.refl _) le_rfl
    simp [State.incoming]
  | _ => exact .quiet (List.append_nil _).symm (by simp) (List.Subset.refl _) (.refl _) le_rfl

lemma ReaderStep.incomingStep {i : ℕ} {pc : ReaderPC} {m : ReaderMove} (h : ReaderStep s pc m)
    (hpc : s.readers[i]? = some pc) : IncomingStep s (.reader i) (s.applyReader i m) := by
  have hsubset : m.pc.toList.flatMap ReaderPC.hand ++ m.rQueue.frames ⊆ pc.hand ++ s.rQueue.frames →
      (s.applyReader i m).incoming ⊆ s.incoming := moveThread_subset hpc
  cases h with
  | got =>
    refine .returned ?_ rfl (hsubset (by simp [ReaderPC.hand])) rfl rfl
    apply List.mem_append_left
    exact List.mem_flatMap.mpr ⟨_, List.mem_of_getElem? hpc, List.mem_singleton_self _⟩
  | pop htake =>
    refine .quiet rfl (by simp) (hsubset ?_) (.refl _) le_rfl
    simp [ReaderPC.hand, EventQueue.frames_of_take_some htake]
  | popNull htake =>
    refine .quiet rfl (by simp) (hsubset ?_) (.refl _) le_rfl
    simp [ReaderPC.hand, EventQueue.frames_of_take_none htake]
  | flushPop =>
    refine .quiet rfl (by simp) (hsubset ?_) (.refl _) le_rfl
    simpa [ReaderPC.hand] using (EventQueue.frames_take_sublist _).subset
  | _ =>
    refine .quiet rfl (by simp [ReaderMove.goto]) (hsubset ?_) (.refl _) le_rfl
    simp [ReaderMove.goto, ReaderPC.hand]

lemma writeMove_quiet (s : State) (p : FramePtr) (err sendResult : ℤ) :
    ∀ o ∈ (writeMove s p err sendResult).obs, o.quiet = true := by
  have hobs : ∀ log, ∀ o ∈ writeObs p log, o.quiet = true := by
    intro log o ho
    simp only [writeObs] at ho
    split at ho <;> simp at ho <;> rcases ho with rfl | rfl <;> rfl
  simp only [writeMove]
  split
  · exact hobs _
  · split
    · exact hobs _
    · simp [Obs.quiet]

lemma WriterStep.obs_quiet {sendResult : ℤ} {pc : WriterPC} {m : WriterMove}
    (h : WriterStep s err sendResult pc m) : ∀ o ∈ m.obs, o.quiet = true := by
  cases h with
  | write => exact writeMove_quiet _ _ _ _
  | _ => simp [WriterMove.goto]

lemma Step.incomingStep (h : Step s l t) : IncomingStep s l t := by
  cases h with
  | ctl h => exact h.incomingStep
  | reader hpc h => exact h.incomingStep hpc
  | writer _ h => exact .quiet rfl h.obs_quiet (List.Subset.refl _) (.refl _) le_rfl
  | receive => exact .received rfl rfl rfl rfl
  | offer _ hp =>
    refine .enqueued hp rfl ?_ rfl rfl
    simp [State.incoming]
  | offerRefused =>
    exact .quiet (List.append_nil _).symm (by simp) (List.Subset.refl _) (List.eraseIdx_sublist ..)
      le_rfl
  | sendAsync =>
    exact .quiet rfl (by simp [Obs.quiet]) (List.Subset.refl _) (.refl _) (Nat.le_succ _)
  | _ => exact .quiet (List.append_nil _).symm (by simp) (List.Subset.refl _) (.refl _) le_rfl

/-! ### The invariant -/

/-- A pattern whose last event is not among the new ones was there before. -/
lemma sublist_of_notMem {α : Type} {xs ys zs : List α} {a : α} (h : xs.Sublist (ys ++ zs))
    (hlast : xs.getLast? = some a) (ha : a ∉ zs) : xs.Sublist ys := by
  obtain ⟨xs, rfl⟩ := List.getLast?_eq_some_iff.mp hlast
  obtain ⟨us, vs, heq, hus, hvs⟩ := List.sublist_append_iff.mp h
  rcases List.eq_nil_or_concat vs with rfl | ⟨vs, b, rfl⟩
  · rwa [heq, List.append_nil]
  · have hab : a = b := by
      rw [List.concat_eq_append, ← List.append_assoc] at heq
      simpa using (List.append_inj' heq rfl).2
    subst hab
    exact absurd (hvs.mem (by simp)) ha

lemma sublist_of_last {ys : List Obs} {a : Obs} (xs : List Obs)
    (h : (xs ++ [a]).Sublist (ys ++ [a])) : xs.Sublist ys :=
  (List.append_sublist_append_right [a]).mp h

/-- The callbacks have frames of their own. -/
structure Addresses (s : State) : Prop where
  fresh : ∀ p ∈ s.callbacks, .enqueued p ∉ s.trace ∧ p.addr < s.nextAddr
  nodup : s.callbacks.Nodup
  past : ∀ p, .enqueued p ∈ s.trace → p.addr < s.nextAddr

namespace Addresses

/-- Nothing is enqueued, and callbacks only end. -/
lemma of_obs {obs : List Obs} (h : Addresses s) (htrace : t.trace = s.trace ++ obs)
    (hobs : ∀ p, .enqueued p ∉ obs) (hcallbacks : t.callbacks.Sublist s.callbacks)
    (haddr : s.nextAddr ≤ t.nextAddr) : Addresses t := by
  have hmem : ∀ p, .enqueued p ∈ t.trace → .enqueued p ∈ s.trace := by
    intro p hp
    rw [htrace] at hp
    exact (List.mem_append.mp hp).resolve_right (hobs p)
  refine ⟨?_, h.nodup.sublist hcallbacks, ?_⟩
  · intro p hp
    obtain ⟨hfresh, hlt⟩ := h.fresh p (hcallbacks.mem hp)
    exact ⟨fun hp' => hfresh (hmem p hp'), hlt.trans_le haddr⟩
  · intro p hp
    exact (h.past p (hmem p hp)).trans_le haddr

/-- The frame of a new callback has an address that no other frame has. -/
lemma received {frame : CECFrame} (h : Addresses s) (htrace : t.trace = s.trace)
    (hcallbacks : t.callbacks = s.callbacks ++ [⟨s.nextAddr, frame⟩])
    (haddr : t.nextAddr = s.nextAddr + 1) : Addresses t := by
  refine ⟨?_, ?_, ?_⟩
  · rw [hcallbacks, htrace, haddr]
    intro p hp
    rcases List.mem_append.mp hp with hp | hp
    · exact ⟨(h.fresh p hp).1, Nat.lt_succ_of_lt (h.fresh p hp).2⟩
    · rw [List.mem_singleton.mp hp]
      exact ⟨fun hp' => Nat.lt_irrefl _ (h.past _ hp'), Nat.lt_succ_self _⟩
  · rw [hcallbacks, List.nodup_append]
    refine ⟨h.nodup, by simp, ?_⟩
    rintro p hp q hq rfl
    rw [List.mem_singleton.mp hq] at hp
    exact Nat.lt_irrefl _ (h.fresh _ hp).2
  · rw [htrace, haddr]
    exact fun p hp => Nat.lt_succ_of_lt (h.past p hp)

/-- A callback enqueues its frame and ends. -/
lemma enqueued {j : ℕ} {p : FramePtr} (h : Addresses s) (hp : s.callbacks[j]? = some p)
    (htrace : t.trace = s.trace ++ [.enqueued p])
    (hcallbacks : t.callbacks = s.callbacks.eraseIdx j) (haddr : t.nextAddr = s.nextAddr) :
    Addresses t := by
  refine ⟨?_, ?_, ?_⟩
  · rw [hcallbacks, htrace, haddr]
    intro q hq
    obtain ⟨i, hij, hi⟩ := List.mem_eraseIdx_iff_getElem?.mp hq
    have hqp : q ≠ p := by
      rintro rfl
      have hlt := (List.getElem?_eq_some_iff.mp hi).1
      exact hij ((List.getElem?_inj hlt h.nodup).mp (hi.trans hp.symm))
    obtain ⟨hfresh, hlt⟩ := h.fresh q (List.mem_of_getElem? hi)
    refine ⟨?_, hlt⟩
    simp [hfresh, hqp]
  · rw [hcallbacks]
    exact h.nodup.sublist (List.eraseIdx_sublist ..)
  · rw [htrace, haddr]
    intro q hq
    rcases List.mem_append.mp hq with hq | hq
    · exact h.past q hq
    · obtain rfl : q = p := by simpa using hq
      exact (h.fresh q (List.mem_of_getElem? hp)).2

end Addresses

structure Sessions (s : State) : Prop extends Addresses s where
  isolated : Isolated s
  /-- no frame on its way in is from before the last `open` -/
  apart : ∀ p ∈ s.incoming, ¬ [.enqueued p, .closed, .opened].Sublist s.trace

lemma Sessions.step (h : Sessions s) (hok : OpensFlushed s l) (hstep : IncomingStep s l t) :
    Sessions t := by
  cases hstep with
  | @quiet obs htrace hquiet hincoming hcallbacks haddr =>
    have hnot : ∀ o : Obs, o.quiet = false → o ∉ obs := by
      intro o ho hmem
      rw [hquiet o hmem] at ho
      cases ho
    refine ⟨h.of_obs htrace (fun p => hnot _ rfl) hcallbacks haddr, ?_, ?_⟩
    · intro p hsub
      rw [htrace] at hsub
      exact h.isolated p (sublist_of_notMem hsub rfl (hnot _ rfl))
    · intro p hp hsub
      rw [htrace] at hsub
      exact h.apart p (hincoming hp) (sublist_of_notMem hsub rfl (hnot _ rfl))
  | received htrace hincoming hcallbacks haddr =>
    refine ⟨h.received htrace hcallbacks haddr, ?_, ?_⟩
    · rw [Isolated, htrace]
      exact h.isolated
    · rw [hincoming, htrace]
      exact h.apart
  | @enqueued j p hp htrace hincoming hcallbacks haddr =>
    refine ⟨h.toAddresses.enqueued hp htrace hcallbacks haddr, ?_, ?_⟩
    · intro q hsub
      rw [htrace] at hsub
      exact h.isolated q (sublist_of_notMem hsub rfl (by simp))
    · intro q hq hsub
      rw [htrace] at hsub
      have hsub' := sublist_of_notMem hsub rfl (by simp)
      rw [hincoming] at hq
      rcases List.mem_append.mp hq with hq | hq
      · exact h.apart q hq hsub'
      · rw [List.mem_singleton.mp hq] at hsub'
        exact (h.fresh p (List.mem_of_getElem? hp)).1 (hsub'.mem (by simp))
  | opened hopens htrace hincoming hcallbacks haddr =>
    refine ⟨h.of_obs htrace (by simp) (hcallbacks ▸ .refl _) haddr.ge, ?_, ?_⟩
    · intro p hsub
      rw [htrace] at hsub
      exact h.isolated p (sublist_of_notMem hsub rfl (by simp))
    · intro p hp hsub
      rw [hincoming] at hp
      rw [htrace] at hsub
      exact hok hopens p hp (sublist_of_last [.enqueued p, .closed] hsub)
  | @returned p hp htrace hincoming hcallbacks haddr =>
    refine ⟨h.of_obs htrace (by simp) (hcallbacks ▸ .refl _) haddr.ge, ?_, ?_⟩
    · intro q hsub
      rw [htrace] at hsub
      by_cases hqp : q = p
      · subst hqp
        exact h.apart q hp (sublist_of_last [.enqueued q, .closed, .opened] hsub)
      · exact h.isolated q (sublist_of_notMem hsub rfl (by simp [hqp]))
    · intro q hq hsub
      rw [htrace] at hsub
      exact h.apart q (hincoming hq) (sublist_of_notMem hsub rfl (by simp))

lemma Sessions.init : Sessions .init := by
  refine ⟨⟨?_, ?_, ?_⟩, ?_, ?_⟩ <;> simp [Isolated, State.init, State.incoming, EventQueue.frames,
    EventQueue.empty]

lemma Sessions.of_run (h : Run HdmiCec.step OpensFlushed .init s) : Sessions s := by
  apply h.invariant _ Sessions.init
  intro s l t hok hstep hs
  exact hs.step hok (Step.of_step hstep).2.incomingStep

/-! ### The theorem -/

/-- In a run in which every `open` finds only frames that came after the last `close`, no frame is
returned in a later session. -/
theorem sessions_isolated (h : Run step OpensFlushed .init s) : Isolated s :=
  (Sessions.of_run h).isolated

/-! ### Runs -/

/-- The library is terminated; the reader is at the end of its loop. -/
def endSession : List Label :=
  .callTerm :: List.replicate 5 (.ctl ioSuccess) ++ List.replicate 2 (.reader 0) ++
    List.replicate 5 (.ctl ioSuccess) ++ List.replicate 7 (.writer 0 ioSuccess ioSuccess) ++
    List.replicate 4 (.ctl ioSuccess)

/-- The library is initialized again, and the new reader waits for a frame. -/
def nextSession : List Label :=
  .callInit :: List.replicate 7 (.ctl ioSuccess) ++ List.replicate 4 (.reader 0)

/-- A frame in each of two sessions. -/
theorem sessions_isolated_two_sessions :
    ∃ s, .returned ⟨1, ⟨[0x4F, 0x85], by decide⟩⟩ ∈ s.trace ∧ Isolated s := by
  obtain ⟨s, hrun, hs⟩ := Run.of_execSat
    (show execSat step OpensFlushed
      (fun s => .returned ⟨1, ⟨[0x4F, 0x85], by decide⟩⟩ ∈ s.trace) .init
      (startUp ++ [.receive ⟨[0x40], by decide⟩, .offer 0] ++ List.replicate 8 (.reader 0) ++
        endSession ++ nextSession ++ [.receive ⟨[0x4F, 0x85], by decide⟩, .offer 0] ++
        List.replicate 6 (.reader 0)) = true by decide +kernel)
  exact ⟨s, of_decide_eq_true hs, sessions_isolated hrun⟩

/-- Two frames are received, and the library is terminated after the reader has returned the first
one. The other is returned in the next session. -/
theorem backlog_crosses_sessions :
    ∃ s, Run step (fun _ _ => True) .init s ∧ ¬ Isolated s := by
  obtain ⟨s, hrun, hs⟩ := Run.of_execSat
    (show execSat step (fun _ _ => True)
      (fun s => [.enqueued ⟨1, ⟨[0x4F, 0x85], by decide⟩⟩, .closed, .opened,
        .returned ⟨1, ⟨[0x4F, 0x85], by decide⟩⟩].Sublist s.trace) .init
      (startUp ++ [.receive ⟨[0x40], by decide⟩, .offer 0, .receive ⟨[0x4F, 0x85], by decide⟩,
        .offer 0] ++ List.replicate 8 (.reader 0) ++ endSession ++ nextSession ++
        List.replicate 3 (.reader 0)) = true by decide +kernel)
  exact ⟨s, hrun, fun hisolated => hisolated _ (of_decide_eq_true hs)⟩

end HdmiCec
