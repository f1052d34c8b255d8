import Mathlib.Algebra.BigOperators.Group.Finset.Basic
import Mathlib.Algebra.Order.BigOperators.Group.Finset
import HdmiCec.Osal.Sleeping

/-!
# The threads of an event queue come to rest

When nobody calls `offer`, `poll` or `size` any more and no thread wakes up spuriously, the threads
that are in these functions come to rest after a bounded number of steps, in whatever order they
run. Then each has returned, or it sleeps in `poll` in front of an empty deque. With spurious
wake-ups there is no bound: a thread in `poll` may wake up and go back to sleep for ever.
-/

namespace HdmiCec

open Lib

namespace MonitorQueue

variable {E : Type} [Inhabited E] {s s' : MonitorQueue E} {i : ℕ}

/-! ### The threads at rest -/

/-- Every thread has returned, or it sleeps in front of an empty deque; and nobody holds a mutex. -/
structure Rested (s : MonitorQueue E) : Prop where
  mutex_eq : s.mutex = none
  queue_mutex_eq : s.queue.mutex = none
  threads : ∀ i, s.queue.threads i = .idle ∧ s.conds i = .out ∨
    s.queue.threads i = .pollWait ∧ s.conds i = .asleep
  empty : ∀ i, s.conds i = .asleep → s.queue.events = []

lemma accessAt_isSome {c : CondCall} (h : (s.queue.threads i).condCall = some c) :
    (s.accessAt i c).isSome = true := by
  have haccess : ∀ pc, (s.access i pc).isSome = (s.queue.advance i (s.queue.threads i)).isSome := by
    intro pc
    rw [access, Option.isSome_map]
    rfl
  cases c with
  | wait =>
    simp only [accessAt]
    split
    · rename_i hset
      rw [haccess]
      generalize s.queue.threads i = pc at h
      cases pc <;> cases h
      simp [SharedQueue.advance, hset]
    · rfl
  | notifyAll | set | reset | isSet =>
    simp only [accessAt]
    rw [haccess]
    generalize s.queue.threads i = pc at h
    cases pc <;> cases h <;> rfl

/-- No thread can go on in its call. -/
def Stuck (s : MonitorQueue E) : Prop := ∀ i, s.advance i = none

namespace Stuck

lemma mutex_eq_none (hstuck : s.Stuck) (h : Monitored s) : s.mutex = none := by
  cases hmutex : s.mutex with
  | none => rfl
  | some i =>
    have hholds := (h.excluded i).mpr hmutex
    have hplaced := h.placed i
    have hnone := hstuck i
    unfold MonitorQueue.advance at hnone
    cases hc : s.conds i with
    | held =>
      rw [hc] at hplaced hnone
      obtain ⟨c, hcall⟩ := Option.isSome_iff_exists.mp hplaced
      have hsome := accessAt_isSome hcall
      rw [hcall] at hnone
      rw [show s.accessAt i c = none from hnone] at hsome
      cases hsome
    | broadcast | unlock =>
      rw [hc] at hnone
      cases hnone
    | out | asleep | woken =>
      rw [hc] at hholds
      cases hholds

lemma conds_eq (hstuck : s.Stuck) (h : Monitored s) (i : ℕ) :
    s.conds i = .out ∧ (s.queue.threads i).condCall = none ∨ s.conds i = .asleep := by
  have hmutex := hstuck.mutex_eq_none h
  have hholds : (s.conds i).holds = true → s.mutex = some i := (h.excluded i).mp
  have hlock : s.lock i ≠ none := by simp [lock, hmutex]
  have hnone := hstuck i
  unfold MonitorQueue.advance at hnone
  cases hc : s.conds i with
  | out =>
    rw [hc] at hnone
    cases hcall : (s.queue.threads i).condCall with
    | none => exact .inl ⟨rfl, rfl⟩
    | some c =>
      rw [hcall] at hnone
      exact absurd hnone hlock
  | asleep => exact .inr rfl
  | woken =>
    rw [hc] at hnone
    exact absurd hnone hlock
  | held | broadcast | unlock =>
    rw [hc, hmutex] at hholds
    cases hholds rfl

/-- A thread outside the condition variable cannot go on in the queue either. -/
lemma queue_advance_eq_none (hstuck : s.Stuck) (hout : s.conds i = .out)
    (hcall : (s.queue.threads i).condCall = none) :
    s.queue.advance i (s.queue.threads i) = none := by
  have hnone := hstuck i
  unfold MonitorQueue.advance at hnone
  rw [hout, hcall] at hnone
  exact Option.map_eq_none_iff.mp hnone

lemma queue_mutex_eq_none {q : EventQueue E} {cap : ℕ} (hstuck : s.Stuck) (h : Monitored s)
    (hq : s.queue.Refines cap q) : s.queue.mutex = none := by
  cases hmutex : s.queue.mutex with
  | none => rfl
  | some j =>
    have hphase := hq.held j hmutex
    rcases hstuck.conds_eq h j with ⟨hout, hcall⟩ | hasleep
    · have hsome := SharedQueue.advance_of_phase hphase j
      rw [hstuck.queue_advance_eq_none hout hcall] at hsome
      cases hsome
    · have hplaced := h.placed j
      rw [hasleep] at hplaced
      rw [show s.queue.threads j = .pollWait from hplaced] at hphase
      cases hphase

/-- When no thread can go on, the threads are at rest. -/
theorem rested {ok : MonitorQueue E → MonitorLabel E → Prop} {cap : ℕ} (hstuck : s.Stuck)
    (h : Run step ok (new cap) s) : s.Rested := by
  have hmonitored := monitored_of_run h
  obtain ⟨q, hq⟩ := SharedQueue.exists_refines_of_run (queue_run h)
  have hmutex := hstuck.queue_mutex_eq_none hmonitored hq
  refine ⟨hstuck.mutex_eq_none hmonitored, hmutex, ?_, ?_⟩
  · intro i
    rcases hstuck.conds_eq hmonitored i with ⟨hout, hcall⟩ | hasleep
    · refine .inl ⟨?_, hout⟩
      have hnone := hstuck.queue_advance_eq_none hout hcall
      have hsection := hq.excluded i
      rw [hmutex] at hsection
      cases hpc : s.queue.threads i with
      | idle => rfl
      | offerLock | pollLock | sizeLock =>
        rw [hpc] at hnone
        simp [SharedQueue.advance, SharedQueue.lock, hmutex] at hnone
      | pollWait =>
        rw [hpc] at hcall
        cases hcall
      | _ =>
        rw [hpc] at hsection
        cases hsection rfl
    · have hplaced := hmonitored.placed i
      rw [hasleep] at hplaced
      exact .inr ⟨hplaced, hasleep⟩
  · intro i hasleep
    by_contra hne
    obtain ⟨j, hj, -⟩ := offering_of_asleep h hasleep hne
    rw [hmutex] at hj
    cases hj

end Stuck

end MonitorQueue

/-! ### The threads come to rest -/

/-- A bound for the steps of a thread in a function of the condition variable. One that is woken up
has more to do than one that sleeps. -/
def CondPC.left : CondPC → ℕ
  | asleep => 0
  | held => 1
  | out | woken => 2
  | unlock => 3
  | broadcast => 4

/-- The broadcasts that a thread is going to make in its call. -/
def QueuePC.broadcasts {E : Type} : QueuePC E → ℕ
  | offerLock _ | offerTest _ | offerPush _ | offerSet _ | offerNotify _ => 1
  | _ => 0

def CondPC.broadcasts : CondPC → ℕ
  | broadcast => 1
  | _ => 0

namespace SharedQueue

variable {E : Type} [Inhabited E] {s s' : SharedQueue E} {i : ℕ}

/-- A step makes or gives up the broadcasts of the call. -/
lemma broadcasts_advance {pc : QueuePC E} (h : s.advance i pc = some s') :
    (s'.threads i).broadcasts + (if pc.condCall = some .notifyAll then 1 else 0) ≤
      pc.broadcasts := by
  cases pc with
  | idle => cases h
  | offerLock | pollLock | sizeLock =>
    obtain ⟨-, rfl⟩ := lock_eq_some h
    simp [QueuePC.broadcasts, QueuePC.condCall]
  | pollWait =>
    simp only [advance] at h
    split at h
    · cases h
      simp [QueuePC.broadcasts, QueuePC.condCall]
    · cases h
  | pollFront =>
    obtain ⟨front, -, rfl⟩ := Option.map_eq_some_iff.mp h
    simp [QueuePC.broadcasts, QueuePC.condCall]
  | offerTest | pollIsSet | pollEmpty | pollIsSetAgain | pollEmptyAgain | pollLast =>
    cases h
    rw [threads_goto]
    split <;> simp [QueuePC.broadcasts, QueuePC.condCall]
  | _ =>
    cases h
    simp [QueuePC.broadcasts, QueuePC.condCall]

end SharedQueue

namespace MonitorQueue

variable {E : Type} {s s' : MonitorQueue E} {i n : ℕ}

/-- What a thread has left to do when there are `n` threads: a broadcast counts for all that it may
wake up. -/
def weight (n : ℕ) (pc : QueuePC E) (c : CondPC) : ℕ :=
  5 * pc.left + c.left + (2 * n + 1) * (pc.broadcasts + c.broadcasts)

/-- What the first `n` threads have left to do. -/
def rank (n : ℕ) (s : MonitorQueue E) : ℕ :=
  ∑ i ∈ Finset.range n, weight n (s.queue.threads i) (s.conds i)

/-- Only the first `n` threads have called something. -/
def Within (n : ℕ) (s : MonitorQueue E) : Prop :=
  ∀ i, n ≤ i → s.queue.threads i = .idle ∧ s.conds i = .out

variable [Inhabited E]

/-- A step lowers the weight of the thread, by more than what it may add to the others. -/
lemma weight_advance (h : Advance s i s') :
    weight n (s'.queue.threads i) (s'.conds i) + (if s.conds i = .broadcast then 2 * n else 0) <
      weight n (s.queue.threads i) (s.conds i) := by
  cases h with
  | plain hout hplain hq =>
    have hleft := SharedQueue.left_advance hq
    have hbroadcasts := SharedQueue.broadcasts_advance hq
    have := Nat.mul_le_mul_left (2 * n + 1) ((Nat.le_add_right _ _).trans hbroadcasts)
    simp [weight, hout, CondPC.left, CondPC.broadcasts]
    omega
  | lock hi => 
    rcases hi with ⟨hi, -⟩ | hi <;> simp [weight, hi, CondPC.left, CondPC.broadcasts]
  | access hi hc hne hq =>
    have hleft := SharedQueue.left_advance hq
    have hbroadcasts := SharedQueue.broadcasts_advance hq
    have := Nat.mul_le_mul_left (2 * n + 1) ((Nat.le_add_right _ _).trans hbroadcasts)
    simp [weight, hi, CondPC.left, CondPC.broadcasts]
    omega
  | notifyAll hi hc hq =>
    have hleft := SharedQueue.left_advance hq
    have hbroadcasts := SharedQueue.broadcasts_advance hq
    rw [if_pos hc] at hbroadcasts
    have := Nat.mul_le_mul_left (2 * n + 1) hbroadcasts
    simp [weight, hi, CondPC.left, CondPC.broadcasts]
    omega
  | sleep hi => simp [weight, hi, CondPC.left, CondPC.broadcasts]
  | broadcast hi =>
    simp [weight, hi, CondPC.left, CondPC.broadcasts, Nat.mul_add]
    omega
  | unlock hi => simp [weight, hi, CondPC.left, CondPC.broadcasts]

/-- A broadcast adds two steps to the work of a thread that sleeps. -/
lemma weight_others {j : ℕ} (h : Advance s i s') (hj : j ≠ i) :
    weight n (s'.queue.threads j) (s'.conds j) ≤
      weight n (s.queue.threads j) (s.conds j) + if s.conds i = .broadcast then 2 else 0 := by
  obtain ⟨hthreads, hconds | ⟨hi, hconds⟩⟩ := h.others hj
  · rw [hthreads, hconds]
    exact Nat.le_add_right _ _
  · rw [hthreads, hconds, if_pos hi]
    cases s.conds j <;> simp only [weight, CondPC.wake, CondPC.left, CondPC.broadcasts] <;> omega

/-- A thread that takes a step is in a call. -/
lemma Within.lt (h : s.Within n) (hstep : Advance s i s') : i < n := by
  by_contra hle
  obtain ⟨hidle, hout⟩ := h i (Nat.le_of_not_lt hle)
  cases hstep with
  | plain _ _ hq =>
    rw [hidle] at hq
    cases hq
  | lock hi =>
    rw [hidle, hout] at hi
    simp [QueuePC.condCall] at hi
  | access hi | notifyAll hi | sleep hi | broadcast hi | unlock hi =>
    rw [hout] at hi
    cases hi

lemma Within.advance (h : s.Within n) (hstep : Advance s i s') : s'.Within n := by
  intro j hj
  have hji : j ≠ i := by
    have := h.lt hstep
    omega
  obtain ⟨hidle, hout⟩ := h j hj
  obtain ⟨hthreads, hconds⟩ := hstep.others hji
  refine ⟨hthreads.trans hidle, ?_⟩
  rcases hconds with hconds | ⟨-, hconds⟩ <;> rw [hconds, hout]
  rfl

/-- Every step of a thread in its call brings all of them nearer to their rest. -/
lemma rank_advance (h : s.Within n) (hstep : Advance s i s') : rank n s' < rank n s := by
  have hi : i ∈ Finset.range n := Finset.mem_range.mpr (h.lt hstep)
  have hothers : ∑ j ∈ (Finset.range n).erase i, weight n (s'.queue.threads j) (s'.conds j) ≤
      ∑ j ∈ (Finset.range n).erase i, (weight n (s.queue.threads j) (s.conds j) +
        if s.conds i = .broadcast then 2 else 0) :=
    Finset.sum_le_sum fun j hj => weight_others hstep (Finset.ne_of_mem_erase hj)
  rw [Finset.sum_add_distrib, Finset.sum_const, Finset.card_erase_of_mem hi, Finset.card_range,
    nsmul_eq_mul, Nat.cast_id] at hothers
  have hself := weight_advance (n := n) hstep
  unfold rank
  rw [← Finset.add_sum_erase _ _ hi, ← Finset.add_sum_erase _ _ hi]
  split at hothers
  · rename_i hbroadcast
    rw [if_pos hbroadcast] at hself
    omega
  · rename_i hbroadcast
    rw [if_neg hbroadcast] at hself
    omega

/-- In every run only finitely many threads have called something. -/
lemma exists_within {ok : MonitorQueue E → MonitorLabel E → Prop} {cap : ℕ}
    (h : Run step ok (new cap) s) : ∃ n, s.Within n := by
  apply h.invariant (I := fun s => ∃ n, s.Within n) _ ⟨0, fun _ _ => ⟨rfl, rfl⟩⟩
  rintro s l s' - hstep ⟨n, hn⟩
  cases Step.of_step hstep with
  | run hstep => exact ⟨n, hn.advance hstep⟩
  | @call _ i pc _ _ =>
    refine ⟨max n (i + 1), fun j hj => ?_⟩
    obtain ⟨hidle, hout⟩ := hn j (le_of_max_le_left hj)
    have hji : j ≠ i := by
      have := le_of_max_le_right hj
      omega
    exact ⟨(Function.update_of_ne hji ..).trans hidle, hout⟩
  | @wakeUp i hi =>
    refine ⟨n, fun j hj => ?_⟩
    obtain ⟨hidle, hout⟩ := hn j hj
    have hji : j ≠ i := by
      rintro rfl
      rw [hout] at hi
      cases hi
    exact ⟨hidle, (conds_goto_of_ne _ _ hji).trans hout⟩

/-- When there are no new calls and no spurious wake-ups, the threads that are in a call can take
only a bounded number of steps, in whatever order they run; and when none of them can go on, each
has returned or sleeps in `poll` in front of an empty deque, and nobody holds a mutex. -/
theorem threads_come_to_rest {ok : MonitorQueue E → MonitorLabel E → Prop} {cap : ℕ}
    (h : Run step ok (new cap) s) :
    ∃ bound, ∀ (is : List ℕ) (t : MonitorQueue E),
      exec step (fun _ _ => True) s (is.map .run) = some t →
      is.length ≤ bound ∧ (t.Stuck → t.Rested) := by
  obtain ⟨n, hn⟩ := exists_within h
  refine ⟨rank n s, fun is t ht => ⟨?_, fun hstuck => ?_⟩⟩
  · obtain ⟨-, hle⟩ := length_add_rank_le (P := fun l => ∃ i, l = .run i) (I := Within n)
      (fun s l t hs ⟨i, hl⟩ hstep => by
        subst hl
        have hadvance := Advance.of_advance hstep
        exact ⟨hs.advance hadvance, rank_advance hs hadvance⟩)
      hn (by simp) ht
    rw [List.length_map] at hle
    omega
  · have hrun : Run step (fun _ _ => True) (new cap) t := by
      apply Run.trans _ (Run.of_exec ht)
      exact h.mono fun _ _ _ => trivial
    exact hstuck.rested hrun

/-- One thread sleeps in `poll`, another is in `offer`. -/
theorem threads_come_to_rest_pushed : ∃ s : MonitorQueue ℕ,
    s.conds 0 = .asleep ∧ s.queue.events = [7] ∧ ∃ bound, ∀ (is : List ℕ) (t : MonitorQueue ℕ),
      exec step (fun _ _ => True) s (is.map .run) = some t →
      is.length ≤ bound ∧ (t.Stuck → t.Rested) := by
  obtain ⟨s, hrun, hs⟩ := Run.of_execSat
    (show execSat step (fun _ _ => True)
      (fun s : MonitorQueue ℕ => s.conds 0 = .asleep ∧ s.queue.events = [7]) (new 32)
      [.poll 0, .run 0, .run 0, .offer 1 7, .run 1, .run 1, .run 1] = true by decide)
  obtain ⟨hasleep, hevents⟩ := of_decide_eq_true hs
  exact ⟨s, hasleep, hevents, threads_come_to_rest hrun⟩

end MonitorQueue

end HdmiCec
