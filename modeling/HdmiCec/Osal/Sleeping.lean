import HdmiCec.Osal.Queue

/-!
# The condition variable of an event queue

`ConditionVariable` as the threads of an `EventQueue` execute it: its own mutex, the flag under it,
`pthread_cond_wait`, which releases the mutex while the thread sleeps and takes it again before it
returns, wake-ups that nobody caused, and `pthread_cond_broadcast`.

No wake-up is lost: when a thread sleeps and the deque holds an element, an `offer` is under way
that will wake it.
-/

namespace HdmiCec

open Lib

/-! ### The threads -/

/-- The functions of `ConditionVariable` that an `EventQueue` calls. -/
inductive CondCall where
  | set
  | reset
  | isSet
  | wait
  | notifyAll
deriving DecidableEq

/-- The function of the condition variable that a thread calls at a point of `EventQueue`. -/
def QueuePC.condCall {E : Type} : QueuePC E → Option CondCall
  | offerSet _ => some .set
  | offerNotify _ => some .notifyAll
  | pollWait => some .wait
  | pollIsSet | pollIsSetAgain => some .isSet
  | pollReset _ _ => some .reset
  | _ => none

/-- The points of a thread in the functions of a `ConditionVariable`. -/
inductive CondPC where
  /-- in none of them, or before `mutex->lock()` -/
  | out
  /-- with the mutex, before the flag is read or written; `wait` comes back here in its loop -/
  | held
  /-- before `pthread_cond_broadcast` -/
  | broadcast
  /-- asleep in `pthread_cond_wait`, without the mutex -/
  | asleep
  /-- woken up in `pthread_cond_wait`, before the mutex is taken again -/
  | woken
  /-- before `mutex->unlock()` -/
  | unlock
deriving DecidableEq

/-- What `pthread_cond_broadcast` does to a thread. -/
def CondPC.wake : CondPC → CondPC
  | asleep => woken
  | pc => pc

/-- An event queue with its condition variable. In `queue` a thread has gone past a function of the
condition variable when it has made its access to the flag; the rest of the function is in `conds`.
-/
structure MonitorQueue (E : Type) where
  queue : SharedQueue E
  /-- the thread that holds the mutex of the condition variable -/
  mutex : Option ℕ
  conds : ℕ → CondPC

/-- The steps: thread `i` calls a function of the queue, goes on, or is woken up by nobody. -/
inductive MonitorLabel (E : Type) where
  | offer (i : ℕ) (element : E)
  | poll (i : ℕ)
  | size (i : ℕ)
  | run (i : ℕ)
  | wakeUp (i : ℕ)

namespace MonitorQueue

variable {E : Type}

/-- `EventQueue(cap)`. -/
def new (cap : ℕ) : MonitorQueue E := ⟨.new cap, none, fun _ => .out⟩

/-- Thread `i` goes to `pc` in the condition variable. -/
def goto (s : MonitorQueue E) (i : ℕ) (pc : CondPC) : MonitorQueue E :=
  { s with conds := Function.update s.conds i pc }

/-- `mutex->lock()`, also at the end of `pthread_cond_wait`. `none`: the thread has to wait. -/
def lock (s : MonitorQueue E) (i : ℕ) : Option (MonitorQueue E) :=
  match s.mutex with
  | none => some ({ s with mutex := some i }.goto i .held)
  | some _ => none

variable [Inhabited E]

/-- Thread `i` goes on in the functions of the queue. -/
def plain (s : MonitorQueue E) (i : ℕ) : Option (MonitorQueue E) :=
  (s.queue.step (.run i)).map fun q => { s with queue := q }

/-- Thread `i` makes its access to the flag and goes to `pc`. -/
def access (s : MonitorQueue E) (i : ℕ) (pc : CondPC) : Option (MonitorQueue E) :=
  (s.queue.step (.run i)).map fun q => { s with queue := q }.goto i pc

/-- Thread `i` with the mutex, in a function of the condition variable. -/
def accessAt (s : MonitorQueue E) (i : ℕ) : CondCall → Option (MonitorQueue E)
  | .wait =>
    -- `pthread_cond_wait` releases the mutex and sleeps at once
    if s.queue.cond then s.access i .unlock else some ({ s with mutex := none }.goto i .asleep)
  | .notifyAll => s.access i .broadcast
  | .set | .reset | .isSet => s.access i .unlock

/-- The step of thread `i`. `none`: it has to wait. -/
def advance (s : MonitorQueue E) (i : ℕ) : Option (MonitorQueue E) :=
  match s.conds i with
  | .out =>
    match (s.queue.threads i).condCall with
    | none => s.plain i
    | some _ => s.lock i
  | .held => (s.queue.threads i).condCall.bind (s.accessAt i)
  | .broadcast =>
    some ({ s with conds := fun j => (s.conds j).wake }.goto i .unlock)
  | .asleep => none
  | .woken => s.lock i
  | .unlock => some ({ s with mutex := none }.goto i .out)

/-- Thread `i` calls a function of the queue. -/
def call (s : MonitorQueue E) (l : QueueLabel E) : Option (MonitorQueue E) :=
  (s.queue.step l).map fun q => { s with queue := q }

def step (s : MonitorQueue E) : MonitorLabel E → Option (MonitorQueue E)
  | .offer i element => s.call (.offer i element)
  | .poll i => s.call (.poll i)
  | .size i => s.call (.size i)
  | .run i => s.advance i
  | .wakeUp i => if s.conds i = .asleep then some (s.goto i .woken) else none

end MonitorQueue

/-! ### What a step of the queue does -/

namespace SharedQueue

variable {E : Type} [Inhabited E] {s s' : SharedQueue E} {i : ℕ}

/-- A step of one thread leaves the others where they are. -/
lemma threads_advance_of_ne {pc : QueuePC E} {j : ℕ} (h : s.advance i pc = some s') (hj : j ≠ i) :
    s'.threads j = s.threads j := by
  cases pc with
  | idle => cases h
  | offerLock | pollLock | sizeLock =>
    obtain ⟨-, rfl⟩ := lock_eq_some h
    exact Function.update_of_ne hj _ _
  | pollWait =>
    simp only [advance] at h
    split at h
    · cases h
      exact Function.update_of_ne hj _ _
    · cases h
  | pollFront =>
    obtain ⟨front, -, rfl⟩ := Option.map_eq_some_iff.mp h
    exact Function.update_of_ne hj _ _
  | _ =>
    cases h
    exact Function.update_of_ne hj _ _

/-- Only the functions of the condition variable change the flag. -/
lemma cond_advance_of_plain {pc : QueuePC E} (h : s.advance i pc = some s')
    (hpc : pc.condCall = none) : s'.cond = s.cond := by
  cases pc with
  | idle => cases h
  | offerLock | pollLock | sizeLock =>
    obtain ⟨-, rfl⟩ := lock_eq_some h
    rfl
  | pollFront =>
    obtain ⟨front, -, rfl⟩ := Option.map_eq_some_iff.mp h
    rfl
  | offerSet | offerNotify | pollWait | pollIsSet | pollIsSetAgain | pollReset => cases hpc
  | _ =>
    cases h
    rfl

end SharedQueue

/-! ### What a step does -/

/-- The thread holds the mutex of the condition variable. -/
def CondPC.holds : CondPC → Bool
  | held | broadcast | unlock => true
  | out | asleep | woken => false

@[simp] lemma CondPC.holds_wake (pc : CondPC) : pc.wake.holds = pc.holds := by
  cases pc <;> rfl

namespace MonitorQueue

variable {E : Type} [Inhabited E] {s s' : MonitorQueue E} {i : ℕ}

/-- The steps of thread `i` in its call, with their guards. -/
inductive Advance (s : MonitorQueue E) (i : ℕ) : MonitorQueue E → Prop
  | plain {q : SharedQueue E} : s.conds i = .out → (s.queue.threads i).condCall = none →
      s.queue.advance i (s.queue.threads i) = some q → Advance s i { s with queue := q }
  | lock : s.conds i = .out ∧ (s.queue.threads i).condCall.isSome = true ∨ s.conds i = .woken →
      s.mutex = none → Advance s i ({ s with mutex := some i }.goto i .held)
  | access {c : CondCall} {q : SharedQueue E} : s.conds i = .held →
      (s.queue.threads i).condCall = some c → c ≠ .notifyAll →
      s.queue.advance i (s.queue.threads i) = some q →
      Advance s i ({ s with queue := q }.goto i .unlock)
  | notifyAll {q : SharedQueue E} : s.conds i = .held →
      (s.queue.threads i).condCall = some .notifyAll →
      s.queue.advance i (s.queue.threads i) = some q →
      Advance s i ({ s with queue := q }.goto i .broadcast)
  | sleep : s.conds i = .held → (s.queue.threads i).condCall = some .wait → s.queue.cond = false →
      Advance s i ({ s with mutex := none }.goto i .asleep)
  | broadcast : s.conds i = .broadcast →
      Advance s i ({ s with conds := fun j => (s.conds j).wake }.goto i .unlock)
  | unlock : s.conds i = .unlock → Advance s i ({ s with mutex := none }.goto i .out)

omit [Inhabited E] in
lemma lock_eq_some (h : s.lock i = some s') :
    s.mutex = none ∧ s' = { s with mutex := some i }.goto i .held := by
  unfold lock at h
  split at h
  · rename_i hfree
    cases h
    exact ⟨hfree, rfl⟩
  · cases h

lemma Advance.of_lock (h : s.lock i = some s')
    (hi : s.conds i = .out ∧ (s.queue.threads i).condCall.isSome = true ∨ s.conds i = .woken) :
    Advance s i s' := by
  obtain ⟨hfree, rfl⟩ := lock_eq_some h
  exact .lock hi hfree

lemma Advance.of_accessAt {c : CondCall} (h : s.accessAt i c = some s') (hheld : s.conds i = .held)
    (hc : (s.queue.threads i).condCall = some c) : Advance s i s' := by
  have haccess : ∀ {pc}, s.access i pc = some s' → ∃ q,
      s.queue.advance i (s.queue.threads i) = some q ∧ s' = { s with queue := q }.goto i pc := by
    intro pc h
    obtain ⟨q, hq, rfl⟩ := Option.map_eq_some_iff.mp h
    exact ⟨q, hq, rfl⟩
  cases c with
  | wait =>
    simp only [accessAt] at h
    split at h
    · obtain ⟨q, hq, rfl⟩ := haccess h
      exact .access hheld hc (by simp) hq
    · rename_i hreset
      cases h
      exact .sleep hheld hc (by simpa using hreset)
  | notifyAll =>
    obtain ⟨q, hq, rfl⟩ := haccess h
    exact .notifyAll hheld hc hq
  | set | reset | isSet =>
    obtain ⟨q, hq, rfl⟩ := haccess h
    exact .access hheld hc (by simp) hq

lemma Advance.of_advance (h : s.advance i = some s') : Advance s i s' := by
  unfold advance at h
  split at h
  · rename_i hout
    split at h
    · rename_i hplain
      obtain ⟨q, hq, rfl⟩ := Option.map_eq_some_iff.mp h
      exact .plain hout hplain hq
    · rename_i c hc
      exact .of_lock h (.inl ⟨hout, by rw [hc]; rfl⟩)
  · rename_i hheld
    obtain ⟨c, hc, h⟩ := Option.bind_eq_some_iff.mp h
    exact .of_accessAt h hheld hc
  · rename_i hbroadcast
    cases h
    exact .broadcast hbroadcast
  · cases h
  · rename_i hwoken
    exact .of_lock h (.inr hwoken)
  · rename_i hunlock
    cases h
    exact .unlock hunlock

/-- The steps: a call begins, a thread goes on in its call, or it is woken up. -/
inductive Step (s : MonitorQueue E) : MonitorLabel E → MonitorQueue E → Prop
  | call {l : MonitorLabel E} {i : ℕ} {pc : QueuePC E} : s.queue.threads i = .idle →
      pc.inSection = false → Step s l { s with queue := s.queue.goto i pc }
  | run {i : ℕ} {s' : MonitorQueue E} : Advance s i s' → Step s (.run i) s'
  | wakeUp {i : ℕ} : s.conds i = .asleep → Step s (.wakeUp i) (s.goto i .woken)

/-- Every step is one of these. -/
lemma Step.of_step {l : MonitorLabel E} (h : s.step l = some s') : Step s l s' := by
  have hcall : ∀ {i pc}, pc.inSection = false →
      (s.queue.call i pc).map (fun q => { s with queue := q }) = some s' → Step s l s' := by
    intro i pc hpc h
    obtain ⟨q, hq, rfl⟩ := Option.map_eq_some_iff.mp h
    obtain ⟨hidle, rfl⟩ := SharedQueue.call_eq_some hq
    exact .call hidle hpc
  cases l with
  | offer i element => exact hcall rfl h
  | poll i => exact hcall rfl h
  | size i => exact hcall rfl h
  | run i => exact .run (.of_advance h)
  | wakeUp i =>
    simp only [step] at h
    split at h
    · rename_i hasleep
      cases h
      exact .wakeUp hasleep
    · cases h

/-! ### The queue beneath -/

/-- A step is a step of the queue or does nothing to it. -/
lemma queue_step {l : MonitorLabel E} (h : s.step l = some s') :
    s'.queue = s.queue ∨ ∃ l', s.queue.step l' = some s'.queue := by
  have hcall : ∀ {l'}, s.call l' = some s' → ∃ l', s.queue.step l' = some s'.queue := by
    intro l' h
    obtain ⟨q, hq, rfl⟩ := Option.map_eq_some_iff.mp h
    exact ⟨l', hq⟩
  cases l with
  | offer i element => exact .inr (hcall h)
  | poll i => exact .inr (hcall h)
  | size i => exact .inr (hcall h)
  | run i =>
    cases Advance.of_advance h with
    | plain _ _ hq | access _ _ _ hq | notifyAll _ _ hq => exact .inr ⟨.run i, hq⟩
    | lock | sleep | broadcast | unlock => exact .inl rfl
  | wakeUp i =>
    simp only [step] at h
    split at h
    · cases h
      exact .inl rfl
    · cases h

/-- The threads use the queue as `SharedQueue` says. -/
theorem queue_run {ok : MonitorQueue E → MonitorLabel E → Prop} {cap : ℕ}
    (h : Run step ok (new cap) s) : Run SharedQueue.step (fun _ _ => True) (.new cap) s.queue := by
  induction h with
  | refl => exact .refl
  | tail _ _ hstep ih =>
    obtain heq | ⟨l, hl⟩ := queue_step hstep
    · rwa [heq]
    · exact ih.tail trivial hl

/-! ### The invariant -/

/-- Where a thread is in the queue when it is at a point of the condition variable. -/
def Placed (pc : QueuePC E) : CondPC → Prop
  | .held => pc.condCall.isSome = true
  | .asleep | .woken => pc = .pollWait
  | .broadcast => ∃ e, pc = .unlock (.offered e)
  | .out | .unlock => True

/-- Thread `j` is in `offer`, past `cond.set()`, and has not made its broadcast. -/
def Announces (s : MonitorQueue E) (j : ℕ) : Prop :=
  (∃ e, s.queue.threads j = .offerNotify e) ∨ s.conds j = .broadcast

/-- The mutex of the condition variable is held by the thread that is between locking and unlocking
it; and the flag is not set while a thread sleeps, unless somebody is about to wake it. -/
structure Monitored (s : MonitorQueue E) : Prop where
  excluded : ∀ i, (s.conds i).holds = true ↔ s.mutex = some i
  placed : ∀ i, Placed (s.queue.threads i) (s.conds i)
  announced : ∀ i, s.conds i = .asleep → s.queue.cond = true → ∃ j, s.Announces j

omit [Inhabited E] in
@[simp] lemma conds_goto_self (s : MonitorQueue E) (i : ℕ) (pc : CondPC) :
    (s.goto i pc).conds i = pc := Function.update_self ..

omit [Inhabited E] in
lemma conds_goto_of_ne (s : MonitorQueue E) {i j : ℕ} (pc : CondPC) (h : j ≠ i) :
    (s.goto i pc).conds j = s.conds j := Function.update_of_ne h ..

omit [Inhabited E] in
@[simp] lemma queue_goto (s : MonitorQueue E) (i : ℕ) (pc : CondPC) :
    (s.goto i pc).queue = s.queue := rfl

omit [Inhabited E] in
@[simp] lemma mutex_goto (s : MonitorQueue E) (i : ℕ) (pc : CondPC) :
    (s.goto i pc).mutex = s.mutex := rfl

/-- A step of one thread moves no other thread, but it may wake it. -/
lemma Advance.others {j : ℕ} (h : Advance s i s') (hj : j ≠ i) :
    s'.queue.threads j = s.queue.threads j ∧
      (s'.conds j = s.conds j ∨ s.conds i = .broadcast ∧ s'.conds j = (s.conds j).wake) := by
  cases h with
  | plain _ _ hq => exact ⟨SharedQueue.threads_advance_of_ne hq hj, .inl rfl⟩
  | access _ _ _ hq | notifyAll _ _ hq =>
    exact ⟨SharedQueue.threads_advance_of_ne hq hj, .inl (conds_goto_of_ne _ _ hj)⟩
  | lock | sleep | unlock => exact ⟨rfl, .inl (conds_goto_of_ne _ _ hj)⟩
  | broadcast hi => exact ⟨rfl, .inr ⟨hi, conds_goto_of_ne _ _ hj⟩⟩

omit [Inhabited E] in
lemma Placed.wake {pc : QueuePC E} {c : CondPC} (h : Placed pc c) : Placed pc c.wake := by
  cases c <;> exact h

omit [Inhabited E] in
lemma monitored_new (cap : ℕ) : Monitored (new cap : MonitorQueue E) where
  excluded i := by simp [new, CondPC.holds]
  placed _ := trivial
  announced i h := by cases h

/-- `notifyAll` is called by `offer`, before the queue's mutex is released. -/
lemma threads_of_notifyAll {q q' : SharedQueue E} (h : q.advance i (q.threads i) = some q')
    (hc : (q.threads i).condCall = some .notifyAll) :
    ∃ e, q'.threads i = .unlock (.offered e) := by
  generalize q.threads i = pc at h hc
  cases pc with
  | offerNotify element =>
    cases h
    exact ⟨element, Function.update_self ..⟩
  | _ => cases hc

/-- A function that sets the flag is followed by `notifyAll`. -/
lemma cond_of_access {q q' : SharedQueue E} {c : CondCall}
    (h : q.advance i (q.threads i) = some q') (hc : (q.threads i).condCall = some c)
    (hne : c ≠ .notifyAll) :
    q'.cond = true → q.cond = true ∨ ∃ e, q'.threads i = .offerNotify e := by
  generalize q.threads i = pc at h hc
  cases pc with
  | offerSet element =>
    cases h
    exact fun _ => .inr ⟨element, Function.update_self ..⟩
  | pollWait =>
    simp only [SharedQueue.advance] at h
    split at h
    · rename_i hset
      exact fun _ => .inl hset
    · cases h
  | pollIsSet | pollIsSetAgain =>
    cases h
    exact .inl
  | pollReset =>
    cases h
    intro hset
    cases hset
  | offerNotify =>
    cases hc
    exact absurd rfl hne
  | _ => cases hc

/-- A thread that announces goes on to do so while it stays where it is in the queue. -/
lemma Announces.advance {j : ℕ} (h : s.Announces j) (hstep : Advance s i s')
    (hi : s.conds i ≠ .broadcast) (hthreads : s'.queue.threads j = s.queue.threads j) :
    s'.Announces j := by
  rcases h with ⟨e, he⟩ | hbroadcast
  · exact .inl ⟨e, hthreads.trans he⟩
  · have hj : j ≠ i := by
      rintro rfl
      exact hi hbroadcast
    rcases (hstep.others hj).2 with hconds | ⟨hi', -⟩
    · exact .inr (hconds.trans hbroadcast)
    · exact absurd hi' hi

omit [Inhabited E] in
/-- A thread announces only when it is about to call `notifyAll` or is in it. -/
lemma Announces.condCall (h : s.Announces i) (hi : s.conds i ≠ .broadcast) :
    (s.queue.threads i).condCall = some .notifyAll := by
  rcases h with ⟨e, he⟩ | hbroadcast
  · rw [he]
    rfl
  · exact absurd hbroadcast hi

lemma Monitored.excluded_advance (h : Monitored s) (hstep : Advance s i s') (j : ℕ) :
    (s'.conds j).holds = true ↔ s'.mutex = some j := by
  have hothers : ∀ {j}, j ≠ i → ((s'.conds j).holds = true ↔ s.mutex = some j) := by
    intro j hj
    rw [← h.excluded j]
    rcases (hstep.others hj).2 with hconds | ⟨-, hconds⟩ <;> simp [hconds]
  have hself := h.excluded i
  by_cases hj : j = i
  · subst hj
    cases hstep with
    | plain => exact hself
    | lock => simp [CondPC.holds]
    | sleep | unlock => simp [CondPC.holds]
    | access hi | notifyAll hi =>
      rw [hi] at hself
      simpa [CondPC.holds] using hself
    | broadcast hi =>
      rw [hi] at hself
      simpa [CondPC.holds] using hself
  · rw [hothers hj]
    have hne : i ≠ j := fun heq => hj heq.symm
    cases hstep with
    | plain | access | notifyAll | broadcast => rfl
    | lock _ hfree => simp [hfree, hne]
    | sleep hi | unlock hi =>
      have hmutex : s.mutex = some i := hself.mp (by rw [hi]; rfl)
      simp [hmutex, hne]

lemma Monitored.placed_advance (h : Monitored s) (hstep : Advance s i s') (j : ℕ) :
    Placed (s'.queue.threads j) (s'.conds j) := by
  by_cases hj : j = i
  · subst hj
    have hself := h.placed j
    cases hstep with
    | plain hout => 
      rw [hout]
      trivial
    | lock hi =>
      rw [conds_goto_self]
      rcases hi with ⟨-, hcall⟩ | hwoken
      · exact hcall
      · rw [hwoken] at hself
        change (s.queue.threads j).condCall.isSome = true
        rw [show s.queue.threads j = .pollWait from hself]
        rfl
    | access | unlock | broadcast =>
      rw [conds_goto_self]
      trivial
    | notifyAll _ hc hq =>
      rw [conds_goto_self]
      exact threads_of_notifyAll hq hc
    | sleep _ hc =>
      rw [conds_goto_self]
      change s.queue.threads j = .pollWait
      generalize s.queue.threads j = pc at hc
      cases pc <;> cases hc
      rfl
  · obtain ⟨hthreads, hconds⟩ := hstep.others hj
    rw [hthreads]
    rcases hconds with hconds | ⟨-, hconds⟩ <;> rw [hconds]
    · exact h.placed j
    · exact (h.placed j).wake

lemma Monitored.announced_advance (h : Monitored s) (hstep : Advance s i s') {k : ℕ}
    (hasleep : s'.conds k = .asleep) (hset : s'.queue.cond = true) : ∃ j, s'.Announces j := by
  -- another thread was asleep before, so that the invariant applies to it
  have hbefore : s'.conds i ≠ .asleep → s.conds i ≠ .broadcast → s.conds k = .asleep := by
    intro hself hi
    by_cases hk : k = i
    · rw [hk] at hasleep
      exact absurd hasleep hself
    · rcases (hstep.others hk).2 with hconds | ⟨hi', -⟩
      · exact hconds.symm.trans hasleep
      · exact absurd hi' hi
  -- the thread that steps is not the one that announces
  have hkeeps : s.conds i ≠ .broadcast → (s.queue.threads i).condCall ≠ some .notifyAll →
      (∃ j, s.Announces j) → ∃ j, s'.Announces j := by
    rintro hi hne ⟨j, hj⟩
    have hji : j ≠ i := by
      rintro rfl
      exact hne (hj.condCall hi)
    exact ⟨j, hj.advance hstep hi (hstep.others hji).1⟩
  cases hstep with
  | plain hout hplain hq =>
    rw [SharedQueue.cond_advance_of_plain hq hplain] at hset
    apply hkeeps (by simp [hout]) (by simp [hplain])
    exact h.announced k (hbefore (by simp [hout]) (by simp [hout])) hset
  | lock hi hfree =>
    have hne : s.conds i ≠ .broadcast := by
      rcases hi with ⟨hout, -⟩ | hwoken
      · simp [hout]
      · simp [hwoken]
    obtain ⟨j, hj⟩ := h.announced k (hbefore (by simp) hne) hset
    exact ⟨j, hj.advance (.lock hi hfree) hne rfl⟩
  | access hheld hc hne hq =>
    rcases cond_of_access hq hc hne hset with hset | ⟨e, he⟩
    · apply hkeeps (by simp [hheld]) (by simpa [hc] using hne)
      exact h.announced k (hbefore (by simp) (by simp [hheld])) hset
    · exact ⟨i, .inl ⟨e, he⟩⟩
  | notifyAll => exact ⟨i, .inr (conds_goto_self _ _ _)⟩
  | sleep _ _ hreset =>
    cases hreset.symm.trans hset
  | broadcast =>
    by_cases hk : k = i
    · rw [hk, conds_goto_self] at hasleep
      cases hasleep
    · rw [conds_goto_of_ne _ _ hk] at hasleep
      change (s.conds k).wake = .asleep at hasleep
      cases hc : s.conds k <;> rw [hc] at hasleep <;> cases hasleep
  | unlock hi =>
    have hne : s.conds i ≠ .broadcast := by simp [hi]
    obtain ⟨j, hj⟩ := h.announced k (hbefore (by simp) hne) hset
    exact ⟨j, hj.advance (.unlock hi) hne rfl⟩

lemma Monitored.advance (h : Monitored s) (hstep : Advance s i s') : Monitored s' where
  excluded := h.excluded_advance hstep
  placed := h.placed_advance hstep
  announced _ := h.announced_advance hstep

/-- One step keeps the invariant. -/
lemma Monitored.step {l : MonitorLabel E} (h : Monitored s) (hstep : s.step l = some s') :
    Monitored s' := by
  cases Step.of_step hstep with
  | run hstep => exact h.advance hstep
  | @call _ i pc hidle hpc =>
    have hthreads : ∀ {j}, j ≠ i → (s.queue.goto i pc).threads j = s.queue.threads j :=
      fun hj => Function.update_of_ne hj ..
    refine ⟨h.excluded, ?_, ?_⟩
    · intro j
      by_cases hj : j = i
      · subst hj
        have hplaced := h.placed j
        rw [hidle] at hplaced
        change Placed _ (s.conds j)
        cases hc : s.conds j <;> rw [hc] at hplaced <;> simp_all [Placed, QueuePC.condCall]
      · change Placed ((s.queue.goto i pc).threads j) (s.conds j)
        rw [hthreads hj]
        exact h.placed j
    · intro k hasleep hset
      obtain ⟨j, ⟨e, he⟩ | hbroadcast⟩ := h.announced k hasleep hset
      · have hj : j ≠ i := by
          rintro rfl
          rw [hidle] at he
          cases he
        exact ⟨j, .inl ⟨e, (hthreads hj).trans he⟩⟩
      · exact ⟨j, .inr hbroadcast⟩
  | @wakeUp i hi =>
    have hconds : ∀ {j}, j ≠ i → (s.goto i .woken).conds j = s.conds j := conds_goto_of_ne _ _
    refine ⟨?_, ?_, ?_⟩
    · intro j
      by_cases hj : j = i
      · subst hj
        have hself := h.excluded j
        rw [hi] at hself
        simpa [CondPC.holds] using hself
      · rw [hconds hj]
        exact h.excluded j
    · intro j
      by_cases hj : j = i
      · subst hj
        have hplaced := h.placed j
        rw [hi] at hplaced
        simpa [Placed] using hplaced
      · rw [hconds hj]
        exact h.placed j
    · intro k hasleep hset
      have hk : k ≠ i := by
        rintro rfl
        simp at hasleep
      rw [hconds hk] at hasleep
      obtain ⟨j, ⟨e, he⟩ | hbroadcast⟩ := h.announced k hasleep hset
      · exact ⟨j, .inl ⟨e, he⟩⟩
      · have hj : j ≠ i := by
          rintro rfl
          rw [hi] at hbroadcast
          cases hbroadcast
        exact ⟨j, .inr ((hconds hj).trans hbroadcast)⟩

/-- The invariant holds in every run. -/
lemma monitored_of_run {ok : MonitorQueue E → MonitorLabel E → Prop} {cap : ℕ}
    (h : Run step ok (new cap) s) : Monitored s := by
  apply h.invariant _ (monitored_new cap)
  intro s l s' _ hstep hs
  exact hs.step hstep

/-! ### No wake-up is lost -/

/-- Thread `j` is in `offer` with the queue's mutex, between `events->push_back(element)` and the
broadcast. -/
def Offering (s : MonitorQueue E) (j : ℕ) : Prop :=
  s.queue.mutex = some j ∧ ((∃ e, s.queue.threads j = .offerSet e) ∨ s.Announces j)

omit [Inhabited E] in
/-- A thread that announces is in its section under the queue's mutex. -/
lemma Monitored.inSection_of_announces {j : ℕ} (h : Monitored s) (hj : s.Announces j) :
    (s.queue.threads j).inSection = true := by
  rcases hj with ⟨e, he⟩ | hbroadcast
  · rw [he]
    rfl
  · have hplaced := h.placed j
    rw [hbroadcast] at hplaced
    obtain ⟨e, he⟩ := hplaced
    rw [he]
    rfl

/-- The flag is behind the deque only in `offer`, before `cond.set()`. -/
lemma offerSet_of_phase {q : EventQueue E} {events : List E} {cond : Bool} {pc : QueuePC E}
    (h : SharedQueue.Phase q events cond pc) (hne : events ≠ []) (hcond : cond = false) :
    ∃ e, pc = .offerSet e := by
  have hq : ∀ {q : EventQueue E}, events = q.events → cond = q.cond → False := by
    intro q hevents hcond'
    have hset : q.cond = true := q.ready_iff.mpr (hevents ▸ hne)
    rw [← hcond', hcond] at hset
    cases hset
  cases pc with
  | offerSet element => exact ⟨element, rfl⟩
  | offerTest | pollIsSet | sizeRead => exact (hq h.1 h.2).elim
  | offerPush | pollEmpty | pollIsSetAgain | pollEmptyAgain | pollFront | pollPop =>
    exact (hq h.1 h.2.1).elim
  | offerNotify => exact absurd (h.2.1.symm.trans hcond) (by simp)
  | pollLast =>
    obtain ⟨-, hcond', hevents⟩ := h
    have hset : q.cond = true := q.ready_iff.mpr (by simp [hevents])
    rw [← hcond', hcond] at hset
    cases hset
  | pollReset =>
    obtain ⟨v, -, -, hnil, -⟩ := h
    exact absurd hnil hne
  | unlock =>
    obtain ⟨q', -, hevents, hcond', -⟩ := h
    exact (hq hevents hcond').elim
  | idle | offerLock | pollWait | pollLock | sizeLock => cases h

/-- A thread sleeps in `pthread_cond_wait` while the deque holds an element only as long as an
`offer` is under way that will wake it. -/
theorem offering_of_asleep {ok : MonitorQueue E → MonitorLabel E → Prop} {cap : ℕ}
    (h : Run step ok (new cap) s) (hasleep : s.conds i = .asleep) (hne : s.queue.events ≠ []) :
    ∃ j, s.Offering j := by
  have hmonitored := monitored_of_run h
  obtain ⟨q, hq⟩ := SharedQueue.exists_refines_of_run (queue_run h)
  by_cases hset : s.queue.cond = true
  · obtain ⟨j, hj⟩ := hmonitored.announced i hasleep hset
    exact ⟨j, hq.excluded j (hmonitored.inSection_of_announces hj), .inr hj⟩
  · rw [Bool.not_eq_true] at hset
    cases hmutex : s.queue.mutex with
    | none =>
      obtain ⟨hevents, hcond⟩ := hq.free hmutex
      have hready : q.cond = true := q.ready_iff.mpr (hevents ▸ hne)
      rw [← hcond, hset] at hready
      cases hready
    | some j => exact ⟨j, hmutex, .inl (offerSet_of_phase (hq.held j hmutex) hne hset)⟩

/-- One thread sleeps in `poll`, another has pushed an element and has not set the flag yet. -/
theorem offering_of_asleep_pushed : ∃ s : MonitorQueue ℕ,
    s.conds 0 = .asleep ∧ s.queue.events = [7] ∧ ∃ j, s.Offering j := by
  obtain ⟨s, hrun, hs⟩ := Run.of_execSat
    (show execSat step (fun _ _ => True)
      (fun s : MonitorQueue ℕ => s.conds 0 = .asleep ∧ s.queue.events = [7]) (new 32)
      [.poll 0, .run 0, .run 0, .offer 1 7, .run 1, .run 1, .run 1] = true by decide)
  obtain ⟨hasleep, hevents⟩ := of_decide_eq_true hs
  exact ⟨s, hasleep, hevents, offering_of_asleep hrun hasleep (by simp [hevents])⟩

end MonitorQueue

end HdmiCec
