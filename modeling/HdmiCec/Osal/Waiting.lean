import HdmiCec.Osal

/-!
# Waiting for a condition

`ConditionVariable::wait`, with its deadline and its loops. `pthread_cond_wait` and
`pthread_cond_timedwait` are outside the repository: what their calls return, and whether the
condition is set then, are parameters.
-/

namespace HdmiCec

/-- The value of a `long`, of 64 bits. -/
def long (i : ℤ) : ℤ := (i + 2 ^ 63) % 2 ^ 64 - 2 ^ 63

/-- `struct timeval`. -/
structure TimeVal where
  tvSec : ℤ
  tvUsec : ℤ

/-- `struct timespec`. -/
structure TimeSpec where
  tvSec : ℤ
  tvNsec : ℤ
deriving DecidableEq, Repr

/-- The end of a call that waits for the condition: its return value, and whether the condition is
set when the caller has the mutex again. -/
structure Wakeup where
  ret : ℤ
  isSet : Bool

/-- What a loop has done: the calls it has made, and `timeLeft` when it is over. -/
structure Waited where
  calls : List Wakeup
  timeLeft : Option ℤ

namespace ConditionVariable

def einval : ℤ := 22
def etimedout : ℤ := 110

/-- `while (!cond->isSet())` without a timeout, as long as `fuel` tests of the condition are enough.
The calls are counted by `k`. -/
def waitLoop (condWait : ℕ → Wakeup) : (fuel k : ℕ) → (isSet : Bool) → Waited
  | 0, _, _ => ⟨[], none⟩
  | fuel + 1, k, isSet =>
    if !isSet then
      if (condWait k).ret < 0 then
        ⟨[condWait k], some 1⟩
      else
        let rest := waitLoop condWait fuel (k + 1) (condWait k).isSet
        ⟨condWait k :: rest.calls, rest.timeLeft⟩
    else
      ⟨[], some 1⟩

/-- `while (!cond->isSet())` with a deadline. -/
def timedLoop (timedwait : ℕ → Wakeup) : (fuel k : ℕ) → (isSet : Bool) → Waited
  | 0, _, _ => ⟨[], none⟩
  | fuel + 1, k, isSet =>
    if !isSet then
      if (timedwait k).ret ≠ 0 ∧ !(timedwait k).isSet ∧ (timedwait k).ret = etimedout then
        ⟨[timedwait k], some 0⟩
      else
        let rest := timedLoop timedwait fuel (k + 1) (timedwait k).isSet
        ⟨timedwait k :: rest.calls, rest.timeLeft⟩
    else
      ⟨[], some 1⟩

/-- The deadline: `timeout` milliseconds after `curTime`. -/
def wakeTime (curTime : TimeVal) (timeout : ℤ) : TimeSpec :=
  let tvNsec := long (long (curTime.tvUsec * 1000) + long (timeout.tmod 1000 * 1000000))
  let tvSec := long (curTime.tvSec + timeout.tdiv 1000)
  if tvNsec > 1000000000 then
    ⟨long (tvSec + 1), long (tvNsec - 1000000000)⟩
  else
    ⟨tvSec, tvNsec⟩

/-- `wait(timeout)`, called while the condition is `isSet`; `gettimeofday` gives `curTime`. -/
def wait (condWait : ℕ → Wakeup) (timedwait : TimeSpec → ℕ → Wakeup) (curTime : TimeVal)
    (fuel : ℕ) (isSet : Bool) (timeout : ℤ) : Waited :=
  if timeout = 0 then
    waitLoop condWait fuel 0 isSet
  else
    timedLoop (timedwait (wakeTime curTime timeout)) fuel 0 isSet

/-! ### The deadline -/

end ConditionVariable

/-- What `pthread_cond_timedwait` accepts. -/
def TimeSpec.Valid (t : TimeSpec) : Prop := 0 ≤ t.tvNsec ∧ t.tvNsec < 1000000000

/-- The nanoseconds that a time denotes. -/
def TimeSpec.nsec (t : TimeSpec) : ℤ := t.tvSec * 1000000000 + t.tvNsec

def TimeVal.nsec (t : TimeVal) : ℤ := t.tvSec * 1000000000 + t.tvUsec * 1000

lemma long_eq {i : ℤ} (hmin : -2 ^ 63 ≤ i) (hmax : i < 2 ^ 63) : long i = i := by
  rw [long, Int.emod_eq_of_lt (by omega) (by omega), Int.add_sub_cancel]

namespace ConditionVariable

section

variable {curTime : TimeVal} {timeout : ℤ} (husec : 0 ≤ curTime.tvUsec)
  (husec' : curTime.tvUsec < 1000000) (htimeout : 0 < timeout) (hmin : -2 ^ 63 ≤ curTime.tvSec)
  (hmax : (curTime.tvSec * 1000000 + curTime.tvUsec + timeout * 1000) / 1000000 < 2 ^ 63)
include husec husec' htimeout hmin hmax

/-- The deadline without the conversions to `long`, which all fit. -/
lemma wakeTime_eq :
    wakeTime curTime timeout =
      if curTime.tvUsec + timeout % 1000 * 1000 > 1000000 then
        ⟨curTime.tvSec + timeout / 1000 + 1,
          (curTime.tvUsec + timeout % 1000 * 1000 - 1000000) * 1000⟩
      else
        ⟨curTime.tvSec + timeout / 1000, (curTime.tvUsec + timeout % 1000 * 1000) * 1000⟩ := by
  have hmod : timeout.tmod 1000 = timeout % 1000 := Int.tmod_eq_emod_of_nonneg htimeout.le
  have hdiv : timeout.tdiv 1000 = timeout / 1000 := Int.tdiv_eq_ediv_of_nonneg htimeout.le
  have hcur : long (curTime.tvUsec * 1000) = curTime.tvUsec * 1000 :=
    long_eq (by omega) (by omega)
  have hrest : long (timeout % 1000 * 1000000) = timeout % 1000 * 1000000 :=
    long_eq (by omega) (by omega)
  have hnsec : long (curTime.tvUsec * 1000 + timeout % 1000 * 1000000) =
      curTime.tvUsec * 1000 + timeout % 1000 * 1000000 := long_eq (by omega) (by omega)
  have hsec : long (curTime.tvSec + timeout / 1000) = curTime.tvSec + timeout / 1000 :=
    long_eq (by omega) (by omega)
  simp only [wakeTime, hmod, hdiv, hcur, hrest, hnsec, hsec]
  by_cases hcarry : curTime.tvUsec + timeout % 1000 * 1000 > 1000000
  · rw [if_pos hcarry, if_pos (by omega), long_eq (by omega) (by omega),
      long_eq (by omega) (by omega), TimeSpec.mk.injEq]
    exact ⟨rfl, by omega⟩
  · rw [if_neg hcarry, if_neg (by omega), TimeSpec.mk.injEq]
    exact ⟨rfl, by omega⟩

/-- The deadline is the current time and the timeout, also when it is not valid. -/
lemma nsec_wakeTime : (wakeTime curTime timeout).nsec = curTime.nsec + timeout * 1000000 := by
  rw [wakeTime_eq husec husec' htimeout hmin hmax]
  split
  · simp only [TimeSpec.nsec, TimeVal.nsec]
    omega
  · simp only [TimeSpec.nsec, TimeVal.nsec]
    omega

/-- The carry is missed when the microseconds come to a full second exactly. -/
lemma valid_wakeTime_iff :
    (wakeTime curTime timeout).Valid ↔ curTime.tvUsec + timeout % 1000 * 1000 ≠ 1000000 := by
  rw [wakeTime_eq husec husec' htimeout hmin hmax]
  split
  · simp only [TimeSpec.Valid]
    omega
  · simp only [TimeSpec.Valid]
    omega

end

/-! ### The loops -/

/-- What is documented of `pthread_cond_timedwait`: it wakes up, times out, or rejects the time with
`EINVAL` because it is not valid. It keeps the mutex when it does that, and so the condition is as
it was. -/
structure Documented (timedwait : TimeSpec → ℕ → Wakeup) : Prop where
  ret : ∀ t k, (timedwait t k).ret = 0 ∨ (timedwait t k).ret = etimedout ∨
    (timedwait t k).ret = einval
  einval_iff : ∀ t k, (timedwait t k).ret = einval ↔ ¬ t.Valid
  held : ∀ t k, (timedwait t k).ret = einval → (timedwait t k).isSet = false

variable {timedwait : ℕ → Wakeup} {fuel k : ℕ} {isSet : Bool}

lemma mem_calls {c : Wakeup} (h : c ∈ (timedLoop timedwait fuel k isSet).calls) :
    ∃ j, c = timedwait j := by
  induction fuel generalizing k isSet with
  | zero => simp [timedLoop] at h
  | succ fuel ih =>
    rw [timedLoop] at h
    split at h
    · split at h
      · exact ⟨k, by simpa using h⟩
      · obtain rfl | h := List.mem_cons.mp h
        · exact ⟨k, rfl⟩
        · exact ih h
    · simp at h

lemma calls_of_isSet : (timedLoop timedwait fuel k true).calls = [] := by
  cases fuel with
  | zero => rfl
  | succ fuel => rfl

/-- After a call that is not the last, the loop has woken up. -/
lemma ret_of_mem_dropLast (hret : ∀ j, (timedwait j).ret = 0 ∨ (timedwait j).ret = etimedout)
    {c : Wakeup} (h : c ∈ (timedLoop timedwait fuel k isSet).calls.dropLast) : c.ret = 0 := by
  induction fuel generalizing k isSet with
  | zero => simp [timedLoop] at h
  | succ fuel ih =>
    rw [timedLoop] at h
    split at h
    · split at h
      · simp at h
      · rename_i hgoes
        cases hcalls : (timedLoop timedwait fuel (k + 1) (timedwait k).isSet).calls with
        | nil => simp [hcalls] at h
        | cons c' cs =>
          -- another call is made, so the condition is not set
          have hset : (timedwait k).isSet = false := by
            cases hs : (timedwait k).isSet with
            | false => rfl
            | true => simp [hs, calls_of_isSet] at hcalls
          simp only [hcalls, List.dropLast_cons_cons, List.mem_cons] at h
          obtain rfl | h := h
          · refine (hret k).resolve_right fun htimeout => hgoes ⟨?_, by simp [hset], htimeout⟩
            simp [htimeout, etimedout]
          · exact ih (by rw [hcalls]; exact h)
    · simp at h

/-- A loop whose calls are all rejected goes on for ever. -/
lemma timedLoop_rejected (h : ∀ j, (timedwait j).ret = einval ∧ (timedwait j).isSet = false)
    (fuel k : ℕ) :
    (timedLoop timedwait fuel k false).timeLeft = none ∧
      (timedLoop timedwait fuel k false).calls.length = fuel := by
  induction fuel generalizing k with
  | zero => exact ⟨rfl, rfl⟩
  | succ fuel ih =>
    have hne : (timedwait k).ret ≠ etimedout := by
      rw [(h k).1]
      decide
    have hstep : timedLoop timedwait (fuel + 1) k false =
        ⟨timedwait k :: (timedLoop timedwait fuel (k + 1) false).calls,
          (timedLoop timedwait fuel (k + 1) false).timeLeft⟩ := by
      simp [timedLoop, (h k).2, hne]
    rw [hstep]
    exact ⟨(ih (k + 1)).1, by rw [List.length_cons, (ih (k + 1)).2]⟩

/-- A deadline that comes to a full second is rejected again and again, with the mutex held. -/
lemma wait_rejected {timedwait : TimeSpec → ℕ → Wakeup} (h : Documented timedwait)
    (condWait : ℕ → Wakeup) {curTime : TimeVal} {timeout : ℤ} (htimeout : timeout ≠ 0)
    (hinvalid : ¬ (wakeTime curTime timeout).Valid) (fuel : ℕ) :
    (wait condWait timedwait curTime fuel false timeout).timeLeft = none ∧
      (wait condWait timedwait curTime fuel false timeout).calls.length = fuel ∧
      ∀ c ∈ (wait condWait timedwait curTime fuel false timeout).calls, c.ret = einval := by
  have hret : ∀ j, (timedwait (wakeTime curTime timeout) j).ret = einval :=
    fun j => (h.einval_iff _ j).mpr hinvalid
  rw [wait, if_neg htimeout]
  obtain ⟨hleft, hlength⟩ := timedLoop_rejected
    (fun j => ⟨hret j, h.held _ j (hret j)⟩) fuel 0
  refine ⟨hleft, hlength, ?_⟩
  intro c hc
  obtain ⟨j, rfl⟩ := mem_calls hc
  exact hret j

/-- A timed wait, at any time and for any positive timeout. The deadline is valid and denotes the
current time plus the timeout, and the loop goes on only after wake-ups and is never rejected,
exactly when the microseconds of the time and of the timeout do not add up to a second. -/
theorem timed_wait_iff {curTime : TimeVal} {timeout : ℤ} (husec : 0 ≤ curTime.tvUsec)
    (husec' : curTime.tvUsec < 1000000) (htimeout : 0 < timeout) (hmin : -2 ^ 63 ≤ curTime.tvSec)
    (hmax : (curTime.tvSec * 1000000 + curTime.tvUsec + timeout * 1000) / 1000000 < 2 ^ 63) :
    ((0 ≤ (wakeTime curTime timeout).tvNsec ∧ (wakeTime curTime timeout).tvNsec < 1000000000) ∧
      (wakeTime curTime timeout).nsec = curTime.nsec + timeout * 1000000 ∧
      ∀ condWait timedwait, Documented timedwait → ∀ fuel isSet,
        (∀ c ∈ (wait condWait timedwait curTime fuel isSet timeout).calls.dropLast, c.ret = 0) ∧
        ∀ c ∈ (wait condWait timedwait curTime fuel isSet timeout).calls, c.ret ≠ einval) ↔
    curTime.tvUsec + timeout % 1000 * 1000 ≠ 1000000 := by
  have hvalid := valid_wakeTime_iff husec husec' htimeout hmin hmax
  constructor
  · rintro ⟨h, -⟩
    exact hvalid.mp h
  · intro h
    refine ⟨hvalid.mpr h, nsec_wakeTime husec husec' htimeout hmin hmax, ?_⟩
    intro condWait timedwait hdoc fuel isSet
    have hne : ∀ j, (timedwait (wakeTime curTime timeout) j).ret ≠ einval :=
      fun j hj => (hdoc.einval_iff _ j).mp hj (hvalid.mpr h)
    rw [wait, if_neg htimeout.ne']
    constructor
    · intro c hc
      refine ret_of_mem_dropLast (fun j => ?_) hc
      exact (hdoc.ret _ j).imp_right fun hj => hj.resolve_right (hne j)
    · intro c hc
      obtain ⟨j, rfl⟩ := mem_calls hc
      exact hne j

/-- A quarter of a second from a time just before a full second. -/
theorem timed_wait_carry :
    wakeTime ⟨1700000000, 999999⟩ 250 = ⟨1700000001, 249999000⟩ ∧
      (wakeTime ⟨1700000000, 999999⟩ 250).nsec =
        TimeVal.nsec ⟨1700000000, 999999⟩ + 250 * 1000000 ∧
      ∀ c ∈ (wait (fun _ => ⟨0, true⟩) (fun t k => ⟨if 0 ≤ t.tvNsec ∧ t.tvNsec < 1000000000 then
          if k < 2 then 0 else etimedout else einval, false⟩) ⟨1700000000, 999999⟩ 4 false 250).calls,
        c.ret ≠ einval := by
  have hdoc : Documented fun t k => ⟨if 0 ≤ t.tvNsec ∧ t.tvNsec < 1000000000 then
      if k < 2 then 0 else etimedout else einval, false⟩ := by
    refine ⟨?_, ?_, fun _ _ _ => rfl⟩
    · intro t k
      dsimp only
      split
      · split
        · exact .inl rfl
        · exact .inr (.inl rfl)
      · exact .inr (.inr rfl)
    · intro t k
      dsimp only [TimeSpec.Valid]
      split
      · rename_i hvalid
        refine iff_of_false ?_ (not_not.mpr hvalid)
        split <;> decide
      · rename_i hinvalid
        exact iff_of_true rfl hinvalid
  obtain ⟨-, hnsec, hcalls⟩ := (@timed_wait_iff ⟨1700000000, 999999⟩ 250
    (by decide) (by decide) (by decide) (by decide) (by decide)).mpr (by decide)
  exact ⟨by decide, hnsec, (hcalls _ _ hdoc 4 false).2⟩

/-- Half a second after half a second: the deadline has 1000000000 nanoseconds, and the wait never
ends. -/
theorem timed_wait_spins :
    wakeTime ⟨1700000000, 500000⟩ 500 = ⟨1700000000, 1000000000⟩ ∧
      ¬ (wakeTime ⟨1700000000, 500000⟩ 500).tvNsec < 1000000000 ∧
      ∀ condWait timedwait, Documented timedwait → ∀ fuel,
        (wait condWait timedwait ⟨1700000000, 500000⟩ fuel false 500).timeLeft = none ∧
        (wait condWait timedwait ⟨1700000000, 500000⟩ fuel false 500).calls.length = fuel ∧
        ∀ c ∈ (wait condWait timedwait ⟨1700000000, 500000⟩ fuel false 500).calls,
          c.ret = einval := by
  have htime : wakeTime ⟨1700000000, 500000⟩ 500 = ⟨1700000000, 1000000000⟩ := by decide
  have hnsec : ¬ (wakeTime ⟨1700000000, 500000⟩ 500).tvNsec < 1000000000 := by decide
  refine ⟨htime, hnsec, ?_⟩
  intro condWait timedwait hdoc fuel
  exact wait_rejected hdoc condWait (by decide) (fun hvalid => hnsec hvalid.2) fuel

end ConditionVariable

end HdmiCec
