import Mathlib.Data.List.Count
import Mathlib.Data.List.GetD
import Mathlib.Logic.Function.Basic
import Mathlib.Logic.Relation
import HdmiCec.Lib.Transition

/-!
# Threads and mutexes

Code as far as it matters to mutexes and shared variables: the scopes of lock guards, reads and
writes, branches and loops whose conditions are left open, and exceptions, which release on their
way out what the scopes they leave have locked. Any number of threads run such code; the mutexes are
recursive.

A check of the code, point by point, with the mutexes that are held there, is sound for every run
(`Threads.checked_of_run`). Two checks are used: mutexes locked in an order, which excludes
deadlocks, and variables with mutexes that guard them, which excludes races.
-/

namespace Lib

/-! ### Code -/

/-- Code that locks the mutexes `M` and shares the variables `V`. -/
inductive Code (M V : Type) where
  | skip
  | seq (a b : Code M V)
  /-- a branch that the outside decides -/
  | choose (f : ℕ → Code M V)
  | loop (a : Code M V)
  /-- a scope with a guard for the mutex `m` -/
  | scope (m : M) (a : Code M V)
  | read (x : V)
  | write (x : V)
  /-- a wait that ends when somebody else wants it to -/
  | pause
  | raise
  /-- `a` with the handler `b` -/
  | attempt (a b : Code M V)

namespace Code

variable {M V : Type}

/-- One piece of code after the other. -/
def block : List (Code M V) → Code M V
  | [] => skip
  | a :: as => seq a (block as)

/-- One of the pieces of code. -/
def oneOf (as : List (Code M V)) : Code M V := choose fun n => as.getD n skip

/-- The code may be left out. -/
def opt (a : Code M V) : Code M V := oneOf [a]

def mayRaise : Code M V := opt raise

end Code

/-- What a thread is about to do. -/
inductive Act (M V : Type) where
  | lock (m : M)
  | read (x : V)
  | write (x : V)
  | pause
deriving DecidableEq

/-- The stack of a thread: code to run, scopes to leave, handlers. -/
inductive Frame (M V : Type) where
  | run (a : Code M V)
  | unlock (m : M)
  | handler (b : Code M V)

namespace Frame

variable {M V : Type}

/-- The mutexes of the scopes that a thread is in. -/
def held : List (Frame M V) → List M
  | [] => []
  | run _ :: k | handler _ :: k => held k
  | unlock m :: k => m :: held k

/-- What the thread is about to do, if it concerns the others. -/
def act : List (Frame M V) → Option (Act M V)
  | run (.scope m _) :: _ => some (.lock m)
  | run (.read x) :: _ => some (.read x)
  | run (.write x) :: _ => some (.write x)
  | run .pause :: _ => some .pause
  | _ => none

end Frame

/-! ### Threads -/

/-- The stacks of the threads, and for each mutex its owner and how often it is locked. -/
structure Threads (M V : Type) where
  stack : ℕ → List (Frame M V)
  mutexes : M → Option (ℕ × ℕ)

namespace Threads

variable {M V : Type}

/-- Thread `i` is about to run `code i`. -/
def init (code : ℕ → Code M V) : Threads M V := ⟨fun i => [.run (code i)], fun _ => none⟩

def goto (s : Threads M V) (i : ℕ) (k : List (Frame M V)) : Threads M V :=
  { s with stack := Function.update s.stack i k }

variable [DecidableEq M]

/-- Thread `i` locks `m`. `none`: it has to wait. -/
def lock (s : Threads M V) (i : ℕ) (m : M) : Option (Threads M V) :=
  match s.mutexes m with
  | none => some { s with mutexes := Function.update s.mutexes m (some (i, 1)) }
  | some (j, d) =>
    if j = i then some { s with mutexes := Function.update s.mutexes m (some (i, d + 1)) } else none

/-- The owner of `m` unlocks it once. -/
def unlock (s : Threads M V) (m : M) : Threads M V :=
  match s.mutexes m with
  | some (j, d + 2) => { s with mutexes := Function.update s.mutexes m (some (j, d + 1)) }
  | _ => { s with mutexes := Function.update s.mutexes m none }

/-- An exception leaves one frame. -/
def unwind (s : Threads M V) (i : ℕ) : List (Frame M V) → Threads M V
  | [] => s.goto i []
  | .run _ :: k => s.goto i (.run .raise :: k)
  | .unlock m :: k => (s.unlock m).goto i (.run .raise :: k)
  | .handler b :: k => s.goto i (.run b :: k)

/-- Thread `i` runs `a` with `k` after it; `n` decides branches and loops. -/
def run (s : Threads M V) (i n : ℕ) (k : List (Frame M V)) : Code M V → Option (Threads M V)
  | .skip | .read _ | .write _ | .pause => some (s.goto i k)
  | .seq a b => some (s.goto i (.run a :: .run b :: k))
  | .choose f => some (s.goto i (.run (f n) :: k))
  | .loop a => some (s.goto i (if n = 0 then k else .run a :: .run (.loop a) :: k))
  | .scope m a => (s.lock i m).map fun s' => s'.goto i (.run a :: .unlock m :: k)
  | .raise => some (s.unwind i k)
  | .attempt a b => some (s.goto i (.run a :: .handler b :: k))

/-- A step of thread `i`. -/
def step (s : Threads M V) : ℕ × ℕ → Option (Threads M V)
  | (i, n) =>
    match s.stack i with
    | [] => none
    | .run a :: k => s.run i n k a
    | .unlock m :: k => some ((s.unlock m).goto i k)
    | .handler _ :: k => some (s.goto i k)

end Threads

/-! ### Checking code -/

section Checking

variable {M V : Type} (check : List M → Act M V → Prop)

/-- Whatever the code does is in order with the mutexes that are held there. -/
def Code.Checked : List M → Code M V → Prop
  | _, .skip | _, .raise => True
  | held, .seq a b | held, .attempt a b => a.Checked held ∧ b.Checked held
  | held, .choose f => ∀ n, (f n).Checked held
  | held, .loop a => a.Checked held
  | held, .scope m a => check held (.lock m) ∧ a.Checked (m :: held)
  | held, .read x => check held (.read x)
  | held, .write x => check held (.write x)
  | held, .pause => check held .pause

variable {check} in
lemma Code.Checked.mono {check' : List M → Act M V → Prop} {a : Code M V} {held : List M}
    (h : a.Checked check held) (hcheck : ∀ held x, check held x → check' held x) :
    a.Checked check' held := by
  induction a generalizing held with
  | skip | raise => trivial
  | seq a b iha ihb | attempt a b iha ihb => exact ⟨iha h.1, ihb h.2⟩
  | choose f ih => exact fun n => ih n (h n)
  | loop a ih => exact @ih held h
  | scope m a ih => exact ⟨hcheck _ _ h.1, ih h.2⟩
  | read | write | pause => exact hcheck _ _ h

@[simp] lemma Code.checked_block (held : List M) (as : List (Code M V)) :
    (Code.block as).Checked check held ↔ ∀ a ∈ as, a.Checked check held := by
  induction as with
  | nil => simp [Code.block, Code.Checked]
  | cons a as ih => simp [Code.block, Code.Checked, ih]

@[simp] lemma Code.checked_oneOf (held : List M) (as : List (Code M V)) :
    (Code.oneOf as).Checked check held ↔ ∀ a ∈ as, a.Checked check held := by
  constructor
  · intro h a ha
    obtain ⟨n, hn, rfl⟩ := List.getElem_of_mem ha
    have hcode : (as.getD n skip).Checked check held := h n
    rwa [List.getD_eq_getElem _ _ hn] at hcode
  · intro h n
    change (as.getD n skip).Checked check held
    rcases Nat.lt_or_ge n as.length with hn | hn
    · rw [List.getD_eq_getElem _ _ hn]
      exact h _ (List.getElem_mem hn)
    · rw [List.getD_eq_default _ _ hn]
      trivial

@[simp] lemma Code.checked_opt (held : List M) (a : Code M V) :
    (Code.opt a).Checked check held ↔ a.Checked check held := by
  simp [Code.opt]

@[simp] lemma Code.checked_mayRaise (held : List M) :
    (Code.mayRaise : Code M V).Checked check held := by
  simp [Code.mayRaise, Code.Checked]

/-- The same for what is on a stack. -/
def Frame.Checked : List (Frame M V) → Prop
  | [] => True
  | .run a :: k | .handler a :: k => a.Checked check (Frame.held k) ∧ Frame.Checked k
  | .unlock _ :: k => Frame.Checked k

variable {check}

lemma Frame.Checked.act {k : List (Frame M V)} {x : Act M V} (h : Frame.Checked check k)
    (hx : Frame.act k = some x) : check (Frame.held k) x := by
  unfold Frame.act at hx
  split at hx
  · cases hx
    exact h.1.1
  · cases hx
    exact h.1
  · cases hx
    exact h.1
  · cases hx
    exact h.1
  · cases hx

end Checking

/-! ### What a step does -/

namespace Threads

variable {M V : Type} [DecidableEq M] {s s' : Threads M V} {i n : ℕ}

/-- How often thread `i` has locked `m`. -/
def depth (s : Threads M V) (i : ℕ) (m : M) : ℕ :=
  match s.mutexes m with
  | some (j, d) => if j = i then d else 0
  | none => 0

/-- The steps of thread `i`: it moves on, or it enters or leaves a scope. -/
inductive Step (s : Threads M V) (i : ℕ) : Threads M V → Prop
  | goto {k : List (Frame M V)} : Frame.held k = Frame.held (s.stack i) →
      (∀ check, Frame.Checked check (s.stack i) → Frame.Checked check k) → Step s i (s.goto i k)
  | lock {m : M} {k : List (Frame M V)} : Frame.held k = m :: Frame.held (s.stack i) →
      (∀ check, Frame.Checked check (s.stack i) → Frame.Checked check k) →
      (∀ j d, s.mutexes m = some (j, d) → j = i) →
      Step s i ({ s with
        mutexes := Function.update s.mutexes m (some (i, s.depth i m + 1)) }.goto i k)
  | unlock {m : M} {k : List (Frame M V)} : Frame.held (s.stack i) = m :: Frame.held k →
      (∀ check, Frame.Checked check (s.stack i) → Frame.Checked check k) →
      Step s i ((s.unlock m).goto i k)

lemma lock_eq_some {m : M} (h : s.lock i m = some s') :
    (∀ j d, s.mutexes m = some (j, d) → j = i) ∧
      s' = { s with mutexes := Function.update s.mutexes m (some (i, s.depth i m + 1)) } := by
  unfold lock at h
  unfold depth
  split at h
  · rename_i hfree
    cases h
    simp [hfree]
  · rename_i j d hmutex
    split at h
    · rename_i hj
      cases h
      simp [hmutex, hj]
    · cases h

lemma Step.of_unwind {k : List (Frame M V)} (h : s.stack i = .run .raise :: k) :
    Step s i (s.unwind i k) := by
  have hheld : Frame.held (s.stack i) = Frame.held k := by rw [h]; rfl
  have hchecked : ∀ check, Frame.Checked check (s.stack i) → Frame.Checked check k := by
    intro check hs
    rw [h] at hs
    exact hs.2
  cases k with
  | nil => exact .goto hheld.symm hchecked
  | cons f k =>
    cases f with
    | run a => exact .goto hheld.symm fun check hs => ⟨trivial, (hchecked check hs).2⟩
    | unlock m => exact .unlock hheld fun check hs => ⟨trivial, hchecked check hs⟩
    | handler b => exact .goto hheld.symm hchecked

lemma Step.of_run {k : List (Frame M V)} {a : Code M V} (hk : s.stack i = .run a :: k)
    (h : s.run i n k a = some s') : Step s i s' := by
  have hheld : Frame.held k = Frame.held (s.stack i) := by rw [hk]; rfl
  have hchecked : ∀ check, Frame.Checked check (s.stack i) →
      a.Checked check (Frame.held k) ∧ Frame.Checked check k := by
    intro check hs
    rwa [hk] at hs
  cases a with
  | skip | read | write | pause =>
    cases h
    exact .goto hheld fun check hs => (hchecked check hs).2
  | seq a b =>
    cases h
    refine .goto hheld fun check hs => ?_
    obtain ⟨⟨ha, hb⟩, hk⟩ := hchecked check hs
    exact ⟨ha, hb, hk⟩
  | choose f =>
    cases h
    refine .goto hheld fun check hs => ?_
    obtain ⟨hf, hk⟩ := hchecked check hs
    exact ⟨hf n, hk⟩
  | loop a =>
    cases h
    split
    · exact .goto hheld fun check hs => (hchecked check hs).2
    · refine .goto hheld fun check hs => ?_
      obtain ⟨ha, hk⟩ := hchecked check hs
      exact ⟨ha, ha, hk⟩
  | scope m a =>
    obtain ⟨u, hu, rfl⟩ := Option.map_eq_some_iff.mp h
    obtain ⟨hown, rfl⟩ := lock_eq_some hu
    refine .lock (by rw [← hheld]; rfl) (fun check hs => ?_) hown
    obtain ⟨⟨-, ha⟩, hk⟩ := hchecked check hs
    exact ⟨ha, hk⟩
  | raise =>
    cases h
    exact .of_unwind hk
  | attempt a b =>
    cases h
    refine .goto hheld fun check hs => ?_
    obtain ⟨⟨ha, hb⟩, hk⟩ := hchecked check hs
    exact ⟨ha, hb, hk⟩

/-- Every step is one of these. -/
lemma Step.of_step {l : ℕ × ℕ} (h : s.step l = some s') : Step s l.1 s' := by
  obtain ⟨i, n⟩ := l
  simp only [step] at h
  split at h
  · cases h
  · rename_i a k hk
    exact .of_run hk h
  · rename_i m k hk
    cases h
    refine .unlock (by rw [hk]; rfl) fun check hs => ?_
    rwa [hk] at hs
  · rename_i b k hk
    cases h
    refine .goto (by rw [hk]; rfl) fun check hs => ?_
    rw [hk] at hs
    exact hs.2

/-! ### Owners -/

/-- A mutex is locked as often as its owner is in a scope of it, and not by anybody else. -/
structure Owned (s : Threads M V) : Prop where
  count_eq : ∀ i m, (Frame.held (s.stack i)).count m = s.depth i m
  depth_ne : ∀ m i, s.mutexes m ≠ some (i, 0)

lemma owned_init (code : ℕ → Code M V) : Owned (init code) where
  count_eq _ _ := rfl
  depth_ne _ _ h := by cases h

lemma Owned.mutexes_eq {m : M} (h : Owned s) (hm : m ∈ Frame.held (s.stack i)) :
    ∃ d, s.mutexes m = some (i, d + 1) := by
  have hpos := List.count_pos_iff.mpr hm
  rw [h.count_eq, depth] at hpos
  split at hpos
  · rename_i j d hmutex
    split at hpos
    · rename_i hj
      subst hj
      obtain ⟨d, rfl⟩ := Nat.exists_eq_succ_of_ne_zero (Nat.ne_of_gt hpos)
      exact ⟨d, hmutex⟩
    · cases hpos
  · cases hpos

lemma Owned.mem_held {m : M} {d : ℕ} (h : Owned s) (hm : s.mutexes m = some (i, d)) :
    m ∈ Frame.held (s.stack i) := by
  rw [← List.count_pos_iff, h.count_eq, depth, hm]
  simp only [if_true]
  exact Nat.pos_of_ne_zero fun hd => h.depth_ne m i (hd ▸ hm)

/-- Two threads are not in scopes of the same mutex. -/
theorem Owned.exclusive {m : M} {j : ℕ} (h : Owned s) (hi : m ∈ Frame.held (s.stack i))
    (hj : m ∈ Frame.held (s.stack j)) : i = j := by
  obtain ⟨d, hd⟩ := h.mutexes_eq hi
  obtain ⟨d', hd'⟩ := h.mutexes_eq hj
  rw [hd] at hd'
  cases hd'
  rfl

omit [DecidableEq M] in
lemma stack_goto_self (s : Threads M V) (i : ℕ) (k : List (Frame M V)) :
    (s.goto i k).stack i = k := Function.update_self ..

omit [DecidableEq M] in
lemma stack_goto_of_ne (s : Threads M V) {i j : ℕ} (k : List (Frame M V)) (h : j ≠ i) :
    (s.goto i k).stack j = s.stack j := Function.update_of_ne h ..

/-- The count of a mutex after one of its scopes was entered. -/
lemma Owned.lock {m : M} {k : List (Frame M V)} (h : Owned s)
    (hheld : Frame.held k = m :: Frame.held (s.stack i))
    (hown : ∀ j d, s.mutexes m = some (j, d) → j = i) :
    Owned ({ s with
      mutexes := Function.update s.mutexes m (some (i, s.depth i m + 1)) }.goto i k) := by
  refine ⟨fun j m' => ?_, fun m' j hm' => ?_⟩
  · have hcount : (Frame.held (s.stack j)).count m' = s.depth j m' := h.count_eq j m'
    by_cases hj : j = i
    · subst hj
      rw [stack_goto_self, hheld]
      by_cases hm : m' = m
      · subst hm
        simp [List.count_cons_self, hcount, depth, goto]
      · have hne : m ≠ m' := fun heq => hm heq.symm
        rw [List.count_cons_of_ne hne, hcount]
        simp [depth, goto, Function.update_of_ne hm]
    · rw [stack_goto_of_ne _ _ hj]
      change (Frame.held (s.stack j)).count m' = _
      rw [hcount]
      by_cases hm : m' = m
      · subst hm
        have hne : i ≠ j := fun heq => hj heq.symm
        have hzero : s.depth j m' = 0 := by
          unfold depth
          split
          · rename_i j' d hmutex
            rw [hown j' d hmutex, if_neg hne]
          · rfl
        rw [hzero]
        simp [depth, goto, hne]
      · simp [depth, goto, Function.update_of_ne hm]
  · by_cases hm : m' = m
    · subst hm
      simp [goto] at hm'
    · exact h.depth_ne m' j (by simpa [goto, Function.update_of_ne hm] using hm')

lemma unlock_eq {m : M} {d : ℕ} (h : s.mutexes m = some (i, d + 1)) :
    s.unlock m = { s with
      mutexes := Function.update s.mutexes m (if d = 0 then none else some (i, d)) } := by
  unfold unlock
  rw [h]
  cases d with
  | zero => rfl
  | succ d => rfl

/-- The count of a mutex after one of its scopes was left. -/
lemma Owned.unlock {m : M} {k : List (Frame M V)} (h : Owned s)
    (hheld : Frame.held (s.stack i) = m :: Frame.held k) : Owned ((s.unlock m).goto i k) := by
  obtain ⟨d, hd⟩ := h.mutexes_eq (m := m) (i := i) (by rw [hheld]; exact List.mem_cons_self)
  rw [unlock_eq hd]
  refine ⟨fun j m' => ?_, fun m' j hm' => ?_⟩
  · have hcount : (Frame.held (s.stack j)).count m' = s.depth j m' := h.count_eq j m'
    by_cases hj : j = i
    · subst hj
      rw [stack_goto_self]
      rw [hheld] at hcount
      by_cases hm : m' = m
      · subst hm
        rw [List.count_cons_self, depth, hd] at hcount
        simp only [if_true, Nat.add_right_cancel_iff] at hcount
        rw [hcount]
        cases d <;> simp [depth, goto]
      · have hne : m ≠ m' := fun heq => hm heq.symm
        rw [List.count_cons_of_ne hne] at hcount
        rw [hcount]
        simp [depth, goto, Function.update_of_ne hm]
    · rw [stack_goto_of_ne _ _ hj]
      change (Frame.held (s.stack j)).count m' = _
      rw [hcount]
      by_cases hm : m' = m
      · subst hm
        have hne : i ≠ j := fun heq => hj heq.symm
        cases d <;> simp [depth, goto, hd, hne]
      · simp [depth, goto, Function.update_of_ne hm]
  · by_cases hm : m' = m
    · subst hm
      cases d <;> simp [goto] at hm'
    · exact h.depth_ne m' j (by simpa [goto, Function.update_of_ne hm] using hm')

lemma Owned.step (h : Owned s) (hstep : Step s i s') : Owned s' := by
  cases hstep with
  | @goto k hheld _ =>
    refine ⟨fun j m => ?_, h.depth_ne⟩
    have hcount : (Frame.held (s.stack j)).count m = s.depth j m := h.count_eq j m
    by_cases hj : j = i
    · subst hj
      rw [stack_goto_self, hheld]
      exact hcount
    · rw [stack_goto_of_ne _ _ hj]
      exact hcount
  | lock hheld _ hown => exact h.lock hheld hown
  | unlock hheld _ => exact h.unlock hheld

/-- Mutexes have owners in every run. -/
theorem owned_of_run {code : ℕ → Code M V} {ok : Threads M V → ℕ × ℕ → Prop}
    (h : Run step ok (init code) s) : Owned s := by
  apply h.invariant _ (owned_init code)
  intro s l s' _ hstep hs
  exact hs.step (.of_step hstep)

/-! ### The check is sound -/

lemma checked_step {check : List M → Act M V → Prop} (hstep : Step s i s')
    (h : ∀ j, Frame.Checked check (s.stack j)) (j : ℕ) : Frame.Checked check (s'.stack j) := by
  by_cases hj : j = i
  · subst hj
    cases hstep with
    | goto _ hchecked | lock _ hchecked _ | unlock _ hchecked =>
      rw [stack_goto_self]
      exact hchecked check (h j)
  · cases hstep with
    | goto | lock =>
      rw [stack_goto_of_ne _ _ hj]
      exact h j
    | unlock =>
      rw [stack_goto_of_ne _ _ hj, show ∀ m, (s.unlock m).stack = s.stack from fun m => by
        unfold unlock
        split <;> rfl]
      exact h j

/-- What is checked on the code holds of every thread in every run. -/
theorem checked_of_run {check : List M → Act M V → Prop} {code : ℕ → Code M V}
    {ok : Threads M V → ℕ × ℕ → Prop} (hcode : ∀ i, (code i).Checked check [])
    (h : Run step ok (init code) s) (i : ℕ) : Frame.Checked check (s.stack i) := by
  refine h.invariant (I := fun s => ∀ i, Frame.Checked check (s.stack i)) ?_ ?_ i
  · intro s l s' _ hstep hs
    exact checked_step (.of_step hstep) hs
  · exact fun i => ⟨hcode i, trivial⟩

/-! ### Deadlocks -/

/-- Thread `i` is about to lock a mutex that thread `j` has locked. -/
def WaitsFor (s : Threads M V) (i j : ℕ) : Prop :=
  ∃ m d, Frame.act (s.stack i) = some (.lock m) ∧ s.mutexes m = some (j, d) ∧ j ≠ i

/-- A thread that waits for nobody can go on. -/
lemma exists_step_of_not_waitsFor (h : ∀ j, ¬ s.WaitsFor i j) (hi : s.stack i ≠ []) :
    ∃ s', s.step (i, 0) = some s' := by
  rw [← Option.isSome_iff_exists]
  simp only [step]
  split
  · rename_i hnil
    exact absurd hnil hi
  · rename_i a k hk
    cases a with
    | scope m a =>
      simp only [run, lock, Option.isSome_map]
      split
      · rfl
      · rename_i j d hmutex
        have hj : j = i := by
          by_contra hne
          exact h j ⟨m, d, by rw [hk]; rfl, hmutex, hne⟩
        rw [if_pos hj]
        rfl
    | _ => rfl
  · rfl
  · rfl

section Order

variable (rank : M → ℕ) (gate : ℕ → Option M)

/-- A mutex is locked by a thread that has locked it before, or when all that the thread has locked
are of a lower rank. Mutexes of one rank may be locked one inside the other with the gate of the
rank. -/
def InOrder (held : List M) : Act M V → Prop
  | .lock m => m ∈ held ∨
      ∀ m' ∈ held, rank m' < rank m ∨ rank m' = rank m ∧ ∃ g ∈ gate (rank m), g ∈ held
  | .read _ | .write _ | .pause => True

/-- The rank of the mutex that a thread is about to lock, higher with the gate of the rank. -/
def level (k : List (Frame M V)) : ℕ :=
  match Frame.act k with
  | some (.lock m) =>
    2 * rank m + (gate (rank m)).elim 0 fun g => if g ∈ Frame.held k then 1 else 0
  | _ => 0

lemma level_of_lock {k : List (Frame M V)} {m : M} (h : Frame.act k = some (.lock m)) :
    2 * rank m ≤ level rank gate k ∧ level rank gate k ≤ 2 * rank m + 1 := by
  simp only [level, h]
  cases gate (rank m) with
  | none => simp
  | some g =>
    simp only [Option.elim]
    split <;> omega

variable {rank gate}

lemma level_of_gate {k : List (Frame M V)} {m g : M} (h : Frame.act k = some (.lock m))
    (hg : g ∈ gate (rank m)) :
    level rank gate k = 2 * rank m + if g ∈ Frame.held k then 1 else 0 := by
  simp only [level, h, Option.mem_def.mp hg, Option.elim]

/-- Along a chain of threads that wait the level rises. -/
lemma level_lt {j k : ℕ} (howned : Owned s)
    (horder : Frame.Checked (InOrder rank gate) (s.stack j)) (hij : s.WaitsFor i j)
    (hjk : s.WaitsFor j k) : level rank gate (s.stack i) < level rank gate (s.stack j) := by
  obtain ⟨m, d, hi, hm, hji⟩ := hij
  obtain ⟨m', d', hj, hm', hkj⟩ := hjk
  have hheld : m ∈ Frame.held (s.stack j) := howned.mem_held hm
  have hi' := level_of_lock rank gate hi
  have hj' := level_of_lock rank gate hj
  rcases horder.act hj with hmem | hbelow
  · -- a mutex that the thread has locked itself does not keep it waiting
    obtain ⟨d'', hd''⟩ := howned.mutexes_eq hmem
    rw [hm'] at hd''
    cases hd''
    exact absurd rfl hkj
  · rcases hbelow m hheld with hlt | ⟨heq, g, hg, hgheld⟩
    · omega
    · -- the gate is not held by the thread that waits
      have hgi : g ∉ Frame.held (s.stack i) := fun hgi => hji (howned.exclusive hgheld hgi)
      rw [level_of_gate hj hg, if_pos hgheld, level_of_gate hi (heq ▸ hg), if_neg hgi]
      omega

/-- From every thread a chain of threads that wait leads to one that does not. -/
theorem exists_not_waitsFor {bound : ℕ} (hrank : ∀ m, rank m ≤ bound) (howned : Owned s)
    (horder : ∀ i, Frame.Checked (InOrder rank gate) (s.stack i)) (i : ℕ) :
    ∃ j, Relation.ReflTransGen s.WaitsFor i j ∧ ∀ k, ¬ s.WaitsFor j k := by
  induction hn : 2 * bound + 1 - level rank gate (s.stack i) using Nat.strongRecOn
    generalizing i with
  | ind n ih =>
    by_cases hi : ∃ j, s.WaitsFor i j
    · obtain ⟨j, hij⟩ := hi
      by_cases hj : ∃ k, s.WaitsFor j k
      · obtain ⟨k, hjk⟩ := hj
        have hlt := level_lt howned (horder j) hij hjk
        obtain ⟨m, d, hact, -⟩ := hjk
        have hle := (level_of_lock rank gate hact).2
        have hbound := hrank m
        obtain ⟨l, hjl, hl⟩ := ih _ (by omega) j rfl
        exact ⟨l, .head hij hjl, hl⟩
      · exact ⟨j, .single hij, fun k hk => hj ⟨k, hk⟩⟩
    · exact ⟨i, .refl, fun j hj => hi ⟨j, hj⟩⟩

/-- Code that locks mutexes in order does not deadlock: from every thread that has not ended a chain
of threads that wait leads to one that can go on. -/
theorem no_deadlock {bound : ℕ} {code : ℕ → Code M V} {ok : Threads M V → ℕ × ℕ → Prop}
    (hrank : ∀ m, rank m ≤ bound) (hcode : ∀ i, (code i).Checked (InOrder rank gate) [])
    (h : Run step ok (init code) s) (hi : s.stack i ≠ []) :
    ∃ j, Relation.ReflTransGen s.WaitsFor i j ∧ ∃ s', s.step (j, 0) = some s' := by
  have howned := owned_of_run h
  obtain ⟨j, hij, hj⟩ := exists_not_waitsFor hrank howned (checked_of_run hcode h) i
  refine ⟨j, hij, exists_step_of_not_waitsFor hj ?_⟩
  cases hij with
  | refl => exact hi
  | tail _ hwait =>
    obtain ⟨m, d, -, hm, -⟩ := hwait
    have hmem := howned.mem_held hm
    intro hnil
    rw [hnil] at hmem
    cases hmem

end Order

/-! ### Races -/

/-- Two threads are about to access `x`, and one of them writes it. -/
def Races (s : Threads M V) (x : V) : Prop :=
  ∃ i j, i ≠ j ∧ Frame.act (s.stack i) = some (.write x) ∧
    (Frame.act (s.stack j) = some (.write x) ∨ Frame.act (s.stack j) = some (.read x))

/-- A variable is written with all mutexes that guard it and read with one of them. A variable
without guards is left alone. -/
def Guarded (guards : V → List M) (held : List M) : Act M V → Prop
  | .read x => guards x = [] ∨ ∃ m ∈ guards x, m ∈ held
  | .write x => ∀ m ∈ guards x, m ∈ held
  | .lock _ | .pause => True

/-- There is no race for a variable that is guarded. -/
theorem no_race {guards : V → List M} {code : ℕ → Code M V} {ok : Threads M V → ℕ × ℕ → Prop}
    (hcode : ∀ i, (code i).Checked (Guarded guards) []) (h : Run step ok (init code) s) {x : V}
    (hx : guards x ≠ []) : ¬ s.Races x := by
  rintro ⟨i, j, hne, hi, hj⟩
  have howned := owned_of_run h
  have hwrite : ∀ m ∈ guards x, m ∈ Frame.held (s.stack i) := (checked_of_run hcode h i).act hi
  have hshared : ∃ m ∈ guards x, m ∈ Frame.held (s.stack j) := by
    rcases hj with hj | hj
    · obtain ⟨m, ms, hms⟩ := List.exists_cons_of_ne_nil hx
      have hm : m ∈ guards x := by simp [hms]
      exact ⟨m, hm, (checked_of_run hcode h j).act hj m hm⟩
    · exact ((checked_of_run hcode h j).act hj).resolve_left hx
  obtain ⟨m, hm, hmj⟩ := hshared
  exact hne (howned.exclusive (hwrite m hm) hmj)

end Threads

end Lib
