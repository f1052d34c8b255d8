import Mathlib.Tactic.Common

/-!
# Runs of a transition function

A system is given by a partial function `step` that maps a state and a label to the next state.
`Run step ok s t` says that `t` is reached from `s` by steps that all meet the guard `ok`, a
condition on the state before the step and the label. Invariants are proved for runs by
`Run.invariant`, concrete runs are computed by `exec`, `exists_exec_of_rank` says when one label
alone leads to a goal, and `exec_map` carries runs along an abstraction function.
-/

namespace Lib

variable {S L : Type}

/-- `t` is reached from `s` by steps that meet `ok`. -/
inductive Run (step : S → L → Option S) (ok : S → L → Prop) (s : S) : S → Prop
  | refl : Run step ok s s
  | tail {t u : S} {l : L} : Run step ok s t → ok t l → step t l = some u → Run step ok s u

section

variable (step : S → L → Option S) (ok : S → L → Prop) [∀ s l, Decidable (ok s l)]

/-- The state after a list of steps, if they can all be taken and meet `ok`. -/
def exec : S → List L → Option S
  | s, [] => some s
  | s, l :: ls =>
    if ok s l then
      match step s l with
      | none => none
      | some t => exec t ls
    else
      none

/-- The list of steps can be taken and leads to a state that satisfies `p`. -/
def execSat (p : S → Bool) (s : S) (ls : List L) : Bool :=
  match exec step ok s ls with
  | none => false
  | some t => p t

end

/-- The rule of invariants: what one guarded step preserves, a whole run preserves. -/
theorem Run.invariant {step : S → L → Option S} {ok : S → L → Prop} {I : S → Prop} {s t : S}
    (h : Run step ok s t) (hstep : ∀ s l s', ok s l → step s l = some s' → I s → I s')
    (hs : I s) : I t := by
  induction h with
  | refl => exact hs
  | tail _ hok hnext ih => exact hstep _ _ _ hok hnext ih

lemma Run.head {step : S → L → Option S} {ok : S → L → Prop} {s t u : S} {l : L} (hok : ok s l)
    (hnext : step s l = some t) (h : Run step ok t u) : Run step ok s u := by
  induction h with
  | refl => exact .tail .refl hok hnext
  | tail _ hok' hnext' ih => exact .tail ih hok' hnext'

lemma Run.trans {step : S → L → Option S} {ok : S → L → Prop} {s t u : S} (h : Run step ok s t)
    (h' : Run step ok t u) : Run step ok s u := by
  induction h' with
  | refl => exact h
  | tail _ hok hnext ih => exact .tail ih hok hnext

/-- A guard that asks for less allows the same runs. -/
lemma Run.mono {step : S → L → Option S} {ok ok' : S → L → Prop} {s t : S}
    (h : Run step ok s t) (hok : ∀ s l, ok s l → ok' s l) : Run step ok' s t := by
  induction h with
  | refl => exact .refl
  | tail _ hl hnext ih => exact .tail ih (hok _ _ hl) hnext

/-- The rule of variants: steps with the label `l` that can be taken and lower `rank` until the goal
is met lead to it. -/
theorem exists_exec_of_rank {step : S → L → Option S} {ok : S → L → Prop}
    [∀ s l, Decidable (ok s l)] {l : L} {I goal : S → Prop} (rank : S → ℕ)
    (h : ∀ s, I s → ¬ goal s → ok s l ∧ ∃ t, step s l = some t ∧ I t ∧ rank t < rank s) {s : S}
    (hs : I s) : ∃ n t, exec step ok s (List.replicate n l) = some t ∧ goal t := by
  induction hn : rank s using Nat.strongRecOn generalizing s with
  | ind n ih =>
    by_cases hgoal : goal s
    · exact ⟨0, s, rfl, hgoal⟩
    · obtain ⟨hok, t, ht, hI, hlt⟩ := h s hs hgoal
      obtain ⟨m, u, hu, hu'⟩ := ih (rank t) (hn ▸ hlt) hI rfl
      refine ⟨m + 1, u, ?_, hu'⟩
      rw [List.replicate_succ, exec, if_pos hok, ht]
      exact hu

/-- The rule of measures: when every step with a label in `P` lowers `rank`, there are at most
`rank` of them, in whatever order they come. -/
theorem length_add_rank_le {step : S → L → Option S} {P : L → Prop} {I : S → Prop} {rank : S → ℕ}
    (h : ∀ s l t, I s → P l → step s l = some t → I t ∧ rank t < rank s) {ls : List L} :
    ∀ {s t : S}, I s → (∀ l ∈ ls, P l) → exec step (fun _ _ => True) s ls = some t →
      I t ∧ ls.length + rank t ≤ rank s := by
  induction ls with
  | nil =>
    intro s t hs _ hexec
    cases hexec
    exact ⟨hs, by simp⟩
  | cons l ls ih =>
    intro s t hs hls hexec
    simp only [exec, if_true] at hexec
    split at hexec
    · cases hexec
    · rename_i u hu
      obtain ⟨hI, hlt⟩ := h s l u hs (hls l List.mem_cons_self) hu
      obtain ⟨ht, hle⟩ := ih hI (fun l hl => hls l (List.mem_cons_of_mem _ hl)) hexec
      refine ⟨ht, ?_⟩
      rw [List.length_cons]
      omega

/-- The rule of refinement: a step of `step` is one of `step'` on the abstract states, and so is a
whole run. -/
theorem exec_map {T : Type} {step : S → L → Option S} {step' : T → L → Option T} {abs : S → T}
    (h : ∀ s l, (step s l).map abs = step' (abs s) l) (s : S) (ls : List L) :
    (exec step (fun _ _ => True) s ls).map abs = exec step' (fun _ _ => True) (abs s) ls := by
  induction ls generalizing s with
  | nil => rfl
  | cons l ls ih =>
    simp only [exec, if_true, ← h s l]
    cases step s l with
    | none => rfl
    | some t => exact ih t

section

variable {step : S → L → Option S} {ok : S → L → Prop} [∀ s l, Decidable (ok s l)]

/-- A list of steps that can be taken is a run. -/
lemma Run.of_exec {ls : List L} : ∀ {s t : S}, exec step ok s ls = some t → Run step ok s t := by
  induction ls with
  | nil =>
    intro s t h
    cases h
    exact .refl
  | cons l ls ih =>
    intro s t h
    simp only [exec] at h
    split at h
    · rename_i hok
      split at h
      · cases h
      · rename_i u hu
        exact .head hok hu (ih h)
    · cases h

lemma exists_exec_of_execSat {p : S → Bool} {s : S} {ls : List L}
    (h : execSat step ok p s ls = true) : ∃ t, exec step ok s ls = some t ∧ p t = true := by
  simp only [execSat] at h
  split at h
  · cases h
  · rename_i t ht
    exact ⟨t, ht, h⟩

/-- A concrete run to a state that satisfies `p`. -/
lemma Run.of_execSat {p : S → Bool} {s : S} {ls : List L} (h : execSat step ok p s ls = true) :
    ∃ t, Run step ok s t ∧ p t = true := by
  obtain ⟨t, ht, hp⟩ := exists_exec_of_execSat h
  exact ⟨t, .of_exec ht, hp⟩

end

end Lib
