import Mathlib.Data.List.Basic

/-!
# A bounded first-in-first-out queue

What a queue of capacity `cap` may do, as a relation between the log of what was done and the
content that is left. The queue accepts a value unless it is full, gives its first value, and says
that it is vacant when there is none. Two laws follow for every log: the content stays within the
capacity, and no value is lost, repeated or overtaken.
-/

namespace Lib.Fifo

variable {α : Type}

/-- What is done to a queue: a value is accepted or refused, the first value is removed, or there is
none. -/
inductive Event (α : Type) where
  | accepted (a : α)
  | refused (a : α)
  | popped (a : α)
  | vacant
deriving DecidableEq

/-- The values that were accepted, in order. -/
def accepted (log : List (Event α)) : List α :=
  log.filterMap fun
    | .accepted a => some a
    | _ => none

/-- The values that were removed, in order. -/
def popped (log : List (Event α)) : List α :=
  log.filterMap fun
    | .popped a => some a
    | _ => none

/-- `Trace cap xs₀ log xs`: a queue that holds `xs₀` holds `xs` after `log`. -/
inductive Trace (cap : ℕ) (xs₀ : List α) : List (Event α) → List α → Prop
  | nil : Trace cap xs₀ [] xs₀
  | accept {log : List (Event α)} {xs : List α} (a : α) :
      Trace cap xs₀ log xs → xs.length < cap → Trace cap xs₀ (log ++ [.accepted a]) (xs ++ [a])
  | refuse {log : List (Event α)} {xs : List α} (a : α) :
      Trace cap xs₀ log xs → xs.length = cap → Trace cap xs₀ (log ++ [.refused a]) xs
  | pop {log : List (Event α)} {a : α} {xs : List α} :
      Trace cap xs₀ log (a :: xs) → Trace cap xs₀ (log ++ [.popped a]) xs
  | vacant {log : List (Event α)} :
      Trace cap xs₀ log [] → Trace cap xs₀ (log ++ [.vacant]) []

namespace Trace

variable {cap : ℕ} {xs₀ xs : List α} {log : List (Event α)}

/-- The content stays within the capacity. -/
theorem length_le (h : Trace cap xs₀ log xs) (h₀ : xs₀.length ≤ cap) : xs.length ≤ cap := by
  induction h with
  | nil => exact h₀
  | accept a _ hlt _ =>
    rw [List.length_append, List.length_singleton]
    exact hlt
  | refuse a _ _ ih => exact ih
  | pop _ ih => exact Nat.le_of_succ_le ih
  | vacant _ ih => exact ih

/-- What was removed and what is left is what was there and what was accepted, in order. -/
theorem conservation (h : Trace cap xs₀ log xs) : popped log ++ xs = xs₀ ++ accepted log := by
  induction h with
  | nil => simp [popped, accepted]
  | accept a _ _ ih =>
    simp only [popped, accepted, List.filterMap_append] at ih ⊢
    simp [← List.append_assoc, ← ih]
  | refuse a _ _ ih =>
    simp only [popped, accepted, List.filterMap_append] at ih ⊢
    simpa using ih
  | pop _ ih =>
    simp only [popped, accepted, List.filterMap_append] at ih ⊢
    simpa using ih
  | vacant _ ih =>
    simp only [popped, accepted, List.filterMap_append] at ih ⊢
    simpa using ih

/-- Only what was there or was accepted is ever removed. -/
lemma mem_of_popped (h : Trace cap xs₀ log xs) {a : α} (ha : a ∈ popped log) :
    a ∈ xs₀ ∨ a ∈ accepted log := by
  rw [← List.mem_append, ← h.conservation]
  exact List.mem_append_left xs ha

end Trace

end Lib.Fifo
