import Mathlib.Tactic.Common

/-!
# Trying again

A loop that tries until it succeeds, at most `budget` times more after the first. Whether the `n`th
try succeeds is given by a sequence; the loop may begin anywhere in it.
-/

namespace Lib.Retry

/-- The number of tries made from the `n`th on. -/
def made (succeeds : ℕ → Bool) : (budget n : ℕ) → ℕ
  | 0, _ => 1
  | budget + 1, n => if succeeds n then 1 else made succeeds budget (n + 1) + 1

variable {succeeds : ℕ → Bool} {budget n : ℕ}

lemma made_succ_of_succeeds (h : succeeds n = true) : made succeeds (budget + 1) n = 1 := by
  rw [made, if_pos h]

lemma made_succ_of_fails (h : succeeds n = false) :
    made succeeds (budget + 1) n = made succeeds budget (n + 1) + 1 := by
  rw [made, if_neg (by rw [h]; decide)]

lemma made_pos (succeeds : ℕ → Bool) (budget n : ℕ) : 1 ≤ made succeeds budget n := by
  cases budget with
  | zero => exact Nat.le_refl _
  | succ budget =>
    rw [made]
    split
    · exact Nat.le_refl _
    · exact Nat.le_add_left 1 _

lemma made_le (succeeds : ℕ → Bool) (budget n : ℕ) : made succeeds budget n ≤ budget + 1 := by
  induction budget generalizing n with
  | zero => exact Nat.le_refl _
  | succ budget ih =>
    rw [made]
    split
    · exact Nat.le_add_left 1 _
    · exact Nat.succ_le_succ (ih (n + 1))

/-- All tries but the last have failed. -/
lemma fails_of_lt_made {i : ℕ} (h : i + 1 < made succeeds budget n) : succeeds (n + i) = false := by
  induction budget generalizing n i with
  | zero => exact absurd h (by simp [made])
  | succ budget ih =>
    cases hn : succeeds n with
    | true => exact absurd h (by simp [made_succ_of_succeeds hn])
    | false =>
      rw [made_succ_of_fails hn] at h
      cases i with
      | zero => exact hn
      | succ i =>
        rw [Nat.add_comm i 1, ← Nat.add_assoc]
        exact ih (Nat.lt_of_succ_lt_succ h)

/-- The last try succeeds exactly when one of those that the budget allows does. -/
lemma succeeds_last_iff (succeeds : ℕ → Bool) (budget n : ℕ) :
    succeeds (n + (made succeeds budget n - 1)) = true ↔
      ∃ i < budget + 1, succeeds (n + i) = true := by
  induction budget generalizing n with
  | zero =>
    constructor
    · intro h
      exact ⟨0, Nat.one_pos, h⟩
    · rintro ⟨i, hi, h⟩
      obtain rfl : i = 0 := Nat.lt_one_iff.mp hi
      exact h
  | succ budget ih =>
    cases hn : succeeds n with
    | true =>
      rw [made_succ_of_succeeds hn]
      exact iff_of_true hn ⟨0, Nat.succ_pos _, hn⟩
    | false =>
      have hpos := made_pos succeeds budget (n + 1)
      have hlast : n + (made succeeds (budget + 1) n - 1) =
          n + 1 + (made succeeds budget (n + 1) - 1) := by
        rw [made_succ_of_fails hn]
        omega
      rw [hlast, ih (n + 1)]
      constructor
      · rintro ⟨i, hi, h⟩
        exact ⟨i + 1, Nat.succ_lt_succ hi, by rwa [Nat.add_comm i 1, ← Nat.add_assoc]⟩
      · rintro ⟨i, hi, h⟩
        cases i with
        | zero => exact absurd (hn.symm.trans h) (by decide)
        | succ i =>
          exact ⟨i, Nat.lt_of_succ_lt_succ hi, by rwa [Nat.add_assoc, Nat.add_comm 1 i]⟩

/-- When all fail, all that the budget allows are made. -/
lemma made_eq_of_fails (h : ∀ i < budget + 1, succeeds (n + i) = false) :
    made succeeds budget n = budget + 1 := by
  induction budget generalizing n with
  | zero => rfl
  | succ budget ih =>
    have hfirst : succeeds n = false := h 0 (Nat.succ_pos _)
    rw [made_succ_of_fails hfirst, ih]
    intro i hi
    rw [Nat.add_assoc, Nat.add_comm 1 i]
    exact h (i + 1) (Nat.succ_lt_succ hi)

end Lib.Retry
