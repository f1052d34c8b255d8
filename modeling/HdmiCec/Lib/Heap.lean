import Mathlib.Data.Finset.Basic

/-!
# Allocated objects

The operations on objects of the heap: an object is allocated at an address that is not in use, and
only an object that is allocated is used or deleted. Everything else is a fault.

`live.val = owners` says that the objects that are allocated are those that somebody owns, each
once.
-/

namespace Lib

inductive HeapOp where
  | new (a : ℕ)
  | use (a : ℕ)
  | delete (a : ℕ)
deriving DecidableEq

namespace HeapOp

/-- The allocated objects after an operation. `none`: a fault. -/
def run (live : Finset ℕ) : HeapOp → Option (Finset ℕ)
  | new a => if a ∈ live then none else some (insert a live)
  | use a => if a ∈ live then some live else none
  | delete a => if a ∈ live then some (live.erase a) else none

/-- One operation after the other. -/
def runAll (live : Finset ℕ) : List HeapOp → Option (Finset ℕ)
  | [] => some live
  | op :: ops => (op.run live).bind (runAll · ops)

variable {live : Finset ℕ} {owners rest : Multiset ℕ} {a : ℕ}

lemma run_new (hlive : live.val = owners) (ha : a ∉ owners) :
    ∃ live', (new a).run live = some live' ∧ live'.val = a ::ₘ owners := by
  have hnot : a ∉ live := by
    rw [← hlive] at ha
    exact ha
  refine ⟨insert a live, if_neg hnot, ?_⟩
  rw [Finset.insert_val_of_notMem hnot, hlive]

lemma run_use (hlive : live.val = owners) (ha : a ∈ owners) : (use a).run live = some live := by
  rw [← hlive] at ha
  exact if_pos ha

lemma run_delete (hlive : live.val = a ::ₘ rest) :
    ∃ live', (delete a).run live = some live' ∧ live'.val = rest := by
  have ha : a ∈ live := by
    rw [← Finset.mem_val, hlive]
    exact Multiset.mem_cons_self a rest
  refine ⟨live.erase a, if_pos ha, ?_⟩
  rw [Finset.erase_val, hlive, Multiset.erase_cons_head]

/-! ### The patterns of a program -/

/-- A new object is filled and belongs to somebody from then on. -/
lemma runAll_create (hlive : live.val = owners) (ha : a ∉ owners) :
    ∃ live', runAll live [new a, use a] = some live' ∧ live'.val = a ::ₘ owners := by
  obtain ⟨live', hnew, hlive'⟩ := run_new hlive ha
  refine ⟨live', ?_, hlive'⟩
  simp [runAll, hnew, run_use hlive' (Multiset.mem_cons_self a owners)]

/-- A new object is filled and thrown away again. -/
lemma runAll_discard (hlive : live.val = owners) (ha : a ∉ owners) :
    ∃ live', runAll live [new a, use a, delete a] = some live' ∧ live'.val = owners := by
  obtain ⟨live₁, hnew, hlive₁⟩ := run_new hlive ha
  obtain ⟨live₂, hdelete, hlive₂⟩ := run_delete hlive₁
  refine ⟨live₂, ?_, hlive₂⟩
  simp [runAll, hnew, run_use hlive₁ (Multiset.mem_cons_self a owners), hdelete]

lemma runAll_delete (hlive : live.val = a ::ₘ rest) :
    ∃ live', runAll live [delete a] = some live' ∧ live'.val = rest := by
  obtain ⟨live', hdelete, hlive'⟩ := run_delete hlive
  exact ⟨live', by simp [runAll, hdelete], hlive'⟩

/-- An object is used for the last time. -/
lemma runAll_consume (hlive : live.val = a ::ₘ rest) :
    ∃ live', runAll live [use a, delete a] = some live' ∧ live'.val = rest := by
  obtain ⟨live', hdelete, hlive'⟩ := run_delete hlive
  exact ⟨live', by simp [runAll, run_use hlive (Multiset.mem_cons_self a rest), hdelete], hlive'⟩

end HeapOp

end Lib
