import Mathlib.Data.List.Count
import Mathlib.Data.List.Induction
import Mathlib.Data.Prod.Basic

/-!
# Lists kept by a history of events

A list that is changed by events of type `H`: an event removes every occurrence of some elements,
and may then append one. `Edits` says what each event removes and adds, and `content` is the list
after a history. The content is what was added and not removed since, in the order of the additions,
and an element occurs in it as often as it was added since it was last removed.
-/

namespace Lib

variable {H α : Type}

/-- The number of events with `p` since the last one with `q`. -/
def countSince (p q : H → Bool) (history : List H) : ℕ :=
  (history.reverse.takeWhile fun e => !q e).countP p

lemma countSince_concat (p q : H → Bool) (history : List H) (e : H) :
    countSince p q (history ++ [e]) =
      if q e then 0 else countSince p q history + if p e then 1 else 0 := by
  by_cases hq : q e
  · simp [countSince, hq]
  · simp [countSince, hq, List.countP_cons]

/-- Only the events of the history matter. -/
lemma countSince_congr {p p' q q' : H → Bool} {history : List H}
    (hp : ∀ e ∈ history, p e = p' e) (hq : ∀ e ∈ history, q e = q' e) :
    countSince p q history = countSince p' q' history := by
  induction history using List.reverseRecOn with
  | nil => rfl
  | append_singleton es e ih =>
    have hmem : e ∈ es ++ [e] := List.mem_append_right _ (List.mem_singleton_self e)
    rw [countSince_concat, countSince_concat, hp e hmem, hq e hmem, ih]
    · exact fun e' he' => hp e' (List.mem_append_left _ he')
    · exact fun e' he' => hq e' (List.mem_append_left _ he')

/-- What the events of a history do to a list. No event removes what it adds. -/
structure Edits (H α : Type) where
  adds : H → Option α
  removes : H → α → Bool
  exclusive : ∀ e a, adds e = some a → removes e a = false

namespace Edits

variable (E : Edits H α)

/-- The list after an event. -/
def apply (e : H) (xs : List α) : List α := xs.filter (fun a => !E.removes e a) ++ (E.adds e).toList

/-- The list after a history that began with an empty list. -/
def content (history : List H) : List α := history.foldl (fun xs e => E.apply e xs) []

/-- What the events added and no later event removed, in order. -/
def survivors : List H → List α
  | [] => []
  | e :: es => (E.adds e).toList.filter (fun a => !es.any (E.removes · a)) ++ survivors es

@[simp] lemma content_concat (history : List H) (e : H) :
    E.content (history ++ [e]) = E.apply e (E.content history) := by
  simp [content]

variable {E} in
lemma apply_of_adds {e : H} {a : α} (ha : E.adds e = some a) (hr : ∀ b, E.removes e b = false)
    (xs : List α) : E.apply e xs = xs ++ [a] := by
  simp [apply, ha, hr, List.filter_eq_self.mpr]

variable {E} in
lemma apply_of_adds_none {e : H} (ha : E.adds e = none) (xs : List α) :
    E.apply e xs = xs.filter fun a => !E.removes e a := by
  simp [apply, ha]

variable {E} in
lemma apply_of_skips {e : H} (ha : E.adds e = none) (hr : ∀ b, E.removes e b = false)
    (xs : List α) : E.apply e xs = xs := by
  simp [apply, ha, hr, List.filter_eq_self.mpr]

/-- The events go on from a list: what none of them removes stays, before what they add. -/
lemma foldl_eq_survivors (history : List H) (xs : List α) :
    history.foldl (fun xs e => E.apply e xs) xs =
      xs.filter (fun a => !history.any (E.removes · a)) ++ E.survivors history := by
  induction history generalizing xs with
  | nil => simp [survivors, List.filter_eq_self.mpr]
  | cons e es ih =>
    rw [List.foldl_cons, ih]
    simp only [apply, survivors, List.filter_append, List.filter_filter, List.any_cons,
      Bool.not_or, List.append_assoc, Bool.and_comm]

/-- The content is what was added and not removed since. -/
theorem content_eq_survivors (history : List H) : E.content history = E.survivors history := by
  rw [content, foldl_eq_survivors]
  rfl

/-- An element occurs as often as it was added since it was last removed. -/
theorem count_content [DecidableEq α] (a : α) (history : List H) :
    (E.content history).count a =
      countSince (fun e => E.adds e = some a) (E.removes · a) history := by
  induction history using List.reverseRecOn with
  | nil => rfl
  | append_singleton es e ih =>
    rw [content_concat, countSince_concat, apply, List.count_append]
    by_cases hremoves : E.removes e a
    · have hadds : E.adds e ≠ some a := by
        intro hadds
        rw [E.exclusive e a hadds] at hremoves
        cases hremoves
      simp [hremoves, hadds, List.count_eq_zero]
    · have hkept : ((E.content es).filter fun b => !E.removes e b).count a =
          (E.content es).count a := List.count_filter (by simp [hremoves])
      rw [hkept, ih]
      cases hadds : E.adds e with
      | none => simp [hremoves]
      | some b => simp [hremoves, List.count_singleton]

end Edits

/-- A pair occurs in a list of lists as often as its first part in the outer list times its second
part in the inner one. -/
lemma count_flatMap_pair {β : Type} [BEq α] [LawfulBEq α] [BEq β] [LawfulBEq β] (xs : List α)
    (f : α → List β) (a : α) (b : β) :
    (xs.flatMap fun x => (f x).map (Prod.mk x)).count (a, b) = xs.count a * (f a).count b := by
  induction xs with
  | nil => simp
  | cons x xs ih =>
    rw [List.flatMap_cons, List.count_append, ih, List.count_cons, Nat.add_mul, Nat.add_comm]
    by_cases hx : x = a
    · subst hx
      simp [List.count_map_of_injective _ _ (Prod.mk_right_injective x)]
    · have hnot : (a, b) ∉ (f x).map (Prod.mk x) := by
        simp [hx]
      simp [hx, List.count_eq_zero_of_not_mem hnot]

end Lib
