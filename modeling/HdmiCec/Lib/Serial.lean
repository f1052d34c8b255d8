import Mathlib.Data.List.Induction
import Mathlib.Logic.Function.Basic
import HdmiCec.Lib.Transition

/-!
# Operations under one mutex

An object whose operations hold its mutex from their first access to its state to their last. A
`Body` says what each access does, one after the other. Any number of threads call operations, wait
for the mutex and make their accesses one at a time, in any interleaving.

The operations are serialized by the mutex (`Shared.serialized_of_run`): the state and the results
are those of the operations performed one after the other, in the order in which they got it. An
operation that returns before another one is called comes before it.
-/

namespace Lib

variable {S Op P R : Type}

/-- What operations do to a state `S`. `P` are the points between the accesses, under the mutex. An
operation may come to its result before it gets to the mutex. -/
structure Body (S Op P R : Type) where
  enter : Op → P ⊕ R
  access : P → S → S × (P ⊕ R)

namespace Body

variable (B : Body S Op P R)

/-- From the point `p` on, an operation leaves the state `t` and has the result `r`. -/
inductive Ends : P → S → S → R → Prop
  | last {p : P} {s t : S} {r : R} : B.access p s = (t, .inr r) → Ends p s t r
  | next {p q : P} {s t u : S} {r : R} : B.access p s = (t, .inl q) → Ends q t u r → Ends p s u r

/-- Operations with their results, performed one after the other where `ok` allows it. -/
inductive Serial (ok : S → Op → Prop) (s₀ : S) : List (Op × R) → S → Prop
  | nil : Serial ok s₀ [] s₀
  | refused {done : List (Op × R)} {s : S} {op : Op} {r : R} :
    Serial ok s₀ done s → B.enter op = .inr r → Serial ok s₀ (done ++ [(op, r)]) s
  | snoc {done : List (Op × R)} {s t : S} {op : Op} {p : P} {r : R} : Serial ok s₀ done s →
    B.enter op = .inl p → ok s op → B.Ends p s t r → Serial ok s₀ (done ++ [(op, r)]) t

lemma ends_iff {p : P} {s t : S} {r : R} : B.Ends p s t r ↔
    match B.access p s with
    | (u, .inl q) => B.Ends q u t r
    | (u, .inr r') => t = u ∧ r = r' := by
  constructor
  · rintro (h | ⟨h, hends⟩)
    · rw [h]
      exact ⟨rfl, rfl⟩
    · rw [h]
      exact hends
  · intro h
    cases haccess : B.access p s with
    | mk u next =>
      rw [haccess] at h
      cases next with
      | inl q => exact .next haccess h
      | inr r' =>
        obtain ⟨rfl, rfl⟩ := h
        exact .last haccess

/-- Every operation ends when every access lowers `rank`. -/
lemma exists_ends {rank : P → ℕ} (h : ∀ p s t q, B.access p s = (t, .inl q) → rank q < rank p)
    (p : P) (s : S) : ∃ t r, B.Ends p s t r := by
  induction hn : rank p using Nat.strongRecOn generalizing p s with
  | ind n ih =>
    cases haccess : B.access p s with
    | mk t next =>
      cases next with
      | inr r => exact ⟨t, r, .last haccess⟩
      | inl q =>
        obtain ⟨u, r, hends⟩ := ih (rank q) (hn ▸ h p s t q haccess) q t rfl
        exact ⟨u, r, .next haccess hends⟩

variable {B}

lemma Ends.unique {p : P} {s t t' : S} {r r' : R} (h : B.Ends p s t r) (h' : B.Ends p s t' r') :
    t = t' ∧ r = r' := by
  induction h with
  | last haccess =>
    rw [ends_iff, haccess] at h'
    exact ⟨h'.1.symm, h'.2.symm⟩
  | next haccess _ ih =>
    rw [ends_iff, haccess] at h'
    exact ih h'

/-- What every access does to the state, an operation does. -/
lemma Ends.rel (rel : S → S → Prop) (htrans : ∀ {s t u}, rel s t → rel t u → rel s u)
    (h : ∀ p s, rel s (B.access p s).1) {p : P} {s t : S} {r : R} (hends : B.Ends p s t r) :
    rel s t := by
  induction hends with
  | @last p s _ _ haccess =>
    have hrel := h p s
    rw [haccess] at hrel
    exact hrel
  | @next p _ s _ _ _ haccess _ ih =>
    have hrel := h p s
    rw [haccess] at hrel
    exact htrans hrel ih

end Body

/-! ### Threads -/

/-- Where a thread is: outside, waiting for the mutex, or at a point under it. -/
inductive Place (Op P : Type) where
  | outside
  | waiting (op : Op) (p : P)
  | inside (op : Op) (p : P)

/-- The object, the owner of its mutex, the threads, and the operations that are over, with the
threads that performed them. -/
structure Shared (S Op P R : Type) where
  state : S
  mutex : Option ℕ
  place : ℕ → Place Op P
  done : List (ℕ × Op × R)

/-- A thread calls an operation, gets the mutex, or makes its next access. -/
inductive SharedLabel (Op : Type) where
  | call (i : ℕ) (op : Op)
  | lock (i : ℕ)
  | access (i : ℕ)

namespace Shared

variable (B : Body S Op P R)

def new (s₀ : S) : Shared S Op P R := ⟨s₀, none, fun _ => .outside, []⟩

def goto (x : Shared S Op P R) (i : ℕ) (place : Place Op P) : Shared S Op P R :=
  { x with place := Function.update x.place i place }

/-- The mutex is released when the operation is over. -/
def step (x : Shared S Op P R) : SharedLabel Op → Option (Shared S Op P R)
  | .call i op =>
    match x.place i with
    | .outside =>
      match B.enter op with
      | .inl p => some (x.goto i (.waiting op p))
      | .inr r => some { x with done := x.done ++ [(i, op, r)] }
    | _ => none
  | .lock i =>
    match x.place i, x.mutex with
    | .waiting op p, none => some { x.goto i (.inside op p) with mutex := some i }
    | _, _ => none
  | .access i =>
    match x.place i with
    | .inside op p =>
      match B.access p x.state with
      | (s, .inl q) => some { x.goto i (.inside op q) with state := s }
      | (s, .inr r) => some { x.goto i .outside with
          state := s, mutex := none, done := x.done ++ [(i, op, r)] }
    | _ => none

/-- What `ok` asks of an operation is asked when it gets the mutex. -/
def Admits (ok : S → Op → Prop) (x : Shared S Op P R) : SharedLabel Op → Prop
  | .lock i =>
    match x.place i with
    | .waiting op _ => ok x.state op
    | _ => True
  | _ => True

instance (ok : S → Op → Prop) [∀ s op, Decidable (ok s op)] (x : Shared S Op P R)
    (l : SharedLabel Op) : Decidable (x.Admits ok l) := by
  unfold Admits
  split
  · split <;> infer_instance
  · infer_instance

lemma admits_true (x : Shared S Op P R) (l : SharedLabel Op) : x.Admits (fun _ _ => True) l := by
  unfold Admits
  split
  · split <;> trivial
  · trivial

/-- The operations that are over were performed one after the other; the one under the mutex began
in the state they left, and goes on as it would alone. -/
structure Serialized (ok : S → Op → Prop) (s₀ : S) (x : Shared S Op P R) (s : S) : Prop where
  serial : B.Serial ok s₀ (x.done.map Prod.snd) s
  waiting : ∀ i op p, x.place i = .waiting op p → B.enter op = .inl p
  free : x.mutex = none → x.state = s
  owner : ∀ i op p, x.place i = .inside op p → x.mutex = some i
  owned : ∀ i, x.mutex = some i → ∃ op p p₀, x.place i = .inside op p ∧ B.enter op = .inl p₀ ∧
    ok s op ∧ ∀ t r, B.Ends p x.state t r → B.Ends p₀ s t r

variable {B} {ok : S → Op → Prop} {s₀ s : S} {x y : Shared S Op P R} {i : ℕ} {op : Op} {p : P}

@[simp] lemma goto_place_self (place : Place Op P) : (x.goto i place).place i = place := by
  simp [goto]

lemma goto_place_of_ne {j : ℕ} (place : Place Op P) (h : j ≠ i) :
    (x.goto i place).place j = x.place j := by
  simp [goto, h]

/-- A thread that waits or is inside after a thread moved was there before, or is that thread. -/
lemma goto_place_cases {j : ℕ} {place q : Place Op P} (h : (x.goto i place).place j = q) :
    (j = i ∧ place = q) ∨ (j ≠ i ∧ x.place j = q) := by
  by_cases hj : j = i
  · subst hj
    exact .inl ⟨rfl, (goto_place_self place).symm.trans h⟩
  · exact .inr ⟨hj, (goto_place_of_ne place hj).symm.trans h⟩

lemma serialized_new : (new s₀ : Shared S Op P R).Serialized B ok s₀ s₀ where
  serial := .nil
  waiting i op p hp := by cases hp
  free _ := rfl
  owner i op p hp := by cases hp
  owned i hi := by cases hi

namespace Serialized

lemma call (h : x.Serialized B ok s₀ s) (hplace : x.place i = .outside)
    (henter : B.enter op = .inl p) : (x.goto i (.waiting op p)).Serialized B ok s₀ s where
  serial := h.serial
  waiting j op' p' hj := by
    rcases goto_place_cases hj with ⟨-, hq⟩ | ⟨-, hj⟩
    · cases hq
      exact henter
    · exact h.waiting j op' p' hj
  free := h.free
  owner j op' p' hj := by
    rcases goto_place_cases hj with ⟨-, hq⟩ | ⟨-, hj⟩
    · cases hq
    · exact h.owner j op' p' hj
  owned j hj := by
    obtain ⟨op', p', p₀, hplace', hrest⟩ := h.owned j hj
    have hne : j ≠ i := by
      rintro rfl
      rw [hplace] at hplace'
      cases hplace'
    exact ⟨op', p', p₀, (goto_place_of_ne _ hne).trans hplace', hrest⟩

lemma refused {r : R} (h : x.Serialized B ok s₀ s) (henter : B.enter op = .inr r) :
    ({ x with done := x.done ++ [(i, op, r)] } : Shared S Op P R).Serialized B ok s₀ s where
  serial := by
    rw [List.map_append]
    exact h.serial.refused henter
  waiting := h.waiting
  free := h.free
  owner := h.owner
  owned := h.owned

/-- The mutex is free: the operation begins in the state that the others left. -/
lemma lock (h : x.Serialized B ok s₀ s) (hplace : x.place i = .waiting op p)
    (hfree : x.mutex = none) (hok : ok x.state op) :
    ({ x.goto i (.inside op p) with mutex := some i } : Shared S Op P R).Serialized B ok s₀ s where
  serial := h.serial
  waiting j op' p' hj := by
    rcases goto_place_cases hj with ⟨-, hq⟩ | ⟨-, hj⟩
    · cases hq
    · exact h.waiting j op' p' hj
  free hnone := by cases hnone
  owner j op' p' hj := by
    rcases goto_place_cases hj with ⟨rfl, -⟩ | ⟨-, hj⟩
    · rfl
    · rw [h.owner j op' p' hj] at hfree
      cases hfree
  owned j hj := by
    obtain rfl : i = j := Option.some.inj hj
    have hstate := h.free hfree
    refine ⟨op, p, p, goto_place_self _, h.waiting i op p hplace, hstate ▸ hok, ?_⟩
    intro t r hends
    exact hstate ▸ hends

/-- An access under the mutex. -/
lemma access {q : P} {t : S} (h : x.Serialized B ok s₀ s) (hplace : x.place i = .inside op p)
    (haccess : B.access p x.state = (t, .inl q)) :
    ({ x.goto i (.inside op q) with state := t } : Shared S Op P R).Serialized B ok s₀ s where
  serial := h.serial
  waiting j op' p' hj := by
    rcases goto_place_cases hj with ⟨-, hq⟩ | ⟨-, hj⟩
    · cases hq
    · exact h.waiting j op' p' hj
  free hnone := by
    have howner := (h.owner i op p hplace).symm.trans hnone
    cases howner
  owner j op' p' hj := by
    rcases goto_place_cases hj with ⟨rfl, -⟩ | ⟨-, hj⟩
    · exact h.owner j op p hplace
    · exact h.owner j op' p' hj
  owned j hj := by
    obtain rfl : i = j := Option.some.inj ((h.owner i op p hplace).symm.trans hj)
    obtain ⟨op', p', p₀, hplace', henter, hok, hrest⟩ := h.owned i hj
    rw [hplace] at hplace'
    cases hplace'
    exact ⟨op, q, p₀, goto_place_self _, henter, hok,
      fun u r hends => hrest u r (.next haccess hends)⟩

/-- The last access, after which the mutex is released. -/
lemma finish {r : R} {t : S} (h : x.Serialized B ok s₀ s) (hplace : x.place i = .inside op p)
    (haccess : B.access p x.state = (t, .inr r)) :
    ({ x.goto i .outside with
        state := t, mutex := none, done := x.done ++ [(i, op, r)] } : Shared S Op P R).Serialized
      B ok s₀ t where
  serial := by
    obtain ⟨op', p', p₀, hplace', henter, hok, hrest⟩ := h.owned i (h.owner i op p hplace)
    rw [hplace] at hplace'
    cases hplace'
    rw [List.map_append]
    exact h.serial.snoc henter hok (hrest t r (.last haccess))
  waiting j op' p' hj := by
    rcases goto_place_cases hj with ⟨-, hq⟩ | ⟨-, hj⟩
    · cases hq
    · exact h.waiting j op' p' hj
  free _ := rfl
  owner j op' p' hj := by
    rcases goto_place_cases hj with ⟨-, hq⟩ | ⟨hne, hj⟩
    · cases hq
    · have hsame := (h.owner i op p hplace).symm.trans (h.owner j op' p' hj)
      exact absurd (Option.some.inj hsame).symm hne
  owned j hj := by cases hj

lemma step {l : SharedLabel Op} (h : x.Serialized B ok s₀ s) (hok : x.Admits ok l)
    (hstep : x.step B l = some y) : ∃ t, y.Serialized B ok s₀ t := by
  cases l with
  | call i op =>
    simp only [Shared.step] at hstep
    split at hstep
    · rename_i hplace
      split at hstep
      · rename_i p henter
        cases hstep
        exact ⟨s, h.call hplace henter⟩
      · rename_i r henter
        cases hstep
        exact ⟨s, h.refused henter⟩
    · cases hstep
  | lock i =>
    simp only [Shared.step] at hstep
    split at hstep
    · rename_i op p hplace hfree
      cases hstep
      simp only [Admits, hplace] at hok
      exact ⟨s, h.lock hplace hfree hok⟩
    · cases hstep
  | access i =>
    simp only [Shared.step] at hstep
    split at hstep
    · rename_i op p hplace
      split at hstep
      · rename_i t q haccess
        cases hstep
        exact ⟨s, h.access hplace haccess⟩
      · rename_i t r haccess
        cases hstep
        exact ⟨t, h.finish hplace haccess⟩
    · cases hstep

end Serialized

/-- In every interleaving, the operations that are over have the results, and the state has the
value, that they have one after the other in the order in which they got the mutex. -/
theorem serialized_of_run (h : Run (step B) (Admits ok) (new s₀) x) :
    ∃ s, x.Serialized B ok s₀ s := by
  apply h.invariant (I := fun x => ∃ s, x.Serialized B ok s₀ s)
  · rintro x l y hok hstep ⟨s, hs⟩
    exact hs.step hok hstep
  · exact ⟨s₀, serialized_new⟩

end Shared

end Lib
