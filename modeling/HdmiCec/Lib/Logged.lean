import Mathlib.Tactic.Common

/-!
# Computations that raise and log

A value of `Logged ε ω α` is a finished run of a computation: what it returned, or the exception
of type `ε` it raised, together with the events of type `ω` it logged on the way. The events
logged before an exception are kept, so that a property of *everything a run did* can be stated
whether the run returned or not.

`Logged.All` is the predicate transformer of the events, and `Logged.returns_bind` and
`Logged.raises_bind` are the rules of the result.
-/

namespace Lib

/-- A finished run: its outcome, and the events it logged. -/
structure Logged (ε ω α : Type) where
  result : Except ε α
  log : List ω

namespace Logged

variable {ε ω ω' α β : Type}

/-- Run `m`, then `f` on what it returned. An exception of `m` skips `f`. -/
def andThen (m : Logged ε ω α) (f : α → Logged ε ω β) : Logged ε ω β :=
  match m.result with
  | .ok a    => ⟨(f a).result, m.log ++ (f a).log⟩
  | .error e => ⟨.error e, m.log⟩

instance : Monad (Logged ε ω) where
  pure a := ⟨.ok a, []⟩
  bind := andThen

private lemma map_id' (m : Logged ε ω α) : id <$> m = m := by
  obtain ⟨result, log⟩ := m
  cases result with
  | ok a => simp [Functor.map, andThen]
  | error e => rfl

private lemma andThen_assoc {γ : Type} (m : Logged ε ω α) (f : α → Logged ε ω β)
    (g : β → Logged ε ω γ) : m >>= f >>= g = m >>= fun a => f a >>= g := by
  obtain ⟨result, log⟩ := m
  cases result with
  | error e => rfl
  | ok a =>
    simp only [bind, andThen]
    cases (f a).result with
    | ok b => simp
    | error e => rfl

instance : LawfulMonad (Logged ε ω) :=
  LawfulMonad.mk' _ map_id' (fun _ _ => rfl) andThen_assoc

/-- Raise `e`. -/
def raise (e : ε) : Logged ε ω α := ⟨.error e, []⟩

/-- Log one event. -/
def emit (o : ω) : Logged ε ω Unit := ⟨.ok (), [o]⟩

/-- `try m catch (e : p) handler e`: only the exceptions in `p` are handled, the others go
through. -/
def catching (p : ε → Bool) (handler : ε → Logged ε ω α) (m : Logged ε ω α) : Logged ε ω α :=
  match m.result with
  | .ok _    => m
  | .error e =>
    if p e then ⟨(handler e).result, m.log ++ (handler e).log⟩ else m

/-- Run `f` on the elements of a list in order. -/
def each (f : α → Logged ε ω Unit) : List α → Logged ε ω Unit
  | [] => pure ()
  | a :: as => do
    f a
    each f as

/-- Run `f` on the elements of a list in order and collect what it returns. -/
def collect (f : α → Logged ε ω β) : List α → Logged ε ω (List β)
  | [] => pure []
  | a :: as => do
    let b ← f a
    let bs ← collect f as
    pure (b :: bs)

/-- The same run with its events seen through `g`. -/
def mapLog (g : ω → ω') (m : Logged ε ω α) : Logged ε ω' α :=
  ⟨m.result, m.log.map g⟩

/-! ### The outcome -/

@[simp] lemma result_pure (a : α) : (pure a : Logged ε ω α).result = .ok a := rfl

@[simp] lemma result_raise (e : ε) : (raise e : Logged ε ω α).result = .error e := rfl

@[simp] lemma result_emit (o : ω) : (emit o : Logged ε ω Unit).result = .ok () := rfl

@[simp] lemma result_mapLog (g : ω → ω') (m : Logged ε ω α) : (m.mapLog g).result = m.result := rfl

lemma bind_def (m : Logged ε ω α) (f : α → Logged ε ω β) : m >>= f = m.andThen f := rfl

lemma result_bind_of_ok {m : Logged ε ω α} {f : α → Logged ε ω β} {a : α}
    (h : m.result = .ok a) : (m >>= f).result = (f a).result := by
  simp only [bind_def, andThen, h]

lemma result_bind_of_error {m : Logged ε ω α} {f : α → Logged ε ω β} {e : ε}
    (h : m.result = .error e) : (m >>= f).result = .error e := by
  simp only [bind_def, andThen, h]

/-- What a sequence does depends on its second part only where the first returns. -/
lemma bind_congr_of_ok {m : Logged ε ω α} {f g : α → Logged ε ω β}
    (h : ∀ a, m.result = .ok a → f a = g a) : m >>= f = m >>= g := by
  cases hm : m.result with
  | ok a => simp only [bind_def, andThen, hm, h a hm]
  | error e => simp only [bind_def, andThen, hm]

/-- What a sequence gives depends on what its parts give, not on their logs. -/
lemma result_bind_congr {m m' : Logged ε ω α} {f g : α → Logged ε ω β}
    (hm : m.result = m'.result) (h : ∀ a, (f a).result = (g a).result) :
    (m >>= f).result = (m' >>= g).result := by
  cases hresult : m'.result with
  | ok a =>
    rw [result_bind_of_ok (hm.trans hresult), result_bind_of_ok hresult]
    exact h a
  | error e =>
    rw [result_bind_of_error (hm.trans hresult), result_bind_of_error hresult]

/-- A sequence returns exactly when both of its parts do. -/
lemma returns_bind {m : Logged ε ω α} {f : α → Logged ε ω β} {b : β} :
    (m >>= f).result = .ok b ↔ ∃ a, m.result = .ok a ∧ (f a).result = .ok b := by
  cases h : m.result with
  | ok a => simp [result_bind_of_ok h]
  | error e => simp [result_bind_of_error h]

/-- A sequence raises in its first part or, that one having returned, in its second. -/
lemma raises_bind {m : Logged ε ω α} {f : α → Logged ε ω β} {e : ε} :
    (m >>= f).result = .error e ↔
      m.result = .error e ∨ ∃ a, m.result = .ok a ∧ (f a).result = .error e := by
  cases h : m.result with
  | ok a => simp [result_bind_of_ok h]
  | error e' => simp [result_bind_of_error h]

lemma result_catching_of_ok {p : ε → Bool} {handler : ε → Logged ε ω α} {m : Logged ε ω α} {a : α}
    (h : m.result = .ok a) : (m.catching p handler) = m := by
  simp only [catching, h]

lemma result_catching_of_error {p : ε → Bool} {handler : ε → Logged ε ω α} {m : Logged ε ω α}
    {e : ε} (h : m.result = .error e) (hp : p e = true) :
    (m.catching p handler).result = (handler e).result := by
  simp only [catching, h, hp, if_true]

/-! ### The value -/

/-- What the run returned, if it did. -/
def value (m : Logged ε ω α) : Option α := m.result.toOption

lemma value_eq_some_iff {m : Logged ε ω α} {a : α} : m.value = some a ↔ m.result = .ok a := by
  rw [value]
  cases m.result with
  | ok b => simp [Except.toOption]
  | error e => simp [Except.toOption]

lemma value_bind (m : Logged ε ω α) (f : α → Logged ε ω β) :
    (m >>= f).value = m.value.bind fun a => (f a).value := by
  cases h : m.result with
  | ok a => simp only [value, result_bind_of_ok h, h, Except.toOption, Option.bind_some]
  | error e => simp only [value, result_bind_of_error h, h, Except.toOption, Option.bind_none]

/-- Loops whose rounds return the same return the same. -/
lemma value_collect_congr {f g : α → Logged ε ω β} {as : List α}
    (h : ∀ a ∈ as, (f a).value = (g a).value) : (collect f as).value = (collect g as).value := by
  induction as with
  | nil => rfl
  | cons a as ih =>
    have hih := ih fun a' ha' => h a' (List.mem_cons_of_mem _ ha')
    simp only [collect, value_bind, h a List.mem_cons_self, hih]

/-! ### The exceptions -/

/-- The run returns or raises an exception in `p`. -/
def RaisesOnly (p : ε → Prop) (m : Logged ε ω α) : Prop := ∀ e, m.result = .error e → p e

section

variable {p : ε → Prop}

lemma raisesOnly_of_ok {m : Logged ε ω α} {a : α} (h : m.result = .ok a) : RaisesOnly p m := by
  intro e he
  rw [h] at he
  cases he

lemma raisesOnly_raise {e : ε} (h : p e) : RaisesOnly p (raise e : Logged ε ω α) := by
  intro e' he'
  cases he'
  exact h

lemma RaisesOnly.bind {m : Logged ε ω α} {f : α → Logged ε ω β} (hm : RaisesOnly p m)
    (hf : ∀ a, m.result = .ok a → RaisesOnly p (f a)) : RaisesOnly p (m >>= f) := by
  intro e he
  rcases raises_bind.mp he with h | ⟨a, ha, h⟩
  · exact hm e h
  · exact hf a ha e h

lemma RaisesOnly.map {m : Logged ε ω α} (hm : RaisesOnly p m) (g : α → β) :
    RaisesOnly p (g <$> m) :=
  RaisesOnly.bind hm fun _ _ => raisesOnly_of_ok rfl

lemma RaisesOnly.collect {f : α → Logged ε ω β} (hf : ∀ a, RaisesOnly p (f a)) (as : List α) :
    RaisesOnly p (collect f as) := by
  induction as with
  | nil => exact raisesOnly_of_ok rfl
  | cons a as ih =>
    exact (hf a).bind fun _ _ => ih.bind fun _ _ => raisesOnly_of_ok rfl

/-- A run whose exceptions are all handled, by handlers that return, returns. -/
lemma RaisesOnly.catching_returns {m : Logged ε ω Unit} {q : ε → Bool}
    {handler : ε → Logged ε ω Unit} (hm : RaisesOnly (fun e => q e = true) m)
    (hh : ∀ e, (handler e).result = .ok ()) : (m.catching q handler).result = .ok () := by
  cases h : m.result with
  | ok a => rw [result_catching_of_ok h, h]
  | error e => rw [result_catching_of_error h (hm e h), hh e]

end

/-! ### The events -/

@[simp] lemma log_pure (a : α) : (pure a : Logged ε ω α).log = [] := rfl

@[simp] lemma log_raise (e : ε) : (raise e : Logged ε ω α).log = [] := rfl

@[simp] lemma log_emit (o : ω) : (emit o : Logged ε ω Unit).log = [o] := rfl

@[simp] lemma log_mapLog (g : ω → ω') (m : Logged ε ω α) : (m.mapLog g).log = m.log.map g := rfl

lemma log_bind_of_ok {m : Logged ε ω α} {f : α → Logged ε ω β} {a : α}
    (h : m.result = .ok a) : (m >>= f).log = m.log ++ (f a).log := by
  simp only [bind_def, andThen, h]

lemma log_bind_of_error {m : Logged ε ω α} {f : α → Logged ε ω β} {e : ε}
    (h : m.result = .error e) : (m >>= f).log = m.log := by
  simp only [bind_def, andThen, h]

lemma mapLog_bind (g : ω → ω') (m : Logged ε ω α) (f : α → Logged ε ω β) :
    (m >>= f).mapLog g = m.mapLog g >>= fun a => (f a).mapLog g := by
  cases h : m.result with
  | ok a => simp only [bind_def, andThen, mapLog, h, List.map_append]
  | error e => simp only [bind_def, andThen, mapLog, h]

@[simp] lemma log_map (g : α → β) (m : Logged ε ω α) : (g <$> m).log = m.log := by
  cases h : m.result with
  | ok a => exact (log_bind_of_ok h).trans (List.append_nil _)
  | error e => exact log_bind_of_error h

/-- Every event of the run satisfies `P`. -/
def All (P : ω → Prop) (m : Logged ε ω α) : Prop := ∀ o ∈ m.log, P o

variable {P : ω → Prop}

@[simp] lemma all_pure (a : α) : All P (pure a : Logged ε ω α) := by
  intro o ho; simp at ho

@[simp] lemma all_raise (e : ε) : All P (raise e : Logged ε ω α) := by
  intro o ho; simp at ho

@[simp] lemma all_emit (o : ω) : All P (emit o : Logged ε ω Unit) ↔ P o := by
  simp [All]

@[simp] lemma all_map (g : α → β) (m : Logged ε ω α) : All P (g <$> m) ↔ All P m := by
  simp [All]

@[simp] lemma all_mapLog {Q : ω' → Prop} (g : ω → ω') (m : Logged ε ω α) :
    All Q (m.mapLog g) ↔ All (fun o => Q (g o)) m := by
  simp [All]

/-- The events of a sequence: those of the first part and, where it returned, those of the
second. -/
lemma all_bind {m : Logged ε ω α} {f : α → Logged ε ω β} :
    All P (m >>= f) ↔ All P m ∧ ∀ a, m.result = .ok a → All P (f a) := by
  cases h : m.result with
  | ok a => simp [All, log_bind_of_ok h, or_imp, forall_and]
  | error e => simp [All, log_bind_of_error h]

/-- A handler's events come after those of the body. -/
lemma log_catching (p : ε → Bool) (handler : ε → Logged ε ω α) (m : Logged ε ω α) :
    (m.catching p handler).log = m.log ∨
      ∃ e, (m.catching p handler).log = m.log ++ (handler e).log := by
  cases h : m.result with
  | ok a => exact .inl (by rw [result_catching_of_ok h])
  | error e =>
    by_cases hp : p e = true
    · exact .inr ⟨e, by simp only [catching, h, hp, if_true]⟩
    · exact .inl (by simp [catching, h, hp])

/-- What the first part of a sequence logs is logged. -/
lemma mem_log_bind {m : Logged ε ω α} {f : α → Logged ε ω β} {o : ω} (h : o ∈ m.log) :
    o ∈ (m >>= f).log := by
  cases hm : m.result with
  | ok a => exact log_bind_of_ok hm ▸ List.mem_append_left _ h
  | error e => exact log_bind_of_error hm ▸ h

/-- What the second part of a sequence logs is logged when the first part returns. -/
lemma mem_log_bind_of_ok {m : Logged ε ω α} {f : α → Logged ε ω β} {a : α} {o : ω}
    (hm : m.result = .ok a) (h : o ∈ (f a).log) : o ∈ (m >>= f).log :=
  log_bind_of_ok hm ▸ List.mem_append_right _ h

lemma mem_log_catching {p : ε → Bool} {handler : ε → Logged ε ω α} {m : Logged ε ω α} {o : ω}
    (h : o ∈ m.log) : o ∈ (m.catching p handler).log := by
  rcases log_catching p handler m with hlog | ⟨e, hlog⟩
  · exact hlog ▸ h
  · exact hlog ▸ List.mem_append_left _ h

/-- Events that the handlers do not add are those of the body. -/
lemma all_catching {p : ε → Bool} {handler : ε → Logged ε ω α} {m : Logged ε ω α}
    (hh : ∀ e, All P (handler e)) : All P (m.catching p handler) ↔ All P m := by
  cases h : m.result with
  | ok a => rw [result_catching_of_ok h]
  | error e =>
    by_cases hp : p e = true
    · have hlog : (m.catching p handler).log = m.log ++ (handler e).log := by
        simp only [catching, h, hp, if_true]
      simp only [All, hlog, List.mem_append, or_imp, forall_and]
      exact ⟨fun ⟨hm, _⟩ => hm, fun hm => ⟨hm, hh e⟩⟩
    · have : m.catching p handler = m := by simp only [catching, h, hp]; simp
      rw [this]

/-! ### A view of the events -/

/-- What `g` makes of the events. -/
def seen {β : Type} (g : ω → Option β) (m : Logged ε ω α) : List β := m.log.filterMap g

section

variable {γ : Type} {g : ω → Option γ}

lemma seen_eq_nil {m : Logged ε ω α} (h : All (fun o => g o = none) m) : m.seen g = [] :=
  List.filterMap_eq_nil_iff.mpr h

@[simp] lemma seen_emit (o : ω) : (emit o : Logged ε ω Unit).seen g = (g o).toList := by
  cases h : g o <;> simp [seen, h]

lemma seen_mapLog {g' : ω' → Option γ} (f : ω → ω') (m : Logged ε ω α) :
    (m.mapLog f).seen g' = m.seen fun o => g' (f o) := List.filterMap_map ..

lemma seen_bind_of_ok {m : Logged ε ω α} {f : α → Logged ε ω β} {a : α} (h : m.result = .ok a) :
    (m >>= f).seen g = m.seen g ++ (f a).seen g := by
  rw [seen, log_bind_of_ok h, List.filterMap_append]
  rfl

lemma seen_bind_of_error {m : Logged ε ω α} {f : α → Logged ε ω β} {e : ε}
    (h : m.result = .error e) : (m >>= f).seen g = m.seen g := by
  rw [seen, log_bind_of_error h]
  rfl

/-- What comes after a part that is seen may be left out when nothing is seen of it. -/
lemma seen_bind_of_nil {m : Logged ε ω α} {f : α → Logged ε ω β} (h : ∀ a, (f a).seen g = []) :
    (m >>= f).seen g = m.seen g := by
  cases hm : m.result with
  | ok a => rw [seen_bind_of_ok hm, h a, List.append_nil]
  | error e => exact seen_bind_of_error hm

/-- Handlers of which nothing is seen make no difference. -/
lemma seen_catching {p : ε → Bool} {handler : ε → Logged ε ω α} {m : Logged ε ω α}
    (h : ∀ e, (handler e).seen g = []) : (m.catching p handler).seen g = m.seen g := by
  rcases log_catching p handler m with hlog | ⟨e, hlog⟩
  · rw [seen, hlog]
    rfl
  · rw [seen, hlog, List.filterMap_append]
    exact (congrArg (m.seen g ++ ·) (h e)).trans (List.append_nil _)

end

/-! ### Loops -/

lemma all_each {f : α → Logged ε ω Unit} {as : List α} (h : ∀ a ∈ as, All P (f a)) :
    All P (each f as) := by
  induction as with
  | nil => exact all_pure ()
  | cons a as ih =>
    rw [each, all_bind]
    exact ⟨h a List.mem_cons_self, fun _ _ => ih fun a' ha' => h a' (List.mem_cons_of_mem _ ha')⟩

lemma result_each {f : α → Logged ε ω Unit} {as : List α} (h : ∀ a ∈ as, (f a).result = .ok ()) :
    (each f as).result = .ok () := by
  induction as with
  | nil => rfl
  | cons a as ih =>
    rw [each, result_bind_of_ok (h a List.mem_cons_self)]
    exact ih fun a' ha' => h a' (List.mem_cons_of_mem _ ha')

/-- A loop whose rounds all return logs what they log, in order. -/
lemma log_each {f : α → Logged ε ω Unit} {as : List α} (h : ∀ a ∈ as, (f a).result = .ok ()) :
    (each f as).log = as.flatMap fun a => (f a).log := by
  induction as with
  | nil => rfl
  | cons a as ih =>
    rw [each, log_bind_of_ok (h a List.mem_cons_self), List.flatMap_cons]
    rw [ih fun a' ha' => h a' (List.mem_cons_of_mem _ ha')]

lemma all_collect {f : α → Logged ε ω β} {as : List α} (h : ∀ a ∈ as, All P (f a)) :
    All P (collect f as) := by
  induction as with
  | nil => exact all_pure _
  | cons a as ih =>
    have hih := ih fun a' ha' => h a' (List.mem_cons_of_mem _ ha')
    simp only [collect, all_bind, all_pure, implies_true, and_true]
    exact ⟨h a List.mem_cons_self, fun _ _ => hih⟩

/-- A loop whose rounds all return collects what they return. -/
lemma result_collect {f : α → Logged ε ω β} {g : α → β} {as : List α}
    (h : ∀ a ∈ as, (f a).result = .ok (g a)) : (collect f as).result = .ok (as.map g) := by
  induction as with
  | nil => rfl
  | cons a as ih =>
    have hih := ih fun a' ha' => h a' (List.mem_cons_of_mem _ ha')
    rw [collect, result_bind_of_ok (h a List.mem_cons_self), result_bind_of_ok hih]
    rfl

end Logged

end Lib
