import HdmiCec.System.ReadCall

/-!
# The end of a call of `DriverImpl::read`

What a call of `read` returns or raises, and what it leaves in the queue, for any mix of frames and
sentinels there and any interleaving with the other threads; and when it comes to its end without
them.
-/

namespace HdmiCec

open Lib DriverImpl

namespace ReadCall

variable {r r' : ReadCall} {events : List (Option FramePtr)}

/-! ### Coming to the end -/

/-- There is enough in the queue, or in the hand of the call, for it to come to its end. -/
def Fed (r : ReadCall) : Prop :=
  match r.pc with
  | .poll | .pop =>
    (∃ p, some p ∈ r.rQueue.events) ∨ r.rQueue.events ≠ [] ∧ r.status ≠ .opened
  | .test none | .recheck => (∃ p, some p ∈ r.rQueue.events) ∨ r.status ≠ .opened
  | _ => True

lemma fed_of_mem (h : (∃ p, some p ∈ r.rQueue.events) ∨
    none ∈ r.rQueue.events ∧ r.status ≠ .opened) : r.Fed := by
  unfold Fed
  split
  · exact h.imp_right fun h => ⟨List.ne_nil_of_mem h.1, h.2⟩
  · exact h.imp_right fun h => ⟨List.ne_nil_of_mem h.1, h.2⟩
  · exact h.imp_right And.right
  · exact h.imp_right And.right
  · trivial

/-- The steps that are left, at most. -/
def rank (r : ReadCall) : ℕ :=
  match r.pc with
  | .check => 5 * r.rQueue.events.length + 1
  | .poll => 5 * r.rQueue.events.length
  | .pop => 5 * r.rQueue.events.length - 1
  | .test _ => 5 * r.rQueue.events.length + 3
  | .copy _ => 1
  | .recheck => 5 * r.rQueue.events.length + 2
  | .flush => 5 * r.rQueue.events.length + 1
  | .flushPoll => 5 * r.rQueue.events.length
  | .flushPop => 5 * r.rQueue.events.length - 1
  | .flushTest _ => 5 * r.rQueue.events.length + 3
  | .flushCopy _ => 5 * r.rQueue.events.length + 2
  | .ended _ | .fault => 0

/-- Every step of the call lowers the rank. -/
lemma Reading.rank_lt (h : Reading events r) (hstep : Step r r') : r'.rank < r.rank := by
  have hphase := h.phase
  cases hstep with
  | ready hpc hne | flushReady hpc hne =>
    have hlen := List.length_pos_iff.mpr hne
    simp only [rank, hpc]
    omega
  | pop hpc =>
    rw [hpc] at hphase
    obtain ⟨e, rest, hevents⟩ := List.exists_cons_of_ne_nil hphase.1
    obtain ⟨hpc', -, hrest⟩ := popInto_of_cons .test hevents
    simp only [rank, hpc, hpc', hrest, hevents, List.length_cons]
    omega
  | flushPop hpc =>
    rw [hpc] at hphase
    obtain ⟨e, rest, hevents⟩ := List.exists_cons_of_ne_nil hphase.1
    obtain ⟨hpc', -, hrest⟩ := popInto_of_cons .flushTest hevents
    simp only [rank, hpc, hpc', hrest, hevents, List.length_cons]
    omega
  | fault hpc => obtain hpc | hpc := hpc <;> simp [rank, hpc]
  | rejected hpc | entered hpc | found hpc | null hpc | copied hpc | closed hpc | skipped hpc
  | flush hpc | flushed hpc | flushFound hpc | flushNull hpc | flushCopied hpc =>
    simp [rank, hpc]

/-- A call that is fed is fed after its step. -/
lemma Reading.fed (h : Reading events r) (hfed : r.Fed) (hstep : Step r r') : r'.Fed := by
  have hphase := h.phase
  unfold Fed at hfed
  cases hstep with
  | ready hpc | null hpc =>
    rw [hpc] at hfed
    exact hfed
  | pop hpc =>
    rw [hpc] at hfed hphase
    obtain ⟨e, rest, hevents⟩ := List.exists_cons_of_ne_nil hphase.1
    obtain ⟨hpc', -, hrest⟩ := popInto_of_cons .test hevents
    cases e with
    | some p => simp only [Fed, hpc']
    | none =>
      -- the sentinel is not the frame that the queue holds
      simp only [Fed, hpc', hrest]
      rw [hevents] at hfed
      exact hfed.imp (fun ⟨p, hp⟩ => ⟨p, by simpa using hp⟩) And.right
  | skipped hpc _ hstatus =>
    rw [hpc] at hfed
    exact .inl (hfed.resolve_right (not_not.mpr hstatus))
  | flushPop hpc =>
    rw [hpc] at hphase
    obtain ⟨e, rest, hevents⟩ := List.exists_cons_of_ne_nil hphase.1
    simp only [Fed, (popInto_of_cons .flushTest hevents).1]
  | entered hpc =>
    rw [hpc] at hphase
    exact hphase.elim
  | rejected | found | copied | closed | flush | flushed | flushReady | flushFound | flushNull
  | flushCopied | fault => trivial

/-- A call that is fed has a step while no other thread has the driver's mutex. -/
lemma Reading.enabled (h : Reading events r) (hfed : r.Fed) (hfree : r.mutex ≠ some .other)
    (hactive : r.isOver = false) : ∃ r', r.read = some r' := by
  have hmutex := h.mutex
  have hphase := h.phase
  unfold ReadCall.read
  unfold Fed at hfed
  cases hpc : r.pc with
  | check =>
    rw [hpc] at hphase
    exact hphase.elim
  | poll =>
    rw [hpc] at hfed
    have hne : r.rQueue.events ≠ [] := hfed.elim (fun ⟨_, hp⟩ => List.ne_nil_of_mem hp) And.left
    exact ⟨_, if_pos (r.rQueue.ready_iff.mpr hne)⟩
  | recheck =>
    have hnone : r.mutex = none := by
      cases hm : r.mutex with
      | none => rfl
      | some holder =>
        cases holder with
        | reader => simp [hpc, hm, ReadPoint.holds] at hmutex
        | other => exact absurd hm hfree
    simp only [if_pos hnone]
    split <;> exact ⟨_, rfl⟩
  | flush =>
    dsimp only
    split <;> exact ⟨_, rfl⟩
  | flushPoll =>
    rw [hpc] at hphase
    exact ⟨_, if_pos (r.rQueue.ready_iff.mpr hphase.1)⟩
  | pop | test | copy | flushPop | flushTest | flushCopy => exact ⟨_, rfl⟩
  | ended how =>
    rw [isOver, hpc] at hactive
    cases hactive
  | fault =>
    rw [hpc] at hphase
    exact hphase.elim

/-- A call that is fed comes to its end by itself. -/
lemma Reading.finishes (h : Reading events r) (hfed : r.Fed) (hfree : r.mutex ≠ some .other) :
    ∃ n r', exec ReadCall.step (fun _ _ => True) r (List.replicate n .read) = some r' ∧
      r'.isOver = true := by
  apply exists_exec_of_rank (I := fun r => Reading events r ∧ r.Fed ∧ r.mutex ≠ some .other) rank
  · rintro r ⟨hr, hfed, hfree⟩ hactive
    rw [Bool.not_eq_true] at hactive
    obtain ⟨r', hstep⟩ := hr.enabled hfed hfree hactive
    have hstep' := Step.of_read hstep
    exact ⟨trivial, r', hstep, ⟨hr.read hstep', hr.fed hfed hstep', hstep'.mutex hfree⟩,
      hr.rank_lt hstep'⟩
  · exact ⟨h, hfed, hfree⟩

/-- The call has a sentinel in its hand on a driver that is not open, or has gone on from there. -/
def Doomed (r : ReadCall) : Prop :=
  (r.pc = .test none ∨ r.pc = .recheck) ∧ r.status ≠ .opened ∨ r.pc.holds = true ∨
    ∃ e, r.pc = .ended (.raised e)

lemma Doomed.move {l : ReadLabel} (h : r.Doomed) (hr : Reading events r)
    (hl : l ≠ .setStatus .opened) (hmove : Move r l r') : r'.Doomed := by
  cases hmove with
  | read hstep =>
    cases hstep with
    | null hpc =>
      simp only [Doomed, hpc, ReadPoint.holds] at h
      exact .inl ⟨.inr rfl, by simpa using h⟩
    | closed | flush | flushReady | flushPop | flushFound | flushNull | flushCopied =>
      exact .inr (.inl rfl)
    | flushed => exact .inr (.inr ⟨_, rfl⟩)
    | skipped hpc _ hstatus => simp [Doomed, hpc, hstatus, ReadPoint.holds] at h
    | rejected hpc | entered hpc | ready hpc | pop hpc | found hpc | copied hpc =>
      simp [Doomed, hpc, ReadPoint.holds] at h
    | fault hpc => exact (hr.read (.fault hpc)).phase.elim
  | @setStatus status _ =>
    have hne : status ≠ .opened := fun hs => hl (by rw [hs])
    exact h.imp_left fun h => ⟨h.1, hne⟩
  | lock | unlock | offered | refused => exact h

/-! ### What comes out -/

/-- What stands behind the sentinels is determined. -/
lemma eq_of_replicate_none_append {α : Type} {j k : ℕ} {a b : α} {xs ys : List (Option α)}
    (h : List.replicate j none ++ some a :: xs = List.replicate k none ++ some b :: ys) :
    a = b ∧ xs = ys := by
  induction j generalizing k with
  | zero =>
    cases k with
    | zero => simpa using h
    | succ k => simp [List.replicate_succ] at h
  | succ j ih =>
    cases k with
    | zero => simp [List.replicate_succ] at h
    | succ k =>
      simp only [List.replicate_succ, List.cons_append, List.cons.injEq, true_and] at h
      exact ih h

/-- A call that returns gives the first frame of the queue. -/
lemma Reading.returned_eq {k : ℕ} {p q : FramePtr} {rest : List (Option FramePtr)}
    (h : Reading events r) (hevents : events = List.replicate k none ++ some p :: rest)
    (hpc : r.pc = .ended (.returned q)) :
    q = p ∧ r.frame = p.frame ∧ r.rQueue.events = rest ++ r.offered := by
  have hphase := h.phase
  rw [hpc] at hphase
  obtain ⟨hframe, j, htaken, -⟩ := hphase
  have horder := h.order
  rw [hevents, htaken, List.append_assoc, List.append_assoc, List.cons_append,
    List.singleton_append] at horder
  obtain ⟨rfl, hrest⟩ := eq_of_replicate_none_append horder
  exact ⟨rfl, hframe, hrest.symm⟩

/-- A call that raises has met a sentinel first, found the driver not open, and left nothing in the
queue. -/
lemma Reading.raised_eq {e : Exn} (h : Reading events r) (hpc : r.pc = .ended (.raised e)) :
    e = .invalidState ∧ r.rQueue.events = [] ∧ (∃ s ∈ r.rechecks, s ≠ .opened) ∧
      ∀ p rest, events ≠ some p :: rest := by
  have hphase := h.phase
  rw [hpc] at hphase
  obtain ⟨rfl, hempty, k, flushed, s, htaken, hrechecks, hs⟩ := hphase
  refine ⟨rfl, hempty, ⟨s, by simp [hrechecks], hs⟩, ?_⟩
  intro p rest hevents
  have horder := h.order
  rw [hevents, htaken] at horder
  simp [List.replicate_succ] at horder

/-- A call that finds the driver open goes on to the queue. -/
lemma reading_of_entered {r₀ r₁ : ReadCall} (hpc : r₀.pc = .check) (hopen : r₀.status = .opened)
    (htaken : r₀.taken = []) (hoffered : r₀.offered = []) (hrechecks : r₀.rechecks = [])
    (henter : r₀.step .read = some r₁) : Reading r₀.rQueue.events r₁ := by
  cases Step.of_read henter with
  | entered _ hfree =>
    refine ⟨?_, ?_, 0, htaken, hrechecks⟩
    · rw [hoffered, htaken, List.append_nil, List.nil_append]
    · exact iff_of_false (by simp [hfree]) (by simp [ReadPoint.holds])
  | rejected _ _ hclosed => exact absurd hopen hclosed
  | ready h | pop h | found h | null h | copied h | closed h | skipped h | flush h | flushed h
  | flushReady h | flushPop h | flushFound h | flushNull h | flushCopied h =>
    rw [hpc] at h
    cases h
  | fault h => simp [hpc] at h

lemma Reading.raises_of_recheck {status : Status} {how : ReadEnd} (h : Reading events r)
    (hmem : status ∈ r.rechecks) (hne : status ≠ .opened) (hpc : r.pc = .ended how) :
    how = .raised .invalidState ∧ r.rQueue.events = [] := by
  cases how with
  | returned q =>
    have hphase := h.phase
    rw [hpc] at hphase
    obtain ⟨-, k, -, hopened⟩ := hphase
    rw [hopened] at hmem
    exact absurd (List.eq_of_mem_replicate hmem) hne
  | raised e =>
    obtain ⟨rfl, hempty, -⟩ := h.raised_eq hpc
    exact ⟨rfl, hempty⟩

lemma Reading.raises_of_null {r' : ReadCall} {how : ReadEnd} (h : Reading events r)
    (hnull : r.pc = .test none) (hclosed : r.status ≠ .opened)
    (hrun : Run ReadCall.step (fun r l => r.isOver = false ∧ l ≠ .setStatus .opened) r r')
    (hpc : r'.pc = .ended how) : how = .raised .invalidState ∧ r'.rQueue.events = [] := by
  have hinv : Reading events r' ∧ r'.Doomed := by
    apply hrun.invariant (I := fun r => Reading events r ∧ r.Doomed)
    · rintro s l t ⟨hactive, hl⟩ hstep ⟨hs, hdoomed⟩
      have hmove := Move.of_step hstep
      exact ⟨hs.move hactive hmove, hdoomed.move hs hl hmove⟩
    · exact ⟨h, .inl ⟨.inl hnull, hclosed⟩⟩
  cases how with
  | returned q => simp [Doomed, hpc, ReadPoint.holds] at hinv
  | raised e =>
    obtain ⟨rfl, hempty, -⟩ := hinv.1.raised_eq hpc
    exact ⟨rfl, hempty⟩

/-- A call of `read` on an open driver, for any content of the queue and whatever the other threads
do in between. It never dereferences `NULL`. A frame at the front of the queue is returned, and
nothing else is removed. Sentinels before it are skipped when each of them finds the driver still
open. A sentinel that finds the driver not open leaves the queue empty and raises; this is so for
every sentinel that is taken while the driver is not open, unless it is opened again in between. And
the call needs nobody to come to its end when the queue holds a frame, or a sentinel while the
driver is not open. -/
theorem read_handles_any_queue {r₀ r₁ r : ReadCall} (hpc : r₀.pc = .check)
    (hopen : r₀.status = .opened) (htaken : r₀.taken = []) (hoffered : r₀.offered = [])
    (hrechecks : r₀.rechecks = []) (henter : r₀.step .read = some r₁)
    (h : Run ReadCall.step (fun r _ => r.isOver = false) r₁ r) :
    r.pc ≠ .fault ∧
    (∀ p rest how, r₀.rQueue.events = some p :: rest → r.pc = .ended how →
      how = .returned p ∧ r.frame = p.frame ∧ r.rQueue.events = rest ++ r.offered) ∧
    (∀ k p rest how, r₀.rQueue.events = List.replicate k none ++ some p :: rest →
      (∀ s ∈ r.rechecks, s = .opened) → r.pc = .ended how →
      how = .returned p ∧ r.frame = p.frame ∧ r.rQueue.events = rest ++ r.offered) ∧
    (∀ s ∈ r.rechecks, s ≠ .opened → ∀ how, r.pc = .ended how →
      how = .raised .invalidState ∧ r.rQueue.events = []) ∧
    (r.pc = .test none → r.status ≠ .opened → ∀ r' how,
      Run ReadCall.step (fun r l => r.isOver = false ∧ l ≠ .setStatus .opened) r r' →
      r'.pc = .ended how → how = .raised .invalidState ∧ r'.rQueue.events = []) ∧
    ((∃ p, some p ∈ r.rQueue.events) ∨ none ∈ r.rQueue.events ∧ r.status ≠ .opened →
      r.mutex ≠ some .other →
      ∃ n r', exec ReadCall.step (fun _ _ => True) r (List.replicate n .read) = some r' ∧
        r'.isOver = true) := by
  have hreading : Reading r₀.rQueue.events r := by
    apply h.invariant fun _ _ _ hactive hstep hr => hr.move hactive (.of_step hstep)
    exact reading_of_entered hpc hopen htaken hoffered hrechecks henter
  refine ⟨?_, ?_, ?_, ?_, ?_, fun hfed hfree => hreading.finishes (fed_of_mem hfed) hfree⟩
  · intro hfault
    have hphase := hreading.phase
    rw [hfault] at hphase
    exact hphase
  · intro p rest how hevents hover
    cases how with
    | returned q =>
      obtain ⟨rfl, hq⟩ := hreading.returned_eq (k := 0) hevents hover
      exact ⟨rfl, hq⟩
    | raised e => exact absurd hevents ((hreading.raised_eq hover).2.2.2 p rest)
  · intro k p rest how hevents hall hover
    cases how with
    | returned q =>
      obtain ⟨rfl, hq⟩ := hreading.returned_eq hevents hover
      exact ⟨rfl, hq⟩
    | raised e =>
      obtain ⟨-, -, ⟨s, hs, hne⟩, -⟩ := hreading.raised_eq hover
      exact absurd (hall s hs) hne
  · intro s hs hne how hover
    exact hreading.raises_of_recheck hs hne hover
  · intro hnull hclosed r' how hrun hover
    exact hreading.raises_of_null hnull hclosed hrun hover

/-- A sentinel of an earlier session before a frame, and one of the close that comes too late. -/
theorem read_handles_any_queue_leftover :
    ∃ r₀ r₁ r : ReadCall, (∃ p, r₀.rQueue.events = [none, some p]) ∧
      r₀.step .read = some r₁ ∧ Run ReadCall.step (fun r _ => r.isOver = false) r₁ r ∧
      r.offered = [none] ∧ r.frame.bytes = [0x0F] ∧ r.rQueue.events = [none] := by
  let p : FramePtr := ⟨0, ⟨[0x0F], by decide⟩⟩
  let r₀ : ReadCall :=
    ⟨.opened, ⟨[none, some p], 32, true, rfl, by decide⟩, none, .check, .empty, [], [], []⟩
  let r₁ : ReadCall := { r₀ with pc := .poll }
  obtain ⟨r, hrun, hr⟩ : ∃ r, Run ReadCall.step (fun r _ => r.isOver = false) r₁ r ∧
      decide (r.pc = .ended (.returned p) ∧ r.rechecks = [.opened] ∧ r.offered = [none]) = true :=
    Run.of_execSat (show execSat ReadCall.step (fun r _ => r.isOver = false)
      (fun r => decide (r.pc = .ended (.returned p) ∧ r.rechecks = [.opened] ∧
        r.offered = [none])) r₁
      (List.replicate 6 .read ++ [.lock, .setStatus .closing, .offer none, .unlock, .read, .read]) =
        true by decide +kernel)
  obtain ⟨hover, hrechecks, hoffered⟩ := of_decide_eq_true hr
  have henter : r₀.step .read = some r₁ := rfl
  obtain ⟨-, -, hskip, -⟩ := read_handles_any_queue rfl rfl rfl rfl rfl henter hrun
  obtain ⟨-, hframe, hevents⟩ :=
    hskip 1 p [] _ rfl (by rw [hrechecks]; exact List.forall_mem_singleton.mpr rfl) hover
  exact ⟨r₀, r₁, r, ⟨p, rfl⟩, henter, hrun, hoffered, by rw [hframe],
    by rw [hevents, hoffered]; rfl⟩

end ReadCall

end HdmiCec
