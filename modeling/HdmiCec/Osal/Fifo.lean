import HdmiCec.Osal.Queue

/-!
# The event queue is a bounded first-in-first-out queue

Whatever the interleaving of the threads: outside the sections under the mutex the deque is within
its capacity, the condition is set exactly when there is an event, and events leave in the order in
which they came, to the callers of `poll`. A section adds an event, refuses it, or takes the first
one, as the queue that it finds requires, and comes to its end. A thread that is the only one to
call `poll` gets an event whenever it is woken, and the default value only when somebody offered it.
-/

namespace HdmiCec

open Lib

variable {E : Type}

/-! ### From calls to the history of a queue -/

/-- What a call did to the queue. -/
def QueueCall.event : QueueCall E → Option (Fifo.Event E)
  | offered element => some (.accepted element)
  | raised element _ => some (.refused element)
  | polled (some front) _ => some (.popped front)
  | polled none _ => some .vacant
  | sized _ => none

/-- What a call of `poll` returned that took an event. -/
def QueueCall.returned : QueueCall E → Option (Option E)
  | polled (some _) returned => some returned
  | _ => none

namespace EventQueue

variable [Inhabited E] {q q₀ q' : EventQueue E} {log : List (QueueCall E)} {call : QueueCall E}

lemma Call.cap_eq (h : q.Call call q') : q'.cap = q.cap := by
  cases h with
  | @offered element _ h =>
    obtain ⟨_, hoffer⟩ | ⟨-, hoffer⟩ := q.offer_cases element
    · rw [hoffer] at h
      cases h
      rfl
    · rw [hoffer] at h
      cases h
  | raised _ => rfl
  | popped h =>
    rw [← cap_take q, h]
  | vacant h =>
    rw [← cap_take q, h]
  | sized => rfl

lemma Call.trace {xs₀ : List E} (h : q.Call call q')
    (htrace : Fifo.Trace q.cap xs₀ (log.filterMap QueueCall.event) q.events) :
    Fifo.Trace q.cap xs₀ ((log ++ [call]).filterMap QueueCall.event) q'.events := by
  rw [List.filterMap_append]
  cases h with
  | @offered element _ h =>
    obtain ⟨hroom, hoffer⟩ | ⟨-, hoffer⟩ := q.offer_cases element
    · rw [hoffer] at h
      cases h
      exact .accept element htrace hroom
    · rw [hoffer] at h
      cases h
  | @raised element _ h =>
    obtain ⟨_, hoffer⟩ | ⟨hfull, -⟩ := q.offer_cases element
    · rw [hoffer] at h
      cases h
    · exact .refuse element htrace hfull
  | @popped front _ h =>
    cases hq : q.events with
    | nil =>
      rw [take_of_nil hq] at h
      cases h
    | cons first rest =>
      obtain ⟨hfirst, hrest, -⟩ := take_of_cons hq
      rw [h] at hfirst hrest
      cases hfirst
      rw [hq] at htrace
      rw [hrest]
      exact .pop htrace
  | vacant h =>
    cases hq : q.events with
    | nil =>
      rw [take_of_nil hq] at h
      cases h
      rw [hq] at htrace ⊢
      exact .vacant htrace
    | cons first rest =>
      rw [Prod.ext_iff, (take_of_cons hq).1] at h
      cases h.1
  | sized =>
    change Fifo.Trace q.cap xs₀ (log.filterMap QueueCall.event ++ []) q.events
    rwa [List.append_nil]

/-- Calls made one after the other are a history of a bounded first-in-first-out queue. -/
theorem Calls.trace (h : q₀.Calls log q) :
    q.cap = q₀.cap ∧ Fifo.Trace q₀.cap q₀.events (log.filterMap QueueCall.event) q.events := by
  induction h with
  | nil => exact ⟨rfl, .nil⟩
  | snoc _ hcall ih =>
    obtain ⟨hcap, htrace⟩ := ih
    rw [← hcap] at htrace ⊢
    exact ⟨hcall.cap_eq, hcall.trace htrace⟩

/-- What `poll` returns is what it took, and the default value when there was nothing to take. -/
lemma Calls.returned (h : q₀.Calls log q) :
    log.filterMap QueueCall.returned =
        (Fifo.popped (log.filterMap QueueCall.event)).map some ∧
      ∀ r, .polled none r ∈ log → r = some default := by
  induction h with
  | nil => exact ⟨rfl, by simp⟩
  | snoc _ hcall ih =>
    obtain ⟨hreturned, hvacant⟩ := ih
    constructor
    · simp only [Fifo.popped, List.filterMap_append, List.map_append, hreturned]
      cases hcall <;> rfl
    · intro r hr
      obtain hr | hr := List.mem_append.mp hr
      · exact hvacant r hr
      · cases List.mem_singleton.mp hr
        cases hcall
        rfl

/-! ### What a call does to the queue that it finds -/

lemma Call.of_room {element : E} (h : q.Call call q') (hop : call.op = .offer element)
    (hroom : q.events.length < q.cap) :
    call = .offered element ∧ q'.events = q.events ++ [element] := by
  cases h with
  | offered h =>
    cases hop
    rw [result_offer_of_lt hroom] at h
    cases h
    exact ⟨rfl, rfl⟩
  | raised h =>
    cases hop
    rw [result_offer_of_lt hroom] at h
    cases h
  | popped | vacant | sized => cases hop

lemma Call.of_full {element : E} (h : q.Call call q') (hop : call.op = .offer element)
    (hfull : q.events.length = q.cap) : call = .raised element .osalInvalidState ∧ q' = q := by
  cases h with
  | offered h =>
    cases hop
    rw [result_offer_of_eq hfull] at h
    cases h
  | raised h =>
    cases hop
    rw [result_offer_of_eq hfull] at h
    cases h
    exact ⟨rfl, rfl⟩
  | popped | vacant | sized => cases hop

lemma Call.of_cons {front : E} {rest : List E} (h : q.Call call q') (hop : call.op = .poll)
    (hq : q.events = front :: rest) :
    call = .polled (some front) (some front) ∧ q'.events = rest := by
  obtain ⟨hfront, hrest, -⟩ := take_of_cons hq
  cases h with
  | popped h =>
    rw [h] at hfront hrest
    cases hfront
    exact ⟨rfl, hrest⟩
  | vacant h =>
    rw [h] at hfront
    cases hfront
  | offered | raised | sized => cases hop

lemma Call.of_nil (h : q.Call call q') (hop : call.op = .poll) (hq : q.events = []) :
    call = .polled none (some default) ∧ q' = q := by
  have htake := take_of_nil hq
  cases h with
  | popped h =>
    rw [htake] at h
    cases h
  | vacant h =>
    rw [htake] at h
    cases h
    exact ⟨rfl, rfl⟩
  | offered | raised | sized => cases hop

end EventQueue

namespace SharedQueue

/-- The elements of the offers that returned, in order. -/
def accepted (s : SharedQueue E) : List E := Fifo.accepted (s.log.filterMap QueueCall.event)

/-- The elements that were popped, in order. -/
def popped (s : SharedQueue E) : List E := Fifo.popped (s.log.filterMap QueueCall.event)

/-- What the calls of `poll` returned that popped an element, in order. -/
def returned (s : SharedQueue E) : List (Option E) := s.log.filterMap QueueCall.returned

variable [Inhabited E] {q : EventQueue E} {s u u' : SharedQueue E} {i cap : ℕ} {op : QueueOp E}

/-! ### A section, up to its end -/

/-- Thread `i` holds the mutex in a call of `op` that took it in `s` and found the queue `q`; or it
has just released it. -/
inductive Serves (cap : ℕ) (s : SharedQueue E) (q : EventQueue E) (i : ℕ) (op : QueueOp E)
    (u : SharedQueue E) : Prop
  | inside : Refines cap u q → u.mutex = some i → u.log = s.log → (u.threads i).op = some op →
    Serves cap s q i op u
  | complete {call : QueueCall E} {q' : EventQueue E} : q.Call call q' → call.op = op →
    u.mutex = none → u.log = s.log ++ [call] → u.events = q'.events → u.cond = q'.cond →
    Serves cap s q i op u

lemma Refines.serves {pc : QueuePC E} (hq : Refines cap s q) (hfree : s.mutex = none)
    (hop : pc.op = some op) (hpc : Phase q s.events s.cond pc) :
    Serves cap s q i op ({ s with mutex := some i }.goto i pc) :=
  .inside (hq.enter hfree hpc) rfl rfl (by rw [threads_goto, hop])

lemma Refines.serves_offer {element : E} (hq : Refines cap s q) (hfree : s.mutex = none)
    (hpc : s.threads i = .offerLock element) :
    ∃ t, s.step (.run i) = some t ∧ Serves cap s q i (.offer element) t :=
  ⟨_, by simp [SharedQueue.step, hpc, advance, lock, hfree],
    hq.serves hfree rfl (show Phase q s.events s.cond (.offerTest element) from hq.free hfree)⟩

lemma Refines.serves_poll (hq : Refines cap s q) (hfree : s.mutex = none)
    (hpc : s.threads i = .pollLock) : ∃ t, s.step (.run i) = some t ∧ Serves cap s q i .poll t :=
  ⟨_, by simp [SharedQueue.step, hpc, advance, lock, hfree],
    hq.serves hfree rfl (show Phase q s.events s.cond .pollIsSet from hq.free hfree)⟩

/-- While thread `i` holds the mutex, a step of any thread leaves it in its call, or ends it as one
of the queue `q`. -/
lemma Serves.step {l : QueueLabel E} (h : Serves cap s q i op u) (hmutex : u.mutex = some i)
    (hstep : u.step l = some u') : Serves cap s q i op u' := by
  cases h with
  | complete _ _ hnone =>
    rw [hmutex] at hnone
    cases hnone
  | inside hq _ hlog hop =>
    have hphase := hq.held i hmutex
    cases Step.of_step hstep with
    | @outside j pc hfrom hto =>
      have hne : i ≠ j := by
        rintro rfl
        exact not_phase_of_not_inSection hfrom hphase
      refine .inside (hq.outside hfrom hto) hmutex hlog ?_
      simpa only [goto, Function.update_of_ne hne] using hop
    | enter hfree _ =>
      rw [hmutex] at hfree
      cases hfree
    | @inside j _ hin hadvance =>
      obtain rfl : i = j := Option.some.inj (hmutex.symm.trans (hq.excluded j hin))
      obtain ⟨events, cond, pc, rfl, hpc⟩ | ⟨call, hcall, rfl⟩ :=
        phase_advance hphase hq.cap_eq hadvance
      · refine .inside (hq.inside hmutex hpc) hmutex hlog ?_
        obtain hsame | ⟨call, hcall⟩ := op_advance hadvance
        · rw [hsame, hop]
        · rw [hcall] at hadvance
          have hnone : u.mutex = none := (congrArg mutex (Option.some.inj hadvance)).symm
          rw [hmutex] at hnone
          cases hnone
      · rw [hcall] at hphase hop
        obtain ⟨q', hq', hevents, hcond, -⟩ := hphase
        exact .complete hq' (Option.some.inj hop) rfl (by rw [← hlog]; rfl) hevents hcond

lemma Serves.run (h : Serves cap s q i op u)
    (hrun : Run SharedQueue.step (fun v _ => v.mutex = some i) u u') : Serves cap s q i op u' :=
  hrun.invariant (fun _ _ _ hmutex hstep hv => hv.step hmutex hstep) h

/-- The steps of thread `i` alone lead out of the section. -/
lemma Serves.ends (h : Serves cap s q i op u) :
    ∃ u', Run SharedQueue.step (fun v _ => v.mutex = some i) u u' ∧ u'.mutex = none := by
  have hexec : ∃ n u', exec SharedQueue.step (fun v _ => v.mutex = some i) u
      (List.replicate n (.run i)) = some u' ∧ u'.mutex = none := by
    apply exists_exec_of_rank (I := Serves cap s q i op) (fun v => (v.threads i).left) _ h
    intro v hv hheld
    cases hv with
    | complete _ _ hnone => exact absurd hnone hheld
    | inside hq hmutex hlog hop =>
      obtain ⟨v', hadvance⟩ := Option.isSome_iff_exists.mp (advance_of_phase (hq.held i hmutex) i)
      have hstep : v.step (.run i) = some v' := hadvance
      exact ⟨hmutex, v', hstep, (Serves.inside hq hmutex hlog hop).step hmutex hstep,
        left_advance hadvance⟩
  obtain ⟨n, u', hexec, hnone⟩ := hexec
  exact ⟨u', .of_exec hexec, hnone⟩

/-- Thread `i` can take the mutex. Its section ends as `call` and leaves `events`, whatever the
other threads do meanwhile; and it does end. -/
def Performs (s : SharedQueue E) (i : ℕ) (call : QueueCall E) (events : List E) : Prop :=
  ∃ t, s.step (.run i) = some t ∧
    (∀ u, Run SharedQueue.step (fun v _ => v.mutex = some i) t u → u.mutex = none →
      u.log = s.log ++ [call] ∧ u.events = events ∧ (u.cond = true ↔ events ≠ [])) ∧
    ∃ u, Run SharedQueue.step (fun v _ => v.mutex = some i) t u ∧ u.mutex = none

lemma Serves.performs {t : SharedQueue E} {call : QueueCall E} {events : List E}
    (h : Serves cap s q i op t) (hstep : s.step (.run i) = some t)
    (hcall : ∀ call' q', q.Call call' q' → call'.op = op → call' = call ∧ q'.events = events) :
    s.Performs i call events := by
  refine ⟨t, hstep, ?_, h.ends⟩
  intro u hrun hnone
  cases h.run hrun with
  | inside _ hmutex =>
    rw [hnone] at hmutex
    cases hmutex
  | @complete call' q' hq' hop _ hlog hevents hcond =>
    obtain ⟨rfl, rfl⟩ := hcall call' q' hq' hop
    exact ⟨hlog, hevents, by rw [hcond]; exact q'.ready_iff⟩

/-- A section that offers to a full queue leaves it alone at every moment. -/
lemma Serves.full {element : E} (h : Serves cap s q i (.offer element) u)
    (hfull : q.events.length = q.cap) :
    u.events = q.events ∧ u.cond = q.cond ∧
      (u.mutex = none → u.log = s.log ++ [.raised element .osalInvalidState]) := by
  cases h with
  | complete hcall hop hnone hlog hevents hcond =>
    obtain ⟨rfl, rfl⟩ := hcall.of_full hop hfull
    exact ⟨hevents, hcond, fun _ => hlog⟩
  | inside hq hmutex _ hop =>
    have hphase := hq.held i hmutex
    have hnot : u.mutex ≠ none := by simp [hmutex]
    generalize u.threads i = pc at hphase hop
    cases pc with
    | offerTest => exact ⟨hphase.1, hphase.2, fun hnone => absurd hnone hnot⟩
    | offerPush | offerSet | offerNotify => exact absurd hfull (Nat.ne_of_lt hphase.2.2)
    | unlock call =>
      obtain ⟨q', hcall, hevents, hcond, -⟩ := hphase
      obtain ⟨-, rfl⟩ := hcall.of_full (Option.some.inj hop) hfull
      exact ⟨hevents, hcond, fun hnone => absurd hnone hnot⟩
    | idle | offerLock | sizeLock | pollWait | pollLock => cases hphase
    | _ => cases hop

end SharedQueue

/-! ### A single consumer -/

namespace SharedQueue

/-- The guard of the runs in which only thread `c` calls `poll`. -/
def OnlyConsumer (c : ℕ) (_ : SharedQueue E) : QueueLabel E → Prop
  | .poll i => i = c
  | _ => True

instance (c : ℕ) (s : SharedQueue E) (l : QueueLabel E) : Decidable (OnlyConsumer c s l) :=
  match l with
  | .poll i => inferInstanceAs (Decidable (i = c))
  | .offer _ _ | .size _ | .run _ => .isTrue trivial

end SharedQueue

/-- The thread is in `poll`. -/
def QueuePC.polling : QueuePC E → Bool
  | pollWait | pollLock | pollIsSet | pollEmpty | pollIsSetAgain | pollEmptyAgain | pollFront
  | pollPop _ | pollLast _ _ | pollReset _ _ | unlock (.polled _ _) => true
  | _ => false

/-- The thread has been woken in `poll` and has not looked at the deque yet. -/
def QueuePC.awake : QueuePC E → Bool
  | pollLock | pollIsSet | pollEmpty => true
  | _ => false

namespace SharedQueue

/-- Thread `c` is the only consumer: the events it was woken for are still there, and no call of
`poll` has found the queue vacant. -/
structure Consumes (c : ℕ) (s : SharedQueue E) : Prop where
  others : ∀ i, i ≠ c → (s.threads i).polling = false
  ready : (s.threads c).awake = true → s.cond = true ∧ s.events ≠ []
  taken : ∀ r, s.threads c ≠ .unlock (.polled none r)
  log : ∀ r, .polled none r ∉ s.log

variable {q : EventQueue E} {s s' : SharedQueue E} {i c cap : ℕ}

/-- The consumer takes a step: it is awake only with an event for it, and has not found the queue
vacant. -/
lemma Consumes.of_self {pc : QueuePC E} (h : s.Consumes c)
    (hthreads : s'.threads = Function.update s.threads c pc)
    (hlog : ∀ r, .polled none r ∈ s'.log → .polled none r ∈ s.log)
    (hready : pc.awake = true → s'.cond = true ∧ s'.events ≠ [])
    (htaken : ∀ r, pc ≠ .unlock (.polled none r)) : s'.Consumes c := by
  have hc : s'.threads c = pc := by rw [hthreads, Function.update_self]
  refine ⟨?_, ?_, ?_, fun r hr => h.log r (hlog r hr)⟩
  · intro j hj
    rw [hthreads, Function.update_of_ne hj]
    exact h.others j hj
  · rw [hc]
    exact hready
  · rw [hc]
    exact htaken

/-- Another thread takes a step: it stays outside `poll` and leaves the events to the consumer. -/
lemma Consumes.of_other {pc : QueuePC E} (h : s.Consumes c) (hne : i ≠ c)
    (hthreads : s'.threads = Function.update s.threads i pc) (hpc : pc.polling = false)
    (hlog : ∀ r, .polled none r ∈ s'.log → .polled none r ∈ s.log)
    (hready : s.cond = true ∧ s.events ≠ [] → s'.cond = true ∧ s'.events ≠ []) :
    s'.Consumes c := by
  have hc : s'.threads c = s.threads c := by rw [hthreads, Function.update_of_ne hne.symm]
  refine ⟨?_, ?_, ?_, fun r hr => h.log r (hlog r hr)⟩
  · intro j hj
    by_cases hji : j = i
    · rw [hthreads, hji, Function.update_self]
      exact hpc
    · rw [hthreads, Function.update_of_ne hji]
      exact h.others j hj
  · rw [hc]
    exact fun hawake => hready (h.ready hawake)
  · rw [hc]
    exact h.taken

lemma Consumes.call {pc : QueuePC E} (h : s.Consumes c) (hstep : s.call i pc = some s')
    (hpc : pc.polling = true → i = c) (hawake : pc.awake = false)
    (htaken : ∀ r, pc ≠ .unlock (.polled none r)) : s'.Consumes c := by
  unfold SharedQueue.call at hstep
  split at hstep
  · cases hstep
    by_cases hi : i = c
    · subst hi
      exact h.of_self rfl (fun _ => id) (by simp [hawake]) htaken
    · have hpolling : pc.polling = false := Bool.eq_false_iff.mpr fun hpolling => hi (hpc hpolling)
      exact h.of_other hi rfl hpolling (fun _ => id) id
  · cases hstep

variable [Inhabited E]

/-- Outside `poll` the condition is not set while the deque is empty. -/
lemma Phase.events_ne_nil {events : List E} {cond : Bool} {pc : QueuePC E}
    (h : Phase q events cond pc) (hpc : pc.polling = false) (hcond : cond = true) :
    events ≠ [] := by
  have hq : events = q.events → cond = q.cond → events ≠ [] := by
    intro hevents hset
    rw [hevents]
    exact q.ready_iff.mp (hset.symm.trans hcond)
  cases pc with
  | offerTest element => exact hq h.1 h.2
  | offerPush element => exact hq h.1 h.2.1
  | offerSet element => simp [h.1]
  | offerNotify element => simp [h.1]
  | sizeRead => exact hq h.1 h.2
  | unlock call =>
    obtain ⟨q', -, hevents, hset, -⟩ := h
    rw [hevents]
    exact q'.ready_iff.mp (hset.symm.trans hcond)
  | idle => cases h
  | offerLock element => cases h
  | sizeLock => cases h
  | _ => cases hpc

lemma Refines.events_ne_nil (h : Refines cap s q)
    (hpolling : ∀ i, s.mutex = some i → (s.threads i).polling = false) (hcond : s.cond = true) :
    s.events ≠ [] := by
  cases hmutex : s.mutex with
  | none =>
    obtain ⟨hevents, hset⟩ := h.free hmutex
    rw [hevents]
    exact q.ready_iff.mp (hset.symm.trans hcond)
  | some i => exact (h.held i hmutex).events_ne_nil (hpolling i hmutex) hcond

/-- A thread outside `poll` adds to the deque and sets the condition, never the other way round, and
it does not come to be in `poll`. -/
lemma advance_of_not_polling {pc : QueuePC E} (hpc : pc.polling = false)
    (hstep : s.advance i pc = some s') :
    (∃ added, s'.events = s.events ++ added) ∧ (s.cond = true → s'.cond = true) ∧
      (∀ r, .polled none r ∈ s'.log → .polled none r ∈ s.log) ∧
      ∃ pc', s'.threads = Function.update s.threads i pc' ∧ pc'.polling = false := by
  cases pc with
  | idle => cases hstep
  | offerLock | sizeLock =>
    simp only [advance, lock] at hstep
    split at hstep
    · cases hstep
      exact ⟨⟨[], (List.append_nil _).symm⟩, id, fun _ => id, _, rfl, rfl⟩
    · cases hstep
  | offerTest element =>
    cases hstep
    refine ⟨⟨[], (List.append_nil _).symm⟩, id, fun _ => id, _, rfl, ?_⟩
    split <;> rfl
  | offerPush element =>
    cases hstep
    exact ⟨⟨[element], rfl⟩, id, fun _ => id, _, rfl, rfl⟩
  | offerSet | offerNotify =>
    cases hstep
    exact ⟨⟨[], (List.append_nil _).symm⟩, fun _ => rfl, fun _ => id, _, rfl, rfl⟩
  | sizeRead =>
    cases hstep
    exact ⟨⟨[], (List.append_nil _).symm⟩, id, fun _ => id, _, rfl, rfl⟩
  | unlock call =>
    cases hstep
    refine ⟨⟨[], (List.append_nil _).symm⟩, id, ?_, _, rfl, rfl⟩
    intro r hr
    obtain hr | hr := List.mem_append.mp hr
    · exact hr
    · cases List.mem_singleton.mp hr
      cases hpc
  | _ => cases hpc

/-- A thread that was woken for events that are still there takes one of them. -/
lemma advance_of_polling {pc : QueuePC E}
    (hphase : pc.inSection = true → Phase q s.events s.cond pc)
    (hready : pc.awake = true ∨ pc = .pollWait → s.cond = true → s.events ≠ [])
    (hcond : pc.awake = true → s.cond = true) (hpc : pc.polling = true)
    (htaken : ∀ r, pc ≠ .unlock (.polled none r)) (hstep : s.advance i pc = some s') :
    (∀ r, .polled none r ∈ s'.log → .polled none r ∈ s.log) ∧
      ∃ pc', s'.threads = Function.update s.threads i pc' ∧
        (pc'.awake = true → s'.cond = true ∧ s'.events ≠ []) ∧
        ∀ r, pc' ≠ .unlock (.polled none r) := by
  cases pc with
  | pollWait =>
    simp only [advance] at hstep
    split at hstep
    · rename_i hset
      cases hstep
      exact ⟨fun _ => id, _, rfl, fun _ => ⟨hset, hready (.inr rfl) hset⟩, by simp⟩
    · cases hstep
  | pollLock =>
    have hset := hcond rfl
    simp only [advance, lock] at hstep
    split at hstep
    · cases hstep
      exact ⟨fun _ => id, _, rfl, fun _ => ⟨hset, hready (.inl rfl) hset⟩, by simp⟩
    · cases hstep
  | pollIsSet =>
    have hset := hcond rfl
    cases hstep
    rw [if_neg (by simp [hset])]
    exact ⟨fun _ => id, _, rfl, fun _ => ⟨hset, hready (.inl rfl) hset⟩, by simp⟩
  | pollEmpty =>
    have hne := hready (.inl rfl) (hcond rfl)
    cases hstep
    rw [if_neg (by simpa using hne)]
    exact ⟨fun _ => id, _, rfl, by simp [QueuePC.awake], by simp⟩
  | pollIsSetAgain =>
    obtain ⟨-, hset, hne⟩ := hphase rfl
    cases hstep
    rw [if_pos (hset.trans (q.ready_iff.mpr hne))]
    exact ⟨fun _ => id, _, rfl, by simp [QueuePC.awake], by simp⟩
  | pollEmptyAgain =>
    obtain ⟨hevents, -, hne⟩ := hphase rfl
    cases hstep
    rw [if_pos (by simpa [hevents] using hne)]
    exact ⟨fun _ => id, _, rfl, by simp [QueuePC.awake], by simp⟩
  | pollFront =>
    obtain ⟨front, -, rfl⟩ := Option.map_eq_some_iff.mp hstep
    exact ⟨fun _ => id, _, rfl, by simp [QueuePC.awake], by simp⟩
  | pollPop front =>
    cases hstep
    exact ⟨fun _ => id, _, rfl, by simp [QueuePC.awake], by simp⟩
  | pollLast popped front =>
    obtain ⟨rfl, -, -⟩ := hphase rfl
    cases hstep
    refine ⟨fun _ => id, _, rfl, ?_, ?_⟩
    · split <;> intro h <;> cases h
    · split <;> simp
  | pollReset popped front =>
    obtain ⟨v, rfl, -, -, -, -⟩ := hphase rfl
    cases hstep
    exact ⟨fun _ => id, _, rfl, by simp [QueuePC.awake], by simp⟩
  | unlock call =>
    cases hstep
    refine ⟨?_, _, rfl, by simp [QueuePC.awake], by simp⟩
    intro r hr
    obtain hr | hr := List.mem_append.mp hr
    · exact hr
    · exact absurd (congrArg _ (List.mem_singleton.mp hr).symm) (htaken r)
  | _ => cases hpc

lemma Consumes.run_other (h : s.Consumes c) (hne : i ≠ c)
    (hstep : s.advance i (s.threads i) = some s') : s'.Consumes c := by
  obtain ⟨⟨added, hevents⟩, hcond, hlog, pc', hthreads, hpc'⟩ :=
    advance_of_not_polling (h.others i hne) hstep
  apply h.of_other hne hthreads hpc' hlog
  rintro ⟨hset, hevents_ne⟩
  exact ⟨hcond hset, by simp [hevents, hevents_ne]⟩

lemma Consumes.run_self (h : s.Consumes c) (hq : Refines cap s q)
    (hstep : s.advance c (s.threads c) = some s') : s'.Consumes c := by
  by_cases hpolling : (s.threads c).polling = true
  · have hready : (s.threads c).awake = true ∨ s.threads c = .pollWait →
        s.cond = true → s.events ≠ [] := by
      rintro (hawake | hwait) hset
      · exact (h.ready hawake).2
      · apply hq.events_ne_nil _ hset
        intro i hi
        apply h.others
        rintro rfl
        have := hq.held i hi
        rw [hwait] at this
        exact this
    obtain ⟨hlog, pc', hthreads, hawake, htaken⟩ :=
      advance_of_polling (fun hin => hq.held c (hq.excluded c hin)) hready
        (fun ha => (h.ready ha).1) hpolling h.taken hstep
    exact h.of_self hthreads hlog hawake htaken
  · obtain ⟨-, -, hlog, pc', hthreads, hpc'⟩ :=
      advance_of_not_polling (by simpa using hpolling) hstep
    apply h.of_self hthreads hlog
    · intro hawake
      cases pc' <;> cases hawake <;> cases hpc'
    · rintro r rfl
      cases hpc'

/-- Every step of a run with one consumer keeps its events for it. -/
lemma Consumes.step {l : QueueLabel E} (h : s.Consumes c) (hq : Refines cap s q)
    (hok : OnlyConsumer c s l) (hstep : s.step l = some s') : s'.Consumes c := by
  cases l with
  | offer i element => exact h.call hstep (by simp [QueuePC.polling]) rfl (by simp)
  | poll i => exact h.call hstep (fun _ => hok) rfl (by simp)
  | size i => exact h.call hstep (by simp [QueuePC.polling]) rfl (by simp)
  | run i =>
    by_cases hi : i = c
    · subst hi
      exact h.run_self hq hstep
    · exact h.run_other hi hstep

lemma consumes_of_run (h : Run SharedQueue.step (OnlyConsumer c) (new cap) s) :
    s.Consumes c := by
  have hboth : (∃ q, Refines cap s q) ∧ s.Consumes c := by
    apply h.invariant (I := fun s => (∃ q, Refines cap s q) ∧ s.Consumes c)
    · rintro s l s' hok hstep ⟨⟨q, hq⟩, hc⟩
      exact ⟨hq.step hstep, hc.step hq hok hstep⟩
    · exact ⟨⟨_, refines_new cap⟩, fun _ _ => rfl, by simp [new, QueuePC.awake], by simp [new],
        by simp [new]⟩
  exact hboth.2

/-! ### The queue -/

/-- Outside the sections, the queue is bounded and in order and its condition tells whether it is
empty; what was popped went to the callers of `poll`, in order, and a call that found nothing
returned the default value.

An offer to a queue with room adds its element. A thread that waits in `poll` goes on when there is
an element, and its section takes the first one, or none if the queue is empty again. An offer that
finds the queue full throws and changes nothing, whatever the other threads do meanwhile.

A single consumer finds an element whenever it has been woken, and gets the default value only if
that was offered. -/
theorem shared_queue_is_bounded_fifo {E : Type} [Inhabited E] {cap : ℕ} {s : SharedQueue E}
    (h : Run SharedQueue.step (fun _ _ => True) (new cap) s) :
    (s.mutex = none →
      s.events.length ≤ cap ∧ (s.cond = true ↔ s.events ≠ []) ∧
      s.popped ++ s.events = s.accepted) ∧
    s.returned = s.popped.map some ∧ (∀ r, .polled none r ∈ s.log → r = some default) ∧
    (s.mutex = none → ∀ i,
      (∀ element, s.threads i = .offerLock element → s.events.length < cap →
        s.Performs i (.offered element) (s.events ++ [element])) ∧
      (s.threads i = .pollWait → s.events ≠ [] → s.step (.run i) = some (s.goto i .pollLock)) ∧
      (∀ front rest, s.threads i = .pollLock → s.events = front :: rest →
        s.Performs i (.polled (some front) (some front)) rest) ∧
      (s.threads i = .pollLock → s.events = [] →
        s.Performs i (.polled none (some default)) [])) ∧
    (∀ i element, s.mutex = none → s.events.length = cap → s.threads i = .offerLock element →
      ∃ t, s.step (.run i) = some t ∧
        (∀ u, Run SharedQueue.step (fun v _ => v.mutex = some i) t u →
          u.events = s.events ∧ u.cond = s.cond ∧
          (u.mutex = none → u.log = s.log ++ [.raised element .osalInvalidState])) ∧
        ∃ u, Run SharedQueue.step (fun v _ => v.mutex = some i) t u ∧ u.mutex = none) ∧
    (∀ c, Run SharedQueue.step (OnlyConsumer c) (new cap) s →
      (s.threads c = .pollLock → s.events ≠ []) ∧ (∀ r, .polled none r ∉ s.log) ∧
      ∀ p, .polled p (some default) ∈ s.log → default ∈ s.accepted) := by
  obtain ⟨q, hq⟩ := exists_refines_of_run h
  obtain ⟨hcap, htrace⟩ := hq.calls.trace
  obtain ⟨hreturned, hvacant⟩ := hq.calls.returned
  have hqcap : q.cap = cap := hcap
  refine ⟨?_, hreturned, hvacant, ?_, ?_, ?_⟩
  · intro hfree
    obtain ⟨hevents, hcond⟩ := hq.free hfree
    rw [hevents, hcond]
    exact ⟨htrace.length_le (Nat.zero_le _), q.ready_iff, htrace.conservation⟩
  · intro hfree i
    obtain ⟨hevents, hcond⟩ := hq.free hfree
    refine ⟨?_, ?_, ?_, ?_⟩
    · intro element hpc hroom
      obtain ⟨t, ht, hserves⟩ := hq.serves_offer hfree hpc
      apply hserves.performs ht
      intro call q' hcall hop
      rw [hevents, ← hqcap] at hroom
      rw [hevents]
      exact hcall.of_room hop hroom
    · intro hpc hne
      have hset : s.cond = true := by
        rw [hcond]
        exact q.ready_iff.mpr (hevents ▸ hne)
      simp [SharedQueue.step, hpc, advance, hset]
    · intro front rest hpc hcons
      obtain ⟨t, ht, hserves⟩ := hq.serves_poll hfree hpc
      apply hserves.performs ht
      intro call q' hcall hop
      exact hcall.of_cons hop (hevents.symm.trans hcons)
    · intro hpc hnil
      obtain ⟨t, ht, hserves⟩ := hq.serves_poll hfree hpc
      apply hserves.performs ht
      intro call q' hcall hop
      have hqnil := hevents.symm.trans hnil
      obtain ⟨hvacant, rfl⟩ := hcall.of_nil hop hqnil
      exact ⟨hvacant, hqnil⟩
  · intro i element hfree hfull hpc
    obtain ⟨hevents, hcond⟩ := hq.free hfree
    obtain ⟨t, ht, hserves⟩ := hq.serves_offer hfree hpc
    refine ⟨t, ht, ?_, hserves.ends⟩
    intro u hrun
    rw [hevents, ← hqcap] at hfull
    rw [hevents, hcond]
    exact (hserves.run hrun).full hfull
  · intro c hc
    have hconsumes := consumes_of_run hc
    refine ⟨fun hpc => (hconsumes.ready (by rw [hpc]; rfl)).2, hconsumes.log, ?_⟩
    intro p hmem
    cases p with
    | none => exact absurd hmem (hconsumes.log _)
    | some front =>
      have hmem : some default ∈ s.returned := List.mem_filterMap.mpr ⟨_, hmem, rfl⟩
      rw [show s.returned = s.popped.map some from hreturned] at hmem
      obtain ⟨_, hpopped, hdefault⟩ := List.mem_map.mp hmem
      cases hdefault
      obtain hnil | haccepted := htrace.mem_of_popped hpopped
      · cases hnil
      · exact haccepted

/-- A queue of capacity 1 that holds its second event, with a thread that offers a third one and a
single consumer that has got the first one. -/
theorem shared_queue_of_one_is_bounded_fifo :
    ∃ s : SharedQueue ℕ, s.log = [.offered 7, .polled (some 7) (some 7), .offered 9] ∧
      s.cond = true ∧ s.popped ++ s.events = s.accepted ∧ s.returned = s.popped.map some ∧
      s.Performs 2 (.polled (some 9) (some 9)) [] ∧
      (∃ t, s.step (.run 1) = some t ∧
        ∃ u, Run SharedQueue.step (fun v _ => v.mutex = some 1) t u ∧ u.mutex = none) ∧
      ∀ r, .polled none r ∉ s.log := by
  obtain ⟨s, hrun, hs⟩ : ∃ s : SharedQueue ℕ, Run SharedQueue.step (OnlyConsumer 2) (new 1) s ∧
      decide (s.log = [.offered 7, .polled (some 7) (some 7), .offered 9] ∧ s.mutex = none ∧
        s.events = [9] ∧ s.threads 1 = .offerLock 8 ∧ s.threads 2 = .pollLock) = true :=
    Run.of_execSat (show execSat SharedQueue.step (OnlyConsumer 2)
      (fun s => decide (s.log = [.offered 7, .polled (some 7) (some 7), .offered 9] ∧
        s.mutex = none ∧ s.events = [9] ∧ s.threads 1 = .offerLock 8 ∧ s.threads 2 = .pollLock))
      (new 1)
      (.offer 0 7 :: List.replicate 6 (.run 0) ++ .poll 2 :: List.replicate 11 (.run 2) ++
        .offer 0 9 :: List.replicate 6 (.run 0) ++ [.poll 2, .run 2, .offer 1 8]) = true by
        decide +kernel)
  obtain ⟨hlog, hfree, hevents, hoffer, hpoll⟩ := of_decide_eq_true hs
  obtain ⟨hqueue, hreturned, -, hsection, hfull, hconsumer⟩ :=
    shared_queue_is_bounded_fifo (hrun.mono fun _ _ _ => trivial)
  obtain ⟨-, hcond, horder⟩ := hqueue hfree
  obtain ⟨-, -, htakes, -⟩ := hsection hfree 2
  obtain ⟨t, ht, -, hends⟩ := hfull 1 8 hfree (by rw [hevents]; rfl) hoffer
  exact ⟨s, hlog, hcond.mpr (by simp [hevents]), horder, hreturned, htakes 9 [] hpoll hevents,
    ⟨t, ht, hends⟩, (hconsumer 2 hrun).2.1⟩

end SharedQueue

end HdmiCec
