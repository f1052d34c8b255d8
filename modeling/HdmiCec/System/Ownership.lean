import Mathlib.Algebra.Order.Group.Multiset
import HdmiCec.Lib.Heap
import HdmiCec.System.Isolation

/-!
# Who owns the frames

The frames that travel through the queues are on the heap: `DriverReceiveCallback` and `sendAsync`
allocate them, `read` and the writer delete what they have taken, and whoever is refused by a full
queue or a closed driver deletes the frame again. The operations on the heap are read off the source
for each step, and run beside it.

In every run no frame is used or deleted after it was deleted, and the frames that are allocated are
those of the callbacks, of the queues and in the hands of the workers, each owned once.
-/

namespace HdmiCec

open Lib DriverImpl

/-! ### The operations on the heap -/

/-- The frame that a reader thread copies and deletes in its next step. -/
def State.readerDrops (s : State) : ReaderPC → Option FramePtr
  | .got p => some p
  | .flushPop => s.rQueue.take.1.join
  | _ => none

/-- `frame = *inFrame; delete inFrame`. -/
def State.readerOps (s : State) (pc : ReaderPC) : List HeapOp :=
  match s.readerDrops pc with
  | some p => [.use p.addr, .delete p.addr]
  | none => []

/-- The writer reads the frame in `write` and deletes it, unless an exception has ended the process.
The sentinel is `NULL`, and deleting it does nothing. -/
def State.writerOps (s : State) (err sendResult : ℤ) : WriterPC → List HeapOp
  | .write p =>
    if (writeMove s p err sendResult).escaped = none then
      [.use p.addr, .delete p.addr]
    else
      [.use p.addr]
  | .drainPop =>
    match s.wQueue.take.1.join with
    | some p => [.delete p.addr]
    | none => []
  | _ => []

/-- What a step does to the heap. The addresses that are allocated are taken from `nextAddr`. -/
def heapOps (s : State) : Label → List HeapOp
  | .receive frame =>
    if frame.length = 0 then
      []
    else if s.status = .opened then
      [.new s.nextAddr, .use s.nextAddr]
    else
      -- `getIncomingQueue` throws and the handler deletes the frame
      [.new s.nextAddr, .use s.nextAddr, .delete s.nextAddr]
  | .offer j =>
    match s.callbacks[j]? with
    | some p => if s.rQueue.events.length = s.rQueue.cap then [.delete p.addr] else []
    | none => []
  | .sendAsync _ =>
    if s.started then
      if s.wQueue.events.length = s.wQueue.cap then
        [.new s.nextAddr, .use s.nextAddr, .delete s.nextAddr]
      else
        [.new s.nextAddr, .use s.nextAddr]
    else
      []
  | .reader i =>
    match s.readers[i]? with
    | some pc => s.readerOps pc
    | none => []
  | .writer i err sendResult =>
    match s.writers[i]? with
    | some pc => s.writerOps err sendResult pc
    | none => []
  | .callInit | .callTerm | .callBusStart | .callBusStop | .ctl _ => []

/-- The system with its heap. A fault is kept and does not stop the run. -/
def heapStep (x : State × Option (Finset ℕ)) (l : Label) : Option (State × Option (Finset ℕ)) :=
  (step x.1 l).map fun t => (t, x.2.bind (HeapOp.runAll · (heapOps x.1 l)))

/-! ### The owners -/

/-- The addresses of some frames. -/
def addrs (ps : List FramePtr) : Multiset ℕ := ps.map FramePtr.addr

@[simp] lemma addrs_nil : addrs [] = 0 := rfl

@[simp] lemma addrs_cons (p : FramePtr) (ps : List FramePtr) :
    addrs (p :: ps) = p.addr ::ₘ addrs ps := rfl

@[simp] lemma addrs_append (ps qs : List FramePtr) : addrs (ps ++ qs) = addrs ps + addrs qs := by
  simp [addrs]

lemma addrs_getElem {ps : List FramePtr} {p : FramePtr} {j : ℕ} (h : ps[j]? = some p) :
    addrs ps = p.addr ::ₘ addrs (ps.eraseIdx j) := by
  obtain ⟨hj, rfl⟩ := List.getElem?_eq_some_iff.mp h
  exact Multiset.coe_eq_coe.mpr ((List.getElem_cons_eraseIdx_perm hj).map FramePtr.addr).symm

/-- The frames of the callbacks, those on their way in and those on their way out. -/
def State.owned (s : State) : Multiset ℕ :=
  addrs s.callbacks + addrs s.incoming + addrs s.outgoing

/-! ### What a step does to the owners -/

section Threads

variable {PC : Type} {hand : PC → List FramePtr} {threads : List PC} {i : ℕ} {pc : PC}
  {o : Option PC}

lemma addrs_moveThread (hpc : threads[i]? = some pc) :
    addrs ((moveThread threads i o).flatMap hand) + addrs (hand pc) =
      addrs (threads.flatMap hand) + addrs (o.toList.flatMap hand) := by
  obtain ⟨hi, rfl⟩ := List.getElem?_eq_some_iff.mp hpc
  have hthreads : threads = threads.take i ++ threads[i] :: threads.drop (i + 1) := by
    rw [List.getElem_cons_drop, List.take_append_drop]
  have hmove : moveThread threads i o =
      threads.take i ++ (o.toList ++ threads.drop (i + 1)) := by
    cases o with
    | none => exact List.eraseIdx_eq_take_drop_succ ..
    | some pc => simp [moveThread, List.set_eq_take_append_cons_drop, hi]
  rw [hmove]
  conv_rhs => rw [hthreads]
  simp only [List.flatMap_append, List.flatMap_cons, addrs_append]
  ac_rfl

/-- A thread that drops `d` of what it held and what was queued leaves the rest to the others. -/
lemma addrs_moveThread_drop {queued queued' : List FramePtr} {d : Multiset ℕ}
    (hpc : threads[i]? = some pc)
    (hd : addrs (hand pc) + addrs queued =
      d + (addrs (o.toList.flatMap hand) + addrs queued')) :
    addrs (threads.flatMap hand ++ queued) =
      d + addrs ((moveThread threads i o).flatMap hand ++ queued') := by
  have hmove : addrs ((moveThread threads i o).flatMap hand) + addrs (hand pc) =
      addrs (threads.flatMap hand) + addrs (o.toList.flatMap hand) := addrs_moveThread hpc
  apply add_right_cancel (b := addrs (o.toList.flatMap hand))
  calc addrs (threads.flatMap hand ++ queued) + addrs (o.toList.flatMap hand)
      = (addrs (threads.flatMap hand) + addrs (o.toList.flatMap hand)) + addrs queued := by
        rw [addrs_append]
        ac_rfl
    _ = addrs ((moveThread threads i o).flatMap hand) + (addrs (hand pc) + addrs queued) := by
        rw [← hmove]
        ac_rfl
    _ = d + addrs ((moveThread threads i o).flatMap hand ++ queued') +
          addrs (o.toList.flatMap hand) := by
        rw [hd, addrs_append]
        ac_rfl

end Threads

variable {s t : State} {l : Label} {live : Finset ℕ}

lemma addrs_frames_take (q : FrameQueue) :
    addrs q.frames = addrs q.take.1.join.toList + addrs q.take.2.frames := by
  cases h : q.take.1.join with
  | none => simp [EventQueue.frames_of_take_none h]
  | some p => simp [EventQueue.frames_of_take_some (Option.join_eq_some_iff.mp h)]

/-- A reader thread keeps what it takes from the queue until it drops it. -/
lemma ReaderStep.balance {pc : ReaderPC} {m : ReaderMove} (h : ReaderStep s pc m) :
    addrs pc.hand + addrs s.rQueue.frames =
      addrs (s.readerDrops pc).toList +
        (addrs (m.pc.toList.flatMap ReaderPC.hand) + addrs m.rQueue.frames) := by
  cases h with
  | pop htake =>
    simp [ReaderPC.hand, State.readerDrops, EventQueue.frames_of_take_some htake]
  | popNull htake =>
    simp [ReaderPC.hand, State.readerDrops, EventQueue.frames_of_take_none htake]
  | got => simp [ReaderPC.hand, State.readerDrops]
  | flushPop => simp [ReaderPC.hand, State.readerDrops, addrs_frames_take s.rQueue]
  | _ => simp [ReaderMove.goto, ReaderPC.hand, State.readerDrops]

/-- The frame that a writer thread deletes in its next step. -/
def State.writerDrops (s : State) (err sendResult : ℤ) : WriterPC → Option FramePtr
  | .write p => if (writeMove s p err sendResult).escaped = none then some p else none
  | .drainPop => s.wQueue.take.1.join
  | _ => none

/-- The writer goes on with its loop unless an exception ends the process. -/
lemma writeMove_pc (s : State) (p : FramePtr) (err sendResult : ℤ) :
    (writeMove s p err sendResult).pc =
      some (if (writeMove s p err sendResult).escaped = none then .test else .write p) := by
  cases hresult : (DriverImpl.write s.status err sendResult p.frame).result with
  | ok => simp [writeMove, hresult]
  | error e =>
    simp only [writeMove, hresult]
    split <;> simp

lemma WriterStep.balance {err sendResult : ℤ} {pc : WriterPC} {m : WriterMove}
    (h : WriterStep s err sendResult pc m) :
    addrs pc.hand + addrs s.wQueue.frames =
      addrs (s.writerDrops err sendResult pc).toList +
        (addrs (m.pc.toList.flatMap WriterPC.hand) + addrs m.wQueue.frames) := by
  cases h with
  | pop htake =>
    simp [WriterPC.hand, State.writerDrops, EventQueue.frames_of_take_some htake]
  | popNull htake =>
    simp [WriterPC.hand, State.writerDrops, EventQueue.frames_of_take_none htake]
  | @write p _ =>
    rw [writeMove_pc, (writeMove_frame s p err sendResult).2.1, State.writerDrops]
    split <;> simp [WriterPC.hand]
  | drainPop => simp [WriterPC.hand, State.writerDrops, addrs_frames_take s.wQueue]
  | _ => simp [WriterMove.goto, WriterPC.hand, State.writerDrops]

lemma owned_applyReader {i : ℕ} {pc : ReaderPC} {m : ReaderMove} (hpc : s.readers[i]? = some pc)
    (h : ReaderStep s pc m) :
    s.owned = addrs (s.readerDrops pc).toList + (s.applyReader i m).owned := by
  have hincoming : addrs s.incoming =
      addrs (s.readerDrops pc).toList + addrs (s.applyReader i m).incoming :=
    addrs_moveThread_drop hpc h.balance
  rw [State.owned, hincoming]
  change _ = _ + (addrs s.callbacks + addrs (s.applyReader i m).incoming + addrs s.outgoing)
  ac_rfl

lemma owned_applyWriter {err sendResult : ℤ} {i : ℕ} {pc : WriterPC} {m : WriterMove}
    (hpc : s.writers[i]? = some pc) (h : WriterStep s err sendResult pc m) :
    s.owned = addrs (s.writerDrops err sendResult pc).toList + (s.applyWriter i m).owned := by
  have houtgoing : addrs s.outgoing =
      addrs (s.writerDrops err sendResult pc).toList + addrs (s.applyWriter i m).outgoing :=
    addrs_moveThread_drop hpc h.balance
  rw [State.owned, houtgoing]
  change _ = _ + (addrs s.callbacks + addrs s.incoming + addrs (s.applyWriter i m).outgoing)
  ac_rfl

/-- A callback has allocated a frame. -/
lemma owned_receive (s : State) (frame : CECFrame) (nextAddr : ℕ) :
    State.owned { s with
      callbacks := s.callbacks ++ [⟨s.nextAddr, frame⟩], nextAddr := nextAddr } =
      s.nextAddr ::ₘ s.owned := by
  simp only [State.owned, addrs_append, addrs_cons, addrs_nil, ← Multiset.singleton_add, add_zero]
  change _ + _ + addrs s.incoming + addrs s.outgoing = _
  ac_rfl

/-- A callback gives its frame to the queue. -/
lemma owned_offer {j : ℕ} {p : FramePtr} (trace : List Obs) (hp : s.callbacks[j]? = some p)
    (h : s.rQueue.events.length < s.rQueue.cap) :
    State.owned { s with
      callbacks := s.callbacks.eraseIdx j, rQueue := s.rQueue.push (some p) h,
      trace := trace } = s.owned := by
  simp only [State.owned, State.incoming, addrs_getElem hp, EventQueue.frames_push, addrs_append,
    Option.toList_some, addrs_cons, addrs_nil, ← Multiset.singleton_add, add_zero]
  change _ + _ + addrs s.outgoing = _
  ac_rfl

lemma owned_offerRefused {j : ℕ} {p : FramePtr} (hp : s.callbacks[j]? = some p) :
    s.owned = p.addr ::ₘ State.owned { s with callbacks := s.callbacks.eraseIdx j } := by
  rw [State.owned, addrs_getElem hp, Multiset.cons_add, Multiset.cons_add]
  rfl

/-- `sendAsync` has allocated a frame and gives it to the queue. -/
lemma owned_sendAsync (frame : CECFrame) (nextAddr : ℕ) (trace : List Obs)
    (h : s.wQueue.events.length < s.wQueue.cap) :
    State.owned { s with
      wQueue := s.wQueue.push (some ⟨s.nextAddr, frame⟩) h, nextAddr := nextAddr,
      trace := trace } = s.nextAddr ::ₘ s.owned := by
  simp only [State.owned, State.outgoing, EventQueue.frames_push, addrs_append,
    Option.toList_some, addrs_cons, addrs_nil, ← Multiset.singleton_add, add_zero]
  change addrs s.callbacks + addrs s.incoming + _ = _
  ac_rfl

/-- The control thread has no frames. -/
lemma CtlStep.owned_eq {err : ℤ} (h : CtlStep s err t) : t.owned = s.owned := by
  have houtgoing := h.outgoing_eq
  cases h with
  | initOpen _ _ hopen | startOpen _ _ hopen => cases hopen <;> rfl
  | build | restartReader =>
    simp [State.owned, State.incoming, State.outgoing, ReaderPC.hand]
  | closeOffer => simp [State.owned, State.incoming, State.outgoing]
  | construct | restartWriter | writerOffer => 
    rw [State.owned, houtgoing]
    rfl
  | _ => rfl

/-! ### The heap -/

/-- What is allocated is what somebody owns, and its addresses have been given out. -/
structure Accounted (s : State) (live : Finset ℕ) : Prop where
  live_eq : live.val = s.owned
  lt : ∀ a ∈ s.owned, a < s.nextAddr

lemma Accounted.fresh (h : Accounted s live) : s.nextAddr ∉ s.owned :=
  fun hmem => Nat.lt_irrefl _ (h.lt _ hmem)

/-- The operations of a step succeed and leave what its end owns. -/
def Balanced (s : State) (l : Label) (t : State) (live : Finset ℕ) : Prop :=
  ∃ live', HeapOp.runAll live (heapOps s l) = some live' ∧ live'.val = t.owned

lemma Balanced.of_nil (hops : heapOps s l = []) (howned : t.owned = s.owned)
    (h : Accounted s live) : Balanced s l t live :=
  ⟨live, by rw [hops]; rfl, h.live_eq.trans howned.symm⟩

lemma readerOps_balanced {i : ℕ} {pc : ReaderPC} {m : ReaderMove} (h : Accounted s live)
    (hpc : s.readers[i]? = some pc) (hm : ReaderStep s pc m) :
    Balanced s (.reader i) (s.applyReader i m) live := by
  have howned := owned_applyReader hpc hm
  simp only [Balanced, heapOps, hpc, State.readerOps]
  cases hdrops : s.readerDrops pc with
  | none =>
    rw [hdrops] at howned
    exact ⟨live, rfl, by simpa [h.live_eq] using howned⟩
  | some p =>
    rw [hdrops] at howned
    exact HeapOp.runAll_consume (by simpa [h.live_eq] using howned)

lemma writerOps_balanced {err sendResult : ℤ} {i : ℕ} {pc : WriterPC} {m : WriterMove}
    (h : Accounted s live) (hpc : s.writers[i]? = some pc) (hm : WriterStep s err sendResult pc m) :
    Balanced s (.writer i err sendResult) (s.applyWriter i m) live := by
  have howned := owned_applyWriter hpc hm
  simp only [Balanced, heapOps, hpc]
  rw [← h.live_eq] at howned
  cases pc with
  | write p =>
    simp only [State.writerOps, State.writerDrops] at howned ⊢
    split
    · rename_i hescaped
      rw [if_pos hescaped] at howned
      exact HeapOp.runAll_consume (by simpa using howned)
    · rename_i hescaped
      rw [if_neg hescaped] at howned
      have hmem : p.addr ∈ s.owned := by
        refine Multiset.mem_add.mpr (.inr ?_)
        refine Multiset.mem_coe.mpr (List.mem_map_of_mem ?_)
        exact List.mem_append_left _
          (List.mem_flatMap.mpr ⟨_, List.mem_of_getElem? hpc, List.mem_singleton_self p⟩)
      refine ⟨live, ?_, by simpa using howned⟩
      simp [HeapOp.runAll, HeapOp.run_use h.live_eq hmem]
  | drainPop =>
    simp only [State.writerOps, State.writerDrops] at howned ⊢
    split
    · rename_i p hp
      rw [hp] at howned
      exact HeapOp.runAll_delete (by simpa using howned)
    · rename_i hp
      rw [hp] at howned
      exact ⟨live, rfl, by simpa using howned⟩
  | _ => exact ⟨live, rfl, by simpa [State.writerDrops] using howned⟩

lemma Step.balanced (hstep : Step s l t) (h : Accounted s live) : Balanced s l t live := by
  cases hstep with
  | reader hpc hm => exact readerOps_balanced h hpc hm
  | writer hpc hm => exact writerOps_balanced h hpc hm
  | receive hlen hopened =>
    simp only [Balanced, heapOps, if_neg hlen, if_pos hopened]
    rw [owned_receive]
    exact HeapOp.runAll_create h.live_eq h.fresh
  | discard hclosed =>
    simp only [Balanced, heapOps, if_neg hclosed]
    split
    · exact ⟨live, rfl, h.live_eq⟩
    · exact HeapOp.runAll_discard h.live_eq h.fresh
  | offer hlt hp =>
    refine .of_nil ?_ (owned_offer _ hp hlt) h
    simp [heapOps, hp, Nat.ne_of_lt hlt]
  | offerRefused hfull hp =>
    simp only [Balanced, heapOps, hp, if_pos hfull]
    exact HeapOp.runAll_delete (h.live_eq.trans (owned_offerRefused hp))
  | sendAsync hlt _ hstarted =>
    simp only [Balanced, heapOps, if_pos hstarted, if_neg (Nat.ne_of_lt hlt)]
    rw [owned_sendAsync]
    exact HeapOp.runAll_create h.live_eq h.fresh
  | sendAsyncRefused _ hrefused =>
    simp only [Balanced, heapOps]
    split
    · rename_i hstarted
      have hfull := hrefused.resolve_left (by simp [hstarted])
      rw [if_pos hfull]
      exact HeapOp.runAll_discard h.live_eq h.fresh
    · exact ⟨live, rfl, h.live_eq⟩
  | ctl hstep => exact .of_nil rfl hstep.owned_eq h
  | initRefused | callInit | callTerm | termRefused | callBusStart | callBusStop =>
    exact .of_nil rfl rfl h

/-- A step allocates at the next address, or nothing is owned that was not owned before. -/
lemma Step.owned_cases (hstep : Step s l t) :
    t.owned = s.nextAddr ::ₘ s.owned ∧ t.nextAddr = s.nextAddr + 1 ∨
      t.owned ⊆ s.owned ∧ t.nextAddr = s.nextAddr := by
  cases hstep with
  | receive => exact .inl ⟨owned_receive .., rfl⟩
  | sendAsync => exact .inl ⟨owned_sendAsync .., rfl⟩
  | reader hpc hm =>
    refine .inr ⟨?_, rfl⟩
    rw [owned_applyReader hpc hm]
    exact Multiset.subset_of_le (Multiset.le_add_left _ _)
  | writer hpc hm =>
    refine .inr ⟨?_, rfl⟩
    rw [owned_applyWriter hpc hm]
    exact Multiset.subset_of_le (Multiset.le_add_left _ _)
  | offer hlt hp => exact .inr ⟨by rw [owned_offer _ hp hlt]; exact Multiset.Subset.refl _, rfl⟩
  | offerRefused _ hp =>
    refine .inr ⟨?_, rfl⟩
    rw [owned_offerRefused hp]
    exact Multiset.subset_cons _ _
  | ctl hstep =>
    refine .inr ⟨by rw [hstep.owned_eq]; exact Multiset.Subset.refl _, ?_⟩
    cases hstep with
    | initOpen _ _ hopen | startOpen _ _ hopen => cases hopen <;> rfl
    | _ => rfl
  | _ => exact .inr ⟨Multiset.Subset.refl _, rfl⟩

/-- One step keeps the accounts. -/
lemma Accounted.step (h : Accounted s live) (hstep : Step s l t) :
    ∃ live', HeapOp.runAll live (heapOps s l) = some live' ∧ Accounted t live' := by
  obtain ⟨live', hops, hlive'⟩ := hstep.balanced h
  refine ⟨live', hops, hlive', ?_⟩
  intro a ha
  rcases hstep.owned_cases with ⟨howned, hnext⟩ | ⟨hsubset, hnext⟩
  · rw [howned] at ha
    rw [hnext]
    rcases Multiset.mem_cons.mp ha with rfl | ha
    · exact Nat.lt_succ_self _
    · exact Nat.lt_succ_of_lt (h.lt a ha)
  · rw [hnext]
    exact h.lt a (hsubset ha)

/-- In every run there is no fault, and what is allocated is owned, each frame once. -/
theorem frames_owned_once {ok : State × Option (Finset ℕ) → Label → Prop}
    {x : State × Option (Finset ℕ)} (h : Run heapStep ok (.init, some ∅) x) :
    ∃ live, x.2 = some live ∧ live.val = x.1.owned := by
  have hinv : ∃ live, x.2 = some live ∧ Accounted x.1 live := by
    apply h.invariant (I := fun x => ∃ live, x.2 = some live ∧ Accounted x.1 live)
    · rintro ⟨s, heap⟩ l y - hstep ⟨live, rfl, hlive⟩
      obtain ⟨t, ht, rfl⟩ := Option.map_eq_some_iff.mp hstep
      exact hlive.step (Step.of_step ht).2
    · exact ⟨∅, rfl, rfl, by simp [State.owned, State.init, State.incoming, State.outgoing,
        EventQueue.frames, EventQueue.empty]⟩
  obtain ⟨live, hx, hlive⟩ := hinv
  exact ⟨live, hx, hlive.live_eq⟩

/-- One frame has been read, one waits in the receive queue, and one is in the hand of the
writer. -/
theorem frames_owned_once_underway : ∃ x : State × Option (Finset ℕ),
    x.2 = some {1, 2} ∧ ∃ live, x.2 = some live ∧ live.val = x.1.owned := by
  obtain ⟨x, hrun, hx⟩ := Run.of_execSat
    (show execSat heapStep (fun _ _ => True) (fun x => x.2 = some {1, 2}) (.init, some ∅)
      (startUp ++ [.receive ⟨[0x40], by decide⟩, .offer 0, .receive ⟨[0x41], by decide⟩, .offer 0,
        .sendAsync ⟨[0x40], by decide⟩] ++ List.replicate 6 (.reader 0) ++
        List.replicate 3 (.writer 0 ioSuccess ioSuccess)) = true by decide +kernel)
  exact ⟨x, of_decide_eq_true hx, frames_owned_once hrun⟩

end HdmiCec
