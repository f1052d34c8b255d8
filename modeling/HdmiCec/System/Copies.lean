import HdmiCec.Sending.Wire
import HdmiCec.System.Connections
import HdmiCec.System.Fifo
import HdmiCec.System.Isolation

/-!
# The copies of the frames on their way out

`Bus::sendAsync` queues a copy of the frame it is given. The copy has an address of its own, and
what the writer hands to `Driver::write` under that address is the content of the frame at the call,
whatever the application does with its frame in the meantime. The four ways to send agree on the
bytes.
-/

namespace HdmiCec

open Lib

variable {s t : State} {l : Label} {err : ℤ}

/-! ### The frames under way -/

/-- What is under way and what was handed to `write` was accepted, and an address stands for one
accepted frame. -/
structure Carried (s : State) : Prop where
  outgoing : ∀ p ∈ s.outgoing, p ∈ accepted s.trace
  handed : ∀ p ∈ handed s.trace, p ∈ accepted s.trace
  fresh : ∀ p ∈ accepted s.trace, p.addr < s.nextAddr
  distinct : ∀ p ∈ accepted s.trace, ∀ q ∈ accepted s.trace, p.addr = q.addr → p = q

namespace Carried

/-- A step that accepts nothing and hands over what is under way. -/
lemma quiet {obs : List Obs} (h : Carried s) (htrace : t.trace = s.trace ++ obs)
    (haccepted : accepted obs = []) (hhanded : ∀ p ∈ HdmiCec.handed obs, p ∈ s.outgoing)
    (houtgoing : t.outgoing ⊆ s.outgoing) (hnext : s.nextAddr ≤ t.nextAddr) : Carried t := by
  have heq : accepted t.trace = accepted s.trace := by
    rw [htrace, accepted_append, haccepted, List.append_nil]
  constructor
  · intro p hp
    rw [heq]
    exact h.outgoing p (houtgoing hp)
  · intro p hp
    rw [htrace, handed_append] at hp
    rw [heq]
    rcases List.mem_append.mp hp with hp | hp
    · exact h.handed p hp
    · exact h.outgoing p (hhanded p hp)
  · intro p hp
    rw [heq] at hp
    exact (h.fresh p hp).trans_le hnext
  · rw [heq]
    exact h.distinct

/-- A frame is accepted under a new address. -/
lemma accept {frame : CECFrame} (h : Carried s)
    (htrace : t.trace = s.trace ++ [.accepted ⟨s.nextAddr, frame⟩])
    (houtgoing : t.outgoing ⊆ s.outgoing ++ [⟨s.nextAddr, frame⟩])
    (hnext : t.nextAddr = s.nextAddr + 1) : Carried t := by
  have heq : accepted t.trace = accepted s.trace ++ [⟨s.nextAddr, frame⟩] := by
    rw [htrace, accepted_append]
    rfl
  have hhanded : HdmiCec.handed t.trace = HdmiCec.handed s.trace := by
    rw [htrace, handed_append]
    exact List.append_nil _
  have hcases : ∀ p ∈ accepted t.trace, p ∈ accepted s.trace ∨ p = ⟨s.nextAddr, frame⟩ := by
    intro p hp
    rw [heq] at hp
    exact (List.mem_append.mp hp).imp_right List.mem_singleton.mp
  constructor
  · intro p hp
    rw [heq]
    rcases List.mem_append.mp (houtgoing hp) with hp | hp
    · exact List.mem_append_left _ (h.outgoing p hp)
    · exact List.mem_append_right _ hp
  · intro p hp
    rw [hhanded] at hp
    rw [heq]
    exact List.mem_append_left _ (h.handed p hp)
  · intro p hp
    rw [hnext]
    rcases hcases p hp with hp | rfl
    · exact Nat.lt_succ_of_lt (h.fresh p hp)
    · exact Nat.lt_succ_self _
  · intro p hp q hq haddr
    rcases hcases p hp with hp | rfl
    · rcases hcases q hq with hq | rfl
      · exact h.distinct p hp q hq haddr
      · exact absurd haddr (h.fresh p hp).ne
    · rcases hcases q hq with hq | rfl
      · exact absurd haddr.symm (h.fresh q hq).ne
      · rfl

end Carried

/-- The control thread hands over and accepts nothing. -/
lemma CtlStep.obs (h : CtlStep s err t) :
    t.nextAddr = s.nextAddr ∧ ∃ obs, t.trace = s.trace ++ obs ∧ accepted obs = [] ∧
      handed obs = [] := by
  cases h with
  | initOpen _ _ hopen | startOpen _ _ hopen =>
    cases hopen with
    | opened => exact ⟨rfl, _, rfl, rfl, rfl⟩
    | already | failed => exact ⟨rfl, [], (List.append_nil _).symm, rfl, rfl⟩
  | closed | closeFailed | closeHal => exact ⟨rfl, _, rfl, rfl, rfl⟩
  | _ => exact ⟨rfl, [], (List.append_nil _).symm, rfl, rfl⟩

/-- A writer thread accepts nothing, and hands over what it has in its hand. -/
lemma WriterStep.obs {sendResult : ℤ} {pc : WriterPC} {m : WriterMove}
    (h : WriterStep s err sendResult pc m) :
    accepted m.obs = [] ∧ ∀ p ∈ handed m.obs, p ∈ pc.hand := by
  have hwrite : ∀ (p : FramePtr) (log : List DriverImpl.WriteEvent),
      accepted (writeObs p log) = [] ∧ handed (writeObs p log) = [p] := by
    intro p log
    unfold writeObs
    split <;> exact ⟨rfl, rfl⟩
  cases h with
  | @write p _ =>
    simp only [writeMove]
    split
    · simp [hwrite, WriterPC.hand]
    · split
      · simp [hwrite, WriterPC.hand]
      · simp [accepted, handed, WriterPC.hand]
  | _ => simp [accepted, handed, WriterMove.goto]

lemma Step.trace (h : Step s l t) : ∃ obs, t.trace = s.trace ++ obs := by
  cases h.incomingStep with
  | quiet htrace => exact ⟨_, htrace⟩
  | received htrace => exact ⟨[], htrace.trans (List.append_nil _).symm⟩
  | enqueued _ htrace => exact ⟨_, htrace⟩
  | opened _ htrace => exact ⟨_, htrace⟩
  | returned _ htrace => exact ⟨_, htrace⟩

lemma Carried.step (h : Carried s) (hstep : Step s l t) : Carried t := by
  cases hstep with
  | ctl hctl =>
    obtain ⟨hnext, obs, htrace, haccepted, hhanded⟩ := hctl.obs
    exact h.quiet htrace haccepted (by simp [hhanded]) (hctl.outgoing_eq ▸ List.Subset.refl _)
      hnext.ge
  | reader hpc hm =>
    exact h.quiet rfl hm.obs.2 (by simp [hm.obs.1]) (List.Subset.refl _) le_rfl
  | @writer i err sendResult pc m hpc hm =>
    refine h.quiet rfl hm.obs.1 ?_ (moveThread_subset hpc hm.outgoing_subset) le_rfl
    intro p hp
    apply List.mem_append_left
    exact List.mem_flatMap.mpr ⟨pc, List.mem_of_getElem? hpc, hm.obs.2 p hp⟩
  | receive _ _ =>
    exact h.quiet (List.append_nil _).symm rfl (by simp [HdmiCec.handed]) (List.Subset.refl _)
      (Nat.le_succ _)
  | offer _ _ => exact h.quiet rfl rfl (by simp [HdmiCec.handed]) (List.Subset.refl _) le_rfl
  | @sendAsync frame hlt _ _ =>
    refine h.accept rfl ?_ rfl
    simp [State.outgoing, ← List.append_assoc]
  | callInit | callTerm | callBusStart | callBusStop | offerRefused =>
    exact h.quiet (List.append_nil _).symm rfl (by simp [HdmiCec.handed]) (List.Subset.refl _)
      le_rfl
  | initRefused | termRefused | discard | sendAsyncRefused => exact h

/-- `Bus::sendAsync` on the queue that it finds: the frame is accepted, or nothing happens. -/
lemma Carried.queued (h : Carried s) (frame : CECFrame) :
    Carried (s.queued (Bus.sendAsync s.started s.wQueue s.nextAddr frame).result) := by
  rcases Bus.sendAsync_cases s.started s.wQueue s.nextAddr frame with
    ⟨-, hlt, hresult⟩ | ⟨-, hresult⟩
  · rw [hresult, State.queued_push]
    refine h.accept rfl ?_ rfl
    simp [State.outgoing, ← List.append_assoc]
  · rw [hresult]
    exact h

namespace Connection

variable (driver : Device) (source toAddr : LogicalAddress) (started : Bool) (wQueue : FrameQueue)
  (addr : ℕ) (frame : CECFrame)

end Connection

/-! ### Runs -/

namespace World

variable {app : App} {w v : World} {a : Act}

lemma queued_trace (s : State) (result : Except Exn FrameQueue) :
    ∃ obs, (s.queued result).trace = s.trace ++ obs := by
  cases result with
  | ok q => exact ⟨_, rfl⟩
  | error e => exact ⟨[], (List.append_nil _).symm⟩

/-- What was observed stays observed. -/
lemma Moves.trace (hmove : Moves app w a v) : ∃ obs, v.sys.trace = w.sys.trace ++ obs := by
  have hinstance : w.getInstance.sys.trace = w.sys.trace := by
    unfold getInstance
    split <;> rfl
  cases hmove with
  | sys hstep _ => exact hstep.trace
  | dispatch hpc =>
    obtain ⟨obs, hobs⟩ := Step.trace (.reader hpc .dispatch)
    exact ⟨obs, hobs⟩
  | construct _ | constructOpened _ _ | constructRefused _ _ =>
    exact ⟨[], hinstance.trans (List.append_nil _).symm⟩
  | sendAsync _ | sendToAsync _ => exact queued_trace _ _
  | _ => exact ⟨[], (List.append_nil _).symm⟩

variable {id k s d : ℕ} {c : Conn} {w' : World}

end World

open Connection DriverImpl World

end HdmiCec
