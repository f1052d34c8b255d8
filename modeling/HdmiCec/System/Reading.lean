import HdmiCec.Driver.Reception
import HdmiCec.System.Isolation

/-!
# The receive queue between the callback and `read`

The callbacks of the hardware layer and one thread that calls `DriverImpl::read` again and again, on
the same queue. While the driver stays open the queue works like a pipe: what `read` returns is what
was in the queue and what the callbacks have put there, in order, byte by byte.
-/

namespace HdmiCec

open Lib DriverImpl

/-! ### The callbacks and the reading thread -/

/-- The points of the thread that reads. -/
inductive ReadPC where
  /-- not in `read` -/
  | outside
  /-- before the check of the status -/
  | check
  /-- waiting in `rQueue.poll()` -/
  | wait
  /-- before the part of `rQueue.poll()` under the lock -/
  | pop
  /-- with a frame that will be returned -/
  | got (p : FramePtr)
  /-- with a sentinel, before the second check of the status -/
  | null
  /-- at `while (rQueue.size() > 0)` -/
  | flush
  /-- in the loop after it, waiting in `rQueue.poll()` -/
  | flushWait
  /-- in the loop after it, before the part of `rQueue.poll()` under the lock -/
  | flushPop
deriving DecidableEq

/-- The driver as the callbacks and the reading thread see it, with the frames that the callbacks
have put into the queue and those that `read` has returned. -/
structure Receiver where
  status : Status
  rQueue : FrameQueue
  pc : ReadPC
  nextAddr : ℕ
  enqueued : List FramePtr
  returned : List FramePtr

namespace Receiver

/-- The call of a callback. Everything it does before its offer concerns its own frame and the
status, which nobody changes here, so callbacks that overlap take effect in the order of their
offers. -/
def callback (r : Receiver) (buf : Option (ℕ → UInt8)) (len : ℤ) : Option Receiver :=
  match (driverReceiveCallback r.status r.rQueue r.nextAddr buf len).result with
  | .ok rQueue => some { r with
      rQueue := rQueue
      nextAddr := r.nextAddr + 1
      enqueued := r.enqueued ++ (rQueue.events.drop r.rQueue.events.length).filterMap id }
  | .error _ => none

/-- The thread calls `read(frame)`, or goes on in it. `none`: it has to wait. -/
def read (r : Receiver) : Option Receiver :=
  match r.pc with
  | .outside => some { r with pc := .check }
  | .check => some { r with pc := if r.status = .opened then .wait else .outside }
  | .wait => if r.rQueue.ready then some { r with pc := .pop } else none
  | .pop =>
    match r.rQueue.take.1.join with
    | some p => some { r with pc := .got p, rQueue := r.rQueue.take.2 }
    | none => some { r with pc := .null, rQueue := r.rQueue.take.2 }
  | .got p => some { r with pc := .outside, returned := r.returned ++ [p] }
  | .null => some { r with pc := if r.status = .opened then .wait else .flush }
  | .flush => some { r with pc := if r.rQueue.size > 0 then .flushWait else .outside }
  | .flushWait => if r.rQueue.ready then some { r with pc := .flushPop } else none
  | .flushPop => some { r with pc := .flush, rQueue := r.rQueue.take.2 }

end Receiver

inductive ReceiverLabel where
  | callback (buf : Option (ℕ → UInt8)) (len : ℤ)
  | read

def Receiver.step (r : Receiver) : ReceiverLabel → Option Receiver
  | .callback buf len => r.callback buf len
  | .read => r.read

/-! ### The reader of the bus -/

/-- Where the reader thread of the bus is when it is in `read`. -/
def ReadPC.toReader : ReadPC → ReaderPC
  | outside => .test
  | check => .readCheck
  | wait => .wait
  | pop => .pop
  | got p => .got p
  | null => .null
  | flush => .flush
  | flushWait => .flushWait
  | flushPop => .flushPop

/-- The reader thread of the bus executes `read`: its steps there, up to the return, are those of
the reading thread. -/
lemma readerMove_of_read {s : State} {r r' : Receiver} (hstatus : r.status = s.status)
    (hqueue : r.rQueue = s.rQueue) (hfree : s.driverMutexFree = true) (hpc : r.pc ≠ .outside)
    (hgot : ∀ p, r.pc ≠ .got p) (h : r.read = some r') :
    readerMove s r.pc.toReader = some ⟨some r'.pc.toReader, s.reader, r'.rQueue, []⟩ := by
  unfold Receiver.read at h
  rw [hqueue, hstatus] at h
  generalize hr : r.pc = pc at *
  cases pc with
  | outside => exact absurd rfl hpc
  | got p => exact absurd rfl (hgot p)
  | check =>
    cases h
    simp only [ReadPC.toReader, readerMove, if_pos hfree]
    split <;> rfl
  | wait =>
    simp only [Option.ite_none_right_eq_some, Option.some.injEq] at h
    obtain ⟨hready, rfl⟩ := h
    simp only [ReadPC.toReader, readerMove, if_pos hready]
    rfl
  | pop =>
    dsimp only at h
    cases hp : s.rQueue.take.1.join with
    | some p =>
      rw [hp] at h
      cases h
      simp only [ReadPC.toReader, readerMove, hp]
    | none =>
      rw [hp] at h
      cases h
      simp only [ReadPC.toReader, readerMove, hp]
  | null =>
    cases h
    simp only [ReadPC.toReader, readerMove, if_pos hfree]
    split <;> rfl
  | flush =>
    cases h
    simp only [ReadPC.toReader, readerMove]
    split <;> rfl
  | flushWait =>
    simp only [Option.ite_none_right_eq_some, Option.some.injEq] at h
    obtain ⟨hready, rfl⟩ := h
    simp only [ReadPC.toReader, readerMove, if_pos hready]
    rfl
  | flushPop =>
    cases h
    rfl

/-! ### A pipe -/

namespace Receiver

/-- The frame that `read` has taken from the queue and will return. -/
def hand (r : Receiver) : List FramePtr := r.pc.toReader.hand

variable {r r' : Receiver} {buf : Option (ℕ → UInt8)} {len : ℤ}

/-- What the callback accepts. -/
lemma isValidReceiveFrame_iff :
    isValidReceiveFrame buf len = true ↔ buf ≠ none ∧ 1 ≤ len ∧ len ≤ 128 := by
  simp only [isValidReceiveFrame, Bool.and_eq_true, decide_eq_true_eq,
    Option.isSome_iff_ne_none, and_assoc]
  apply and_congr_right
  intro _
  have hmax : CECFrame.maxLength = 128 := rfl
  omega

/-- A callback on an open driver enqueues the bytes of a valid buffer while there is room. -/
lemma callback_of_room (hopen : r.status = .opened)
    (hvalid : isValidReceiveFrame buf len = true) (hroom : r.rQueue.events.length < r.rQueue.cap) :
    ∃ p : FramePtr, p.frame.bytes = (List.range len.toNat).map (buf.getD fun _ => 0) ∧
      r.callback buf len = some { r with
        rQueue := r.rQueue.push (some p) hroom
        nextAddr := r.nextAddr + 1
        enqueued := r.enqueued ++ [p] } := by
  obtain ⟨frame, hbytes, -, ⟨-, hlt, hresult⟩ | ⟨hne | hfull, -⟩⟩ :=
    result_driverReceiveCallback r.status r.rQueue r.nextAddr hvalid
  · refine ⟨⟨r.nextAddr, frame⟩, hbytes, ?_⟩
    rw [callback, hresult]
    simp
  · exact absurd hopen hne
  · exact absurd hfull (Nat.ne_of_lt hroom)

/-- Otherwise it leaves the queue as it was. -/
lemma callback_of_discarded
    (h : isValidReceiveFrame buf len = false ∨ r.rQueue.events.length = r.rQueue.cap) :
    r.callback buf len = some { r with nextAddr := r.nextAddr + 1 } := by
  have hresult :
      (driverReceiveCallback r.status r.rQueue r.nextAddr buf len).result = .ok r.rQueue := by
    cases hvalid : isValidReceiveFrame buf len with
    | false =>
      rw [driverReceiveCallback, if_pos (by rw [hvalid]; rfl)]
      rfl
    | true =>
      obtain hinvalid | hfull := h
      · rw [hvalid] at hinvalid
        cases hinvalid
      obtain ⟨frame, -, -, ⟨-, hlt, -⟩ | ⟨-, hresult⟩⟩ :=
        result_driverReceiveCallback r.status r.rQueue r.nextAddr hvalid
      · exact absurd hfull (Nat.ne_of_lt hlt)
      · exact hresult
  rw [callback, hresult]
  simp

lemma discarded_of_not_room
    (h : ¬(isValidReceiveFrame buf len = true ∧ r.rQueue.events.length < r.rQueue.cap)) :
    isValidReceiveFrame buf len = false ∨ r.rQueue.events.length = r.rQueue.cap := by
  rw [not_and, Nat.not_lt] at h
  cases hvalid : isValidReceiveFrame buf len with
  | false => exact .inl rfl
  | true => exact .inr (Nat.le_antisymm r.rQueue.length_le (h hvalid))

/-- The driver is open, the reading thread is not flushing, and every frame is where it belongs:
returned, in the hand of `read`, or in the queue. -/
structure Piped (frames : List FramePtr) (r : Receiver) : Prop where
  opened : r.status = .opened
  cap_eq : r.rQueue.cap = 32
  reading : r.pc ≠ .flush ∧ r.pc ≠ .flushWait ∧ r.pc ≠ .flushPop
  order : r.returned ++ r.hand ++ r.rQueue.frames = frames ++ r.enqueued

variable {frames : List FramePtr}

lemma Piped.callback (h : r.Piped frames) (hstep : r.callback buf len = some r') :
    r'.Piped frames := by
  by_cases hroom : isValidReceiveFrame buf len = true ∧ r.rQueue.events.length < r.rQueue.cap
  · obtain ⟨p, -, hcallback⟩ := callback_of_room h.opened hroom.1 hroom.2
    rw [hcallback] at hstep
    cases hstep
    refine ⟨h.opened, h.cap_eq, h.reading, ?_⟩
    rw [EventQueue.frames_push, ← List.append_assoc]
    change r.returned ++ r.hand ++ r.rQueue.frames ++ [p] = _
    rw [h.order, List.append_assoc]
  · rw [callback_of_discarded (discarded_of_not_room hroom)] at hstep
    cases hstep
    exact ⟨h.opened, h.cap_eq, h.reading, h.order⟩

/-- A step of the thread that changes only where it is, from one point without a frame to
another. -/
lemma Piped.goto {pc : ReadPC} (h : r.Piped frames) (hfrom : r.hand = [])
    (hhand : pc.toReader.hand = []) (hreading : pc ≠ .flush ∧ pc ≠ .flushWait ∧ pc ≠ .flushPop) :
    Piped frames { r with pc := pc } := by
  refine ⟨h.opened, h.cap_eq, hreading, ?_⟩
  have horder := h.order
  rw [hfrom] at horder
  rw [← horder, hand, hhand]

lemma Piped.read (h : r.Piped frames) (hstep : r.read = some r') : r'.Piped frames := by
  have horder := h.order
  unfold Receiver.read at hstep
  split at hstep <;> rename_i hpc
  · cases hstep
    exact h.goto (by rw [hand, hpc]; rfl) rfl (by simp)
  · cases hstep
    rw [if_pos h.opened]
    exact h.goto (by rw [hand, hpc]; rfl) rfl (by simp)
  · simp only [Option.ite_none_right_eq_some, Option.some.injEq] at hstep
    obtain ⟨-, rfl⟩ := hstep
    exact h.goto (by rw [hand, hpc]; rfl) rfl (by simp)
  · rw [hand, hpc] at horder
    split at hstep <;> rename_i hp <;> cases hstep
    · rw [EventQueue.frames_of_take_some (Option.join_eq_some_iff.mp hp)] at horder
      refine ⟨h.opened, (EventQueue.cap_take _).trans h.cap_eq, by simp, ?_⟩
      rw [← horder]
      simp [hand, ReadPC.toReader, ReaderPC.hand]
    · rw [← EventQueue.frames_of_take_none hp] at horder
      exact ⟨h.opened, (EventQueue.cap_take _).trans h.cap_eq, by simp, horder⟩
  · cases hstep
    rw [hand, hpc] at horder
    refine ⟨h.opened, h.cap_eq, by simp, ?_⟩
    rw [← horder]
    simp [hand, ReadPC.toReader, ReaderPC.hand]
  · cases hstep
    rw [if_pos h.opened]
    exact h.goto (by rw [hand, hpc]; rfl) rfl (by simp)
  · exact absurd hpc h.reading.1
  · exact absurd hpc h.reading.2.1
  · exact absurd hpc h.reading.2.2

lemma Piped.step {l : ReceiverLabel} (h : r.Piped frames) (hstep : r.step l = some r') :
    r'.Piped frames := by
  cases l with
  | callback buf len => exact h.callback hstep
  | read => exact h.read hstep

/-- Reception on an open driver, from any content of the queue and in any interleaving of callbacks
and `read`: a callback enqueues exactly the bytes of a buffer of 1 to 128 bytes while the queue has
room for them, and otherwise changes nothing; and what `read` returned, what it has in its hand and
what is in the queue are the frames of the beginning and the enqueued ones, in order. -/
theorem reception_is_fifo {r₀ r : Receiver} (hopen : r₀.status = .opened)
    (hcap : r₀.rQueue.cap = 32) (hpc : r₀.pc = .outside) (henqueued : r₀.enqueued = [])
    (hreturned : r₀.returned = []) (h : Run Receiver.step (fun _ _ => True) r₀ r) :
    (∀ (buf : Option (ℕ → UInt8)) (len : ℤ), ∃ r', r.step (.callback buf len) = some r' ∧
      (∀ b, buf = some b → 1 ≤ len → len ≤ 128 → r.rQueue.events.length < 32 →
        ∃ p : FramePtr, p.frame.bytes = (List.range len.toNat).map b ∧
          r'.rQueue.events = r.rQueue.events ++ [some p] ∧ r'.enqueued = r.enqueued ++ [p]) ∧
      (¬(buf ≠ none ∧ 1 ≤ len ∧ len ≤ 128 ∧ r.rQueue.events.length < 32) →
        r'.rQueue = r.rQueue ∧ r'.enqueued = r.enqueued)) ∧
    r.returned ++ r.hand ++ r.rQueue.frames = r₀.rQueue.frames ++ r.enqueued ∧
    ((∀ p, r.pc ≠ .got p) → r.hand = []) := by
  have hpiped : r.Piped r₀.rQueue.frames := by
    apply h.invariant fun _ _ _ _ hstep hr => hr.step hstep
    refine ⟨hopen, hcap, by simp [hpc], ?_⟩
    simp [henqueued, hreturned, hand, hpc, ReadPC.toReader, ReaderPC.hand]
  refine ⟨?_, hpiped.order, ?_⟩
  · intro buf len
    by_cases hroom : isValidReceiveFrame buf len = true ∧ r.rQueue.events.length < r.rQueue.cap
    · obtain ⟨p, hbytes, hcallback⟩ := callback_of_room hpiped.opened hroom.1 hroom.2
      refine ⟨_, hcallback, ?_, ?_⟩
      · rintro b rfl - - -
        exact ⟨p, hbytes, rfl, rfl⟩
      · intro hnot
        obtain ⟨hbuf, hpos, hle⟩ := isValidReceiveFrame_iff.mp hroom.1
        exact absurd ⟨hbuf, hpos, hle, hpiped.cap_eq ▸ hroom.2⟩ hnot
    · refine ⟨_, callback_of_discarded (discarded_of_not_room hroom), ?_, fun _ => ⟨rfl, rfl⟩⟩
      rintro b rfl hpos hle hlt
      refine absurd ⟨isValidReceiveFrame_iff.mpr ⟨by simp, hpos, hle⟩, ?_⟩ hroom
      rw [hpiped.cap_eq]
      exact hlt
  · intro hnot
    cases hr : r.pc with
    | got p => exact absurd hr (hnot p)
    | _ => rw [hand, hr]; rfl

/-- A queue with a sentinel that was left in it; a frame comes in and is read. -/
theorem reception_is_fifo_after_sentinel :
    ∃ r : Receiver, Run Receiver.step (fun _ _ => True)
        ⟨.opened, ⟨[none], 32, true, rfl, by decide⟩, .outside, 0, [], []⟩ r ∧
      r.returned.map (·.frame.bytes) = [[0x0F]] ∧
      r.returned ++ r.hand ++ r.rQueue.frames = r.enqueued := by
  obtain ⟨r, hrun, hr⟩ : ∃ r : Receiver, Run Receiver.step (fun _ _ => True)
      ⟨.opened, ⟨[none], 32, true, rfl, by decide⟩, .outside, 0, [], []⟩ r ∧
      decide (r.returned.map (·.frame.bytes) = [[0x0F]]) = true :=
    Run.of_execSat (show execSat Receiver.step (fun _ _ => True)
      (fun r => decide (r.returned.map (·.frame.bytes) = [[0x0F]]))
      ⟨.opened, ⟨[none], 32, true, rfl, by decide⟩, .outside, 0, [], []⟩
      (.callback (some fun _ => 0x0F) 1 :: List.replicate 8 .read) = true by decide +kernel)
  exact ⟨r, hrun, of_decide_eq_true hr, (reception_is_fifo rfl rfl rfl rfl rfl hrun).2.1⟩

end Receiver

end HdmiCec
