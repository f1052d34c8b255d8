import HdmiCec.Osal
import HdmiCec.Messages

/-!
# The driver

The functions of `DriverImpl` that do not block: the receive callback, the printing of a frame and
`write`. The hardware layer below them is outside the repository; what it returns is a parameter.
-/

namespace HdmiCec

open Lib

/-- A `CECFrame *` that is not `NULL`: the address that `new` returned and the frame there. -/
structure FramePtr where
  addr : ℕ
  frame : CECFrame
deriving DecidableEq

/-- `EventQueue<CECFrame *>`. `none` is the sentinel `NULL`. -/
abbrev FrameQueue := EventQueue (Option FramePtr)

/-- The frames in a queue, in order, without the sentinels. -/
def EventQueue.frames (q : FrameQueue) : List FramePtr := q.events.filterMap id

namespace EventQueue

variable {q : FrameQueue}

@[simp] lemma frames_push (e : Option FramePtr) (h : q.events.length < q.cap) :
    (q.push e h).frames = q.frames ++ e.toList := by
  cases e <;> simp [frames]

lemma frames_of_take_some {p : FramePtr} (h : q.take.1 = some (some p)) :
    q.frames = p :: q.take.2.frames := by
  cases hq : q.events with
  | nil => simp [take_of_nil hq] at h
  | cons e rest =>
    obtain ⟨hfirst, hrest, -⟩ := take_of_cons hq
    rw [h, Option.some.injEq] at hfirst
    subst hfirst
    simp [frames, hq, hrest]

lemma frames_of_take_none (h : q.take.1.join = none) : q.take.2.frames = q.frames := by
  cases hq : q.events with
  | nil => rw [take_of_nil hq]
  | cons e rest =>
    obtain ⟨hfirst, hrest, -⟩ := take_of_cons hq
    rw [hfirst, Option.join_some] at h
    subst h
    simp [frames, hq, hrest]

lemma frames_take_sublist (q : FrameQueue) : q.take.2.frames.Sublist q.frames := by
  cases h : q.take.1.join with
  | none => exact frames_of_take_none h ▸ List.Sublist.refl _
  | some p =>
    rw [frames_of_take_some (Option.join_eq_some_iff.mp h)]
    exact List.sublist_cons_self p _

end EventQueue

namespace DriverImpl

/-- `status`. -/
inductive Status where
  | closed
  | closing
  | opened
deriving DecidableEq, Repr

/-! ### Results of the hardware layer -/

def ioSuccess : ℤ := 0
def ioSentButNotAckd : ℤ := 1
def ioSentFailed : ℤ := 2
def ioGeneralError : ℤ := 3
def ioInvalidHandle : ℤ := 4
def ioInvalidArgument : ℤ := 5
def ioLogicalAddressUnavailable : ℤ := 7

/-! ### Receiving -/

/-- `isValidReceiveFrame(buf, len)`. A buffer is `none` when the pointer is `NULL`. -/
def isValidReceiveFrame (buf : Option (ℕ → UInt8)) (len : ℤ) : Bool :=
  buf.isSome && 0 < len && len.toNat ≤ CECFrame.maxLength

/-- `dump_buffer(buf, len)`, as it prints at the debug level. -/
def dumpBuffer (bytes : List UInt8) : Ccec Unit :=
  Logged.each (fun b => ccecLog logDebug ((hex02 b).toUpper ++ " ")) bytes

/-- `getIncomingQueue(nativeHandle)`: the status is read without the lock. -/
def getIncomingQueue (status : Status) : Ccec Unit :=
  if status ≠ .opened then .raise .invalidState else pure ()

/-- The body of the callback's `try`. `addr` is what `new CECFrame()` returns. -/
def offerFrame (status : Status) (rQueue : FrameQueue) (addr : ℕ) (bytes : List UInt8) :
    Ccec FrameQueue := do
  let frame ← CECFrame.empty.appendBuf bytes
  ccecLog logDebug ">>>>>>> >>>>> >>>> >> >> >\r\n"
  dumpBuffer bytes
  ccecLog logDebug "==========================\r\n"
  getIncomingQueue status
  rQueue.offer (some ⟨addr, frame⟩)

/-- `DriverReceiveCallback(handle, callbackData, buf, len)`: the receive queue after it. -/
def driverReceiveCallback (status : Status) (rQueue : FrameQueue) (addr : ℕ)
    (buf : Option (ℕ → UInt8)) (len : ℤ) : Ccec FrameQueue :=
  if !isValidReceiveFrame buf len then do
    ccecLog logExp "Invalid frame received...discarding\r\n"
    pure rQueue
  else do
    let bytes := (List.range len.toNat).map (buf.getD fun _ => 0)
    let rQueue' ← (offerFrame status rQueue addr bytes).catching Exn.isAny fun _ => do
      ccecLog logExp "Exception during frame offer...discarding\r\n"
      pure rQueue
    ccecLog logDebug "frame offered\r\n"
    pure rQueue'

/-! ### Printing -/

/-- The text that the `snprintf` calls build in `strBuffer[50]`: what does not fit is cut off. -/
def hexText (bytes : List UInt8) : String :=
  String.ofList ((bytes.flatMap fun b => ((hex02 b).toUpper ++ " ").toList).take 49)

/-- The body of the `try` in `printFrameDetails`. -/
def printFrameBody (frame : CECFrame) : Ccec Unit := do
  let header ← Header.ofFrame frame 0
  if frame.length > 1 then do
    let op ← OpCode.ofFrame frame 1
    let fromText ← header.fromAddr.toString
    let toText ← header.toAddr.toString
    ccecLog logInfo (fromText ++ " to " ++ toText ++ " : opcode: " ++ getOpName op.opCode ++ " :"
      ++ hexText frame.bytes ++ "\n")
  else
    pure ()

/-- `printFrameDetails(frame)`: only the library's own exceptions are caught. -/
def printFrameDetails (frame : CECFrame) : Ccec Unit :=
  (printFrameBody frame).catching Exn.isException fun e =>
    ccecLog logExp ("printFrameDetails caught " ++ e.what ++ " \r\n")

/-! ### Writing -/

/-- What a run of `write` logs: lines of the log, and the call of `HdmiCecTx` with the bytes it is
given. -/
inductive WriteEvent where
  | lib (e : Event)
  | hdmiCecTx (bytes : List UInt8)
deriving DecidableEq, Repr

/-- A function that does not call `HdmiCecTx`. -/
def lib {α : Type} (m : Ccec α) : Logged Exn WriteEvent α := m.mapLog .lib

/-- The check of what `HdmiCecTx` returned. -/
def checkErr (err : ℤ) : Ccec Unit := if err ≠ ioSuccess then .raise .io else pure ()

/-- The check of `sendResult` for the failures that raise. -/
def checkSendResult (sendResult : ℤ) : Ccec Unit :=
  if sendResult = ioInvalidHandle ∨ sendResult = ioInvalidArgument ∨
      sendResult = ioLogicalAddressUnavailable ∨ sendResult = ioSentFailed ∨
      sendResult = ioGeneralError then
    .raise .io
  else
    pure ()

/-- `(frame.at(0) & 0x0F) == 0x0F`. -/
def isBroadcast (frame : CECFrame) : Ccec Bool := do
  let b ← frame.byteAt 0
  pure (b &&& 0x0F = 0x0F)

/-- `(frame.at(1) & 0xFF) == REPORT_PHYSICAL_ADDRESS`. -/
def isReportPhysicalAddress (frame : CECFrame) : Ccec Bool := do
  let b ← frame.byteAt 1
  pure ((b &&& 0xFF).toNat = Op.reportPhysicalAddress)

/-- The check for a message that was not acknowledged. A broadcast is not acknowledged by
anybody, except that a broadcast physical address counts as refused. -/
def checkAck (frame : CECFrame) (sendResult : ℤ) : Ccec Unit := do
  let broadcast ← isBroadcast frame
  if !broadcast && sendResult = ioSentButNotAckd then
    .raise .cecNoAck
  else do
    let report ← andAlso (isBroadcast frame)
      (andAlso (pure (frame.length > 1)) (isReportPhysicalAddress frame))
    if report && sendResult = ioSentButNotAckd then .raise .cecNoAck else pure ()

/-- `write(frame)`, where `HdmiCecTx` returns `err` and sets `sendResult`. -/
def write (status : Status) (err sendResult : ℤ) (frame : CECFrame) :
    Logged Exn WriteEvent Unit := do
  lib (printFrameDetails frame)
  lib (if status ≠ .opened then .raise .invalidState else pure ())
  lib (ccecLog logDebug "DriverImpl::write to call HdmiCecTx\r\n")
  .emit (.hdmiCecTx frame.bytes)
  lib (ccecLog logDebug ">>>>>>> >>>>> >>>> >> >> >\r\n")
  lib (dumpBuffer frame.bytes)
  lib (ccecLog logDebug "==========================\r\n")
  lib (ccecLog logDebug ("DriverImpl:: call HdmiCecTx DONE " ++ hex (err % 2 ^ 32).toNat
    ++ ", result " ++ hex (sendResult % 2 ^ 32).toNat ++ "\r\n"))
  lib (checkErr err)
  lib (checkSendResult sendResult)
  lib (checkAck frame sendResult)
  lib (ccecLog logDebug "Send Completed\r\n")

end DriverImpl

end HdmiCec
