import HdmiCec.Connection
import HdmiCec.Driver.Device

/-!
# Sending

`Connection::send`, `sendTo`, `sendAsync` and `sendToAsync` with what they call: `matchSource`,
which writes into the frame of the caller, and `Bus::send` with its retries. The frame is passed by
reference, so that a call has two results: the frame of the caller after it, and what the run did.
-/

namespace HdmiCec

open Lib

def logError : ℕ := 1

/-- What a run of a send logs: lines of the log, the calls of `Driver::write`, the calls of
`HdmiCecTx` in them, events of the telemetry and sleeps. -/
inductive SendEvent where
  | lib (e : Event)
  | write (frame : CECFrame)
  | hdmiCecTx (bytes : List UInt8)
  | t2Event (marker value : String)
  | usleep (usec : ℕ)
deriving DecidableEq

/-- What a run of `DriverImpl::write` logs. -/
def SendEvent.ofWrite : DriverImpl.WriteEvent → SendEvent
  | .lib e => .lib e
  | .hdmiCecTx bytes => .hdmiCecTx bytes

/-! ### The bus -/

namespace Bus

/-- A part of a send that does not reach the driver. -/
def lib {α : Type} (m : Ccec α) : Logged Exn SendEvent α := m.mapLog .lib

/-- What an attempt finds: whether the bus is started, the status of the driver, and what
`HdmiCecTx` returns and sets. Between two attempts the mutexes are free and all of it may change. -/
structure Attempt where
  started : Bool
  status : DriverImpl.Status
  err : ℤ
  sendResult : ℤ

/-- The text that `snprintf` leaves in `buffer[128]`. -/
def caughtText (e : Exn) : String :=
  String.ofList (("Bus::send exp caught [" ++ e.what ++ "] ").toList.take 127)

/-- The report of a failed write, which leaves out frames without an opcode. -/
def reportFailure (frame : CECFrame) (e : Exn) : Logged Exn SendEvent Unit :=
  if frame.length > 1 then do
    .emit (.t2Event "HDMI_WARN_CEC_InvalidParamExcptn_split" (caughtText e))
    lib (ccecLog logExp ("Bus::send exp caught [" ++ e.what ++ "] \r\n"))
  else
    pure ()

/-- `Driver::getInstance().write(frame)`. -/
def driverWrite (now : Attempt) (frame : CECFrame) : Logged Exn SendEvent Unit := do
  .emit (.write frame)
  (DriverImpl.write now.status now.err now.sendResult frame).mapLog .ofWrite

/-- `send(frame, timeout)` with a timeout that is not positive. -/
def sendNow (now : Attempt) (frame : CECFrame) : Logged Exn SendEvent Unit := do
  lib (checkStarted now.started)
  Logged.catching Exn.isException (fun e => do
      reportFailure frame e
      .raise e) (do
    driverWrite now frame
    lib (ccecLog logDebug "Bus::send write done\r\n"))

/-- The `try` of a round, with `retry` rounds left after it: whether the frame was sent. -/
def sendRound (now : Attempt) (frame : CECFrame) (retry : ℕ) : Logged Exn SendEvent Bool :=
  Logged.catching Exn.isException (fun e => do
      lib (if frame.length > 1 then ccecLog logExp ("Bus::send exp caught [" ++ e.what ++
        "], retry [" ++ toString retry ++ "]\r\n") else pure ())
      if retry = 0 then .raise e else pure false) (do
    lib (checkStarted now.started)
    sendNow now frame
    pure true)

/-- The `do … while (retry--)` from the round `n` on. A round that sends sets `retry` to 0. -/
def sendLoop (attempts : ℕ → Attempt) (frame : CECFrame) : (n retry : ℕ) →
    Logged Exn SendEvent Unit
  | n, 0 => do
    .emit (.usleep 1000)
    let _sent ← sendRound (attempts n) frame 0
    pure ()
  | n, retry + 1 => do
    .emit (.usleep 1000)
    let sent ← sendRound (attempts n) frame (retry + 1)
    if sent then
      pure ()
    else do
      .emit (.usleep 250000)
      sendLoop attempts frame (n + 1) retry

/-- `send(frame, timeout)`. -/
def send (attempts : ℕ → Attempt) (frame : CECFrame) (timeout : ℤ) : Logged Exn SendEvent Unit :=
  if timeout ≤ 0 then
    sendNow (attempts 0) frame
  else
    sendLoop attempts frame 0 (timeout / 250).toNat

end Bus

/-! ### The connection -/

/-- `((uint8_t *)buf)[0] = byte`. -/
def CECFrame.setFirst (frame : CECFrame) (byte : UInt8) : CECFrame :=
  ⟨frame.bytes.set 0 byte, by simpa using frame.length_le⟩

namespace Connection

/-- `matchSource(frame)`: the frame of the caller after it. A frame without bytes has some byte in
`buf[0]` that the model does not know; it is not part of the frame. -/
def matchSource (driver : Device) (source : LogicalAddress) (frame : CECFrame) : Ccec CECFrame :=
  if driver.isValidLogicalAddress source then do
    let sourceText ← source.toString
    ccecLog logDebug ("Mathing source to " ++ sourceText ++ "\r\n")
    let first := frame.bytes.getD 0 0
    ccecLog logDebug ("Has source to " ++ hex ((first >>> 4) &&& 0x0F).toNat ++ "\r\n")
    let sourceInt ← source.toInt
    if ((first >>> 4) &&& 0x0F).toNat ≠ sourceInt &&& 0x0F then do
      ccecLog logError "Altering Initiator to match connection source\r\n"
      let sourceInt ← source.toInt
      pure (frame.setFirst (UInt8.ofNat ((first &&& 0x0F).toNat ||| (sourceInt &&& 0x0F) <<< 4)))
    else
      pure frame
  else
    pure frame

/-- The frame of the caller after a call, and the run of the call. -/
structure Sent (α : Type) where
  frame : CECFrame
  run : Logged Exn SendEvent α

/-- A call that logs `text`, does `matchSource(frame)` and goes on with the frame that this
leaves. -/
def matching {α : Type} (text : String) (driver : Device) (source : LogicalAddress)
    (frame : CECFrame) (rest : CECFrame → Logged Exn SendEvent α) : Sent α where
  frame := (matchSource driver source frame).result.toOption.getD frame
  run := do
    Bus.lib (ccecLog logDebug text)
    let frame ← Bus.lib (matchSource driver source frame)
    rest frame

/-- `send(frame, timeout)`, which swallows the exceptions of the library. -/
def send (driver : Device) (source : LogicalAddress) (attempts : ℕ → Bus.Attempt)
    (frame : CECFrame) (timeout : ℤ) : Sent Unit :=
  matching ("Sending out from Connection with timeout " ++ toString timeout ++ " ms\r\n") driver
    source frame fun frame =>
      Logged.catching Exn.isException (fun _ => pure ()) (Bus.send attempts frame timeout)

/-- `send(frame, timeout, doThrow)`, which throws them again. -/
def sendOrThrow (driver : Device) (source : LogicalAddress) (attempts : ℕ → Bus.Attempt)
    (frame : CECFrame) (timeout : ℤ) : Sent Unit :=
  matching "Sending out from Connection\r\n" driver source frame fun frame =>
    Logged.catching Exn.isException .raise (Bus.send attempts frame timeout)

/-- `sendAsync(frame)`: the write queue after it. -/
def sendAsync (driver : Device) (source : LogicalAddress) (started : Bool) (wQueue : FrameQueue)
    (addr : ℕ) (frame : CECFrame) : Sent FrameQueue :=
  matching "Sending out from Connection\r\n" driver source frame fun frame =>
    Bus.lib (Bus.sendAsync started wQueue addr frame)

/-- `fullFrame`: the header and the frame of the caller. -/
def fullFrame (source toAddr : LogicalAddress) (frame : CECFrame) : Ccec CECFrame := do
  let header : Header := ⟨source, toAddr⟩
  header.print
  let full ← header.serialize .empty
  full.appendBuf frame.bytes

/-- `sendToAsync(to, frame)`: the write queue after it. -/
def sendToAsync (driver : Device) (source : LogicalAddress) (started : Bool) (wQueue : FrameQueue)
    (addr : ℕ) (toAddr : LogicalAddress) (frame : CECFrame) : Logged Exn SendEvent FrameQueue := do
  let full ← Bus.lib (fullFrame source toAddr frame)
  (sendAsync driver source started wQueue addr full).run

end Connection

end HdmiCec
