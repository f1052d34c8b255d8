import HdmiCec.Codec.Basic
import HdmiCec.Driver.Basic

/-!
# Connections and the dispatch of a received frame

What the reader thread does with a frame that it has read: for every connection that listens to the
bus, `printFrameDetails` and the connection's filter, and for every listener behind the filter a
decoder with the application's processor.
-/

namespace HdmiCec

open Lib

/-- A connection: its source address and the processors of its listeners. -/
structure Connection where
  name : String
  source : LogicalAddress
  frameListeners : List Processor

namespace Connection

/-- `DefaultFilter::isFiltered(frame)`. -/
def isFiltered (source : LogicalAddress) (frame : CECFrame) : Ccec Bool :=
  if source = .ofInt LogicalAddress.unregistered then
    pure false
  else do
    let header ← Header.ofFrame frame 0
    pure (!(header.toAddr = .ofInt LogicalAddress.broadcast || header.toAddr = source))

/-- `DefaultFrameListener::notify(frame)`, with listeners that decode. -/
def notify (connection : Connection) (frame : CECFrame) : Logged Exn DecodeEvent Unit := do
  let filtered ← MessageDecoder.operands (isFiltered connection.source frame)
  if !filtered then
    Logged.each (fun processor => do
      MessageDecoder.operands (ccecLog logDebug
        ("connection [" ++ connection.name ++ "] frame Listeners notify Listener\r\n"))
      MessageDecoder.decode processor frame) connection.frameListeners
  else do
    let _header ← MessageDecoder.operands (Header.ofFrame frame 0)
    pure ()

end Connection

namespace Reader

/-- What `Bus::Reader::run` does with a frame it has read, inside its `try`. -/
def dispatch (listeners : List Connection) (frame : CECFrame) : Logged Exn DecodeEvent Unit := do
  MessageDecoder.operands (if listeners.length = 0 then
    ccecLog logDebug "Bus::Reader discarding msgs for lack of listener\r\n" else pure ())
  Logged.each (fun listener => do
    MessageDecoder.operands (ccecLog logDebug "Bus::Reader::run() notify Listener\r\n")
    MessageDecoder.operands (DriverImpl.printFrameDetails frame)
    Connection.notify listener frame) listeners

/-- The round of the loop that dispatches a frame: only the library's `InvalidStateException` is
caught. -/
def round (isRunning : Bool) (listeners : List Connection) (frame : CECFrame) :
    Logged Exn DecodeEvent Unit :=
  (dispatch listeners frame).catching (· = .invalidState) fun _ =>
    MessageDecoder.operands
      (ccecLog logDebug ("EOF for reader [" ++ toString isRunning.toNat ++ "]\r\n"))

end Reader

end HdmiCec
