import HdmiCec.System.Basic

/-!
# The driver and the hardware layer

The operations of `DriverImpl` with its members `status`, `nativeHandle`, `rQueue` and
`logicalAddresses`, as they are called one after the other (each of them holds the driver's mutex).
What the hardware layer returns is a parameter of each operation; the calls it receives are part of
the log.
-/

namespace HdmiCec

open Lib

/-! ### The calls of the hardware layer -/

/-- A call of the hardware layer, with its handle first. `HdmiCecOpen` has the handle that it leaves
in `nativeHandle`; `err` is what the call returned, where it matters. -/
inductive HalCall where
  | hdmiCecOpen (handle err : ℤ)
  | hdmiCecSetRxCallback (handle : ℤ)
  | hdmiCecSetTxCallback (handle : ℤ)
  | hdmiCecClose (handle : ℤ)
  | hdmiCecTx (handle : ℤ) (bytes : List UInt8)
  | hdmiCecTxAsync (handle : ℤ) (bytes : List UInt8)
  | hdmiCecGetLogicalAddress (handle : ℤ)
  | hdmiCecGetPhysicalAddress (handle : ℤ)
  | hdmiCecRemoveLogicalAddress (handle : ℤ) (logicalAddress : ℕ)
  | hdmiCecAddLogicalAddress (handle : ℤ) (logicalAddress : ℕ) (err : ℤ)
deriving DecidableEq, Repr

/-- What a run of an operation logs. -/
inductive DriverEvent where
  | lib (e : Event)
  | hal (call : HalCall)
deriving DecidableEq, Repr

/-- What a run of `DriverImpl::write` logs, with the handle. -/
def DriverEvent.ofWrite (handle : ℤ) : DriverImpl.WriteEvent → DriverEvent
  | .lib e => .lib e
  | .hdmiCecTx bytes => .hal (.hdmiCecTx handle bytes)

/-- The calls of the hardware layer in a log. -/
def halCalls (log : List DriverEvent) : List HalCall :=
  log.filterMap fun
    | .hal call => some call
    | .lib _ => none

/-! ### The operations -/

/-- The members of `DriverImpl`. -/
structure Device where
  status : DriverImpl.Status
  nativeHandle : ℤ
  rQueue : FrameQueue
  logicalAddresses : List LogicalAddress

/-- The driver after an operation, and the run of the operation. An operation that throws may have
changed the driver. -/
structure Outcome (α : Type) where
  device : Device
  run : Logged Exn DriverEvent α

namespace Device

/-- `DriverImpl()`. -/
def new : Device := ⟨.closed, 0, .empty, []⟩

/-- A part of an operation that does not call the hardware layer. -/
def lib {α : Type} (m : Ccec α) : Logged Exn DriverEvent α := m.mapLog .lib

def hal (call : HalCall) : Logged Exn DriverEvent Unit := .emit (.hal call)

/-- `open()`, where `HdmiCecOpen` leaves `handle` and returns `err`. -/
def openDriver (d : Device) (handle err : ℤ) : Outcome Unit :=
  if d.status ≠ .closed then
    ⟨d, pure ()⟩
  else if err ≠ DriverImpl.ioSuccess then
    ⟨{ d with nativeHandle := handle }, do
      hal (.hdmiCecOpen handle err)
      .raise .io⟩
  else
    ⟨{ d with nativeHandle := handle, status := .opened }, do
      hal (.hdmiCecOpen handle err)
      hal (.hdmiCecSetRxCallback handle)
      hal (.hdmiCecSetTxCallback handle)⟩

/-- `close()`, where `HdmiCecClose` returns `err`. -/
def closeDriver (d : Device) (err : ℤ) : Outcome Unit :=
  if d.status ≠ .opened then
    ⟨d, pure ()⟩
  else
    ⟨{ d with rQueue := offerNull d.rQueue, status := .closed }, do
      lib (if d.rQueue.events.length = d.rQueue.cap then
        ccecLog logDebug "Receive queue already signaled during close\r\n" else pure ())
      hal (.hdmiCecClose d.nativeHandle)
      if err ≠ DriverImpl.ioSuccess then .raise .io else pure ()⟩

/-- The check of the status that opens most operations. -/
def checkOpened (d : Device) : Logged Exn DriverEvent Unit :=
  lib (if d.status ≠ .opened then .raise .invalidState else pure ())

/-- `write(frame)`, where `HdmiCecTx` returns `err` and sets `sendResult`. -/
def write (d : Device) (frame : CECFrame) (err sendResult : ℤ) : Outcome Unit :=
  ⟨d, (DriverImpl.write d.status err sendResult frame).mapLog (.ofWrite d.nativeHandle)⟩

/-- `writeAsync(frame)`, where `HdmiCecTxAsync` returns `err`. -/
def writeAsync (d : Device) (frame : CECFrame) (err : ℤ) : Outcome Unit :=
  ⟨d, do
    lib (DriverImpl.printFrameDetails frame)
    d.checkOpened
    lib (ccecLog logDebug "DriverImpl::write to call HdmiCecTxAsync\r\n")
    hal (.hdmiCecTxAsync d.nativeHandle frame.bytes)
    lib (ccecLog logDebug ">>>>>>> >>>>> >>>> >> >> >\r\n")
    lib (DriverImpl.dumpBuffer frame.bytes)
    lib (ccecLog logDebug "==========================\r\n")
    lib (ccecLog logDebug ("DriverImpl:: call HdmiCecTxAsync " ++ hex (err % 2 ^ 32).toNat
      ++ "\r\n"))
    lib (DriverImpl.checkErr err)
    lib (ccecLog logDebug "Send Async Completed\r\n")⟩

/-- `poll(from, to)`: a frame of one byte is written. -/
def poll (d : Device) (fromAddr toAddr : LogicalAddress) (err sendResult : ℤ) : Outcome Unit :=
  ⟨d, do
    let fromInt ← lib fromAddr.toInt
    let toInt ← lib toAddr.toInt
    let firstByte := UInt8.ofNat ((fromInt &&& 0x0F) <<< 4 ||| (toInt &&& 0x0F))
    let fromText ← lib fromAddr.toString
    let toText ← lib toAddr.toString
    lib (ccecLog logDebug ("$$$$$$$$$$$$$$$$$$$$ POST POLL [" ++ fromText ++ "] [" ++ toText
      ++ "]$$$$$$$$$$$$$$$$$$$$$\r\n"))
    let frame ← lib (CECFrame.empty.append firstByte)
    (d.write frame err sendResult).run⟩

/-- `getLogicalAddress(devType)`, where `HdmiCecGetLogicalAddress` leaves `logicalAddress`. -/
def getLogicalAddress (d : Device) (devType logicalAddress : ℤ) : Outcome ℤ :=
  ⟨d, do
    lib (ccecLog logDebug ("DriverImpl::getLogicalAddress called for devType : " ++
      toString devType ++ " \r\n"))
    hal (.hdmiCecGetLogicalAddress d.nativeHandle)
    lib (ccecLog logDebug ("DriverImpl::getLogicalAddress got logical Address : " ++
      toString logicalAddress ++ " \r\n"))
    pure logicalAddress⟩

/-- `getPhysicalAddress(&physicalAddress)`, where `HdmiCecGetPhysicalAddress` leaves
`physicalAddress`. -/
def getPhysicalAddress (d : Device) (physicalAddress : ℕ) : Outcome ℕ :=
  ⟨d, do
    lib (ccecLog logDebug "DriverImpl::getPhysicalAddress called \r\n")
    hal (.hdmiCecGetPhysicalAddress d.nativeHandle)
    lib (ccecLog logDebug ("DriverImpl::getPhysicalAddress got physical Address : " ++
      hex physicalAddress ++ " \r\n"))
    pure physicalAddress⟩

/-- `removeLogicalAddress(source)`. -/
def removeLogicalAddress (d : Device) (source : LogicalAddress) : Outcome Unit :=
  ⟨if d.status ≠ .opened then d
    else { d with logicalAddresses := d.logicalAddresses.filter (· ≠ source) }, do
    d.checkOpened
    let logicalAddress ← lib source.toInt
    hal (.hdmiCecRemoveLogicalAddress d.nativeHandle logicalAddress)⟩

/-- The check of what `HdmiCecAddLogicalAddress` returned. -/
def checkAdd (retErr : ℤ) : Ccec Bool :=
  if retErr = DriverImpl.ioLogicalAddressUnavailable then .raise .addressNotAvailable
  else if retErr = DriverImpl.ioGeneralError then .raise .io
  else pure true

/-- `addLogicalAddress(source)`, where `HdmiCecAddLogicalAddress` returns `retErr`. Every result but
two is taken for a success. -/
def addLogicalAddress (d : Device) (source : LogicalAddress) (retErr : ℤ) : Outcome Bool :=
  ⟨if d.status ≠ .opened ∨ retErr = DriverImpl.ioLogicalAddressUnavailable ∨
      retErr = DriverImpl.ioGeneralError then d
    else { d with logicalAddresses := d.logicalAddresses ++ [source] }, do
    d.checkOpened
    let logicalAddress ← lib source.toInt
    hal (.hdmiCecAddLogicalAddress d.nativeHandle logicalAddress retErr)
    lib (checkAdd retErr)⟩

/-- `isValidLogicalAddress(source)`. -/
def isValidLogicalAddress (d : Device) (source : LogicalAddress) : Bool :=
  d.logicalAddresses.any (· = source)

end Device

/-! ### Runs -/

/-- An operation with what the hardware layer will return. A `LogicalAddress` has one byte. -/
inductive DeviceOp where
  | openDriver (handle err : ℤ)
  | closeDriver (err : ℤ)
  | write (frame : CECFrame) (err sendResult : ℤ)
  | writeAsync (frame : CECFrame) (err : ℤ)
  | poll (fromAddr toAddr : UInt8) (err sendResult : ℤ)
  | addLogicalAddress (source : UInt8) (retErr : ℤ)
  | removeLogicalAddress (source : UInt8)
  | getLogicalAddress (devType logicalAddress : ℤ)
  | getPhysicalAddress (physicalAddress : ℕ)

/-- The driver after an operation, and whether it threw. -/
def Outcome.void {α : Type} (o : Outcome α) : Outcome Unit := ⟨o.device, do let _ ← o.run⟩

def Device.perform (d : Device) : DeviceOp → Outcome Unit
  | .openDriver handle err => d.openDriver handle err
  | .closeDriver err => d.closeDriver err
  | .write frame err sendResult => d.write frame err sendResult
  | .writeAsync frame err => d.writeAsync frame err
  | .poll fromAddr toAddr err sendResult => d.poll (.ofByte fromAddr) (.ofByte toAddr) err sendResult
  | .addLogicalAddress source retErr => (d.addLogicalAddress (.ofByte source) retErr).void
  | .removeLogicalAddress source => d.removeLogicalAddress (.ofByte source)
  | .getLogicalAddress devType logicalAddress => (d.getLogicalAddress devType logicalAddress).void
  | .getPhysicalAddress physicalAddress => (d.getPhysicalAddress physicalAddress).void

/-- The driver with the calls that the hardware layer has received. -/
structure Traffic where
  device : Device
  calls : List HalCall

namespace Traffic

def new : Traffic := ⟨.new, []⟩

/-- An operation is performed. It may throw; then the next one is performed on what it left. -/
def perform (t : Traffic) (op : DeviceOp) : Traffic :=
  ⟨(t.device.perform op).device, t.calls ++ halCalls (t.device.perform op).run.log⟩

def step (t : Traffic) (op : DeviceOp) : Option Traffic := some (t.perform op)

end Traffic

end HdmiCec
