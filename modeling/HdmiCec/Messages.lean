import HdmiCec.OpCode
import HdmiCec.Operands.Basic

/-!
# Header, opcode block and messages

`Header`, `OpCode` and the message classes of `ccec/Messages.hpp`. A message is a value of `Msg`,
one constructor for each class with the class's members as arguments. Each class's three
functions are here: the constructor from a frame (under the class's name), `serialize` and
`print`.
-/

namespace HdmiCec

open Lib

/-! ### Header -/

/-- `Header`: the addresses `from` and `to`. -/
structure Header where
  fromAddr : LogicalAddress
  toAddr : LogicalAddress
deriving DecidableEq, Repr

namespace Header

/-- `Header(from, to)` for two logical addresses given as numbers. -/
def ofInts (fromAddr toAddr : ℤ) : Header := ⟨.ofInt fromAddr, .ofInt toAddr⟩

/-- `Header(frame, startPos)`. -/
def ofFrame (frame : CECFrame) (startPos : ℕ) : Ccec Header := do
  let b ← frame.byteAt startPos
  let b' ← frame.byteAt startPos
  pure ⟨.ofInt ((b &&& 0xF0) >>> 4).toNat, .ofInt ((b' &&& 0x0F) >>> 0).toNat⟩

/-- `serialize(frame)`: `to` is appended and `from` is put into the high nibble of that byte. -/
def serialize (h : Header) (frame : CECFrame) : Ccec CECFrame := do
  let fromText ← h.fromAddr.toString
  let toText ← h.toAddr.toString
  ccecLog logDebug ("Serialing header  " ++ fromText ++ "   " ++ toText ++ " \n")
  let frame ← CECBytes.serialize h.toAddr frame
  let byte ← frame.byteAt (frame.length - 1)
  let toByte ← h.toAddr.toInt
  assert (byte.toNat = toByte)
  let fromByte ← h.fromAddr.toInt
  frame.set (frame.length - 1) (UInt8.ofNat (fromByte <<< 4 ||| byte.toNat))

def print (h : Header) : Ccec Unit := do
  let fromText ← h.fromAddr.toString
  ccecLog logDebug ("Header : From : " ++ fromText ++ " \n")
  let toText ← h.toAddr.toString
  ccecLog logDebug ("Header : to   : " ++ toText ++ " \n")

end Header

/-! ### Opcode block -/

/-- `OpCode`, the data block that holds an opcode. -/
structure OpCode where
  opCode : OpT
deriving DecidableEq, Repr

namespace OpCode

def maxLen : ℤ := 1

/-- `OpCode(frame, startPos)`. -/
def ofFrame (frame : CECFrame) (startPos : ℤ) : Ccec OpCode := do
  let b ← frame.byteAt (sizeT startPos)
  pure ⟨b.toNat⟩

/-- `serialize(frame)`: a polling message has no opcode byte. -/
def serialize (o : OpCode) (frame : CECFrame) : Ccec CECFrame :=
  if o.opCode ≠ Op.polling then
    frame.append (UInt8.ofNat o.opCode)
  else
    pure frame

def toString (o : OpCode) : String := getOpName o.opCode

def print (o : OpCode) : Ccec Unit := ccecLog logDebug ("Opcode : " ++ o.toString ++ " \n")

end OpCode

/-! ### The message classes -/

inductive Msg where
  | activeSource (physicalAddress : PhysicalAddress)
  | imageViewOn
  | textViewOn
  | inActiveSource (physicalAddress : PhysicalAddress)
  | requestActiveSource
  | standby
  | getCECVersion
  | cecVersion (version : Version)
  | setMenuLanguage (language : Language)
  | getMenuLanguage
  | giveOSDName
  | setOSDName (osdName : OSDName)
  | setOSDString (osdString : OSDString)
  | givePhysicalAddress
  | reportPhysicalAddress (physicalAddress : PhysicalAddress) (deviceType : DeviceType)
  | giveDeviceVendorID
  | deviceVendorID (vendorId : VendorID)
  | giveDevicePowerStatus
  | reportPowerStatus (status : PowerStatus)
  | abort
  | featureAbort (feature : OpCode) (reason : AbortReason)
  | routingChange (fromAddr toAddr : PhysicalAddress)
  | routingInformation (toSink : PhysicalAddress)
  | setStreamPath (toSink : PhysicalAddress)
  | requestShortAudioDescriptor (requestAudioFormat : List RequestAudioFormat)
      (numberofdescriptor : ℕ)
  | reportShortAudioDescriptor (shortAudioDescriptor : List ShortAudioDescriptor)
      (numberofdescriptor : ℕ)
  | systemAudioModeRequest (physicaladdress : PhysicalAddress)
  | setSystemAudioMode (status : SystemAudioStatus)
  | giveAudioStatus
  | reportAudioStatus (status : AudioStatus)
  | userControlPressed (uiCommand : UICommand)
  | userControlReleased
  | polling
  | requestArcInitiation
  | reportArcInitiation
  | requestArcTermination
  | reportArcTermination
  | initiateArc
  | terminateArc
  | giveFeatures
  | reportFeatures (version : Version) (allDeviceTypes : AllDeviceTypes)
      (rcProfile : List RcProfile) (deviceFeatures : List DeviceFeatures)
  | requestCurrentLatency (physicaladdress : PhysicalAddress)
  | reportCurrentLatency (physicaladdress : PhysicalAddress) (latencyInfo : List LatencyInfo)
deriving DecidableEq, Repr

/-- `opCode()`. -/
def Msg.opCode : Msg → OpT
  | activeSource _ => Op.activeSource
  | imageViewOn => Op.imageViewOn
  | textViewOn => Op.textViewOn
  | inActiveSource _ => Op.inactiveSource
  | requestActiveSource => Op.requestActiveSource
  | standby => Op.standby
  | getCECVersion => Op.getCecVersion
  | cecVersion _ => Op.cecVersion
  | setMenuLanguage _ => Op.setMenuLanguage
  | getMenuLanguage => Op.getMenuLanguage
  | giveOSDName => Op.giveOsdName
  | setOSDName _ => Op.setOsdName
  | setOSDString _ => Op.setOsdString
  | givePhysicalAddress => Op.givePhysicalAddress
  | reportPhysicalAddress _ _ => Op.reportPhysicalAddress
  | giveDeviceVendorID => Op.giveDeviceVendorId
  | deviceVendorID _ => Op.deviceVendorId
  | giveDevicePowerStatus => Op.giveDevicePowerStatus
  | reportPowerStatus _ => Op.reportPowerStatus
  | abort => Op.abort
  | featureAbort _ _ => Op.featureAbort
  | routingChange _ _ => Op.routingChange
  | routingInformation _ => Op.routingInformation
  | setStreamPath _ => Op.setStreamPath
  | requestShortAudioDescriptor _ _ => Op.requestShortAudioDescriptor
  | reportShortAudioDescriptor _ _ => Op.reportShortAudioDescriptor
  | systemAudioModeRequest _ => Op.systemAudioModeRequest
  | setSystemAudioMode _ => Op.setSystemAudioMode
  | giveAudioStatus => Op.giveAudioStatus
  | reportAudioStatus _ => Op.reportAudioStatus
  | userControlPressed _ => Op.userControlPressed
  | userControlReleased => Op.userControlReleased
  | polling => Op.polling
  | requestArcInitiation => Op.requestArcInitiation
  | reportArcInitiation => Op.reportArcInitiated
  | requestArcTermination => Op.requestArcTermination
  | reportArcTermination => Op.reportArcTerminated
  | initiateArc => Op.initiateArc
  | terminateArc => Op.terminateArc
  | giveFeatures => Op.giveFeatures
  | reportFeatures _ _ _ _ => Op.reportFeatures
  | requestCurrentLatency _ => Op.requestCurrentLatency
  | reportCurrentLatency _ _ => Op.reportCurrentLatency

/-! ### Constructors from a frame -/

def ActiveSource.ofFrame (frame : CECFrame) (startPos : ℤ) : Ccec Msg :=
  .activeSource <$> CECBytes.ofFrameAt frame startPos

def InActiveSource.ofFrame (frame : CECFrame) (startPos : ℤ) : Ccec Msg :=
  .inActiveSource <$> CECBytes.ofFrameAt frame startPos

def CECVersion.ofFrame (frame : CECFrame) (startPos : ℤ) : Ccec Msg :=
  .cecVersion <$> CECBytes.ofFrameAt frame startPos

def SetMenuLanguage.ofFrame (frame : CECFrame) (startPos : ℤ) : Ccec Msg :=
  .setMenuLanguage <$> CECBytes.ofFrameAt frame startPos

def SetOSDName.ofFrame (frame : CECFrame) (startPos : ℤ) : Ccec Msg :=
  .setOSDName <$> CECBytes.ofFrameAt frame startPos

def SetOSDString.ofFrame (frame : CECFrame) (startPos : ℤ) : Ccec Msg :=
  .setOSDString <$> CECBytes.ofFrameAt frame startPos

def ReportPhysicalAddress.ofFrame (frame : CECFrame) (startPos : ℤ) : Ccec Msg := do
  let physicalAddress ← CECBytes.ofFrameAt frame startPos
  let deviceType ← CECBytes.ofFrameAt frame (startPos + OperandClass.physicalAddress.maxLen)
  pure (.reportPhysicalAddress physicalAddress deviceType)

def DeviceVendorID.ofFrame (frame : CECFrame) (startPos : ℤ) : Ccec Msg :=
  .deviceVendorID <$> CECBytes.ofFrameAt frame startPos

def ReportPowerStatus.ofFrame (frame : CECFrame) (startPos : ℤ) : Ccec Msg :=
  .reportPowerStatus <$> CECBytes.ofFrameAt frame startPos

def FeatureAbort.ofFrame (frame : CECFrame) (startPos : ℤ) : Ccec Msg := do
  let feature ← OpCode.ofFrame frame startPos
  let reason ← CECBytes.ofFrameAt frame (startPos + OpCode.maxLen)
  pure (.featureAbort feature reason)

def RoutingChange.ofFrame (frame : CECFrame) (startPos : ℤ) : Ccec Msg := do
  let fromAddr ← CECBytes.ofFrameAt frame startPos
  let toAddr ← CECBytes.ofFrameAt frame (startPos + OperandClass.physicalAddress.maxLen)
  pure (.routingChange fromAddr toAddr)

def RoutingInformation.ofFrame (frame : CECFrame) (startPos : ℤ) : Ccec Msg :=
  .routingInformation <$> CECBytes.ofFrameAt frame startPos

def SetStreamPath.ofFrame (frame : CECFrame) (startPos : ℤ) : Ccec Msg :=
  .setStreamPath <$> CECBytes.ofFrameAt frame startPos

/-- At most four formats of one byte each. The length is first cut to eight bits. -/
def RequestShortAudioDescriptor.ofFrame (frame : CECFrame) (startPos : ℤ) : Ccec Msg := do
  let len := frame.length % 256
  let numberofdescriptor := if len > 4 then 4 else len
  let requestAudioFormat ←
    Logged.collect (fun i : ℕ => CECBytes.ofFrameAt frame (startPos + i))
      (List.range numberofdescriptor)
  pure (.requestShortAudioDescriptor requestAudioFormat numberofdescriptor)

/-- One descriptor for each group of three bytes. -/
def ReportShortAudioDescriptor.ofFrame (frame : CECFrame) (startPos : ℤ) : Ccec Msg := do
  let numberofdescriptor := frame.length / 3 % 256
  let shortAudioDescriptor ←
    Logged.collect (fun i : ℕ => CECBytes.ofFrameAt frame (startPos + i * 3))
      (List.range numberofdescriptor)
  pure (.reportShortAudioDescriptor shortAudioDescriptor numberofdescriptor)

/-- The members are constructed before the body runs, so an empty frame raises before the body can
put in the default address. -/
def SystemAudioModeRequest.ofFrame (frame : CECFrame) (startPos : ℤ) : Ccec Msg := do
  let physicaladdress ← CECBytes.ofFrameAt frame startPos
  if frame.length = 0 then
    pure (.systemAudioModeRequest (.ofNibbles 0xf 0xf 0xf 0xf))
  else
    pure (.systemAudioModeRequest physicaladdress)

def SetSystemAudioMode.ofFrame (frame : CECFrame) (startPos : ℤ) : Ccec Msg :=
  .setSystemAudioMode <$> CECBytes.ofFrameAt frame startPos

def ReportAudioStatus.ofFrame (frame : CECFrame) (startPos : ℤ) : Ccec Msg :=
  .reportAudioStatus <$> CECBytes.ofFrameAt frame startPos

def UserControlPressed.ofFrame (frame : CECFrame) (startPos : ℤ) : Ccec Msg :=
  .userControlPressed <$> CECBytes.ofFrameAt frame startPos

/-- The number of leading bytes whose extension bit, bit 7, is set: what the loops of
`ReportFeatures` count. -/
def extensionRun : List UInt8 → ℕ
  | [] => 0
  | b :: bs => if b &&& 0x80 ≠ 0 then extensionRun bs + 1 else 0

/-- `startPos` is set to 0 in the initialiser of `version`. `[RC Profile]` and `[Device Features]`
end with the first byte whose extension bit is clear. -/
def ReportFeatures.ofFrame (frame : CECFrame) (_startPos : ℤ) : Ccec Msg := do
  let startPos : ℤ := 0
  let version ← CECBytes.ofFrameAt frame startPos
  let allDeviceTypes ← CECBytes.ofFrameAt frame (startPos + OperandClass.version.maxLen)
  let buf := frame.bytes
  ccecLog logInfo ("Features Buffer ----> Frame Length:  " ++ toString frame.length ++ "\n")
  Logged.each (fun b : UInt8 => ccecLog logInfo (hex02 b ++ " :\n")) buf
  let rcLen := 1 + extensionRun (buf.drop 2)
  let rcProfile ← CECBytes.ofFrame frame (sizeT (startPos + 2)) rcLen
  let featuresLen := 1 + extensionRun (buf.drop (rcLen + 2))
  let deviceFeatures ← CECBytes.ofFrame frame (sizeAdd (sizeAdd (sizeT startPos) rcLen) 2) featuresLen
  pure (.reportFeatures version allDeviceTypes [rcProfile] [deviceFeatures])

def RequestCurrentLatency.ofFrame (frame : CECFrame) (startPos : ℤ) : Ccec Msg := do
  let physicaladdress ← CECBytes.ofFrameAt frame startPos
  if frame.length = 0 then
    pure (.requestCurrentLatency (.ofNibbles 0xf 0xf 0xf 0xf))
  else
    pure (.requestCurrentLatency physicaladdress)

/-- The length of `LatencyInfo` is the `int` `frame_len - 2`, converted to `size_t`. -/
def ReportCurrentLatency.ofFrame (frame : CECFrame) (startPos : ℤ) : Ccec Msg := do
  let physicaladdress ← CECBytes.ofFrameAt frame startPos
  let frameLen := frame.length % 256
  let frameLen : ℕ := if frameLen > 5 then 5 else frameLen
  let latencyInfo ← CECBytes.ofFrame frame (sizeT (startPos + 2)) (sizeT ((frameLen : ℤ) - 2))
  pure (.reportCurrentLatency physicaladdress [latencyInfo])

/-! ### Constructors from values -/

/-- `RequestShortAudioDescriptor(formatid, audioFormatCode, number_of_descriptor)`: at most four
formats, each packed into a byte. -/
def RequestShortAudioDescriptor.new (formatid audioFormatCode : List UInt8)
    (numberOfDescriptor : UInt8) : Ccec Msg := do
  let numberofdescriptor := if numberOfDescriptor.toNat > 4 then 4 else numberOfDescriptor.toNat
  let requestAudioFormat ← Logged.collect (fun i : ℕ => do
      let formatid ← subscript formatid i
      let audioFormatCode ← subscript audioFormatCode i
      pure (.ofByte (UInt8.ofNat (formatid.toNat <<< 6 ||| audioFormatCode.toNat &&& 0x3f))))
    (List.range numberofdescriptor)
  pure (.requestShortAudioDescriptor requestAudioFormat numberofdescriptor)

/-- `vec[i]` in a vector of `uint32_t`. -/
def wordAt (vec : List UInt32) (i : ℕ) : Ccec UInt32 := do
  .emit (.subscript i vec.length)
  pure (vec.getD i 0)

/-- `ReportShortAudioDescriptor(shortaudiodescriptor, numberofdescriptor)`. The parameter hides the
member of the same name, so that the member keeps whatever is in its place, `indeterminate`. -/
def ReportShortAudioDescriptor.new (shortaudiodescriptor : List UInt32) (numberofdescriptor : UInt8)
    (indeterminate : UInt8) : Ccec Msg := do
  let numberofdescriptor := if numberofdescriptor.toNat > 4 then 4 else numberofdescriptor.toNat
  let shortAudioDescriptor ← Logged.collect (fun i : ℕ => do
      let word ← wordAt shortaudiodescriptor i
      let byte0 := word &&& 0xF
      let word ← wordAt shortaudiodescriptor i
      let byte1 := (word >>> 8) &&& 0xF
      let word ← wordAt shortaudiodescriptor i
      let byte2 := (word >>> 16) &&& 0xF
      pure (ShortAudioDescriptor.ofBytes byte0.toUInt8 byte1.toUInt8 byte2.toUInt8))
    (List.range numberofdescriptor)
  pure (.reportShortAudioDescriptor shortAudioDescriptor indeterminate.toNat)

/-- `for (uint8_t i = start; i < vec.size(); i++) out.push_back(vec[i])`, as long as `fuel` tests of
the condition are enough. The counter wraps at 256. -/
def copyLoop {α : Type} (vec : List α) : (fuel : ℕ) → (i : UInt8) → (out : List α) → Option (List α)
  | 0, _, _ => none
  | fuel + 1, i, out =>
    match vec[i.toNat]? with
    | some o => copyLoop vec fuel (i + 1) (out ++ [o])
    | none => some out

/-- `ReportFeatures(version, allDeviceTypes, rc_Profile, device_Features)`. -/
def ReportFeatures.new (fuel : ℕ) (version : Version) (allDeviceTypes : AllDeviceTypes)
    (rcProfile : List RcProfile) (deviceFeatures : List DeviceFeatures) : Option Msg := do
  let rcProfile ← copyLoop rcProfile fuel 0 []
  let deviceFeatures ← copyLoop deviceFeatures fuel 0 []
  pure (.reportFeatures version allDeviceTypes rcProfile deviceFeatures)

/-- `ReportCurrentLatency(physicaladdress, videoLatency, latencyFlags, audioOutputDelay)`: one
`LatencyInfo` for each byte. -/
def ReportCurrentLatency.new (physicaladdress : PhysicalAddress)
    (videoLatency latencyFlags audioOutputDelay : UInt8) : Ccec Msg :=
  if latencyFlags &&& 0x3 = 0x3 then do
    ccecLog logDebug ("Audio Output compensated \n Audio Ouput Delay is "
      ++ toString audioOutputDelay.toNat ++ " ms\n")
    pure (.reportCurrentLatency physicaladdress
      [.ofByte videoLatency, .ofByte latencyFlags, .ofByte audioOutputDelay])
  else
    pure (.reportCurrentLatency physicaladdress [.ofByte videoLatency, .ofByte latencyFlags])

/-! ### `serialize` -/

/-- `vec[i]` in a vector of operands. -/
def vectorAt {c : OperandClass} (vec : List (CECBytes c)) (i : ℕ) : Ccec (CECBytes c) := do
  .emit (.subscript i vec.length)
  pure (vec.getD i ⟨[]⟩)

/-- `for (i = start; count more times; i++) vec[i].serialize(frame)`. -/
def serializeLoop {c : OperandClass} (vec : List (CECBytes c)) :
    (count i : ℕ) → CECFrame → Ccec CECFrame
  | 0, _, frame => pure frame
  | count + 1, i, frame => do
    let o ← vectorAt vec i
    let frame' ← o.serialize frame
    serializeLoop vec count (i + 1) frame'

/-- `for (uint8_t i = 0; i < vec.size(); i++) vec[i].serialize(frame)`. The eight-bit counter does
not wrap: an operand holds at least one byte, so a frame overflows before the 129th. -/
def serializeAll {c : OperandClass} (vec : List (CECBytes c)) (frame : CECFrame) : Ccec CECFrame :=
  serializeLoop vec vec.length 0 frame

/-- `a && b`: `b` is not evaluated when `a` is false. -/
def andAlso (a b : Ccec Bool) : Ccec Bool := do
  let x ← a
  if x then b else pure false

/-- `physicaladdress.getByteValue(index) == 0xF`. -/
def PhysicalAddress.nibbleIsF (physicaladdress : PhysicalAddress) (index : ℤ) : Ccec Bool := do
  let b ← physicaladdress.getByteValue index
  pure (b = 0xF)

/-- `serialize` of the two messages that leave out the address F.F.F.F. -/
def serializeAddress (physicaladdress : PhysicalAddress) (frame : CECFrame) : Ccec CECFrame := do
  let isDefault ← andAlso (physicaladdress.nibbleIsF 3) (andAlso (physicaladdress.nibbleIsF 2)
    (andAlso (physicaladdress.nibbleIsF 1) (physicaladdress.nibbleIsF 0)))
  if isDefault then
    pure frame
  else
    CECBytes.serialize physicaladdress frame

/-- `serialize(frame)`. The messages without operands inherit `DataBlock::serialize`, which
appends nothing. -/
def Msg.serialize (m : Msg) (frame : CECFrame) : Ccec CECFrame :=
  match m with
  | activeSource physicalAddress | inActiveSource physicalAddress => do
    let text ← physicalAddress.toString
    ccecLog logDebug (text ++ " \n")
    CECBytes.serialize physicalAddress frame
  | cecVersion version => version.serialize frame
  | setMenuLanguage language => language.serialize frame
  | setOSDName osdName => osdName.serialize frame
  | setOSDString osdString => osdString.serialize frame
  | reportPhysicalAddress physicalAddress deviceType => do
    let frame ← CECBytes.serialize physicalAddress frame
    deviceType.serialize frame
  | deviceVendorID vendorId => vendorId.serialize frame
  | reportPowerStatus status => status.serialize frame
  | featureAbort feature reason => do
    let frame ← feature.serialize frame
    reason.serialize frame
  | routingChange fromAddr toAddr => do
    let frame ← CECBytes.serialize fromAddr frame
    CECBytes.serialize toAddr frame
  | routingInformation toSink => CECBytes.serialize toSink frame
  | setStreamPath toSink => CECBytes.serialize toSink frame
  | requestShortAudioDescriptor requestAudioFormat numberofdescriptor =>
    serializeLoop requestAudioFormat numberofdescriptor 0 frame
  | reportShortAudioDescriptor shortAudioDescriptor numberofdescriptor =>
    serializeLoop shortAudioDescriptor numberofdescriptor 0 frame
  | systemAudioModeRequest physicaladdress => serializeAddress physicaladdress frame
  | setSystemAudioMode status => status.serialize frame
  | reportAudioStatus status => status.serialize frame
  | userControlPressed uiCommand => uiCommand.serialize frame
  | reportFeatures version allDeviceTypes rcProfile deviceFeatures => do
    let frame ← version.serialize frame
    let frame ← allDeviceTypes.serialize frame
    let frame ← serializeAll rcProfile frame
    serializeAll deviceFeatures frame
  | requestCurrentLatency physicaladdress => serializeAddress physicaladdress frame
  | reportCurrentLatency physicaladdress latencyInfo => do
    let frame ← CECBytes.serialize physicaladdress frame
    serializeAll latencyInfo frame
  | _ => pure frame

/-! ### `print` -/

/-- `DataBlock::print()`, for the classes that do not override it. -/
def DataBlock.print (opCode : OpT) : Ccec Unit :=
  ccecLog logDebug (getOpName opCode ++ " : " ++ "[No Operands]" ++ " \n")

/-- The log lines of a physical address with text around it. -/
def printAddress (before : String) (physicalAddress : PhysicalAddress) (after : String) :
    Ccec Unit := do
  let text ← physicalAddress.toString
  ccecLog logDebug (before ++ text ++ after)

def RequestShortAudioDescriptor.print (requestAudioFormat : List RequestAudioFormat)
    (numberofdescriptor : ℕ) : Ccec Unit :=
  Logged.each (fun i : ℕ => do
    let o : RequestAudioFormat ← vectorAt requestAudioFormat i
    let formatId ← o.getAudioformatId
    let o : RequestAudioFormat ← vectorAt requestAudioFormat i
    let code ← o.toString
    ccecLog logDebug ("audio format id " ++ toString formatId ++ " audioFormatCode : " ++ code ++ "\n"))
    (List.range numberofdescriptor)

def ReportShortAudioDescriptor.print (shortAudioDescriptor : List ShortAudioDescriptor)
    (numberofdescriptor : ℕ) : Ccec Unit :=
  Logged.each (fun i : ℕ => do
    let o : ShortAudioDescriptor ← vectorAt shortAudioDescriptor i
    let text ← o.toString
    let o : ShortAudioDescriptor ← vectorAt shortAudioDescriptor i
    let code ← o.getAudioformatCode
    let o : ShortAudioDescriptor ← vectorAt shortAudioDescriptor i
    let atmos ← o.getAtmosbit
    ccecLog logDebug (" audioFormatCode : " ++ text ++ " audioFormatCode " ++ toString code
      ++ " Atmos = " ++ toString atmos.toNat ++ "\n"))
    (List.range numberofdescriptor)

/-- The part of `ReportFeatures::print()` about one `RcProfile`. -/
def ReportFeatures.printRcProfile (o : RcProfile) : Ccec (List String) := do
  let profile ← o.getRcProfile
  let tv ← o.isRcProfileTv
  let source ← o.isRcProfileSource
  ccecLog logInfo ("RC Profile TV: " ++ toString tv.toNat ++ ", RC Profile Source: " ++
    toString source.toNat)
  let source ← o.isRcProfileSource
  if source then do
    let root ← o.rootMenuHandling
    let setup ← o.setupMenuHandling
    let contents ← o.contentsMenuHandling
    let top ← o.mediaTopMenuHandling
    let context ← o.contextSensitiveMenuHandling
    ccecLog logInfo ("Source can handle Device Root Menu: " ++ toString root.toNat
      ++ ", Source can handle Device Setup Menu: " ++ toString setup.toNat
      ++ ", Source can handle Contents Menu: " ++ toString contents.toNat
      ++ ", Source can handle Media Top Menu: " ++ toString top.toNat
      ++ ", Source can handle Media Context-Sensitive Menu: " ++ toString context.toNat)
    pure profile
  else
    pure profile

/-- The part of `ReportFeatures::print()` about one `DeviceFeatures`. -/
def ReportFeatures.printDeviceFeatures (o : DeviceFeatures) : Ccec (List String) := do
  let features ← o.getDeviceFeatures
  let record ← o.tvRecordScreenSupportBit
  let osd ← o.tVSetOSDStringSupportBit
  let deck ← o.controlledByDeckSupportBit
  let rate ← o.setAudioRateSupportBit
  let tx ← o.arcTxSupportBit
  let rx ← o.arcRxSupportBit
  ccecLog logInfo ("Tv Record Screen Support: " ++ toString record.toNat
    ++ ", TV SetOSD string Support: " ++ toString osd.toNat
    ++ ", Supports being controlled by Deck Control:" ++ toString deck.toNat
    ++ ",                    Source supports Set Audio Rate: " ++ toString rate.toNat
    ++ ", Sink supports ARC Tx: " ++ toString tx.toNat
    ++ ", Source supports ARC Rx: " ++ toString rx.toNat)
  pure features

/-- `ReportFeatures::print()`. The texts and values of the last element of each vector are the ones
printed after the loops. -/
def ReportFeatures.print (version : Version) (allDeviceTypes : AllDeviceTypes)
    (rcProfile : List RcProfile) (deviceFeatures : List DeviceFeatures) : Ccec Unit := do
  let versionText ← version.toString
  ccecLog logInfo ("Version : " ++ versionText ++ " \n")
  let allTypes ← allDeviceTypes.getAllDeviceTypes
  ccecLog logInfo "All Device types:\n"
  Logged.each (fun name => ccecLog logInfo (name ++ "\t")) allTypes
  let tv ← allDeviceTypes.isDeviceTypeTV
  let recording ← allDeviceTypes.isRecordingDevice
  let tuner ← allDeviceTypes.isDeviceTypeTuner
  let playback ← allDeviceTypes.isPlaybackDevice
  let audio ← allDeviceTypes.isDeviceTypeAudioSystem
  let cecSwitch ← allDeviceTypes.isDeviceTypeCECSwitch
  ccecLog logInfo ("Device Type TV: " ++ toString tv.toNat ++ ", Recording Device: "
    ++ toString recording.toNat ++ ", Tuner: " ++ toString tuner.toNat ++ ", Playback Device: "
    ++ toString playback.toNat ++ ", Audio Sytem: " ++ toString audio.toNat ++ ", CEC Switch: "
    ++ toString cecSwitch.toNat)
  let profiles ← Logged.collect ReportFeatures.printRcProfile rcProfile
  ccecLog logInfo "RC Profiles:\n"
  Logged.each (fun name => ccecLog logInfo (" " ++ name ++ "\t")) (profiles.getLastD [])
  ccecLog logInfo "RC Profile Byte Values:\n"
  Logged.each (fun b : UInt8 => ccecLog logInfo (" " ++ hex b.toNat ++ "\t"))
    ((rcProfile.map RcProfile.getRcProfileVal).getLastD [])
  let features ← Logged.collect ReportFeatures.printDeviceFeatures deviceFeatures
  ccecLog logInfo "Device Features\n"
  Logged.each (fun name => ccecLog logInfo (" " ++ name ++ "\t")) (features.getLastD [])
  ccecLog logInfo "Device Features Byte values:\n"
  Logged.each (fun b : UInt8 => ccecLog logInfo (" " ++ hex b.toNat ++ "\t"))
    ((deviceFeatures.map DeviceFeatures.getDeviceFeaturesVal).getLastD [])

def ReportCurrentLatency.print (physicaladdress : PhysicalAddress) (latencyInfo : List LatencyInfo) :
    Ccec Unit := do
  printAddress "Physical address: " physicaladdress " \n LatencyInfo : \n"
  Logged.each (fun o : LatencyInfo => do
    let video ← o.getVideoLatency
    let flags ← o.getLatencyFlags
    let delay ← o.getAudioOutputDelay
    ccecLog logDebug ("Video Latency : " ++ toString video.toNat ++ ", Latency Flags : "
      ++ toString flags.toNat ++ ", Audio output Delay : " ++ toString delay ++ "\n"))
    latencyInfo

/-- `print()`. `UserControlPressed`, `SetSystemAudioMode` and `ReportAudioStatus` have operands but
inherit `DataBlock::print`. -/
def Msg.print (m : Msg) : Ccec Unit :=
  match m with
  | activeSource physicalAddress =>
    printAddress (getOpName Op.activeSource ++ " : " ++ PhysicalAddress.name ++ "  : ")
      physicalAddress " \n"
  | inActiveSource physicalAddress =>
    printAddress (getOpName Op.inactiveSource ++ " : " ++ PhysicalAddress.name ++ " : ")
      physicalAddress "  \n"
  | cecVersion version => do
    let text ← version.toString
    ccecLog logDebug ("Version : " ++ text ++ " \n")
  | setMenuLanguage language => ccecLog logDebug ("Language : " ++ cStr language.toText ++ " \n")
  | setOSDName osdName => ccecLog logDebug ("OSDName : " ++ cStr osdName.toText ++ "\n")
  | setOSDString osdString => ccecLog logDebug ("OSDString : " ++ cStr osdString.toText ++ "\n")
  | reportPhysicalAddress physicalAddress deviceType => do
    printAddress "Physical Address : " physicalAddress "\n"
    let text ← deviceType.toString
    ccecLog logDebug ("Device Type : " ++ text ++ "\n")
  | deviceVendorID vendorId => ccecLog logDebug ("VendorID : " ++ vendorId.toHexString ++ "\n")
  | reportPowerStatus status => do
    let text ← status.toString
    ccecLog logDebug ("Power Status: " ++ text)
  | featureAbort feature reason => do
    ccecLog logDebug ("Abort For Feature : " ++ feature.toString ++ "\n")
    let text ← reason.toString
    ccecLog logDebug ("Abort Reason : " ++ text ++ "\n")
  | routingChange fromAddr toAddr => do
    printAddress "Routing Change From : " fromAddr "\n"
    printAddress "Routing Change to : " toAddr "\n"
  | routingInformation toSink => printAddress "Routing Information to Sink : " toSink "\n"
  | setStreamPath toSink => printAddress "Set Stream Path to Sink : " toSink "\n"
  | requestShortAudioDescriptor requestAudioFormat numberofdescriptor =>
    RequestShortAudioDescriptor.print requestAudioFormat numberofdescriptor
  | reportShortAudioDescriptor shortAudioDescriptor numberofdescriptor =>
    ReportShortAudioDescriptor.print shortAudioDescriptor numberofdescriptor
  | systemAudioModeRequest physicaladdress =>
    printAddress "Set SystemAudioModeRequest : " physicaladdress "\n"
  | reportFeatures version allDeviceTypes rcProfile deviceFeatures =>
    ReportFeatures.print version allDeviceTypes rcProfile deviceFeatures
  | requestCurrentLatency physicaladdress =>
    printAddress "RequestCurrentLatency : " physicaladdress "\n"
  | reportCurrentLatency physicaladdress latencyInfo =>
    ReportCurrentLatency.print physicaladdress latencyInfo
  | _ => DataBlock.print m.opCode

end HdmiCec
