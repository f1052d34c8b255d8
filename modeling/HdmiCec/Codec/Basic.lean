import HdmiCec.Messages

/-!
# Encoder, decoder and the default processor

`MessageEncoder::encode`, `MessageDecoder::decode` and the `process` overloads of
`MessageProcessor`.

A processor is a function of the delivered message and its header that returns or raises. What a
decoder run logs is what its operands' constructors log, and one entry for each call of
`process`.
-/

namespace HdmiCec

open Lib

/-! ### Encoder -/

namespace MessageEncoder

/-- `encode(m, out)`. -/
def encodeBlock (m : Msg) (out : CECFrame) : Ccec CECFrame := do
  let out ← OpCode.serialize ⟨m.opCode⟩ out
  m.serialize out

/-- `encode(h, m)`. -/
def encode (h : Header) (m : Msg) : Ccec CECFrame := do
  let out ← h.serialize CECFrame.empty
  encodeBlock m out

end MessageEncoder

/-! ### Processor -/

/-- The `process` overloads of an application's processor. -/
abbrev Processor := Msg → Header → Except Exn Unit

/-- The `process` overloads of the base class: `header.print(); msg.print();`. -/
def MessageProcessor.process (m : Msg) (h : Header) : Ccec Unit := do
  h.print
  m.print

/-! ### Decoder -/

/-- What a run of the decoder logs. -/
inductive DecodeEvent where
  | operand (e : Event)
  | process (m : Msg) (h : Header)
deriving DecidableEq, Repr

namespace MessageDecoder

/-- A branch of the decoder's `switch`: a message is constructed from the operand bytes and
processed, nothing is done, or the opcode is reported as unhandled. -/
inductive Branch where
  | process (construct : CECFrame → Ccec Msg)
  | skip
  | unhandled

/-- A branch for a message without operands. -/
def Branch.plain (m : Msg) : Branch := .process fun _ => pure m

/-- The `switch` of `decode`. Constructors are called with the default `startPos`, 0. -/
def dispatch : OpT → Branch
  | Op.activeSource => .process (ActiveSource.ofFrame · 0)
  | Op.inactiveSource => .process (InActiveSource.ofFrame · 0)
  | Op.imageViewOn => .plain .imageViewOn
  | Op.textViewOn => .plain .textViewOn
  | Op.requestActiveSource => .plain .requestActiveSource
  | Op.standby => .process fun _ => do
    ccecLog logDebug "Decoding STANDBY\r\n"
    pure .standby
  | Op.getCecVersion => .plain .getCECVersion
  | Op.cecVersion => .process (CECVersion.ofFrame · 0)
  | Op.setMenuLanguage => .process (SetMenuLanguage.ofFrame · 0)
  | Op.giveOsdName => .plain .giveOSDName
  | Op.givePhysicalAddress => .plain .givePhysicalAddress
  | Op.reportPhysicalAddress => .process (ReportPhysicalAddress.ofFrame · 0)
  | Op.giveDeviceVendorId => .plain .giveDeviceVendorID
  | Op.routingChange => .process (RoutingChange.ofFrame · 0)
  | Op.routingInformation => .process (RoutingInformation.ofFrame · 0)
  | Op.setStreamPath => .process (SetStreamPath.ofFrame · 0)
  | Op.getMenuLanguage => .plain .getMenuLanguage
  | Op.deviceVendorId => .process (DeviceVendorID.ofFrame · 0)
  | Op.vendorCommand => .skip
  | Op.vendorCommandWithId => .skip
  | Op.vendorRemoteButtonDown => .skip
  | Op.vendorRemoteButtonUp => .skip
  | Op.setOsdString => .process (SetOSDString.ofFrame · 0)
  | Op.setOsdName => .process (SetOSDName.ofFrame · 0)
  | Op.userControlReleased => .plain .userControlReleased
  | Op.userControlPressed => .process (UserControlPressed.ofFrame · 0)
  | Op.giveDevicePowerStatus => .plain .giveDevicePowerStatus
  | Op.reportPowerStatus => .process (ReportPowerStatus.ofFrame · 0)
  | Op.featureAbort => .process (FeatureAbort.ofFrame · 0)
  | Op.abort => .plain .abort
  | Op.initiateArc => .plain .initiateArc
  | Op.terminateArc => .plain .terminateArc
  | Op.requestShortAudioDescriptor => .process (RequestShortAudioDescriptor.ofFrame · 0)
  | Op.reportShortAudioDescriptor => .process (ReportShortAudioDescriptor.ofFrame · 0)
  | Op.systemAudioModeRequest => .process (SystemAudioModeRequest.ofFrame · 0)
  | Op.setSystemAudioMode => .process (SetSystemAudioMode.ofFrame · 0)
  | Op.reportAudioStatus => .process (ReportAudioStatus.ofFrame · 0)
  | Op.giveFeatures => .plain .giveFeatures
  | Op.reportFeatures => .process (ReportFeatures.ofFrame · 0)
  | Op.requestCurrentLatency => .process (RequestCurrentLatency.ofFrame · 0)
  | Op.reportCurrentLatency => .process (ReportCurrentLatency.ofFrame · 0)
  | _ => .unhandled

/-- The events of constructing operands, as seen in a run of the decoder. -/
def operands {α : Type} (m : Ccec α) : Logged Exn DecodeEvent α := m.mapLog .operand

/-- `processor.process(m, header)`. -/
def callProcess (processor : Processor) (m : Msg) (header : Header) : Logged Exn DecodeEvent Unit :=
  ⟨processor m header, [.process m header]⟩

/-- The body of the `try` block. -/
def decodeBody (processor : Processor) (header : Header) (in_ operandFrame : CECFrame) :
    Logged Exn DecodeEvent Unit := do
  let op ← operands (OpCode.ofFrame in_ 1)
  match dispatch op.opCode with
  | .process construct => do
    let m ← operands (construct operandFrame)
    callProcess processor m header
  | .skip => pure ()
  | .unhandled => operands do
    ccecLog logDebug "Unhandled Message Received \n"
    let op ← OpCode.ofFrame in_ 1
    op.print

/-- The two `catch` clauses, for `InvalidParamException` and for `std::exception`. -/
def handler (in_ : CECFrame) (e : Exn) : Logged Exn DecodeEvent Unit := operands do
  if e = .invalidParam then
    ccecLog logExp ("MessageDecoder::decode caught " ++ e.what ++ " \r\n")
  else do
    ccecLog logExp ("MessageDecoder::decode caught an " ++ e.what ++ " \r\n")
    in_.hexDump logExp

/-- `decode(in_)`. -/
def decode (processor : Processor) (in_ : CECFrame) : Logged Exn DecodeEvent Unit := do
  let header ← operands (Header.ofFrame in_ 0)
  if in_.length = 1 then
    callProcess processor .polling header
  else do
    let operandFrame ← operands (in_.subFrame 2 0)
    (decodeBody processor header in_ operandFrame).catching Exn.isStdException (handler in_)

end MessageDecoder

end HdmiCec
