import Mathlib.Data.Nat.Notation

/-!
# Opcodes

The opcode values of `ccec/OpCode.hpp`, under the enumerators' names, and the texts `GetOpName`
prints for them.
-/

namespace HdmiCec

/-- `Op_t`, the type of opcodes. `POLLING` and `UNKNOWN` lie outside a byte. -/
abbrev OpT := ℕ

namespace Op

@[match_pattern] abbrev activeSource : OpT := 0x82
@[match_pattern] abbrev imageViewOn : OpT := 0x04
@[match_pattern] abbrev textViewOn : OpT := 0x0D
@[match_pattern] abbrev inactiveSource : OpT := 0x9D
@[match_pattern] abbrev requestActiveSource : OpT := 0x85
@[match_pattern] abbrev routingChange : OpT := 0x80
@[match_pattern] abbrev routingInformation : OpT := 0x81
@[match_pattern] abbrev setStreamPath : OpT := 0x86
@[match_pattern] abbrev standby : OpT := 0x36
@[match_pattern] abbrev recordOff : OpT := 0x0B
@[match_pattern] abbrev recordOn : OpT := 0x09
@[match_pattern] abbrev recordStatus : OpT := 0x0A
@[match_pattern] abbrev recordTvScreen : OpT := 0x0F
@[match_pattern] abbrev clearAnalogueTimer : OpT := 0x33
@[match_pattern] abbrev clearDigitalTimer : OpT := 0x99
@[match_pattern] abbrev clearExternalTimer : OpT := 0xA1
@[match_pattern] abbrev setAnalogTimer : OpT := 0x34
@[match_pattern] abbrev setDigitalTimer : OpT := 0x97
@[match_pattern] abbrev setExternalTimer : OpT := 0xA2
@[match_pattern] abbrev setTimerProgramTitle : OpT := 0x67
@[match_pattern] abbrev timerClearedStatus : OpT := 0x43
@[match_pattern] abbrev timerStatus : OpT := 0x35
@[match_pattern] abbrev getCecVersion : OpT := 0x9F
@[match_pattern] abbrev cecVersion : OpT := 0x9E
@[match_pattern] abbrev givePhysicalAddress : OpT := 0x83
@[match_pattern] abbrev getMenuLanguage : OpT := 0x91
@[match_pattern] abbrev reportPhysicalAddress : OpT := 0x84
@[match_pattern] abbrev setMenuLanguage : OpT := 0x32
@[match_pattern] abbrev deckControl : OpT := 0x42
@[match_pattern] abbrev deckStatus : OpT := 0x1B
@[match_pattern] abbrev giveDeckStatus : OpT := 0x1A
@[match_pattern] abbrev play : OpT := 0x41
@[match_pattern] abbrev giveTunerDeviceStatus : OpT := 0x08
@[match_pattern] abbrev selectAnalogueService : OpT := 0x92
@[match_pattern] abbrev selectDigitalService : OpT := 0x93
@[match_pattern] abbrev tunerDeviceStatus : OpT := 0x07
@[match_pattern] abbrev tunerStepDecrement : OpT := 0x06
@[match_pattern] abbrev tunerStepIncrement : OpT := 0x05
@[match_pattern] abbrev deviceVendorId : OpT := 0x87
@[match_pattern] abbrev giveDeviceVendorId : OpT := 0x8C
@[match_pattern] abbrev vendorCommand : OpT := 0x89
@[match_pattern] abbrev vendorCommandWithId : OpT := 0xA0
@[match_pattern] abbrev vendorRemoteButtonDown : OpT := 0x8A
@[match_pattern] abbrev vendorRemoteButtonUp : OpT := 0x8B
@[match_pattern] abbrev setOsdString : OpT := 0x64
@[match_pattern] abbrev giveOsdName : OpT := 0x46
@[match_pattern] abbrev setOsdName : OpT := 0x47
@[match_pattern] abbrev menuRequest : OpT := 0x8D
@[match_pattern] abbrev menuStatus : OpT := 0x8E
@[match_pattern] abbrev userControlPressed : OpT := 0x44
@[match_pattern] abbrev userControlReleased : OpT := 0x45
@[match_pattern] abbrev giveDevicePowerStatus : OpT := 0x8F
@[match_pattern] abbrev reportPowerStatus : OpT := 0x90
@[match_pattern] abbrev featureAbort : OpT := 0x00
@[match_pattern] abbrev abort : OpT := 0xFF
@[match_pattern] abbrev giveAudioStatus : OpT := 0x71
@[match_pattern] abbrev giveSystemAudioModeStatus : OpT := 0x7D
@[match_pattern] abbrev reportAudioStatus : OpT := 0x7A
@[match_pattern] abbrev reportShortAudioDescriptor : OpT := 0xA3
@[match_pattern] abbrev requestShortAudioDescriptor : OpT := 0xA4
@[match_pattern] abbrev setSystemAudioMode : OpT := 0x72
@[match_pattern] abbrev systemAudioModeRequest : OpT := 0x70
@[match_pattern] abbrev systemAudioModeStatus : OpT := 0x7E
@[match_pattern] abbrev setAudioRate : OpT := 0x9A
@[match_pattern] abbrev initiateArc : OpT := 0xC0
@[match_pattern] abbrev reportArcInitiated : OpT := 0xC1
@[match_pattern] abbrev reportArcTerminated : OpT := 0xC2
@[match_pattern] abbrev requestArcInitiation : OpT := 0xC3
@[match_pattern] abbrev requestArcTermination : OpT := 0xC4
@[match_pattern] abbrev terminateArc : OpT := 0xC5
@[match_pattern] abbrev cdcMessage : OpT := 0xF8
@[match_pattern] abbrev polling : OpT := 0x200
@[match_pattern] abbrev giveFeatures : OpT := 0xA5
@[match_pattern] abbrev reportFeatures : OpT := 0xA6
@[match_pattern] abbrev requestCurrentLatency : OpT := 0xA7
@[match_pattern] abbrev reportCurrentLatency : OpT := 0xA8
@[match_pattern] abbrev unknown : OpT := 0xFFFF

end Op

/-- `GetOpName(op)`. -/
def getOpName : OpT → String
  | Op.activeSource => "Active Source"
  | Op.imageViewOn => "Image View On"
  | Op.textViewOn => "Text View On"
  | Op.inactiveSource => "InActive Source"
  | Op.requestActiveSource => "Request Active Source"
  | Op.routingChange => "Routing Change"
  | Op.routingInformation => "Routing Information"
  | Op.setStreamPath => "Set Stream Path"
  | Op.standby => "Stand by"
  | Op.recordOff => "Record Off"
  | Op.recordOn => " Record On"
  | Op.recordStatus => "Record Status"
  | Op.recordTvScreen => "Record TV Screen"
  | Op.clearAnalogueTimer => "Clear Analogue Timer"
  | Op.clearDigitalTimer => "Clear Digital Timer"
  | Op.clearExternalTimer => "Clear External Timer"
  | Op.setAnalogTimer => "Set Analog Timer"
  | Op.setDigitalTimer => " Set Digital Timer"
  | Op.setExternalTimer => "Set External Timer"
  | Op.setTimerProgramTitle => "Set Timer Program Title"
  | Op.timerClearedStatus => "Timer Cleared Status"
  | Op.timerStatus => "Timer Status"
  | Op.cecVersion => "CEC Version"
  | Op.givePhysicalAddress => "Give Physical Address"
  | Op.getMenuLanguage => "Get Menu Language"
  | Op.polling => "Polling "
  | Op.reportPhysicalAddress => "Report Physical Address"
  | Op.setMenuLanguage => "Set Menu Language"
  | Op.deckControl => "Deck control"
  | Op.deckStatus => "deck Status"
  | Op.play => "Play"
  | Op.giveTunerDeviceStatus => "Give Tuner Device Status"
  | Op.selectAnalogueService => "Select Analogue service"
  | Op.tunerDeviceStatus => "Tuner Device Status"
  | Op.tunerStepDecrement => "Tuner Step Decrement"
  | Op.tunerStepIncrement => "Tuner Step Increment"
  | Op.deviceVendorId => "Device Vendor Id"
  | Op.getCecVersion => "Get CEC Version"
  | Op.giveDeviceVendorId => "Give Ddevice Vendor ID"
  | Op.vendorCommand => "Vendor Command"
  | Op.vendorCommandWithId => "Vendor command With ID"
  | Op.vendorRemoteButtonDown => "Vendor Remote Button Down"
  | Op.vendorRemoteButtonUp => "Vendor Remote Button Up"
  | Op.setOsdString => "Set OSD String"
  | Op.giveOsdName => "Give OSD Name"
  | Op.setOsdName => "Set OSD Name"
  | Op.menuRequest => "Menu Request"
  | Op.menuStatus => "Menu Status"
  | Op.userControlPressed => "User control Pressed"
  | Op.userControlReleased => "User Control released"
  | Op.giveDevicePowerStatus => "Give Device Power Status"
  | Op.reportPowerStatus => "Report power Status"
  | Op.featureAbort => "Feature Abort"
  | Op.abort => "Abort"
  | Op.giveAudioStatus => "Give Aduio Status"
  | Op.giveSystemAudioModeStatus => "Give System Audio Mode Status"
  | Op.reportAudioStatus => "Report Audio Status"
  | Op.requestShortAudioDescriptor => "Request Short Audio Descriptor"
  | Op.reportShortAudioDescriptor => "Report Short Audio Descriptor"
  | Op.setSystemAudioMode => "Set System Audio Mode"
  | Op.systemAudioModeRequest => "System Audio mode request"
  | Op.setAudioRate => "Set Audio rate"
  | Op.initiateArc => "Initiate ARC"
  | Op.reportArcInitiated => "Report ARC Initiated"
  | Op.reportArcTerminated => "Report ARC Terminated"
  | Op.requestArcInitiation => "Report ARC Initiation"
  | Op.requestArcTermination => "Request ARC Termination"
  | Op.terminateArc => "Terminate ARC"
  | Op.cdcMessage => "CDC Message"
  | Op.giveFeatures => "Give Features"
  | Op.reportFeatures => "Report Features"
  | Op.requestCurrentLatency => "Request Current Latency"
  | Op.reportCurrentLatency => "Report Current Latency"
  | _ => "Unrecognized Message"

end HdmiCec
