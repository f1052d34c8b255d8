import HdmiCec.Frame

/-!
# Operands

`CECBytes` and the operand classes of `ccec/Operands.hpp` derived from it. Every class stores the
bytes `str` and nothing else, so the classes are one family `CECBytes c` indexed by the class;
what a class adds (its accessors, its table of names) stands under the class's own name.

Positions and lengths are `size_t` values: sums and differences are taken modulo `2 ^ 64`.
-/

namespace HdmiCec

open Lib

/-- The classes derived from `CECBytes`. -/
inductive OperandClass where
  | osdString
  | osdName
  | abortReason
  | deviceType
  | language
  | vendorID
  | physicalAddress
  | logicalAddress
  | version
  | powerStatus
  | requestAudioFormat
  | shortAudioDescriptor
  | systemAudioStatus
  | audioStatus
  | uiCommand
  | allDeviceTypes
  | rcProfile
  | deviceFeatures
  | latencyInfo
deriving DecidableEq, Repr

/-- `MAX_LEN` of the class. -/
def OperandClass.maxLen : OperandClass → ℕ
  | osdString => 13
  | osdName => 14
  | abortReason => 1
  | deviceType => 1
  | language => 3
  | vendorID => 3
  | physicalAddress => 2
  | logicalAddress => 1
  | version => 1
  | powerStatus => 1
  | requestAudioFormat => 1
  | shortAudioDescriptor => 3
  | systemAudioStatus => 1
  | audioStatus => 1
  | uiCommand => 1
  | allDeviceTypes => 1
  | rcProfile => 4
  | deviceFeatures => 4
  | latencyInfo => 3

/-- An operand of class `c`: the bytes it holds. -/
structure CECBytes (c : OperandClass) where
  str : List UInt8
deriving DecidableEq, Repr

abbrev OSDString := CECBytes .osdString
abbrev OSDName := CECBytes .osdName
abbrev AbortReason := CECBytes .abortReason
abbrev DeviceType := CECBytes .deviceType
abbrev Language := CECBytes .language
abbrev VendorID := CECBytes .vendorID
abbrev PhysicalAddress := CECBytes .physicalAddress
abbrev LogicalAddress := CECBytes .logicalAddress
abbrev Version := CECBytes .version
abbrev PowerStatus := CECBytes .powerStatus
abbrev RequestAudioFormat := CECBytes .requestAudioFormat
abbrev ShortAudioDescriptor := CECBytes .shortAudioDescriptor
abbrev SystemAudioStatus := CECBytes .systemAudioStatus
abbrev AudioStatus := CECBytes .audioStatus
abbrev UICommand := CECBytes .uiCommand
abbrev AllDeviceTypes := CECBytes .allDeviceTypes
abbrev RcProfile := CECBytes .rcProfile
abbrev DeviceFeatures := CECBytes .deviceFeatures
abbrev LatencyInfo := CECBytes .latencyInfo

/-! ### `size_t` -/

/-- The conversion of an `int` to `size_t`. -/
def sizeT (i : ℤ) : ℕ := (i % 2 ^ 64).toNat

def sizeAdd (a b : ℕ) : ℕ := (a + b) % 2 ^ 64

def sizeSub (a b : ℕ) : ℕ := (a + 2 ^ 64 - b) % 2 ^ 64

/-! ### The base class -/

namespace CECBytes

variable {c : OperandClass}

/-- `CECBytes(const uint8_t val)`. -/
def ofByte (val : UInt8) : CECBytes c := ⟨[val]⟩

/-- `CECBytes(const uint8_t *buf, size_t len)` for a buffer with `len` bytes. -/
def ofBuf (buf : List UInt8) : CECBytes c := ⟨buf⟩

/-- `validate()` with the `getMaxLen()` of the class the object has at the time of the call. -/
def validate (o : CECBytes c) (getMaxLen : ℕ) : Bool :=
  o.str.length ≠ 0 && o.str.length ≤ getMaxLen

/-- `str.insert(str.begin(), buf + first, buf + last)`. A reversed range has a negative distance,
which no vector has room for. -/
def insertRange (frame : CECFrame) (first last : ℕ) : Ccec (List UInt8) := do
  .emit (.extract first last frame.length)
  if last < first then
    .raise (.lengthError "vector::_M_range_insert")
  else
    pure ((frame.bytes.drop first).take (last - first))

/-- `CECBytes(frame, startPos, len)`. While the base class is constructed, `validate()` sees the
base class's `getMaxLen()`, which is `CECFrame::MAX_LENGTH`. -/
def ofFrame (frame : CECFrame) (startPos len : ℕ) : Ccec (CECBytes c) := do
  let frameLen := frame.length
  let len := if sizeAdd startPos len > frameLen then sizeSub frameLen startPos else len
  let str ← insertRange frame startPos (sizeAdd startPos len)
  let o : CECBytes c := ⟨str⟩
  if o.validate CECFrame.maxLength then
    pure o
  else
    .raise .invalidParam

/-- The constructor `C(frame, startPos)` of the classes that extract `MAX_LEN` bytes. -/
def ofFrameAt (frame : CECFrame) (startPos : ℤ) : Ccec (CECBytes c) :=
  ofFrame frame (sizeT startPos) c.maxLen

/-- `serialize(frame)` appends the bytes one by one. -/
def serialize (o : CECBytes c) (frame : CECFrame) : Ccec CECFrame := frame.appendBuf o.str

/-- `str[i]`. -/
def byte (o : CECBytes c) (i : ℕ) : Ccec UInt8 := subscript o.str i

/-- `CECBytes::toString()`, for the classes that do not override it: hexadecimal, not padded. -/
def toHexString (o : CECBytes c) : String := String.join (o.str.map fun b => hex b.toNat)

/-- `toString()` of the text classes. -/
def toText (o : CECBytes c) : String := stdString o.str

/-- `toString()` of the classes with a table of names: `names_[str[0]]` when the class's own
`validate()` accepts `str[0]`, and otherwise a warning and "Unknown". -/
def toName (o : CECBytes c) (validate : UInt8 → Bool) (names : List String) (unknown : String) :
    Ccec String := do
  let b ← o.byte 0
  if validate b then do
    let b ← o.byte 0
    tableAt names b.toNat
  else do
    ccecLog logWarn (unknown ++ hex b.toNat ++ "\n")
    pure "Unknown"

/-- Bit `i` of `std::bitset<8>(str[0])`. -/
def bit (o : CECBytes c) (i : ℕ) : Ccec Bool := do
  let b ← o.byte 0
  pure (b.toNat.testBit i)

end CECBytes

/-! ### The classes -/

/-- A C string: the bytes before the NUL. -/
structure CString where
  chars : List UInt8
  no_nul : 0 ∉ chars

/-- The constructors from a C string that `OSDString` and `OSDName` have in common. The result of
`validate()` is not used. -/
def CECBytes.ofCString {c : OperandClass} (str : CString) : Ccec (CECBytes c) := do
  let o : CECBytes c := .ofBuf str.chars
  let _valid := o.validate c.maxLen
  pure o

/-- `OSDString(str)`. -/
def OSDString.ofCString (str : CString) : Ccec OSDString := CECBytes.ofCString str

/-- `OSDName(str)`. -/
def OSDName.ofCString (str : CString) : Ccec OSDName := CECBytes.ofCString str

namespace AbortReason

def names : List String :=
  ["Unrecognized opcode", "Not in correct mode to respond", "Cannot provide source",
   "Invalid operand", "Refused", "Unable to determine"]

def toString (o : AbortReason) : Ccec String :=
  o.toName (fun b => b ≤ 5) names "Unknown abort reason:"

end AbortReason

namespace DeviceType

def names : List String :=
  ["TV", "Recording Device", "Reserved", "Tuner", "Playback Device", "Audio System",
   "Pure CEC Switch", "Video Processor"]

def toString (o : DeviceType) : Ccec String :=
  o.toName (fun b => b ≤ 7) names "Unknown device type:"

end DeviceType

namespace PhysicalAddress

/-- `PhysicalAddress(byte0, byte1, byte2, byte3)` packs four nibbles. -/
def ofNibbles (byte0 byte1 byte2 byte3 : UInt8) : PhysicalAddress :=
  ⟨[(byte0 &&& 0x0F) <<< 4 ||| (byte1 &&& 0x0F), (byte2 &&& 0x0F) <<< 4 ||| (byte3 &&& 0x0F)]⟩

/-- `getByteValue(index)`, which asserts `index < 4`. -/
def getByteValue (o : PhysicalAddress) (index : ℤ) : Ccec UInt8 := do
  assert (index < 4)
  match index with
  | 0 => do let b ← o.byte 0; pure ((b &&& 0xF0) >>> 4)
  | 1 => do let b ← o.byte 0; pure (b &&& 0x0F)
  | 2 => do let b ← o.byte 1; pure ((b &&& 0xF0) >>> 4)
  | 3 => do let b ← o.byte 1; pure (b &&& 0x0F)
  | _ => pure 0

/-- Four decimal numbers with dots between them. -/
def toString (o : PhysicalAddress) : Ccec String := do
  let b0 ← o.byte 0
  let b1 ← o.byte 0
  let b2 ← o.byte 1
  let b3 ← o.byte 1
  pure (Nat.repr ((b0 &&& 0xF0) >>> 4).toNat ++ "." ++ Nat.repr (b1 &&& 0x0F).toNat ++ "."
    ++ Nat.repr ((b2 &&& 0xF0) >>> 4).toNat ++ "." ++ Nat.repr (b3 &&& 0x0F).toNat)

def name : String := "PhysicalAddress"

end PhysicalAddress

namespace LogicalAddress

def unregistered : ℤ := 15
def broadcast : ℤ := unregistered

def ofInt (addr : ℤ) : LogicalAddress := .ofByte (UInt8.ofInt addr)

def names : List String :=
  ["TV", "Recording Device 1", "Recording Device 2", "Tuner 1", "Playback Device 1",
   "Audio System", "Tuner 2", "Tuner 3", "Playback Device 2", "Recording Device 3", "Tuner 4",
   "Playback Device 3", "Reserved 12", "Reserved 13", "Specific Use", "Broadcast/Unregistered"]

def toString (o : LogicalAddress) : Ccec String :=
  o.toName (fun b => b ≤ 15) names "Unknown logical address:"

/-- `toInt()`. -/
def toInt (o : LogicalAddress) : Ccec ℕ := do
  let b ← o.byte 0
  pure b.toNat

end LogicalAddress

namespace Version

def names : List String :=
  ["Reserved", "Reserved", "Reserved", "Reserved", "Version 1.3a", "Version 1.4", "Version 2.0"]

def toString (o : Version) : Ccec String :=
  o.toName (fun b => b ≤ 6 && 4 ≤ b) names "Unknown version:"

end Version

namespace PowerStatus

def names : List String :=
  ["On", "Standby", "In transition Standby to On", "In transition On to Standby", "Not Known",
   "Feature Abort"]

def toString (o : PowerStatus) : Ccec String :=
  o.toName (fun b => b ≤ 3) names "Unknown powerstatus:"

end PowerStatus

/-- The table `AudioFormtCode` that both descriptor classes declare. -/
def audioFormtCode : List String :=
  ["Reserved", "LPCM", "AC3", "MPEG1", "MP3", "MPEG2", "AAC", "DTS", "ATRAC", "One Bit Audio",
   "E-AC3", "DTS-HD", "MAT", "DST", "WMA PRO", "Reserved for Audio format 15"]

namespace RequestAudioFormat

def toString (o : RequestAudioFormat) : Ccec String := do
  let b ← o.byte 0
  tableAt audioFormtCode (b &&& 0xF).toNat

def getAudioformatId (o : RequestAudioFormat) : Ccec ℕ := do
  let b ← o.byte 0
  pure (b >>> 6).toNat

def getAudioformatCode (o : RequestAudioFormat) : Ccec ℕ := do
  let b ← o.byte 0
  pure (b &&& 0x3F).toNat

end RequestAudioFormat

namespace ShortAudioDescriptor

def toString (o : ShortAudioDescriptor) : Ccec String := do
  let b ← o.byte 0
  tableAt audioFormtCode ((b >>> 3) &&& 0xF).toNat

/-- `ShortAudioDescriptor(buf)` for a buffer of `MAX_LEN` bytes. -/
def ofBytes (b0 b1 b2 : UInt8) : ShortAudioDescriptor := .ofBuf [b0, b1, b2]

/-- `getAudiodescriptor()`. -/
def getAudiodescriptor (o : ShortAudioDescriptor) : Ccec ℕ := do
  let b0 ← o.byte 0
  let b1 ← o.byte 1
  let b2 ← o.byte 2
  pure (b0.toNat ||| b1.toNat <<< 8 ||| b2.toNat <<< 16)

def getAudioformatCode (o : ShortAudioDescriptor) : Ccec ℕ := do
  let b ← o.byte 0
  pure ((b >>> 3) &&& 0xF).toNat

/-- `getAtmosbit()`: `str[2]` is read only for the format codes from 9 on. -/
def getAtmosbit (o : ShortAudioDescriptor) : Ccec Bool := do
  let b ← o.byte 0
  if (9 : UInt8) ≤ (b >>> 3) &&& 0xF then do
    let b2 ← o.byte 2
    pure (b2 &&& 0x3 ≠ 0)
  else
    pure false

end ShortAudioDescriptor

namespace AllDeviceTypes

/-- The names of the bits 7 down to 2. -/
def typeNames : List (ℕ × String) :=
  [(7, "TV"), (6, "Recording Device"), (5, "Tuner"), (4, "Playback Device"), (3, "Audio System"),
   (2, "CEC Switch")]

/-- `getAllDeviceTypes()`. -/
def getAllDeviceTypes (o : AllDeviceTypes) : Ccec (List String) := do
  let b ← o.byte 0
  pure (typeNames.filterMap fun (i, name) => if b.toNat.testBit i then some name else none)

def isDeviceTypeTV (o : AllDeviceTypes) : Ccec Bool := o.bit 7
def isRecordingDevice (o : AllDeviceTypes) : Ccec Bool := o.bit 6
def isDeviceTypeTuner (o : AllDeviceTypes) : Ccec Bool := o.bit 5
def isPlaybackDevice (o : AllDeviceTypes) : Ccec Bool := o.bit 4
def isDeviceTypeAudioSystem (o : AllDeviceTypes) : Ccec Bool := o.bit 3
def isDeviceTypeCECSwitch (o : AllDeviceTypes) : Ccec Bool := o.bit 2

end AllDeviceTypes

/-- The loop of `getRcProfileVal()` and `getDeviceFeaturesVal()`: the bytes up to and including
the first one whose extension bit is clear. -/
def extensionBytes : List UInt8 → List UInt8
  | [] => []
  | b :: bs => if b &&& 0x80 ≠ 0 then b :: extensionBytes bs else [b]

namespace RcProfile

def sourceMenus : List (ℕ × String) :=
  [(4, "Source can handle Device Root Menu - 0x9"),
   (3, "Source can handle Device Setup Menu - 0x0A"),
   (2, "Source can handle Contents Menu - 0x0B"), (1, "Source can handle Media Top Menu - 0x10"),
   (0, "Source can handle Media Context-Sensitive Menu - 0x11 ")]

/-- `getRcProfile()`: bit 6 tells a source's profile from a TV's. -/
def getRcProfile (o : RcProfile) : Ccec (List String) := do
  let b ← o.byte 0
  if b.toNat.testBit 6 then
    pure ("RC Profile Source" ::
      sourceMenus.filterMap fun (i, name) => if b.toNat.testBit i then some name else none)
  else
    pure ["RC Profile TV",
      if b &&& 0xE = 0xE then "RC Profile 4"
      else if b &&& 0xA = 0xA then "RC Profile 3"
      else if b &&& 0x6 = 0x6 then "RC Profile 2"
      else if b &&& 0x2 = 0x2 then "RC Profile 1"
      else "None of the Profiles"]

def getRcProfileVal (o : RcProfile) : List UInt8 := extensionBytes o.str

def isRcProfileTv (o : RcProfile) : Ccec Bool := do
  let source ← o.bit 6
  pure (!source)

def isRcProfileSource (o : RcProfile) : Ccec Bool := o.bit 6
def rootMenuHandling (o : RcProfile) : Ccec Bool := o.bit 4
def setupMenuHandling (o : RcProfile) : Ccec Bool := o.bit 3
def contentsMenuHandling (o : RcProfile) : Ccec Bool := o.bit 2
def mediaTopMenuHandling (o : RcProfile) : Ccec Bool := o.bit 1
def contextSensitiveMenuHandling (o : RcProfile) : Ccec Bool := o.bit 0

end RcProfile

namespace DeviceFeatures

def featureNames : List (ℕ × String) :=
  [(6, "TV Supports <Record TV Screen>"), (5, "TV supports <Set OSD String>"),
   (4, "Supports being controlled by Deck Control"), (3, "Source supports <Set Audio Rate>"),
   (2, "Sink supports ARC Tx"), (1, "Source supports ARC Rx"), (0, "Reserved")]

def getDeviceFeatures (o : DeviceFeatures) : Ccec (List String) := do
  let b ← o.byte 0
  pure (featureNames.filterMap fun (i, name) => if b.toNat.testBit i then some name else none)

def getDeviceFeaturesVal (o : DeviceFeatures) : List UInt8 := extensionBytes o.str

def tvRecordScreenSupportBit (o : DeviceFeatures) : Ccec Bool := o.bit 6
def tVSetOSDStringSupportBit (o : DeviceFeatures) : Ccec Bool := o.bit 5
def controlledByDeckSupportBit (o : DeviceFeatures) : Ccec Bool := o.bit 4
def setAudioRateSupportBit (o : DeviceFeatures) : Ccec Bool := o.bit 3
def arcTxSupportBit (o : DeviceFeatures) : Ccec Bool := o.bit 2
def arcRxSupportBit (o : DeviceFeatures) : Ccec Bool := o.bit 1

end DeviceFeatures

namespace LatencyInfo

def getVideoLatency (o : LatencyInfo) : Ccec UInt8 := o.byte 0

def getLatencyFlags (o : LatencyInfo) : Ccec UInt8 := o.byte 1

/-- `getAudioOutputDelay()`: the two tests are joined by `&`, so `str[1]` is read before the size
is looked at. -/
def getAudioOutputDelay (o : LatencyInfo) : Ccec ℕ := do
  let b1 ← o.byte 1
  if b1 = 0x3 && o.str.length = 3 then do
    let b2 ← o.byte 2
    pure b2.toNat
  else
    pure 0xFF

end LatencyInfo

end HdmiCec
