import HdmiCec.Codec.Layout

/-!
# The subscripts of the default processor

The base class's `process` prints the header and the message. The accessors it uses take bytes of
the operands at fixed positions and entries of name tables. A constructor from a frame refuses
empty operands only, so a position past the first byte is good only when the frame was long enough;
the frames that are delivered and yet too short are `CutShort`.
-/

namespace HdmiCec

open Lib

/-- A subscript is smaller than the size of what it indexes. The loops over the bytes of an operand
(`serialize`, `toHexString`, `toText`, `extensionBytes`) log no subscripts: each stops at
`i < str.size()`, or makes a string of the whole of `str`, so that theirs stay inside. -/
def Event.Indexed : Event → Prop
  | .subscript index size => index < size
  | _ => True

/-- The operand bytes of a message with opcode `op` that are enough to deliver the message but not
to print it: an address of one byte, and a last operand that lacks its second byte. -/
def CutShortOperands (op : OpT) (operands : List UInt8) : Prop :=
  (op = Op.activeSource ∨ op = Op.inactiveSource ∨ op = Op.routingInformation ∨
      op = Op.setStreamPath ∨ op = Op.systemAudioModeRequest ∨ op = Op.requestCurrentLatency) ∧
    operands.length = 1 ∨
  (op = Op.routingChange ∨ op = Op.reportCurrentLatency) ∧ operands.length = 3

/-- A frame with such operands. -/
def CutShort (f : CECFrame) : Prop :=
  ∃ b op operands, f.bytes = b :: op :: operands ∧ CutShortOperands op.toNat operands

/-- The base class as a processor. -/
def MessageProcessor.default : Processor := fun m h => (MessageProcessor.process m h).result

/-! ### The accessors -/

@[simp] lemma all_indexed_ccecLog (level : ℕ) (text : String) :
    (ccecLog level text).All Event.Indexed :=
  (Logged.all_emit _).mpr trivial

lemma all_indexed_tableAt {names : List String} {i : ℕ} (h : i < names.length) :
    (tableAt names i).All Event.Indexed := by
  simpa [tableAt, Logged.all_bind, Event.Indexed] using h

namespace CECBytes

variable {c : OperandClass} {o : CECBytes c}

@[simp] lemma all_indexed_byte {i : ℕ} : (o.byte i).All Event.Indexed ↔ i < o.str.length := by
  simp [byte, subscript, Event.Indexed]

@[simp] lemma all_indexed_bit {i : ℕ} : (o.bit i).All Event.Indexed ↔ 0 < o.str.length := by
  simp [bit]

/-- A table has an entry for every byte that the class's `validate()` accepts. -/
lemma all_indexed_toName {validate : UInt8 → Bool} {names : List String} {unknown : String}
    {n : UInt8} (ho : 0 < o.str.length) (h : ∀ b, validate b = true → b ≤ n)
    (hn : n.toNat < names.length) : (o.toName validate names unknown).All Event.Indexed := by
  simp only [toName, Logged.all_bind, all_indexed_byte, result_byte, ho, true_and,
    Except.ok.injEq, forall_eq']
  split
  · rename_i hvalid
    simp only [Logged.all_bind, all_indexed_byte, result_byte, ho, true_and, Except.ok.injEq,
      forall_eq']
    exact all_indexed_tableAt (lt_of_le_of_lt (UInt8.le_iff_toNat_le.mp (h _ hvalid)) hn)
  · simp

end CECBytes

lemma AbortReason.all_indexed_toString {o : AbortReason} (ho : 0 < o.str.length) :
    o.toString.All Event.Indexed :=
  CECBytes.all_indexed_toName (n := 5) ho (by simp) (by decide)

lemma DeviceType.all_indexed_toString {o : DeviceType} (ho : 0 < o.str.length) :
    o.toString.All Event.Indexed :=
  CECBytes.all_indexed_toName (n := 7) ho (by simp) (by decide)

lemma LogicalAddress.all_indexed_toString {o : LogicalAddress} (ho : 0 < o.str.length) :
    o.toString.All Event.Indexed :=
  CECBytes.all_indexed_toName (n := 15) ho (by simp) (by decide)

lemma Version.all_indexed_toString {o : Version} (ho : 0 < o.str.length) :
    o.toString.All Event.Indexed :=
  CECBytes.all_indexed_toName (n := 6) ho (by simp +contextual) (by decide)

lemma PowerStatus.all_indexed_toString {o : PowerStatus} (ho : 0 < o.str.length) :
    o.toString.All Event.Indexed :=
  CECBytes.all_indexed_toName (n := 3) ho (by simp) (by decide)

/-- Printing an address takes both of its bytes. -/
@[simp] lemma PhysicalAddress.all_indexed_toString {o : PhysicalAddress} :
    o.toString.All Event.Indexed ↔ 2 ≤ o.str.length := by
  simp only [PhysicalAddress.toString, Logged.all_bind, CECBytes.all_indexed_byte,
    CECBytes.result_byte, Except.ok.injEq, forall_eq', Logged.all_pure, and_true]
  omega

/-- The low four bits of a byte index the table of audio formats. -/
lemma all_indexed_audioFormtCode (b : UInt8) :
    (tableAt audioFormtCode (b &&& 0xF).toNat).All Event.Indexed := by
  refine all_indexed_tableAt ?_
  have : (b &&& 0xF).toNat ≤ 15 := by simpa using Nat.and_le_right
  simp only [audioFormtCode, List.length_cons, List.length_nil]
  omega

lemma RequestAudioFormat.all_indexed_toString {o : RequestAudioFormat} (ho : 0 < o.str.length) :
    o.toString.All Event.Indexed := by
  simp only [RequestAudioFormat.toString, Logged.all_bind, CECBytes.all_indexed_byte, ho, true_and]
  exact fun b _ => all_indexed_audioFormtCode b

lemma ShortAudioDescriptor.all_indexed_toString {o : ShortAudioDescriptor}
    (ho : 0 < o.str.length) : o.toString.All Event.Indexed := by
  simp only [ShortAudioDescriptor.toString, Logged.all_bind, CECBytes.all_indexed_byte, ho,
    true_and]
  exact fun b _ => all_indexed_audioFormtCode (b >>> 3)

lemma ShortAudioDescriptor.all_indexed_getAtmosbit {o : ShortAudioDescriptor}
    (ho : 2 < o.str.length) : o.getAtmosbit.All Event.Indexed := by
  have h0 : 0 < o.str.length := by omega
  simp only [getAtmosbit, Logged.all_bind, CECBytes.all_indexed_byte, h0, true_and]
  rintro b -
  split <;> simp [ho]

/-- The flags are the second byte, and the delay is read only where there is a third. -/
lemma LatencyInfo.all_indexed_getAudioOutputDelay {o : LatencyInfo} :
    o.getAudioOutputDelay.All Event.Indexed ↔ 1 < o.str.length := by
  simp only [getAudioOutputDelay, Logged.all_bind, CECBytes.all_indexed_byte,
    CECBytes.result_byte, Except.ok.injEq, forall_eq', and_iff_left_iff_imp]
  intro _
  split
  · rename_i h
    simp only [Bool.and_eq_true, decide_eq_true_eq] at h
    simp [h.2]
  · simp

/-! ### The messages -/

@[simp] lemma all_indexed_printAddress {before after : String} {o : PhysicalAddress} :
    (printAddress before o after).All Event.Indexed ↔ 2 ≤ o.str.length := by
  simp [printAddress, Logged.all_bind]

lemma all_indexed_vectorAt {c : OperandClass} {vec : List (CECBytes c)} {i : ℕ}
    (h : i < vec.length) : (vectorAt vec i).All Event.Indexed := by
  simpa [vectorAt, Event.Indexed] using h

lemma mem_of_result_vectorAt {c : OperandClass} {vec : List (CECBytes c)} {i : ℕ} {o : CECBytes c}
    (h : i < vec.length) (ho : (vectorAt vec i).result = .ok o) : o ∈ vec := by
  have hget : (vectorAt vec i).result = .ok (vec.getD i ⟨[]⟩) := rfl
  rw [hget, List.getD_eq_getElem?_getD, List.getElem?_eq_getElem h] at ho
  cases ho
  exact List.getElem_mem h

lemma RequestShortAudioDescriptor.all_indexed_print {formats : List RequestAudioFormat} {n : ℕ}
    (hn : n ≤ formats.length) (h : ∀ o ∈ formats, 0 < o.str.length) :
    (RequestShortAudioDescriptor.print formats n).All Event.Indexed := by
  refine Logged.all_each fun i hi => ?_
  have hi' : i < formats.length := by
    have := List.mem_range.mp hi
    omega
  have hat : (vectorAt formats i).All Event.Indexed := all_indexed_vectorAt hi'
  simp only [Logged.all_bind, all_indexed_ccecLog, implies_true, and_true]
  refine ⟨hat, fun o ho => ⟨?_, fun _ _ => ⟨hat, fun o' ho' => ?_⟩⟩⟩
  · simpa [RequestAudioFormat.getAudioformatId] using h o (mem_of_result_vectorAt hi' ho)
  · exact RequestAudioFormat.all_indexed_toString (h o' (mem_of_result_vectorAt hi' ho'))

lemma ReportShortAudioDescriptor.all_indexed_print {descriptors : List ShortAudioDescriptor} {n : ℕ}
    (hn : n ≤ descriptors.length) (h : ∀ o ∈ descriptors, 2 < o.str.length) :
    (ReportShortAudioDescriptor.print descriptors n).All Event.Indexed := by
  refine Logged.all_each fun i hi => ?_
  have hi' : i < descriptors.length := by
    have := List.mem_range.mp hi
    omega
  have hat : (vectorAt descriptors i).All Event.Indexed := all_indexed_vectorAt hi'
  have hlen : ∀ {o}, (vectorAt descriptors i).result = .ok o → 2 < o.str.length :=
    fun ho => h _ (mem_of_result_vectorAt hi' ho)
  simp only [Logged.all_bind, all_indexed_ccecLog, implies_true, and_true]
  refine ⟨hat, fun o ho => ⟨?_, fun _ _ => ⟨hat, fun o' ho' => ⟨?_, fun _ _ =>
    ⟨hat, fun o'' ho'' => ?_⟩⟩⟩⟩⟩
  · exact ShortAudioDescriptor.all_indexed_toString (by have := hlen ho; omega)
  · have := hlen ho'
    simp only [ShortAudioDescriptor.getAudioformatCode, Logged.all_bind, CECBytes.all_indexed_byte,
      Logged.all_pure, implies_true, and_true]
    omega
  · exact ShortAudioDescriptor.all_indexed_getAtmosbit (hlen ho'')

lemma ReportFeatures.all_indexed_printRcProfile {o : RcProfile} (ho : 0 < o.str.length) :
    (ReportFeatures.printRcProfile o).All Event.Indexed := by
  have hprofile : o.getRcProfile.All Event.Indexed := by
    simp only [RcProfile.getRcProfile, Logged.all_bind, CECBytes.all_indexed_byte, ho, true_and]
    intro b _
    split <;> exact Logged.all_pure _
  simp only [printRcProfile, Logged.all_bind, hprofile, RcProfile.isRcProfileTv,
    RcProfile.isRcProfileSource, CECBytes.all_indexed_bit, ho, Logged.all_pure,
    all_indexed_ccecLog, implies_true, and_true, true_and]
  intro _ _ _ _ _ _ _ _ source _
  split
  · simp [Logged.all_bind, ho, RcProfile.rootMenuHandling, RcProfile.setupMenuHandling,
      RcProfile.contentsMenuHandling, RcProfile.mediaTopMenuHandling,
      RcProfile.contextSensitiveMenuHandling]
  · exact Logged.all_pure _

lemma ReportFeatures.all_indexed_printDeviceFeatures {o : DeviceFeatures} (ho : 0 < o.str.length) :
    (ReportFeatures.printDeviceFeatures o).All Event.Indexed := by
  simp [printDeviceFeatures, Logged.all_bind, DeviceFeatures.getDeviceFeatures, ho,
    DeviceFeatures.tvRecordScreenSupportBit, DeviceFeatures.tVSetOSDStringSupportBit,
    DeviceFeatures.controlledByDeckSupportBit, DeviceFeatures.setAudioRateSupportBit,
    DeviceFeatures.arcTxSupportBit, DeviceFeatures.arcRxSupportBit]

lemma ReportFeatures.all_indexed_print {version : Version} {allDeviceTypes : AllDeviceTypes}
    {rcProfile : List RcProfile} {deviceFeatures : List DeviceFeatures}
    (hversion : 0 < version.str.length) (htypes : 0 < allDeviceTypes.str.length)
    (hrc : ∀ o ∈ rcProfile, 0 < o.str.length) (hfeatures : ∀ o ∈ deviceFeatures, 0 < o.str.length) :
    (ReportFeatures.print version allDeviceTypes rcProfile deviceFeatures).All Event.Indexed := by
  have hlines : ∀ {α : Type} (text : α → String) (as : List α),
      (Logged.each (fun a => ccecLog logInfo (text a)) as).All Event.Indexed :=
    fun _ _ => Logged.all_each fun _ _ => all_indexed_ccecLog _ _
  have hprofiles : (Logged.collect printRcProfile rcProfile).All Event.Indexed :=
    Logged.all_collect fun o ho => all_indexed_printRcProfile (hrc o ho)
  have hdevice : (Logged.collect printDeviceFeatures deviceFeatures).All Event.Indexed :=
    Logged.all_collect fun o ho => all_indexed_printDeviceFeatures (hfeatures o ho)
  simp only [ReportFeatures.print, Logged.all_bind, all_indexed_ccecLog, hlines, hprofiles,
    hdevice, implies_true, and_true, AllDeviceTypes.getAllDeviceTypes, htypes,
    CECBytes.all_indexed_byte, CECBytes.all_indexed_bit, Logged.all_pure,
    Version.all_indexed_toString hversion, AllDeviceTypes.isDeviceTypeTV,
    AllDeviceTypes.isRecordingDevice, AllDeviceTypes.isDeviceTypeTuner,
    AllDeviceTypes.isPlaybackDevice, AllDeviceTypes.isDeviceTypeAudioSystem,
    AllDeviceTypes.isDeviceTypeCECSwitch]

lemma ReportCurrentLatency.all_indexed_print {o : PhysicalAddress} {info : LatencyInfo} :
    (ReportCurrentLatency.print o [info]).All Event.Indexed ↔
      2 ≤ o.str.length ∧ 2 ≤ info.str.length := by
  have haddress :
      (printAddress "Physical address: " o " \n LatencyInfo : \n").result = .ok () := rfl
  simp only [ReportCurrentLatency.print, Logged.each, Logged.all_bind, all_indexed_printAddress,
    LatencyInfo.getVideoLatency, LatencyInfo.getLatencyFlags, CECBytes.all_indexed_byte,
    CECBytes.result_byte, LatencyInfo.all_indexed_getAudioOutputDelay, haddress, Except.ok.injEq,
    forall_eq', all_indexed_ccecLog, Logged.all_pure, implies_true, and_true]
  constructor
  · rintro ⟨h, h'⟩
    have := h' () trivial
    omega
  · rintro ⟨h, h'⟩
    refine ⟨h, fun _ _ => ?_⟩
    omega

/-! ### The delivered messages -/

lemma Header.all_indexed_print {h : Header} (hfrom : 0 < h.fromAddr.str.length)
    (hto : 0 < h.toAddr.str.length) : h.print.All Event.Indexed := by
  simp [Header.print, Logged.all_bind, LogicalAddress.all_indexed_toString hfrom,
    LogicalAddress.all_indexed_toString hto]

lemma Header.result_print (h : Header) : h.print.result = .ok () := by
  obtain ⟨fromText, hfrom⟩ := h.fromAddr.toString_returns
  obtain ⟨toText, hto⟩ := h.toAddr.toString_returns
  rw [Header.print, Logged.result_bind_of_ok hfrom, Logged.result_bind_of_ok rfl,
    Logged.result_bind_of_ok hto]
  rfl

namespace MessageDecoder

variable {frame : CECFrame} {op : OpT} {m : Msg}

/-- A single operand: only an address needs more than one byte to be printed. -/
lemma all_indexed_single {c : OperandClass} {k : CECBytes c → Msg} (hk : Msg.Single k op)
    (h : 0 < frame.length) :
    (k ⟨frame.bytes.take c.maxLen⟩).print.All Event.Indexed ↔
      ¬ CutShortOperands op frame.bytes := by
  have hbyte : 0 < (frame.bytes.take 1).length := by
    simp only [List.length_take, CECFrame.length] at h ⊢
    omega
  cases hk with
  | activeSource | inActiveSource | routingInformation | setStreamPath =>
    simp only [CECFrame.length] at h
    simp [Msg.print, CutShortOperands, OperandClass.maxLen]
    omega
  | cecVersion =>
    simp [Msg.print, CutShortOperands, OperandClass.maxLen, Logged.all_bind,
      Version.all_indexed_toString hbyte]
  | reportPowerStatus =>
    simp [Msg.print, CutShortOperands, OperandClass.maxLen, Logged.all_bind,
      PowerStatus.all_indexed_toString hbyte]
  | _ => simp [Msg.print, DataBlock.print, CutShortOperands]

/-- Formats are read one byte each. -/
lemma all_indexed_requestShortAudioDescriptor :
    (RequestShortAudioDescriptor.print
      ((List.range (min 4 frame.length)).map fun i => ⟨(frame.bytes.drop i).take 1⟩)
      (min 4 frame.length)).All Event.Indexed := by
  refine RequestShortAudioDescriptor.all_indexed_print (by simp) ?_
  simp only [List.mem_map, List.mem_range, CECFrame.length]
  rintro _ ⟨i, hi, rfl⟩
  simp only [List.length_take, List.length_drop]
  omega

/-- Descriptors are read three bytes each. -/
lemma all_indexed_reportShortAudioDescriptor :
    (ReportShortAudioDescriptor.print
      ((List.range (frame.length / 3)).map fun i => ⟨(frame.bytes.drop (i * 3)).take 3⟩)
      (frame.length / 3)).All Event.Indexed := by
  refine ReportShortAudioDescriptor.all_indexed_print (by simp) ?_
  simp only [List.mem_map, List.mem_range, CECFrame.length]
  rintro _ ⟨i, hi, rfl⟩
  simp only [List.length_take, List.length_drop]
  omega

/-- A message that is constructed from operand bytes can be printed unless they are cut short. -/
lemma all_indexed_construct {construct : CECFrame → Ccec Msg} (hl : Layout op construct)
    (hm : (construct frame).result = .ok m) :
    m.print.All Event.Indexed ↔ ¬ CutShortOperands op frame.bytes := by
  have hlen : frame.bytes.length = frame.length := rfl
  cases hl with
  | plain hplain =>
    cases hm
    cases hplain <;> simp [Msg.print, DataBlock.print, CutShortOperands]
  | standby =>
    cases hm
    simp [Msg.print, DataBlock.print, CutShortOperands]
  | single hk =>
    obtain ⟨h, rfl⟩ := single_returns_iff.mp hm
    exact all_indexed_single hk h
  | reportPhysicalAddress =>
    obtain ⟨h, rfl⟩ := reportPhysicalAddress_returns_iff.mp hm
    have htype : 0 < ((frame.bytes.drop 2).take 1).length := by
      simp only [List.length_take, List.length_drop]
      omega
    have haddress : 2 ≤ frame.bytes.length := by omega
    simp [Msg.print, Logged.all_bind, haddress, DeviceType.all_indexed_toString htype,
      CutShortOperands]
  | featureAbort =>
    obtain ⟨h, rfl⟩ := featureAbort_returns_iff.mp hm
    have hreason : 0 < ((frame.bytes.drop 1).take 1).length := by
      simp only [List.length_take, List.length_drop]
      omega
    simp only [Msg.print, Logged.all_bind, AbortReason.all_indexed_toString hreason,
      all_indexed_ccecLog, implies_true, and_true, true_iff]
    simp [CutShortOperands]
  | routingChange =>
    obtain ⟨h, rfl⟩ := routingChange_returns_iff.mp hm
    have hfrom :
        (printAddress "Routing Change From : " ⟨frame.bytes.take 2⟩ "\n").result = .ok () := rfl
    simp only [Msg.print, Logged.all_bind, all_indexed_printAddress, hfrom, forall_const,
      List.length_take, List.length_drop]
    simp [CutShortOperands]
    omega
  | requestShortAudioDescriptor =>
    rw [requestShortAudioDescriptor_returns] at hm
    cases hm
    exact iff_of_true all_indexed_requestShortAudioDescriptor (by simp [CutShortOperands])
  | reportShortAudioDescriptor =>
    rw [reportShortAudioDescriptor_returns] at hm
    cases hm
    exact iff_of_true all_indexed_reportShortAudioDescriptor (by simp [CutShortOperands])
  | systemAudioModeRequest =>
    obtain ⟨h, rfl⟩ := systemAudioModeRequest_returns_iff.mp hm
    simp [Msg.print, CutShortOperands]
    omega
  | reportFeatures =>
    obtain ⟨h, rfl⟩ := reportFeatures_returns_iff.mp hm
    have hrc : 0 < rcLen frame := by simp only [rcLen]; omega
    have hfeatures : 0 < featuresLen frame := by simp only [featuresLen]; omega
    refine iff_of_true (ReportFeatures.all_indexed_print ?_ ?_ ?_ ?_) (by simp [CutShortOperands])
    all_goals
      simp only [List.mem_singleton, forall_eq, List.length_take, List.length_drop]
      omega
  | requestCurrentLatency =>
    obtain ⟨h, rfl⟩ := requestCurrentLatency_returns_iff.mp hm
    simp [Msg.print, CutShortOperands]
    omega
  | reportCurrentLatency =>
    obtain ⟨h, rfl⟩ := reportCurrentLatency_returns_iff.mp hm
    simp [Msg.print, ReportCurrentLatency.all_indexed_print, CutShortOperands]
    omega

/-- A frame that is cut short is delivered all the same. -/
lemma exists_layout_of_cutShort (h : CutShortOperands op frame.bytes) :
    ∃ construct m, Layout op construct ∧ (construct frame).result = .ok m := by
  rcases h with ⟨hop, hlen⟩ | ⟨hop, hlen⟩
  · have hpos : 0 < frame.length := by simp only [CECFrame.length]; omega
    rcases hop with rfl | rfl | rfl | rfl | rfl | rfl
    · exact ⟨_, _, .single .activeSource, single_returns_iff.mpr ⟨hpos, rfl⟩⟩
    · exact ⟨_, _, .single .inActiveSource, single_returns_iff.mpr ⟨hpos, rfl⟩⟩
    · exact ⟨_, _, .single .routingInformation, single_returns_iff.mpr ⟨hpos, rfl⟩⟩
    · exact ⟨_, _, .single .setStreamPath, single_returns_iff.mpr ⟨hpos, rfl⟩⟩
    · exact ⟨_, _, .systemAudioModeRequest, systemAudioModeRequest_returns_iff.mpr ⟨hpos, rfl⟩⟩
    · exact ⟨_, _, .requestCurrentLatency, requestCurrentLatency_returns_iff.mpr ⟨hpos, rfl⟩⟩
  · have hpos : 2 < frame.length := by simp only [CECFrame.length]; omega
    rcases hop with rfl | rfl
    · exact ⟨_, _, .routingChange, routingChange_returns_iff.mpr ⟨hpos, rfl⟩⟩
    · exact ⟨_, _, .reportCurrentLatency, reportCurrentLatency_returns_iff.mpr ⟨hpos, rfl⟩⟩

/-- The header of a delivered message holds one byte for each address. -/
lemma all_indexed_header (b : UInt8) : (Header.ofByte b).print.All Event.Indexed :=
  Header.all_indexed_print Nat.one_pos Nat.one_pos

/-- The default processor stays inside the operands and the tables for every message that the
decoder delivers to it, exactly for the frames that are not cut short. -/
theorem process_indexed_iff (f : CECFrame) :
    (∀ call ∈ calls (decode MessageProcessor.default f),
      (MessageProcessor.process call.1 call.2).All Event.Indexed) ↔ ¬ CutShort f := by
  have hcall : (∀ call ∈ calls (decode MessageProcessor.default f),
      (MessageProcessor.process call.1 call.2).All Event.Indexed) ↔
      ∀ m h, delivered f = some (m, h) → (MessageProcessor.process m h).All Event.Indexed := by
    simp only [calls_decode, Option.mem_toList, Prod.forall]
  have hprocess : ∀ (m : Msg) (b : UInt8),
      (MessageProcessor.process m (.ofByte b)).All Event.Indexed ↔ m.print.All Event.Indexed := by
    intro m b
    simp [MessageProcessor.process, Logged.all_bind, all_indexed_header, Header.result_print]
  rw [hcall]
  match hf : f.bytes with
  | [] => simp [delivered, hf, CutShort]
  | [b] => simp [delivered, hf, CutShort, hprocess, Msg.print, DataBlock.print]
  | b :: op :: rest =>
    rw [CutShort, CECFrame.exists_operands_iff (R := CutShortOperands) hf]
    simp only [delivered_cons hf]
    constructor
    · intro h hcut
      obtain ⟨construct, m, hl, hm⟩ := exists_layout_of_cutShort hcut
      have hprint := (hprocess m b).mp (h m _ ⟨rfl, construct, hl, hm⟩)
      exact (all_indexed_construct hl hm).mp hprint hcut
    · rintro hcut m h ⟨rfl, construct, hl, hm⟩
      exact (hprocess m b).mpr ((all_indexed_construct hl hm).mpr hcut)

/-- An `Active Source` with half an address: the address is printed with its missing byte. -/
theorem process_cut_activeSource :
    ¬ ∀ call ∈ calls (decode MessageProcessor.default ⟨[0x4F, 0x82, 0x10], by decide⟩),
      (MessageProcessor.process call.1 call.2).All Event.Indexed := by
  intro h
  have hall := h (.activeSource ⟨[0x10]⟩, ⟨⟨[0x04]⟩, ⟨[0x0F]⟩⟩) (by decide)
  have hindex := hall (.subscript 1 1) (by decide)
  exact absurd hindex (Nat.lt_irrefl 1)

end MessageDecoder

end HdmiCec
