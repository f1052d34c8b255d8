import HdmiCec.Codec.RoundTrip
import HdmiCec.Connection

/-!
# Reception end to end

The callback of the hardware layer lets no exception out and enqueues frames of 1 to 128 bytes only.
On such a frame nothing that the reader thread does raises an exception that it does not handle.
-/

namespace HdmiCec

open Lib

/-! ### The callback -/

namespace DriverImpl

lemma result_dumpBuffer (bytes : List UInt8) : (dumpBuffer bytes).result = .ok () :=
  Logged.result_each fun _ _ => rfl

/-- What becomes of a frame: it is enqueued, or an exception is raised that the callback catches,
because the driver is not open or the queue is full. -/
lemma result_offerFrame (status : Status) (q : FrameQueue) (addr : ℕ) {bytes : List UInt8}
    (h : bytes.length ≤ 128) :
    (status = .opened ∧ ∃ hlt : q.events.length < q.cap,
        (offerFrame status q addr bytes).result = .ok (q.push (some ⟨addr, ⟨bytes, h⟩⟩) hlt)) ∨
      ((status ≠ .opened ∨ q.events.length = q.cap) ∧
        ∃ e, (offerFrame status q addr bytes).result = .error e ∧ e.isAny = true) := by
  have happend : (CECFrame.empty.appendBuf bytes).result = .ok ⟨bytes, h⟩ := by
    have hfits : (CECFrame.empty.bytes ++ bytes).length ≤ 128 := by simpa using h
    rw [CECFrame.appendBuf_of_le hfits]
    rfl
  rw [offerFrame, Logged.result_bind_of_ok happend, Logged.result_bind_of_ok rfl,
    Logged.result_bind_of_ok (result_dumpBuffer bytes), Logged.result_bind_of_ok rfl]
  by_cases hopen : status ≠ .opened
  · have hraise : (getIncomingQueue status).result = .error .invalidState := by
      rw [getIncomingQueue, if_pos hopen]
      rfl
    exact .inr ⟨.inl hopen, _, Logged.result_bind_of_error hraise, rfl⟩
  · have hreturn : (getIncomingQueue status).result = .ok () := by
      rw [getIncomingQueue, if_neg hopen]
      rfl
    rw [Logged.result_bind_of_ok hreturn]
    rcases q.offer_cases _ with ⟨hlt, hoffer⟩ | ⟨hfull, hoffer⟩
    · exact .inl ⟨not_not.mp hopen, hlt, hoffer⟩
    · exact .inr ⟨.inr hfull, _, hoffer, rfl⟩

/-- The callback on a buffer that it does not discard: the frame with the bytes of the buffer is
enqueued when the driver is open and the queue has room. -/
lemma result_driverReceiveCallback (status : Status) (q : FrameQueue) (addr : ℕ)
    {buf : Option (ℕ → UInt8)} {len : ℤ} (hvalid : isValidReceiveFrame buf len = true) :
    ∃ frame : CECFrame, frame.bytes = (List.range len.toNat).map (buf.getD fun _ => 0) ∧
      1 ≤ frame.length ∧
      ((status = .opened ∧ ∃ hlt : q.events.length < q.cap,
          (driverReceiveCallback status q addr buf len).result
            = .ok (q.push (some ⟨addr, frame⟩) hlt)) ∨
        ((status ≠ .opened ∨ q.events.length = q.cap) ∧
          (driverReceiveCallback status q addr buf len).result = .ok q)) := by
  have hvalid' := hvalid
  simp only [isValidReceiveFrame, Bool.and_eq_true, decide_eq_true_eq] at hvalid'
  obtain ⟨⟨-, hpos⟩, hle⟩ := hvalid'
  have hlen : ((List.range len.toNat).map (buf.getD fun _ => 0)).length = len.toNat := by simp
  refine ⟨⟨_, hlen.trans_le hle⟩, rfl, ?_, ?_⟩
  · rw [CECFrame.length, hlen]
    omega
  rw [driverReceiveCallback, if_neg (by rw [hvalid]; decide)]
  dsimp only
  rcases result_offerFrame status q addr (hlen.trans_le hle) with
    ⟨hopen, hlt, hok⟩ | ⟨hwhy, e, he, hany⟩
  · refine .inl ⟨hopen, hlt, ?_⟩
    rw [Logged.result_catching_of_ok hok, Logged.result_bind_of_ok hok]
    rfl
  · refine .inr ⟨hwhy, ?_⟩
    rw [Logged.result_bind_of_ok (a := q) (Logged.result_catching_of_error he hany)]
    rfl

/-- The callback returns. The queue is as it was or has one frame more, of 1 to 128 bytes. -/
lemma driverReceiveCallback_returns (status : Status) (q : FrameQueue) (addr : ℕ)
    (buf : Option (ℕ → UInt8)) (len : ℤ) :
    ∃ q', (driverReceiveCallback status q addr buf len).result = .ok q' ∧
      (q' = q ∨ ∃ p : FramePtr, q'.events = q.events ++ [some p] ∧ 1 ≤ p.frame.length) := by
  by_cases hvalid : isValidReceiveFrame buf len = true
  · obtain ⟨frame, -, hlen, ⟨-, hlt, hok⟩ | ⟨-, hok⟩⟩ :=
      result_driverReceiveCallback status q addr hvalid
    · exact ⟨_, hok, .inr ⟨⟨addr, frame⟩, rfl, hlen⟩⟩
    · exact ⟨q, hok, .inl rfl⟩
  · rw [Bool.not_eq_true] at hvalid
    rw [driverReceiveCallback, if_pos (by rw [hvalid]; rfl)]
    exact ⟨q, rfl, .inl rfl⟩

end DriverImpl

/-! ### The dispatch -/

open MessageDecoder

variable {f : CECFrame} {P : Processor}

lemma header_returns (h : 1 ≤ f.length) : ∃ header, (Header.ofFrame f 0).result = .ok header := by
  match hf : f.bytes with
  | [] => simp [CECFrame.length, hf] at h
  | b :: bs => exact ⟨_, by rw [Header.ofFrame_eq hf]; rfl⟩

/-- Printing a frame with a header returns. -/
lemma printFrameDetails_returns (h : 1 ≤ f.length) :
    (DriverImpl.printFrameDetails f).result = .ok () := by
  have hbody : (DriverImpl.printFrameBody f).result = .ok () := by
    obtain ⟨header, hheader⟩ := header_returns h
    rw [DriverImpl.printFrameBody, Logged.result_bind_of_ok hheader]
    split
    · rename_i hlen
      obtain ⟨op, hop⟩ : ∃ op, (OpCode.ofFrame f 1).result = .ok op := by
        have hbyte : f.byteAt (sizeT 1) = pure (f.bytes.getD 1 0) := CECFrame.byteAt_of_lt hlen
        exact ⟨_, by rw [OpCode.ofFrame, hbyte]; rfl⟩
      obtain ⟨fromText, hfrom⟩ := header.fromAddr.toString_returns
      obtain ⟨toText, hto⟩ := header.toAddr.toString_returns
      rw [Logged.result_bind_of_ok hop, Logged.result_bind_of_ok hfrom,
        Logged.result_bind_of_ok hto]
      rfl
    · rfl
  rw [DriverImpl.printFrameDetails, Logged.result_catching_of_ok hbody, hbody]

lemma isFiltered_returns (source : LogicalAddress) (h : 1 ≤ f.length) :
    ∃ filtered, (Connection.isFiltered source f).result = .ok filtered := by
  obtain ⟨header, hheader⟩ := header_returns h
  unfold Connection.isFiltered
  split
  · exact ⟨_, rfl⟩
  · exact ⟨_, Logged.result_bind_of_ok hheader⟩

/-! #### The decoder -/

lemma insertRange_raisesOnly {first last : ℕ} :
    (CECBytes.insertRange f first last).RaisesOnly (·.isStdException = true) := by
  by_cases h : first ≤ last
  · exact Logged.raisesOnly_of_ok (by rw [CECBytes.insertRange_of_le h])
  · intro e he
    rw [CECBytes.insertRange_of_lt (Nat.not_le.mp h)] at he
    cases he
    rfl

/-- What the operands' constructors raise is a `std::exception`. -/
lemma ofFrame_raisesOnly {c : OperandClass} {startPos len : ℕ} :
    (CECBytes.ofFrame f startPos len : Ccec (CECBytes c)).RaisesOnly (·.isStdException = true) := by
  rw [CECBytes.ofFrame_eq_insertRange]
  refine insertRange_raisesOnly.bind fun str _ => ?_
  split
  · exact Logged.raisesOnly_of_ok rfl
  · exact Logged.raisesOnly_raise rfl

lemma byteAt_raisesOnly {i : ℕ} : (f.byteAt i).RaisesOnly (·.isStdException = true) := by
  unfold CECFrame.byteAt
  split
  · exact Logged.raisesOnly_of_ok rfl
  · exact (Logged.raisesOnly_of_ok rfl).bind fun _ _ => Logged.raisesOnly_raise rfl

lemma opCode_raisesOnly {i : ℤ} : (OpCode.ofFrame f i).RaisesOnly (·.isStdException = true) :=
  byteAt_raisesOnly.bind fun _ _ => Logged.raisesOnly_of_ok rfl

/-- A message's constructor raises a `std::exception` or nothing. -/
lemma construct_raisesOnly {op : OpT} {construct : CECFrame → Ccec Msg}
    (hl : Layout op construct) :
    (construct f).RaisesOnly (·.isStdException = true) := by
  cases hl with
  | plain _ => exact Logged.raisesOnly_of_ok rfl
  | standby => exact Logged.raisesOnly_of_ok rfl
  | single _ => exact ofFrame_raisesOnly.map _
  | reportPhysicalAddress | routingChange =>
    exact ofFrame_raisesOnly.bind fun _ _ => ofFrame_raisesOnly.bind fun _ _ =>
      Logged.raisesOnly_of_ok rfl
  | featureAbort =>
    exact opCode_raisesOnly.bind fun _ _ => ofFrame_raisesOnly.bind fun _ _ =>
      Logged.raisesOnly_of_ok rfl
  | requestShortAudioDescriptor | reportShortAudioDescriptor =>
    exact (Logged.RaisesOnly.collect (fun _ => ofFrame_raisesOnly) _).bind fun _ _ =>
      Logged.raisesOnly_of_ok rfl
  | systemAudioModeRequest | requestCurrentLatency =>
    refine ofFrame_raisesOnly.bind fun _ _ => ?_
    split <;> exact Logged.raisesOnly_of_ok rfl
  | reportFeatures =>
    refine ofFrame_raisesOnly.bind fun _ _ => ofFrame_raisesOnly.bind fun _ _ => ?_
    refine (Logged.raisesOnly_of_ok rfl).bind fun _ _ => ?_
    refine (Logged.raisesOnly_of_ok (Logged.result_each fun _ _ => rfl)).bind fun _ _ => ?_
    exact ofFrame_raisesOnly.bind fun _ _ => ofFrame_raisesOnly.bind fun _ _ =>
      Logged.raisesOnly_of_ok rfl
  | reportCurrentLatency =>
    exact ofFrame_raisesOnly.bind fun _ _ => ofFrame_raisesOnly.bind fun _ _ =>
      Logged.raisesOnly_of_ok rfl

lemma handler_returns (e : Exn) : (handler f e).result = .ok () := by
  have hdump : (f.hexDump logExp).result = .ok () := by
    rw [CECFrame.hexDump, Logged.result_bind_of_ok rfl,
      Logged.result_bind_of_ok (Logged.result_each fun _ _ => rfl)]
    rfl
  simp only [handler, operands, Logged.result_mapLog]
  split
  · rfl
  · rw [Logged.result_bind_of_ok rfl, hdump]

/-- Decoding a frame with a header returns when the processor does. -/
lemma decode_returns (hP : ∀ m h, P m h = .ok ()) (h : 1 ≤ f.length) :
    (decode P f).result = .ok () := by
  match hf : f.bytes with
  | [] => simp [CECFrame.length, hf] at h
  | [b] =>
    rw [decode_polling hf]
    exact hP _ _
  | b :: op :: rest =>
    rw [decode_cons hf]
    refine Logged.RaisesOnly.catching_returns ?_ handler_returns
    rw [decodeBody_cons hf]
    cases hd : dispatch op.toNat with
    | skip => exact Logged.raisesOnly_of_ok rfl
    | unhandled => exact Logged.raisesOnly_of_ok rfl
    | process construct =>
      have hraises := construct_raisesOnly (f := f.operandFrame) (layout_of_dispatch hd)
      exact Logged.RaisesOnly.bind hraises fun m _ => Logged.raisesOnly_of_ok (hP m _)

/-- Dispatching a frame with a header raises nothing when the processors do not. -/
lemma dispatch_returns {listeners : List Connection} (h : 1 ≤ f.length)
    (hP : ∀ c ∈ listeners, ∀ P ∈ c.frameListeners, ∀ m h, P m h = .ok ()) :
    (Reader.dispatch listeners f).result = .ok () := by
  have hnotify : ∀ c ∈ listeners, (Connection.notify c f).result = .ok () := by
    intro c hc
    obtain ⟨filtered, hfiltered⟩ := isFiltered_returns c.source h
    have hfiltered' : (operands (Connection.isFiltered c.source f)).result
        = .ok filtered := hfiltered
    rw [Connection.notify, Logged.result_bind_of_ok hfiltered']
    split
    · refine Logged.result_each fun P hmem => ?_
      rw [Logged.result_bind_of_ok rfl, decode_returns (hP c hc P hmem) h]
    · obtain ⟨header, hheader⟩ := header_returns h
      have hheader' : (operands (Header.ofFrame f 0)).result = .ok header := hheader
      rw [Logged.result_bind_of_ok hheader']
      rfl
  have hempty : (operands (if listeners.length = 0 then
      ccecLog logDebug "Bus::Reader discarding msgs for lack of listener\r\n" else pure ())).result
      = .ok () := by
    split <;> rfl
  rw [Reader.dispatch, Logged.result_bind_of_ok hempty]
  refine Logged.result_each fun c hc => ?_
  have hprint : (operands (DriverImpl.printFrameDetails f)).result = .ok () :=
    printFrameDetails_returns h
  rw [Logged.result_bind_of_ok rfl, Logged.result_bind_of_ok hprint, hnotify c hc]

/-- The decoder makes at most one call, with the frame's opcode and the nibbles of its first byte,
and none for an opcode without a branch. -/
lemma calls_spec (P : Processor) (f : CECFrame) :
    (calls (decode P f)).length ≤ 1 ∧
      (∀ call ∈ calls (decode P f),
        call.1.opCode = frameOpCode f ∧ ∃ b : UInt8, f.bytes[0]? = some b ∧
          call.2 = .ofInts ((b &&& 0xF0) >>> 4).toNat (b &&& 0x0F).toNat) ∧
      ∀ op, f.bytes[1]? = some op →
        (∀ construct, dispatch op.toNat ≠ .process construct) →
          calls (decode P f) = [] := by
  rw [calls_decode]
  refine ⟨?_, ?_, ?_⟩
  · cases delivered f <;> simp
  · rintro ⟨m, h⟩ hcall
    obtain ⟨b, rest, hf, rfl, hop, -⟩ := delivered_spec (Option.mem_toList.mp hcall)
    exact ⟨hop, b, by simp [hf], by simp [Header.ofByte]⟩
  · intro op hop hno
    rcases hf : f.bytes with _ | ⟨b, _ | ⟨op', rest⟩⟩
    · simp [hf] at hop
    · simp [hf] at hop
    · have heq : op' = op := by simpa [hf] using hop
      subst heq
      cases hd : dispatch op'.toNat with
      | process construct => exact absurd hd (hno construct)
      | skip => simp [delivered, hf, hd]
      | unhandled => simp [delivered, hf, hd]

/-- Robust reception: the callback returns for every buffer and length; and what it enqueues can be
dispatched to any connections whose processors do not throw, without an exception that leaves the
reader's loop, and with at most one call for each decoder. -/
theorem reception_robust (status : DriverImpl.Status) (q : FrameQueue) (addr : ℕ)
    (buf : Option (ℕ → UInt8)) (len : ℤ) :
    ∃ q', (DriverImpl.driverReceiveCallback status q addr buf len).result = .ok q' ∧
      (q' = q ∨ ∃ p : FramePtr, q'.events = q.events ++ [some p] ∧
        (∀ (isRunning : Bool) (listeners : List Connection),
          (∀ c ∈ listeners, ∀ P ∈ c.frameListeners, ∀ m h, P m h = .ok ()) →
            (Reader.round isRunning listeners p.frame).result = .ok ()) ∧
        ∀ P : Processor,
          (calls (decode P p.frame)).length ≤ 1 ∧
          (∀ call ∈ calls (decode P p.frame),
            call.1.opCode = frameOpCode p.frame ∧ ∃ b : UInt8, p.frame.bytes[0]? = some b ∧
              call.2 = .ofInts ((b &&& 0xF0) >>> 4).toNat (b &&& 0x0F).toNat) ∧
          ∀ op, p.frame.bytes[1]? = some op →
            (∀ construct, dispatch op.toNat ≠ .process construct) →
              calls (decode P p.frame) = []) := by
  obtain ⟨q', hq', hsame | ⟨p, hp, hlen⟩⟩ :=
    DriverImpl.driverReceiveCallback_returns status q addr buf len
  · exact ⟨q', hq', .inl hsame⟩
  · refine ⟨q', hq', .inr ⟨p, hp, ?_, fun P => calls_spec P p.frame⟩⟩
    intro isRunning listeners hP
    have hdispatch := dispatch_returns hlen hP
    rw [Reader.round, Logged.result_catching_of_ok hdispatch, hdispatch]

end HdmiCec
