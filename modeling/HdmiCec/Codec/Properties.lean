import HdmiCec.Operands.Properties
import HdmiCec.Codec.Basic

/-!
# What a run of the decoder does

`decode` in closed form: which message, if any, it delivers for a frame, and which of its events
come from the constructor of that message.
-/

namespace HdmiCec

open Lib

/-- The header whose nibbles are those of `b`. -/
def Header.ofByte (b : UInt8) : Header :=
  .ofInts ((b &&& 0xF0) >>> 4).toNat ((b &&& 0x0F) >>> 0).toNat

/-- The bytes after the opcode, as a frame. -/
def CECFrame.operandFrame (f : CECFrame) : CECFrame :=
  ⟨f.bytes.drop 2, by
    have := f.length_le
    simp only [List.length_drop]
    omega⟩

lemma CECFrame.bytes_operandFrame (f : CECFrame) : f.operandFrame.bytes = f.bytes.drop 2 := rfl

/-- A frame that is known to have an opcode: a statement about its opcode and operand bytes. -/
lemma CECFrame.exists_operands_iff {f : CECFrame} {R : OpT → List UInt8 → Prop} {b op : UInt8}
    {rest : List UInt8} (hf : f.bytes = b :: op :: rest) :
    (∃ b op operands, f.bytes = b :: op :: operands ∧ R op.toNat operands) ↔
      R op.toNat f.operandFrame.bytes := by
  have hframe : f.operandFrame.bytes = rest := by simp [bytes_operandFrame, hf]
  rw [hframe]
  constructor
  · rintro ⟨_, _, _, hf', h⟩
    rw [hf, List.cons.injEq, List.cons.injEq] at hf'
    obtain ⟨rfl, rfl, rfl⟩ := hf'
    exact h
  · intro h
    exact ⟨b, op, rest, hf, h⟩

lemma Header.ofFrame_eq {f : CECFrame} {b : UInt8} {bs : List UInt8} (h : f.bytes = b :: bs) :
    Header.ofFrame f 0 = pure (Header.ofByte b) := by
  have hlen : 0 < f.length := by simp [CECFrame.length, h]
  simp only [Header.ofFrame, CECFrame.byteAt_of_lt hlen, pure_bind, h]
  rfl

lemma Header.ofFrame_nil {f : CECFrame} (h : f.bytes = []) :
    (Header.ofFrame f 0).result = .error (.outOfRange "Frame reads beyond maximum") := by
  have hlen : f.length ≤ 0 := by simp [CECFrame.length, h]
  exact Logged.result_bind_of_error (CECFrame.byteAt_of_ge hlen)

lemma OpCode.ofFrame_eq {f : CECFrame} {n : ℕ} {b : UInt8} (hn : n < 2 ^ 64)
    (h : f.bytes[n]? = some b) : OpCode.ofFrame f (n : ℤ) = pure ⟨b.toNat⟩ := by
  obtain ⟨hlt, -⟩ := List.getElem?_eq_some_iff.mp h
  simp only [OpCode.ofFrame, CECBytes.sizeT_natCast hn, CECFrame.byteAt_of_lt hlt, pure_bind,
    List.getD_eq_getElem?_getD, h, Option.getD_some]

/-- The call of `process` that an event is. -/
def DecodeEvent.toCall : DecodeEvent → Option (Msg × Header)
  | .process m h => some (m, h)
  | .operand _ => none

namespace MessageDecoder

variable {P : Processor} {f : CECFrame} {b op : UInt8} {rest : List UInt8}

/-! ### The closed form -/

/-- The message that `decode` delivers and its header. -/
def delivered (f : CECFrame) : Option (Msg × Header) :=
  match f.bytes with
  | [] => none
  | [b] => some (.polling, .ofByte b)
  | b :: op :: _ =>
    match dispatch op.toNat with
    | .process construct =>
      match (construct f.operandFrame).result with
      | .ok m => some (m, .ofByte b)
      | .error _ => none
    | _ => none

/-- The calls of `process` in a run, in order. -/
def calls {α : Type} (run : Logged Exn DecodeEvent α) : List (Msg × Header) :=
  run.log.filterMap DecodeEvent.toCall

lemma decode_polling (h : f.bytes = [b]) : decode P f = callProcess P .polling (.ofByte b) := by
  have hlen : f.length = 1 := by simp [CECFrame.length, h]
  simp only [decode, Header.ofFrame_eq h, if_pos hlen]
  rfl

lemma decode_cons (h : f.bytes = b :: op :: rest) :
    decode P f = (decodeBody P (.ofByte b) f f.operandFrame).catching Exn.isStdException
      (handler f) := by
  have hlen : ¬ f.length = 1 := by simp [CECFrame.length, h]
  simp only [decode, Header.ofFrame_eq h, if_neg hlen, CECFrame.subFrame_eq]
  rfl

lemma decodeBody_cons {header : Header} (h : f.bytes = b :: op :: rest) :
    decodeBody P header f f.operandFrame =
      (match dispatch op.toNat with
      | .process construct => operands (construct f.operandFrame) >>= fun m => callProcess P m header
      | .skip => pure ()
      | .unhandled => operands (ccecLog logDebug "Unhandled Message Received \n" >>= fun _ =>
          OpCode.print ⟨op.toNat⟩)) := by
  have hop : OpCode.ofFrame f 1 = pure ⟨op.toNat⟩ :=
    OpCode.ofFrame_eq (n := 1) (by decide) (by simp [h])
  simp only [decodeBody, hop]
  rfl

/-! ### Its events -/

lemma all_ccecLog {R : Event → Prop} (hR : ∀ level text, R (.ccecLog level text)) (level : ℕ)
    (text : String) : (ccecLog level text).All R :=
  (Logged.all_emit _).mpr (hR level text)

/-- The handlers only write to the log. -/
lemma all_handler {Q : DecodeEvent → Prop} (hQ : ∀ level text, Q (.operand (.ccecLog level text)))
    (e : Exn) : (handler f e).All Q := by
  have hlog := all_ccecLog (R := fun o => Q (.operand o)) hQ
  have hdump : (f.hexDump logExp).All (fun o => Q (.operand o)) := by
    simp only [CECFrame.hexDump, Logged.all_bind]
    exact ⟨hlog _ _, fun _ _ => ⟨Logged.all_each fun _ _ => hlog _ _, fun _ _ => hlog _ _⟩⟩
  simp only [handler, operands, Logged.all_mapLog]
  split
  · exact hlog _ _
  · exact Logged.all_bind.mpr ⟨hlog _ _, fun _ _ => hdump⟩

/-- The events of decoding a frame with an opcode: those of the message's constructor and, when it
returns, the call of `process`; all others are lines of the log. -/
lemma all_decode_cons {Q : DecodeEvent → Prop} (h : f.bytes = b :: op :: rest)
    (hQ : ∀ level text, Q (.operand (.ccecLog level text))) :
    (decode P f).All Q ↔ ∀ construct, dispatch op.toNat = .process construct →
      (construct f.operandFrame).All (fun o => Q (.operand o)) ∧
        ∀ m, (construct f.operandFrame).result = .ok m → Q (.process m (.ofByte b)) := by
  have hlog := all_ccecLog (R := fun o => Q (.operand o)) hQ
  rw [decode_cons h, Logged.all_catching (all_handler hQ), decodeBody_cons h]
  cases hd : dispatch op.toNat with
  | process construct =>
    simp only [Logged.all_bind, operands, Logged.all_mapLog, Logged.result_mapLog, callProcess,
      Branch.process.injEq, forall_eq']
    simp [Logged.All]
  | skip => simp
  | unhandled =>
    simp only [operands, Logged.all_mapLog, Logged.all_bind, OpCode.print, reduceCtorEq,
      false_implies, implies_true, iff_true]
    exact ⟨hlog _ _, fun _ _ => hlog _ _⟩

/-! ### Its calls of `process` -/

@[simp] lemma calls_operands {α : Type} (m : Ccec α) : calls (operands m) = [] := by
  simp [calls, operands, DecodeEvent.toCall, List.filterMap_eq_nil_iff]

lemma calls_handler (e : Exn) : calls (handler f e) = [] := calls_operands _

lemma calls_catching (p : Exn → Bool) (m : Logged Exn DecodeEvent Unit) :
    calls (m.catching p (handler f)) = calls m := by
  rcases Logged.log_catching p (handler f) m with h | ⟨e, h⟩
  · simp only [calls, h]
  · have := calls_handler (f := f) e
    simp only [calls] at this
    simp only [calls, h, List.filterMap_append, this, List.append_nil]

/-- `decode` makes one call of `process`, with the message in closed form, or none. -/
theorem calls_decode (P : Processor) (f : CECFrame) :
    calls (decode P f) = (delivered f).toList := by
  match hf : f.bytes with
  | [] =>
    have he : (operands (Header.ofFrame f 0)).result = _ := Header.ofFrame_nil hf
    have hlog : (decode P f).log = (operands (Header.ofFrame f 0)).log := by
      rw [decode, Logged.log_bind_of_error he]
    have := calls_operands (Header.ofFrame f 0)
    simp only [calls] at this
    simp [calls, hlog, this, delivered, hf]
  | [b] => simp [decode_polling hf, callProcess, calls, DecodeEvent.toCall, delivered, hf]
  | b :: op :: rest =>
    rw [decode_cons hf, calls_catching, decodeBody_cons hf]
    simp only [delivered, hf]
    cases hd : dispatch op.toNat with
    | skip => rfl
    | unhandled => exact calls_operands _
    | process construct =>
      have hnone := calls_operands (construct f.operandFrame)
      simp only [calls] at hnone ⊢
      cases hm : (construct f.operandFrame).result with
      | ok m =>
        have hm' : (operands (construct f.operandFrame)).result = .ok m := hm
        rw [Logged.log_bind_of_ok hm', List.filterMap_append, hnone]
        rfl
      | error e =>
        have hm' : (operands (construct f.operandFrame)).result = .error e := hm
        rw [Logged.log_bind_of_error hm', hnone]
        rfl

end MessageDecoder

end HdmiCec
