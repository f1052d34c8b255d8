import Mathlib.Data.Nat.Digits.Defs
import HdmiCec.Lib.Logged

/-!
# Exceptions, log events and the CEC frame

The exceptions the library can meet, the events of a run that the development speaks about, and
`CECFrame`, the byte buffer every message travels in.
-/

namespace HdmiCec

open Lib

/-- The exceptions raised below the public interface: those of `ccec/Exception.hpp`, those of
`osal/Exception.hpp`, those of the C++ standard library with their text, and the end of the
process in a failed `Assert`. -/
inductive Exn where
  | exception
  | cecNoAck
  | operationNotSupported
  | io
  | invalidState
  | invalidParam
  | addressNotAvailable
  | osalInvalidState
  | outOfRange (text : String)
  | lengthError (text : String)
  | invalidArgument (text : String)
  | abort
deriving DecidableEq, Repr

namespace Exn

/-- What `catch (Exception &)` catches: the library's own hierarchy. -/
def isException : Exn → Bool
  | exception | cecNoAck | operationNotSupported | io | invalidState | invalidParam
  | addressNotAvailable => true
  | osalInvalidState | outOfRange _ | lengthError _ | invalidArgument _ | abort => false

/-- What `catch (std::exception &)` catches. A failed `Assert` is not an exception. -/
def isStdException : Exn → Bool
  | abort => false
  | _ => true

/-- What `catch (...)` catches. -/
def isAny : Exn → Bool
  | abort => false
  | _ => true

def what : Exn → String
  | exception => "Base Exception.."
  | cecNoAck => "Ack not received.."
  | operationNotSupported => "Operation Not Supported.."
  | io => "IO Exception.."
  | invalidState => "Invalid State Exception.."
  | invalidParam => "Invalid Param Exception.."
  | addressNotAvailable => "Address Not Available Exception.."
  | osalInvalidState => "Invalid State Exception.."
  | outOfRange text => text
  | lengthError text => text
  | invalidArgument text => text
  | abort => "abort"

end Exn

/-- What a run does besides returning or raising: a line of the log, the copy of the bytes
`first ≤ i < last` of a frame of `size` bytes into an operand, and the use of `index` as a
subscript into a vector or a table of `size` elements. -/
inductive Event where
  | ccecLog (level : ℕ) (text : String)
  | extract (first last size : ℕ)
  | subscript (index size : ℕ)
deriving DecidableEq, Repr

/-- The code's functions that may throw. -/
abbrev Ccec (α : Type) := Logged Exn Event α

/-! ### Logging and assertions -/

def logWarn : ℕ := 2
def logExp : ℕ := 3
def logInfo : ℕ := 5
def logDebug : ℕ := 6

def ccecLog (level : ℕ) (text : String) : Ccec Unit := .emit (.ccecLog level text)

/-- `Assert(expr)` stops the process when `expr` is false. -/
def assert (expr : Bool) : Ccec Unit := if expr then pure () else .raise .abort

/-- `vec[i]`, with the subscript logged. A subscript past the end reads some byte that the model
does not know. -/
def subscript (vec : List UInt8) (i : ℕ) : Ccec UInt8 := do
  .emit (.subscript i vec.length)
  pure (vec.getD i 0)

/-- `names_[i]` in a table of texts. -/
def tableAt (names : List String) (i : ℕ) : Ccec String := do
  .emit (.subscript i names.length)
  pure (names.getD i "")

/-- `%x` of a number. -/
def hex (n : ℕ) : String := String.ofList (Nat.toDigits 16 n)

/-- `%02x` of a byte. -/
def hex02 (b : UInt8) : String :=
  let digits := Nat.toDigits 16 b.toNat
  String.ofList (List.replicate (2 - digits.length) '0' ++ digits)

/-- `std::string(bytes.begin(), bytes.end())`, one character for each byte. -/
def stdString (bytes : List UInt8) : String := String.ofList (bytes.map fun b => Char.ofNat b.toNat)

/-- `s.c_str()` as a `%s` argument: the text up to the first NUL. -/
def cStr (s : String) : String := String.ofList (s.toList.takeWhile (· ≠ Char.ofNat 0))

/-! ### The frame -/

/-- A frame: `buf_[0 .. len_)`. At most `MAX_LENGTH = 128` bytes fit. -/
structure CECFrame where
  bytes : List UInt8
  length_le : bytes.length ≤ 128
deriving DecidableEq

namespace CECFrame

def maxLength : ℕ := 128

def empty : CECFrame := ⟨[], by simp⟩

def length (frame : CECFrame) : ℕ := frame.bytes.length

/-- `at(i)`: a checked read. -/
def byteAt (frame : CECFrame) (i : ℕ) : Ccec UInt8 :=
  if i < frame.length then
    pure (frame.bytes.getD i 0)
  else do
    ccecLog logDebug ("Frame i=" ++ toString i ++ ", len=" ++ toString frame.length ++ "\r\n")
    .raise (.outOfRange "Frame reads beyond maximum")

/-- `append(byte)`. -/
def append (frame : CECFrame) (byte : UInt8) : Ccec CECFrame :=
  if h : frame.length = maxLength then
    .raise (.outOfRange "Frame grows beyond maximum")
  else
    pure ⟨frame.bytes ++ [byte], by
      have hle := frame.length_le
      have hne : frame.bytes.length ≠ 128 := h
      simp only [List.length_append, List.length_singleton]
      omega⟩

/-- `append(buf, len)`, byte by byte. -/
def appendBuf (frame : CECFrame) : List UInt8 → Ccec CECFrame
  | [] => pure frame
  | b :: bs => do
    let frame' ← frame.append b
    frame'.appendBuf bs

/-- `frame[i] = byte`. -/
def set (frame : CECFrame) (i : ℕ) (byte : UInt8) : Ccec CECFrame :=
  if i < frame.length then
    pure ⟨frame.bytes.set i byte, by simpa using frame.length_le⟩
  else
    .raise (.outOfRange "Frame access beyond maximum")

/-- The loop of `subFrame`: `while (start < len_ && len--) out.append(at(start++))`. -/
def subFrameLoop (frame : CECFrame) : (len start : ℕ) → CECFrame → Ccec CECFrame
  | 0, _, out => pure out
  | len + 1, start, out =>
    if start < frame.length then do
      let byte ← frame.byteAt start
      let out' ← out.append byte
      frame.subFrameLoop len (start + 1) out'
    else
      pure out

/-- `subFrame(start, len)`; a length of 0, the default, stands for `MAX_LENGTH`. -/
def subFrame (frame : CECFrame) (start len : ℕ) : Ccec CECFrame :=
  frame.subFrameLoop (if len = 0 then maxLength else len) start empty

def hexDump (frame : CECFrame) (level : ℕ) : Ccec Unit := do
  ccecLog level "FRAME DUMP========================: \r\n"
  Logged.each (fun b => ccecLog level ((hex02 b).toUpper ++ " ")) frame.bytes
  ccecLog level "\r\n================================== \r\n"

/-! #### What the operations do -/

@[ext] lemma ext {f g : CECFrame} (h : f.bytes = g.bytes) : f = g := by
  cases f; cases g; simpa using h

@[simp] lemma bytes_empty : empty.bytes = [] := rfl

@[simp] lemma length_mk (bytes : List UInt8) (h : bytes.length ≤ 128) :
    length ⟨bytes, h⟩ = bytes.length := rfl

lemma byteAt_of_lt {frame : CECFrame} {i : ℕ} (h : i < frame.length) :
    frame.byteAt i = pure (frame.bytes.getD i 0) := if_pos h

lemma byteAt_of_ge {frame : CECFrame} {i : ℕ} (h : frame.length ≤ i) :
    (frame.byteAt i).result = .error (.outOfRange "Frame reads beyond maximum") := by
  simp only [byteAt, if_neg (Nat.not_lt.mpr h)]
  exact Logged.result_bind_of_ok rfl

lemma append_of_lt {frame : CECFrame} {b : UInt8} (h : (frame.bytes ++ [b]).length ≤ 128) :
    frame.append b = pure ⟨frame.bytes ++ [b], h⟩ := by
  have hne : ¬ frame.length = maxLength := by
    simp only [List.length_append, List.length_singleton] at h
    simp only [length, maxLength]
    omega
  simp only [append, dif_neg hne]

/-- Appending a buffer that fits concatenates. -/
lemma appendBuf_of_le {frame : CECFrame} {bs : List UInt8} (h : (frame.bytes ++ bs).length ≤ 128) :
    frame.appendBuf bs = pure ⟨frame.bytes ++ bs, h⟩ := by
  induction bs generalizing frame with
  | nil => simp [appendBuf]
  | cons b bs ih =>
    have hb : (frame.bytes ++ [b]).length ≤ 128 := by
      simp only [List.length_append, List.length_cons, List.length_nil] at h ⊢
      omega
    have hbs : ((frame.bytes ++ [b]) ++ bs).length ≤ 128 := by simpa using h
    have hstep : (frame.appendBuf (b :: bs)) =
        (⟨frame.bytes ++ [b], hb⟩ : CECFrame).appendBuf bs := by
      simp only [appendBuf, append_of_lt hb, pure_bind]
    rw [hstep, ih hbs]
    simp

/-- Appending a buffer that does not fit is refused. -/
lemma appendBuf_of_gt {frame : CECFrame} {bs : List UInt8} (h : 128 < (frame.bytes ++ bs).length) :
    (frame.appendBuf bs).result = .error (.outOfRange "Frame grows beyond maximum") := by
  induction bs generalizing frame with
  | nil =>
    rw [List.append_nil] at h
    exact absurd frame.length_le (Nat.not_le.mpr h)
  | cons b bs ih =>
    by_cases hfull : frame.length = maxLength
    · have hraise : (frame.append b).result = .error (.outOfRange "Frame grows beyond maximum") := by
        simp only [append, dif_pos hfull, Logged.result_raise]
      exact Logged.result_bind_of_error hraise
    · have hb : (frame.bytes ++ [b]).length ≤ 128 := by
        have hle := frame.length_le
        simp only [length, maxLength] at hfull
        simp only [List.length_append, List.length_singleton]
        omega
      rw [appendBuf, append_of_lt hb, pure_bind]
      exact ih (by simpa using h)

lemma subFrameLoop_eq (frame : CECFrame) (len start : ℕ) (out : CECFrame)
    (h : (out.bytes ++ (frame.bytes.drop start).take len).length ≤ 128) :
    frame.subFrameLoop len start out
      = pure ⟨out.bytes ++ (frame.bytes.drop start).take len, h⟩ := by
  induction len generalizing start out with
  | zero => simp [subFrameLoop]
  | succ len ih =>
    by_cases hlt : start < frame.length
    · have hlt' : start < frame.bytes.length := hlt
      have hdrop : frame.bytes.drop start =
          frame.bytes.getD start 0 :: frame.bytes.drop (start + 1) := by
        rw [List.drop_eq_getElem_cons hlt', List.getD_eq_getElem?_getD, List.getElem?_eq_getElem hlt',
          Option.getD_some]
      simp only [hdrop, List.take_succ_cons] at h ⊢
      have hb : (out.bytes ++ [frame.bytes.getD start 0]).length ≤ 128 := by
        simp only [List.length_append, List.length_cons, List.length_nil] at h ⊢
        omega
      have hstep : frame.subFrameLoop (len + 1) start out =
          frame.subFrameLoop len (start + 1) ⟨out.bytes ++ [frame.bytes.getD start 0], hb⟩ := by
        simp only [subFrameLoop, if_pos hlt, byteAt_of_lt hlt, pure_bind, append_of_lt hb]
      rw [hstep, ih]
      · simp
      · simpa using h
    · have hge : frame.bytes.length ≤ start := Nat.not_lt.mp hlt
      simp [subFrameLoop, hlt, List.drop_eq_nil_of_le hge]

/-- `subFrame` from `start` on is the rest of the frame. -/
lemma subFrame_eq (frame : CECFrame) (start : ℕ) :
    frame.subFrame start 0 = pure ⟨frame.bytes.drop start, by
      have := frame.length_le
      simp only [List.length_drop]
      omega⟩ := by
  have htake : (frame.bytes.drop start).take maxLength = frame.bytes.drop start := by
    apply List.take_of_length_le
    have := frame.length_le
    simp only [List.length_drop, maxLength]
    omega
  have h : (empty.bytes ++ (frame.bytes.drop start).take maxLength).length ≤ 128 := by
    simp only [bytes_empty, List.nil_append, List.length_take, maxLength]
    omega
  simp only [subFrame, if_pos]
  rw [subFrameLoop_eq frame maxLength start empty h]
  simp [htake]

end CECFrame

end HdmiCec
