import HdmiCec.Frame
import HdmiCec.Lib.Transition
import Mathlib.Data.List.GetD

/-!
# The frame in memory

`CECFrame` as the class has it: the array `buf_`, of which only the first `len_` bytes mean
something, and methods that change the object and may throw after they have changed a part of it.
The frames of a program are a store with one operation after the other, and the store refines one of
byte lists of at most `MAX_LENGTH` bytes. The frames of the other modules are these byte lists.
-/

namespace HdmiCec

open Lib

/-- A `CECFrame` object: `buf_` and `len_`. -/
structure FrameBuffer where
  buf : Vector UInt8 128
  len : ℕ
  len_le : len ≤ 128

namespace FrameBuffer

/-! ### The methods -/

/-- `length()`. -/
def length (f : FrameBuffer) : ℕ := f.len

/-- `append(byte)`: how the call ends, and the object then. -/
def append (f : FrameBuffer) (byte : UInt8) : Except Exn Unit × FrameBuffer :=
  if h : f.len = CECFrame.maxLength then
    (.error (.outOfRange "Frame grows beyond maximum"), f)
  else
    have hlt : f.len < 128 := Nat.lt_of_le_of_ne f.len_le h
    (.ok (), ⟨f.buf.set f.len byte, f.len + 1, hlt⟩)

/-- What a `const uint8_t *` points to: bytes somewhere else, or the `buf_` of the object itself. -/
inductive Pointer where
  | bytes (bytes : List UInt8)
  | own

/-- `buf[i]`. -/
def Pointer.read (f : FrameBuffer) (i : ℕ) : Pointer → UInt8
  | .bytes data => data.getD i 0
  | .own => f.buf.toList.getD i 0

/-- The loop of `append(buf, len)`, with `left` rounds to go. Each round reads `buf[i]` when it gets
there, so that an object that is appended to itself reads what is in it by then. -/
def appendLoop (buf : Pointer) : (left i : ℕ) → FrameBuffer → Except Exn Unit × FrameBuffer
  | 0, _, f => (.ok (), f)
  | left + 1, i, f =>
    match f.append (buf.read f i) with
    | (.ok (), f') => appendLoop buf left (i + 1) f'
    | (.error e, f') => (.error e, f')

/-- `append(buf, len)`. -/
def appendBuf (f : FrameBuffer) (buf : Pointer) (len : ℕ) : Except Exn Unit × FrameBuffer :=
  appendLoop buf len 0 f

/-- `getBuffer(&buf, &len)`: what `buf` points to, and `len`. -/
def getBuffer (f : FrameBuffer) : Vector UInt8 128 × ℕ := (f.buf, f.len)

/-- `append(frame)` with another frame. -/
def appendFrame (f frame : FrameBuffer) : Except Exn Unit × FrameBuffer :=
  f.appendBuf (.bytes frame.getBuffer.1.toList) frame.getBuffer.2

/-- `append(frame)` with the frame itself. -/
def appendSelf (f : FrameBuffer) : Except Exn Unit × FrameBuffer :=
  f.appendBuf .own f.getBuffer.2

/-- `reset()`. -/
def reset (f : FrameBuffer) : FrameBuffer := { f with len := 0, len_le := Nat.zero_le _ }

/-- `CECFrame(buf, len)` in memory that holds any bytes. `none` is `NULL`. -/
def new (memory : Vector UInt8 128) (buf : Option (List UInt8)) : Except Exn Unit × FrameBuffer :=
  let f := reset ⟨memory, 0, Nat.zero_le _⟩
  match buf with
  | some bytes =>
    if 0 < bytes.length then f.appendBuf (.bytes bytes) bytes.length else (.ok (), f)
  | none => (.ok (), f)

/-- `at(i)`. -/
def byteAt (f : FrameBuffer) (i : ℕ) : Ccec UInt8 :=
  if f.len ≤ i then do
    ccecLog logDebug ("Frame i=" ++ toString i ++ ", len=" ++ toString f.len ++ "\r\n")
    .raise (.outOfRange "Frame reads beyond maximum")
  else
    pure (f.buf.toList.getD i 0)

/-- `operator[](i)`: a reference to a byte of `buf_`. -/
def ref (f : FrameBuffer) (i : ℕ) : Except Exn (Fin 128) :=
  if h : f.len ≤ i then .error (.outOfRange "Frame access beyond maximum")
  else .ok ⟨i, Nat.lt_of_lt_of_le (Nat.not_le.mp h) f.len_le⟩

/-- `frame[i] = byte`. -/
def assign (f : FrameBuffer) (i : ℕ) (byte : UInt8) : Except Exn Unit × FrameBuffer :=
  match f.ref i with
  | .ok k => (.ok (), { f with buf := f.buf.set k byte })
  | .error e => (.error e, f)

/-- `frame.append(byte)` on a local frame, which is gone after an exception. -/
def appended (f : FrameBuffer) (byte : UInt8) : Ccec FrameBuffer :=
  match f.append byte with
  | (.ok (), f') => pure f'
  | (.error e, _) => .raise e

/-- The loop of `subFrame`, `while (start < len_ && len--)`, with counters of 64 bits. `len` is 0
after the last round and not used any more, whatever `len--` makes of it. -/
def subFrameLoop (f : FrameBuffer) (start len : UInt64) (frame : FrameBuffer) : Ccec FrameBuffer :=
  if start.toNat < f.len ∧ len ≠ 0 then do
    let byte ← f.byteAt start.toNat
    let frame' ← frame.appended byte
    f.subFrameLoop (start + 1) (len - 1) frame'
  else
    pure frame
termination_by f.len - start.toNat
decreasing_by
  have hle := f.len_le
  have hnext : (start + 1).toNat = start.toNat + 1 := by
    rw [UInt64.toNat_add, UInt64.toNat_one]
    omega
  omega

/-- `subFrame(start, len)`, with its local frame in memory that holds any bytes. -/
def subFrame (f : FrameBuffer) (memory : Vector UInt8 128) (start len : UInt64) :
    Ccec FrameBuffer :=
  f.subFrameLoop start (if len = 0 then 128 else len) (new memory none).2

/-! ### The bytes of a frame -/

/-- The bytes that mean something. -/
def contents (f : FrameBuffer) : List UInt8 := f.buf.toList.take f.len

variable {f g : FrameBuffer} {i : ℕ} {byte : UInt8}

@[simp] lemma length_contents (f : FrameBuffer) : f.contents.length = f.len := by
  have hle := f.len_le
  simp only [contents, List.length_take, Vector.length_toList]
  omega

@[simp] lemma contents_reset (f : FrameBuffer) : f.reset.contents = [] := rfl

lemma getD_buf (h : i < f.contents.length) : f.buf.toList.getD i 0 = f.contents[i] := by
  have hbuf : i < f.buf.toList.length := by
    rw [length_contents] at h
    rw [Vector.length_toList]
    exact Nat.lt_of_lt_of_le h f.len_le
  rw [List.getD_eq_getElem _ _ hbuf]
  exact (List.getElem_take).symm

/-- A byte list with other bytes behind it, as long as they fit. What does not fit is refused, and
what fits of it stays. -/
def extend (L bytes : List UInt8) : Except Exn Unit × List UInt8 :=
  if (L ++ bytes).length ≤ 128 then (.ok (), L ++ bytes)
  else (.error (.outOfRange "Frame grows beyond maximum"), (L ++ bytes).take 128)

@[simp] lemma extend_nil {L : List UInt8} (h : L.length ≤ 128) : extend L [] = (.ok (), L) := by
  simp [extend, h]

lemma extend_cons {L : List UInt8} (byte : UInt8) (bytes : List UInt8) :
    extend (L ++ [byte]) bytes = extend L (byte :: bytes) := by
  simp only [extend, List.append_assoc, List.singleton_append]

lemma extend_of_full {L bytes : List UInt8} (h : L.length = 128) (hbytes : bytes ≠ []) :
    extend L bytes = (.error (.outOfRange "Frame grows beyond maximum"), L) := by
  have hgt : ¬ (L ++ bytes).length ≤ 128 := by
    have hpos := List.length_pos_iff.mpr hbytes
    rw [List.length_append]
    omega
  rw [extend, if_neg hgt, ← h, List.take_left]

/-! ### What the methods do to them -/

lemma append_of_full (h : f.len = 128) (byte : UInt8) :
    f.append byte = (.error (.outOfRange "Frame grows beyond maximum"), f) := dif_pos h

lemma append_of_lt (h : f.len < 128) (byte : UInt8) :
    ∃ g, f.append byte = (.ok (), g) ∧ g.contents = f.contents ++ [byte] := by
  refine ⟨⟨f.buf.set f.len byte, f.len + 1, h⟩, dif_neg (Nat.ne_of_lt h), ?_⟩
  have hset : f.len < (f.buf.toList.set f.len byte).length := by
    rw [List.length_set, Vector.length_toList]
    exact h
  rw [contents, Vector.toList_set, List.take_succ_eq_append_getElem hset, List.getElem_set_self,
    List.take_set_of_le (Nat.le_refl _)]
  rfl

/-- The loop of `append(buf, len)` appends the bytes that `buf` points to as long as the frame keeps
what it had. -/
lemma appendLoop_eq (buf : Pointer) (i : ℕ) {data : List UInt8}
    (hread : ∀ g : FrameBuffer, f.contents <+: g.contents →
      ∀ k (hk : k < data.length), buf.read g (i + k) = data[k]) :
    (appendLoop buf data.length i f).map id contents = extend f.contents data := by
  induction data generalizing f i with
  | nil =>
    rw [extend_nil (by simpa using f.len_le)]
    rfl
  | cons byte data ih =>
    have hbyte : buf.read f i = byte := hread f List.prefix_rfl 0 (by simp)
    by_cases hfull : f.len = 128
    · rw [extend_of_full (by simpa using hfull) (by simp)]
      simp only [List.length_cons, appendLoop, append_of_full hfull]
      rfl
    · have hlt : f.len < 128 := Nat.lt_of_le_of_ne f.len_le hfull
      obtain ⟨f', happend, hcontents⟩ := append_of_lt hlt byte
      rw [← extend_cons, ← hcontents, ← ih (i + 1)]
      · simp only [List.length_cons, appendLoop, hbyte, happend]
      · intro g hg k hk
        have hprefix : f.contents <+: g.contents := by
          rw [hcontents] at hg
          exact ( List.prefix_append _ _).trans hg
        have hnext := hread g hprefix (k + 1) (Nat.succ_lt_succ hk)
        rw [Nat.add_assoc, Nat.add_comm 1 k]
        exact hnext

lemma append_eq (f : FrameBuffer) (byte : UInt8) :
    (f.append byte).map id contents = extend f.contents [byte] := by
  by_cases hfull : f.len = 128
  · rw [extend_of_full (by simpa using hfull) (by simp), append_of_full hfull]
    rfl
  · have hlt : f.len < 128 := Nat.lt_of_le_of_ne f.len_le hfull
    obtain ⟨f', happend, hcontents⟩ := append_of_lt hlt byte
    have hle : (f.contents ++ [byte]).length ≤ 128 := by
      rw [List.length_append, length_contents]
      exact hlt
    rw [extend, if_pos hle, happend, ← hcontents]
    rfl

lemma appendBuf_eq (f : FrameBuffer) (bytes : List UInt8) :
    (f.appendBuf (.bytes bytes) bytes.length).map id contents = extend f.contents bytes := by
  apply appendLoop_eq
  intro g _ k hk
  rw [Nat.zero_add]
  exact List.getD_eq_getElem _ _ hk

lemma appendFrame_eq (f frame : FrameBuffer) :
    (f.appendFrame frame).map id contents = extend f.contents frame.contents := by
  rw [← appendLoop_eq (.bytes frame.buf.toList) 0, length_contents]
  · rfl
  · intro g _ k hk
    rw [Nat.zero_add]
    exact getD_buf hk

/-- The bytes that are read are those from before the call, also when they are read after some
have been appended. -/
lemma appendSelf_eq (f : FrameBuffer) :
    f.appendSelf.map id contents = extend f.contents f.contents := by
  rw [← appendLoop_eq .own 0, length_contents]
  · rfl
  · intro g hg k hk
    rw [Nat.zero_add]
    have hk' : k < g.contents.length := Nat.lt_of_lt_of_le hk hg.length_le
    exact (getD_buf hk').trans (hg.getElem hk).symm

lemma new_eq (memory : Vector UInt8 128) (buf : Option (List UInt8)) :
    (new memory buf).map id contents = extend [] (buf.getD []) := by
  cases buf with
  | none => rfl
  | some bytes =>
    cases bytes with
    | nil => rfl
    | cons byte bytes => exact appendBuf_eq _ _

lemma byteAt_of_lt (h : i < f.contents.length) : f.byteAt i = pure f.contents[i] := by
  have hlt : ¬ f.len ≤ i := by simpa using h
  rw [byteAt, if_neg hlt, getD_buf h]

lemma byteAt_of_ge (h : f.contents.length ≤ i) :
    (f.byteAt i).result = .error (.outOfRange "Frame reads beyond maximum") := by
  have hle : f.len ≤ i := by simpa using h
  simp only [byteAt, if_pos hle]
  exact Logged.result_bind_of_ok rfl

lemma ref_of_lt (h : i < f.contents.length) :
    ∃ k : Fin 128, f.ref i = .ok k ∧ k = i ∧ f.buf[k] = f.contents[i] := by
  have hlt : ¬ f.len ≤ i := by simpa using h
  refine ⟨_, dif_neg hlt, rfl, ?_⟩
  rw [← getD_buf h, List.getD_eq_getElem _ _ (by
    have hle := f.len_le
    rw [Vector.length_toList]
    omega)]
  rfl

lemma ref_of_ge (h : f.contents.length ≤ i) :
    f.ref i = .error (.outOfRange "Frame access beyond maximum") :=
  dif_pos (by simpa using h)

lemma assign_eq (f : FrameBuffer) (i : ℕ) (byte : UInt8) :
    (f.assign i byte).map id contents =
      if i < f.contents.length then (.ok (), f.contents.set i byte)
      else (.error (.outOfRange "Frame access beyond maximum"), f.contents) := by
  by_cases h : i < f.contents.length
  · obtain ⟨k, hk, rfl, -⟩ := ref_of_lt h
    rw [if_pos h, assign, hk]
    simp only [Prod.map, id, contents, Prod.mk.injEq, true_and]
    rw [Vector.toList_set, List.take_set]
  · rw [if_neg h, assign, ref_of_ge (Nat.not_lt.mp h)]
    rfl

lemma appended_of_lt (h : f.len < 128) (byte : UInt8) :
    ∃ g, f.appended byte = pure g ∧ g.contents = f.contents ++ [byte] := by
  obtain ⟨g, happend, hcontents⟩ := append_of_lt h byte
  refine ⟨g, ?_, hcontents⟩
  simp only [appended, happend]

lemma subFrameLoop_eq (f : FrameBuffer) (start len : UInt64) (frame : FrameBuffer)
    (h : (frame.contents ++ (f.contents.drop start.toNat).take len.toNat).length ≤ 128) :
    ∃ g, f.subFrameLoop start len frame = pure g ∧
      g.contents = frame.contents ++ (f.contents.drop start.toNat).take len.toNat := by
  induction hn : len.toNat generalizing start len frame with
  | zero =>
    obtain rfl : len = 0 := UInt64.toNat_inj.mp hn
    refine ⟨frame, ?_, by simp⟩
    rw [subFrameLoop, if_neg (by simp)]
  | succ n ih =>
    have hne : len ≠ 0 := by
      rintro rfl
      simp at hn
    by_cases hstart : start.toNat < f.len
    · have hmem : start.toNat < f.contents.length := by simpa using hstart
      have hle := f.len_le
      have hnext : (start + 1).toNat = start.toNat + 1 := by
        rw [UInt64.toNat_add, UInt64.toNat_one]
        omega
      have hleft : (len - 1).toNat = n := by
        rw [UInt64.toNat_sub_of_le _ _ (UInt64.le_iff_toNat_le.mpr (by simp; omega)), hn]
        rfl
      rw [hn, List.drop_eq_getElem_cons hmem, List.take_succ_cons] at h
      rw [List.drop_eq_getElem_cons hmem, List.take_succ_cons]
      obtain ⟨g, happend, hg⟩ := appended_of_lt (f := frame) (by
        simp only [List.length_append, List.length_cons, length_contents] at h
        omega) f.contents[start.toNat]
      obtain ⟨u, hu, hcontents⟩ := ih (start + 1) (len - 1) g (by
        rw [hnext, hleft, hg]
        simpa using h) hleft
      refine ⟨u, ?_, ?_⟩
      · rw [subFrameLoop, if_pos ⟨hstart, hne⟩, byteAt_of_lt hmem, pure_bind, happend, pure_bind, hu]
      · rw [hcontents, hnext, hg]
        simp
    · refine ⟨frame, ?_, ?_⟩
      · rw [subFrameLoop, if_neg (fun hand => hstart hand.1)]
      · have hdrop : f.contents.length ≤ start.toNat := by simpa using hstart
        rw [List.drop_eq_nil_of_le hdrop]
        simp

/-- `subFrame` always returns. -/
lemma subFrame_eq (f : FrameBuffer) (memory : Vector UInt8 128) (start len : UInt64) :
    ∃ g, f.subFrame memory start len = pure g ∧ g.contents =
      (f.contents.drop start.toNat).take (if len = 0 then 128 else len.toNat) := by
  have hlen : (if len = 0 then 128 else len).toNat = if len = 0 then 128 else len.toNat := by
    split <;> rfl
  rw [← hlen]
  refine subFrameLoop_eq f start _ _ ?_
  have hle := f.len_le
  simp only [new, contents_reset, List.nil_append, List.length_take, List.length_drop,
    length_contents]
  omega

/-! ### The frames of the other modules -/

/-- The frame without what it does not use of its array. -/
def toFrame (f : FrameBuffer) : CECFrame := ⟨f.contents, by simpa using f.len_le⟩

@[simp] lemma bytes_toFrame (f : FrameBuffer) : f.toFrame.bytes = f.contents := rfl

lemma byteAt_toFrame (f : FrameBuffer) (i : ℕ) : f.toFrame.byteAt i = f.byteAt i := by
  have hlength : f.toFrame.length = f.len := length_contents f
  by_cases h : i < f.contents.length
  · have hlt : i < f.toFrame.length := h
    rw [byteAt_of_lt h, CECFrame.byteAt_of_lt hlt, bytes_toFrame, List.getD_eq_getElem _ _ h]
  · have hge : f.len ≤ i := by simpa using h
    rw [CECFrame.byteAt, byteAt, hlength, if_neg (Nat.not_lt.mpr hge), if_pos hge]

/-- A method that extends the frame by `bytes` does what `CECFrame.appendBuf` says. -/
lemma result_appendBuf {bytes : List UInt8} {r : Except Exn Unit × FrameBuffer}
    (h : r.map id contents = extend f.contents bytes) :
    (f.toFrame.appendBuf bytes).result = r.1.map fun _ => r.2.toFrame := by
  obtain ⟨how, g⟩ := r
  simp only [Prod.map, id, extend] at h
  split at h
  · rename_i hle
    obtain ⟨rfl, hg⟩ := Prod.mk.inj h
    have hbuf : f.toFrame.appendBuf bytes = pure ⟨f.contents ++ bytes, hle⟩ :=
      CECFrame.appendBuf_of_le hle
    rw [hbuf]
    exact congrArg Except.ok (CECFrame.ext hg.symm)
  · rename_i hgt
    obtain ⟨rfl, -⟩ := Prod.mk.inj h
    have hgt : 128 < (f.toFrame.bytes ++ bytes).length := Nat.not_le.mp hgt
    exact CECFrame.appendBuf_of_gt hgt

lemma result_append (f : FrameBuffer) (byte : UInt8) :
    (f.toFrame.append byte).result =
      (f.append byte).1.map fun _ => (f.append byte).2.toFrame := by
  rw [← result_appendBuf (append_eq f byte)]
  have hone : f.toFrame.appendBuf [byte] = f.toFrame.append byte >>= pure := rfl
  rw [hone, bind_pure]

lemma result_set (f : FrameBuffer) (i : ℕ) (byte : UInt8) :
    (f.toFrame.set i byte).result =
      (f.assign i byte).1.map fun _ => (f.assign i byte).2.toFrame := by
  have hassign := assign_eq f i byte
  generalize f.assign i byte = r at hassign ⊢
  obtain ⟨how, g⟩ := r
  simp only [Prod.map, id] at hassign
  by_cases h : i < f.contents.length
  · rw [if_pos h] at hassign
    obtain ⟨rfl, hg⟩ := Prod.mk.inj hassign
    have hset : f.toFrame.set i byte =
        pure ⟨f.contents.set i byte, by simpa using f.len_le⟩ := if_pos h
    rw [hset]
    exact congrArg Except.ok (CECFrame.ext hg.symm)
  · rw [if_neg h] at hassign
    obtain ⟨rfl, -⟩ := Prod.mk.inj hassign
    have hset : f.toFrame.set i byte = .raise (.outOfRange "Frame access beyond maximum") :=
      if_neg h
    rw [hset]
    rfl

lemma subFrame_toFrame (f : FrameBuffer) (memory : Vector UInt8 128) (start len : UInt64) :
    ∃ g, f.subFrame memory start len = pure g ∧
      f.toFrame.subFrame start.toNat len.toNat = pure g.toFrame := by
  obtain ⟨g, hg, hcontents⟩ := subFrame_eq f memory start len
  refine ⟨g, hg, ?_⟩
  have hlen : (if len.toNat = 0 then CECFrame.maxLength else len.toNat) =
      if len = 0 then 128 else len.toNat := by
    by_cases h : len = 0
    · subst h
      rfl
    · have hne : len.toNat ≠ 0 := fun h0 => h (UInt64.toNat_inj.mp h0)
      rw [if_neg h, if_neg hne]
  have hle : (CECFrame.empty.bytes ++ (f.toFrame.bytes.drop start.toNat).take
      (if len = 0 then 128 else len.toNat)).length ≤ 128 := by
    have hg := g.len_le
    rw [← length_contents, hcontents] at hg
    simpa using hg
  rw [CECFrame.subFrame, hlen, CECFrame.subFrameLoop_eq f.toFrame _ _ _ hle]
  congr 1
  ext1
  simpa using hcontents.symm

end FrameBuffer

/-! ### The frames of a program -/

/-- The operations on frames. A frame is a number. -/
inductive FrameOp where
  | construct (i : ℕ) (memory : Vector UInt8 128) (buf : Option (List UInt8))
  | append (i : ℕ) (byte : UInt8)
  | appendBuf (i : ℕ) (bytes : List UInt8)
  | appendFrame (i j : ℕ)
  | reset (i : ℕ)
  | assign (i k : ℕ) (byte : UInt8)
  | subFrame (i j : ℕ) (memory : Vector UInt8 128) (start len : UInt64)

/-- The frames there are, and how the operations so far have ended. -/
structure Frames (σ : Type) where
  frame : ℕ → Option σ
  ends : List (Except Exn Unit)

/-- What a class of frames has to offer. -/
structure FrameClass (σ : Type) where
  new : Vector UInt8 128 → Option (List UInt8) → Except Exn Unit × σ
  append : σ → UInt8 → Except Exn Unit × σ
  appendBuf : σ → List UInt8 → Except Exn Unit × σ
  appendFrame : σ → σ → Except Exn Unit × σ
  appendSelf : σ → Except Exn Unit × σ
  reset : σ → σ
  assign : σ → ℕ → UInt8 → Except Exn Unit × σ
  subFrame : σ → Vector UInt8 128 → UInt64 → UInt64 → Except Exn σ

namespace Frames

variable {σ τ : Type}

/-- There are no frames yet. -/
def init : Frames σ := ⟨fun _ => none, []⟩

/-- A call of a method of the frame `i`, which keeps what the method has done when it throws. -/
def call (s : Frames σ) (i : ℕ) (method : σ → Except Exn Unit × σ) : Option (Frames σ) :=
  match s.frame i with
  | some f => some ⟨Function.update s.frame i (some (method f).2), s.ends ++ [(method f).1]⟩
  | none => none

/-- A new frame `i`. There is none when its construction has thrown. -/
def create (s : Frames σ) (i : ℕ) (value : Except Exn σ) : Option (Frames σ) :=
  match s.frame i with
  | some _ => none
  | none =>
    match value with
    | .ok f => some ⟨Function.update s.frame i (some f), s.ends ++ [.ok ()]⟩
    | .error e => some ⟨s.frame, s.ends ++ [.error e]⟩

def step (C : FrameClass σ) (s : Frames σ) : FrameOp → Option (Frames σ)
  | .construct i memory buf => s.create i ((C.new memory buf).1.map fun _ => (C.new memory buf).2)
  | .append i byte => s.call i (C.append · byte)
  | .appendBuf i bytes => s.call i (C.appendBuf · bytes)
  | .appendFrame i j =>
    if i = j then s.call i C.appendSelf
    else
      match s.frame j with
      | some g => s.call i (C.appendFrame · g)
      | none => none
  | .reset i => s.call i fun f => (.ok (), C.reset f)
  | .assign i k byte => s.call i (C.assign · k byte)
  | .subFrame i j memory start len =>
    match s.frame j with
    | some f => s.create i (C.subFrame f memory start len)
    | none => none

def map (abs : σ → τ) (s : Frames σ) : Frames τ := ⟨fun i => (s.frame i).map abs, s.ends⟩

section

variable {abs : σ → τ} {s : Frames σ} {i : ℕ}

lemma frame_map (i : ℕ) : (s.map abs).frame i = (s.frame i).map abs := rfl

lemma map_update (i : ℕ) (f : σ) (ends : List (Except Exn Unit)) :
    map abs ⟨Function.update s.frame i (some f), ends⟩ =
      ⟨Function.update (map abs s).frame i (some (abs f)), ends⟩ := by
  have hframe : (fun k => (Function.update s.frame i (some f) k).map abs) =
      Function.update (map abs s).frame i (some (abs f)) := by
    funext k
    by_cases hk : k = i
    · subst hk
      simp
    · simp [hk, map]
  exact congrArg (fun frame => (⟨frame, ends⟩ : Frames τ)) hframe

lemma call_map {method : σ → Except Exn Unit × σ} {method' : τ → Except Exn Unit × τ}
    (h : ∀ f, (method f).map id abs = method' (abs f)) :
    (s.call i method).map (map abs) = (s.map abs).call i method' := by
  cases hf : s.frame i with
  | none => simp only [call, frame_map, hf, Option.map_none]
  | some f =>
    simp only [call, frame_map, hf, Option.map_some, map_update, ← h f]
    rfl

lemma create_map {value : Except Exn σ} {value' : Except Exn τ} (h : value.map abs = value') :
    (s.create i value).map (map abs) = (s.map abs).create i value' := by
  subst h
  cases hf : s.frame i with
  | some f => simp only [create, frame_map, hf, Option.map_some, Option.map_none]
  | none =>
    cases value with
    | ok f =>
      simp only [create, frame_map, hf, Option.map_some, Option.map_none, map_update, Except.map]
      rfl
    | error e =>
      simp only [create, frame_map, hf, Option.map_some, Option.map_none, Except.map]
      rfl

end

end Frames

/-- `abs` carries each operation of `C` to that of `D`. -/
structure FrameClass.Refines {σ τ : Type} (C : FrameClass σ) (D : FrameClass τ) (abs : σ → τ) :
    Prop where
  new memory buf : (C.new memory buf).map id abs = D.new memory buf
  append f byte : (C.append f byte).map id abs = D.append (abs f) byte
  appendBuf f bytes : (C.appendBuf f bytes).map id abs = D.appendBuf (abs f) bytes
  appendFrame f g : (C.appendFrame f g).map id abs = D.appendFrame (abs f) (abs g)
  appendSelf f : (C.appendSelf f).map id abs = D.appendSelf (abs f)
  reset f : abs (C.reset f) = D.reset (abs f)
  assign f k byte : (C.assign f k byte).map id abs = D.assign (abs f) k byte
  subFrame f memory start len :
    (C.subFrame f memory start len).map abs = D.subFrame (abs f) memory start len

/-- A class that refines another behaves like it in a store. -/
lemma FrameClass.Refines.step_map {σ τ : Type} {C : FrameClass σ} {D : FrameClass τ} {abs : σ → τ}
    (h : C.Refines D abs) (s : Frames σ) (op : FrameOp) :
    (s.step C op).map (.map abs) = (s.map abs).step D op := by
  cases op with
  | construct i memory buf =>
    refine Frames.create_map ?_
    rw [← h.new memory buf]
    generalize C.new memory buf = r
    obtain ⟨how, f⟩ := r
    cases how <;> rfl
  | append i byte => exact Frames.call_map fun f => h.append f byte
  | appendBuf i bytes => exact Frames.call_map fun f => h.appendBuf f bytes
  | appendFrame i j =>
    simp only [Frames.step]
    by_cases hij : i = j
    · rw [if_pos hij, if_pos hij]
      exact Frames.call_map h.appendSelf
    · rw [if_neg hij, if_neg hij]
      rw [Frames.frame_map]
      cases hg : s.frame j with
      | none => rfl
      | some g => exact Frames.call_map fun f => h.appendFrame f g
  | reset i => exact Frames.call_map fun f => Prod.ext rfl (h.reset f)
  | assign i k byte => exact Frames.call_map fun f => h.assign f k byte
  | subFrame i j memory start len =>
    simp only [Frames.step, Frames.frame_map]
    cases hf : s.frame j with
    | none => rfl
    | some f => exact Frames.create_map (h.subFrame f memory start len)

/-! ### The refinement -/

/-- The class `CECFrame`. -/
def FrameBuffer.frameClass : FrameClass FrameBuffer where
  new := new
  append := append
  appendBuf f bytes := f.appendBuf (.bytes bytes) bytes.length
  appendFrame := appendFrame
  appendSelf := appendSelf
  reset := reset
  assign := assign
  subFrame f memory start len := (f.subFrame memory start len).result

/-- What the class is for: byte lists. -/
def byteList : FrameClass (List UInt8) where
  new _ buf := FrameBuffer.extend [] (buf.getD [])
  append L byte := FrameBuffer.extend L [byte]
  appendBuf := FrameBuffer.extend
  appendFrame := FrameBuffer.extend
  appendSelf L := FrameBuffer.extend L L
  reset _ := []
  assign L k byte :=
    if k < L.length then (.ok (), L.set k byte)
    else (.error (.outOfRange "Frame access beyond maximum"), L)
  subFrame L _ start len :=
    .ok ((L.drop start.toNat).take (if len = 0 then 128 else len.toNat))

namespace FrameBuffer

lemma refines_byteList : frameClass.Refines byteList contents where
  new := new_eq
  append := append_eq
  appendBuf := appendBuf_eq
  appendFrame := appendFrame_eq
  appendSelf := appendSelf_eq
  reset := contents_reset
  assign := assign_eq
  subFrame f memory start len := by
    obtain ⟨g, hg, hcontents⟩ := subFrame_eq f memory start len
    simp only [frameClass, byteList, hg, Logged.result_pure, Except.map, hcontents]

/-- The object shows the byte list `L`. -/
structure Observes (f : FrameBuffer) (L : List UInt8) : Prop where
  length_le : L.length ≤ 128
  length : f.length = L.length
  byteAt : ∀ i, (f.byteAt i).result =
    if h : i < L.length then .ok L[i] else .error (.outOfRange "Frame reads beyond maximum")
  ref : ∀ i, (f.ref i).map (f.buf[·]) =
    if h : i < L.length then .ok L[i] else .error (.outOfRange "Frame access beyond maximum")
  getBuffer : f.getBuffer.1.toList.take f.getBuffer.2 = L
  subFrame : ∀ memory start len, ∃ g, f.subFrame memory start len = pure g ∧
    g.contents = (L.drop start.toNat).take (if len = 0 then 128 else len.toNat)
  subFrame_ge : ∀ memory start len, L.length ≤ start.toNat →
    ∃ g, f.subFrame memory start len = pure g ∧ g.contents = []
  subFrame_append : ∀ memory memory' n, n ≠ 0 →
    ∃ g g', f.subFrame memory 0 n = pure g ∧ f.subFrame memory' n 0 = pure g' ∧
      g.contents ++ g'.contents = L

lemma observes_contents (f : FrameBuffer) : f.Observes f.contents where
  length_le := by simpa using f.len_le
  length := (length_contents f).symm
  byteAt i := by
    by_cases h : i < f.contents.length
    · rw [dif_pos h, byteAt_of_lt h]
      rfl
    · rw [dif_neg h, byteAt_of_ge (Nat.not_lt.mp h)]
  ref i := by
    by_cases h : i < f.contents.length
    · obtain ⟨k, hk, -, hbyte⟩ := ref_of_lt h
      rw [dif_pos h, hk, ← hbyte]
      rfl
    · rw [dif_neg h, ref_of_ge (Nat.not_lt.mp h)]
      rfl
  getBuffer := rfl
  subFrame := subFrame_eq f
  subFrame_ge := by
    intro memory start len h
    obtain ⟨g, hg, hcontents⟩ := subFrame_eq f memory start len
    refine ⟨g, hg, ?_⟩
    rw [hcontents, List.drop_eq_nil_of_le h, List.take_nil]
  subFrame_append := by
    intro memory memory' n hn
    obtain ⟨g, hg, hcontents⟩ := subFrame_eq f memory 0 n
    obtain ⟨g', hg', hcontents'⟩ := subFrame_eq f memory' n 0
    refine ⟨g, g', hg, hg', ?_⟩
    have hrest : (f.contents.drop n.toNat).take 128 = f.contents.drop n.toNat := by
      apply List.take_of_length_le
      have hle := f.len_le
      rw [List.length_drop, length_contents]
      omega
    rw [hcontents, hcontents', if_neg hn, if_pos rfl, hrest, UInt64.toNat_zero, List.drop_zero,
      List.take_append_drop]

/-- Whatever a program does with its frames, they and the ends of its operations are those of byte
lists with at most 128 bytes, and each frame shows its list. -/
theorem frames_refine_byteList (ops : List FrameOp) :
    (exec (Frames.step frameClass) (fun _ _ => True) .init ops).map (.map contents) =
      exec (Frames.step byteList) (fun _ _ => True) .init ops ∧
    ∀ s ∈ exec (Frames.step frameClass) (fun _ _ => True) .init ops,
      ∀ i, ∀ f ∈ s.frame i, ∃ L, (s.map contents).frame i = some L ∧ f.Observes L := by
  constructor
  · exact exec_map refines_byteList.step_map .init ops
  · intro s _ i f hf
    have hmap : (s.map contents).frame i = some f.contents := by
      rw [Frames.frame_map, Option.mem_def.mp hf, Option.map_some]
    exact ⟨f.contents, hmap, f.observes_contents⟩

/-- A frame of 100 bytes that is appended to itself, and the end of it. -/
theorem frames_refine_byteList_self_append :
    ∃ s, exec (Frames.step frameClass) (fun _ _ => True) .init
        [.construct 0 (.replicate 128 0xAA) (some (.replicate 100 1)), .appendFrame 0 0,
          .subFrame 1 0 (.replicate 128 0xAA) 126 0] = some s ∧
      s.ends = [.ok (), .error (.outOfRange "Frame grows beyond maximum"), .ok ()] ∧
      (s.map contents).frame 0 = some (.replicate 128 1) ∧
      (s.map contents).frame 1 = some [1, 1] := by
  have hrefine := (frames_refine_byteList
    [.construct 0 (.replicate 128 0xAA) (some (.replicate 100 1)), .appendFrame 0 0,
      .subFrame 1 0 (.replicate 128 0xAA) 126 0]).1
  obtain ⟨t, ht, hends, hframe, hsub⟩ :
      ∃ t, exec (Frames.step byteList) (fun _ _ => True) .init
        [.construct 0 (.replicate 128 0xAA) (some (.replicate 100 1)), .appendFrame 0 0,
          .subFrame 1 0 (.replicate 128 0xAA) 126 0] = some t ∧
        t.ends = [.ok (), .error (.outOfRange "Frame grows beyond maximum"), .ok ()] ∧
        t.frame 0 = some (.replicate 128 1) ∧ t.frame 1 = some [1, 1] :=
    ⟨_, rfl, rfl, rfl, rfl⟩
  rw [ht] at hrefine
  obtain ⟨s, hs, rfl⟩ := Option.map_eq_some_iff.mp hrefine
  exact ⟨s, hs, hends, hframe, hsub⟩

end FrameBuffer

end HdmiCec
