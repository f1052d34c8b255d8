import HdmiCec.Codec.Features

/-!
# The counters of the features report

The vectors of a `ReportFeatures` are copied and serialised by loops that compare a counter of eight
bits with the size of the vector. The counter wraps at 256, so that a copy of more than 255 operands
never ends. `serialize` is safe all the same when each operand has a byte: the frame is full before
the counter wraps.
-/

namespace HdmiCec

open Lib

/-! ### The constructor -/

/-- `copyLoop` with the number of its rounds. -/
def copyRounds {α : Type} (vec : List α) :
    (fuel : ℕ) → (i : UInt8) → (out : List α) → Option (ℕ × List α)
  | 0, _, _ => none
  | fuel + 1, i, out =>
    match vec[i.toNat]? with
    | some o => (copyRounds vec fuel (i + 1) (out ++ [o])).map fun (n, out) => (n + 1, out)
    | none => some (0, out)

/-- `ReportFeatures(version, allDeviceTypes, rc_Profile, device_Features)` with the number of rounds
of its two loops. -/
def ReportFeatures.construct (fuel : ℕ) (version : Version) (allDeviceTypes : AllDeviceTypes)
    (rcProfile : List RcProfile) (deviceFeatures : List DeviceFeatures) : Option (ℕ × Msg) := do
  let (n, rcProfile) ← copyRounds rcProfile fuel 0 []
  let (n', deviceFeatures) ← copyRounds deviceFeatures fuel 0 []
  pure (n + n', .reportFeatures version allDeviceTypes rcProfile deviceFeatures)

section

variable {α : Type} {vec : List α}

lemma length_le_of_copyLoop {fuel : ℕ} {i : UInt8} {out out' : List α}
    (h : copyLoop vec fuel i out = some out') : out.length ≤ out'.length := by
  induction fuel generalizing i out with
  | zero => cases h
  | succ fuel ih =>
    rw [copyLoop] at h
    split at h
    · have hle := ih h
      rw [List.length_append, List.length_singleton] at hle
      omega
    · obtain rfl := Option.some.inj h
      exact Nat.le_refl _

/-- Each round appends one element. -/
lemma copyRounds_eq_map (fuel : ℕ) (i : UInt8) (out : List α) :
    copyRounds vec fuel i out =
      (copyLoop vec fuel i out).map fun out' => (out'.length - out.length, out') := by
  induction fuel generalizing i out with
  | zero => rfl
  | succ fuel ih =>
    simp only [copyRounds, copyLoop]
    cases vec[i.toNat]? with
    | none => simp
    | some o =>
      dsimp only
      rw [ih]
      cases hloop : copyLoop vec fuel (i + 1) (out ++ [o]) with
      | none => rfl
      | some out' =>
        have hle := length_le_of_copyLoop hloop
        simp only [List.length_append, List.length_singleton] at hle
        simp only [Option.map_some, Option.some.injEq, Prod.mk.injEq, and_true,
          List.length_append, List.length_singleton]
        omega

/-- The counter never gets to a size of 256 or more. -/
lemma copyLoop_eq_none (h : 256 ≤ vec.length) (fuel : ℕ) (i : UInt8) (out : List α) :
    copyLoop vec fuel i out = none := by
  induction fuel generalizing i out with
  | zero => rfl
  | succ fuel ih =>
    have hlt : i.toNat < vec.length := Nat.lt_of_lt_of_le i.toNat_lt h
    rw [copyLoop, List.getElem?_eq_getElem hlt]
    exact ih _ _

lemma copyRounds_eq (h : vec.length ≤ 255) {fuel : ℕ} (hfuel : vec.length < fuel) :
    copyRounds vec fuel 0 [] = some (vec.length, vec) := by
  have hzero : (0 : UInt8).toNat = 0 := rfl
  rw [copyRounds_eq_map, copyLoop_eq vec h fuel 0 (by omega) (by omega) []]
  simp

lemma copyRounds_eq_none (h : 256 ≤ vec.length) (fuel : ℕ) :
    copyRounds vec fuel 0 [] = none := by
  rw [copyRounds_eq_map, copyLoop_eq_none h]
  rfl

end

namespace ReportFeatures

variable {version : Version} {allDeviceTypes : AllDeviceTypes} {rcProfile : List RcProfile}
  {deviceFeatures : List DeviceFeatures}

lemma new_eq_map (fuel : ℕ) :
    ReportFeatures.new fuel version allDeviceTypes rcProfile deviceFeatures =
      (construct fuel version allDeviceTypes rcProfile deviceFeatures).map Prod.snd := by
  rw [ReportFeatures.new, construct, copyRounds_eq_map, copyRounds_eq_map]
  cases copyLoop rcProfile fuel 0 [] with
  | none => rfl
  | some rcProfile' => cases copyLoop deviceFeatures fuel 0 [] <;> rfl

lemma construct_eq (hrc : rcProfile.length ≤ 255) (hdf : deviceFeatures.length ≤ 255) :
    construct 256 version allDeviceTypes rcProfile deviceFeatures =
      some (rcProfile.length + deviceFeatures.length,
        .reportFeatures version allDeviceTypes rcProfile deviceFeatures) := by
  rw [construct, copyRounds_eq hrc (by omega), copyRounds_eq hdf (by omega)]
  rfl

/-- A vector of 256 operands or more keeps one of the loops going. -/
lemma construct_eq_none (h : 256 ≤ rcProfile.length ∨ 256 ≤ deviceFeatures.length) (fuel : ℕ) :
    construct fuel version allDeviceTypes rcProfile deviceFeatures = none := by
  rw [construct]
  obtain h | h := h
  · rw [copyRounds_eq_none h]
    rfl
  · rw [copyRounds_eq_none h]
    cases copyRounds rcProfile fuel 0 [] <;> rfl

end ReportFeatures

/-! ### `serialize` -/

/-- `for (uint8_t i = start; i < vec.size(); i++) vec[i].serialize(frame)`, as long as `fuel` tests
of the condition are enough. The counter wraps at 256. -/
def serializeRounds {c : OperandClass} (vec : List (CECBytes c)) :
    (fuel : ℕ) → (i : UInt8) → CECFrame → Option (Except Exn CECFrame)
  | 0, _, _ => none
  | fuel + 1, i, frame =>
    match vec[i.toNat]? with
    | some o =>
      match (o.serialize frame).result with
      | .ok frame' => serializeRounds vec fuel (i + 1) frame'
      | .error e => some (.error e)
    | none => some (.ok frame)

/-- `ReportFeatures::serialize(frame)`, with both loops. -/
def ReportFeatures.serialize (fuel : ℕ) (version : Version) (allDeviceTypes : AllDeviceTypes)
    (rcProfile : List RcProfile) (deviceFeatures : List DeviceFeatures) (frame : CECFrame) :
    Option (Except Exn CECFrame) :=
  match (version.serialize frame >>= allDeviceTypes.serialize).result with
  | .error e => some (.error e)
  | .ok frame =>
    match serializeRounds rcProfile fuel 0 frame with
    | none => none
    | some (.error e) => some (.error e)
    | some (.ok frame) => serializeRounds deviceFeatures fuel 0 frame

lemma CECFrame.appendBuf_append (frame : CECFrame) (bs bs' : List UInt8) :
    frame.appendBuf (bs ++ bs') = frame.appendBuf bs >>= fun frame' => frame'.appendBuf bs' := by
  induction bs generalizing frame with
  | nil => simp [appendBuf]
  | cons b bs ih =>
    rw [List.cons_append, appendBuf, appendBuf, bind_assoc]
    congr 1
    funext frame'
    exact ih frame'

lemma CECFrame.length_of_appendBuf {frame frame' : CECFrame} {bs : List UInt8}
    (h : (frame.appendBuf bs).result = .ok frame') :
    frame'.length = frame.length + bs.length := by
  by_cases hle : (frame.bytes ++ bs).length ≤ 128
  · rw [appendBuf_of_le hle, Logged.result_pure] at h
    obtain rfl := Except.ok.inj h
    exact List.length_append
  · rw [appendBuf_of_gt (Nat.not_le.mp hle)] at h
    cases h

section

variable {c : OperandClass} {vec : List (CECBytes c)}

/-- The loop appends all operands unless the counter wraps, and the counter does not wrap before the
frame is full when each operand has a byte. -/
lemma serializeRounds_eq (fuel : ℕ) (i : UInt8) (frame : CECFrame) (hi : i.toNat ≤ vec.length)
    (hfuel : vec.length < i.toNat + fuel)
    (hwrap : vec.length ≤ 255 ∨ (∀ o ∈ vec, o.str ≠ []) ∧ i.toNat ≤ frame.length) :
    serializeRounds vec fuel i frame =
      some (frame.appendBuf ((vec.drop i.toNat).flatMap CECBytes.str)).result := by
  induction fuel generalizing i frame with
  | zero => omega
  | succ fuel ih =>
    by_cases hlt : i.toNat < vec.length
    · rw [List.drop_eq_getElem_cons hlt, List.flatMap_cons, CECFrame.appendBuf_append,
        serializeRounds, List.getElem?_eq_getElem hlt]
      dsimp only [CECBytes.serialize]
      cases happend : (frame.appendBuf vec[i.toNat].str).result with
      | error e => rw [Logged.result_bind_of_error happend]
      | ok frame' =>
        rw [Logged.result_bind_of_ok happend]
        have hlength := CECFrame.length_of_appendBuf happend
        have hgrows : vec.length ≤ 255 ∨
            (∀ o ∈ vec, o.str ≠ []) ∧ i.toNat + 1 ≤ frame'.length := by
          obtain hvec | ⟨hne, hle⟩ := hwrap
          · exact .inl hvec
          · have hpos := List.length_pos_iff.mpr (hne _ (List.getElem_mem hlt))
            exact .inr ⟨hne, by omega⟩
        have hnext : (i + 1).toNat = i.toNat + 1 := by
          have hle : frame'.length ≤ 128 := frame'.length_le
          rw [UInt8.toNat_add]
          exact Nat.mod_eq_of_lt (by simp only [UInt8.reduceToNat]; omega)
        rw [← hnext] at hgrows
        rw [← hnext]
        exact ih (i + 1) frame' (by omega) (by omega) hgrows
    · have hge : vec.length ≤ i.toNat := Nat.not_lt.mp hlt
      rw [serializeRounds, List.getElem?_eq_none hge, List.drop_eq_nil_of_le hge]
      rfl

lemma result_serializeLoop (count i : ℕ) (frame : CECFrame) (h : i + count = vec.length) :
    (serializeLoop vec count i frame).result =
      (frame.appendBuf ((vec.drop i).flatMap CECBytes.str)).result := by
  induction count generalizing i frame with
  | zero =>
    rw [List.drop_eq_nil_of_le (by omega)]
    rfl
  | succ count ih =>
    have hlt : i < vec.length := by omega
    have hat : (vectorAt vec i).result = .ok (vec.getD i ⟨[]⟩) := rfl
    have hget : vec.getD i ⟨[]⟩ = vec[i] := by
      rw [List.getD_eq_getElem?_getD, List.getElem?_eq_getElem hlt, Option.getD_some]
    rw [serializeLoop, Logged.result_bind_of_ok hat, hget, List.drop_eq_getElem_cons hlt,
      List.flatMap_cons, CECFrame.appendBuf_append]
    exact Logged.result_bind_congr rfl fun frame' => ih (i + 1) frame' (by omega)

lemma result_serializeAll (frame : CECFrame) :
    (serializeAll vec frame).result =
      (frame.appendBuf (vec.flatMap CECBytes.str)).result :=
  result_serializeLoop vec.length 0 frame (Nat.zero_add _)

end

namespace ReportFeatures

variable {version : Version} {allDeviceTypes : AllDeviceTypes} {rcProfile : List RcProfile}
  {deviceFeatures : List DeviceFeatures}

/-- What the eight-bit counters need of a vector. -/
def Countable {c : OperandClass} (vec : List (CECBytes c)) : Prop :=
  vec.length ≤ 255 ∨ ∀ o ∈ vec, o.str ≠ []

lemma serializeRounds_of_countable {c : OperandClass} {vec : List (CECBytes c)}
    (h : Countable vec) {fuel : ℕ} (hfuel : vec.length < fuel) (frame : CECFrame) :
    serializeRounds vec fuel 0 frame =
      some (frame.appendBuf (vec.flatMap CECBytes.str)).result := by
  have hzero : (0 : UInt8).toNat = 0 := rfl
  have hwrap : vec.length ≤ 255 ∨
      (∀ o ∈ vec, o.str ≠ []) ∧ (0 : UInt8).toNat ≤ frame.length := by
    obtain hvec | hne := h
    · exact .inl hvec
    · exact .inr ⟨hne, Nat.zero_le _⟩
  rw [serializeRounds_eq fuel 0 frame (by omega) (by omega) hwrap, hzero, List.drop_zero]

/-- `serialize` appends the bytes of all operands in order, as far as they fit. -/
lemma serialize_eq (hrc : Countable rcProfile) (hdf : Countable deviceFeatures) {fuel : ℕ}
    (hfuel : rcProfile.length + deviceFeatures.length < fuel) (frame : CECFrame) :
    serialize fuel version allDeviceTypes rcProfile deviceFeatures frame =
      some (frame.appendBuf (Msg.operandBytes
        (.reportFeatures version allDeviceTypes rcProfile deviceFeatures))).result := by
  have hfront : version.serialize frame >>= allDeviceTypes.serialize =
      frame.appendBuf (version.str ++ allDeviceTypes.str) :=
    (CECFrame.appendBuf_append _ _ _).symm
  rw [serialize, hfront, Msg.operandBytes, ← List.append_assoc,
    CECFrame.appendBuf_append frame (version.str ++ allDeviceTypes.str)]
  cases hresult : (frame.appendBuf (version.str ++ allDeviceTypes.str)).result with
  | error e => rw [Logged.result_bind_of_error hresult]
  | ok frame =>
    rw [Logged.result_bind_of_ok hresult, CECFrame.appendBuf_append]
    dsimp only
    rw [serializeRounds_of_countable hrc (by omega)]
    cases hprofiles : (frame.appendBuf (rcProfile.flatMap CECBytes.str)).result with
    | error e => rw [Logged.result_bind_of_error hprofiles]
    | ok frame =>
      rw [Logged.result_bind_of_ok hprofiles]
      exact serializeRounds_of_countable hdf (by omega) frame

lemma result_serialize (frame : CECFrame) :
    (Msg.serialize (.reportFeatures version allDeviceTypes rcProfile deviceFeatures) frame).result =
      (frame.appendBuf (Msg.operandBytes
        (.reportFeatures version allDeviceTypes rcProfile deviceFeatures))).result := by
  rw [Msg.operandBytes, CECFrame.appendBuf_append, Msg.serialize]
  refine Logged.result_bind_congr rfl fun frame => ?_
  rw [CECFrame.appendBuf_append]
  refine Logged.result_bind_congr rfl fun frame => ?_
  rw [CECFrame.appendBuf_append]
  exact Logged.result_bind_congr (result_serializeAll frame) result_serializeAll

/-- With a byte in each operand the loops of `serialize` are the ones of `Msg.serialize`, whatever
the sizes of the vectors. -/
theorem serialize_eq_msg (hrc : ∀ o ∈ rcProfile, o.str ≠ [])
    (hdf : ∀ o ∈ deviceFeatures, o.str ≠ []) (frame : CECFrame) :
    ∃ fuel, serialize fuel version allDeviceTypes rcProfile deviceFeatures frame =
      some (Msg.serialize (.reportFeatures version allDeviceTypes rcProfile deviceFeatures)
        frame).result := by
  refine ⟨rcProfile.length + deviceFeatures.length + 1, ?_⟩
  rw [result_serialize]
  exact serialize_eq (.inr hrc) (.inr hdf) (Nat.lt_succ_self _) frame

/-- The constructor ends with both vectors copied, after one round for each operand, and `serialize`
then appends all of them or is refused by the frame, exactly when neither vector has more than 255
operands. -/
theorem construct_terminates_iff (version : Version) (allDeviceTypes : AllDeviceTypes)
    (rcProfile : List RcProfile) (deviceFeatures : List DeviceFeatures) :
    ((∃ fuel, construct fuel version allDeviceTypes rcProfile deviceFeatures =
        some (rcProfile.length + deviceFeatures.length,
          .reportFeatures version allDeviceTypes rcProfile deviceFeatures)) ∧
      ∀ frame : CECFrame, ∃ fuel r,
        serialize fuel version allDeviceTypes rcProfile deviceFeatures frame = some r ∧
        ((∃ h, r = .ok ⟨frame.bytes ++ (version.str ++ (allDeviceTypes.str ++
            (rcProfile.flatMap CECBytes.str ++ deviceFeatures.flatMap CECBytes.str))), h⟩) ∨
          r = .error (.outOfRange "Frame grows beyond maximum"))) ↔
      rcProfile.length ≤ 255 ∧ deviceFeatures.length ≤ 255 := by
  constructor
  · rintro ⟨⟨fuel, hends⟩, -⟩
    by_contra hsize
    have hlong : 256 ≤ rcProfile.length ∨ 256 ≤ deviceFeatures.length := by omega
    rw [construct_eq_none hlong] at hends
    cases hends
  · rintro ⟨hrc, hdf⟩
    refine ⟨⟨256, construct_eq hrc hdf⟩, ?_⟩
    intro frame
    refine ⟨_, _, serialize_eq (.inl hrc) (.inl hdf) (Nat.lt_succ_self _) frame, ?_⟩
    by_cases hfits : (frame.bytes ++ Msg.operandBytes
        (.reportFeatures version allDeviceTypes rcProfile deviceFeatures)).length ≤ 128
    · rw [CECFrame.appendBuf_of_le hfits]
      exact .inl ⟨hfits, rfl⟩
    · exact .inr (CECFrame.appendBuf_of_gt (Nat.not_le.mp hfits))

/-- 256 profiles: the constructor never ends. -/
theorem construct_never_ends :
    ¬ ∃ fuel n m, construct fuel (.ofByte 6) (.ofByte 0x10)
      (List.replicate 256 (.ofByte 0x02)) [.ofByte 0x01] = some (n, m) := by
  rintro ⟨fuel, n, m, hends⟩
  rw [construct_eq_none (.inl (by rw [List.length_replicate]))] at hends
  cases hends

end ReportFeatures

end HdmiCec
