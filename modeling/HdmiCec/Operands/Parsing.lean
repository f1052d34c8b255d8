import HdmiCec.Lib.Numeral
import HdmiCec.Operands.Basic

/-!
# Physical addresses as texts

The constructor of `PhysicalAddress` that takes a text, with the functions of the C++ standard
library that it uses, and what it makes of any text of the length that it asserts: a text is taken
apart into numbers as `std::stoi` reads them and single characters between them, whatever these are.
-/

namespace HdmiCec

open Lib Numeral

/-! ### The standard library -/

/-- `std::stoi(str, &pos, 16)`: the number and `pos`. -/
def stoi (str : List Char) : Ccec (ℤ × ℕ) :=
  let n := scan str
  if n.digits = [] then
    .raise (.invalidArgument "stoi")
  else if n.value < -2 ^ 31 ∨ 2 ^ 31 ≤ n.value then
    .raise (.outOfRange "stoi")
  else
    pure (n.value, n.text.length)

/-- `str.substr(pos)`. -/
def substr (str : List Char) (pos : ℕ) : Ccec (List Char) :=
  if pos > str.length then
    .raise (.outOfRange ("basic_string::substr: __pos (which is " ++ toString pos
      ++ ") > this->size() (which is " ++ toString str.length ++ ")"))
  else
    pure (str.drop pos)

/-! ### The constructor -/

namespace PhysicalAddress

/-- `while (addr.length() && i < 4)`, with `left` elements of the array `byte` still to come, those
in `byte` assigned, and `addr` the caller's string. -/
def addressLoop : (left : ℕ) → (addr : List Char) → (byte : List UInt8) →
    Ccec (List UInt8 × List Char)
  | 0, addr, byte => pure (byte, addr)
  | left + 1, addr, byte =>
    if addr.length ≠ 0 then do
      let (value, dotposition) ← stoi addr
      let byte := byte ++ [UInt8.ofInt value]
      if addr.length > 1 then do
        let addr ← substr addr (dotposition + 1)
        addressLoop left addr byte
      else
        pure (byte, addr)
    else
      pure (byte, addr)

/-- `byte[i]`. The elements that have not been assigned hold what is `indeterminate`. -/
def elementAt (indeterminate : ℕ → UInt8) (byte : List UInt8) (i : ℕ) : Ccec UInt8 := do
  .emit (.subscript i byte.length)
  pure (byte.getD i (indeterminate i))

/-- `PhysicalAddress(addr)`: the address, and what is left of the caller's string. -/
def ofString (indeterminate : ℕ → UInt8) (addr : String) : Ccec (PhysicalAddress × String) := do
  assert (addr.length ≠ 0 && addr.length = 7)
  let (byte, addr) ← addressLoop 4 addr.toList []
  let byte0 ← elementAt indeterminate byte 0
  let byte1 ← elementAt indeterminate byte 1
  let byte2 ← elementAt indeterminate byte 2
  let byte3 ← elementAt indeterminate byte 3
  pure (⟨[(byte0 &&& 0x0F) <<< 4 ||| (byte1 &&& 0x0F), (byte2 &&& 0x0F) <<< 4 ||| (byte3 &&& 0x0F)]⟩,
    String.ofList addr)

end PhysicalAddress

/-! ### What the texts look like -/

/-- Four digits with dots between them. -/
def Dotted (s : List Char) : Prop :=
  ∃ a b c d, s = [a, '.', b, '.', c, '.', d] ∧ isDigit a = true ∧ isDigit b = true ∧
    isDigit c = true ∧ isDigit d = true

lemma Dotted.exists_values {s : List Char} (h : Dotted s) :
    ∃ a b c d va vb vc vd, s = [a, '.', b, '.', c, '.', d] ∧ digitVal a = some va ∧
      digitVal b = some vb ∧ digitVal c = some vc ∧ digitVal d = some vd := by
  obtain ⟨a, b, c, d, hs, ha, hb, hc, hd⟩ := h
  obtain ⟨va, ha⟩ := Option.isSome_iff_exists.mp ha
  obtain ⟨vb, hb⟩ := Option.isSome_iff_exists.mp hb
  obtain ⟨vc, hc⟩ := Option.isSome_iff_exists.mp hc
  obtain ⟨vd, hd⟩ := Option.isSome_iff_exists.mp hd
  exact ⟨a, b, c, d, va, vb, vc, vd, hs, ha, hb, hc, hd⟩

/-- Numerals with one character of any kind after each of them; the last one may be a single digit
without it. A numeral is as long as it can be. -/
inductive Fields : List Char → Prop
  | digit {c : Char} : isDigit c = true → Fields [c]
  | last {t s : List Char} {c : Char} : s = t ++ [c] → Longest IsNumeral t s → Fields s
  | more {t rest s : List Char} {c : Char} : s = t ++ c :: rest → Longest IsNumeral t s →
      Fields rest → Fields s

/-! ### Reading a number -/

lemma IsNumeral.ne_nil {t : List Char} (h : IsNumeral t) : t ≠ [] := by
  obtain ⟨n, hn, rfl⟩ := h
  simp only [Parts.text]
  simp [hn.ne_nil]

/-- A numeral of one character is a digit. -/
lemma isDigit_of_isNumeral {c : Char} (h : IsNumeral [c]) : isDigit c = true := by
  obtain ⟨n, hn, htext⟩ := h
  obtain ⟨d, ds, hd⟩ := List.exists_cons_of_ne_nil hn.ne_nil
  have hlen := congrArg List.length htext
  simp only [Parts.text, hd, List.length_append, List.length_cons, List.length_nil] at hlen
  have hspace : n.space = [] := List.length_eq_zero_iff.mp (by omega)
  have hsign : n.sign = [] := List.length_eq_zero_iff.mp (by omega)
  have hpre : n.pre = [] := List.length_eq_zero_iff.mp (by omega)
  simp only [Parts.text, hspace, hsign, hpre, List.nil_append] at htext
  exact hn.digits c (by rw [htext]; exact List.mem_singleton_self c)

variable {s t : List Char}

/-- In a short text `stoi` reads the longest numeral. -/
lemma stoi_eq (hlen : s.length ≤ 7) (h : Longest IsNumeral t s) :
    stoi s = pure ((scan s).value, t.length) := by
  have hne := digits_ne_nil_of_longest h
  obtain rfl := h.unique (scan_longest hne)
  -- seven digits fit into an `int`
  have hdigits : (scan s).digits.length ≤ 7 := by
    have hle := (isPrefix_scan s).length_le
    simp only [Parts.text, List.length_append] at hle
    omega
  have hvalue : (scan s).value.natAbs < 2 ^ 31 :=
    calc (scan s).value.natAbs < 16 ^ (scan s).digits.length := natAbs_value_lt _
      _ ≤ 16 ^ 7 := Nat.pow_le_pow_right (by decide) hdigits
      _ < 2 ^ 31 := by decide
  simp only [stoi, if_neg hne]
  rw [if_neg (by omega)]

/-- Without a numeral at the beginning `stoi` raises. -/
lemma stoi_raises (h : ∀ t, ¬ Longest IsNumeral t s) :
    stoi s = .raise (.invalidArgument "stoi") := by
  rw [stoi]
  exact if_pos (by_contra fun hne => h _ (scan_longest hne))

/-- A digit before a character that does not belong to a numeral is a numeral. -/
lemma scan_digit {a : Char} (ha : isDigit a = true) {rest : List Char}
    (hrest : ∀ c ∈ rest.head?, isDigit c = false ∧ c ≠ 'x' ∧ c ≠ 'X') :
    scan (a :: rest) = ⟨[], [], [], [a]⟩ := by
  have hspace : isSpace a = false := (isDigit_excludes ha).1
  have hpre : scanPre (a :: rest) = [] := by
    obtain h | ⟨x, d, tail, hw, hx, -⟩ := scanPre_cases (a :: rest)
    · exact h
    · rw [List.cons.injEq] at hw
      obtain ⟨-, hlower, hupper⟩ := hrest x (by rw [hw.2]; rfl)
      exact absurd hx (not_or.mpr ⟨hlower, hupper⟩)
  have hdigits : rest.takeWhile isDigit = [] := by
    cases rest with
    | nil => rfl
    | cons c tail => exact List.takeWhile_cons_of_neg (by simp [(hrest c rfl).1])
  simp [scan, hspace, scanSign_of_isDigit ha, hpre, ha, hdigits]

lemma longest_digit {a : Char} (ha : isDigit a = true) {rest : List Char}
    (hrest : ∀ c ∈ rest.head?, isDigit c = false ∧ c ≠ 'x' ∧ c ≠ 'X') :
    Longest IsNumeral [a] (a :: rest) := by
  have hscan := scan_digit ha hrest
  have hlongest := scan_longest (s := a :: rest) (by rw [hscan]; exact List.cons_ne_nil _ _)
  rw [hscan] at hlongest
  exact hlongest

/-! ### Taking a text apart -/

lemma Fields.exists_longest (h : Fields s) : ∃ t, Longest IsNumeral t s := by
  cases h with
  | digit hc => exact ⟨_, longest_digit hc (by simp)⟩
  | last _ ht => exact ⟨_, ht⟩
  | more _ ht _ => exact ⟨_, ht⟩

lemma fields_singleton_iff {c : Char} : Fields [c] ↔ IsNumeral [c] := by
  constructor
  · intro h
    obtain ⟨t, ht⟩ := h.exists_longest
    have hpos := List.length_pos_iff.mpr (IsNumeral.ne_nil ht.holds)
    have heq : t = [c] := ht.isPrefix.eq_of_length_le hpos
    exact heq ▸ ht.holds
  · intro h
    exact .digit (isDigit_of_isNumeral h)

/-- A numeral that is not the whole text needs a character after it, and then nothing or more of the
same. -/
lemma fields_append_iff {c : Char} {rest : List Char} (h : Longest IsNumeral t (t ++ c :: rest)) :
    Fields (t ++ c :: rest) ↔ rest = [] ∨ Fields rest := by
  have hne := IsNumeral.ne_nil h.holds
  constructor
  · generalize hs : t ++ c :: rest = s at h
    intro hfields
    cases hfields with
    | digit hc =>
      have hlen := congrArg List.length hs
      simp only [List.length_append, List.length_cons, List.length_nil] at hlen
      have := List.length_pos_iff.mpr hne
      omega
    | last hs' ht =>
      obtain rfl := ht.unique h
      rw [hs', List.append_cancel_left_eq, List.cons.injEq] at hs
      exact .inl hs.2
    | more hs' ht hrest =>
      obtain rfl := ht.unique h
      rw [hs', List.append_cancel_left_eq, List.cons.injEq] at hs
      exact .inr (hs.2 ▸ hrest)
  · rintro (rfl | hrest)
    · exact .last rfl h
    · exact .more rfl h hrest

/-- A longer text that is one numeral leaves nothing to go on with. -/
lemma not_fields_of_longest (h : Longest IsNumeral s s) (hlen : 1 < s.length) : ¬ Fields s := by
  intro hfields
  cases hfields with
  | digit => simp at hlen
  | last hs ht =>
    have := congrArg List.length (hs.trans (congrArg (· ++ _) (ht.unique h)))
    simp at this
  | more hs ht =>
    have := congrArg List.length (hs.trans (congrArg (· ++ _) (ht.unique h)))
    simp at this

namespace PhysicalAddress

variable {left : ℕ} {addr : List Char}

lemma addressLoop_nil (byte : List UInt8) : addressLoop left [] byte = pure (byte, []) := by
  cases left with
  | zero => rfl
  | succ left => rfl

/-- The round of the loop that reads a numeral with a character after it. -/
lemma addressLoop_append {c : Char} {rest : List Char} (left : ℕ) (byte : List UInt8)
    (hlen : (t ++ c :: rest).length ≤ 7) (h : Longest IsNumeral t (t ++ c :: rest)) :
    addressLoop (left + 1) (t ++ c :: rest) byte =
      addressLoop left rest (byte ++ [UInt8.ofInt (scan (t ++ c :: rest)).value]) := by
  have hpos := List.length_pos_iff.mpr (IsNumeral.ne_nil h.holds)
  have hlong : (t ++ c :: rest).length > 1 := by
    simp only [List.length_append, List.length_cons]
    omega
  have hsubstr : substr (t ++ c :: rest) (t.length + 1) = pure rest := by
    rw [substr, if_neg (by simp), List.append_cons]
    rw [List.drop_left' (by simp)]
  rw [addressLoop, if_pos (by omega), stoi_eq hlen h, pure_bind]
  simp only [if_pos hlong, hsubstr, pure_bind]

/-- The loop comes to its end exactly on the texts that are made of such fields. -/
lemma addressLoop_returns_iff (left : ℕ) (byte : List UInt8) (hne : addr ≠ [])
    (hleft : addr.length + 1 ≤ 2 * left) (hlen : addr.length ≤ 7) :
    (∃ r, (addressLoop left addr byte).result = .ok r) ↔ Fields addr := by
  induction left generalizing addr byte with
  | zero => omega
  | succ left ih =>
    have hpos := List.length_pos_iff.mpr hne
    by_cases hnum : ∃ t, Longest IsNumeral t addr
    · obtain ⟨t, ht⟩ := hnum
      have htpos := List.length_pos_iff.mpr (IsNumeral.ne_nil ht.holds)
      obtain ⟨tail, rfl⟩ := ht.isPrefix
      cases tail with
      | nil =>
        rw [List.append_nil] at *
        by_cases hlong : t.length > 1
        · -- the whole text is a numeral, and there is no character to skip
          refine iff_of_false ?_ (not_fields_of_longest ht hlong)
          rintro ⟨r, hr⟩
          rw [addressLoop, if_pos (by omega), stoi_eq hlen ht, pure_bind] at hr
          simp only [if_pos hlong] at hr
          rw [substr, if_pos (by omega)] at hr
          cases hr
        · obtain ⟨c, rfl⟩ := List.length_eq_one_iff.mp (show t.length = 1 by omega)
          refine iff_of_true ?_ (fields_singleton_iff.mpr ht.holds)
          rw [addressLoop, if_pos (by omega), stoi_eq hlen ht, pure_bind]
          exact ⟨_, rfl⟩
      | cons c rest =>
        rw [addressLoop_append left byte hlen ht, fields_append_iff ht]
        rw [List.length_append, List.length_cons] at hleft hlen
        cases rest with
        | nil => exact iff_of_true ⟨_, by rw [addressLoop_nil]; rfl⟩ (.inl rfl)
        | cons d ds =>
          rw [ih _ (List.cons_ne_nil d ds) (by omega) (by omega)]
          simp
    · refine iff_of_false ?_ fun h => hnum h.exists_longest
      rintro ⟨r, hr⟩
      rw [addressLoop, if_pos (by omega), stoi_raises (not_exists.mp hnum)] at hr
      cases hr

/-! ### The address -/

/-- `stoi` on a digit with a dot or nothing after it. -/
lemma value_scan_digit {a : Char} {va : ℕ} (ha : digitVal a = some va) {rest : List Char}
    (hrest : ∀ c ∈ rest.head?, isDigit c = false ∧ c ≠ 'x' ∧ c ≠ 'X') :
    (scan (a :: rest)).value = va := by
  rw [scan_digit (by simp [isDigit, ha]) hrest]
  simp [Parts.value, ha]

/-- The round of the loop that reads a digit with a dot after it. -/
lemma addressLoop_dot {a : Char} {va : ℕ} (ha : digitVal a = some va) {rest : List Char}
    (hlen : (a :: '.' :: rest).length ≤ 7) (byte : List UInt8) :
    addressLoop (left + 1) (a :: '.' :: rest) byte =
      addressLoop left rest (byte ++ [UInt8.ofInt va]) := by
  have hdot : ∀ c ∈ ('.' :: rest).head?, isDigit c = false ∧ c ≠ 'x' ∧ c ≠ 'X' := by
    rintro c ⟨⟩
    decide
  have hlongest := longest_digit (a := a) (by simp [isDigit, ha]) hdot
  have hloop := addressLoop_append (t := [a]) left byte hlen hlongest
  rw [← value_scan_digit ha hdot]
  exact hloop

/-- Four digits with dots between them are the four elements. -/
lemma addressLoop_dotted {a b c d : Char} {va vb vc vd : ℕ} (ha : digitVal a = some va)
    (hb : digitVal b = some vb) (hc : digitVal c = some vc) (hd : digitVal d = some vd) :
    addressLoop 4 [a, '.', b, '.', c, '.', d] [] =
      pure ([UInt8.ofInt va, UInt8.ofInt vb, UInt8.ofInt vc, UInt8.ofInt vd], [d]) := by
  have hlongest : Longest IsNumeral [d] [d] := longest_digit (by simp [isDigit, hd]) (by simp)
  rw [addressLoop_dot ha (by simp), addressLoop_dot hb (by simp), addressLoop_dot hc (by simp),
    addressLoop, if_pos (by simp), stoi_eq (by simp) hlongest, pure_bind,
    value_scan_digit hd (by simp)]
  rfl

/-- Two digits in a byte. -/
lemma pack_digits {x y : ℕ} (hx : x < 16) (hy : y < 16) :
    (UInt8.ofInt x &&& 0x0F) <<< 4 ||| (UInt8.ofInt y &&& 0x0F) = UInt8.ofNat (16 * x + y) := by
  have hall : ∀ x y : Fin 16, (UInt8.ofInt (x : ℕ) &&& 0x0F) <<< 4 ||| (UInt8.ofInt (y : ℕ) &&& 0x0F) =
      UInt8.ofNat (16 * x + y) := by decide
  exact hall ⟨x, hx⟩ ⟨y, hy⟩

variable {indeterminate : ℕ → UInt8} {str : String}

/-- A text of four digits with dots between them gives the address of these digits, and all the
elements that are read are assigned. -/
lemma ofString_dotted (indeterminate : ℕ → UInt8) {a b c d : Char} {va vb vc vd : ℕ}
    (hstr : str.toList = [a, '.', b, '.', c, '.', d]) (ha : digitVal a = some va)
    (hb : digitVal b = some vb) (hc : digitVal c = some vc) (hd : digitVal d = some vd) :
    ofString indeterminate str =
      ⟨.ok (⟨[UInt8.ofNat (16 * va + vb), UInt8.ofNat (16 * vc + vd)]⟩, String.ofList [d]),
        [.subscript 0 4, .subscript 1 4, .subscript 2 4, .subscript 3 4]⟩ := by
  have hlen : str.length = 7 := by
    rw [← String.length_toList, hstr]
    rfl
  rw [← pack_digits (digitVal_lt ha) (digitVal_lt hb), ← pack_digits (digitVal_lt hc) (digitVal_lt hd),
    ofString, hstr, addressLoop_dotted ha hb hc hd, hlen]
  rfl

/-- Nothing is read of the array while the loop runs. -/
lemma all_addressLoop {P : Event → Prop} (byte : List UInt8) : (addressLoop left addr byte).All P := by
  induction left generalizing addr byte with
  | zero => exact Logged.all_pure _
  | succ left ih =>
    have hstoi : (stoi addr).All P := by
      unfold stoi
      dsimp only
      split_ifs <;> simp
    have hsubstr : ∀ pos, (substr addr pos).All P := by
      intro pos
      unfold substr
      split_ifs <;> simp
    rw [addressLoop]
    by_cases hempty : addr.length ≠ 0
    · rw [if_pos hempty, Logged.all_bind]
      refine ⟨hstoi, ?_⟩
      rintro ⟨value, dotposition⟩ -
      dsimp only
      split
      · exact Logged.all_bind.mpr ⟨hsubstr _, fun rest _ => ih _⟩
      · exact Logged.all_pure _
    · rw [if_neg hempty]
      exact Logged.all_pure _

/-- A text that the loop does not get through makes the constructor raise, before it reads the
array. -/
lemma ofString_raises (indeterminate : ℕ → UInt8) {e : Exn} (hlen : str.length = 7)
    (h : (addressLoop 4 str.toList []).result = .error e) :
    (ofString indeterminate str).result = .error e ∧
      ∀ P : Event → Prop, (ofString indeterminate str).All P := by
  have hassert : assert (str.length ≠ 0 && str.length = 7) = pure () := by
    rw [hlen]
    rfl
  rw [ofString, hassert, pure_bind]
  refine ⟨Logged.result_bind_of_error h, fun P => Logged.all_bind.mpr ⟨all_addressLoop _, ?_⟩⟩
  intro r hr
  rw [h] at hr
  cases hr

lemma ofString_returns {r : List UInt8 × List Char} (hlen : str.length = 7)
    (h : (addressLoop 4 str.toList []).result = .ok r) :
    ∃ r, (ofString indeterminate str).result = .ok r := by
  have hassert : assert (str.length ≠ 0 && str.length = 7) = pure () := by
    rw [hlen]
    rfl
  rw [ofString, hassert, pure_bind, Logged.result_bind_of_ok h]
  exact ⟨_, rfl⟩

/-- The constructor, on any text of seven characters: it accepts the text exactly when this is four
digits with dots between them, packs these digits, and reads no element that is not assigned. This
holds of the texts that are of this form, and of those that do not fall apart into numerals with one
character of any kind after each. -/
theorem ofString_grammar_iff (indeterminate : ℕ → UInt8) {str : String} (hlen : str.length = 7) :
    (((∃ r, (ofString indeterminate str).result = .ok r) ↔ Dotted str.toList) ∧
      (∀ a b c d va vb vc vd, str.toList = [a, '.', b, '.', c, '.', d] → digitVal a = some va →
        digitVal b = some vb → digitVal c = some vc → digitVal d = some vd →
        ∃ left, (ofString indeterminate str).result =
          .ok (⟨[UInt8.ofNat (16 * va + vb), UInt8.ofNat (16 * vc + vd)]⟩, left)) ∧
      ∀ i n, .subscript i n ∈ (ofString indeterminate str).log → i < n) ↔
    Dotted str.toList ∨ ¬ Fields str.toList := by
  have hlist : str.toList.length = 7 := String.length_toList.trans hlen
  have hne : str.toList ≠ [] := List.ne_nil_of_length_pos (by omega)
  have hfields := addressLoop_returns_iff 4 [] hne (by omega) (by omega)
  constructor
  · rintro ⟨hgrammar, -⟩
    by_cases h : Fields str.toList
    · obtain ⟨r, hr⟩ := hfields.mpr h
      exact .inl (hgrammar.mp (ofString_returns hlen hr))
    · exact .inr h
  · intro h
    have hpack : ∀ a b c d va vb vc vd, str.toList = [a, '.', b, '.', c, '.', d] →
        digitVal a = some va → digitVal b = some vb → digitVal c = some vc →
        digitVal d = some vd → ∃ left, (ofString indeterminate str).result =
          .ok (⟨[UInt8.ofNat (16 * va + vb), UInt8.ofNat (16 * vc + vd)]⟩, left) := by
      intro a b c d va vb vc vd hstr ha hb hc hd
      exact ⟨_, by rw [ofString_dotted indeterminate hstr ha hb hc hd]⟩
    by_cases hdotted : Dotted str.toList
    · obtain ⟨a, b, c, d, va, vb, vc, vd, hstr, ha, hb, hc, hd⟩ := hdotted.exists_values
      have heq := ofString_dotted indeterminate hstr ha hb hc hd
      refine ⟨iff_of_true ⟨_, by rw [heq]⟩ hdotted, hpack, ?_⟩
      intro i n hi
      rw [heq] at hi
      simp only [List.mem_cons, Event.subscript.injEq, List.not_mem_nil, or_false] at hi
      omega
    · have hnot : ¬ Fields str.toList := h.resolve_left hdotted
      obtain ⟨e, he⟩ : ∃ e, (addressLoop 4 str.toList []).result = .error e := by
        cases hr : (addressLoop 4 str.toList []).result with
        | ok r => exact absurd (hfields.mp ⟨r, hr⟩) hnot
        | error e => exact ⟨e, rfl⟩
      obtain ⟨hresult, hall⟩ := ofString_raises indeterminate hlen he
      refine ⟨iff_of_false ?_ hdotted, hpack, ?_⟩
      · rintro ⟨r, hr⟩
        rw [hresult] at hr
        cases hr
      · intro i n hi
        exact (hall (fun _ => False) _ hi).elim

/-- Digits of both kinds. -/
theorem ofString_grammar_letters :
    ∃ left, (ofString (fun _ => 0) "1.a.0.F").result = .ok (⟨[0x1A, 0x0F]⟩, left) :=
  ((ofString_grammar_iff (fun _ => 0) (show "1.a.0.F".length = 7 from rfl)).mpr
    (.inl ⟨'1', 'a', '0', 'F', rfl, rfl, rfl, rfl, rfl⟩)).2.1 '1' 'a' '0' 'F' 1 10 0 15 rfl rfl rfl
    rfl rfl

/-- Three numbers fill three elements, and the address is made from what is in the place of the
fourth. -/
theorem ofString_element_unassigned :
    ¬ Dotted "12.3.4.".toList ∧
      (ofString (fun _ => 0) "12.3.4.").result = .ok (⟨[0x23, 0x40]⟩, "") ∧
      (ofString (fun _ => 7) "12.3.4.").result = .ok (⟨[0x23, 0x47]⟩, "") ∧
      .subscript 3 3 ∈ (ofString (fun _ => 0) "12.3.4.").log := by
  refine ⟨?_, by decide, by decide, by decide⟩
  rintro ⟨a, b, c, d, h, -⟩
  have hlist : "12.3.4.".toList = ['1', '2', '.', '3', '.', '4', '.'] := rfl
  rw [hlist] at h
  simp at h

/-! ### Printing and parsing -/

set_option maxRecDepth 4000 in
private lemma digits_table : ∀ i : Fin 256,
    ((UInt8.ofNat i.val &&& 0xF0) >>> 4).toNat = i.val / 16 ∧
      (UInt8.ofNat i.val &&& 0x0F).toNat = i.val % 16 := by decide

/-- The two digits of a byte. -/
lemma toNat_digits (b : UInt8) :
    ((b &&& 0xF0) >>> 4).toNat = b.toNat / 16 ∧ (b &&& 0x0F).toNat = b.toNat % 16 := by
  simpa using digits_table ⟨b.toNat, b.toNat_lt⟩

/-- A number below 16 in decimal. -/
lemma toList_repr {n : ℕ} (h : n < 16) :
    (Nat.repr n).toList = if n ≤ 9 then [Char.ofNat (48 + n)] else ['1', Char.ofNat (38 + n)] := by
  have hall : ∀ n : Fin 16, (Nat.repr n.val).toList =
      if n.val ≤ 9 then [Char.ofNat (48 + n.val)] else ['1', Char.ofNat (38 + n.val)] := by decide
  exact hall ⟨n, h⟩

lemma length_repr {n : ℕ} (h : n < 16) : (Nat.repr n).length = if n ≤ 9 then 1 else 2 := by
  rw [← String.length_toList, toList_repr h]
  split <;> rfl

lemma digitVal_decimal {n : ℕ} (h : n ≤ 9) : digitVal (Char.ofNat (48 + n)) = some n := by
  have hall : ∀ n : Fin 10, digitVal (Char.ofNat (48 + n.val)) = some n.val := by decide
  exact hall ⟨n, by omega⟩

/-- What `toString` prints. -/
def decimalText (b₀ b₁ : UInt8) : String :=
  Nat.repr (b₀.toNat / 16) ++ "." ++ Nat.repr (b₀.toNat % 16) ++ "." ++
    Nat.repr (b₁.toNat / 16) ++ "." ++ Nat.repr (b₁.toNat % 16)

lemma result_toString (b₀ b₁ : UInt8) :
    (toString ⟨[b₀, b₁]⟩).result = .ok (decimalText b₀ b₁) := by
  rw [decimalText, ← (toNat_digits b₀).1, ← (toNat_digits b₀).2, ← (toNat_digits b₁).1,
    ← (toNat_digits b₁).2]
  rfl

lemma length_decimalText (b₀ b₁ : UInt8) :
    (decimalText b₀ b₁).length = (if b₀.toNat / 16 ≤ 9 then 1 else 2) +
      (if b₀.toNat % 16 ≤ 9 then 1 else 2) + (if b₁.toNat / 16 ≤ 9 then 1 else 2) +
      (if b₁.toNat % 16 ≤ 9 then 1 else 2) + 3 := by
  have h₀ := b₀.toNat_lt
  have h₁ := b₁.toNat_lt
  have hdot : ".".length = 1 := rfl
  simp only [decimalText, String.length_append, hdot]
  rw [length_repr (by omega), length_repr (by omega), length_repr (by omega), length_repr (by omega)]
  omega

lemma toList_decimalText {b₀ b₁ : UInt8} (h₀ : b₀.toNat / 16 ≤ 9) (h₁ : b₀.toNat % 16 ≤ 9)
    (h₂ : b₁.toNat / 16 ≤ 9) (h₃ : b₁.toNat % 16 ≤ 9) :
    (decimalText b₀ b₁).toList = [Char.ofNat (48 + b₀.toNat / 16), '.',
      Char.ofNat (48 + b₀.toNat % 16), '.', Char.ofNat (48 + b₁.toNat / 16), '.',
      Char.ofNat (48 + b₁.toNat % 16)] := by
  have hdot : ".".toList = ['.'] := rfl
  simp only [decimalText, String.toList_append, hdot]
  rw [toList_repr (by omega), toList_repr (by omega), toList_repr (by omega), toList_repr (by omega),
    if_pos h₀, if_pos h₁, if_pos h₂, if_pos h₃]
  rfl

/-- A text of another length stops the process. -/
lemma ofString_abort (h : str.length ≠ 7) : (ofString indeterminate str).result = .error .abort := by
  have hassert : assert (str.length ≠ 0 && str.length = 7) = .raise .abort := by
    simp [assert, h]
  rw [ofString, hassert]
  rfl

/-- Printing an address and parsing the text gives the address back exactly when its four digits are
decimal digits: they are printed in base 10, read in base 16, and the length of the text is
asserted. -/
theorem ofString_toString_iff (indeterminate : ℕ → UInt8) (b₀ b₁ : UInt8) :
    (∃ str left, (toString ⟨[b₀, b₁]⟩).result = .ok str ∧
      (ofString indeterminate str).result = .ok (⟨[b₀, b₁]⟩, left)) ↔
    b₀.toNat / 16 ≤ 9 ∧ b₀.toNat % 16 ≤ 9 ∧ b₁.toNat / 16 ≤ 9 ∧ b₁.toNat % 16 ≤ 9 := by
  constructor
  · rintro ⟨str, left, hprint, hparse⟩
    rw [result_toString, Except.ok.injEq] at hprint
    subst hprint
    by_contra hdigits
    rw [ofString_abort] at hparse
    · cases hparse
    · rw [length_decimalText]
      split_ifs <;> omega
  · rintro ⟨h₀, h₁, h₂, h₃⟩
    refine ⟨_, String.ofList [Char.ofNat (48 + b₁.toNat % 16)], result_toString b₀ b₁, ?_⟩
    rw [ofString_dotted indeterminate (toList_decimalText h₀ h₁ h₂ h₃) (digitVal_decimal h₀) (digitVal_decimal h₁)
      (digitVal_decimal h₂) (digitVal_decimal h₃), Nat.div_add_mod, Nat.div_add_mod,
      UInt8.ofNat_toNat, UInt8.ofNat_toNat]

/-- An address with a digit above 9 is printed in eight characters, and the text is not accepted. -/
theorem ofString_toString_ten :
    (toString ⟨[0x1A, 0x00]⟩).result = .ok "1.10.0.0" ∧
      (ofString (fun _ => 0) "1.10.0.0").result = .error .abort :=
  ⟨by decide, by decide⟩

end PhysicalAddress

end HdmiCec
