import Mathlib.Data.Nat.Digits.Defs

/-!
# Numerals in base 16

What a number in base 16 looks like for the C function `strtol`: blanks, a sign and `0x` may stand
before the digits. `strtol` reads the longest prefix of a text that is a numeral. `scan` finds it
from left to right, and `scan_longest` says that it does.
-/

namespace Lib

/-- `t` is the longest prefix of `s` that satisfies `P`. -/
structure Longest {α : Type} (P : List α → Prop) (t s : List α) : Prop where
  isPrefix : t <+: s
  holds : P t
  longest : ∀ t', t' <+: s → P t' → t'.length ≤ t.length

lemma Longest.unique {α : Type} {P : List α → Prop} {t t' s : List α} (h : Longest P t s)
    (h' : Longest P t' s) : t = t' := by
  have hle := h'.longest t h.isPrefix h.holds
  have hprefix : t <+: t' := List.prefix_of_prefix_length_le h.isPrefix h'.isPrefix hle
  exact hprefix.eq_of_length_le (h.longest t' h'.isPrefix h'.holds)

namespace Numeral

/-! ### Numerals -/

/-- The blanks of the C locale. -/
def isSpace (c : Char) : Bool := c = ' ' || (9 ≤ c.toNat && c.toNat ≤ 13)

/-- The value of a digit in base 16. -/
def digitVal (c : Char) : Option ℕ :=
  if 48 ≤ c.toNat ∧ c.toNat ≤ 57 then some (c.toNat - 48)
  else if 97 ≤ c.toNat ∧ c.toNat ≤ 102 then some (c.toNat - 87)
  else if 65 ≤ c.toNat ∧ c.toNat ≤ 70 then some (c.toNat - 55)
  else none

def isDigit (c : Char) : Bool := (digitVal c).isSome

/-- The parts of a numeral. -/
structure Parts where
  space : List Char
  sign : List Char
  pre : List Char
  digits : List Char

def Parts.text (n : Parts) : List Char := n.space ++ (n.sign ++ (n.pre ++ n.digits))

structure Parts.WellFormed (n : Parts) : Prop where
  space : ∀ c ∈ n.space, isSpace c = true
  sign : n.sign = [] ∨ n.sign = ['+'] ∨ n.sign = ['-']
  pre : n.pre = [] ∨ n.pre = ['0', 'x'] ∨ n.pre = ['0', 'X']
  digits : ∀ c ∈ n.digits, isDigit c = true
  ne_nil : n.digits ≠ []

/-- The number that a numeral denotes. -/
def Parts.value (n : Parts) : ℤ :=
  let magnitude : ℕ := Nat.ofDigits 16 (n.digits.reverse.map fun c => (digitVal c).getD 0)
  if n.sign = ['-'] then -magnitude else magnitude

/-- A text that is a numeral. -/
def IsNumeral (t : List Char) : Prop := ∃ n : Parts, n.WellFormed ∧ n.text = t

/-! ### Scanning -/

/-- The sign at the beginning of a text. -/
def scanSign : List Char → List Char
  | '+' :: _ => ['+']
  | '-' :: _ => ['-']
  | _ => []

/-- The `0x` at the beginning of a text, which counts when a digit follows. -/
def scanPre : List Char → List Char
  | '0' :: x :: d :: _ => if (x = 'x' || x = 'X') && isDigit d then ['0', x] else []
  | _ => []

def scan (s : List Char) : Parts :=
  let space := s.takeWhile isSpace
  let s := s.dropWhile isSpace
  let sign := scanSign s
  let s := s.drop sign.length
  let pre := scanPre s
  let s := s.drop pre.length
  ⟨space, sign, pre, s.takeWhile isDigit⟩

lemma isPrefix_scanSign (s : List Char) : scanSign s <+: s := by
  unfold scanSign
  split
  · exact ⟨_, rfl⟩
  · exact ⟨_, rfl⟩
  · exact List.nil_prefix

lemma isPrefix_scanPre (s : List Char) : scanPre s <+: s := by
  unfold scanPre
  split
  · split
    · exact ⟨_, rfl⟩
    · exact List.nil_prefix
  · exact List.nil_prefix

lemma isPrefix_append {p t s : List Char} (hp : p <+: s) (ht : t <+: s.drop p.length) :
    p ++ t <+: s := by
  obtain ⟨u, rfl⟩ := hp
  rw [List.drop_left] at ht
  exact (List.prefix_append_right_inj p).mpr ht

/-- What is read is a prefix. -/
lemma isPrefix_scan (s : List Char) : (scan s).text <+: s := by
  have htail : (scan s).sign ++ ((scan s).pre ++ (scan s).digits) <+: s.dropWhile isSpace :=
    isPrefix_append (isPrefix_scanSign _)
      (isPrefix_append (isPrefix_scanPre _) ( List.takeWhile_prefix _))
  obtain ⟨u, hu⟩ := htail
  refine ⟨u, ?_⟩
  rw [Parts.text, List.append_assoc, hu]
  exact List.takeWhile_append_dropWhile

/-- What is read is a numeral as soon as there is a digit. -/
lemma wellFormed_scan {s : List Char} (h : (scan s).digits ≠ []) : (scan s).WellFormed where
  space := List.all_eq_true.mp List.all_takeWhile
  sign := by
    simp only [scan]
    unfold scanSign
    split <;> simp
  pre := by
    simp only [scan]
    unfold scanPre
    split
    · split
      · rename_i hx
        simp only [Bool.and_eq_true, Bool.or_eq_true, decide_eq_true_eq] at hx
        obtain ⟨rfl | rfl, -⟩ := hx
        · exact .inr (.inl rfl)
        · exact .inr (.inr rfl)
      · exact .inl rfl
    · exact .inl rfl
  digits := List.all_eq_true.mp List.all_takeWhile
  ne_nil := h

/-! ### The longest numeral -/

/-- A digit is neither a blank nor a sign nor the letter of `0x`. -/
lemma isDigit_excludes {c : Char} (h : isDigit c = true) :
    isSpace c = false ∧ c ≠ '+' ∧ c ≠ '-' ∧ c ≠ 'x' ∧ c ≠ 'X' := by
  have hrange : 48 ≤ c.toNat ∧ c.toNat ≤ 57 ∨ 97 ≤ c.toNat ∧ c.toNat ≤ 102 ∨
      65 ≤ c.toNat ∧ c.toNat ≤ 70 := by
    simp only [isDigit, digitVal] at h
    split_ifs at h with h₁ h₂ h₃
    · exact .inl h₁
    · exact .inr (.inl h₂)
    · exact .inr (.inr h₃)
    · cases h
  have hne : ∀ d : Char, ¬(48 ≤ d.toNat ∧ d.toNat ≤ 57 ∨ 97 ≤ d.toNat ∧ d.toNat ≤ 102 ∨
      65 ≤ d.toNat ∧ d.toNat ≤ 70) → c ≠ d := by
    rintro d hd rfl
    exact hd hrange
  refine ⟨?_, hne _ (by decide), hne _ (by decide), hne _ (by decide), hne _ (by decide)⟩
  rw [isSpace, Bool.or_eq_false_iff]
  refine ⟨decide_eq_false (hne _ (by decide)), ?_⟩
  simp only [Bool.and_eq_false_iff, decide_eq_false_iff_not]
  omega

/-- `0x` is read only before a digit. -/
lemma scanPre_cases (w : List Char) :
    scanPre w = [] ∨ ∃ x d rest, w = '0' :: x :: d :: rest ∧ (x = 'x' ∨ x = 'X') ∧
      isDigit d = true ∧ scanPre w = ['0', x] := by
  unfold scanPre
  split
  · split
    · rename_i x d rest hx
      simp only [Bool.and_eq_true, Bool.or_eq_true, decide_eq_true_eq] at hx
      exact .inr ⟨x, d, rest, rfl, hx.1, hx.2, rfl⟩
    · exact .inl rfl
  · exact .inl rfl

lemma scanSign_of_isDigit {d : Char} {w : List Char} (hd : isDigit d = true) :
    scanSign (d :: w) = [] := by
  obtain ⟨-, hplus, hminus, -⟩ := isDigit_excludes hd
  unfold scanSign
  split
  · rename_i h
    cases h
    exact absurd rfl hplus
  · rename_i h
    cases h
    exact absurd rfl hminus
  · rfl

variable {n : Parts}

/-- What stands behind the sign begins with a digit. -/
lemma Parts.WellFormed.exists_digit (h : n.WellFormed) (u : List Char) :
    ∃ d w, n.pre ++ (n.digits ++ u) = d :: w ∧ isDigit d = true := by
  obtain ⟨d, ds, hdigits⟩ := List.exists_cons_of_ne_nil h.ne_nil
  obtain hpre | hpre | hpre := h.pre
  · exact ⟨d, ds ++ u, by rw [hpre, hdigits]; rfl, h.digits d (by rw [hdigits]; simp)⟩
  · exact ⟨'0', 'x' :: (n.digits ++ u), by rw [hpre]; rfl, by decide⟩
  · exact ⟨'0', 'X' :: (n.digits ++ u), by rw [hpre]; rfl, by decide⟩

lemma Parts.WellFormed.scanSign_eq (h : n.WellFormed) (u : List Char) :
    scanSign (n.sign ++ (n.pre ++ (n.digits ++ u))) = n.sign := by
  obtain hsign | hsign | hsign := h.sign
  · obtain ⟨d, w, hw, hd⟩ := h.exists_digit u
    rw [hsign, List.nil_append, hw, scanSign_of_isDigit hd]
  · rw [hsign]
    rfl
  · rw [hsign]
    rfl

/-- The blanks end where the sign or the first digit stands. -/
lemma Parts.WellFormed.exists_nonspace (h : n.WellFormed) (u : List Char) :
    ∃ c w, n.sign ++ (n.pre ++ (n.digits ++ u)) = c :: w ∧ isSpace c = false := by
  obtain hsign | hsign | hsign := h.sign
  · obtain ⟨d, w, hw, hd⟩ := h.exists_digit u
    exact ⟨d, w, by rw [hsign, List.nil_append, hw], (isDigit_excludes hd).1⟩
  · exact ⟨'+', n.pre ++ (n.digits ++ u), by rw [hsign]; rfl, by decide⟩
  · exact ⟨'-', n.pre ++ (n.digits ++ u), by rw [hsign]; rfl, by decide⟩

/-- The `0x` and the digits that are read are not fewer. -/
lemma Parts.WellFormed.le_scanPre (h : n.WellFormed) (u : List Char) :
    let w := n.pre ++ (n.digits ++ u)
    let digits := (w.drop (scanPre w).length).takeWhile isDigit
    digits ≠ [] ∧ n.pre.length + n.digits.length ≤ (scanPre w).length + digits.length := by
  have hdigits : (n.digits ++ u).takeWhile isDigit = n.digits ++ u.takeWhile isDigit :=
    List.takeWhile_append_of_pos h.digits
  have hread : (n.digits ++ u).takeWhile isDigit ≠ [] ∧
      n.digits.length ≤ ((n.digits ++ u).takeWhile isDigit).length := by
    rw [hdigits, List.length_append]
    exact ⟨List.append_ne_nil_of_left_ne_nil h.ne_nil _, Nat.le_add_right _ _⟩
  obtain ⟨d, ds, hd⟩ := List.exists_cons_of_ne_nil h.ne_nil
  have hdigit : isDigit d = true := h.digits d (by rw [hd]; exact List.mem_cons_self)
  obtain hpre | hpre | hpre := h.pre
  · simp only [hpre, List.nil_append, List.length_nil, Nat.zero_add]
    obtain hscan | ⟨x, d', rest, hw, hx, hd', hscan⟩ := scanPre_cases (n.digits ++ u)
    · simp only [hscan, List.length_nil, List.drop_zero, Nat.zero_add]
      exact hread
    · -- the numeral is the zero of `0x`
      have hds : ds = [] := by
        cases ds with
        | nil => rfl
        | cons c cs =>
          rw [hd, List.cons_append, List.cons_append, List.cons.injEq, List.cons.injEq] at hw
          have hc : isDigit c = true := h.digits c (by rw [hd]; simp)
          obtain ⟨-, -, -, hlower, hupper⟩ := isDigit_excludes (hw.2.1 ▸ hc)
          exact absurd hx (not_or.mpr ⟨hlower, hupper⟩)
      rw [hscan, hw, hd, hds]
      simp only [List.length_cons, List.length_nil, List.drop_succ_cons, List.drop_zero,
        List.takeWhile_cons_of_pos hd']
      exact ⟨List.cons_ne_nil _ _, by omega⟩
  · have hscan : scanPre (['0', 'x'] ++ (n.digits ++ u)) = ['0', 'x'] := by
      rw [hd]
      simp [scanPre, hdigit]
    simp only [hpre, hscan]
    exact ⟨hread.1, Nat.add_le_add_left hread.2 _⟩
  · have hscan : scanPre (['0', 'X'] ++ (n.digits ++ u)) = ['0', 'X'] := by
      rw [hd]
      simp [scanPre, hdigit]
    simp only [hpre, hscan]
    exact ⟨hread.1, Nat.add_le_add_left hread.2 _⟩

/-- No numeral at the beginning of a text is longer than what is read. -/
lemma Parts.WellFormed.le_scan (h : n.WellFormed) (u : List Char) :
    (scan (n.text ++ u)).digits ≠ [] ∧ n.text.length ≤ (scan (n.text ++ u)).text.length := by
  have htext : n.text ++ u = n.space ++ (n.sign ++ (n.pre ++ (n.digits ++ u))) := by
    simp only [Parts.text, List.append_assoc]
  obtain ⟨c, w, hw, hc⟩ := h.exists_nonspace u
  have hspace : (n.text ++ u).takeWhile isSpace = n.space := by
    rw [htext, hw, List.takeWhile_append_of_pos h.space, List.takeWhile_cons_of_neg (by simp [hc]),
      List.append_nil]
  have hrest : (n.text ++ u).dropWhile isSpace = n.sign ++ (n.pre ++ (n.digits ++ u)) := by
    rw [htext, hw, List.dropWhile_append_of_pos h.space, List.dropWhile_cons_of_neg (by simp [hc])]
  obtain ⟨hne, hle⟩ := h.le_scanPre u
  have hscan : scan (n.text ++ u) = ⟨n.space, n.sign, scanPre (n.pre ++ (n.digits ++ u)),
      ((n.pre ++ (n.digits ++ u)).drop
        (scanPre (n.pre ++ (n.digits ++ u))).length).takeWhile isDigit⟩ := by
    simp only [scan, hspace, hrest, h.scanSign_eq, List.drop_left]
  rw [hscan]
  refine ⟨hne, ?_⟩
  simp only [Parts.text, List.length_append] at hle ⊢
  omega

/-- The scanner reads the longest numeral, if there is one. -/
theorem scan_longest {s : List Char} (h : (scan s).digits ≠ []) :
    Longest IsNumeral (scan s).text s where
  isPrefix := isPrefix_scan s
  holds := ⟨scan s, wellFormed_scan h, rfl⟩
  longest := by
    rintro t' ⟨u, rfl⟩ ⟨n, hn, rfl⟩
    exact (hn.le_scan u).2

lemma digits_ne_nil_of_longest {t s : List Char} (h : Longest IsNumeral t s) :
    (scan s).digits ≠ [] := by
  obtain ⟨u, rfl⟩ := h.isPrefix
  obtain ⟨n, hn, rfl⟩ := h.holds
  exact (hn.le_scan u).1

/-! ### The value -/

lemma digitVal_lt {c : Char} {v : ℕ} (h : digitVal c = some v) : v < 16 := by
  simp only [digitVal] at h
  split_ifs at h <;> cases h <;> omega

/-- A numeral of `k` digits is below `16 ^ k`. -/
lemma natAbs_value_lt (n : Parts) : n.value.natAbs < 16 ^ n.digits.length := by
  have hlt : Nat.ofDigits 16 (n.digits.reverse.map fun c => (digitVal c).getD 0) <
      16 ^ n.digits.length := by
    rw [← List.length_reverse, ← List.length_map]
    apply Nat.ofDigits_lt_base_pow_length (by decide)
    intro v hv
    obtain ⟨c, -, rfl⟩ := List.mem_map.mp hv
    cases hc : digitVal c with
    | none => simp
    | some v => exact digitVal_lt hc
  unfold Parts.value
  split
  · rwa [Int.natAbs_neg, Int.natAbs_natCast]
  · rwa [Int.natAbs_natCast]

end Numeral

end Lib
