import ChipEight.Nibble
import ChipEight.Proofs.Text.Lower
import ChipEight.Text.Numbers
import Mathlib.Data.Nat.Digits.Lemmas
import Mathlib.Tactic.IntervalCases

/-!
# How whole numbers are written

A number is written in many ways: with zeros in front, with a sign, in another base, and in letters
of either case. What follows says which texts write a number, without regard to any bound, and then
that reading gives the number that is written, or tells that it is too large.

Nothing is ever cut off. Since more digits never make a number smaller, the number is too large as
soon as some of its digits are, and reading stops there with a fault.
-/

namespace ChipEight

namespace Whole

/-! ## Written numbers -/

/-- A character is the digit of a value, in either case of its letters. -/
def IsDigit (base d : ℕ) (c : Char) : Prop :=
  d < base ∧ (c = Nat.digitChar d ∨ c = (Nat.digitChar d).toUpper)

/-- Characters are the digits of a number, one at least and the most significant first. A zero in
front is a digit like any other. -/
def IsNumeral (base n : ℕ) (cs : List Char) : Prop :=
  cs ≠ [] ∧ ∃ ds, List.Forall₂ (IsDigit base) ds cs ∧ Nat.ofDigits base ds.reverse = n

/-- A numeral with at most one `+` in front. -/
def IsSigned (base n : ℕ) (cs : List Char) : Prop :=
  IsNumeral base n cs ∨ ∃ digits, cs = '+' :: digits ∧ IsNumeral base n digits

/-- A number is written in decimal, or in hexadecimal behind the mark. -/
inductive Writes (n : ℕ) (cs : List Char) : Prop
  | decimal (h : IsSigned 10 n cs)
  | hexadecimal {x : Char} {digits : List Char} (hx : x = 'x' ∨ x = 'X')
      (hcs : cs = '0' :: x :: digits) (h : IsSigned 16 n digits)

variable {base bound n v d : ℕ} {c : Char} {cs : List Char} {ds : List ℕ}

/-! ## Digits -/

theorem digit?_of_isDigit (hbase : base ≤ 16) (h : IsDigit base d c) : digit? base c = some d := by
  obtain ⟨hd, hc⟩ := h
  have hvalue : ∀ d < 16, digit? 16 (Nat.digitChar d) = some d ∧
      digit? 16 (Nat.digitChar d).toUpper = some d := by
    decide
  have hsixteen : digit? 16 c = some d := by
    obtain ⟨hlower, hupper⟩ := hvalue d (Nat.lt_of_lt_of_le hd hbase)
    rcases hc with rfl | rfl
    · exact hlower
    · exact hupper
  obtain ⟨hread, -⟩ := Option.filter_eq_some_iff.mp hsixteen
  exact Option.filter_eq_some_iff.mpr ⟨hread, decide_eq_true hd⟩

theorem isDigit_of_digit? (h : digit? base c = some d) : IsDigit base d c := by
  obtain ⟨hread, hd⟩ := Option.filter_eq_some_iff.mp h
  have hsmall : c.toNat < 128 ∧ d < 16 := by
    simp only [Char.le_def, UInt32.le_iff_toNat_le] at hread
    change (if 48 ≤ c.toNat ∧ c.toNat ≤ 57 then some (c.toNat - 48)
      else if 97 ≤ c.toNat ∧ c.toNat ≤ 102 then some (c.toNat - 97 + 10)
      else if 65 ≤ c.toNat ∧ c.toNat ≤ 70 then some (c.toNat - 65 + 10) else none) = some d at hread
    split_ifs at hread with hten hlower hupper
    · obtain rfl := Option.some.inj hread
      omega
    · obtain rfl := Option.some.inj hread
      omega
    · obtain rfl := Option.some.inj hread
      omega
  have hsixteen : digit? 16 c = some d :=
    Option.filter_eq_some_iff.mpr ⟨hread, decide_eq_true hsmall.2⟩
  have hascii : ∀ n < 128, ∀ d ∈ digit? 16 (Char.ofNat n),
      Char.ofNat n = Nat.digitChar d ∨ Char.ofNat n = (Nat.digitChar d).toUpper := by
    decide +kernel
  refine ⟨of_decide_eq_true hd, ?_⟩
  rw [← Char.ofNat_toNat c] at hsixteen ⊢
  exact hascii _ hsmall.1 d hsixteen

/-! ## Digits one after the other -/

theorem ofDigits_reverse_cons (base d : ℕ) (ds : List ℕ) :
    Nat.ofDigits base (d :: ds).reverse = d * base ^ ds.length + Nat.ofDigits base ds.reverse := by
  rw [List.reverse_cons, Nat.ofDigits_append, Nat.ofDigits_singleton, List.length_reverse]
  ring

/-- Digits behind a number are all taken as long as the number stays below the bound. -/
theorem appendDigits_of_forall₂ (hbase : base ≤ 16) (hv : v < bound)
    (h : List.Forall₂ (IsDigit base) ds cs) :
    appendDigits base bound v cs =
      if v * base ^ ds.length + Nat.ofDigits base ds.reverse < bound
      then .ok (v * base ^ ds.length + Nat.ofDigits base ds.reverse) else .error .tooLarge := by
  induction h generalizing v with
  | nil => simp [appendDigits, hv]
  | @cons d c ds cs hd hds ih =>
    have hpos : 0 < base := Nat.zero_lt_of_lt hd.1
    have hvalue : v * base ^ (d :: ds).length + Nat.ofDigits base (d :: ds).reverse =
        (v * base + d) * base ^ ds.length + Nat.ofDigits base ds.reverse := by
      rw [ofDigits_reverse_cons, List.length_cons]
      ring
    rw [appendDigits, digit?_of_isDigit hbase hd, hvalue]
    by_cases hbelow : v * base + d < bound
    · simp only [if_pos hbelow, ih hbelow]
    · have hlarge : v * base + d ≤ (v * base + d) * base ^ ds.length :=
        Nat.le_mul_of_pos_right _ (Nat.pow_pos hpos)
      simp only [if_neg hbelow]
      rw [if_neg (by omega)]

theorem exists_forall₂_of_appendDigits (h : appendDigits base bound v cs = .ok n) :
    ∃ ds, List.Forall₂ (IsDigit base) ds cs := by
  induction cs generalizing v with
  | nil => exact ⟨[], .nil⟩
  | cons c cs ih =>
    rw [appendDigits] at h
    cases hread : digit? base c with
    | none => simp [hread] at h
    | some d =>
      by_cases hbelow : v * base + d < bound
      · simp only [hread, if_pos hbelow] at h
        obtain ⟨ds, hds⟩ := ih h
        exact ⟨d :: ds, .cons (isDigit_of_digit? hread) hds⟩
      · simp [hread, hbelow] at h

/-! ## Numerals -/

theorem IsNumeral.appendDigits (hbase : base ≤ 16) (hbound : 0 < bound) (h : IsNumeral base n cs) :
    appendDigits base bound 0 cs = if n < bound then .ok n else .error .tooLarge := by
  obtain ⟨-, ds, hds, rfl⟩ := h
  rw [appendDigits_of_forall₂ hbase hbound hds, Nat.zero_mul, Nat.zero_add]

/-- The characters that are digits in some base. -/
def digitChars : List Char := "0123456789abcdefABCDEF".toList

theorem mem_digitChars (hbase : base ≤ 16) (h : IsDigit base d c) : c ∈ digitChars := by
  obtain ⟨hd, hc⟩ := h
  have hall : ∀ d < 16, Nat.digitChar d ∈ digitChars ∧ (Nat.digitChar d).toUpper ∈ digitChars := by
    decide +kernel
  obtain ⟨hlower, hupper⟩ := hall d (Nat.lt_of_lt_of_le hd hbase)
  rcases hc with rfl | rfl
  · exact hlower
  · exact hupper

theorem IsNumeral.isDigit_of_mem (h : IsNumeral base n cs) (hc : c ∈ cs) :
    ∃ d, IsDigit base d c := by
  obtain ⟨-, ds, hds, -⟩ := h
  induction hds with
  | nil => cases hc
  | cons hd hds ih =>
    rcases List.mem_cons.mp hc with rfl | hc
    · exact ⟨_, hd⟩
    · exact ih hc

theorem IsNumeral.mem_digitChars (hbase : base ≤ 16) (h : IsNumeral base n cs) (hc : c ∈ cs) :
    c ∈ digitChars := by
  obtain ⟨d, hd⟩ := h.isDigit_of_mem hc
  exact Whole.mem_digitChars hbase hd

theorem IsSigned.ofDigits (hbase : base ≤ 16) (hbound : 0 < bound) (h : IsSigned base n cs) :
    ofDigits base bound cs = if n < bound then .ok n else .error .tooLarge := by
  rcases h with h | ⟨digits, rfl, h⟩
  · obtain ⟨c, cs, rfl⟩ := List.exists_cons_of_ne_nil h.1
    have hplus : c ≠ '+' := by
      rintro rfl
      have hmem := h.mem_digitChars hbase List.mem_cons_self
      revert hmem
      decide +kernel
    rw [Whole.ofDigits, h.appendDigits hbase hbound]
    all_goals simp [hplus]
  · obtain ⟨c, cs, rfl⟩ := List.exists_cons_of_ne_nil h.1
    rw [Whole.ofDigits, h.appendDigits hbase hbound]
    simp

theorem eq_of_bounded_eq_ok {m : ℕ} (h : (if m < bound then Except.ok m else .error .tooLarge) =
    (.ok n : Except Fault ℕ)) : m = n ∧ m < bound := by
  by_cases hlt : m < bound
  · rw [if_pos hlt] at h
    exact ⟨Except.ok.inj h, hlt⟩
  · rw [if_neg hlt] at h
    cases h

theorem exists_isSigned_of_ofDigits (h : ofDigits base bound cs = .ok n) :
    ∃ m, IsSigned base m cs := by
  revert h
  fun_cases Whole.ofDigits base bound cs with
  | case1 => exact nofun
  | case2 => exact nofun
  | case3 cs hne =>
    intro h
    obtain ⟨ds, hds⟩ := exists_forall₂_of_appendDigits h
    exact ⟨_, .inr ⟨cs, rfl, fun hnil ↦ hne (by rw [hnil]), ds, hds, rfl⟩⟩
  | case4 cs hne hplus hsigned =>
    intro h
    obtain ⟨ds, hds⟩ := exists_forall₂_of_appendDigits h
    exact ⟨_, .inl ⟨hne, ds, hds, rfl⟩⟩

theorem ofDigits_eq_ok_iff (hbase : base ≤ 16) (hbound : 0 < bound) :
    ofDigits base bound cs = .ok n ↔ IsSigned base n cs ∧ n < bound := by
  constructor
  · intro h
    obtain ⟨m, hm⟩ := exists_isSigned_of_ofDigits h
    rw [hm.ofDigits hbase hbound] at h
    obtain ⟨rfl, hlt⟩ := eq_of_bounded_eq_ok h
    exact ⟨hm, hlt⟩
  · rintro ⟨h, hlt⟩
    rw [h.ofDigits hbase hbound, if_pos hlt]

theorem IsSigned.second_ne (h : IsSigned 10 n ('0' :: c :: cs)) : c ≠ 'x' ∧ c ≠ 'X' := by
  have hnumeral : IsNumeral 10 n ('0' :: c :: cs) := by
    rcases h with h | ⟨digits, hcs, -⟩
    · exact h
    · cases hcs
  obtain ⟨d, hd⟩ := hnumeral.isDigit_of_mem (List.mem_cons_of_mem _ List.mem_cons_self)
  have hread := digit?_of_isDigit (by decide) hd
  constructor
  · rintro rfl
    cases hread
  · rintro rfl
    cases hread

/-- A written number is read as what it is, or it is told that it is too large. -/
theorem Writes.ofLiteral (hbound : 0 < bound) (h : Writes n cs) :
    ofLiteral bound cs = if n < bound then .ok n else .error .tooLarge := by
  cases h with
  | decimal h =>
    rw [Whole.ofLiteral, h.ofDigits (by decide) hbound]
    · rintro rest rfl
      exact h.second_ne.1 rfl
    · rintro rest rfl
      exact h.second_ne.2 rfl
  | hexadecimal hx hcs h =>
    rcases hx with rfl | rfl
    · rw [hcs]
      exact h.ofDigits (by decide) hbound
    · rw [hcs]
      exact h.ofDigits (by decide) hbound

theorem exists_writes_of_ofLiteral (h : ofLiteral bound cs = .ok n) : ∃ m, Writes m cs := by
  revert h
  fun_cases Whole.ofLiteral bound cs with
  | case1 digits =>
    intro h
    obtain ⟨m, hm⟩ := exists_isSigned_of_ofDigits h
    exact ⟨m, .hexadecimal (.inl rfl) rfl hm⟩
  | case2 digits =>
    intro h
    obtain ⟨m, hm⟩ := exists_isSigned_of_ofDigits h
    exact ⟨m, .hexadecimal (.inr rfl) rfl hm⟩
  | case3 =>
    intro h
    obtain ⟨m, hm⟩ := exists_isSigned_of_ofDigits h
    exact ⟨m, .decimal hm⟩

theorem ofLiteral_eq_ok_iff (hbound : 0 < bound) :
    ofLiteral bound cs = .ok n ↔ Writes n cs ∧ n < bound := by
  constructor
  · intro h
    obtain ⟨m, hm⟩ := exists_writes_of_ofLiteral h
    rw [hm.ofLiteral hbound] at h
    obtain ⟨rfl, hlt⟩ := eq_of_bounded_eq_ok h
    exact ⟨hm, hlt⟩
  · rintro ⟨h, hlt⟩
    rw [h.ofLiteral hbound, if_pos hlt]

/-- The sign belongs to the digits. In front of the mark it is refused. -/
theorem ofLiteral_plus_mark (hbound : 0 < bound) (hc : c = 'x' ∨ c = 'X') (cs : List Char) :
    ofLiteral bound ('+' :: '0' :: c :: cs) = .error .badDigit := by
  have hmark : digit? 10 c = none := by
    rcases hc with rfl | rfl
    · rfl
    · rfl
  have hzero : digit? 10 '0' = some 0 := rfl
  change appendDigits 10 bound 0 ('0' :: c :: cs) = _
  simp only [appendDigits, hzero, hmark, Nat.zero_mul, Nat.add_zero, if_pos hbound]

/-! ## Letters in lower case -/

theorem IsNumeral.toLower (hbase : base ≤ 16) (h : IsNumeral base n cs) :
    IsNumeral base n (cs.map Char.toLower) := by
  obtain ⟨hne, ds, hds, hvalue⟩ := h
  have hall : ∀ d < 16, (Nat.digitChar d).toLower = Nat.digitChar d ∧
      (Nat.digitChar d).toUpper.toLower = Nat.digitChar d := by
    decide +kernel
  refine ⟨by simpa using hne, ds, List.forall₂_map_right_iff.mpr (hds.imp ?_), hvalue⟩
  rintro d c ⟨hd, hc⟩
  obtain ⟨hlower, hupper⟩ := hall d (Nat.lt_of_lt_of_le hd hbase)
  rcases hc with rfl | rfl
  · exact ⟨hd, .inl hlower⟩
  · exact ⟨hd, .inl hupper⟩

theorem IsSigned.toLower (hbase : base ≤ 16) (h : IsSigned base n cs) :
    IsSigned base n (cs.map Char.toLower) := by
  rcases h with h | ⟨digits, rfl, h⟩
  · exact .inl (h.toLower hbase)
  · exact .inr ⟨_, rfl, h.toLower hbase⟩

theorem IsNumeral.of_toLower (hbase : base ≤ 16) (h : IsNumeral base n (cs.map Char.toLower)) :
    IsNumeral base n cs := by
  obtain ⟨hne, ds, hds, hvalue⟩ := h
  have hall : ∀ d < 16, (Nat.digitChar d).toUpper.toUpper = (Nat.digitChar d).toUpper := by
    decide +kernel
  refine ⟨by simpa using hne, ds, (List.forall₂_map_right_iff.mp hds).imp ?_, hvalue⟩
  rintro d c ⟨hd, hc⟩
  have hupper := hall d (Nat.lt_of_lt_of_le hd hbase)
  refine ⟨hd, ?_⟩
  rcases eq_toLower_or_eq_toUpper c with hcase | hcase
  · rw [hcase]
    exact hc
  · refine .inr (hcase.trans ?_)
    rcases hc with hc | hc
    · rw [hc]
    · rw [hc, hupper]

theorem IsSigned.of_toLower (hbase : base ≤ 16) (h : IsSigned base n (cs.map Char.toLower)) :
    IsSigned base n cs := by
  rcases h with h | ⟨digits, hcs, h⟩
  · exact .inl (h.of_toLower hbase)
  · obtain ⟨plus, rest, rfl, hplus, rfl⟩ := List.map_eq_cons_iff.mp hcs
    have hsign : plus = '+' := by
      rcases eq_toLower_or_eq_toUpper plus with hcase | hcase
      · exact hcase.trans hplus
      · rw [hcase, hplus]
        decide
    exact .inr ⟨rest, by rw [hsign], h.of_toLower hbase⟩

theorem IsSigned.unique (hbase : base ≤ 16) {m : ℕ} (hn : IsSigned base n cs)
    (hm : IsSigned base m cs) : n = m := by
  have hbound : 0 < max n m + 1 := Nat.succ_pos _
  have hread := hn.ofDigits hbase hbound
  rw [hm.ofDigits hbase hbound, if_pos (by omega), if_pos (by omega)] at hread
  exact (Except.ok.inj hread).symm

/-! ## Texts of numbers -/

theorem exists_writes (n : ℕ) : ∃ cs, Writes n cs := by
  refine ⟨(0 :: (Nat.digits 10 n).reverse).map Nat.digitChar, .decimal (.inl ⟨by simp, ?_⟩)⟩
  refine ⟨0 :: (Nat.digits 10 n).reverse, ?_, ?_⟩
  · rw [List.forall₂_map_right_iff, List.forall₂_same]
    intro d hd
    refine ⟨?_, .inl rfl⟩
    rcases List.mem_cons.mp hd with rfl | hd
    · decide
    · exact Nat.digits_lt_base (by decide) (List.mem_reverse.mp hd)
  · rw [ofDigits_reverse_cons, List.reverse_reverse, Nat.ofDigits_digits, Nat.zero_mul,
      Nat.zero_add]

theorem IsSigned.mem_chars (hbase : base ≤ 16) (h : IsSigned base n cs) (hc : c ∈ cs) :
    c ∈ '+' :: digitChars := by
  rcases h with h | ⟨digits, rfl, h⟩
  · exact .tail _ (h.mem_digitChars hbase hc)
  · rcases List.mem_cons.mp hc with rfl | hc
    · exact .head _
    · exact .tail _ (h.mem_digitChars hbase hc)

theorem Writes.mem_chars (h : Writes n cs) (hc : c ∈ cs) :
    c ∈ 'x' :: 'X' :: '+' :: digitChars := by
  cases h with
  | decimal h => exact .tail _ (.tail _ (h.mem_chars (by decide) hc))
  | hexadecimal hx hcs h =>
    rw [hcs] at hc
    rcases List.mem_cons.mp hc with rfl | hc
    · decide +kernel
    rcases List.mem_cons.mp hc with rfl | hc
    · rcases hx with rfl | rfl
      · exact .head _
      · exact .tail _ (.head _)
    · exact .tail _ (.tail _ (h.mem_chars (by decide) hc))

theorem Writes.ne_nil (h : Writes n cs) : cs ≠ [] := by
  rintro rfl
  rcases h with (h | ⟨_, hcs, -⟩) | ⟨-, hcs, -⟩
  · exact h.1 rfl
  · cases hcs
  · cases hcs

end Whole

/-!
## Hexadecimal numbers read back

Numbers are shown in hexadecimal, with zeros in front up to some width. Such a text is one of those
that `Whole.IsNumeral` says write a number, so whoever reads numbers reads it as the number that was
shown, whatever the width. `readHex` reads without a bound, since a number is never too large for as
many digits as there are.
-/

section

open Whole

variable {d n width : ℕ} {cs : List Char}

/-! ## Digits shown -/

theorem isDigit_hexDigit (h : d < 16) : IsDigit 16 d (hexDigit d) := by
  have hall : ∀ d < 16, hexDigit d = Nat.digitChar d ∨ hexDigit d = (Nat.digitChar d).toUpper := by
    decide +kernel
  exact ⟨h, hall d h⟩

theorem isNumeral_hexDigits (n : ℕ) : IsNumeral 16 n (hexDigits n) := by
  fun_induction hexDigits n with
  | case1 n hsmall =>
    exact ⟨by simp, [n], .cons (isDigit_hexDigit hsmall) .nil, Nat.ofDigits_singleton⟩
  | case2 n hlarge ih =>
    obtain ⟨-, ds, hds, hvalue⟩ := ih
    have hlast := isDigit_hexDigit (Nat.mod_lt n (by decide : 0 < 16))
    refine ⟨by simp, ds ++ [n % 16], List.rel_append hds (.cons hlast .nil), ?_⟩
    rw [List.reverse_append, List.reverse_singleton, List.singleton_append, Nat.ofDigits_cons,
      hvalue]
    omega

theorem isNumeral_replicate_append (k : ℕ) (h : IsNumeral 16 n cs) :
    IsNumeral 16 n (List.replicate k '0' ++ cs) := by
  induction k with
  | zero => exact h
  | succ k ih =>
    obtain ⟨-, ds, hds, hvalue⟩ := ih
    have hzero : IsDigit 16 0 '0' := ⟨by decide, .inl rfl⟩
    refine ⟨by simp [List.replicate_succ], 0 :: ds, .cons hzero hds, ?_⟩
    rw [ofDigits_reverse_cons, Nat.zero_mul, Nat.zero_add, hvalue]

theorem isNumeral_hex (width n : ℕ) : IsNumeral 16 n (hex width n).toList := by
  rw [hex, String.toList_ofList]
  exact isNumeral_replicate_append _ (isNumeral_hexDigits n)

theorem toList_hexLiteral (width n : ℕ) :
    (hexLiteral width n).toList = '0' :: 'x' :: (hex width n).toList := by
  rw [hexLiteral, String.toList_append]
  rfl

theorem writes_hexLiteral (width n : ℕ) : Writes n (hexLiteral width n).toList :=
  .hexadecimal (.inl rfl) (toList_hexLiteral width n) (.inl (isNumeral_hex width n))

/-! ## Numbers of any size -/

/-- The number that hexadecimal digits write. -/
def readHex (cs : List Char) : Option ℕ := (ofDigits 16 (16 ^ cs.length) cs).toOption

theorem readHex_of_isNumeral (h : IsNumeral 16 n cs) : readHex cs = some n := by
  have hlt : n < 16 ^ cs.length := by
    obtain ⟨-, ds, hds, rfl⟩ := h
    rw [← hds.length_eq, ← List.length_reverse]
    have hdigits := ((List.forall₂_and_left ds cs).mp hds).1
    exact Nat.ofDigits_lt_base_pow_length (by decide) fun d hd ↦
      hdigits d (List.mem_reverse.mp hd)
  have hread : ofDigits 16 (16 ^ cs.length) cs = .ok n :=
    (ofDigits_eq_ok_iff (by decide) (Nat.pow_pos (by decide))).mpr ⟨.inl h, hlt⟩
  rw [readHex, hread]
  rfl

theorem readHex_hex (width n : ℕ) : readHex (hex width n).toList = some n :=
  readHex_of_isNumeral (isNumeral_hex width n)

end

end ChipEight
