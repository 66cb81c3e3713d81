import ChipEight.JsonText.Skip
import ChipEight.Proofs.JsonText.Tree

/-!
# Reading and skipping written numbers

A number ends where the text can no longer continue it, so nothing can be said about the text of a
number alone: what follows matters, and `Ends` is all that it must satisfy. A comma, a closing
bracket and a blank do.

A whole number that fits into sixty-four bits is read as what it is. For every other number it is
enough to know what it is not: `NeverNatural` says that reading fails or gives a number of another
kind, and holds as soon as there is a sign, a fraction, an exponent or one digit too many. The value
of such a number is a floating-point number and is not needed. Skipping takes every number.
-/

namespace ChipEight

namespace JsonText

/-- A text that cannot continue a number. -/
def Ends (cs : List Char) : Prop :=
  ∀ c ∈ cs.head?, c.isDigit = false ∧ c ≠ '.' ∧ c ≠ 'e' ∧ c ≠ 'E'

/-- A text that cannot continue a row of digits. -/
def NoDigit (cs : List Char) : Prop := ∀ c ∈ cs.head?, c.isDigit = false

variable {cs ds rest : List Char} {c d : Char}

theorem ends_nil : Ends [] := by simp [Ends]

theorem ends_cons : Ends (c :: cs) ↔ c.isDigit = false ∧ c ≠ '.' ∧ c ≠ 'e' ∧ c ≠ 'E' := by
  simp [Ends]

theorem noDigit_cons : NoDigit (c :: cs) ↔ c.isDigit = false := by
  simp [NoDigit]

theorem Ends.noDigit (h : Ends cs) : NoDigit cs := fun c hc ↦ (h c hc).1

theorem Ends.blanks (h : Ends cs) (bs : Blanks) : Ends (bs.text ++ cs) := by
  cases bs with
  | nil => exact h
  | cons b bs => cases b <;> exact ends_cons.mpr (by decide)

theorem ne_of_isDigit (hc : c.isDigit = true) (hd : d.isDigit = false) : c ≠ d := by
  rintro rfl
  rw [hc] at hd
  cases hd

/-! ## Rows of digits -/

theorem isDigit_of_mem_toDigits {n : Nat} (h : c ∈ Nat.toDigits 10 n) : c.isDigit = true :=
  Nat.isDigit_of_mem_toDigits (by decide) (by decide) h

theorem Digits.isDigit_of_mem {ds : Digits} (h : c ∈ ds.text) : c.isDigit = true := by
  obtain ⟨d, -, rfl⟩ := List.mem_map.mp h
  simp [d.isLt]

/-- Digits only begin with a zero if they spell zero. -/
theorem head?_toDigits_ne {n : Nat} (h : n ≠ 0) : (Nat.toDigits 10 n).head? ≠ some '0' := by
  induction n using Nat.strongRecOn with
  | ind n ih =>
    rcases Nat.lt_or_ge n 10 with hlt | hge
    · simp [Nat.toDigits_of_lt_base hlt, h]
    · have hdiv := ih (n / 10) (by omega) (by omega)
      rw [Nat.toDigits_of_base_le (by decide) hge, List.head?_append]
      cases hcs : Nat.toDigits 10 (n / 10) with
      | nil => exact absurd hcs Nat.toDigits_ne_nil
      | cons c cs => simpa [hcs] using hdiv

theorem dropDigits_append (hds : ∀ c ∈ ds, c.isDigit = true) (hrest : NoDigit rest) :
    dropDigits (ds ++ rest) = (ds.length, rest) := by
  induction ds with
  | nil =>
    cases rest with
    | nil => rfl
    | cons c rest => simp [dropDigits, noDigit_cons.mp hrest]
  | cons c ds ih =>
    obtain ⟨hc, hds⟩ := List.forall_mem_cons.mp hds
    have hdrop := ih hds
    simp only [dropDigits, Prod.mk.injEq] at hdrop
    simp [dropDigits, hc, hdrop.1, hdrop.2]

theorem le_ofDigitChars (ds : List Char) (s : Nat) : s ≤ Nat.ofDigitChars 10 ds s := by
  induction ds generalizing s with
  | nil => simp
  | cons c ds ih =>
    rw [Nat.ofDigitChars_cons]
    have := ih (10 * s + (c.toNat - '0'.toNat))
    omega

theorem takeDigits_of_le (hds : ∀ c ∈ ds, c.isDigit = true) (hrest : NoDigit rest) {s : Nat}
    (hfit : Nat.ofDigitChars 10 ds s ≤ maxSignificand) (taken : Nat) :
    takeDigits s taken (ds ++ rest) = (Nat.ofDigitChars 10 ds s, taken + ds.length, rest) := by
  induction ds generalizing s taken with
  | nil =>
    cases rest with
    | nil => rfl
    | cons c rest => simp [takeDigits, noDigit_cons.mp hrest]
  | cons c ds ih =>
    obtain ⟨hc, hds⟩ := List.forall_mem_cons.mp hds
    have hlonger : 10 * s + (c.toNat - '0'.toNat) = s * 10 + (c.toNat - 0x30) := by
      rw [Nat.mul_comm]
      rfl
    rw [Nat.ofDigitChars_cons, hlonger] at hfit ⊢
    have hle := le_ofDigitChars ds (s * 10 + (c.toNat - 0x30))
    rw [List.cons_append, takeDigits, if_pos (by simp [hc]; omega), ih hds hfit,
      List.length_cons, Nat.add_right_comm, Nat.add_assoc]

theorem takeDigits_of_lt (hds : ∀ c ∈ ds, c.isDigit = true) {s : Nat} (hs : s ≤ maxSignificand)
    (hbig : maxSignificand < Nat.ofDigitChars 10 ds s) (taken : Nat) (rest : List Char) :
    ∃ left, left ≠ [] ∧ (∀ c ∈ left, c.isDigit = true) ∧
      (takeDigits s taken (ds ++ rest)).2.2 = left ++ rest := by
  induction ds generalizing s taken with
  | nil => exact absurd hbig (by simpa using hs)
  | cons c ds ih =>
    obtain ⟨hc, htail⟩ := List.forall_mem_cons.mp hds
    have hlonger : 10 * s + (c.toNat - '0'.toNat) = s * 10 + (c.toNat - 0x30) := by
      rw [Nat.mul_comm]
      rfl
    rw [Nat.ofDigitChars_cons, hlonger] at hbig
    rw [List.cons_append, takeDigits]
    rcases Nat.lt_or_ge maxSignificand (s * 10 + (c.toNat - 0x30)) with hlt | hge
    · rw [if_neg (by simp [hc]; omega)]
      exact ⟨c :: ds, List.cons_ne_nil _ _, hds, rfl⟩
    · rw [if_pos (by simp [hc]; omega)]
      exact ih htail hge hbig _

/-! ## Reading -/

/-- A reader that fails or gives a number that is not a whole number from zero on. -/
def NeverNatural (r : Read Number) : Prop := ∀ n rest, r ≠ .ok (.natural n, rest)

theorem neverNatural_error (fault : Fault) : NeverNatural (.error fault) := by
  intro n rest h
  cases h

theorem neverNatural_signed (r : Except Fault Float) (positive : Bool) (rest : List Char) :
    NeverNatural (r.map fun x ↦ (signed positive x, rest)) := by
  intro n rest h
  cases r <;> cases h

theorem neverNatural_readExponent (positive : Bool) (s : Nat) (e : Int) (cs : List Char) :
    NeverNatural (readExponent positive s e cs) := by
  intro n rest h
  rw [readExponent.eq_def] at h
  dsimp only at h
  split at h
  · cases h
  · split at h
    · -- the three ways to sign an exponent
      split at h
      all_goals
        dsimp only at h
        split at h
        · split at h <;> cases h
        · exact neverNatural_signed _ _ _ _ _ h
    · cases h

theorem neverNatural_readScale (positive : Bool) (s : Nat) (e : Int) (cs : List Char) :
    NeverNatural (readScale positive s e cs) := by
  rw [readScale.eq_def]
  split
  · exact neverNatural_readExponent _ _ _ _
  · exact neverNatural_readExponent _ _ _ _
  · exact neverNatural_signed _ _ _

theorem neverNatural_readFraction (positive : Bool) (s : Nat) (e : Int) (cs : List Char) :
    NeverNatural (readFraction positive s e cs) := by
  rw [readFraction.eq_def]
  split
  · exact neverNatural_error _
  · split
    · exact neverNatural_readScale _ _ _ _
    · exact neverNatural_error _

/-- A sign, a digit too many, a fraction or an exponent rules out a whole number from zero on. -/
theorem neverNatural_readTail {positive : Bool} {extra : Nat} (s : Nat)
    (h : positive = false ∨ extra ≠ 0 ∨ ¬Ends cs ∧ NoDigit cs) :
    NeverNatural (readTail positive s extra cs) := by
  rw [readTail.eq_def]
  split
  · exact neverNatural_readFraction _ _ _ _
  · exact neverNatural_readExponent _ _ _ _
  · exact neverNatural_readExponent _ _ _ _
  · next hpoint hlower hcapital =>
    by_cases hextra : extra ≠ 0
    · rw [if_pos hextra]
      exact neverNatural_signed _ _ _
    rw [if_neg hextra]
    rcases h with rfl | h | ⟨hends, hdigit⟩
    · rw [if_neg Bool.false_ne_true]
      split
      · intro n rest h
        cases h
      · intro n rest h
        cases h
    · exact absurd h hextra
    · refine absurd ?_ hends
      cases cs with
      | nil => exact ends_nil
      | cons c cs =>
        refine ends_cons.mpr ⟨noDigit_cons.mp hdigit, ?_, ?_, ?_⟩
        · rintro rfl
          exact hpoint cs rfl
        · rintro rfl
          exact hlower cs rfl
        · rintro rfl
          exact hcapital cs rfl

theorem readTail_of_ends (h : Ends cs) (s : Nat) :
    readTail true s 0 cs = .ok (.natural s, cs) := by
  rw [readTail.eq_def]
  split
  · exact absurd rfl (ends_cons.mp h).2.1
  · exact absurd rfl (ends_cons.mp h).2.2.1
  · exact absurd rfl (ends_cons.mp h).2.2.2
  · rfl

/-- The whole part of a number is read up to its last digit. All of it goes into the significand if
it fits, and some of it does not otherwise. -/
theorem readMagnitude_whole (positive : Bool) (n : Nat) (hrest : NoDigit rest) :
    ∃ s extra, readMagnitude positive (Nat.toDigits 10 n ++ rest) = readTail positive s extra rest ∧
      (n ≤ maxSignificand → s = n ∧ extra = 0) ∧ (maxSignificand < n → extra ≠ 0) := by
  rcases Nat.eq_zero_or_pos n with rfl | hpos
  · refine ⟨0, 0, ?_, fun _ ↦ ⟨rfl, rfl⟩, fun h ↦ absurd h (Nat.not_lt_zero _)⟩
    cases rest with
    | nil => rfl
    | cons c rest =>
      have hc := noDigit_cons.mp hrest
      simp [readMagnitude, hc]
  · have hdigit : ∀ c ∈ Nat.toDigits 10 n, c.isDigit = true := fun c ↦ isDigit_of_mem_toDigits
    have hvalue : Nat.ofDigitChars 10 (Nat.toDigits 10 n) 0 = n := Nat.ofDigitChars_ten_toDigits
    have hread : readMagnitude positive (Nat.toDigits 10 n ++ rest)
        = (let taken := takeDigits 0 0 (Nat.toDigits 10 n ++ rest)
           let dropped := dropDigits taken.2.2
           readTail positive taken.1 dropped.1 dropped.2) := by
      have hzero := head?_toDigits_ne (Nat.pos_iff_ne_zero.mp hpos)
      cases hcs : Nat.toDigits 10 n with
      | nil => exact absurd hcs Nat.toDigits_ne_nil
      | cons c cs =>
        have hc : c ≠ '0' := by simpa [hcs] using hzero
        have hd : c.isDigit = true := hdigit c (by simp [hcs])
        rw [List.cons_append, readMagnitude]
        · rw [if_pos hd]
        · simpa using hc
    rw [hread]
    rcases Nat.lt_or_ge maxSignificand n with hbig | hfit
    · obtain ⟨left, hne, hleft, htake⟩ := takeDigits_of_lt hdigit (Nat.zero_le _)
        (hvalue.symm ▸ hbig) 0 rest
      refine ⟨(takeDigits 0 0 (Nat.toDigits 10 n ++ rest)).1, left.length, ?_,
        fun h ↦ absurd h (Nat.not_le.mpr hbig), fun _ ↦ ?_⟩
      · simp only [htake, dropDigits_append hleft hrest]
      · simpa using hne
    · have htake := takeDigits_of_le hdigit hrest (hvalue.symm ▸ hfit) 0
      have hdrop : dropDigits ([] ++ rest) = (0, rest) := dropDigits_append (by simp) hrest
      refine ⟨n, 0, ?_, fun _ ↦ ⟨rfl, rfl⟩, fun h ↦ absurd h (Nat.not_lt.mpr hfit)⟩
      rw [List.nil_append] at hdrop
      simp only [htake, hvalue, hdrop]

namespace Numeral

variable {n : Numeral}

theorem noDigit_tail (n : Numeral) (hrest : Ends rest) : NoDigit (n.tail ++ rest) := by
  rcases n with ⟨negative, whole, fraction, exponent⟩
  cases fraction with
  | some ds => exact noDigit_cons.mpr (by decide)
  | none =>
    cases exponent with
    | none => exact hrest.noDigit
    | some e =>
      refine noDigit_cons.mpr ?_
      cases e.capital <;> decide

theorem not_ends_tail (h : n.fraction ≠ none ∨ n.exponent ≠ none) : ¬Ends (n.tail ++ rest) := by
  rcases n with ⟨negative, whole, fraction, exponent⟩
  cases fraction with
  | some ds => exact fun hends ↦ (ends_cons.mp hends).2.1 rfl
  | none =>
    cases exponent with
    | none => simp at h
    | some e =>
      rcases e with ⟨_ | _, sign, digits⟩
      · exact fun hends ↦ (ends_cons.mp hends).2.2.1 rfl
      · exact fun hends ↦ (ends_cons.mp hends).2.2.2 rfl

theorem readNumber_of_nonneg (h : n.negative = false) :
    readNumber (n.text ++ rest)
      = readMagnitude true (Nat.toDigits 10 n.whole ++ (n.tail ++ rest)) := by
  rw [text, h, if_neg Bool.false_ne_true, List.nil_append, List.append_assoc]
  cases hcs : Nat.toDigits 10 n.whole with
  | nil => exact absurd hcs Nat.toDigits_ne_nil
  | cons c cs =>
    have hmem : c ∈ Nat.toDigits 10 n.whole := by simp [hcs]
    have hc : c ≠ '-' := ne_of_isDigit (isDigit_of_mem_toDigits hmem) (by decide)
    rw [List.cons_append, readNumber]
    rintro rest' ⟨rfl, -⟩
    exact hc rfl

theorem readNumber_of_negative (h : n.negative = true) :
    readNumber (n.text ++ rest)
      = readMagnitude false (Nat.toDigits 10 n.whole ++ (n.tail ++ rest)) := by
  rw [text, h, if_pos rfl, List.append_assoc, List.append_assoc]
  rfl

theorem readNumber_of_natural {k : Nat} (h : n.natural? = some k) (hfit : k ≤ maxSignificand)
    (hrest : Ends rest) : readNumber (n.text ++ rest) = .ok (.natural k, rest) := by
  rcases n with ⟨_ | _, whole, _ | ds, _ | e⟩
  -- only the first of the eight forms is a whole number from zero on
  case false.none.none =>
    obtain rfl : whole = k := Option.some.inj h
    obtain ⟨s, extra, hread, hvalue, -⟩ := readMagnitude_whole true whole hrest.noDigit
    obtain ⟨rfl, rfl⟩ := hvalue hfit
    rw [readNumber_of_nonneg rfl]
    exact hread.trans (readTail_of_ends hrest s)
  all_goals cases h

/-- A number that is not natural, or too large, is not read as a whole number from zero on. -/
theorem neverNatural_readNumber (h : ∀ k, n.natural? = some k → maxSignificand < k)
    (hrest : Ends rest) : NeverNatural (readNumber (n.text ++ rest)) := by
  cases hsign : n.negative with
  | true =>
    obtain ⟨s, extra, hread, -, -⟩ := readMagnitude_whole false n.whole (n.noDigit_tail hrest)
    rw [readNumber_of_negative hsign, hread]
    exact neverNatural_readTail s (.inl rfl)
  | false =>
    obtain ⟨s, extra, hread, -, hbig⟩ := readMagnitude_whole true n.whole (n.noDigit_tail hrest)
    rw [readNumber_of_nonneg hsign, hread]
    refine neverNatural_readTail s (.inr ?_)
    by_cases htail : n.fraction ≠ none ∨ n.exponent ≠ none
    · exact .inr ⟨not_ends_tail htail, n.noDigit_tail hrest⟩
    · rcases n with ⟨negative, whole, _ | ds, _ | e⟩
      case none.none =>
        obtain rfl : negative = false := hsign
        exact .inl (hbig (h whole rfl))
      all_goals simp at htail

end Numeral

/-! ## Skipping -/

/-- What skipping does behind a complete value. -/
def skipBehind (frames : List Frame) (cs : List Char) : Except Fault (List Char) :=
  match frames with
  | [] => .ok cs
  | frames => skipFrom .finished frames cs

variable {frames : List Frame} {spot : Spot}

/-- The spots at which a number may end. -/
inductive InNumber : Spot → Prop
  | zero : InNumber .zero
  | whole : InNumber .whole
  | fraction : InNumber .fraction
  | exponentDigits : InNumber .exponentDigits

theorem skipFrom_of_ends (hspot : InNumber spot) (h : Ends cs) :
    skipFrom spot frames cs = skipBehind frames cs := by
  cases cs with
  | nil => cases hspot <;> rcases frames with _ | ⟨_ | _, frames⟩ <;> rfl
  | cons c cs =>
    obtain ⟨hdigit, hpoint, hlower, hcapital⟩ := ends_cons.mp h
    have hmove : move spot frames c = moveFinished frames c := by
      cases hspot <;> simp [move, startsExponent, hdigit, hpoint, hlower, hcapital]
    rw [skipFrom, hmove]
    rcases frames with _ | ⟨frame, frames⟩
    · rfl
    · rw [skipBehind, skipFrom, move]
      simp

theorem skipFrom_digits (hspot : InNumber spot) (hzero : spot ≠ .zero)
    (hds : ∀ c ∈ ds, c.isDigit = true) :
    skipFrom spot frames (ds ++ cs) = skipFrom spot frames cs := by
  induction ds with
  | nil => rfl
  | cons c ds ih =>
    obtain ⟨hc, hds⟩ := List.forall_mem_cons.mp hds
    have hmove : move spot frames c = .go spot frames := by
      cases hspot with
      | zero => exact absurd rfl hzero
      | _ => simp [move, hc]
    rw [List.cons_append, skipFrom, hmove]
    exact ih hds

theorem skipFrom_first_digit {first : Spot} (hspot : InNumber spot) (hzero : spot ≠ .zero)
    (hfirst : ∀ c : Char, c.isDigit = true → move first frames c = .go spot frames) (ds : Digits) :
    skipFrom first frames (ds.text ++ cs) = skipFrom spot frames cs := by
  have hds : ∀ c ∈ ds.text, c.isDigit = true := fun c ↦ Digits.isDigit_of_mem
  rw [Digits.text, List.map_cons] at hds ⊢
  obtain ⟨hc, hds⟩ := List.forall_mem_cons.mp hds
  rw [List.cons_append, skipFrom, hfirst _ hc]
  exact skipFrom_digits hspot hzero hds

theorem skipFrom_fraction (hspot : spot = .zero ∨ spot = .whole) (ds : Digits) :
    skipFrom spot frames ('.' :: ds.text ++ cs) = skipFrom .fraction frames cs := by
  have hmove : move spot frames '.' = .go .point frames := by
    rcases hspot with rfl | rfl <;> rfl
  rw [List.cons_append, skipFrom, hmove]
  refine skipFrom_first_digit .fraction nofun (fun c hc ↦ ?_) ds
  rw [move, if_pos hc]

theorem skipFrom_exponent (hspot : spot = .zero ∨ spot = .whole ∨ spot = .fraction)
    (e : Exponent) :
    skipFrom spot frames (e.text ++ cs) = skipFrom .exponentDigits frames cs := by
  rcases e with ⟨capital, sign, digits⟩
  have hmove : move spot frames (if capital then 'E' else 'e') = .go .exponent frames := by
    rcases hspot with rfl | rfl | rfl <;> cases capital <;> rfl
  rw [Exponent.text, List.cons_append, skipFrom, hmove]
  cases sign with
  | none =>
    refine skipFrom_first_digit .exponentDigits nofun (fun c hc ↦ ?_) digits
    have hplus : c ≠ '+' := ne_of_isDigit hc (by decide)
    have hminus : c ≠ '-' := ne_of_isDigit hc (by decide)
    simp [move, hc, hplus, hminus]
  | some plus =>
    have hsign : move .exponent frames (if plus then '+' else '-') = .go .exponentSign frames := by
      cases plus <;> rfl
    rw [Option.elim_some, List.singleton_append, List.cons_append]
    simp only [skipFrom, hsign]
    refine skipFrom_first_digit .exponentDigits nofun (fun c hc ↦ ?_) digits
    rw [move, if_pos hc]

theorem skipFrom_tail (hspot : spot = .zero ∨ spot = .whole) (n : Numeral) (hrest : Ends rest) :
    skipFrom spot frames (n.tail ++ rest) = skipBehind frames rest := by
  rcases n with ⟨negative, whole, fraction, exponent⟩
  cases fraction with
  | none =>
    cases exponent with
    | none =>
      refine skipFrom_of_ends ?_ hrest
      rcases hspot with rfl | rfl
      · exact .zero
      · exact .whole
    | some e =>
      have hspot : spot = .zero ∨ spot = .whole ∨ spot = .fraction := hspot.imp_right .inl
      exact (skipFrom_exponent hspot e).trans (skipFrom_of_ends .exponentDigits hrest)
  | some ds =>
    cases exponent with
    | none =>
      rw [Numeral.tail, Option.elim_some, Option.elim_none, List.append_nil,
        skipFrom_fraction hspot, skipFrom_of_ends .fraction hrest]
    | some e =>
      rw [Numeral.tail, Option.elim_some, Option.elim_some, List.append_assoc,
        skipFrom_fraction hspot, skipFrom_exponent (.inr (.inr rfl)),
        skipFrom_of_ends .exponentDigits hrest]

theorem moveValue_of_isDigit (hc : c.isDigit = true) :
    moveValue frames c = .go (if c = '0' then .zero else .whole) frames := by
  have hrange := Char.isDigit_iff_toNat.mp hc
  have hzero : c = '0' ↔ c.toNat = 0x30 := Char.toNat_inj.symm
  simp only [Char.reduceToNat] at hrange
  rw [moveValue.eq_def]
  split
  all_goals first
    | (exfalso; omega)
    | simp_all

theorem skipFrom_whole {first : Spot}
    (hfirst : ∀ c : Char, c.isDigit = true →
      move first frames c = .go (if c = '0' then .zero else .whole) frames) (n : Nat) :
    skipFrom first frames (Nat.toDigits 10 n ++ cs)
      = skipFrom (if n = 0 then .zero else .whole) frames cs := by
  rcases Nat.eq_zero_or_pos n with rfl | hpos
  · rw [Nat.toDigits_zero, List.singleton_append, skipFrom, hfirst '0' (by decide)]
    rfl
  · have hdigit : ∀ c ∈ Nat.toDigits 10 n, c.isDigit = true := fun c ↦ isDigit_of_mem_toDigits
    have hhead := head?_toDigits_ne (Nat.pos_iff_ne_zero.mp hpos)
    rw [if_neg (Nat.pos_iff_ne_zero.mp hpos)]
    cases hds : Nat.toDigits 10 n with
    | nil => exact absurd hds Nat.toDigits_ne_nil
    | cons d ds =>
      rw [hds] at hdigit hhead
      obtain ⟨hd, hds⟩ := List.forall_mem_cons.mp hdigit
      have hne : d ≠ '0' := by simpa using hhead
      rw [List.cons_append, skipFrom, hfirst d hd, if_neg hne]
      exact skipFrom_digits .whole nofun hds

/-- **Every number is skipped to its end.** -/
theorem skipFrom_number (n : Numeral) (hrest : Ends rest) :
    skipFrom .value frames (n.text ++ rest) = skipBehind frames rest := by
  have hspot : (if n.whole = 0 then Spot.zero else .whole) = .zero ∨
      (if n.whole = 0 then Spot.zero else .whole) = .whole := by
    split
    · exact .inl rfl
    · exact .inr rfl
  rw [Numeral.text]
  cases n.negative with
  | false =>
    have hvalue : ∀ c : Char, c.isDigit = true →
        move .value frames c = .go (if c = '0' then .zero else .whole) frames :=
      fun _ ↦ moveValue_of_isDigit
    rw [if_neg Bool.false_ne_true, List.nil_append, List.append_assoc]
    exact (skipFrom_whole hvalue n.whole).trans (skipFrom_tail hspot n hrest)
  | true =>
    have hmove : move .value frames '-' = .go .minus frames := rfl
    have hminus : ∀ c : Char, c.isDigit = true →
        move .minus frames c = .go (if c = '0' then .zero else .whole) frames := by
      intro c hc
      by_cases hzero : c = '0' <;> simp [move, hzero, hc]
    rw [if_pos rfl, List.append_assoc, List.append_assoc, List.singleton_append, skipFrom, hmove]
    exact (skipFrom_whole hminus n.whole).trans (skipFrom_tail hspot n hrest)

end JsonText

end ChipEight
