import ChipEight.Text.Lower
import Mathlib.Data.List.Basic

/-!
# Lower case and ASCII

A text that is all ASCII in lower case need not have been ASCII before. The Kelvin sign becomes a
common `k`, and the dotted capital `İ` begins with a common `i`. There are no other characters of
the kind, and the dot behind that `i` is beyond ASCII. So if lower case leaves nothing but ASCII
characters and no `k`, all that has happened is that capitals of ASCII have become small letters,
which is `LowerCased.eq_map_toLower`.

`Σ` has two forms in lower case. `LowerCased` leaves open which one stands where; what follows does
not depend on it.
-/

namespace ChipEight

/-- The forms that a character can take in lower case. -/
def lowerForms (c : Char) : List (List Char) :=
  if c = 'Σ' then [['σ'], ['ς']] else [lowerCase c]

/-- Characters and what they are in lower case, whichever form each of them takes. -/
inductive LowerCased : List Char → List Char → Prop
  | nil : LowerCased [] []
  | cons {c : Char} {cs form letters : List Char} (hform : form ∈ lowerForms c)
      (h : LowerCased cs letters) : LowerCased (c :: cs) (form ++ letters)

/-- Whether a character is one of the 128 of ASCII. -/
def isAscii (c : Char) : Bool := c.toNat < 0x80

variable {c d : Char} {cs form letters : List Char}

/-! ## Single characters -/

theorem lowerCase_mem_lowerForms (c : Char) : lowerCase c ∈ lowerForms c := by
  rw [lowerForms]
  split
  · next h =>
    rw [h]
    decide +kernel
  · exact List.mem_singleton_self _

theorem lowerForms_of_isAscii (h : isAscii c = true) : lowerForms c = [[c.toLower]] := by
  have hall : ∀ n < 0x80, lowerForms (Char.ofNat n) = [[(Char.ofNat n).toLower]] := by
    decide +kernel
  have hc := hall c.toNat (of_decide_eq_true h)
  rwa [Char.ofNat_toNat] at hc

/-- A character is a small letter made of it, or the capital of one. -/
theorem eq_toLower_or_eq_toUpper (c : Char) : c = c.toLower ∨ c = c.toLower.toUpper := by
  by_cases h : isAscii c = true
  · have hall : ∀ n < 0x80, Char.ofNat n = (Char.ofNat n).toLower ∨
        Char.ofNat n = (Char.ofNat n).toLower.toUpper := by
      decide +kernel
    have hc := hall c.toNat (of_decide_eq_true h)
    rwa [Char.ofNat_toNat] at hc
  · have hbeyond : ¬(c.val ≥ 'A'.val ∧ c.val ≤ 'Z'.val) := by
      rintro ⟨-, hle⟩
      have hsmall : c.toNat ≤ 'Z'.toNat := UInt32.le_iff_toNat_le.mp hle
      exact h (decide_eq_true (Nat.lt_of_le_of_lt hsmall (by decide)))
    have hsame : c.toLower = c := dif_neg hbeyond
    exact .inl hsame.symm

/-- Whether all forms of a run are characters beyond ASCII, or the one character of the run is the
Kelvin sign. -/
def Lower.CaseRun.isForeign (r : CaseRun) : Bool :=
  r.first == 0x212A && r.last == 0x212A && r.form == 'k'.toNat ||
    0x80 ≤ r.form &&
      (r.form + (r.last - r.first) < 0xD800 ||
        0xE000 ≤ r.form && r.form + (r.last - r.first) < 0x110000)

theorem Lower.CaseRun.form_of_isForeign {r : CaseRun} {n k : ℕ} (hr : r.isForeign = true)
    (h : r.form? n = some k) : k = 'k'.toNat ∨ 0x80 ≤ k ∧ k.isValidChar := by
  obtain ⟨⟨hfirst, hlast, -⟩, hk⟩ := Option.ite_none_right_eq_some.mp h
  obtain rfl := Option.some.inj hk
  simp only [isForeign, Bool.or_eq_true, Bool.and_eq_true, beq_iff_eq, decide_eq_true_eq] at hr
  rcases hr with ⟨⟨hkelvin, hone⟩, hform⟩ | ⟨hbeyond, hvalid⟩
  · exact .inl (by omega)
  · refine .inr ⟨by omega, ?_⟩
    unfold Nat.isValidChar
    omega

/-- Beyond ASCII there are two characters with an ASCII character in a form of theirs. -/
theorem form_of_not_isAscii (hc : isAscii c = false) (hform : form ∈ lowerForms c) :
    form = ['i', '\u0307'] ∨ ∃ d, form = [d] ∧ (d = 'k' ∨ isAscii d = false) := by
  have hall : Lower.runs.all (fun r ↦ decide (r.last < 0x80) || r.isForeign) = true := by
    decide +kernel
  rw [lowerForms] at hform
  split at hform
  · rcases List.mem_pair.mp hform with rfl | rfl
    · exact .inr ⟨_, rfl, .inr (by decide)⟩
    · exact .inr ⟨_, rfl, .inr (by decide)⟩
  · obtain rfl := List.mem_singleton.mp hform
    rw [lowerCase]
    split
    · exact .inl rfl
    · split
      · next k hk =>
        obtain ⟨r, hr, hform⟩ := List.exists_of_findSome?_eq_some hk
        have hlast : ¬r.last < 0x80 := by
          obtain ⟨⟨-, hlast, -⟩, -⟩ := Option.ite_none_right_eq_some.mp hform
          have := of_decide_eq_false hc
          omega
        have hforeign : r.isForeign = true := by
          simpa [hlast] using List.all_eq_true.mp hall r hr
        refine .inr ⟨_, rfl, ?_⟩
        rcases Lower.CaseRun.form_of_isForeign hforeign hform with rfl | ⟨hbeyond, hvalid⟩
        · exact .inl (by decide)
        · have hvalue : (Char.ofNat k).toNat = k := by
            rw [Char.ofNat, dif_pos hvalid]
            rfl
          exact .inr (decide_eq_false (by omega))
      · exact .inr ⟨c, rfl, .inr hc⟩

/-! ## Texts -/

theorem lowerCased_lowered (cs : List Char) : LowerCased cs (lowered cs) := by
  induction cs with
  | nil => exact .nil
  | cons c cs ih => exact .cons (lowerCase_mem_lowerForms c) ih

theorem LowerCased.eq_map_of_isAscii (h : LowerCased cs letters)
    (hcs : ∀ c ∈ cs, isAscii c = true) : letters = cs.map Char.toLower := by
  induction h with
  | nil => rfl
  | cons hform h ih =>
    obtain ⟨hc, hcs⟩ := List.forall_mem_cons.mp hcs
    rw [lowerForms_of_isAscii hc, List.mem_singleton] at hform
    rw [hform, ih hcs, List.map_cons, List.singleton_append]

/-- Where lower case leaves ASCII characters and no `k`, there were ASCII characters before. -/
theorem LowerCased.isAscii_of_letters (h : LowerCased cs letters)
    (hletters : ∀ l ∈ letters, l ≠ 'k' ∧ isAscii l = true) : ∀ c ∈ cs, isAscii c = true := by
  induction h with
  | nil => exact nofun
  | @cons c cs form letters hform h ih =>
    obtain ⟨hfront, hrest⟩ := List.forall_mem_append.mp hletters
    refine List.forall_mem_cons.mpr ⟨?_, ih hrest⟩
    by_contra hc
    rw [Bool.not_eq_true] at hc
    rcases form_of_not_isAscii hc hform with rfl | ⟨d, rfl, rfl | hd⟩
    · exact absurd (hfront '\u0307' (by decide)).2 (by decide)
    · exact (hfront 'k' (.head _)).1 rfl
    · exact Bool.false_ne_true (hd.symm.trans (hfront d (.head _)).2)

/-- Where lower case leaves ASCII characters and no `k`, it has only made small letters of the
capitals. -/
theorem LowerCased.eq_map_toLower (h : LowerCased cs letters)
    (hletters : ∀ l ∈ letters, l ≠ 'k' ∧ isAscii l = true) : letters = cs.map Char.toLower :=
  h.eq_map_of_isAscii (h.isAscii_of_letters hletters)

end ChipEight
