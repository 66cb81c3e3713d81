import ChipEight.Proofs.Debugger.Spellings

/-!
# Names of what can be set

`Target.Spells` says which words name a part of the machine, and this file says that no other word
is taken for one. What stands in the way is lower case: a word is put into lower case before it is
read, so many words are read alike, and among characters beyond ASCII some lose their identity. The
result rests on `LowerCased.eq_map_toLower`. A name has nothing but ASCII characters in it and no
`k`, so a word that is read as a name was one already, in letters of either case.

A word is refused with one of two messages, according to whether it begins as a register does.
-/

namespace ChipEight

namespace Target

open Whole

variable {t : Target} {word s : String} {letters digits : List Char} {c : Char}

/-! ## Words that are taken for names -/

/-- Whether a character can come of a name in lower case. -/
def isNameLetter (c : Char) : Bool := c != 'k' && isAscii c

theorem eq_map_toLower_of_isNameLetter (h : LowerCased word.toList letters)
    (hletters : letters.all isNameLetter = true) : letters = word.toList.map Char.toLower := by
  refine h.eq_map_toLower fun l hl ↦ ?_
  have hname := List.all_eq_true.mp hletters l hl
  simpa only [isNameLetter, Bool.and_eq_true, bne_iff_ne] using hname

theorem spells_of_mem_namesOf (h : LowerCased word.toList letters) (ht : (t, letters) ∈ namesOf) :
    t.Spells word := by
  have hall : ∀ name ∈ namesOf, name.2.all isNameLetter = true := by decide
  refine .named ht ?_
  rw [eq_map_toLower_of_isNameLetter h (hall _ ht)]
  exact inAnyCase_toLower _

/-- Behind the `v` of a register there can only be what the digits of its number have become. -/
theorem spells_of_ofDigits (h : LowerCased word.toList ('v' :: digits)) {x : Nibble}
    (hx : ofDigits 16 256 digits = .ok x.val) : Spells (.v x) word := by
  have hsigned := ((ofDigits_eq_ok_iff (by decide) (by decide)).mp hx).1
  have hletters : ('v' :: digits).all isNameLetter = true := by
    have hall : ('v' :: '+' :: digitChars).all isNameLetter = true := by decide
    refine List.all_eq_true.mpr fun l hl ↦ List.all_eq_true.mp hall l ?_
    rcases List.mem_cons.mp hl with rfl | hl
    · exact .head _
    · exact .tail _ (hsigned.mem_chars (by decide) hl)
  obtain ⟨v, rest, hword, hv, rfl⟩ :=
    List.map_eq_cons_iff.mp (eq_map_toLower_of_isNameLetter h hletters).symm
  refine .register (v := v) ?_ hword (hsigned.of_toLower (by decide))
  rcases eq_toLower_or_eq_toUpper v with hcase | hcase
  · exact .inl (hcase.trans hv)
  · rw [hv] at hcase
    exact .inr hcase

theorem spells_of_ofLetters (h : LowerCased word.toList letters)
    (hread : ofLetters s letters = .ok t) : t.Spells word := by
  revert hread
  fun_cases ofLetters s letters with
  | case6 digits n hn hlt =>
    intro hread
    obtain rfl := Except.ok.inj hread
    exact spells_of_ofDigits h hn
  | case7 | case8 | case9 => exact nofun
  | _ =>
    intro hread
    obtain rfl := Except.ok.inj hread
    exact spells_of_mem_namesOf h (by decide)

theorem ofLetters_eq_ok_iff (h : LowerCased word.toList letters) :
    ofLetters s letters = .ok t ↔ t.Spells word :=
  ⟨spells_of_ofLetters h, fun ht ↦ ofLetters_of_spells ht h s⟩

/-! ## Words that are refused -/

/-- Whether a word begins as the name of a register does. -/
def BeginsAsRegister (word : String) : Prop :=
  word.toList.head? = some 'v' ∨ word.toList.head? = some 'V'

instance (word : String) : Decidable (BeginsAsRegister word) :=
  inferInstanceAs (Decidable (_ ∨ _))

theorem head?_eq_v_iff (h : LowerCased word.toList letters) :
    letters.head? = some 'v' ↔ BeginsAsRegister word := by
  rw [BeginsAsRegister]
  generalize word.toList = text at h ⊢
  cases h with
  | nil => simp
  | @cons c cs form letters hform h =>
    rw [List.head?_cons, Option.some.injEq, Option.some.injEq]
    by_cases hc : isAscii c = true
    · rw [lowerForms_of_isAscii hc, List.mem_singleton] at hform
      rw [hform, List.singleton_append, List.head?_cons, Option.some.injEq]
      constructor
      · intro hv
        have hcase := eq_toLower_or_eq_toUpper c
        rwa [hv] at hcase
      · rintro (rfl | rfl)
        · rfl
        · rfl
    · have hne : ¬(c = 'v' ∨ c = 'V') := by
        rintro (rfl | rfl)
        · exact hc rfl
        · exact hc rfl
      rw [Bool.not_eq_true] at hc
      rcases form_of_not_isAscii hc hform with rfl | ⟨d, rfl, rfl | hd⟩
      · simp [hne]
      · simp [hne]
      · have hdv : d ≠ 'v' := by
          rintro rfl
          cases hd
        simp [hne, hdv]

theorem ofLetters_of_not_spells (h : LowerCased word.toList letters)
    (hno : ∀ t : Target, ¬t.Spells word) :
    ofLetters word letters = .error (if BeginsAsRegister word then s!"Invalid register: '{word}'"
      else s!"Unknown set target: '{word}'") := by
  have hhead := head?_eq_v_iff h
  cases hread : ofLetters word letters with
  | ok t => exact absurd (spells_of_ofLetters h hread) (hno t)
  | error reason =>
    revert hread
    fun_cases ofLetters word letters with
    | case6 => exact nofun
    | case7 | case8 =>
      rintro ⟨⟩
      rw [if_pos (hhead.mp rfl)]
    | case9 _ _ _ _ _ _ hv =>
      rintro ⟨⟩
      rw [if_neg]
      intro hbegins
      obtain ⟨rest, hletters⟩ := List.head?_eq_some_iff.mp (hhead.mpr hbegins)
      exact hv rest hletters
    | _ => exact nofun

theorem not_spells_of_mem (hc : c ∈ word.toList) (hforeign : isAscii c = false ∨ c = '-') :
    ¬t.Spells word := by
  intro h
  rcases hforeign with hforeign | rfl
  · exact Bool.false_ne_true (hforeign.symm.trans (h.isAscii c hc))
  · have hminus : '-' ∉ nameChars := by decide
    exact hminus (h.mem_nameChars hc)

/-- What follows the `v` of a name is the number of a register. -/
theorem Spells.register_of_cons (h : t.Spells word) (hv : c = 'v' ∨ c = 'V')
    (hword : word.toList = c :: digits) : ∃ x : Nibble, IsSigned 16 x.val digits := by
  cases h with
  | @register x _ _ _ _ hcons hx =>
    obtain ⟨-, rfl⟩ := List.cons.inj (hcons.symm.trans hword)
    exact ⟨x, hx⟩
  | @named _ letters _ ht h =>
    have hno : ∀ name ∈ namesOf, ['v', 'V'].all
        (fun v ↦ !(name.2 ++ name.2.map Char.toUpper).contains v) = true := by
      decide
    have hmem : c ∈ letters ++ letters.map Char.toUpper := h.mem (by rw [hword]; exact .head _)
    have hfree := List.all_eq_true.mp (hno _ ht) c (by simpa using hv)
    simp only [Bool.not_eq_true', ← Bool.not_eq_true, List.contains_iff_mem] at hfree
    exact absurd hmem hfree

theorem not_spells_of_digits (hv : c = 'v' ∨ c = 'V') (hword : word.toList = c :: digits)
    (hdigits : digits = [] ∨ digits = ['+'] ∨ ∃ n, 16 ≤ n ∧ IsSigned 16 n digits) :
    ¬t.Spells word := by
  intro h
  obtain ⟨x, hx⟩ := h.register_of_cons hv hword
  rcases hdigits with rfl | rfl | ⟨n, hlarge, hn⟩
  · rcases hx with hx | ⟨_, hnil, -⟩
    · exact hx.1 rfl
    · cases hnil
  · rcases hx with hx | ⟨_, hplus, hx⟩
    · have hmem := hx.mem_digitChars (by decide) (List.mem_singleton_self _)
      revert hmem
      decide
    · obtain ⟨-, rfl⟩ := List.cons.inj hplus
      exact hx.1 rfl
  · have hlt := x.lt
    have heq := hx.unique (by decide) hn
    omega

/-- **The names of what can be set are read, and nothing else is.** A word is read as a target
exactly if it spells that target, and the letters in lower case that this goes by may be those of
any rule for the end of words. Every other word is refused with a message about registers, if it
begins with a `v`, or about targets.

No name has a character beyond ASCII or a minus sign in it. Behind a `v` there must be digits, with
a sign or without, and their number must be below sixteen, however many digits there are. -/
theorem ofText_eq_ok_iff_spells (s : String) :
    (∀ t, ofText s = .ok t ↔ t.Spells s) ∧
    (∀ letters, LowerCased s.toList letters → ofLetters s letters = ofText s) ∧
    ((∀ t : Target, ¬t.Spells s) →
      ofText s = .error (if BeginsAsRegister s then s!"Invalid register: '{s}'"
        else s!"Unknown set target: '{s}'")) ∧
    (∀ c ∈ s.toList, isAscii c = false ∨ c = '-' → ∀ t : Target, ¬t.Spells s) ∧
    ∀ v digits, v = 'v' ∨ v = 'V' → s.toList = v :: digits →
      digits = [] ∨ digits = ['+'] ∨ (∃ n, 16 ≤ n ∧ IsSigned 16 n digits) →
      ∀ t : Target, ¬t.Spells s := by
  have hlowered := lowerCased_lowered s.toList
  refine ⟨fun t ↦ ofLetters_eq_ok_iff hlowered, fun letters h ↦ ?_,
    ofLetters_of_not_spells hlowered, fun c hc hforeign t ↦ not_spells_of_mem hc hforeign,
    fun v digits hv hword hdigits t ↦ not_spells_of_digits hv hword hdigits⟩
  by_cases hspells : ∃ t : Target, t.Spells s
  · obtain ⟨t, ht⟩ := hspells
    rw [ofLetters_of_spells ht h, ofText_of_spells ht]
  · have hno : ∀ t : Target, ¬t.Spells s := not_exists.mp hspells
    rw [ofLetters_of_not_spells h hno, ofText, ofLetters_of_not_spells hlowered hno]

/-- A register is named with a sign and zeros. A number that is fifteen but for its first digit is
too large, and a long `ſ` is no `s`. -/
theorem ofText_eq_ok_iff_spells_sixteenDigits :
    ofText "V+00f" = .ok (.v (.ofNat 15)) ∧
    ofText "v100000000000000f" = .error "Invalid register: 'v100000000000000f'" ∧
    ofText "ſt" = .error "Unknown set target: 'ſt'" := by
  refine ⟨((ofText_eq_ok_iff_spells _).1 _).mpr ?_, ?_, ?_⟩
  · have hdigits : IsNumeral 16 15 "00f".toList :=
      ⟨by decide, [0, 0, 15], by simp [IsDigit], by decide⟩
    exact .register (.inr rfl) (by decide) (.inr ⟨"00f".toList, rfl, hdigits⟩)
  · obtain ⟨-, -, hrefused, -, hdigits⟩ := ofText_eq_ok_iff_spells "v100000000000000f"
    have hlarge : IsNumeral 16 0x100000000000000F "100000000000000f".toList :=
      ⟨by decide, [1, 0, 0, 0, 0, 0, 0, 0, 0, 0, 0, 0, 0, 0, 0, 15], by simp [IsDigit],
        by decide⟩
    exact hrefused (hdigits 'v' "100000000000000f".toList (.inl rfl) (by decide)
      (.inr (.inr ⟨_, by decide, .inl hlarge⟩)))
  · obtain ⟨-, -, hrefused, hforeign, -⟩ := ofText_eq_ok_iff_spells "ſt"
    exact hrefused (hforeign 'ſ' (by decide) (.inl rfl))

end Target

end ChipEight
