import ChipEight.JsonText.Skip
import ChipEight.Proofs.JsonText.Tree

/-!
# Reading and skipping written strings

Both readers treat a string letter by letter, whatever its spelling, so one lemma per letter is all
that the induction needs. Reading gives the characters that are spelled. Skipping gives none and so
takes half of a surrogate pair as well.
-/

namespace ChipEight

namespace JsonText

variable {cs rest : List Char}

/-! ## Code units -/

theorem hexValue?_char (d : HexDigit) : hexValue? d.char = some d.value.val := by
  rcases d with ⟨value, capital⟩
  revert value capital
  decide

theorem utf8Size_char (d : HexDigit) : d.char.utf8Size = 1 := by
  rcases d with ⟨value, capital⟩
  revert value capital
  decide

theorem CodeUnit.hexNumber?_text (u : CodeUnit) : hexNumber? u.text = some u.value := by
  simp only [hexNumber?, text, List.foldl_cons, List.foldl_nil, hexValue?_char, Option.pure_def,
    Option.bind_eq_bind, Option.bind_some, value, Option.some.injEq]
  omega

theorem CodeUnit.utf8ByteSize_text (u : CodeUnit) : (String.ofList u.text).utf8ByteSize = 4 := by
  simp [text, utf8Size_char]

theorem codeUnit_text (u : CodeUnit) : codeUnit (u.text ++ cs) = .ok u.value := by
  have htake : (u.text ++ cs).take 4 = u.text := rfl
  simp only [codeUnit, htake, u.utf8ByteSize_text, u.hexNumber?_text, Nat.lt_irrefl, if_false]

theorem isLeading_iff {u : CodeUnit} : isLeading u.value = true ↔ u.Leads := by
  simp [isLeading, CodeUnit.Leads]

theorem isTrailing_iff {u : CodeUnit} : isTrailing u.value = true ↔ u.Trails := by
  simp [isTrailing, CodeUnit.Trails]

/-- The first half of a pair is not the second half of one. -/
theorem CodeUnit.Leads.not_trails {u : CodeUnit} (h : u.Leads) : ¬u.Trails := by
  intro ht
  have := h.2
  have := ht.1
  omega

theorem escapedUnit_single {u : CodeUnit} (h : ¬u.Leads ∧ ¬u.Trails) :
    escapedUnit (u.text ++ cs) = .ok (Char.ofNat u.value, 4) := by
  have hleads : isLeading u.value = false := Bool.eq_false_iff.mpr (mt isLeading_iff.mp h.1)
  have htrails : isTrailing u.value = false := Bool.eq_false_iff.mpr (mt isTrailing_iff.mp h.2)
  simp [escapedUnit, codeUnit_text, hleads, htrails, bind, Except.bind, pure, Except.pure]

theorem escapedUnit_pair {u v : CodeUnit} (hu : u.Leads) (hv : v.Trails) :
    escapedUnit (u.text ++ '\\' :: 'u' :: (v.text ++ cs))
      = .ok (Char.ofNat ((u.value - 0xD800) * 0x400 + (v.value - 0xDC00) + 0x10000), 10) := by
  have hleads : isLeading u.value = true := isLeading_iff.mpr hu
  have hnot : isTrailing u.value = false :=
    Bool.eq_false_iff.mpr (mt isTrailing_iff.mp hu.not_trails)
  have htrails : isTrailing v.value = true := isTrailing_iff.mpr hv
  have hdrop : (u.text ++ '\\' :: 'u' :: (v.text ++ cs)).drop 4 = '\\' :: 'u' :: (v.text ++ cs) :=
    rfl
  simp [escapedUnit, codeUnit_text, hdrop, hleads, hnot, htrails, bind, Except.bind, pure,
    Except.pure]

/-! ## Reading -/

theorem readStringFrom_plain {c : Char} (h : IsPlain c) (done : List Char) :
    readStringFrom done (c :: cs) = readStringFrom (c :: done) cs := by
  obtain ⟨hcontrol, hquote, hbackslash⟩ := h
  rw [readStringFrom, if_neg (by omega)]
  all_goals simp [hquote, hbackslash]

theorem readStringFrom_short (e : ShortEscape) (done : List Char) :
    readStringFrom done ('\\' :: e.letter :: cs) = readStringFrom (e.char :: done) cs := by
  cases e <;> (rw [readStringFrom]; rfl; simp [ShortEscape.letter])

theorem readStringFrom_unit {c : Char} {size : Nat} {done : List Char}
    (h : escapedUnit cs = .ok (c, size)) :
    readStringFrom done ('\\' :: 'u' :: cs) = readStringFrom (c :: done) (cs.drop size) := by
  rw [readStringFrom, h]

/-- A letter is read as the character that it spells. -/
theorem readStringFrom_letter (l : Letter) (done : List Char) :
    readStringFrom done (l.text ++ cs) = readStringFrom (l.char :: done) cs := by
  cases l with
  | plain c isPlain => exact readStringFrom_plain isPlain done
  | short e => exact readStringFrom_short e done
  | unit u single => exact readStringFrom_unit (escapedUnit_single single)
  | pair u v leads trails =>
    rw [Letter.text, List.cons_append, List.cons_append, List.append_assoc]
    exact readStringFrom_unit (escapedUnit_pair leads trails)

theorem readStringFrom_inner (s : Spelling) (done : List Char) :
    readStringFrom done (s.inner ++ '\x22' :: rest)
      = .ok (done.reverse ++ s.map Letter.char, rest) := by
  induction s generalizing done with
  | nil => simp [Spelling.inner, readStringFrom]
  | cons l s ih =>
    have hinner : Spelling.inner (l :: s) = l.text ++ Spelling.inner s := List.flatMap_cons
    rw [hinner, List.append_assoc, readStringFrom_letter, ih]
    simp

/-- **A written string is read as the string that it spells**, whatever its spelling. -/
theorem readString_inner (s : Spelling) :
    readString (s.inner ++ '\x22' :: rest) = .ok (s.string, rest) := by
  rw [readString, readStringFrom_inner]
  rfl

/-! ## Skipping -/

variable {frames : List Frame} {isKey : Bool}

theorem skipFrom_unit (u : CodeUnit) :
    skipFrom (.unit isKey 0 true) frames (u.text ++ cs) = skipFrom (.string isKey) frames cs := by
  simp [CodeUnit.text, skipFrom, move, hexValue?_char, utf8Size_char]

theorem skipFrom_escape :
    skipFrom (.string isKey) frames ('\\' :: cs) = skipFrom (.escape isKey) frames cs := rfl

theorem skipFrom_escaped_unit (u : CodeUnit) :
    skipFrom (.string isKey) frames ('\\' :: 'u' :: (u.text ++ cs))
      = skipFrom (.string isKey) frames cs := by
  rw [skipFrom_escape]
  exact skipFrom_unit u

theorem skipFrom_plain {c : Char} (h : IsPlain c) :
    skipFrom (.string isKey) frames (c :: cs) = skipFrom (.string isKey) frames cs := by
  obtain ⟨hcontrol, hquote, hbackslash⟩ := h
  have hquote : c.toNat ≠ 0x22 := fun h ↦ hquote (Char.toNat_inj.mp h)
  have hbackslash : c.toNat ≠ 0x5C := fun h ↦ hbackslash (Char.toNat_inj.mp h)
  have hmove : move (.string isKey) frames c = .go (.string isKey) frames := by
    rw [move, if_neg hquote, if_neg hbackslash, if_neg (by omega)]
  rw [skipFrom, hmove]

theorem skipFrom_letter (l : Letter) :
    skipFrom (.string isKey) frames (l.text ++ cs) = skipFrom (.string isKey) frames cs := by
  cases l with
  | plain c isPlain => exact skipFrom_plain isPlain
  | short e => cases e <;> rfl
  | unit u single => exact skipFrom_escaped_unit u
  | pair u v leads trails =>
    rw [Letter.text, List.cons_append, List.cons_append, List.append_assoc, skipFrom_escaped_unit]
    exact skipFrom_escaped_unit v

theorem skipFrom_pieces (ps : List Piece) :
    skipFrom (.string isKey) frames (piecesText ps ++ cs) = skipFrom (.string isKey) frames cs := by
  induction ps with
  | nil => rfl
  | cons p ps ih =>
    rw [piecesText, List.flatMap_cons, List.append_assoc]
    cases p with
    | letter l => exact (skipFrom_letter l).trans ih
    | unit u => exact (skipFrom_escaped_unit u).trans ih

end JsonText

end ChipEight
