import ChipEight.Proofs.JsonText.Numerals
import ChipEight.Proofs.JsonText.Strings

/-!
# Skipping whole values

The automaton is where a value is due, reads the text of a value, and ends up where it would be
behind any value: `Tree.skipFrom_text`. The stack of open brackets below the value is the same
before and after, so nesting of any depth is one induction on the tree. Lists and objects have the
bracket that closes them in the statement, for their frame is gone only behind it.

The first character of a value decides which kind it is, and shows that no blank and no bracket in
front of it was overlooked. `Tree.Begins` lists these characters for the readers too.
-/

namespace ChipEight

namespace JsonText

variable {cs rest : List Char} {c : Char} {frames outer : List Frame} {spot : Spot}

/-! ## Blanks -/

theorem isSpace_blank (b : Blank) : isSpace b.char = true := by
  cases b <;> rfl

@[simp] theorem skipSpace_blanks (bs : Blanks) : skipSpace (bs.text ++ cs) = skipSpace cs := by
  induction bs with
  | nil => rfl
  | cons b bs ih => exact (List.dropWhile_cons_of_pos (isSpace_blank b)).trans ih

theorem skipSpace_cons (h : isSpace c = false) : skipSpace (c :: cs) = c :: cs :=
  List.dropWhile_cons_of_neg (by simp [h])

theorem skipFrom_blanks (hmove : ∀ b : Blank, move spot frames b.char = .go spot frames)
    (bs : Blanks) : skipFrom spot frames (bs.text ++ cs) = skipFrom spot frames cs := by
  induction bs with
  | nil => rfl
  | cons b bs ih =>
    have htext : Blanks.text (b :: bs) = b.char :: Blanks.text bs := rfl
    rw [htext, List.cons_append, skipFrom, hmove b]
    exact ih

theorem move_value_blank (b : Blank) : move .value frames b.char = .go .value frames := by
  cases b <;> rfl

theorem move_opened_blank (b : Blank) : move .opened frames b.char = .go .opened frames := by
  cases b <;> rfl

theorem move_key_blank (b : Blank) : move .key frames b.char = .go .key frames := by
  cases b <;> rfl

theorem move_colon_blank (b : Blank) : move .colon frames b.char = .go .colon frames := by
  cases b <;> rfl

theorem skipBehind_blanks {frame : Frame} (bs : Blanks) :
    skipBehind (frame :: frames) (bs.text ++ cs) = skipBehind (frame :: frames) cs :=
  have hmove (b : Blank) :
      move .finished (frame :: frames) b.char = .go .finished (frame :: frames) := by
    cases b <;> cases frame <;> rfl
  skipFrom_blanks hmove bs

/-! ## First characters -/

/-- The first characters that a value may have. -/
def Tree.Begins : Tree → Char → Prop
  | .null, c => c = 'n'
  | .boolean b, c => c = if b then 't' else 'f'
  | .number _, c => startsNumber c = true
  | .string _, c => c = '\x22'
  | .list .., c => c = '['
  | .object .., c => c = '\x7b'

theorem startsNumber_iff : startsNumber c = true ↔ c = '-' ∨ c.isDigit = true := by
  simp [startsNumber]

theorem Numeral.exists_text_eq (n : Numeral) :
    ∃ c cs, n.text = c :: cs ∧ startsNumber c = true := by
  cases hsign : n.negative with
  | true => exact ⟨'-', _, by rw [text, hsign]; rfl, rfl⟩
  | false =>
    cases hcs : Nat.toDigits 10 n.whole with
    | nil => exact absurd hcs Nat.toDigits_ne_nil
    | cons c cs =>
      have hc : c.isDigit = true := isDigit_of_mem_toDigits (n := n.whole) (by simp [hcs])
      exact ⟨c, cs ++ n.tail, by rw [text, hsign, hcs]; rfl, startsNumber_iff.mpr (.inr hc)⟩

theorem Tree.exists_text_eq (t : Tree) : ∃ c cs, t.text = c :: cs ∧ t.Begins c := by
  cases t with
  | null => exact ⟨'n', _, rfl, rfl⟩
  | boolean b => cases b <;> exact ⟨_, _, rfl, rfl⟩
  | number n => exact n.exists_text_eq
  | string ps => exact ⟨'\x22', _, rfl, rfl⟩
  | list gap items => exact ⟨'[', _, rfl, rfl⟩
  | object gap members => exact ⟨'\x7b', _, rfl, rfl⟩

/-- No value begins with a character that `bad` refuses, if no digit is one either. -/
theorem Tree.Begins.ne {t : Tree} (h : t.Begins c) (bad : Char) (hdigit : bad.isDigit = false)
    (hbad : bad ∉ ['n', 't', 'f', '-', '\x22', '[', '\x7b']) : c ≠ bad := by
  rintro rfl
  cases t with
  | boolean b =>
    obtain rfl : c = if b then 't' else 'f' := h
    cases b <;> simp at hbad
  | number n =>
    rcases startsNumber_iff.mp h with rfl | hc
    · simp at hbad
    · rw [hdigit] at hc
      cases hc
  | _ =>
    obtain rfl := h
    simp at hbad

theorem Tree.Begins.not_space {t : Tree} (h : t.Begins c) : isSpace c = false := by
  have hspace := h.ne ' ' (by decide) (by decide)
  have hfeed := h.ne '\n' (by decide) (by decide)
  have htab := h.ne '\t' (by decide) (by decide)
  have hreturn := h.ne '\r' (by decide) (by decide)
  simp [isSpace, hspace, hfeed, htab, hreturn]

theorem Tree.Begins.exists_number {t : Tree} (h : t.Begins c) (hc : startsNumber c = true) :
    ∃ n, t = .number n := by
  cases t with
  | number n => exact ⟨n, rfl⟩
  | boolean b =>
    obtain rfl : c = if b then 't' else 'f' := h
    cases b <;> simp [startsNumber] at hc
  | _ =>
    obtain rfl := h
    simp [startsNumber] at hc

theorem Tree.Begins.exists_list {t : Tree} (h : t.Begins '[') :
    ∃ gap items, t = .list gap items := by
  cases t with
  | list gap items => exact ⟨gap, items, rfl⟩
  | boolean b => cases b <;> simp [Begins] at h
  | _ => simp [Begins, startsNumber] at h

theorem Tree.Begins.eq_boolean {t : Tree} {b : Bool} (h : t.Begins (if b then 't' else 'f')) :
    t = .boolean b := by
  cases t with
  | boolean b' => cases b <;> cases b' <;> simp [Begins] at h ⊢
  | _ => cases b <;> simp [Begins, startsNumber] at h

theorem Tree.skipSpace_text (t : Tree) (rest : List Char) :
    skipSpace (t.text ++ rest) = t.text ++ rest := by
  obtain ⟨c, cs, htext, hc⟩ := t.exists_text_eq
  rw [htext, List.cons_append, skipSpace_cons hc.not_space]

/-- Behind an opened bracket a value is taken as it is where a value is due. -/
theorem skipFrom_opened (t : Tree) :
    skipFrom .opened (.list :: frames) (t.text ++ rest)
      = skipFrom .value (.list :: frames) (t.text ++ rest) := by
  obtain ⟨c, cs, htext, hc⟩ := t.exists_text_eq
  have hclose : c.toNat ≠ 0x5D := fun h ↦
    hc.ne ']' (by decide) (by decide) (Char.toNat_inj.mp h)
  have hmove : move .opened (.list :: frames) c = move .value (.list :: frames) c := by
    simp [move, moveOpened, hc.not_space, hclose]
  rw [htext, List.cons_append, skipFrom, skipFrom, hmove]

/-! ## Skipping -/

theorem ends_itemsText (items : List (Laid Tree)) (after : Blanks) (rest : List Char) :
    Ends (after.text ++ (Tree.itemsText false items ++ ']' :: rest)) := by
  refine Ends.blanks ?_ after
  cases items with
  | nil => exact ends_cons.mpr (by decide)
  | cons l items => exact ends_cons.mpr (by decide)

theorem ends_membersText (members : List (Laid (List Piece) × Laid Tree)) (after : Blanks)
    (rest : List Char) :
    Ends (after.text ++ (Tree.membersText false members ++ '\x7d' :: rest)) := by
  refine Ends.blanks ?_ after
  cases members with
  | nil => exact ends_cons.mpr (by decide)
  | cons m members => exact ends_cons.mpr (by decide)

/-- A character that completes a value is the last one of it. -/
theorem skipFrom_complete (h : move spot frames c = moveComplete outer) :
    skipFrom spot frames (c :: cs) = skipBehind outer cs := by
  rw [skipFrom, h]
  cases outer <;> rfl

theorem skipFrom_key (hspot : spot = .opened ∨ spot = .key) (key : Laid (List Piece)) :
    skipFrom spot (.object :: frames)
        (key.text (fun ps ↦ inQuotes (piecesText ps)) ++ ':' :: cs)
      = skipFrom .value (.object :: frames) cs := by
  rcases key with ⟨before, ps, after⟩
  have hblank (b : Blank) :
      move spot (.object :: frames) b.char = .go spot (.object :: frames) := by
    rcases hspot with rfl | rfl
    · exact move_opened_blank b
    · exact move_key_blank b
  have hquote : move spot (.object :: frames) '\x22' = .go (.string true) (.object :: frames) := by
    rcases hspot with rfl | rfl <;> rfl
  simp only [Laid.text, inQuotes, List.append_assoc, List.cons_append, List.nil_append]
  rw [skipFrom_blanks hblank, skipFrom, hquote]
  dsimp only
  rw [skipFrom_pieces]
  exact skipFrom_blanks move_colon_blank after

mutual

/-- **Every value is skipped to its end**, whatever it is made of. -/
theorem Tree.skipFrom_text (frames : List Frame) (rest : List Char) (hrest : Ends rest) :
    (t : Tree) → skipFrom .value frames (t.text ++ rest) = skipBehind frames rest
  | .null => by cases frames <;> rfl
  | .boolean true => by cases frames <;> rfl
  | .boolean false => by cases frames <;> rfl
  | .number n => skipFrom_number n hrest
  | .string ps => by
    rw [Tree.text, inQuotes, List.cons_append, List.append_assoc]
    exact (skipFrom_pieces ps).trans (skipFrom_complete rfl)
  | .list gap items => by
    rw [Tree.text, List.cons_append, List.append_assoc, List.append_assoc]
    exact (skipFrom_blanks move_opened_blank gap).trans
      (Tree.skipFrom_items frames rest true items)
  | .object gap members => by
    rw [Tree.text, List.cons_append, List.append_assoc, List.append_assoc]
    exact (skipFrom_blanks move_opened_blank gap).trans
      (Tree.skipFrom_members frames rest true members)

theorem Tree.skipFrom_items (frames : List Frame) (rest : List Char) (isFirst : Bool) :
    (items : List (Laid Tree)) →
      skipFrom (if isFirst then .opened else .finished) (.list :: frames)
        (Tree.itemsText isFirst items ++ ']' :: rest) = skipBehind frames rest
  | [] => by cases isFirst <;> exact skipFrom_complete rfl
  | ⟨before, t, after⟩ :: items => by
    have hends := ends_itemsText items after rest
    have ht := Tree.skipFrom_text (.list :: frames) _ hends t
    have hitems := Tree.skipFrom_items frames rest false items
    have hbehind := ht.trans ((skipBehind_blanks after).trans hitems)
    simp only [Tree.itemsText, List.append_assoc]
    cases isFirst with
    | true =>
      rw [if_pos rfl, comma, if_pos rfl, List.nil_append, skipFrom_blanks move_opened_blank,
        skipFrom_opened]
      exact hbehind
    | false =>
      rw [if_neg Bool.false_ne_true, comma, if_neg Bool.false_ne_true]
      exact (skipFrom_blanks move_value_blank before).trans hbehind

theorem Tree.skipFrom_members (frames : List Frame) (rest : List Char) (isFirst : Bool) :
    (members : List (Laid (List Piece) × Laid Tree)) →
      skipFrom (if isFirst then .opened else .finished) (.object :: frames)
        (Tree.membersText isFirst members ++ '\x7d' :: rest) = skipBehind frames rest
  | [] => by cases isFirst <;> exact skipFrom_complete rfl
  | (key, ⟨before, t, after⟩) :: members => by
    have hends := ends_membersText members after rest
    have ht := Tree.skipFrom_text (.object :: frames) _ hends t
    have hmembers := Tree.skipFrom_members frames rest false members
    have hbehind := ht.trans ((skipBehind_blanks after).trans hmembers)
    simp only [Tree.membersText, List.append_assoc, List.cons_append]
    cases isFirst with
    | true =>
      rw [if_pos rfl, comma, if_pos rfl, List.nil_append, skipFrom_key (.inl rfl),
        skipFrom_blanks move_value_blank]
      exact hbehind
    | false =>
      rw [if_neg Bool.false_ne_true, comma, if_neg Bool.false_ne_true]
      refine (skipFrom_key (.inr (rfl : Spot.key = .key)) key).trans ?_
      exact (skipFrom_blanks move_value_blank before).trans hbehind

end

/-- **A value is skipped and the text behind it is left.** -/
theorem skipValue_text (before : Blanks) (t : Tree) (hrest : Ends rest) :
    skipValue (before.text ++ (t.text ++ rest)) = .ok rest :=
  (skipFrom_blanks move_value_blank before).trans (t.skipFrom_text [] rest hrest)

end JsonText

end ChipEight
