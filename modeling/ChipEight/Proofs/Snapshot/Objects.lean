import ChipEight.Proofs.Snapshot.Drafts

/-!
# Snapshots written as objects

An object is written with its members in any order, members under other names among them, keys
spelled in any way and blanks wherever they may stand. Reading it is a walk along the members that
carries a draft: `Draft.give?` is one step, without any text, and it gives up at a member that
names a field for the second time or has a value of another type. What the reader does with the text
of the members is that walk (`readMembers_append`, `readMembers_error`), and everything else is
about the walk: it gets through exactly if no field is named twice and all values are of their
types, and then has given the fields that are named, and no others, the values that are written.
-/

namespace ChipEight

open JsonText

namespace Snapshot

/-- A member of an object as it is written. -/
structure Member where
  key : Laid Spelling
  value : Laid Tree

namespace Member

def text (m : Member) : List Char :=
  m.key.text (fun s ↦ inQuotes s.inner) ++ ':' :: m.value.text Tree.text

/-- The name of a member, whatever its spelling. -/
def name (m : Member) : String := m.key.item.string

/-- The field that a member names. -/
def field? (m : Member) : Option SnapshotField := SnapshotField.ofName? m.name

/-- A member that names a field has a value of that field. -/
def WellTyped (m : Member) : Prop := ∀ f, m.field? = some f → f.value? m.value.item ≠ none

end Member

def membersText (isFirst : Bool) : List Member → List Char
  | [] => []
  | m :: ms => comma isFirst ++ (m.text ++ membersText false ms)

/-- An object as it is written. -/
structure WrittenObject where
  before : Blanks
  /-- The blanks behind the opening brace. -/
  gap : Blanks
  members : List Member
  after : Blanks

def WrittenObject.text (o : WrittenObject) : String :=
  String.ofList (o.before.text ++
    '\x7b' :: (o.gap.text ++ (membersText true o.members ++ '\x7d' :: o.after.text)))

/-- The fields that members name, from left to right. -/
def fields (ms : List Member) : List SnapshotField := ms.filterMap Member.field?

variable {d d' : Draft} {m : Member} {ms : List Member} {f : SnapshotField} {rest : List Char}

/-! ## The walk along the members -/

/-- Gives the field that a member names the value of the member. Nothing comes of it if the field is
given already or has no such value. -/
def Draft.give? (d : Draft) (m : Member) : Option Draft :=
  match m.field? with
  | none => some d
  | some f => if d.has f then none else (f.value? m.value.item).map (d.set f)

theorem Draft.give?_eq_some (h : d.give? m = some d') :
    (m.field? = none ∧ d' = d) ∨
      ∃ f a, m.field? = some f ∧ d.has f = false ∧ f.value? m.value.item = some a ∧
        d' = d.set f a := by
  rw [give?] at h
  cases hf : m.field? with
  | none =>
    rw [hf] at h
    exact .inl ⟨rfl, (Option.some.inj h).symm⟩
  | some f =>
    rw [hf] at h
    cases hhas : d.has f with
    | true => simp [hhas] at h
    | false =>
      simp only [hhas, Bool.false_eq_true, if_false, Option.map_eq_some_iff] at h
      obtain ⟨a, ha, rfl⟩ := h
      exact .inr ⟨f, a, rfl, hhas, ha, rfl⟩

theorem fields_cons_of_none (h : m.field? = none) : fields (m :: ms) = fields ms :=
  List.filterMap_cons_none h

theorem fields_cons_of_some (h : m.field? = some f) : fields (m :: ms) = f :: fields ms :=
  List.filterMap_cons_some h

/-- What a walk has done when it gets through. -/
structure Draft.Given (d : Draft) (ms : List Member) (d' : Draft) : Prop where
  has_iff : ∀ f, d'.has f = true ↔ d.has f = true ∨ f ∈ fields ms
  get_of_has : ∀ f, d.has f = true → d'.get f = d.get f
  get_eq : ∀ m ∈ ms, ∀ f, m.field? = some f → d'.get f = f.value? m.value.item

theorem Draft.Given.cons_of_none {ms : List Member} (hf : m.field? = none) (h : d.Given ms d') :
    d.Given (m :: ms) d' where
  has_iff := by
    rw [fields_cons_of_none hf]
    exact h.has_iff
  get_of_has := h.get_of_has
  get_eq m' hm' g hg := by
    rcases List.mem_cons.mp hm' with rfl | hm'
    · rw [hf] at hg
      cases hg
    · exact h.get_eq m' hm' g hg

theorem Draft.Given.cons_of_some {a : f.Value} (hf : m.field? = some f) (hhas : d.has f = false)
    (ha : f.value? m.value.item = some a) (h : (d.set f a).Given ms d') :
    d.Given (m :: ms) d' where
  has_iff g := by
    rw [h.has_iff, has_set, fields_cons_of_some hf, List.mem_cons, or_assoc]
  get_of_has g hg := by
    have hne : g ≠ f := by
      rintro rfl
      rw [hhas] at hg
      cases hg
    rw [h.get_of_has g ((has_set d a).mpr (.inl hg)), get_set_of_ne d a hne]
  get_eq m' hm' g hg := by
    rcases List.mem_cons.mp hm' with rfl | hm'
    · obtain rfl : f = g := Option.some.inj (hf.symm.trans hg)
      rw [h.get_of_has f ((has_set d a).mpr (.inr rfl)), get_set_self, ha]
    · exact h.get_eq m' hm' g hg

/-- A walk that gets through has given the fields that are named the values that are written. -/
theorem Draft.given_of_walk (h : ms.foldlM Draft.give? d = some d') : d.Given ms d' := by
  induction ms generalizing d with
  | nil =>
    obtain rfl : d = d' := Option.some.inj h
    exact ⟨fun f ↦ by simp [fields], fun _ _ ↦ rfl, fun m hm ↦ by cases hm⟩
  | cons m ms ih =>
    rw [List.foldlM_cons, Option.bind_eq_bind, Option.bind_eq_some_iff] at h
    obtain ⟨d₁, hm, hms⟩ := h
    rcases give?_eq_some hm with ⟨hf, rfl⟩ | ⟨f, a, hf, hhas, ha, rfl⟩
    · exact .cons_of_none hf (ih hms)
    · exact .cons_of_some hf hhas ha (ih hms)

/-- A walk gets through if no field is named twice and every value is of its type. -/
theorem Draft.exists_walk (htyped : ∀ m ∈ ms, m.WellTyped) (hnodup : (fields ms).Nodup)
    (hnew : ∀ f ∈ fields ms, d.has f = false) : ∃ d', ms.foldlM Draft.give? d = some d' := by
  induction ms generalizing d with
  | nil => exact ⟨d, rfl⟩
  | cons m ms ih =>
    obtain ⟨hm, htyped⟩ := List.forall_mem_cons.mp htyped
    cases hf : m.field? with
    | none =>
      rw [fields_cons_of_none hf] at hnodup hnew
      have hgive : d.give? m = some d := by rw [give?, hf]
      rw [List.foldlM_cons, hgive]
      exact ih htyped hnodup hnew
    | some f =>
      rw [fields_cons_of_some hf] at hnodup hnew
      obtain ⟨hnot, hnodup⟩ := List.nodup_cons.mp hnodup
      obtain ⟨hhas, hnew⟩ := List.forall_mem_cons.mp hnew
      obtain ⟨a, ha⟩ := Option.ne_none_iff_exists'.mp (hm f hf)
      have hgive : d.give? m = some (d.set f a) := by
        simp [give?, hf, hhas, ha]
      rw [List.foldlM_cons, hgive]
      refine ih htyped hnodup fun g hg ↦ ?_
      have hne : g ≠ f := fun h ↦ hnot (h ▸ hg)
      rw [has_eq_isSome, get_set_of_ne d a hne, ← has_eq_isSome]
      exact hnew g hg

theorem Draft.walk_eq_none (hm : m ∈ ms) (hf : m.field? = some f)
    (hvalue : f.value? m.value.item = none) : ms.foldlM Draft.give? d = none := by
  cases h : ms.foldlM Draft.give? d with
  | none => rfl
  | some d' =>
    have hgiven := given_of_walk h
    have hhas : d'.has f = true :=
      (hgiven.has_iff f).mpr (.inr (List.mem_filterMap.mpr ⟨m, hm, hf⟩))
    rw [has_eq_isSome, hgiven.get_eq m hm f hf, hvalue] at hhas
    cases hhas

/-! ## The text of the members -/

/-- The text behind some members of an object. -/
def membersTail (gap : Blanks) (isFirst : Bool) (ms : List Member) (rest : List Char) :
    List Char :=
  gap.text ++ (membersText isFirst ms ++ '\x7d' :: rest)

/-- The text behind the key of a member. -/
def behindKey (m : Member) (rest : List Char) : List Char :=
  m.key.after.text ++ ':' :: (m.value.before.text ++ (m.value.item.text ++ rest))

theorem ends_membersTail (gap : Blanks) (ms : List Member) (rest : List Char) :
    Ends (membersTail gap false ms rest) := by
  refine Ends.blanks ?_ gap
  cases ms with
  | nil => exact ends_cons.mpr (by decide)
  | cons m ms => exact ends_cons.mpr (by decide)

theorem nextKey_nil (gap : Blanks) (isFirst : Bool) :
    nextKey isFirst (membersTail gap isFirst [] rest) = .ok (.inr rest) := by
  rw [nextKey, membersTail, skipSpace_blanks]
  rfl

theorem nextKey_cons (gap : Blanks) (isFirst : Bool) (m : Member) (ms : List Member) :
    nextKey isFirst (membersTail gap isFirst (m :: ms) rest)
      = .ok (.inl (m.key.item.inner ++
          '\x22' :: behindKey m (membersTail m.value.after false ms rest))) := by
  have hkey (more : List Char) :
      skipSpace (m.text ++ (membersText false ms ++ '\x7d' :: more))
        = '\x22' :: (m.key.item.inner ++
          '\x22' :: behindKey m (membersTail m.value.after false ms more)) := by
    simp only [Member.text, Laid.text, inQuotes, List.append_assoc, List.cons_append,
      skipSpace_blanks, List.nil_append, behindKey, membersTail]
    exact skipSpace_cons rfl
  cases isFirst with
  | true =>
    have hfirst : skipSpace (membersTail gap true (m :: ms) rest)
        = skipSpace (m.text ++ (membersText false ms ++ '\x7d' :: rest)) := by
      simp [membersTail, membersText, comma]
    simp only [nextKey, hfirst, hkey]
    rfl
  | false =>
    have hcomma : skipSpace (membersTail gap false (m :: ms) rest)
        = ',' :: (m.text ++ (membersText false ms ++ '\x7d' :: rest)) := by
      rw [membersTail, skipSpace_blanks, membersText, comma, if_neg Bool.false_ne_true,
        List.append_assoc, List.append_assoc]
      exact skipSpace_cons rfl
    simp [nextKey, hcomma, hkey]

theorem skipColon_blanks (bs : Blanks) (cs : List Char) :
    skipColon (bs.text ++ ':' :: cs) = .ok cs := by
  rw [skipColon, skipSpace_blanks, skipSpace_cons rfl]
  rfl

/-- A member is read by a step of the walk. -/
theorem readMember_of_give (h : d.give? m = some d') (hrest : Ends rest) :
    readMember d m.name (behindKey m rest) = .ok (d', rest) := by
  rcases Draft.give?_eq_some h with ⟨hf, rfl⟩ | ⟨f, a, hf, hhas, ha, rfl⟩
  · have hf : SnapshotField.ofName? m.name = none := hf
    simp only [readMember, hf, behindKey, skipColon_blanks,
      skipValue_text m.value.before m.value.item hrest]
    rfl
  · have hf : SnapshotField.ofName? m.name = some f := hf
    have hread := (d.reads_readField f).ok m.value.before m.value.item hrest
      (Option.map_eq_some_iff.mpr ⟨a, ha, rfl⟩)
    simp only [readMember, hf, hhas, Bool.false_eq_true, if_false, behindKey, skipColon_blanks,
      hread]

/-- A field that is named again is reported before its value is looked at. -/
theorem readMember_of_has (hf : m.field? = some f) (hhas : d.has f = true) (cs : List Char) :
    readMember d m.name cs = .error (.duplicateField f.name) := by
  have hf : SnapshotField.ofName? m.name = some f := hf
  simp only [readMember, hf, hhas, if_true]

theorem readMember_of_not_give (h : d.give? m = none) (hrest : Ends rest) :
    ∃ fault, readMember d m.name (behindKey m rest) = .error fault := by
  rw [Draft.give?] at h
  cases hf : m.field? with
  | none => simp [hf] at h
  | some f =>
    cases hhas : d.has f with
    | true => exact ⟨_, readMember_of_has hf hhas _⟩
    | false =>
      simp only [hf, hhas, Bool.false_eq_true, if_false] at h
      obtain ⟨fault, hread⟩ := (d.reads_readField f).error m.value.before m.value.item hrest h
      have hf : SnapshotField.ofName? m.name = some f := hf
      refine ⟨fault, ?_⟩
      simp only [readMember, hf, hhas, Bool.false_eq_true, if_false, behindKey, skipColon_blanks,
        hread]

theorem readMembers_cons (fuel : Nat) (isFirst : Bool) (d : Draft) (gap : Blanks) (m : Member)
    (ms : List Member) (rest : List Char) :
    readMembers (fuel + 1) isFirst d (membersTail gap isFirst (m :: ms) rest)
      = match readMember d m.name (behindKey m (membersTail m.value.after false ms rest)) with
        | .error fault => .error fault
        | .ok (d, cs) => readMembers fuel false d cs := by
  simp only [readMembers, nextKey_cons, readString_inner]
  rfl

/-- **As far as the walk gets, reading follows it.** -/
theorem readMembers_append (fuel : Nat) (more : List Member) (rest : List Char)
    (h : ms.foldlM Draft.give? d = some d') (isFirst : Bool) (gap : Blanks) :
    ∃ isFirst' gap',
      readMembers (fuel + ms.length) isFirst d (membersTail gap isFirst (ms ++ more) rest)
        = readMembers fuel isFirst' d' (membersTail gap' isFirst' more rest) := by
  induction ms generalizing d isFirst gap with
  | nil =>
    obtain rfl : d = d' := Option.some.inj h
    exact ⟨isFirst, gap, rfl⟩
  | cons m ms ih =>
    rw [List.foldlM_cons, Option.bind_eq_bind, Option.bind_eq_some_iff] at h
    obtain ⟨d₁, hm, hms⟩ := h
    obtain ⟨isFirst', gap', hread⟩ := ih hms false m.value.after
    refine ⟨isFirst', gap', ?_⟩
    have hmember := readMember_of_give hm (ends_membersTail m.value.after (ms ++ more) rest)
    rw [List.length_cons, ← Nat.add_assoc, List.cons_append, readMembers_cons, hmember]
    exact hread

theorem readMembers_error (rest : List Char) (h : ms.foldlM Draft.give? d = none) (fuel : Nat)
    (isFirst : Bool) (gap : Blanks) :
    ∃ fault, readMembers fuel isFirst d (membersTail gap isFirst ms rest) = .error fault := by
  induction ms generalizing d fuel isFirst gap with
  | nil => cases h
  | cons m ms ih =>
    cases fuel with
    | zero => exact ⟨_, rfl⟩
    | succ fuel =>
      have hends := ends_membersTail m.value.after ms rest
      rw [readMembers_cons]
      cases hm : d.give? m with
      | none =>
        obtain ⟨fault, hmember⟩ := readMember_of_not_give hm hends
        exact ⟨fault, by rw [hmember]⟩
      | some d₁ =>
        rw [List.foldlM_cons, hm] at h
        obtain ⟨fault, hread⟩ := ih h fuel false m.value.after
        exact ⟨fault, by rw [readMember_of_give hm hends]; exact hread⟩

/-! ## The text of the object -/

theorem length_le_membersTail (gap : Blanks) (isFirst : Bool) (ms : List Member)
    (rest : List Char) : ms.length ≤ (membersTail gap isFirst ms rest).length := by
  induction ms generalizing gap isFirst with
  | nil => exact Nat.zero_le _
  | cons m ms ih =>
    have hlength := ih gap false
    simp only [membersTail, membersText, Member.text, List.length_append, List.length_cons]
      at hlength ⊢
    omega

theorem ofJson_text (o : WrittenObject) :
    ∃ fuel, ofJson o.text
      = match readMembers (fuel + 1 + o.members.length) true .empty
            (membersTail o.gap true o.members o.after.text) with
        | .error fault => .error fault
        | .ok (d, rest) =>
          match d.complete with
          | .error fault => .error fault
          | .ok s => if (skipSpace rest).isEmpty then .ok s else .error .trailingCharacters := by
  obtain ⟨fuel, hfuel⟩ := Nat.exists_eq_add_of_le'
    (length_le_membersTail o.gap true o.members o.after.text)
  have hlist : o.text.toList
      = o.before.text ++ '\x7b' :: membersTail o.gap true o.members o.after.text :=
    String.toList_ofList
  have hsum : (membersTail o.gap true o.members o.after.text).length + 1
      = fuel + 1 + o.members.length := by omega
  have hskip : skipSpace (o.before.text ++ '\x7b' :: membersTail o.gap true o.members o.after.text)
      = '\x7b' :: membersTail o.gap true o.members o.after.text := by
    rw [skipSpace_blanks]
    exact skipSpace_cons rfl
  refine ⟨fuel, ?_⟩
  simp only [ofJson, hlist, read, hskip, hsum]
  cases readMembers (fuel + 1 + o.members.length) true .empty
      (membersTail o.gap true o.members o.after.text) with
  | error fault => rfl
  | ok r =>
    rcases r with ⟨d, rest⟩
    dsimp only
    cases d.complete with
    | error fault => rfl
    | ok s => rfl

variable {o : WrittenObject}

theorem ofJson_of_walk (h : o.members.foldlM Draft.give? .empty = some d) :
    ofJson o.text = d.complete := by
  obtain ⟨fuel, htext⟩ := ofJson_text o
  obtain ⟨isFirst, gap, hread⟩ := readMembers_append (fuel + 1) [] o.after.text h true o.gap
  have hend : readMembers (fuel + 1) isFirst d (membersTail gap isFirst [] o.after.text)
      = .ok (d, o.after.text) := by
    simp only [readMembers, nextKey_nil]
  have hafter : (skipSpace o.after.text).isEmpty = true := by
    rw [← List.append_nil o.after.text, skipSpace_blanks]
    rfl
  rw [List.append_nil] at hread
  rw [htext, hread, hend]
  dsimp only
  cases d.complete with
  | error fault => rfl
  | ok s => exact if_pos hafter

theorem exists_error_of_walk (h : o.members.foldlM Draft.give? .empty = none) :
    ∃ fault, ofJson o.text = .error fault := by
  obtain ⟨fuel, htext⟩ := ofJson_text o
  obtain ⟨fault, hread⟩ := readMembers_error o.after.text h (fuel + 1 + o.members.length) true o.gap
  exact ⟨fault, by rw [htext, hread]⟩

/-- A field that is named again ends the walk there and is reported. -/
theorem ofJson_of_repetition {before after : List Member} (ho : o.members = before ++ m :: after)
    (h : before.foldlM Draft.give? .empty = some d) (hf : m.field? = some f)
    (hhas : d.has f = true) : ofJson o.text = .error (.duplicateField f.name) := by
  obtain ⟨fuel, htext⟩ := ofJson_text o
  obtain ⟨isFirst, gap, hread⟩ :=
    readMembers_append (fuel + 1 + after.length + 1) (m :: after) o.after.text h true o.gap
  have hfuel : fuel + 1 + o.members.length = fuel + 1 + after.length + 1 + before.length := by
    rw [ho, List.length_append, List.length_cons]
    omega
  rw [readMembers_cons, readMember_of_has hf hhas] at hread
  rw [htext, hfuel, ho, hread]

theorem exists_first_repetition (ms : List Member) :
    ∀ seen, (fields seen).Nodup → ¬(fields (seen ++ ms)).Nodup →
      ∃ before m after f, seen ++ ms = before ++ m :: after ∧ (fields before).Nodup ∧
        m.field? = some f ∧ f ∈ fields before := by
  induction ms with
  | nil =>
    intro seen hseen hrepeat
    rw [List.append_nil] at hrepeat
    exact absurd hseen hrepeat
  | cons m ms ih =>
    intro seen hseen hrepeat
    by_cases hm : ∃ f, m.field? = some f ∧ f ∈ fields seen
    · obtain ⟨f, hf, hmem⟩ := hm
      exact ⟨seen, m, ms, f, rfl, hseen, hf, hmem⟩
    · have hnodup : (fields (seen ++ [m])).Nodup := by
        rw [fields, List.filterMap_append]
        refine List.nodup_append.mpr ⟨hseen, ?_, ?_⟩
        · cases hf : m.field? <;> simp [hf]
        · rintro f hmem g hg rfl
          obtain ⟨m', hm', hf⟩ := List.mem_filterMap.mp hg
          obtain rfl := List.mem_singleton.mp hm'
          exact hm ⟨f, hf, hmem⟩
      have happend : seen ++ m :: ms = seen ++ [m] ++ ms := by simp
      rw [happend] at hrepeat ⊢
      exact ih (seen ++ [m]) hnodup hrepeat

/-- An object that names every field once, with values of their types, is read. -/
theorem exists_ofJson_eq_ok (htyped : ∀ m ∈ o.members, m.WellTyped)
    (hnodup : (fields o.members).Nodup) (hall : ∀ f, f ∈ fields o.members) :
    ∃ s, ofJson o.text = .ok s ∧
      ∀ m ∈ o.members, ∀ f, m.field? = some f → f.value? m.value.item = some (s.get f) := by
  obtain ⟨d, hd⟩ := Draft.exists_walk htyped hnodup fun f _ ↦ Draft.has_empty f
  have hgiven := Draft.given_of_walk hd
  obtain ⟨s, hs⟩ := Draft.exists_get_eq_of_has fun f ↦ (hgiven.has_iff f).mpr (.inr (hall f))
  refine ⟨s, by rw [ofJson_of_walk hd, Draft.complete_of_get hs], fun m hm f hf ↦ ?_⟩
  rw [← hgiven.get_eq m hm f hf, hs]

end Snapshot

end ChipEight
