import ChipEight.Proofs.Snapshot.RoundTrip

/-!
# Which objects are read

Of an object whose known members all have values of their types, the number of times each field is
named decides what comes of it: once each, and the object is read, whatever the order and whatever
stands between the fields; a second time, and the first such member from left to right is reported;
never, and the first such field in the fixed order is reported, provided that none is named twice. A
value that is not of its type is never made to fit.
-/

namespace ChipEight

open JsonText

namespace Snapshot

/-- The first field of the fixed order that no member names. -/
def absent? (ms : List Member) : Option SnapshotField :=
  SnapshotField.all.find? fun f ↦ f ∉ fields ms

/-- **What comes of reading an object.** -/
theorem ofJson_object (o : WrittenObject) :
    ((∀ m ∈ o.members, m.WellTyped) →
      ((∀ f, (fields o.members).count f = 1) →
        ∃ s, ofJson o.text = .ok s ∧
          ∀ m ∈ o.members, ∀ f, m.field? = some f → f.value? m.value.item = some (s.get f)) ∧
      (¬(fields o.members).Nodup →
        ∃ before m after f, o.members = before ++ m :: after ∧ (fields before).Nodup ∧
          m.field? = some f ∧ f ∈ fields before ∧
          ofJson o.text = .error (.duplicateField f.name)) ∧
      ((fields o.members).Nodup → (∃ f, f ∉ fields o.members) →
        ∃ f, absent? o.members = some f ∧ ofJson o.text = .error (.missingField f.name))) ∧
    ∀ m ∈ o.members, ∀ f, m.field? = some f →
      ((∃ limit i, f.limit? = some limit ∧ m.value.item = .number (.ofInt i) ∧
          ¬(0 ≤ i ∧ i < (limit : Int))) ∨
        (∃ n gap items, f.length? = some n ∧ m.value.item = .list gap items ∧ items.length ≠ n) ∨
        f.value? m.value.item = none) →
      ∃ fault, ofJson o.text = .error fault := by
  refine ⟨fun htyped ↦ ⟨fun hcount ↦ ?once, fun hrepeat ↦ ?again, fun hnodup habsent ↦ ?never⟩,
    fun m hm f hf hbad ↦ ?unfit⟩
  case once =>
    have hnodup : (fields o.members).Nodup :=
      List.nodup_iff_count.mpr fun f ↦ Nat.le_of_eq (hcount f)
    exact exists_ofJson_eq_ok htyped hnodup fun f ↦
      List.one_le_count_iff.mp (Nat.le_of_eq (hcount f).symm)
  case again =>
    obtain ⟨before, m, after, f, ho, hnodup, hf, hmem⟩ :=
      exists_first_repetition o.members [] List.nodup_nil hrepeat
    rw [List.nil_append] at ho
    have hbefore : ∀ m' ∈ before, m'.WellTyped := fun m' hm' ↦
      htyped m' (ho ▸ List.mem_append_left _ hm')
    obtain ⟨d, hd⟩ := Draft.exists_walk hbefore hnodup fun f _ ↦ Draft.has_empty f
    have hhas : d.has f = true := ((Draft.given_of_walk hd).has_iff f).mpr (.inr hmem)
    exact ⟨before, m, after, f, ho, hnodup, hf, hmem, ofJson_of_repetition ho hd hf hhas⟩
  case never =>
    obtain ⟨d, hd⟩ := Draft.exists_walk htyped hnodup fun f _ ↦ Draft.has_empty f
    have hhas (f : SnapshotField) : (!d.has f) = decide (f ∉ fields o.members) := by
      have := (Draft.given_of_walk hd).has_iff f
      simp only [Draft.has_empty, Bool.false_eq_true, false_or] at this
      by_cases hmem : f ∈ fields o.members <;> simp_all
    obtain ⟨g, hg⟩ := habsent
    cases hfirst : absent? o.members with
    | none =>
      have := List.find?_eq_none.mp hfirst g (SnapshotField.mem_all g)
      exact absurd (decide_eq_true hg) this
    | some f =>
      refine ⟨f, rfl, ?_⟩
      rw [ofJson_of_walk hd]
      refine Draft.complete_of_missing ?_
      rw [funext hhas]
      exact hfirst
  case unfit =>
    have hvalue : f.value? m.value.item = none := by
      rcases hbad with ⟨limit, i, hlimit, hitem, hrange⟩ | ⟨n, gap, items, hn, hitem, hlength⟩ | h
      · rw [hitem]
        exact SnapshotField.value?_ofInt hlimit hrange
      · rw [hitem]
        exact SnapshotField.value?_of_length_ne hn hlength
      · exact h
    exact exists_error_of_walk (Draft.walk_eq_none hm hf hvalue)

/-- A snapshot of nothing but zeros. -/
def zeros : Snapshot where
  pc := 0
  index := 0
  v := .replicate 16 0
  stack := []
  delay := 0
  sound := 0
  memory := .replicate memorySize 0
  display := .replicate 32 0
  keypad := .replicate 16 false

/-- A member under the name of no field, with an escape in its key, blanks and nested brackets. -/
def unknownMember : Member where
  key := ⟨[.space], [.short .slash], [.tab]⟩
  value := ⟨[], .list [.space] [⟨[], .object [] [], [.lineFeed]⟩], []⟩

/-- All fields in the opposite order behind an unknown member; a field twice; a field alone; a
number that is too large. -/
theorem ofJson_object_cases :
    (∃ s, ofJson (WrittenObject.text
        ⟨[.space], [.lineFeed], unknownMember :: zeros.document.members.reverse, [.tab]⟩)
      = .ok s) ∧
    ofJson (plainObject [plainMember .delay (.ofNat 1), plainMember .delay (.ofNat 1)]).text
      = .error (.duplicateField "delay_timer") ∧
    ofJson (plainObject [plainMember .pc (.ofNat 1)]).text = .error (.missingField "i") ∧
    ∃ fault, ofJson (plainObject [plainMember .sound (.ofNat 256)]).text = .error fault := by
  have hunknown : unknownMember.field? = none := by decide
  have hdelay : (plainMember .delay (.ofNat 1)).WellTyped :=
    wellTyped_plainMember .delay (Tree.byte?_ofNat 1)
  have hpc : (plainMember .pc (.ofNat 1)).WellTyped :=
    wellTyped_plainMember .pc (Tree.address?_ofNat 1)
  refine ⟨?_, ?_, ?_, ?_⟩
  · have hfields : fields (unknownMember :: zeros.document.members.reverse)
        = SnapshotField.all.reverse := by
      rw [fields_cons_of_none hunknown, fields, List.filterMap_reverse, ← fields,
        fields_document]
    have htyped : ∀ m ∈ unknownMember :: zeros.document.members.reverse, m.WellTyped := by
      rintro m hm f hf
      rcases List.mem_cons.mp hm with rfl | hm
      · rw [hunknown] at hf
        cases hf
      · exact zeros.wellTyped_document m (List.mem_reverse.mp hm) f hf
    have hcount : ∀ f, (fields (unknownMember :: zeros.document.members.reverse)).count f = 1 := by
      intro f
      rw [hfields]
      cases f <;> decide
    obtain ⟨hread, -⟩ := ofJson_object
      ⟨[.space], [.lineFeed], unknownMember :: zeros.document.members.reverse, [.tab]⟩
    obtain ⟨s, hs, -⟩ := (hread htyped).1 hcount
    exact ⟨s, hs⟩
  · have hfields : fields [plainMember .delay (.ofNat 1), plainMember .delay (.ofNat 1)]
        = [.delay, .delay] := by
      simp [fields, field?_plainMember]
    obtain ⟨hread, -⟩ := ofJson_object
      (plainObject [plainMember .delay (.ofNat 1), plainMember .delay (.ofNat 1)])
    obtain ⟨before, m, after, f, ho, -, hf, -, hfault⟩ :=
      (hread (by simp [hdelay])).2.1 (by rw [members_plainObject, hfields]; decide)
    have hmem : m ∈ [plainMember .delay (.ofNat 1), plainMember .delay (.ofNat 1)] := by
      rw [← members_plainObject [_, _], ho]
      exact List.mem_append_right _ List.mem_cons_self
    obtain rfl : m = plainMember .delay (.ofNat 1) := by simpa using hmem
    obtain rfl : .delay = f := Option.some.inj ((field?_plainMember .delay _).symm.trans hf)
    exact hfault
  · have hfields : fields [plainMember .pc (.ofNat 1)] = [.pc] := by
      simp [fields, field?_plainMember]
    obtain ⟨hread, -⟩ := ofJson_object (plainObject [plainMember .pc (.ofNat 1)])
    obtain ⟨f, hf, hfault⟩ := (hread (by simp [hpc])).2.2
      (by rw [members_plainObject, hfields]; decide)
      ⟨.index, by rw [members_plainObject, hfields]; decide⟩
    obtain rfl : f = .index := by
      rw [absent?, members_plainObject, hfields] at hf
      simpa [SnapshotField.all] using hf.symm
    exact hfault
  · obtain ⟨-, hread⟩ := ofJson_object (plainObject [plainMember .sound (.ofNat 256)])
    exact hread _ List.mem_cons_self .sound (field?_plainMember .sound _)
      (.inl ⟨0x100, 256, rfl, rfl, by decide⟩)

end Snapshot

end ChipEight
