import ChipEight.Proofs.Snapshot.Objects
import ChipEight.Snapshot

/-!
# Writing a snapshot and reading it back

A written snapshot is the text of an object: no blanks, the nine fields in their fixed order, every
key spelled as it is, every number without fraction and exponent. `Snapshot.document` is that
object. Two facts about it are all that is needed: its text is what the writer writes, and what its
values stand for are the values of the snapshot. That it is read back is then a case of what is read
of any object.
-/

namespace ChipEight

namespace JsonText

variable {α : Type} {value? : Tree → Option α} {g : α → Tree}

/-- Characters that may all stand as they are. -/
def Spelling.plain (cs : List Char) (h : ∀ c ∈ cs, IsPlain c) : Spelling := cs.pmap .plain h

theorem Spelling.inner_plain {cs : List Char} (h : ∀ c ∈ cs, IsPlain c) :
    (plain cs h).inner = cs := by
  induction cs with
  | nil => rfl
  | cons c cs ih => exact congrArg (c :: ·) (ih (List.forall_mem_cons.mp h).2)

theorem Spelling.string_plain {cs : List Char} (h : ∀ c ∈ cs, IsPlain c) :
    (plain cs h).string = String.ofList cs := by
  rw [string, plain, List.map_pmap]
  simp [Letter.char]

theorem intercalate_cons (x : List Char) (xs : List (List Char)) :
    [','].intercalate (x :: xs) = x ++ xs.flatMap (',' :: ·) := by
  induction xs generalizing x with
  | nil => simp [List.intercalate]
  | cons y ys ih => simpa [List.intercalate] using ih y

namespace Tree

def ofNat (n : Nat) : Tree := .number (.ofInt n)

/-- A list without blanks. -/
def ofList (ts : List Tree) : Tree := .list [] (ts.map fun t ↦ ⟨[], t, []⟩)

theorem text_ofNat (n : Nat) : (ofNat n).text = (toString n).toList := by
  simp [ofNat, text, Numeral.text, Numeral.ofInt, Numeral.tail]

theorem itemsText_false (ts : List Tree) :
    itemsText false (ts.map fun t ↦ ⟨[], t, []⟩) = (ts.map text).flatMap (',' :: ·) := by
  induction ts with
  | nil => rfl
  | cons t ts ih => simp [itemsText, comma, Blanks.text, ih]

theorem text_ofList (ts : List Tree) :
    (ofList ts).text = '[' :: ([','].intercalate (ts.map text) ++ [']']) := by
  cases ts with
  | nil => rfl
  | cons t ts =>
    rw [List.map_cons, intercalate_cons, ← itemsText_false]
    simp [ofList, text, itemsText, comma, Blanks.text]

theorem unsigned?_ofNat {bits n : Nat} (h : n < 1 <<< bits) :
    (ofNat n).unsigned? bits = some n := by
  rw [ofNat, unsigned?, natural?_ofInt (Int.natCast_nonneg n), Int.natAbs_natCast,
    Option.filter_some, if_pos (decide_eq_true h)]

theorem list?_ofList (as : List α) (h : ∀ a, value? (g a) = some a) :
    (ofList (as.map g)).list? value? = some as := by
  rw [ofList, list?, List.map_map]
  induction as with
  | nil => rfl
  | cons a as ih =>
    refine Snapshot.mapM_cons_eq_some.mpr ⟨a, h a, as, ?_, rfl⟩
    exact ih

theorem vector?_ofList {n : Nat} (v : Vector α n) (h : ∀ a, value? (g a) = some a) :
    (ofList (v.toList.map g)).vector? n value? = some v :=
  Snapshot.vector?_list_eq_some.mpr (list?_ofList v.toList h)

theorem byte?_ofNat (b : UInt8) : (ofNat b.toNat).byte? = some b := by
  rw [byte?, unsigned?_ofNat b.toNat_lt, Option.map_some, UInt8.ofNat_toNat]

theorem address?_ofNat (a : UInt16) : (ofNat a.toNat).address? = some a := by
  rw [address?, unsigned?_ofNat a.toNat_lt, Option.map_some, UInt16.ofNat_toNat]

theorem row?_ofNat (row : BitVec 64) : (ofNat row.toNat).row? = some row := by
  rw [row?, unsigned?_ofNat row.isLt, Option.map_some, BitVec.ofNat_toNat, BitVec.setWidth_eq]

end Tree

end JsonText

open JsonText

namespace Snapshot

variable (s : Snapshot) (f : SnapshotField)

/-- The value of a field as a tree. -/
def tree : SnapshotField → Tree
  | .pc => .ofNat s.pc.toNat
  | .index => .ofNat s.index.toNat
  | .v => .ofList (s.v.toList.map fun b ↦ .ofNat b.toNat)
  | .stack => .ofList (s.stack.map fun a ↦ .ofNat a.toNat)
  | .delay => .ofNat s.delay.toNat
  | .sound => .ofNat s.sound.toNat
  | .memory => .ofList (s.memory.toList.map fun b ↦ .ofNat b.toNat)
  | .display => .ofList (s.display.toList.map fun row ↦ .ofNat row.toNat)
  | .keypad => .ofList (s.keypad.toList.map .boolean)

theorem value?_tree : f.value? (s.tree f) = some (s.get f) := by
  cases f with
  | pc => exact Tree.address?_ofNat s.pc
  | index => exact Tree.address?_ofNat s.index
  | v => exact Tree.vector?_ofList s.v Tree.byte?_ofNat
  | stack => exact Tree.list?_ofList s.stack Tree.address?_ofNat
  | delay => exact Tree.byte?_ofNat s.delay
  | sound => exact Tree.byte?_ofNat s.sound
  | memory => exact Tree.vector?_ofList s.memory Tree.byte?_ofNat
  | display => exact Tree.vector?_ofList s.display Tree.row?_ofNat
  | keypad => exact Tree.vector?_ofList s.keypad fun _ ↦ rfl

theorem toList_listText (items : List String) :
    (listText items).toList = '[' :: ([','].intercalate (items.map String.toList) ++ [']']) := by
  simp [listText, String.toList_intercalate]

theorem text_ofList_map {α : Type} (as : List α) {g : α → Tree} {write : α → String}
    (h : ∀ a, (g a).text = (write a).toList) :
    (Tree.ofList (as.map g)).text = (listText (as.map write)).toList := by
  have hmap : (as.map g).map Tree.text = (as.map write).map String.toList := by
    rw [List.map_map, List.map_map]
    exact List.map_congr_left fun a _ ↦ h a
  rw [Tree.text_ofList, toList_listText, hmap]

theorem text_tree : (s.tree f).text = (s.fieldText f).toList := by
  cases f with
  | pc => exact Tree.text_ofNat _
  | index => exact Tree.text_ofNat _
  | v => exact text_ofList_map _ fun _ ↦ Tree.text_ofNat _
  | stack => exact text_ofList_map _ fun _ ↦ Tree.text_ofNat _
  | delay => exact Tree.text_ofNat _
  | sound => exact Tree.text_ofNat _
  | memory => exact text_ofList_map _ fun _ ↦ Tree.text_ofNat _
  | display => exact text_ofList_map _ fun _ ↦ Tree.text_ofNat _
  | keypad => exact text_ofList_map _ fun b ↦ by cases b <;> rfl

theorem isPlain_name : ∀ c ∈ f.name.toList, IsPlain c := by
  cases f <;> simp [SnapshotField.name, IsPlain]

/-- A field as a member without blanks. -/
def plainMember (f : SnapshotField) (t : Tree) : Member where
  key := ⟨[], .plain f.name.toList (isPlain_name f), []⟩
  value := ⟨[], t, []⟩

/-- An object without blanks. -/
def plainObject (ms : List Member) : WrittenObject := ⟨[], [], ms, []⟩

@[simp] theorem members_plainObject (ms : List Member) : (plainObject ms).members = ms := rfl

/-- The object that is written. -/
def document : WrittenObject :=
  plainObject (SnapshotField.all.map fun f ↦ plainMember f (s.tree f))

theorem field?_plainMember (t : Tree) : (plainMember f t).field? = some f := by
  rw [Member.field?, Member.name, plainMember, Spelling.string_plain, String.ofList_toList,
    SnapshotField.ofName?_name]

theorem wellTyped_plainMember {t : Tree} {a : f.Value} (h : f.value? t = some a) :
    (plainMember f t).WellTyped := by
  intro g hg
  obtain rfl : f = g := Option.some.inj ((field?_plainMember f t).symm.trans hg)
  exact Option.ne_none_iff_exists'.mpr ⟨a, h⟩

theorem fields_document : fields s.document.members = SnapshotField.all := by
  have hfield : (Member.field? ∘ fun f ↦ plainMember f (s.tree f)) = some :=
    funext fun f ↦ field?_plainMember f _
  rw [fields, document, members_plainObject, List.filterMap_map, hfield, List.filterMap_some]

theorem wellTyped_document : ∀ m ∈ s.document.members, m.WellTyped := by
  intro m hm
  obtain ⟨f, -, rfl⟩ := List.mem_map.mp hm
  exact wellTyped_plainMember f (s.value?_tree f)

theorem text_plainMember : (plainMember f (s.tree f)).text
    = ("\x22" ++ f.name ++ "\x22:" ++ s.fieldText f).toList := by
  simp [Member.text, Laid.text, plainMember, Blanks.text, inQuotes, Spelling.inner_plain,
    text_tree]

theorem membersText_false (ms : List Member) :
    membersText false ms = (ms.map Member.text).flatMap (',' :: ·) := by
  induction ms with
  | nil => rfl
  | cons m ms ih => simp [membersText, comma, ih]

theorem membersText_true (ms : List Member) :
    membersText true ms = [','].intercalate (ms.map Member.text) := by
  cases ms with
  | nil => rfl
  | cons m ms =>
    rw [List.map_cons, intercalate_cons, ← membersText_false, membersText, comma, if_pos rfl,
      List.nil_append]

/-- What is written is the text of the object. -/
theorem text_document : s.document.text = s.toJson := by
  have hmembers : s.document.members.map Member.text = (SnapshotField.all.map fun f ↦
      "\x22" ++ f.name ++ "\x22:" ++ s.fieldText f).map String.toList := by
    rw [document, plainObject, List.map_map, List.map_map]
    exact List.map_congr_left fun f _ ↦ s.text_plainMember f
  rw [← String.toList_inj, WrittenObject.text, String.toList_ofList, membersText_true, hmembers]
  simp [document, plainObject, toJson, Blanks.text, String.toList_intercalate]

theorem ofJson_document : ofJson s.document.text = .ok s := by
  have hnodup : (fields s.document.members).Nodup := by
    rw [fields_document]
    decide
  have hall : ∀ f, f ∈ fields s.document.members := by
    rw [fields_document]
    exact SnapshotField.mem_all
  obtain ⟨s', hread, hvalues⟩ := exists_ofJson_eq_ok s.wellTyped_document hnodup hall
  have hsame : s = s' := by
    refine get_inj fun f ↦ ?_
    have hmem : plainMember f (s.tree f) ∈ s.document.members :=
      List.mem_map.mpr ⟨f, SnapshotField.mem_all f, rfl⟩
    have hvalue : f.value? (s.tree f) = some (s'.get f) :=
      hvalues _ hmem f (field?_plainMember f _)
    rw [s.value?_tree] at hvalue
    exact Option.some.inj hvalue
  rw [hread, ← hsame]

/-- **What is written is read back.** This holds of every snapshot, also of one that lists more
pending calls than a machine can hold. -/
theorem ofJson_toJson : ofJson s.toJson = .ok s := by
  rw [← s.text_document]
  exact s.ofJson_document

end Snapshot

end ChipEight
