import ChipEight.Proofs.JsonText.Values
import ChipEight.Snapshot.Reader

/-!
# The values that the fields of a snapshot take

What a tree stands for at a type is a partial function of the tree. `Reads` says that a reader
computes such a function: on the text of a tree, with blanks in front and anything behind that ends
it, the reader returns the value and the text behind, and fails if there is no value. Numbers, truth
values, lists of any length and lists of a fixed length each get their instance, and the nine fields
are put together from these.

A number that does not fit its type has no value, nor does a list of the wrong length, so `Reads`
also says that nothing is cut off or filled up.
-/

namespace ChipEight

open JsonText

/-! ## What a tree stands for -/

namespace JsonText.Tree

variable {α : Type}

/-- A whole number below `2 ^ bits`. -/
def unsigned? (bits : Nat) : Tree → Option Nat
  | .number n => n.natural?.filter fun k ↦ k < 1 <<< bits
  | _ => none

def boolean? : Tree → Option Bool
  | .boolean b => some b
  | _ => none

/-- The values of the items of a list. -/
def list? (value? : Tree → Option α) : Tree → Option (List α)
  | .list _ items => items.mapM fun l ↦ value? l.item
  | _ => none

/-- The values of the items of a list of `n` items. -/
def vector? (n : Nat) (value? : Tree → Option α) (t : Tree) : Option (Vector α n) :=
  (t.list? value?).bind fun as ↦
    if h : as.length = n then some ⟨as.toArray, by simpa using h⟩ else none

def byte? (t : Tree) : Option UInt8 := (t.unsigned? 8).map UInt8.ofNat

def address? (t : Tree) : Option UInt16 := (t.unsigned? 16).map UInt16.ofNat

def row? (t : Tree) : Option (BitVec 64) := (t.unsigned? 64).map (BitVec.ofNat 64)

end JsonText.Tree

namespace Snapshot

variable {α β : Type} {item : List Char → Read α} {value? : Tree → Option α} {cs rest : List Char}
  {k n : Nat}

/-- A reader that computes what trees stand for. -/
structure Reads (item : List Char → Read α) (value? : Tree → Option α) : Prop where
  ok : ∀ (before : Blanks) (t : Tree) {rest : List Char} {a : α}, Ends rest → value? t = some a →
    item (before.text ++ (t.text ++ rest)) = .ok (a, rest)
  error : ∀ (before : Blanks) (t : Tree) {rest : List Char}, Ends rest → value? t = none →
    ∃ fault, item (before.text ++ (t.text ++ rest)) = .error fault

theorem Reads.map (h : Reads item value?) (g : α → β) :
    Reads (fun cs ↦ (item cs).map fun r ↦ (g r.1, r.2)) fun t ↦ (value? t).map g where
  ok before t rest b hrest hb := by
    obtain ⟨a, ha, rfl⟩ := Option.map_eq_some_iff.mp hb
    simp only [h.ok before t hrest ha]
    rfl
  error before t rest hrest hb := by
    obtain ⟨fault, hfault⟩ := h.error before t hrest (Option.map_eq_none_iff.mp hb)
    exact ⟨fault, by simp only [hfault]; rfl⟩

/-- Behind its blanks a value shows its first character. -/
theorem exists_skipSpace_eq (before : Blanks) (t : Tree) (rest : List Char) :
    ∃ c cs, t.text = c :: cs ∧ t.Begins c ∧
      skipSpace (before.text ++ (t.text ++ rest)) = c :: (cs ++ rest) := by
  obtain ⟨c, cs, htext, hc⟩ := t.exists_text_eq
  refine ⟨c, cs, htext, hc, ?_⟩
  rw [skipSpace_blanks, t.skipSpace_text, htext, List.cons_append]

/-! ## Numbers and truth values -/

theorem reads_readUnsigned {bits : Nat} (hbits : 1 <<< bits ≤ maxSignificand + 1) :
    Reads (readUnsigned bits) (Tree.unsigned? bits) where
  ok before t rest a hrest ha := by
    cases t with
    | number n =>
      obtain ⟨hn, hlt⟩ := Option.filter_eq_some_iff.mp ha
      have hlt : a < 1 <<< bits := by simpa using hlt
      have hread := Numeral.readNumber_of_natural hn (by omega) hrest
      obtain ⟨c, cs, htext, hc, hskip⟩ := exists_skipSpace_eq before (.number n) rest
      have htext : n.text = c :: cs := htext
      have hc : startsNumber c = true := hc
      rw [htext, List.cons_append] at hread
      simp only [readUnsigned, hskip, hread, hc, if_true, if_pos hlt]
    | _ => cases ha
  error before t rest hrest hnone := by
    obtain ⟨c, cs, htext, hc, hskip⟩ := exists_skipSpace_eq before t rest
    simp only [readUnsigned, hskip]
    split
    · next hnumber =>
      obtain ⟨n, rfl⟩ := hc.exists_number hnumber
      have htext : n.text = c :: cs := htext
      rw [← List.cons_append, ← htext]
      split
      · exact ⟨_, rfl⟩
      · next k rest' hread =>
        -- only a number that is too large is left
        have hlarge : ¬k < 1 <<< bits := by
          intro hlt
          by_cases hnatural : ∃ j, n.natural? = some j ∧ j ≤ maxSignificand
          · obtain ⟨j, hj, hfit⟩ := hnatural
            rw [Numeral.readNumber_of_natural hj hfit hrest] at hread
            cases hread
            simp only [Tree.unsigned?, hj, Option.filter_some, decide_eq_true hlt, if_true] at hnone
            cases hnone
          · refine Numeral.neverNatural_readNumber (fun j hj ↦ ?_) hrest k rest' hread
            exact Nat.lt_of_not_le fun hfit ↦ hnatural ⟨j, hj, hfit⟩
        exact ⟨_, if_neg hlarge⟩
      · exact ⟨_, rfl⟩
      · exact ⟨_, rfl⟩
    · exact ⟨_, rfl⟩

theorem reads_readByte : Reads readByte Tree.byte? :=
  (reads_readUnsigned (by decide)).map UInt8.ofNat

theorem reads_readAddress : Reads readAddress Tree.address? :=
  (reads_readUnsigned (by decide)).map UInt16.ofNat

theorem reads_readRow : Reads readRow Tree.row? :=
  (reads_readUnsigned (by decide)).map (BitVec.ofNat 64)

theorem reads_readBool : Reads readBool Tree.boolean? where
  ok before t rest b hrest hb := by
    cases t with
    | boolean b' =>
      obtain rfl : b' = b := Option.some.inj hb
      have hskip := (Tree.boolean b').skipSpace_text rest
      simp only [readBool, skipSpace_blanks, hskip]
      cases b' <;> rfl
    | _ => cases hb
  error before t rest hrest hnone := by
    obtain ⟨c, cs, -, hc, hskip⟩ := exists_skipSpace_eq before t rest
    simp only [readBool, hskip]
    split
    · next heq => cases heq
    · next heq =>
      obtain ⟨rfl, -⟩ := List.cons.inj heq
      obtain rfl := hc.eq_boolean (b := true)
      cases hnone
    · next heq =>
      obtain ⟨rfl, -⟩ := List.cons.inj heq
      obtain rfl := hc.eq_boolean (b := false)
      cases hnone
    · exact ⟨_, rfl⟩

/-! ## Lists -/

/-- The text behind some items of a list. -/
def listTail (gap : Blanks) (isFirst : Bool) (items : List (Laid Tree)) (rest : List Char) :
    List Char :=
  gap.text ++ (Tree.itemsText isFirst items ++ ']' :: rest)

theorem text_list (gap : Blanks) (items : List (Laid Tree)) :
    (Tree.list gap items).text ++ rest = '[' :: listTail gap true items rest := by
  simp [Tree.text, listTail]

theorem skipSpace_listTail_first (gap : Blanks) (l : Laid Tree) (items : List (Laid Tree))
    (rest : List Char) :
    skipSpace (listTail gap true (l :: items) rest)
      = l.item.text ++ listTail l.after false items rest := by
  simpa [listTail, Tree.itemsText, comma]
    using l.item.skipSpace_text (listTail l.after false items rest)

theorem skipSpace_listTail_later (gap : Blanks) (l : Laid Tree) (items : List (Laid Tree))
    (rest : List Char) :
    skipSpace (listTail gap false (l :: items) rest)
      = ',' :: (l.before.text ++ (l.item.text ++ listTail l.after false items rest)) := by
  rw [listTail, skipSpace_blanks, Tree.itemsText, comma, if_neg Bool.false_ne_true]
  simp [skipSpace_cons (c := ',') rfl, listTail]

theorem nextItem_nil (gap : Blanks) (isFirst : Bool) :
    nextItem isFirst (listTail gap isFirst [] rest) = .ok none := by
  rw [nextItem, listTail, skipSpace_blanks]
  rfl

theorem nextItem_cons (gap : Blanks) (isFirst : Bool) (l : Laid Tree) (items : List (Laid Tree)) :
    nextItem isFirst (listTail gap isFirst (l :: items) rest)
      = .ok (some (l.item.text ++ listTail l.after false items rest)) := by
  obtain ⟨c, cs, htext, hc⟩ := l.item.exists_text_eq
  have hclose := hc.ne ']' (by decide) (by decide)
  have hskip := l.item.skipSpace_text (listTail l.after false items rest)
  rw [htext, List.cons_append] at hskip ⊢
  cases isFirst with
  | true => simp [nextItem, skipSpace_listTail_first, htext]
  | false => simp [nextItem, skipSpace_listTail_later, htext, hskip, hclose]

theorem closeList_nil (gap : Blanks) (isFirst : Bool) :
    closeList (listTail gap isFirst [] rest) = .ok rest := by
  rw [closeList, listTail, skipSpace_blanks]
  rfl

theorem closeList_cons (gap : Blanks) (isFirst : Bool) (l : Laid Tree) (items : List (Laid Tree))
    (rest : List Char) :
    ∃ fault, closeList (listTail gap isFirst (l :: items) rest) = .error fault := by
  cases isFirst with
  | true =>
    obtain ⟨c, cs, htext, hc⟩ := l.item.exists_text_eq
    have hclose := hc.ne ']' (by decide) (by decide)
    rw [closeList, skipSpace_listTail_first, htext, List.cons_append]
    split
    · exact ⟨_, rfl⟩
    · next heq => exact absurd (List.cons.inj heq).1 hclose
    · split <;> exact ⟨_, rfl⟩
    · exact ⟨_, rfl⟩
  | false =>
    simp only [closeList, skipSpace_listTail_later]
    split <;> exact ⟨_, rfl⟩

theorem mapM_cons_eq_some {γ : Type} {f : γ → Option α} {c : γ} {cs : List γ} {as : List α} :
    (c :: cs).mapM f = some as ↔
      ∃ a, f c = some a ∧ ∃ as', cs.mapM f = some as' ∧ a :: as' = as := by
  simp [List.mapM_cons, Option.bind_eq_some_iff]

theorem mapM_cons_eq_none {γ : Type} {f : γ → Option α} {c : γ} {cs : List γ} {a : α}
    (ha : f c = some a) : (c :: cs).mapM f = none ↔ cs.mapM f = none := by
  rw [List.mapM_cons, ha]
  cases cs.mapM f <;> simp

theorem length_of_mapM_eq_some {γ : Type} {f : γ → Option α} {cs : List γ} {as : List α}
    (h : cs.mapM f = some as) : as.length = cs.length := by
  induction cs generalizing as with
  | nil =>
    obtain rfl : [] = as := Option.some.inj h
    rfl
  | cons c cs ih =>
    obtain ⟨a, -, as', has, rfl⟩ := mapM_cons_eq_some.mp h
    simp [ih has]

theorem Reads.item_ok (h : Reads item value?) {l : Laid Tree} {a : α}
    (ha : value? l.item = some a) (items : List (Laid Tree)) (rest : List Char) :
    item (l.item.text ++ listTail l.after false items rest)
      = .ok (a, listTail l.after false items rest) :=
  h.ok [] l.item (ends_itemsText items l.after rest) ha

theorem Reads.item_error (h : Reads item value?) {l : Laid Tree} (ha : value? l.item = none)
    (items : List (Laid Tree)) (rest : List Char) :
    ∃ fault, item (l.item.text ++ listTail l.after false items rest) = .error fault :=
  h.error [] l.item (ends_itemsText items l.after rest) ha

/-- Items that have values are read one by one. -/
theorem Reads.readItems_ok (h : Reads item value?) (expected : String) (rest : List Char)
    (items : List (Laid Tree)) :
    ∀ {k n : Nat} (done : Vector α k) (gap : Blanks) {as : List α}, n ≤ items.length →
      ((items.take n).mapM fun l ↦ value? l.item) = some as →
      ∃ all gap', readItems item expected n done (listTail gap (k == 0) items rest)
        = .ok (all, listTail gap' (k + n == 0) (items.drop n) rest) ∧
          all.toList = done.toList ++ as := by
  induction items with
  | nil =>
    intro k n done gap as hn has
    obtain rfl : n = 0 := Nat.le_zero.mp hn
    obtain rfl : [] = as := Option.some.inj has
    exact ⟨done, gap, rfl, by simp⟩
  | cons l items ih =>
    intro k n done gap as hn has
    cases n with
    | zero =>
      obtain rfl : [] = as := Option.some.inj has
      exact ⟨done, gap, rfl, by simp⟩
    | succ n =>
      obtain ⟨a, ha, as', has', rfl⟩ := mapM_cons_eq_some.mp has
      have hitem := h.item_ok ha items rest
      obtain ⟨all, gap', hread, hall⟩ :=
        ih (done.push a) l.after (Nat.le_of_succ_le_succ hn) has'
      rw [beq_false_of_ne (Nat.succ_ne_zero k)] at hread
      have hsize : k + 1 + n = k + (n + 1) := by omega
      have hlist : (all.cast hsize).toList = done.toList ++ a :: as' := by
        rw [Vector.toList_cast, hall, Vector.toList_push, List.append_assoc, List.singleton_append]
      refine ⟨all.cast hsize, gap', ?_, hlist⟩
      have hlater : (k + (n + 1) == 0) = (k + 1 + n == 0) := by rw [Nat.add_assoc, Nat.add_comm 1 n]
      simp only [readItems, nextItem_cons, hitem, hread, hlater, List.drop_succ_cons]

/-- Too few items, or an item without a value, are noticed. -/
theorem Reads.readItems_error (h : Reads item value?) (expected : String) (rest : List Char)
    (items : List (Laid Tree)) :
    ∀ {k n : Nat} (done : Vector α k) (gap : Blanks),
      (items.length < n ∨ ((items.take n).mapM fun l ↦ value? l.item) = none) →
      ∃ fault, readItems item expected n done (listTail gap (k == 0) items rest)
        = .error fault := by
  induction items with
  | nil =>
    intro k n done gap hbad
    cases n with
    | zero => simp at hbad
    | succ n =>
      refine ⟨.wrongLength k expected, ?_⟩
      simp only [readItems, nextItem_nil]
  | cons l items ih =>
    intro k n done gap hbad
    cases n with
    | zero => simp at hbad
    | succ n =>
      cases ha : value? l.item with
      | none =>
        obtain ⟨fault, hitem⟩ := h.item_error ha items rest
        exact ⟨fault, by simp only [readItems, nextItem_cons, hitem]⟩
      | some a =>
        have hitem := h.item_ok ha items rest
        have hbad : items.length < n ∨ ((items.take n).mapM fun l ↦ value? l.item) = none :=
          hbad.imp Nat.lt_of_succ_lt_succ
            (mapM_cons_eq_none (f := fun l : Laid Tree ↦ value? l.item) ha).mp
        obtain ⟨fault, hread⟩ := ih (done.push a) l.after hbad
        rw [beq_false_of_ne (Nat.succ_ne_zero k)] at hread
        exact ⟨fault, by simp only [readItems, nextItem_cons, hitem, hread]⟩

theorem vector?_list_eq_some {gap : Blanks} {items : List (Laid Tree)} {v : Vector α n} :
    (Tree.list gap items).vector? n value? = some v ↔
      (items.mapM fun l ↦ value? l.item) = some v.toList := by
  constructor
  · intro h
    obtain ⟨as, has, h⟩ := Option.bind_eq_some_iff.mp h
    split at h
    · obtain rfl := Option.some.inj h
      exact has
    · cases h
  · intro h
    have hlist : (Tree.list gap items).list? value? = some v.toList := h
    simp [Tree.vector?, hlist, Vector.toList]

/-- The reader of a list of fixed length, behind the opening bracket. -/
theorem readVector_list (item : List Char → Read α) (n : Nat) (before gap : Blanks)
    (items : List (Laid Tree)) (rest : List Char) :
    ∃ expected, readVector n item (before.text ++ ((Tree.list gap items).text ++ rest))
      = match readItems item expected n (#v[] : Vector α 0) (listTail gap true items rest) with
        | .error fault => .error fault
        | .ok (all, cs) => (closeList cs).map fun rest ↦ (all.cast (Nat.zero_add n), rest) := by
  have hblanks (cs : List Char) : readVector n item (before.text ++ cs) = readVector n item cs := by
    simp only [readVector, skipSpace_blanks]
  rw [hblanks, text_list]
  exact ⟨_, rfl⟩

theorem readVector_not_list {t : Tree} (h : ∀ gap items, t ≠ .list gap items) (before : Blanks) :
    ∃ fault, readVector n item (before.text ++ (t.text ++ rest)) = .error fault := by
  obtain ⟨c, cs, -, hc, hskip⟩ := exists_skipSpace_eq before t rest
  simp only [readVector, hskip]
  split
  · exact ⟨_, rfl⟩
  · next heq =>
    obtain ⟨rfl, -⟩ := List.cons.inj heq
    obtain ⟨gap, items, rfl⟩ := hc.exists_list
    exact absurd rfl (h gap items)
  · exact ⟨_, rfl⟩

theorem Reads.readVector_ok (h : Reads item value?) (before gap : Blanks)
    (items : List (Laid Tree)) {v : Vector α n}
    (hv : (Tree.list gap items).vector? n value? = some v) :
    readVector n item (before.text ++ ((Tree.list gap items).text ++ rest)) = .ok (v, rest) := by
  have has := vector?_list_eq_some.mp hv
  have hlength : items.length = n := by
    rw [← length_of_mapM_eq_some has, Vector.length_toList]
  obtain ⟨expected, hvector⟩ := readVector_list item n before gap items rest
  obtain ⟨all, gap', hread, hall⟩ := h.readItems_ok expected rest items #v[] gap
    (Nat.le_of_eq hlength.symm) (by rwa [← hlength, List.take_length])
  have hleft : items.drop n = [] := by rw [← hlength, List.drop_length]
  have hv : all.cast (Nat.zero_add n) = v := by
    rw [← Vector.toList_inj, Vector.toList_cast, hall]
    rfl
  rw [hleft] at hread
  rw [hvector, show (true : Bool) = (0 == 0) from rfl, hread]
  simp only [closeList_nil, hv]
  rfl

theorem Reads.readVector_error (h : Reads item value?) (before gap : Blanks)
    (items : List (Laid Tree)) (hnone : (Tree.list gap items).vector? n value? = none) :
    ∃ fault, readVector n item (before.text ++ ((Tree.list gap items).text ++ rest))
      = .error fault := by
  obtain ⟨expected, hvector⟩ := readVector_list item n before gap items rest
  rw [hvector, show (true : Bool) = (0 == 0) from rfl]
  by_cases hbad : items.length < n ∨ ((items.take n).mapM fun l ↦ value? l.item) = none
  · obtain ⟨fault, hread⟩ := h.readItems_error expected rest items #v[] gap hbad
    exact ⟨fault, by rw [hread]⟩
  -- as many values as are asked for are there, so there is an item more
  rw [not_or, Nat.not_lt] at hbad
  obtain ⟨as, has⟩ := Option.ne_none_iff_exists'.mp hbad.2
  obtain ⟨all, gap', hread, hall⟩ :=
    h.readItems_ok expected rest items #v[] gap hbad.1 has
  cases hleft : items.drop n with
  | nil =>
    have htake : items.take n = items := by
      rw [← List.append_nil (items.take n), ← hleft, List.take_append_drop]
    have hsome : (Tree.list gap items).vector? n value? = some (all.cast (Nat.zero_add n)) :=
      vector?_list_eq_some.mpr (by rw [← htake, has, Vector.toList_cast, hall]; rfl)
    rw [hsome] at hnone
    cases hnone
  | cons l left =>
    obtain ⟨fault, hclose⟩ := closeList_cons gap' (0 + n == 0) l left rest
    exact ⟨fault, by rw [hread, hleft]; simp only [hclose]; rfl⟩

theorem Reads.vector (h : Reads item value?) (n : Nat) :
    Reads (readVector n item) (Tree.vector? n value?) where
  ok before t rest v hrest hv := by
    cases t with
    | list gap items => exact h.readVector_ok before gap items hv
    | _ => cases hv
  error before t rest hrest hnone := by
    cases t with
    | list gap items => exact h.readVector_error before gap items hnone
    | _ => exact readVector_not_list (fun gap items h ↦ by cases h) before

theorem length_le_listTail (items : List (Laid Tree)) (gap : Blanks) (isFirst : Bool)
    (rest : List Char) :
    items.length ≤ (listTail gap isFirst items rest).length := by
  induction items generalizing gap isFirst with
  | nil => exact Nat.zero_le _
  | cons l items ih =>
    rcases l with ⟨before, t, after⟩
    obtain ⟨c, cs, htext, -⟩ := t.exists_text_eq
    have hlength := ih after false
    simp only [listTail, Tree.itemsText, htext, List.length_append, List.length_cons] at hlength ⊢
    omega

theorem Reads.readAllItems_ok (h : Reads item value?) (rest : List Char)
    (items : List (Laid Tree)) :
    ∀ {fuel : Nat} (done : List α) (gap : Blanks) {as : List α}, items.length < fuel →
      (items.mapM fun l ↦ value? l.item) = some as →
      ∃ gap', readAllItems item fuel done (listTail gap done.isEmpty items rest)
        = .ok (as.reverse ++ done, listTail gap' true [] rest) := by
  induction items with
  | nil =>
    intro fuel done gap as hfuel has
    obtain ⟨fuel, rfl⟩ := Nat.exists_eq_add_of_lt hfuel
    obtain rfl : [] = as := Option.some.inj has
    exact ⟨gap, by simp only [readAllItems, nextItem_nil]; rfl⟩
  | cons l items ih =>
    intro fuel done gap as hfuel has
    cases fuel with
    | zero => cases hfuel
    | succ fuel =>
      obtain ⟨a, ha, as', has', rfl⟩ := mapM_cons_eq_some.mp has
      have hitem := h.item_ok ha items rest
      obtain ⟨gap', hread⟩ := ih (a :: done) l.after (Nat.lt_of_succ_lt_succ hfuel) has'
      refine ⟨gap', ?_⟩
      rw [List.isEmpty_cons] at hread
      simp only [readAllItems, nextItem_cons, hitem, hread, List.reverse_cons, List.append_assoc,
        List.singleton_append]

theorem Reads.readAllItems_error (h : Reads item value?) (rest : List Char)
    (items : List (Laid Tree)) :
    ∀ (fuel : Nat) (done : List α) (gap : Blanks), (items.mapM fun l ↦ value? l.item) = none →
      ∃ fault, readAllItems item fuel done (listTail gap done.isEmpty items rest)
        = .error fault := by
  induction items with
  | nil =>
    intro fuel done gap hbad
    cases hbad
  | cons l items ih =>
    intro fuel done gap hbad
    cases fuel with
    | zero => exact ⟨_, rfl⟩
    | succ fuel =>
      cases ha : value? l.item with
      | none =>
        obtain ⟨fault, hitem⟩ := h.item_error ha items rest
        exact ⟨fault, by simp only [readAllItems, nextItem_cons, hitem]⟩
      | some a =>
        have hitem := h.item_ok ha items rest
        have hbad := (mapM_cons_eq_none (f := fun l : Laid Tree ↦ value? l.item) ha).mp hbad
        obtain ⟨fault, hread⟩ := ih fuel (a :: done) l.after hbad
        rw [List.isEmpty_cons] at hread
        exact ⟨fault, by simp only [readAllItems, nextItem_cons, hitem, hread]⟩

theorem readList_list (item : List Char → Read α) (before gap : Blanks) (items : List (Laid Tree))
    (rest : List Char) :
    ∃ fuel, items.length < fuel ∧
      readList item (before.text ++ ((Tree.list gap items).text ++ rest))
        = match readAllItems item fuel [] (listTail gap true items rest) with
          | .error fault => .error fault
          | .ok (all, cs) => (closeList cs).map fun rest ↦ (all.reverse, rest) := by
  have hblanks (cs : List Char) : readList item (before.text ++ cs) = readList item cs := by
    simp only [readList, skipSpace_blanks]
  rw [hblanks, text_list]
  exact ⟨_, Nat.lt_succ_of_le (length_le_listTail items gap true rest), rfl⟩

theorem readList_not_list {t : Tree} (h : ∀ gap items, t ≠ .list gap items) (before : Blanks) :
    ∃ fault, readList item (before.text ++ (t.text ++ rest)) = .error fault := by
  obtain ⟨c, cs, -, hc, hskip⟩ := exists_skipSpace_eq before t rest
  simp only [readList, hskip]
  split
  · exact ⟨_, rfl⟩
  · next heq =>
    obtain ⟨rfl, -⟩ := List.cons.inj heq
    obtain ⟨gap, items, rfl⟩ := hc.exists_list
    exact absurd rfl (h gap items)
  · exact ⟨_, rfl⟩

theorem Reads.list (h : Reads item value?) : Reads (readList item) (Tree.list? value?) where
  ok before t rest as hrest has := by
    cases t with
    | list gap items =>
      obtain ⟨fuel, hfuel, hlist⟩ := readList_list item before gap items rest
      obtain ⟨gap', hread⟩ := h.readAllItems_ok rest items [] gap hfuel has
      rw [List.isEmpty_nil, List.append_nil] at hread
      rw [hlist, hread]
      simp only [closeList_nil, List.reverse_reverse]
      rfl
    | _ => cases has
  error before t rest hrest hnone := by
    cases t with
    | list gap items =>
      obtain ⟨fuel, -, hlist⟩ := readList_list item before gap items rest
      obtain ⟨fault, hread⟩ := h.readAllItems_error rest items fuel [] gap hnone
      rw [List.isEmpty_nil] at hread
      exact ⟨fault, by rw [hlist, hread]⟩
    | _ => exact readList_not_list (fun gap items h ↦ by cases h) before

end Snapshot

end ChipEight
