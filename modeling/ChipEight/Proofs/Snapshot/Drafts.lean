import ChipEight.Proofs.Snapshot.Values

/-!
# Snapshots field by field

The nine fields have values of different types. A snapshot is a value for every field, a draft is a
value for some of them, and what can be said of both is said once for a field that varies:
`Draft.get` and `Draft.set` are the only way in which the proofs about objects look at a draft.
-/

namespace ChipEight

open JsonText

namespace SnapshotField

def Value : SnapshotField → Type
  | .pc => UInt16
  | .index => UInt16
  | .v => Vector UInt8 16
  | .stack => List UInt16
  | .delay => UInt8
  | .sound => UInt8
  | .memory => Memory
  | .display => Display
  | .keypad => Vector Bool 16

/-- What a tree stands for as the value of a field. -/
def value? : (f : SnapshotField) → Tree → Option f.Value
  | .pc => Tree.address?
  | .index => Tree.address?
  | .v => Tree.vector? 16 Tree.byte?
  | .stack => Tree.list? Tree.address?
  | .delay => Tree.byte?
  | .sound => Tree.byte?
  | .memory => Tree.vector? memorySize Tree.byte?
  | .display => Tree.vector? 32 Tree.row?
  | .keypad => Tree.vector? 16 Tree.boolean?

/-- The least number that is too large for a field that is a single number. -/
def limit? : SnapshotField → Option Nat
  | .pc => some 0x10000
  | .index => some 0x10000
  | .delay => some 0x100
  | .sound => some 0x100
  | _ => none

/-- How many items a field has, if it is a list of fixed length. -/
def length? : SnapshotField → Option Nat
  | .v => some 16
  | .memory => some memorySize
  | .display => some 32
  | .keypad => some 16
  | _ => none

theorem mem_all (f : SnapshotField) : f ∈ all := by
  cases f <;> decide

theorem ofName?_name (f : SnapshotField) : ofName? f.name = some f := by
  cases f <;> decide

end SnapshotField

namespace JsonText.Tree

variable {α : Type} {value? : Tree → Option α} {n : Nat}

theorem natural?_ofInt {i : Int} (h : 0 ≤ i) : (Numeral.ofInt i).natural? = some i.natAbs := by
  have hsign : decide (i < 0) = false := decide_eq_false (Int.not_lt.mpr h)
  simp only [Numeral.ofInt, hsign, Numeral.natural?]

theorem unsigned?_ofInt {bits : Nat} {i : Int} (h : ¬(0 ≤ i ∧ i < ((1 <<< bits : Nat) : Int))) :
    (number (.ofInt i)).unsigned? bits = none := by
  rcases Int.lt_or_le i 0 with hneg | hnonneg
  · simp [unsigned?, Numeral.ofInt, Numeral.natural?, hneg]
  · have hlarge : ¬i.natAbs < 1 <<< bits := by omega
    rw [unsigned?, natural?_ofInt hnonneg, Option.filter_some, if_neg (by simpa using hlarge)]

theorem vector?_of_length_ne {gap : Blanks} {items : List (Laid Tree)} (h : items.length ≠ n) :
    (list gap items).vector? n value? = none := by
  cases hv : (list gap items).vector? n value? with
  | none => rfl
  | some v =>
    have hlength := Snapshot.length_of_mapM_eq_some (Snapshot.vector?_list_eq_some.mp hv)
    rw [Vector.length_toList] at hlength
    exact absurd hlength.symm h

end JsonText.Tree

namespace SnapshotField

variable {f : SnapshotField} {t : Tree}

theorem value?_ofInt {limit : Nat} {i : Int} (hlimit : f.limit? = some limit)
    (h : ¬(0 ≤ i ∧ i < limit)) : f.value? (.number (.ofInt i)) = none := by
  cases f <;> cases hlimit <;> exact Option.map_eq_none_iff.mpr (Tree.unsigned?_ofInt h)

theorem value?_of_length_ne {n : Nat} {gap : Blanks} {items : List (Laid Tree)}
    (hn : f.length? = some n) (h : items.length ≠ n) : f.value? (.list gap items) = none := by
  cases f <;> cases hn <;> exact Tree.vector?_of_length_ne h

end SnapshotField

namespace Snapshot

def get (s : Snapshot) : (f : SnapshotField) → f.Value
  | .pc => s.pc
  | .index => s.index
  | .v => s.v
  | .stack => s.stack
  | .delay => s.delay
  | .sound => s.sound
  | .memory => s.memory
  | .display => s.display
  | .keypad => s.keypad

theorem get_inj {s s' : Snapshot} (h : ∀ f, s.get f = s'.get f) : s = s' := by
  rcases s with ⟨pc, index, v, stack, delay, sound, memory, display, keypad⟩
  obtain rfl : pc = _ := h .pc
  obtain rfl : index = _ := h .index
  obtain rfl : v = _ := h .v
  obtain rfl : stack = _ := h .stack
  obtain rfl : delay = _ := h .delay
  obtain rfl : sound = _ := h .sound
  obtain rfl : memory = _ := h .memory
  obtain rfl : display = _ := h .display
  obtain rfl : keypad = _ := h .keypad
  rfl

namespace Draft

variable {d : Draft} {f g : SnapshotField}

def get (d : Draft) : (f : SnapshotField) → Option f.Value
  | .pc => d.pc
  | .index => d.index
  | .v => d.v
  | .stack => d.stack
  | .delay => d.delay
  | .sound => d.sound
  | .memory => d.memory
  | .display => d.display
  | .keypad => d.keypad

def set (d : Draft) : (f : SnapshotField) → f.Value → Draft
  | .pc, a => { d with pc := some a }
  | .index, a => { d with index := some a }
  | .v, a => { d with v := some a }
  | .stack, a => { d with stack := some a }
  | .delay, a => { d with delay := some a }
  | .sound, a => { d with sound := some a }
  | .memory, a => { d with memory := some a }
  | .display, a => { d with display := some a }
  | .keypad, a => { d with keypad := some a }

@[simp] theorem get_set_self (d : Draft) (f : SnapshotField) (a : f.Value) :
    (d.set f a).get f = some a := by
  cases f <;> rfl

theorem get_set_of_ne (d : Draft) (a : f.Value) (h : g ≠ f) : (d.set f a).get g = d.get g := by
  cases f <;> cases g <;> first | rfl | exact absurd rfl h

theorem has_eq_isSome (d : Draft) (f : SnapshotField) : d.has f = (d.get f).isSome := by
  cases f <;> rfl

theorem has_set (d : Draft) (a : f.Value) : (d.set f a).has g = true ↔ d.has g = true ∨ g = f := by
  rw [has_eq_isSome, has_eq_isSome]
  rcases Decidable.em (g = f) with rfl | hne
  · simp
  · simp [get_set_of_ne d a hne, hne]

@[simp] theorem has_empty (f : SnapshotField) : empty.has f = false := by
  cases f <;> rfl

theorem reads_readField (d : Draft) (f : SnapshotField) :
    Reads (d.readField f) fun t ↦ (f.value? t).map (d.set f) := by
  cases f with
  | pc => exact reads_readAddress.map (d.set .pc)
  | index => exact reads_readAddress.map (d.set .index)
  | v => exact (reads_readByte.vector 16).map (d.set .v)
  | stack => exact reads_readAddress.list.map (d.set .stack)
  | delay => exact reads_readByte.map (d.set .delay)
  | sound => exact reads_readByte.map (d.set .sound)
  | memory => exact (reads_readByte.vector memorySize).map (d.set .memory)
  | display => exact (reads_readRow.vector 32).map (d.set .display)
  | keypad => exact (reads_readBool.vector 16).map (d.set .keypad)

theorem complete_of_get {s : Snapshot} (h : ∀ f, d.get f = some (s.get f)) :
    d.complete = .ok s := by
  rcases d with ⟨pc, index, v, stack, delay, sound, memory, display, keypad⟩
  obtain rfl : pc = _ := h .pc
  obtain rfl : index = _ := h .index
  obtain rfl : v = _ := h .v
  obtain rfl : stack = _ := h .stack
  obtain rfl : delay = _ := h .delay
  obtain rfl : sound = _ := h .sound
  obtain rfl : memory = _ := h .memory
  obtain rfl : display = _ := h .display
  obtain rfl : keypad = _ := h .keypad
  rfl

theorem exists_get_eq_of_has (h : ∀ f, d.has f = true) :
    ∃ s : Snapshot, ∀ f, d.get f = some (s.get f) := by
  have hget (f : SnapshotField) : ∃ a, d.get f = some a :=
    Option.isSome_iff_exists.mp (d.has_eq_isSome f ▸ h f)
  obtain ⟨pc, hpc⟩ := hget .pc
  obtain ⟨index, hindex⟩ := hget .index
  obtain ⟨v, hv⟩ := hget .v
  obtain ⟨stack, hstack⟩ := hget .stack
  obtain ⟨delay, hdelay⟩ := hget .delay
  obtain ⟨sound, hsound⟩ := hget .sound
  obtain ⟨memory, hmemory⟩ := hget .memory
  obtain ⟨display, hdisplay⟩ := hget .display
  obtain ⟨keypad, hkeypad⟩ := hget .keypad
  refine ⟨⟨pc, index, v, stack, delay, sound, memory, display, keypad⟩, fun f ↦ ?_⟩
  cases f <;> assumption

/-- The first field that is missing is the one reported. -/
theorem complete_of_missing (h : (SnapshotField.all.find? fun f ↦ !d.has f) = some f) :
    d.complete = .error (.missingField f.name) := by
  rcases d with ⟨pc, index, v, stack, delay, sound, memory, display, keypad⟩
  -- the fields are looked at one after another, and the first that is missing ends the search
  rcases pc with _ | pc
  · cases h; rfl
  rcases index with _ | index
  · cases h; rfl
  rcases v with _ | v
  · cases h; rfl
  rcases stack with _ | stack
  · cases h; rfl
  rcases delay with _ | delay
  · cases h; rfl
  rcases sound with _ | sound
  · cases h; rfl
  rcases memory with _ | memory
  · cases h; rfl
  rcases display with _ | display
  · cases h; rfl
  rcases keypad with _ | keypad
  · cases h; rfl
  cases h

end Draft

end Snapshot

end ChipEight
