import ChipEight.JsonText.Skip
import ChipEight.Snapshot

/-!
# Reading a snapshot from JSON

The text is read from left to right and every value at the type of its field, so the first problem
is the one reported. Fields may come in any order; unknown fields are skipped but must be JSON. A
field given twice is noticed at its second key, a missing one when the object is complete. Instead
of an object a list of the nine values in their fixed order is accepted too.

Lists of fixed length are read value by value: a list that ends early has the wrong length, and what
follows the last value must be the closing bracket.
-/

namespace ChipEight

open JsonText

namespace Snapshot

/-! ## Values -/

/-- The fault of a value that is not of the expected type. The value is read only as far as its kind
needs, so a malformed one is reported as such. -/
def mismatch (expected : String) (cs : List Char) : JsonText.Fault :=
  let wrong (found : Found) : JsonText.Fault := .wrongType found expected
  let word (ws rest : List Char) (found : Found) : JsonText.Fault :=
    match readWord ws rest with
    | .ok _ => wrong found
    | .error fault => fault
  match cs with
  | [] => .endInValue
  | 'n' :: rest => word ['u', 'l', 'l'] rest .null
  | 't' :: rest => word ['r', 'u', 'e'] rest (.boolean true)
  | 'f' :: rest => word ['a', 'l', 's', 'e'] rest (.boolean false)
  | '\x22' :: rest =>
    match readString rest with
    | .ok (s, _) => wrong (.text s)
    | .error fault => fault
  | '[' :: _ => wrong .sequence
  | '\x7b' :: _ => wrong .map
  | c :: _ =>
    if startsNumber c then
      match readNumber cs with
      | .ok (n, _) => wrong n.found
      | .error fault => fault
    else .expectedValue

/-- Reads a whole number below `2 ^ bits`. -/
def readUnsigned (bits : Nat) (cs : List Char) : Read Nat :=
  let expected := s!"u{bits}"
  match skipSpace cs with
  | [] => .error .endInValue
  | c :: rest =>
    if startsNumber c then
      match readNumber (c :: rest) with
      | .error fault => .error fault
      | .ok (.natural n, rest) =>
        if n < (1 <<< bits) then .ok (n, rest) else .error (.outOfRange (.natural n) expected)
      | .ok (.negative n, _) => .error (.outOfRange (.negative n) expected)
      | .ok (.real x, _) => .error (.wrongType (.real x) expected)
    else .error (mismatch expected (c :: rest))

def readByte (cs : List Char) : Read UInt8 :=
  (readUnsigned 8 cs).map fun r ↦ (UInt8.ofNat r.1, r.2)

def readAddress (cs : List Char) : Read UInt16 :=
  (readUnsigned 16 cs).map fun r ↦ (UInt16.ofNat r.1, r.2)

def readRow (cs : List Char) : Read (BitVec 64) :=
  (readUnsigned 64 cs).map fun r ↦ (BitVec.ofNat 64 r.1, r.2)

def readBool (cs : List Char) : Read Bool :=
  match skipSpace cs with
  | [] => .error .endInValue
  | 't' :: rest => (readWord ['r', 'u', 'e'] rest).map fun rest ↦ (true, rest)
  | 'f' :: rest => (readWord ['a', 'l', 's', 'e'] rest).map fun rest ↦ (false, rest)
  | cs => .error (mismatch "a boolean" cs)

/-! ## Lists -/

/-- The text at the next value of a list, or nothing if the list ends here. -/
def nextItem (isFirst : Bool) (cs : List Char) : Except JsonText.Fault (Option (List Char)) :=
  match skipSpace cs with
  | [] => .error .endInList
  | ']' :: _ => .ok none
  | c :: rest =>
    if isFirst then .ok (some (c :: rest))
    else if c.toNat = 0x2C then
      match skipSpace rest with
      | [] => .error .endInValue
      | ']' :: _ => .error .trailingComma
      | rest => .ok (some rest)
    else .error .expectedListComma

/-- The text behind the closing bracket of a list all of whose values have been read. -/
def closeList (cs : List Char) : Except JsonText.Fault (List Char) :=
  match skipSpace cs with
  | [] => .error .endInList
  | ']' :: rest => .ok rest
  | ',' :: rest =>
    match skipSpace rest with
    | ']' :: _ => .error .trailingComma
    | _ => .error .trailingCharacters
  | _ => .error .trailingCharacters

/-- Reads `count` values of a list in which `done` have been read. -/
def readItems {α : Type} {k : Nat} (item : List Char → Read α) (expected : String) :
    (count : Nat) → Vector α k → List Char → Read (Vector α (k + count))
  | 0, done, cs => .ok (done, cs)
  | count + 1, done, cs =>
    match nextItem (k == 0) cs with
    | .error fault => .error fault
    | .ok none => .error (.wrongLength k expected)
    | .ok (some cs) =>
      match item cs with
      | .error fault => .error fault
      | .ok (a, cs) =>
        match readItems item expected count (done.push a) cs with
        | .error fault => .error fault
        | .ok (all, cs) => .ok (all.cast (by omega), cs)

/-- Reads a list of exactly `n` values. -/
def readVector {α : Type} (n : Nat) (item : List Char → Read α) (cs : List Char) :
    Read (Vector α n) :=
  let expected := s!"an array of length {n}"
  match skipSpace cs with
  | [] => .error .endInValue
  | '[' :: cs =>
    match readItems item expected n (#v[] : Vector α 0) cs with
    | .error fault => .error fault
    | .ok (all, cs) => (closeList cs).map fun rest ↦ (all.cast (by omega), rest)
  | cs => .error (mismatch expected cs)

/-- Reads the values of a list of any length, the last one first. Every value takes a character, so
the length of the text bounds their number. -/
def readAllItems {α : Type} (item : List Char → Read α) :
    Nat → List α → List Char → Read (List α)
  | 0, _, _ => .error .endInList
  | fuel + 1, done, cs =>
    match nextItem done.isEmpty cs with
    | .error fault => .error fault
    | .ok none => .ok (done, cs)
    | .ok (some cs) =>
      match item cs with
      | .error fault => .error fault
      | .ok (a, cs) => readAllItems item fuel (a :: done) cs

def readList {α : Type} (item : List Char → Read α) (cs : List Char) : Read (List α) :=
  match skipSpace cs with
  | [] => .error .endInValue
  | '[' :: cs =>
    match readAllItems item (cs.length + 1) [] cs with
    | .error fault => .error fault
    | .ok (all, cs) => (closeList cs).map fun rest ↦ (all.reverse, rest)
  | cs => .error (mismatch "a sequence" cs)

/-! ## Fields -/

/-- A snapshot whose fields may be missing. -/
structure Draft where
  pc : Option UInt16
  index : Option UInt16
  v : Option (Vector UInt8 16)
  /-- The pending calls, oldest first. -/
  stack : Option (List UInt16)
  delay : Option UInt8
  sound : Option UInt8
  memory : Option Memory
  display : Option Display
  keypad : Option (Vector Bool 16)

namespace Draft

def empty : Draft := ⟨none, none, none, none, none, none, none, none, none⟩

def has (d : Draft) : SnapshotField → Bool
  | .pc => d.pc.isSome
  | .index => d.index.isSome
  | .v => d.v.isSome
  | .stack => d.stack.isSome
  | .delay => d.delay.isSome
  | .sound => d.sound.isSome
  | .memory => d.memory.isSome
  | .display => d.display.isSome
  | .keypad => d.keypad.isSome

/-- Reads the value of a field. -/
def readField (d : Draft) (f : SnapshotField) (cs : List Char) : Read Draft :=
  match f with
  | .pc => (readAddress cs).map fun r ↦ ({ d with pc := some r.1 }, r.2)
  | .index => (readAddress cs).map fun r ↦ ({ d with index := some r.1 }, r.2)
  | .v => (readVector 16 readByte cs).map fun r ↦ ({ d with v := some r.1 }, r.2)
  | .stack => (readList readAddress cs).map fun r ↦ ({ d with stack := some r.1 }, r.2)
  | .delay => (readByte cs).map fun r ↦ ({ d with delay := some r.1 }, r.2)
  | .sound => (readByte cs).map fun r ↦ ({ d with sound := some r.1 }, r.2)
  | .memory => (readVector memorySize readByte cs).map fun r ↦ ({ d with memory := some r.1 }, r.2)
  | .display => (readVector 32 readRow cs).map fun r ↦ ({ d with display := some r.1 }, r.2)
  | .keypad => (readVector 16 readBool cs).map fun r ↦ ({ d with keypad := some r.1 }, r.2)

/-- A field that must be given. -/
def require {α : Type} (f : SnapshotField) (value : Option α) : Except JsonText.Fault α :=
  match value with
  | some a => .ok a
  | none => .error (.missingField f.name)

/-- The snapshot, if no field is missing; the first missing one in the fixed order otherwise. -/
def complete (d : Draft) : Except JsonText.Fault Snapshot := do
  let pc ← require .pc d.pc
  let index ← require .index d.index
  let v ← require .v d.v
  let stack ← require .stack d.stack
  let delay ← require .delay d.delay
  let sound ← require .sound d.sound
  let memory ← require .memory d.memory
  let display ← require .display d.display
  let keypad ← require .keypad d.keypad
  return { pc, index, v, stack, delay, sound, memory, display, keypad }

end Draft

/-! ## Objects -/

/-- The text at the next key of an object, behind its opening quote, or the text behind the object
if it ends here. -/
def nextKey (isFirst : Bool) (cs : List Char) :
    Except JsonText.Fault (List Char ⊕ List Char) :=
  match skipSpace cs with
  | [] => .error .endInObject
  | '\x7d' :: rest => .ok (.inr rest)
  | c :: rest =>
    if isFirst then
      if c.toNat = 0x22 then .ok (.inl rest) else .error .keyNotString
    else if c.toNat = 0x2C then
      match skipSpace rest with
      | [] => .error .endInValue
      | '\x22' :: rest => .ok (.inl rest)
      | '\x7d' :: _ => .error .trailingComma
      | _ => .error .keyNotString
    else .error .expectedObjectComma

/-- The text behind the colon that follows a key. -/
def skipColon (cs : List Char) : Except JsonText.Fault (List Char) :=
  match skipSpace cs with
  | [] => .error .endInObject
  | ':' :: rest => .ok rest
  | _ => .error .expectedColon

/-- Reads the rest of a member behind its key: the value of a field that is not yet given, or any
value under an unknown name. -/
def readMember (d : Draft) (key : String) (cs : List Char) : Read Draft :=
  match SnapshotField.ofName? key with
  | some f =>
    if d.has f then .error (.duplicateField f.name)
    else
      match skipColon cs with
      | .error fault => .error fault
      | .ok cs => d.readField f cs
  | none =>
    match skipColon cs with
    | .error fault => .error fault
    | .ok cs => (skipValue cs).map fun rest ↦ (d, rest)

/-- Reads the members of an object. Every member takes a character, so the length of the text bounds
their number. -/
def readMembers : Nat → Bool → Draft → List Char → Read Draft
  | 0, _, _, _ => .error .endInObject
  | fuel + 1, isFirst, d, cs =>
    match nextKey isFirst cs with
    | .error fault => .error fault
    | .ok (.inr rest) => .ok (d, rest)
    | .ok (.inl cs) =>
      match readString cs with
      | .error fault => .error fault
      | .ok (key, cs) =>
        match readMember d key cs with
        | .error fault => .error fault
        | .ok (d, cs) => readMembers fuel false d cs

/-- Reads the values of a list as the fields in their fixed order. -/
def readPositions (d : Draft) (k : Nat) : List SnapshotField → List Char → Read Draft
  | [], cs => .ok (d, cs)
  | f :: fs, cs =>
    match nextItem (k == 0) cs with
    | .error fault => .error fault
    | .ok none => .error (.wrongLength k "struct MachineState with 9 elements")
    | .ok (some cs) =>
      match d.readField f cs with
      | .error fault => .error fault
      | .ok (d, cs) => readPositions d (k + 1) fs cs

/-- Reads a snapshot at the start of a text. -/
def read (cs : List Char) : Read Snapshot :=
  match skipSpace cs with
  | [] => .error .endInValue
  | '[' :: cs =>
    match readPositions .empty 0 SnapshotField.all cs with
    | .error fault => .error fault
    | .ok (d, cs) =>
      match closeList cs with
      | .error fault => .error fault
      | .ok rest => d.complete.map fun s ↦ (s, rest)
  | '\x7b' :: cs =>
    match readMembers (cs.length + 1) true .empty cs with
    | .error fault => .error fault
    | .ok (d, rest) => d.complete.map fun s ↦ (s, rest)
  | cs => .error (mismatch "struct MachineState" cs)

/-- The snapshot written in a text, which must hold nothing else. -/
def ofJson (text : String) : Except JsonText.Fault Snapshot :=
  match read text.toList with
  | .error fault => .error fault
  | .ok (s, rest) => if (skipSpace rest).isEmpty then .ok s else .error .trailingCharacters

end Snapshot

end ChipEight
