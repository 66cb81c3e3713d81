import ChipEight.Machine

/-!
# Snapshots

A snapshot is a copy of everything in a machine but its random source. Pending calls are listed
oldest first, as they are written to a file.

Not every snapshot comes from a machine: one that was read from a file may list more pending calls
than the machine can hold. Restoring checks for that before it changes anything. A program counter
behind the end of memory is accepted, because a machine can get there by itself.
-/

namespace ChipEight

/-- A copy of the state of a machine. -/
structure Snapshot where
  /-- Address of the next instruction. -/
  pc : UInt16
  index : UInt16
  /-- The registers `V0` to `VF`. -/
  v : Vector UInt8 16
  /-- Addresses of the pending calls, oldest first. -/
  stack : List UInt16
  delay : UInt8
  sound : UInt8
  memory : Memory
  display : Display
  /-- Which keys are pressed. -/
  keypad : Vector Bool 16
  deriving DecidableEq

namespace Machine

/-- The state of the machine as a snapshot. -/
def snapshot (m : Machine) : Snapshot where
  pc := m.pc
  index := m.index
  v := m.v
  stack := m.calls.reverse
  delay := m.delay
  sound := m.sound
  memory := m.memory
  display := m.display
  keypad := m.keypad

end Machine

/-- Replaces the state of a machine by a snapshot and keeps its random source. -/
def Procedure.restore (s : Snapshot) : Procedure Unit := do
  if stackDepth < s.stack.length then throw (.stackTooDeep s.stack.length)
  modify fun m ↦
    { pc := s.pc
      index := s.index
      v := s.v
      calls := s.stack.reverse
      delay := s.delay
      sound := s.sound
      memory := s.memory
      display := s.display
      keypad := s.keypad
      random := m.random }

/-- Restores a snapshot: the fault if it is refused, and the machine in the end. -/
def Machine.restore (m : Machine) (s : Snapshot) : EStateM.Result Fault Machine Unit :=
  (Procedure.restore s).run m

/-!
## The fields of a written snapshot

The nine fields of a snapshot have a fixed order, in which they are written and in which a missing
one is looked for, and names, under which they may be given in any order.
-/

inductive SnapshotField where
  | pc
  | index
  | v
  | stack
  | delay
  | sound
  | memory
  | display
  | keypad
  deriving DecidableEq, Repr

namespace SnapshotField

/-- The name under which a field is written. -/
def name : SnapshotField → String
  | .pc => "pc"
  | .index => "i"
  | .v => "v"
  | .stack => "stack"
  | .delay => "delay_timer"
  | .sound => "sound_timer"
  | .memory => "memory"
  | .display => "display"
  | .keypad => "keypad"

/-- The fields in the order in which they are written. -/
def all : List SnapshotField :=
  [.pc, .index, .v, .stack, .delay, .sound, .memory, .display, .keypad]

def ofName? (s : String) : Option SnapshotField := all.find? fun f ↦ f.name == s

end SnapshotField

/-!
## Writing a snapshot as JSON

One object without blanks, its fields in their fixed order. Numbers are decimal, a display row is
the number whose binary digits are its pixels, and keys are truth values.
-/

namespace Snapshot

/-- A list of written values. -/
def listText (items : List String) : String := "[" ++ ",".intercalate items ++ "]"

def fieldText (s : Snapshot) : SnapshotField → String
  | .pc => toString s.pc.toNat
  | .index => toString s.index.toNat
  | .v => listText (s.v.toList.map fun b ↦ toString b.toNat)
  | .stack => listText (s.stack.map fun a ↦ toString a.toNat)
  | .delay => toString s.delay.toNat
  | .sound => toString s.sound.toNat
  | .memory => listText (s.memory.toList.map fun b ↦ toString b.toNat)
  | .display => listText (s.display.toList.map fun row ↦ toString row.toNat)
  | .keypad => listText (s.keypad.toList.map fun b ↦ if b then "true" else "false")

/-- The snapshot as JSON text. -/
def toJson (s : Snapshot) : String :=
  let members := SnapshotField.all.map fun f ↦ "\x22" ++ f.name ++ "\x22:" ++ s.fieldText f
  "\x7b" ++ ",".intercalate members ++ "\x7d"

end Snapshot

end ChipEight
