import ChipEight.Machine

/-!
# The keypad on a keyboard

The sixteen keys of the machine form a square, and a square on the left of a keyboard stands for
them, key by key. A terminal reports that a key is pressed, over and over while it is held, but not
that it is released. So a key counts as held until no report has come for some time, and `HeldKeys`
keeps the time of the last report of each key.
-/

namespace ChipEight

inductive Key where
  /-- A key that types a character. -/
  | char (c : Char)
  | enter
  | escape
  | backspace
  | other
  deriving DecidableEq, Repr

namespace Keypad

/-- The rows of the keypad: the characters on the keyboard and the keys of the machine. -/
def layout : List (List (Char × Nibble)) :=
  [[('1', .ofNat 0x1), ('2', .ofNat 0x2), ('3', .ofNat 0x3), ('4', .ofNat 0xC)],
   [('q', .ofNat 0x4), ('w', .ofNat 0x5), ('e', .ofNat 0x6), ('r', .ofNat 0xD)],
   [('a', .ofNat 0x7), ('s', .ofNat 0x8), ('d', .ofNat 0x9), ('f', .ofNat 0xE)],
   [('z', .ofNat 0xA), ('x', .ofNat 0x0), ('c', .ofNat 0xB), ('v', .ofNat 0xF)]]

/-- The key of the machine that a character stands for, in either case. -/
def ofChar? (c : Char) : Option Nibble :=
  (layout.flatten.find? fun cell ↦ cell.1 == c.toLower).map (·.2)

/-- The key of the machine that a key of the keyboard stands for. -/
def ofKey? : Key → Option Nibble
  | .char c => ofChar? c
  | _ => none

end Keypad

/-- Which keys are held, as far as reports tell. Times are in milliseconds. -/
structure HeldKeys where
  /-- When a key was reported last, unless it has been released since. -/
  lastSeen : Vector (Option Nat) 16
  /-- A key is released when there has been no report for longer than this. -/
  releaseAfter : Nat
  deriving DecidableEq

namespace HeldKeys

/-- How long a key is held after a report if nothing else is asked for. -/
def defaultReleaseAfter : Nat := 50

def empty (releaseAfter : Nat) : HeldKeys := ⟨Vector.replicate 16 none, releaseAfter⟩

/-- Presses the key of the machine that a key of the keyboard stands for, if there is one. -/
def press? (h : HeldKeys) (m : Machine) (key : Key) (now : Nat) : Option (HeldKeys × Machine) :=
  (Keypad.ofKey? key).map fun (k : Nibble) ↦
    ({ h with lastSeen := h.lastSeen.set k.val (some now) k.lt }, m.setKey k true)

/-- Presses the key of the machine that a key of the keyboard stands for, or does nothing. -/
def press (h : HeldKeys) (m : Machine) (key : Key) (now : Nat) : HeldKeys × Machine :=
  (h.press? m key now).getD (h, m)

/-- Whether a held key is due to be released. A time before the report counts as the time of the
report. -/
def isExpired (h : HeldKeys) (now : Nat) (k : Nibble) : Bool :=
  match h.lastSeen.get k with
  | some seen => h.releaseAfter < now - seen
  | none => false

/-- Releases the keys for which there has been no report for too long. -/
def releaseExpired (h : HeldKeys) (m : Machine) (now : Nat) : HeldKeys × Machine :=
  ({ h with lastSeen := Vector.ofFn fun k ↦ if h.isExpired now k then none else h.lastSeen.get k },
    { m with keypad := Vector.ofFn fun k ↦ !h.isExpired now k && m.keypad.get k })

end HeldKeys

end ChipEight
