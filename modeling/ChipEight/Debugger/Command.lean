import ChipEight.CommandLine
import ChipEight.Debugger
import ChipEight.Files
import ChipEight.Instruction.Record
import ChipEight.Text.Classes
import ChipEight.Text.Lower
import ChipEight.Text.Numbers
import ChipEight.Text.Quoted

/-!
# Debugger commands in text

A line is cut into words at blanks; there is no quoting. Every command has one name or two, and the
names of the breakpoint actions are names only behind `breakpoint`, so `s` is `step` in one place
and `set` in the other.

The first word is taken for the name of a program file, as if each command were a program of its
own: its folders and its extension do not count. A first word that ends in no file name is dropped
together with the word behind it.

Commands are shown in a log in the same form as decoded instructions: the name of the kind, its
parts by name, numbers in decimal and paths quoted.
-/

namespace ChipEight

/-! ## The record form -/

def Target.record : Target → String
  | .v x => Record.ofValue "V" (Record.nibble x)
  | .index => "I"
  | .pc => "Pc"
  | .delay => "DelayTimer"
  | .sound => "SoundTimer"

def BreakpointAction.record : BreakpointAction → String
  | .set address => Record.ofFields "Set" [("addr", toString address.toNat)]
  | .clear address => Record.ofFields "Clear" [("addr", toString address.toNat)]
  | .list => "List"
  | .clearAll => "ClearAll"

namespace Command

private def onRangeRecord (name : String) (start length : UInt16) : String :=
  Record.ofFields name [("start", toString start.toNat), ("len", toString length.toNat)]

/-- The record form of a command. -/
def record : Command → String
  | .run => "Run"
  | .pause => "Pause"
  | .step count => Record.ofFields "Step" [("count", toString count.toNat)]
  | .breakpoint action => Record.ofFields "Breakpoint" [("action", action.record)]
  | .set target value =>
    Record.ofFields "Set" [("target", target.record), ("value", toString value.toNat)]
  | .memory start length => onRangeRecord "Mem" start length
  | .disassemble start length => onRangeRecord "Disasm" start length
  | .reset => "Reset"
  | .save path => Record.ofFields "Save" [("path", quoted path)]
  | .load path => Record.ofFields "Load" [("path", quoted path)]
  | .quit => "Quit"

end Command

/-! ## Reading -/

open CommandLine

/-- Where memory is shown from if nothing else is asked for. -/
def defaultStart : UInt16 := 0x200

/-- How many bytes of memory are shown if nothing else is asked for. -/
def defaultBytes : UInt16 := 64

/-- How many instructions are shown if nothing else is asked for. -/
def defaultInstructions : UInt16 := 16

/-- How many cycles are executed if nothing else is asked for. -/
def defaultCycles : UInt32 := 1

/-! ## Operands -/

/-- What to set, from the letters of its name in lower case. The name as it was typed is for the
messages. -/
def Target.ofLetters (s : String) : List Char → Except String Target
  | ['i'] | ['i', 'n', 'd', 'e', 'x'] => .ok .index
  | ['p', 'c'] => .ok .pc
  | ['d', 't'] => .ok .delay
  | ['s', 't'] => .ok .sound
  | 'v' :: digits =>
    match Whole.ofDigits 16 256 digits with
    | .ok n => if h : n < 16 then .ok (.v ⟨n, h⟩) else .error s!"Invalid register: '{s}'"
    | .error _ => .error s!"Invalid register: '{s}'"
  | _ => .error s!"Unknown set target: '{s}'"

/-- Reads the name of what to set, in any case of its letters. -/
def Target.ofText (s : String) : Except String Target := ofLetters s (lowered s.toList)

namespace Command

/-- A slot for a number below a bound. -/
def number {σ : Type} (label : String) (bound : Nat) (put : Nat → σ → σ) : Slot σ where
  label
  read word s :=
    match Whole.ofLiteral bound word.toList with
    | .ok n => .ok (put n s)
    | .error f => .error (.because f.message)

def shortNumber {σ : Type} (label : String) (put : UInt16 → σ → σ) : Slot σ :=
  number label 0x10000 fun n ↦ put (UInt16.ofNat n)

/-- A slot for a path, which must not be empty. -/
def path {σ : Type} (label : String) (put : String → σ → σ) : Slot σ where
  label
  read word s := if word = "" then .error .nothing else .ok (put word s)

/-! ## Grammars -/

def alone (c : Command) : CommandTree Command :=
  .ofGrammar { slots := [], switches := [], start := (), finish := fun _ ↦ some c }

def onAddress (make : UInt16 → Command) : CommandTree Command :=
  .ofGrammar
    { slots := [shortNumber "<ADDR>" fun a _ ↦ some a]
      switches := []
      start := none
      finish := Option.map make }

def onPath (make : String → Command) : CommandTree Command :=
  .ofGrammar
    { slots := [path "<PATH>" fun p _ ↦ some p]
      switches := []
      start := none
      finish := Option.map make }

/-- A command with a start and a length, which have defaults. -/
def onRange (make : UInt16 → UInt16 → Command) (length : UInt16) : CommandTree Command :=
  .ofGrammar
    { slots := [shortNumber "[START]" fun a s ↦ (a, s.2), shortNumber "[LEN]" fun n s ↦ (s.1, n)]
      switches := []
      start := (defaultStart, length)
      finish := fun s ↦ some (make s.1 s.2) }

def stepping : CommandTree Command :=
  .ofGrammar
    { slots := [number "[COUNT]" 0x100000000 fun n _ ↦ UInt32.ofNat n]
      switches := []
      start := defaultCycles
      finish := fun n ↦ some (.step n) }

def target {σ : Type} (label : String) (put : Target → σ → σ) : Slot σ where
  label
  read word s :=
    match Target.ofText word with
    | .ok t => .ok (put t s)
    | .error reason => .error (.because reason)

def setting : CommandTree Command :=
  .ofGrammar
    { slots :=
        [target "<TARGET>" fun t s ↦ (some t, s.2), shortNumber "<VALUE>" fun n s ↦ (s.1, some n)]
      switches := []
      start := ((none, none) : Option Target × Option UInt16)
      finish := fun s ↦ s.1.bind fun t ↦ s.2.map fun n ↦ .set t n }

def actions : List (List String × CommandTree Command) :=
  [(["set", "s"], onAddress fun a ↦ .breakpoint (.set a)),
   (["clear", "c"], onAddress fun a ↦ .breakpoint (.clear a)),
   (["list", "l"], alone (.breakpoint .list)),
   (["clear-all", "ca"], alone (.breakpoint .clearAll))]

def all : List (List String × CommandTree Command) :=
  [(["run", "r"], alone .run),
   (["pause", "p"], alone .pause),
   (["step", "s"], stepping),
   (["breakpoint", "b"], .family true actions),
   (["set"], setting),
   (["mem", "m"], onRange .memory defaultBytes),
   (["disasm", "d"], onRange .disassemble defaultInstructions),
   (["reset"], alone .reset),
   (["save"], onPath .save),
   (["load"], onPath .load),
   (["quit", "q"], alone .quit)]

/-! ## Lines -/

/-- The words with the first one reduced to the stem of its file name. -/
def callWords : List String → List String
  | [] => []
  | first :: rest =>
    match Path.fileName? first with
    | some name => Path.stem name :: rest
    | none => rest.tail

/-- Reads a command from words. -/
def ofWords (ws : List String) : Except UsageFault Command :=
  (CommandTree.family false all).parse (callWords ws)

/-- Reads a command from a line. -/
def ofLine (line : String) : Except UsageFault Command := ofWords (words line)

end Command

end ChipEight
