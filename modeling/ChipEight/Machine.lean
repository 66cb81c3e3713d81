import ChipEight.Display
import ChipEight.Nibble
import ChipEight.Random

/-!
# The machine

The state of the machine between two cycles, and the operations that are not instructions: power-on
and reset, loading a program, the timers and the keypad.

Pending calls are kept innermost first, so a call is a `cons` and a return a `tail`. The list is not
bounded by its type; that it never holds more than `stackDepth` addresses is a property of the
operations. The random source is part of the machine but not of its state in the narrower sense: no
reset, load or restored snapshot moves it.
-/

namespace ChipEight

/-!
## Faults

What can go wrong with a machine: a program that does not fit, an instruction that cannot be
executed, or a snapshot that no machine could have produced. A fault keeps the numbers that explain
it, and `Fault.message` is the only place that puts them into words.
-/

/-- Nesting of subroutine calls that the machine supports. -/
def stackDepth : Nat := 16

def memorySize : Nat := 4096

/-- Where programs are loaded and execution starts. -/
def programStart : Nat := 0x200

/-- The longest program that fits behind `programStart`. -/
def maxProgramSize : Nat := memorySize - programStart

/-- Why a machine operation is refused. -/
inductive Fault where
  /-- A program of `size` bytes does not fit. -/
  | programTooLarge (size : Nat)
  /-- `address` is the first byte outside memory that the instruction needs. -/
  | outsideMemory (address : Nat)
  /-- Adding `value` to the index register `index` leaves sixteen bits. -/
  | indexOverflow (index : UInt16) (value : UInt8)
  /-- A return with no call pending. -/
  | stackUnderflow
  /-- A call with all levels in use. -/
  | stackOverflow
  | unknownInstruction (word : UInt16)
  /-- The register that should name a key holds more than `0xF`. -/
  | noSuchKey (key : UInt8)
  /-- A snapshot with `depth` pending calls. -/
  | stackTooDeep (depth : Nat)
  deriving DecidableEq, Repr

/-- The fault in words. -/
def Fault.message : Fault → String
  | .programTooLarge size =>
    s!"ROM is too large ({size} bytes), max size is {maxProgramSize} bytes"
  | .outsideMemory address => "Memory access out of bounds at address " ++ hexLiteral 4 address
  | .indexOverflow index value =>
    "Index register overflow: I=" ++ hexLiteral 4 index.toNat ++ " + " ++ hexLiteral 2 value.toNat
  | .stackUnderflow =>
    "Stack underflow: attempted to return from a subroutine with empty call stack"
  | .stackOverflow => s!"Stack overflow: subroutine nesting exceeds {stackDepth} levels"
  | .unknownInstruction word => "Unknown opcode: " ++ hexLiteral 4 word.toNat
  | .noSuchKey key => "Key index out of range: " ++ hexLiteral 2 key.toNat
  | .stackTooDeep depth =>
    s!"Invalid machine state snapshot: stack holds {depth} entries, at most {stackDepth} allowed"

/-!
## Memory

Four kilobytes. The glyphs of the hexadecimal digits lie at the bottom, five bytes each, and a
program is loaded at `0x200`.

Instructions reach memory through `I`, which is sixteen bits wide and may point past the end.
`Memory.check` is the single gate: a block is admitted only if all of it lies inside, and otherwise
the first address outside is reported. Reading and writing themselves are total; a byte outside
reads as zero and is not written, but no instruction gets that far.
-/

/-- The bytes of memory. -/
abbrev Memory := Vector UInt8 memorySize

namespace Memory

/-- The glyphs of the digits `0` to `F`, one per line. -/
def font : List UInt8 :=
  [0xF0, 0x90, 0x90, 0x90, 0xF0,
   0x20, 0x60, 0x20, 0x20, 0x70,
   0xF0, 0x10, 0xF0, 0x80, 0xF0,
   0xF0, 0x10, 0xF0, 0x10, 0xF0,
   0x90, 0x90, 0xF0, 0x10, 0x10,
   0xF0, 0x80, 0xF0, 0x10, 0xF0,
   0xF0, 0x80, 0xF0, 0x90, 0xF0,
   0xF0, 0x10, 0x20, 0x40, 0x40,
   0xF0, 0x90, 0xF0, 0x90, 0xF0,
   0xF0, 0x90, 0xF0, 0x10, 0xF0,
   0xF0, 0x90, 0xF0, 0x90, 0x90,
   0xE0, 0x90, 0xE0, 0x90, 0xE0,
   0xF0, 0x80, 0x80, 0x80, 0xF0,
   0xE0, 0x90, 0x90, 0x90, 0xE0,
   0xF0, 0x80, 0xF0, 0x80, 0xF0,
   0xF0, 0x80, 0xF0, 0x80, 0x80]

def glyphSize : UInt16 := 5

/-- The byte at an address, zero outside memory. -/
def byte (mem : Memory) (address : Nat) : UInt8 := mem[address]?.getD 0

/-- The `count` bytes from `start` on. -/
def block (mem : Memory) (start count : Nat) : List UInt8 :=
  (List.range count).map fun k ↦ mem.byte (start + k)

/-- Writes bytes one after the other from `start` on. -/
def write (mem : Memory) (start : Nat) : List UInt8 → Memory
  | [] => mem
  | b :: bs => write (mem.setIfInBounds start b) (start + 1) bs

/-- The sixteen-bit word at an address, high byte first. -/
def word (mem : Memory) (address : Nat) : UInt16 :=
  (mem.byte address).toUInt16 <<< 8 ||| (mem.byte (address + 1)).toUInt16

def zero : Memory := Vector.replicate memorySize 0

/-- Memory after power-on: the font and nothing else. -/
def powerOn : Memory := zero.write 0 font

/-- Whether the `count` bytes from `start` on lie in memory. An empty block may start at the end of
memory but not behind it. -/
def check (start count : Nat) : Except Fault Unit :=
  if start + count ≤ memorySize then .ok () else .error (.outsideMemory (max start memorySize))

end Memory

/-! ## The machine -/

/-- The machine between two cycles. -/
structure Machine where
  memory : Memory
  display : Display
  /-- Address of the next instruction. -/
  pc : UInt16
  /-- The index register `I`, sixteen bits wide and never masked. -/
  index : UInt16
  /-- The registers `V0` to `VF`; `VF` doubles as the flag. -/
  v : Vector UInt8 16
  /-- Addresses of the pending calls, innermost first. -/
  calls : List UInt16
  /-- Counts down to zero, once per cycle. -/
  delay : UInt8
  /-- Counts down to zero, once per cycle; the machine beeps meanwhile. -/
  sound : UInt8
  /-- Which keys are pressed. -/
  keypad : Vector Bool 16
  /-- Where random bytes come from. -/
  random : RandomSource
  deriving DecidableEq

/-- Work on a machine that may fail on the way. The machine is handed on in either case, with all
that was written to it. -/
abbrev Procedure := EStateM Fault Machine

namespace Machine

/-! ## Power-on and programs -/

/-- The machine after power-on with a given random source. -/
def powerOn (random : RandomSource) : Machine where
  memory := Memory.powerOn
  display := Display.blank
  pc := UInt16.ofNat programStart
  index := 0
  v := Vector.replicate 16 0
  calls := []
  delay := 0
  sound := 0
  keypad := Vector.replicate 16 false
  random

/-- The machine after power-on with the stream of a seed. -/
def ofSeed (seed : UInt64) : Machine := powerOn (RandomSource.ofSeed seed)

/-- Back to power-on; only the random source stays where it is. -/
def reset (m : Machine) : Machine := powerOn m.random

/-- Resets the machine and loads a program. A program that does not fit is refused, not cut, and the
machine is left reset; hence the machine is returned beside the verdict. -/
def load (m : Machine) (program : List UInt8) : Machine × Except Fault Unit :=
  if program.length ≤ maxProgramSize then
    ({ m.reset with memory := Memory.powerOn.write programStart program }, .ok ())
  else
    (m.reset, .error (.programTooLarge program.length))

def reg (m : Machine) (x : Nibble) : UInt8 := m.v.get x

def setReg (m : Machine) (x : Nibble) (b : UInt8) : Machine :=
  { m with v := m.v.set x.val b x.lt }

/-! ## Timers and keys -/

/-- Counts both timers down, stopping at zero. -/
def tickTimers (m : Machine) : Machine :=
  { m with
    delay := if m.delay = 0 then 0 else m.delay - 1
    sound := if m.sound = 0 then 0 else m.sound - 1 }

/-- Whether the machine beeps: while the sound timer runs. -/
def beeps (m : Machine) : Bool := 0 < m.sound

def setKey (m : Machine) (key : Nibble) (down : Bool) : Machine :=
  { m with keypad := m.keypad.set key.val down key.lt }

def isPressed (m : Machine) (key : Nibble) : Bool := m.keypad.get key

/-- The pressed keys in ascending order. -/
def pressed (m : Machine) : List Nibble := (List.finRange 16).filter m.isPressed

/-! ## The instruction at the program counter -/

/-- The word at the program counter, if both of its bytes lie in memory. -/
def fetch (m : Machine) : Except Fault UInt16 := do
  Memory.check m.pc.toNat 2
  return m.memory.word m.pc.toNat

end Machine

end ChipEight
