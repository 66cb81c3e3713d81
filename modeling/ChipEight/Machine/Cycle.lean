import ChipEight.Instruction
import ChipEight.Machine

/-!
# One cycle

A cycle fetches the word at the program counter, decodes it, executes the instruction and counts the
timers down. It is a `Procedure`: work on a machine that is done write by write and may fail on the
way. Nothing takes a write back, so that a cycle which fails leaves no trace is not built in; it
holds because every instruction makes its checks before its first write.

An instruction writes the flag after its result, so one whose result register is `VF` ends with the
flag in it. The program counter is written last of all.
-/

namespace ChipEight

/-- What a completed cycle tells its caller. -/
inductive Outcome where
  /-- Nothing to show. -/
  | proceed
  /-- The display was cleared or drawn to. -/
  | displayChanged
  /-- The instruction waits for a key and was not left. -/
  | awaitingKey
  deriving DecidableEq, Repr

/-- The result of a family `8` operation on the values of `Vx` and `Vy`, and the flag if the
operation sets it. -/
def ArithOp.apply (op : ArithOp) (a b : UInt8) : UInt8 × Option UInt8 :=
  match op with
  | .set => (b, none)
  | .or => (a ||| b, none)
  | .and => (a &&& b, none)
  | .xor => (a ^^^ b, none)
  | .add => (a + b, some (if a.toNat + b.toNat < 256 then 0 else 1))
  | .sub => (a - b, some (if b ≤ a then 1 else 0))
  | .shiftRight => (a >>> 1, some (a &&& 1))
  | .subReverse => (b - a, some (if a ≤ b then 1 else 0))
  | .shiftLeft => (a <<< 1, some (a >>> 7))

namespace Machine

def flag : Nibble := .ofNat 0xF

def jump (m : Machine) (address : UInt16) : Machine := { m with pc := address }

/-- The three decimal digits of a byte. -/
def decimalDigits (b : UInt8) : List UInt8 := [b / 100, b / 10 % 10, b % 10]

/-- `V0` to `Vx`. -/
def firstRegisters (m : Machine) (x : Nibble) : List UInt8 := m.v.toList.take (x.val + 1)

/-- Replaces `V0` to `Vx` by the bytes of memory at `I`. -/
def fillRegisters (m : Machine) (x : Nibble) : Vector UInt8 16 :=
  Vector.ofFn fun k ↦ if k.val ≤ x.val then m.memory.byte (m.index.toNat + k.val) else m.reg k

/-- Whether the key named by a register is pressed. -/
def keyIn (m : Machine) (x : Nibble) : Except Fault Bool :=
  match Nibble.ofByte? (m.reg x) with
  | some key => .ok (m.isPressed key)
  | none => .error (.noSuchKey (m.reg x))

end Machine

namespace Procedure

open MonadExcept (ofExcept)

/-! ## Single reads and writes -/

def readReg (x : Nibble) : Procedure UInt8 := return (← get).reg x

def writeReg (x : Nibble) (b : UInt8) : Procedure Unit := modify (·.setReg x b)

def writeIndex (address : UInt16) : Procedure Unit := modify fun m ↦ { m with index := address }

/-- Looks at the key named by a register, if there is one. -/
def readKey (x : Nibble) : Procedure Bool := do
  ofExcept ((← get).keyIn x)

/-- Fails unless the `count` bytes at `I` lie in memory. -/
def checkBlock (count : Nat) : Procedure Unit := do
  ofExcept (Memory.check (← get).index.toNat count)

/-- Writes bytes at `I`. -/
def writeBlock (bytes : List UInt8) : Procedure Unit :=
  modify fun m ↦ { m with memory := m.memory.write m.index.toNat bytes }

/-- Adds a pending call, as long as there is room for one. -/
def push (address : UInt16) : Procedure Unit := do
  if stackDepth ≤ (← get).calls.length then throw .stackOverflow
  modify fun m ↦ { m with calls := address :: m.calls }

/-- Takes the innermost pending call away. -/
def pop : Procedure UInt16 := do
  match (← get).calls with
  | [] => throw .stackUnderflow
  | caller :: outer =>
    modify fun m ↦ { m with calls := outer }
    return caller

def drawRandom : Procedure UInt8 := do
  let (byte, rest) := (← get).random.next
  modify fun m ↦ { m with random := rest }
  return byte

/-- Draws a sprite and tells whether a lit pixel was turned off. -/
def drawSprite (x y : UInt8) (sprite : List UInt8) : Procedure Bool := do
  let (display, erased) := (← get).display.draw x.toNat y.toNat sprite
  modify fun m ↦ { m with display }
  return erased

/-! ## Instructions -/

def nextAddress : Procedure UInt16 := return (← get).pc + 2

/-- The address of the next instruction, or of the one behind it if the condition holds. -/
def skipIf (condition : Bool) : Procedure UInt16 := do
  let next ← nextAddress
  return if condition then next + 2 else next

/-- A family `8` operation. -/
def combine (op : ArithOp) (x y : Nibble) : Procedure Unit := do
  let (result, bit?) := op.apply (← readReg x) (← readReg y)
  writeReg x result
  if let some bit := bit? then writeReg Machine.flag bit

/-- Does all that an instruction does except for moving on: it tells the address to move on to. -/
def perform : Instruction → Procedure (UInt16 × Outcome)
  | .clear => do
    modify fun m ↦ { m with display := Display.blank }
    return (← nextAddress, .displayChanged)
  | .ret => return ((← pop) + 2, .proceed)
  | .jump nnn => return (nnn, .proceed)
  | .jumpOffset nnn => return (nnn + (← readReg (.ofNat 0)).toUInt16, .proceed)
  | .call nnn => do
    push (← get).pc
    return (nnn, .proceed)
  | .skipEqualByte x nn => return (← skipIf ((← readReg x) == nn), .proceed)
  | .skipUnequalByte x nn => return (← skipIf ((← readReg x) != nn), .proceed)
  | .skipEqual x y => return (← skipIf ((← readReg x) == (← readReg y)), .proceed)
  | .skipUnequal x y => return (← skipIf ((← readReg x) != (← readReg y)), .proceed)
  | .setByte x nn => do
    writeReg x nn
    return (← nextAddress, .proceed)
  | .addByte x nn => do
    writeReg x ((← readReg x) + nn)
    return (← nextAddress, .proceed)
  | .setIndex nnn => do
    writeIndex nnn
    return (← nextAddress, .proceed)
  | .addIndex x => do
    let index := (← get).index
    let value ← readReg x
    if 0x10000 ≤ index.toNat + value.toNat then throw (.indexOverflow index value)
    writeIndex (index + value.toUInt16)
    return (← nextAddress, .proceed)
  | .arith op x y => do
    combine op x y
    return (← nextAddress, .proceed)
  | .random x nn => do
    writeReg x ((← drawRandom) &&& nn)
    return (← nextAddress, .proceed)
  | .draw x y n => do
    checkBlock n.val
    let m ← get
    let erased ← drawSprite (m.reg x) (m.reg y) (m.memory.block m.index.toNat n.val)
    writeReg Machine.flag (if erased then 1 else 0)
    return (← nextAddress, .displayChanged)
  | .skipPressed x => do
    let pressed ← readKey x
    return (← skipIf pressed, .proceed)
  | .skipNotPressed x => do
    let pressed ← readKey x
    return (← skipIf !pressed, .proceed)
  | .awaitKey x => do
    match (← get).pressed.getLast? with
    | some key =>
      writeReg x key.toByte
      return (← nextAddress, .proceed)
    | none => return ((← get).pc, .awaitingKey)
  | .readDelay x => do
    writeReg x (← get).delay
    return (← nextAddress, .proceed)
  | .setDelay x => do
    modify fun m ↦ { m with delay := m.reg x }
    return (← nextAddress, .proceed)
  | .setSound x => do
    modify fun m ↦ { m with sound := m.reg x }
    return (← nextAddress, .proceed)
  | .pointGlyph x => do
    writeIndex ((← readReg x).toUInt16 * Memory.glyphSize)
    return (← nextAddress, .proceed)
  | .storeDecimal x => do
    checkBlock 3
    writeBlock (Machine.decimalDigits (← readReg x))
    return (← nextAddress, .proceed)
  | .storeRegisters x => do
    checkBlock (x.val + 1)
    writeBlock ((← get).firstRegisters x)
    return (← nextAddress, .proceed)
  | .loadRegisters x => do
    checkBlock (x.val + 1)
    modify fun m ↦ { m with v := m.fillRegisters x }
    return (← nextAddress, .proceed)
  | .unknown word => throw (.unknownInstruction word)

/-- Executes an instruction, which moves the program counter but not the timers. -/
def execute (i : Instruction) : Procedure Outcome := do
  let (address, outcome) ← perform i
  modify (·.jump address)
  return outcome

/-- One cycle. -/
def cycle : Procedure Outcome := do
  let word ← ofExcept (← get).fetch
  let outcome ← execute (Instruction.decode word)
  modify Machine.tickTimers
  return outcome

end Procedure

namespace Machine

/-- One cycle of the machine: its outcome or the fault that ended it, and the machine it left. -/
def step (m : Machine) : EStateM.Result Fault Machine Outcome := Procedure.cycle.run m

/-- The instruction at the program counter, if it lies in memory. -/
def current? (m : Machine) : Option Instruction :=
  if m.pc.toNat + 2 ≤ memorySize then some (Instruction.decode (m.memory.word m.pc.toNat)) else none

end Machine

/-!
## Many cycles

Two ways of running a machine for a number of cycles. `Machine.trace` keeps the outcome of every
cycle and is stopped only by a fault. `Machine.run` keeps no outcomes but is also stopped by landing
on an address that its caller watches for; the address it starts from does not stop it.
-/

/-- What a run of cycles did. -/
structure Trace where
  /-- The machine in the end, as its last cycle left it. -/
  machine : Machine
  /-- The outcomes of the completed cycles, in order. -/
  outcomes : Array Outcome
  /-- The fault that ended the run early, if one did. -/
  fault : Option Fault

/-- Why a run ended before its cycles were used up. -/
inductive Halt where
  /-- A cycle landed on a watched address. -/
  | watched
  /-- A cycle failed. -/
  | faulted (fault : Fault)
  deriving DecidableEq, Repr

/-- Where a run ended. -/
structure Run where
  /-- The machine in the end, as its last cycle left it. -/
  machine : Machine
  /-- How many cycles were begun, the failed one included. -/
  cycles : Nat
  /-- What ended the run early, if anything did. -/
  halt : Option Halt

namespace Machine

/-- Adds the outcomes of at most `count` cycles to those already collected. -/
def traceFrom (outcomes : Array Outcome) : Nat → Machine → Trace
  | 0, m => ⟨m, outcomes, none⟩
  | count + 1, m =>
    match m.step with
    | .ok outcome after => traceFrom (outcomes.push outcome) count after
    | .error fault after => ⟨after, outcomes, some fault⟩

/-- At most `count` cycles, stopped by the first fault. -/
def trace (count : Nat) (m : Machine) : Trace := traceFrom #[] count m

/-- At most `count` further cycles after `done` cycles. -/
def runFrom (watched : UInt16 → Bool) (done : Nat) : Nat → Machine → Run
  | 0, m => ⟨m, done, none⟩
  | count + 1, m =>
    match m.step with
    | .error fault after => ⟨after, done + 1, some (.faulted fault)⟩
    | .ok _ after =>
      if watched after.pc then ⟨after, done + 1, some .watched⟩
      else runFrom watched (done + 1) count after

/-- At most `count` cycles, stopped by the first fault and by landing on a watched address. -/
def run (watched : UInt16 → Bool) (count : Nat) (m : Machine) : Run := runFrom watched 0 count m

end Machine

end ChipEight
