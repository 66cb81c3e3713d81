import ChipEight.Clock
import ChipEight.Files
import ChipEight.Nibble
import ChipEight.Snapshot
import ChipEight.Snapshot.Reader

/-!
# The debugger

A debugger holds a machine, the clock that paces it, the breakpoints, the program it was started
with, and whether it is running. While it runs, polling it with the elapsed time lets the machine
catch up; at a breakpoint or a fault it stops running.

Only saving and loading touch files. Everything else is a function of the debugger, and what saving
writes and loading does with a text are functions of their own.
-/

namespace ChipEight

/-!
## Breakpoints

The addresses at which a run stops, in ascending order and each once. The order is the one in which
they are listed, so listing them is looking at the list.
-/

/-- Addresses in ascending order without repetition. -/
abbrev Breakpoints := List UInt16

namespace Breakpoints

def insert (address : UInt16) : Breakpoints → Breakpoints
  | [] => [address]
  | b :: bs =>
    if address < b then address :: b :: bs
    else if address = b then b :: bs
    else b :: insert address bs

def erase (address : UInt16) (bs : Breakpoints) : Breakpoints := bs.filter (· != address)

theorem mem_insert {a address : UInt16} {bs : Breakpoints} :
    a ∈ insert address bs ↔ a = address ∨ a ∈ bs := by
  induction bs with
  | nil => simp [insert]
  | cons b bs ih =>
    simp only [insert]
    split
    · simp
    · split
      · next h => simp [h]
      · simp only [List.mem_cons, ih]
        exact or_left_comm

theorem mem_erase {a address : UInt16} {bs : Breakpoints} :
    a ∈ erase address bs ↔ a ≠ address ∧ a ∈ bs := by
  simp [erase, and_comm]

end Breakpoints

/-!
## Debugger commands

What can be asked of the debugger. A command holds numbers that fit their type but need not make
sense for a machine; whether they do is decided when the command is executed.
-/

/-- What `set` can change. -/
inductive Target where
  /-- A register. -/
  | v (x : Nibble)
  | index
  /-- The program counter. -/
  | pc
  | delay
  | sound
  deriving DecidableEq, Repr

/-- What can be done with breakpoints. -/
inductive BreakpointAction where
  | set (address : UInt16)
  | clear (address : UInt16)
  /-- Lists all breakpoints. -/
  | list
  | clearAll
  deriving DecidableEq, Repr

/-- A command to the debugger. -/
inductive Command where
  /-- Lets the machine run. -/
  | run
  /-- Stops a running machine. -/
  | pause
  /-- Executes a number of cycles. -/
  | step (count : UInt32)
  /-- Sets, clears or lists breakpoints. -/
  | breakpoint (action : BreakpointAction)
  /-- Overwrites a part of the machine. -/
  | set (target : Target) (value : UInt16)
  | memory (start length : UInt16)
  /-- Shows `length` instructions. -/
  | disassemble (start length : UInt16)
  /-- Loads the program again. -/
  | reset
  /-- Saves the machine to a file. -/
  | save (path : String)
  /-- Restores the machine from a file. -/
  | load (path : String)
  /-- Leaves the debugger. -/
  | quit
  deriving DecidableEq, Repr

/-! ## Faults and reports -/

/-- Why a command fails. -/
inductive CommandFault where
  /-- The machine refused a cycle or a snapshot. -/
  | machine (fault : Fault)
  /-- A number does not suit what it is for. -/
  | outOfRange
  /-- A file could not be read or written. -/
  | file (fault : FileFault)
  /-- The text of a file is no saved machine. -/
  | format (fault : JsonText.Fault)

namespace CommandFault

/-- The fault in words. Of a text that is no saved machine, it does not say where it is wrong. -/
def message : CommandFault → String
  | .machine fault => "Error while executing cpu instruction: " ++ fault.message
  | .outOfRange => "Value out of range"
  | .file fault => "State file error: " ++ fault.message
  | .format fault => "Malformed state file: " ++ fault.message

/-- The cause of the fault in words, if there is one. -/
def cause? : CommandFault → Option String
  | .machine fault => some fault.message
  | .outOfRange => none
  | .file fault => some fault.message
  | .format fault => some fault.message

end CommandFault

/-- What a command answers. -/
inductive Report where
  /-- Nothing but that it is done. -/
  | done
  | breakpoints (addresses : Breakpoints)
  | memory (start : UInt16) (bytes : List UInt8)
  /-- Words of memory from an address on, with the instructions they decode to. -/
  | disassembly (start : UInt16) (items : List (UInt16 × Instruction))
  /-- The debugger is to be left. -/
  | quit
  deriving DecidableEq

/-! ## Reading and overwriting a machine -/

namespace Memory

/-- The words that bytes make up two by two, high byte first. A byte left over makes no word. -/
def pairs : List UInt8 → List UInt16
  | high :: low :: rest => (high.toUInt16 <<< 8 ||| low.toUInt16) :: pairs rest
  | _ => []

/-- At most `length` bytes from `start` on. -/
def dump (mem : Memory) (start length : Nat) : List UInt8 := (mem.toList.drop start).take length

/-- At most `length` words from `start` on, with the instructions they decode to. -/
def listing (mem : Memory) (start length : Nat) : List (UInt16 × Instruction) :=
  ((pairs (mem.toList.drop start)).take length).map fun word ↦ (word, Instruction.decode word)

end Memory

namespace Machine

/-- The machine with a part overwritten, if the value suits the part. Registers and timers hold a
byte, and the program counter must lie in memory. -/
def assign? (m : Machine) (target : Target) (value : UInt16) : Option Machine :=
  let byte? := if value.toNat < 256 then some value.toUInt8 else none
  match target with
  | .v x => byte?.map (m.setReg x)
  | .index => some { m with index := value }
  | .pc => if value.toNat < memorySize then some (m.jump value) else none
  | .delay => byte?.map fun b ↦ { m with delay := b }
  | .sound => byte?.map fun b ↦ { m with sound := b }

end Machine

/-! ## The debugger -/

/-- A debugger and the machine in it. -/
structure Debugger where
  machine : Machine
  /-- Paces the machine while it runs. -/
  clock : Clock Float32
  /-- Where a run stops. -/
  breakpoints : Breakpoints
  /-- Whether the machine runs. -/
  running : Bool
  /-- The program that was loaded first. -/
  program : List UInt8
  deriving DecidableEq

namespace Debugger

/-- A debugger whose machine has a program loaded. -/
def ofProgram (machine : Machine) (clock : Clock Float32) (program : List UInt8) :
    Except Fault Debugger :=
  match machine.load program with
  | (machine, .ok ()) => .ok { machine, clock, breakpoints := [], running := false, program }
  | (_, .error fault) => .error fault

/-! ## Running -/

/-- Whether there is a breakpoint at an address. -/
def stopsAt (d : Debugger) (address : UInt16) : Bool := d.breakpoints.contains address

def start (d : Debugger) : Debugger := { d with running := true }

def pause (d : Debugger) : Debugger := { d with running := false }

/-- What `dt` seconds of running would do to the machine and the clock, if they come to an end. -/
def driven (d : Debugger) (dt : Float32) : Option (Clock.Driven Float32) :=
  d.clock.drive d.machine d.stopsAt dt

/-- Lets a running machine catch up with `dt` more seconds. What halts it is told and stops it from
running. There is no result if the machine never catches up. -/
def poll (d : Debugger) (dt : Float32) : Option (Debugger × Option Halt) :=
  if d.running then
    (d.driven dt).map fun after ↦
      ({ d with
          machine := after.run.machine
          clock := after.clock
          running := after.run.halt.isNone },
        after.run.halt)
  else some (d, none)

/-! ## Commands -/

/-- At most `count` cycles of the machine, up to the first that lands on a breakpoint. -/
def stepped (d : Debugger) (count : UInt32) : Run := d.machine.run d.stopsAt count.toNat

/-- Executes cycles. If one fails, the cycles before it stand. -/
def step (d : Debugger) (count : UInt32) : Debugger × Except CommandFault Report :=
  let run := d.stepped count
  ({ d with machine := run.machine },
    match run.halt with
    | some (.faulted fault) => .error (.machine fault)
    | _ => .ok .done)

def onBreakpoints (d : Debugger) : BreakpointAction → Debugger × Report
  | .set address => ({ d with breakpoints := Breakpoints.insert address d.breakpoints }, .done)
  | .clear address => ({ d with breakpoints := Breakpoints.erase address d.breakpoints }, .done)
  | .clearAll => ({ d with breakpoints := [] }, .done)
  | .list => (d, .breakpoints d.breakpoints)

def assign (d : Debugger) (target : Target) (value : UInt16) :
    Debugger × Except CommandFault Report :=
  match d.machine.assign? target value with
  | some machine => ({ d with machine }, .ok .done)
  | none => (d, .error .outOfRange)

/-- A report on memory from an address that must lie in it. -/
def inMemory (start : UInt16) (report : Report) : Except CommandFault Report :=
  if start.toNat < memorySize then .ok report else .error .outOfRange

/-- Loads the first program again. -/
def reset (d : Debugger) : Debugger × Except CommandFault Report :=
  match d.machine.load d.program with
  | (machine, .ok ()) => ({ d with machine }, .ok .done)
  | (machine, .error fault) => ({ d with machine }, .error (.machine fault))

def savedText (d : Debugger) : String := d.machine.snapshot.toJson

/-- Restores the machine from a text that saved one. -/
def restoreText (d : Debugger) (text : String) : Debugger × Except CommandFault Unit :=
  match Snapshot.ofJson text with
  | .error fault => (d, .error (.format fault))
  | .ok snapshot =>
    match d.machine.restore snapshot with
    | .ok () machine => ({ d with machine }, .ok ())
    | .error fault machine => ({ d with machine }, .error (.machine fault))

/-- Restores the machine from what reading the file of a saved machine gave. -/
def restored (d : Debugger) : Except FileFault String → Debugger × Except CommandFault Unit
  | .ok text => d.restoreText text
  | .error fault => (d, .error (.file fault))

section Files

variable {m : Type → Type} [Monad m] [MonadFiles m]

def save (d : Debugger) (path : String) : m (Except CommandFault Report) := do
  match ← MonadFiles.writeText path d.savedText with
  | .ok () => return .ok .done
  | .error fault => return .error (.file fault)

def restore (d : Debugger) (path : String) : m (Debugger × Except CommandFault Unit) := do
  return d.restored (← MonadFiles.readText path)

/-- Executes a command: the debugger after it and the report, or why the command failed. -/
def execute (d : Debugger) : Command → m (Debugger × Except CommandFault Report)
  | .run => return (d.start, .ok .done)
  | .pause => return (d.pause, .ok .done)
  | .step count => return d.step count
  | .breakpoint action => return ((d.onBreakpoints action).1, .ok (d.onBreakpoints action).2)
  | .set target value => return d.assign target value
  | .memory start length =>
    return (d, inMemory start (.memory start (d.machine.memory.dump start.toNat length.toNat)))
  | .disassemble start length =>
    return (d, inMemory start
      (.disassembly start (d.machine.memory.listing start.toNat length.toNat)))
  | .reset => return d.reset
  | .save path => return (d, ← d.save path)
  | .load path => do
    let (d, verdict) ← d.restore path
    return (d, verdict.map fun () ↦ .done)
  | .quit => return (d, .ok .quit)

end Files

end Debugger

end ChipEight
