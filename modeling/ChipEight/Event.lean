import ChipEight.Instruction
import ChipEight.Machine.Cycle
import ChipEight.Snapshot

/-!
# Events

What the machine and the programs around it report while they work, for a log. Events are data and
no operation emits them: beside an operation stands a function that says, from the state before it
and its result, which events it causes and in which order. So the operations stay free of logging,
and how many events an operation causes is a fact about a list.
-/

namespace ChipEight

/-- How much an event matters, the least first. -/
inductive Level where
  /-- Every instruction. -/
  | trace
  /-- Changes of the whole machine. -/
  | debug
  /-- What the user asked for. -/
  | info
  /-- An instruction that failed. -/
  | warn
  /-- The end of a running program. -/
  | error
  deriving DecidableEq, Repr

def Level.name : Level → String
  | .trace => "TRACE"
  | .debug => "DEBUG"
  | .info => "INFO"
  | .warn => "WARN"
  | .error => "ERROR"

inductive Reporter where
  | machine
  | snapshot
  | debugger
  /-- The console in front of the debugger. -/
  | console
  deriving DecidableEq, Repr

/-- Something worth a line in the log. -/
inductive Event where
  /-- The machine went back to power-on. -/
  | machineReset
  | programLoaded (size : Nat)
  /-- A snapshot was restored; `pc` is its program counter. -/
  | snapshotRestored (pc : UInt16)
  /-- The word at `pc` was fetched and is about to be executed. -/
  | executing (instruction : Instruction) (pc word : UInt16)
  | executionFailed (fault : Fault) (pc word : UInt16)
  /-- The machine was saved to a file. -/
  | stateSaved (path : String)
  /-- The machine was restored from a file. -/
  | stateLoaded (path : String)
  /-- The user gave a command, here in its record form. -/
  | commandGiven (command : String)
  /-- A running program was halted by a fault. -/
  | halted (fault : Fault)
  deriving DecidableEq, Repr

namespace Event

/-- How much the event matters. -/
def level : Event → Level
  | .machineReset | .programLoaded _ | .snapshotRestored _ => .debug
  | .executing .. => .trace
  | .executionFailed .. => .warn
  | .stateSaved _ | .stateLoaded _ | .commandGiven _ => .info
  | .halted _ => .error

/-- Which part reports the event. -/
def reporter : Event → Reporter
  | .machineReset | .programLoaded _ | .executing .. | .executionFailed .. => .machine
  | .snapshotRestored _ => .snapshot
  | .stateSaved _ | .stateLoaded _ => .debugger
  | .commandGiven _ | .halted _ => .console

/-- The message of the event and its fields. -/
def text : Event → String
  | .machineReset => "machine reset"
  | .programLoaded size => s!"ROM loaded size={size}"
  | .snapshotRestored pc => s!"machine state restored pc={pc.toNat}"
  | .executing instruction pc word =>
    s!"{instruction.mnemonic} pc={pc.toNat} opcode={word.toNat}"
  | .executionFailed fault pc word =>
    s!"instruction failed: {fault.message} pc={pc.toNat} opcode={word.toNat}"
  | .stateSaved path => s!"saved machine state path={path}"
  | .stateLoaded path => s!"restored machine state path={path}"
  | .commandGiven command => s!"debugger command command={command}"
  | .halted fault => s!"execution halted: {fault.message}"

end Event

namespace Machine

def loadEvents (program : List UInt8) : List Event :=
  if program.length ≤ maxProgramSize then [.machineReset, .programLoaded program.length]
  else [.machineReset]

def restoreEvents (s : Snapshot) : List Event :=
  if s.stack.length ≤ stackDepth then [.snapshotRestored s.pc] else []

/-- The events of one cycle. An instruction is reported when it has been fetched and once more if it
fails; a cycle that cannot even fetch reports nothing. -/
def stepEvents (m : Machine) : List Event :=
  match m.fetch with
  | .error _ => []
  | .ok word =>
    let instruction := Instruction.decode word
    match (Procedure.execute instruction).run m with
    | .ok .. => [.executing instruction m.pc word]
    | .error fault _ => [.executing instruction m.pc word, .executionFailed fault m.pc word]

/-- Adds the events of at most `count` cycles to those already collected. -/
def runEventsFrom (events : Array Event) : Nat → Machine → Array Event
  | 0, _ => events
  | count + 1, m =>
    let events := events ++ m.stepEvents
    match m.step with
    | .ok _ after => runEventsFrom events count after
    | .error .. => events

/-- The events of at most `count` cycles, up to and including the first that fails. -/
def runEvents (count : Nat) (m : Machine) : List Event := (runEventsFrom #[] count m).toList

end Machine

end ChipEight
