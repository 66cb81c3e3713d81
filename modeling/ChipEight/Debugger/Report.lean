import ChipEight.Debugger
import ChipEight.Event
import ChipEight.Instruction

/-!
# Executions and reports

An execution is a command together with the debugger before and after it and the answer, that is,
everything there is to know about it. In particular it says which events the command caused.

A report is an answer in words. A dump shows sixteen bytes to a line and a disassembly one
instruction, both behind the address that the line starts at. Every number has a fixed least width,
so lines can be read back.
-/

namespace ChipEight

/-! ## Executions -/

/-- A command that has been executed. -/
structure Execution where
  before : Debugger
  command : Command
  after : Debugger
  answer : Except CommandFault Report

namespace Debugger

def perform {m : Type → Type} [Monad m] [MonadFiles m] (d : Debugger) (c : Command) :
    m Execution := do
  let (after, answer) ← d.execute c
  return ⟨d, c, after, answer⟩

def pollEvents (d : Debugger) (dt : Float32) : List Event :=
  if d.running then (d.driven dt).elim [] fun after ↦ d.machine.runEvents after.run.cycles else []

end Debugger

/-- The events of restoring a saved machine, which ends with the program counter at `pc`. -/
def Event.ofRestored (pc : UInt16) (path : String) : List Event :=
  [.snapshotRestored pc, .stateLoaded path]

/-- The events of an execution. A command that fails to save or load causes none. -/
def Execution.events (e : Execution) : List Event :=
  match e.command, e.answer with
  | .step count, _ => e.before.machine.runEvents (e.before.stepped count).cycles
  | .reset, _ => Machine.loadEvents e.before.program
  | .save path, .ok _ => [.stateSaved path]
  | .load path, .ok _ => Event.ofRestored e.after.machine.pc path
  | _, _ => []

/-! ## Reports in words -/

namespace Report

def bytesPerLine : Nat := 16

/-- Bytes in rows of sixteen, the last row as long as the bytes last. -/
def rows (bytes : List UInt8) : List (List UInt8) :=
  (List.range ((bytes.length + bytesPerLine - 1) / bytesPerLine)).map fun r ↦
    (bytes.drop (bytesPerLine * r)).take bytesPerLine

def dumpLine (address : Nat) (bytes : List UInt8) : String :=
  hex 3 address ++ ": " ++ " ".intercalate (bytes.map fun b ↦ hex 2 b.toNat)

def disassemblyLine (address : Nat) (item : UInt16 × Instruction) : String :=
  hex 3 address ++ ": " ++ hex 4 item.1.toNat ++ "  " ++ item.2.mnemonic

def describe : Report → String
  | .done | .quit => "OK"
  | .breakpoints [] => "No breakpoints"
  | .breakpoints addresses => " ".intercalate (addresses.map fun a ↦ hex 3 a.toNat)
  | .memory start bytes =>
    "\n".intercalate ((rows bytes).mapIdx fun r row ↦
      dumpLine (start.toNat + bytesPerLine * r) row)
  | .disassembly start items =>
    "\n".intercalate (items.mapIdx fun k item ↦ disassemblyLine (start.toNat + 2 * k) item)

end Report

end ChipEight
