import ChipEight.Debugger.Command
import ChipEight.Debugger.Report
import ChipEight.Keypad
import ChipEight.Launch

/-!
# The console

The console puts a keyboard, a line to type commands on and a pane for their output in front of the
debugger. While the machine runs the keyboard belongs to it, but for the escape key, which pauses;
while it is paused, keys edit the line, and the enter key submits it. A line without words submits
the command before it again, as long as there is one: a line that is no command leaves none.

The reading of keys is a function of the console except where a command is submitted, because
commands may touch files.
-/

namespace ChipEight

/-- What a terminal reports of a key. -/
inductive KeyPhase where
  | press
  | held
  | release
  deriving DecidableEq, Repr

structure KeyReport where
  key : Key
  /-- Whether the control key is held. -/
  control : Bool
  /-- What happens to the key. -/
  phase : KeyPhase
  deriving DecidableEq, Repr

def KeyReport.isInterrupt (r : KeyReport) : Bool := r.control && r.key == .char 'c'

/-- The state of the console. -/
structure Console where
  debugger : Debugger
  held : HeldKeys
  /-- The line being typed. -/
  line : List Char
  /-- What the output pane shows. Of a line that was refused, it shows what `UsageFault.message` keeps
  of the report. -/
  output : String
  /-- The command that a line without words submits again. -/
  last : Option Command
  /-- Whether the console is to be left. -/
  quit : Bool

/-- Why the console cannot be opened. -/
inductive OpenFault where
  /-- The program cannot be loaded. -/
  | program (fault : Fault)
  /-- The machine saved in a file cannot be restored. -/
  | saved (path : String) (fault : CommandFault)

/-- The fault in words, then its causes. -/
def OpenFault.chain : OpenFault → List String
  | .program fault => ["Failed to load ROM into CHIP-8 memory", fault.message]
  | .saved path fault =>
    ["Failed to restore state from " ++ path, fault.message] ++ fault.cause?.toList

namespace Console

/-! ## Opening -/

/-- What the output pane shows first; the marks are grave accents. -/
def greeting : String := "Type \x60run\x60 to start, \x60help\x60 for commands"

def ofDebugger (debugger : Debugger) : Console where
  debugger
  held := .empty HeldKeys.defaultReleaseAfter
  line := []
  output := greeting
  last := none
  quit := false

/-- The debugger that a launch asks for, before any saved machine is restored. -/
def debuggerOf (l : Launch) (machine : Machine) (program : List UInt8) :
    Except OpenFault Debugger :=
  match Debugger.ofProgram machine (Clock.ofRate l.rate) program with
  | .ok d => .ok { d with running := l.run }
  | .error fault => .error (.program fault)

section Files

variable {m : Type → Type} [Monad m] [MonadFiles m]

/-- Restores the saved machine that a launch asks for, if it asks for one. -/
def restoreSaved (d : Debugger) : Option String → m (Except OpenFault Debugger)
  | none => return .ok d
  | some path => do
    match ← d.restore path with
    | (d, .ok ()) => return .ok d
    | (_, .error fault) => return .error (.saved path fault)

/-- Opens the console that a launch asks for, with a program in a machine. -/
def start (l : Launch) (machine : Machine) (program : List UInt8) :
    m (Except OpenFault Console) := do
  match debuggerOf l machine program with
  | .error fault => return .error fault
  | .ok d =>
    match ← restoreSaved d l.saved with
    | .error fault => return .error fault
    | .ok d => return .ok (ofDebugger d)

end Files

def startEvents (l : Launch) (program : List UInt8) (opened : Except OpenFault Console) :
    List Event :=
  Machine.loadEvents program ++
    match opened, l.saved with
    | .ok c, some path => Event.ofRestored c.debugger.machine.pc path
    | _, _ => []

/-! ## Time -/

/-- What the output pane shows after a poll, if it changes. -/
def notice? (d : Debugger) : Option Halt → Option String
  | some .watched => some ("Breakpoint reached at " ++ hex 3 d.machine.pc.toNat)
  | some (.faulted fault) => some ("Halted: " ++ fault.message)
  | none => none

/-- Lets `dt` seconds pass. There is no result if the machine never catches up with them. -/
def tick (c : Console) (dt : Float32) : Option Console :=
  (c.debugger.poll dt).map fun (debugger, halt) ↦
    { c with debugger, output := (notice? debugger halt).getD c.output }

/-- The events of letting `dt` seconds pass. -/
def tickEvents (c : Console) (dt : Float32) : List Event :=
  c.debugger.pollEvents dt ++
    match c.debugger.poll dt with
    | some (_, some (.faulted fault)) => [.halted fault]
    | _ => []

def releaseExpired (c : Console) (now : Nat) : Console :=
  let (held, machine) := c.held.releaseExpired c.debugger.machine now
  { c with held, debugger := { c.debugger with machine } }

/-! ## Keys -/

/-- A report of a key while the machine runs. -/
def whileRunning (c : Console) (now : Nat) (key : Key) : Console :=
  if key = .escape then { c with debugger := c.debugger.pause, output := "Paused" }
  else
    let (held, machine) := c.held.press c.debugger.machine key now
    { c with held, debugger := { c.debugger with machine } }

/-- A press of a key, other than the enter key, while the machine is paused. -/
def edit (c : Console) : Key → Console
  | .escape => { c with quit := true }
  | .backspace => { c with line := c.line.dropLast }
  | .char a => { c with line := c.line ++ [a] }
  | .enter | .other => c

/-- What a line asks for: a command, the one before it, or nothing, which is explained. -/
def asked (c : Console) (line : String) : Except UsageFault (Option Command) :=
  if isBlankLine line then .ok c.last else (Command.ofLine line).map some

/-- The console after a command has been executed. -/
def shown (c : Console) (e : Execution) : Console :=
  match e.answer with
  | .ok .quit => { c with debugger := e.after, output := "", quit := true }
  | .ok report => { c with debugger := e.after, output := report.describe }
  | .error fault => { c with debugger := e.after, output := fault.message }

section Files

variable {m : Type → Type} [Monad m] [MonadFiles m]

/-- Submits the typed line. The second component is the command that was executed, if one was. -/
def submit (c : Console) : m (Console × Option Execution) :=
  let cleared := { c with line := [] }
  match c.asked (String.ofList c.line) with
  | .error fault => return ({ cleared with output := fault.message, last := none }, none)
  | .ok none => return (cleared, none)
  | .ok (some command) => do
    let e ← c.debugger.perform command
    return ({ cleared with last := some command }.shown e, some e)

/-- Takes a report of a key. The second component is the command that was executed, if one was. -/
def onKey (c : Console) (now : Nat) (r : KeyReport) : m (Console × Option Execution) :=
  if r.isInterrupt then return ({ c with quit := true }, none)
  else if c.debugger.running then return (c.whileRunning now r.key, none)
  else if r.phase ≠ .press then return (c, none)
  else if r.key = .enter then c.submit
  else return (c.edit r.key, none)

end Files

def submitEvents (e : Execution) : List Event := .commandGiven e.command.record :: e.events

end Console

end ChipEight
