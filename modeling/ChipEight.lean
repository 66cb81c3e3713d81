import ChipEight.Clock
import ChipEight.CommandLine
import ChipEight.Console
import ChipEight.Debugger
import ChipEight.Debugger.Command
import ChipEight.Debugger.Report
import ChipEight.Decimal.Shortest
import ChipEight.Display
import ChipEight.Event
import ChipEight.Files
import ChipEight.Files.Tree
import ChipEight.Instruction
import ChipEight.Instruction.Record
import ChipEight.JsonText.Fault
import ChipEight.JsonText.Scan
import ChipEight.JsonText.Skip
import ChipEight.Keypad
import ChipEight.Launch
import ChipEight.Launch.Log
import ChipEight.Machine
import ChipEight.Machine.Cycle
import ChipEight.Main
import ChipEight.Nibble
import ChipEight.Pattern
import ChipEight.Pattern.Check
import ChipEight.Pattern.Cursor
import ChipEight.Pattern.Escape
import ChipEight.Pattern.Fault
import ChipEight.Pattern.Reader
import ChipEight.Proofs.Clock.Drive
import ChipEight.Proofs.Clock.Exact
import ChipEight.Proofs.Clock.Rate
import ChipEight.Proofs.Clock.Termination
import ChipEight.Proofs.Clock.TimeStep
import ChipEight.Proofs.CommandLine.Filling
import ChipEight.Proofs.Console.Keys
import ChipEight.Proofs.Console.Releases
import ChipEight.Proofs.Console.Repetition
import ChipEight.Proofs.Console.Typing
import ChipEight.Proofs.Debugger.Breakpoints
import ChipEight.Proofs.Debugger.Commands
import ChipEight.Proofs.Debugger.Disassembly
import ChipEight.Proofs.Debugger.History
import ChipEight.Proofs.Debugger.Lines
import ChipEight.Proofs.Debugger.Poll
import ChipEight.Proofs.Debugger.Reports
import ChipEight.Proofs.Debugger.Resetting
import ChipEight.Proofs.Debugger.Running
import ChipEight.Proofs.Debugger.Saving
import ChipEight.Proofs.Debugger.Spellings
import ChipEight.Proofs.Debugger.Targets
import ChipEight.Proofs.Display.Characters
import ChipEight.Proofs.Display.Layers
import ChipEight.Proofs.Display.Packing
import ChipEight.Proofs.Display.Sprites
import ChipEight.Proofs.Files.Keeping
import ChipEight.Proofs.Guarded.Cycle
import ChipEight.Proofs.Guarded.Debugger
import ChipEight.Proofs.Guarded.Drawing
import ChipEight.Proofs.Guarded.Operations
import ChipEight.Proofs.Instruction.Mnemonics
import ChipEight.Proofs.Instruction.Words
import ChipEight.Proofs.JsonText.Numerals
import ChipEight.Proofs.JsonText.Strings
import ChipEight.Proofs.JsonText.Tree
import ChipEight.Proofs.JsonText.Values
import ChipEight.Proofs.Keypad.Timeout
import ChipEight.Proofs.Machine.Arithmetic
import ChipEight.Proofs.Machine.Calls
import ChipEight.Proofs.Machine.Draws
import ChipEight.Proofs.Machine.Frame
import ChipEight.Proofs.Machine.Loading
import ChipEight.Proofs.Machine.MemoryFaults
import ChipEight.Proofs.Machine.Operation
import ChipEight.Proofs.Machine.Reachable
import ChipEight.Proofs.Machine.Refusals
import ChipEight.Proofs.Machine.Replay
import ChipEight.Proofs.Machine.Stops
import ChipEight.Proofs.Machine.StoredRegisters
import ChipEight.Proofs.Machine.Timers
import ChipEight.Proofs.Machine.Transaction
import ChipEight.Proofs.Machine.Waiting
import ChipEight.Proofs.Machine.Warnings
import ChipEight.Proofs.Memory.Writing
import ChipEight.Proofs.Screen.Completeness
import ChipEight.Proofs.Screen.Painting
import ChipEight.Proofs.Screen.Texts
import ChipEight.Proofs.Single.Difference
import ChipEight.Proofs.Single.Reciprocal
import ChipEight.Proofs.Single.Rounding
import ChipEight.Proofs.Single.Units
import ChipEight.Proofs.Snapshot.Acceptance
import ChipEight.Proofs.Snapshot.Drafts
import ChipEight.Proofs.Snapshot.Objects
import ChipEight.Proofs.Snapshot.Restoring
import ChipEight.Proofs.Snapshot.RoundTrip
import ChipEight.Proofs.Snapshot.Values
import ChipEight.Proofs.Text.Lower
import ChipEight.Proofs.Text.Narrow
import ChipEight.Proofs.Text.Numerals
import ChipEight.Random
import ChipEight.Screen.Canvas
import ChipEight.Screen.View
import ChipEight.Snapshot
import ChipEight.Snapshot.Reader
import ChipEight.Text.Classes
import ChipEight.Text.Cluster
import ChipEight.Text.Joining
import ChipEight.Text.Lower
import ChipEight.Text.Numbers
import ChipEight.Text.Quoted
import ChipEight.Text.Visible
import ChipEight.Text.Width
