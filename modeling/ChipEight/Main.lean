import ChipEight.Console
import ChipEight.Launch.Log
import ChipEight.Screen.View

/-!
# The program

The console on a terminal that delivers whole lines. Before each line the screen is painted and the
time since the last one passes. While the machine runs, the characters of a line press keys and a
line without any pauses; while it is paused, a line is typed and submitted.

Everything that is decided here is decided by the modules below; this one only reads and prints.
-/

namespace ChipEight

namespace Main

/-- The fault behind an error of the file system. -/
def fileFault (e : IO.Error) : FileFault :=
  match e with
  | .noFileOrDirectory .. => .notFound
  | .inappropriateType _ code _ =>
    if code = 21 then .isFolder else if code = 20 then .notFolder else .other e.toString
  | _ => .other e.toString

instance : MonadFiles IO where
  read path := do
    try return .ok (← IO.FS.readBinFile path)
    catch e => return .error (fileFault e)
  write path bytes := do
    try
      IO.FS.writeBinFile path bytes
      return .ok ()
    catch e => return .error (fileFault e)

def screenSize : Nat × Nat := (View.minWidth, View.minHeight + 8)

/-- Paints the screen, without colours. -/
def paint (c : Console) : IO Unit := do
  let view : View := ⟨c.debugger, c.output, String.ofList c.line⟩
  for row in view.rows screenSize.1 screenSize.2 do
    IO.println (String.ofList (row.flatMap (·.text)))

def pressed (key : Key) : KeyReport := ⟨key, false, .press⟩

def keysOf (running : Bool) (line : List Char) : List Key :=
  if running then if line.isEmpty then [.escape] else line.map .char
  else line.map .char ++ [.enter]

/-- Takes a line at some time. -/
def takeLine (c : Console) (now : Nat) (line : List Char) : IO Console :=
  (keysOf c.debugger.running line).foldlM (fun c key ↦ do
    return (← c.onKey now (pressed key)).1) c

/-- Elapsed milliseconds in seconds. -/
def seconds (ms : Nat) : Float32 := Float32.ofNat ms / 1000.0

/-- Serves lines until the console is left or the lines end. -/
partial def serve (c : Console) (last : Nat) : IO Unit := do
  paint c
  let line ← (← IO.getStdin).getLine
  if line.isEmpty then return
  let now ← IO.monoMsNow
  let some c := c.tick (seconds (now - last)) | return
  let c ← takeLine (c.releaseExpired now) now (line.toList.filter (· != '\n'))
  if c.quit then return
  serve c now

/-- A seed left to chance. -/
def chance : IO UInt64 := do
  let bytes ← IO.getRandomBytes 8
  return bytes.foldl (fun n b ↦ n <<< 8 ||| b.toUInt64) 0

/-- Prints why the program ends, with the causes below. -/
def complain (chain : List String) : IO UInt32 := do
  IO.eprintln ("Error: " ++ "\n  caused by: ".intercalate chain)
  return 1

/-- Opens the console and serves it. -/
def console (l : Launch) : IO UInt32 := do
  match ← l.openLog with
  | .error fault => complain fault.chain
  | .ok () =>
    match ← MonadFiles.read l.program with
    | .error fault => complain ["Failed to read ROM file", fault.message]
    | .ok program =>
      let seed ← l.seed.elim chance pure
      match ← Console.start l (Machine.ofSeed seed) program.toList with
      | .error fault => complain ("Failed to initialize application" :: fault.chain)
      | .ok c =>
        serve c (← IO.monoMsNow)
        return 0

end Main

end ChipEight

/-- Reads the launch options, which the words hold without the name of the program, and opens the
console. -/
def main (words : List String) : IO UInt32 := do
  match ChipEight.Launch.ofWords ("chip-eight" :: words) with
  | .ok l => ChipEight.Main.console l
  | .error fault =>
    IO.eprintln fault.message
    return if fault = .help then 0 else 2
