import ChipEight.Clock
import ChipEight.CommandLine
import ChipEight.Text.Numbers

/-!
# Launch options

What the console is started with: the file of a program to load and, as options, the rate, the seed
of the random source, a saved machine to start from, whether to run at once, and a log.
-/

namespace ChipEight

open CommandLine

/-- What the console is started with. -/
structure Launch where
  /-- The file of the program to load. -/
  program : String
  /-- Cycles per second. -/
  rate : Float32
  /-- The seed of the random source, if it is not left to chance. -/
  seed : Option UInt64
  /-- The file of a saved machine to restore. -/
  saved : Option String
  /-- Whether to run at once. -/
  run : Bool
  logFile : Option String
  /-- What to log. -/
  logFilter : String
  deriving DecidableEq

namespace Launch

/-- The options in the middle of reading them, when the program may not be known. -/
structure Draft where
  /-- The file of the program to load. -/
  program : Option String
  /-- The other options; its program does not count. -/
  launch : Launch

def Draft.start : Draft where
  program := none
  launch :=
    { program := ""
      rate := Clock.defaultRate
      seed := none
      saved := none
      run := false
      logFile := none
      logFilter := "warn" }

def Draft.finish (d : Draft) : Option Launch :=
  d.program.map fun program ↦ { d.launch with program }

/-- An option that takes a path, which must not be empty. -/
def pathOption (name label : String) (put : String → Launch → Launch) : Switch Draft where
  name
  label
  takes := .value fun word d ↦
    if word = "" then .error .nothing else .ok { d with launch := put word d.launch }

def rateOption : Switch Draft where
  name := "hz"
  label := "--hz <HZ>"
  takes := .value fun word d ↦
    match Single.ofText word with
    | .ok rate => .ok { d with launch := { d.launch with rate } }
    | .error f => .error (.because f.message)

def seedOption : Switch Draft where
  name := "seed"
  label := "--seed <SEED>"
  takes := .value fun word d ↦
    match Whole.ofDigits 10 0x10000000000000000 word.toList with
    | .ok n => .ok { d with launch := { d.launch with seed := some (UInt64.ofNat n) } }
    | .error f => .error (.because f.message)

def runOption : Switch Draft where
  name := "run"
  label := "--run"
  takes := .nothing fun d ↦ { d with launch := { d.launch with run := true } }

def filterOption : Switch Draft where
  name := "log-level"
  label := "--log-level <LOG_LEVEL>"
  takes := .value fun word d ↦ .ok { d with launch := { d.launch with logFilter := word } }

def programSlot : Slot Draft where
  label := "<ROM_PATH>"
  read word d := if word = "" then .error .nothing else .ok { d with program := some word }

/-- How the console is started. -/
def grammar : Grammar Draft Launch where
  slots := [programSlot]
  switches :=
    [rateOption,
     seedOption,
     pathOption "state" "--state <STATE>" fun p l ↦ { l with saved := some p },
     runOption,
     pathOption "log-file" "--log-file <LOG_FILE>" fun p l ↦ { l with logFile := some p },
     filterOption]
  start := .start
  finish := Draft.finish

/-- Reads the launch options. The first word is the name of the console and is not looked at. -/
def ofWords (words : List String) : Except UsageFault Launch := grammar.parse words.tail

end Launch

end ChipEight
