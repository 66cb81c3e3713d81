import ChipEight.Files
import ChipEight.Launch
import ChipEight.Pattern.Check
import ChipEight.Text.Numbers

/-!
# The log of a launch

The log file is created first and the filter checked after it, so a filter that is refused leaves an
empty file behind.

A log filter is a list of directives, separated by commas. A directive is a level, a target, a
target with a level, or names a span in brackets, with fields in braces, between the two. A field
may give a value, which is a number or a pattern. Here a filter is only checked.

Blanks around a directive are ignored, but a directive with blanks around it may not give a level.
-/

namespace ChipEight

/-! ## Log filters -/

namespace LogFilter

/-- Why a filter is refused. -/
inductive Fault where
  /-- A level is none. -/
  | badLevel
  /-- The value of a field is neither a number nor a pattern. -/
  | badValue (rejection : Pattern.Rejection)
  /-- A directive is malformed in any other way. -/
  | malformed
  deriving DecidableEq, Repr

def levelMessage : String :=
  "error parsing level filter: expected one of \"off\", \"error\", \"warn\", \"info\", " ++
    "\"debug\", \"trace\", or a number 0-5"

/-- The fault in words, then its causes. A level or a value that is none is both the fault of its
directive and the first cause of that fault. -/
def Fault.chain : Fault → List String
  | .badLevel => [levelMessage, levelMessage]
  | .badValue rejection =>
    ("invalid field filter: " ++ rejection.message) :: rejection.message :: rejection.causes
  | .malformed => ["invalid filter directive"]

def levels : List String := ["off", "error", "warn", "info", "debug", "trace"]

/-- Whether a text is a level, by name in any case of its letters or by number. -/
def isLevel (cs : List Char) : Bool :=
  levels.contains (String.ofList (cs.map Char.toLower)) ||
    match Whole.ofDigits 10 levels.length cs with
    | .ok _ => true
    | .error _ => false

/-! ## Fields -/

/-- The characters that begin within so many bytes, behind so many bytes. -/
def bytesBetween : Nat → Nat → List Char → List Char
  | _, _, [] => []
  | start, stop, c :: cs =>
    if stop = 0 then []
    else if start = 0 then c :: bytesBetween 0 (stop - c.utf8Size) cs
    else bytesBetween (start - c.utf8Size) (stop - c.utf8Size) cs

/-- The value that a field gives: what stands behind its first `=`, up to the next one. -/
def value? (field : List Char) : Option (List Char) :=
  match field.dropWhile (· != '=') with
  | [] => none
  | _ :: rest => some (rest.takeWhile (· != '='))

/-- Whether a value is a number, which is compared and not matched. -/
def isNumber (value : List Char) : Bool :=
  match Single.ofText (String.ofList value) with
  | .ok _ => true
  | .error _ => false

/-- Checks a field, which is not empty. -/
def checkField (field : List Char) : Except Fault Unit :=
  if field.isEmpty then .error .malformed
  else
    match value? field with
    | none => .ok ()
    | some value =>
      if isNumber value then .ok ()
      else
        match Pattern.accept value with
        | .ok () => .ok ()
        | .error rejection => .error (.badValue rejection)

/-! ## Directives -/

/-- How much of a directive has been read. -/
inductive Scan where
  /-- Nothing. -/
  | start
  /-- A part of a level or of a target, which are told apart at the end. -/
  | levelOrTarget
  /-- A part of the name of a span. -/
  | span
  /-- A part of a field, which begins behind so many bytes. -/
  | field (begins : Nat)
  /-- The fields of a span, with the closing brace. -/
  | fields
  /-- A span, with the closing bracket. -/
  | spanned
  /-- A part of a level, behind its `=`. -/
  | level (text : List Char)

def mayBegin (c : Char) : Bool := "-:_".toList.contains c || isLetterOrNumeral c

/-- Reads one more character of a directive, of which so many bytes have been read. Places are
counted from the first character that is not blank, but a field is cut from the directive as it was
given, so blanks in front shift it. -/
def Scan.next (directive : List Char) (behind : Nat) : Scan → Char → Except Fault Scan
  | .start, c =>
    if c = '[' then .ok .span else if mayBegin c then .ok .levelOrTarget else .error .malformed
  | .levelOrTarget, c =>
    .ok (if c = '=' then .level [] else if c = '[' then .span else .levelOrTarget)
  | .span, c =>
    .ok (if c = ']' then .spanned else if c = '\x7b' then .field (behind + 1) else .span)
  | .field begins, c =>
    if c = '\x7d' then (checkField (bytesBetween begins behind directive)).map fun _ ↦ .fields
    else .ok (.field begins)
  | .fields, c => if c = ']' then .ok .spanned else .error .malformed
  | .spanned, c => if c = '=' then .ok (.level []) else .error .malformed
  | .level text, c => .ok (.level (text ++ [c]))

def Scan.all (directive : List Char) : Nat → Scan → List Char → Except Fault Scan
  | _, s, [] => .ok s
  | behind, s, c :: cs => do
    Scan.all directive (behind + c.utf8Size) (← s.next directive behind c) cs

/-- Whether a directive may end here. A level may be left out even behind its `=`. -/
def Scan.finish (trimmed : Bool) : Scan → Except Fault Unit
  | .levelOrTarget | .spanned => .ok ()
  | .level text => if !trimmed && (text.isEmpty || isLevel text) then .ok () else .error .badLevel
  | .start | .span | .field _ | .fields => .error .malformed

def checkDirective (cs : List Char) : Except Fault Unit := do
  (← Scan.all cs 0 .start (trim cs)).finish (trim cs != cs)

/-- Cuts characters at commas. `part` holds the characters of the part being read, in order. -/
def cut (part : List Char) : List Char → List (List Char)
  | [] => [part]
  | c :: cs => if c = ',' then part :: cut [] cs else cut (part ++ [c]) cs

/-- Checks a filter. Nothing between two commas is no directive. -/
def check (filter : String) : Except Fault Unit :=
  ((cut [] filter.toList).filter fun part ↦ !part.isEmpty).forM checkDirective

end LogFilter

/-! ## Opening the log -/

/-- Why the log cannot be opened. -/
inductive LogFault where
  /-- The file at a path cannot be created. -/
  | file (path : String) (fault : FileFault)
  /-- The filter is refused. -/
  | filter (fault : LogFilter.Fault)
  deriving DecidableEq, Repr

/-- The fault in words, then its causes. -/
def LogFault.chain : LogFault → List String
  | .file path fault => ["Failed to create log file " ++ path, fault.message]
  | .filter fault => "Invalid log filter" :: fault.chain

/-- Checks a filter behind a log file that could be created. -/
def LogFilter.admit (filter : String) : Except LogFault Unit :=
  match LogFilter.check filter with
  | .ok () => .ok ()
  | .error fault => .error (.filter fault)

/-- Opens the log, if there is to be one. -/
def Launch.openLog {m : Type → Type} [Monad m] [MonadFiles m] (l : Launch) :
    m (Except LogFault Unit) :=
  match l.logFile with
  | none => return .ok ()
  | some path => do
    match ← MonadFiles.write path .empty with
    | .error fault => return .error (.file path fault)
    | .ok () => return LogFilter.admit l.logFilter

end ChipEight
