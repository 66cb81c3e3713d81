/-!
# Faults of patterns

A fault in a pattern has a reason and a place, and is shown as the pattern with marks below the
place. If the pattern has several lines they are numbered, and a place that spans lines is given in
words instead.
-/

namespace ChipEight

namespace Pattern

/-- A stretch of a pattern, counted in characters: from `start` up to, but not including, `stop`. -/
structure Span where
  /-- The first character. -/
  start : Nat
  /-- The character behind the last one. -/
  stop : Nat
  deriving DecidableEq, Repr

/-- Why a pattern is refused. -/
inductive Reason where
  /-- Something that is no character stands in a set. -/
  | noMember
  /-- A range runs backwards. -/
  | rangeOrder
  | rangeEnd
  /-- A set has no end. -/
  | openSet
  | largeCount
  /-- A code point without digits. -/
  | emptyCode
  /-- A number that is no code point. -/
  | badCode
  | codeDigit
  /-- The pattern ends within an escape. -/
  | openEscape
  /-- An escape that does not exist. -/
  | unknownEscape
  /-- Nothing follows the sign that turns flags off. -/
  | danglingSign
  /-- A flag is given twice. -/
  | repeatedFlag
  /-- The sign that turns flags off is given twice. -/
  | repeatedSign
  /-- The pattern ends within flags. -/
  | openFlags
  /-- A flag that does not exist. -/
  | unknownFlag
  /-- Two groups have the same name. -/
  | repeatedName
  | emptyName
  /-- The name of a group has a character that does not belong into names. -/
  | badName
  /-- The pattern ends within the name of a group. -/
  | openName
  /-- A group has no end. -/
  | openGroup
  /-- A group ends that has not begun. -/
  | strayEnd
  /-- Groups or sets are nested too deeply. -/
  | depth (limit : Nat)
  /-- A repetition counts backwards. -/
  | countOrder
  /-- A count without digits. -/
  | emptyCount
  /-- A counted repetition has no end. -/
  | openCount
  | nothingRepeated
  /-- A word boundary of a special kind has no end. -/
  | openBoundary
  /-- A word boundary of a kind that does not exist. -/
  | unknownBoundary
  /-- The pattern ends behind the brace after a word boundary. -/
  | boundaryCut
  /-- A property without a name. -/
  | badProperty
  /-- References to groups are not part of the language. -/
  | reference
  /-- Looking ahead or behind is not part of the language. -/
  | lookAround
  /-- A character or property beyond bytes in a pattern on bytes. -/
  | beyondBytes
  /-- A pattern on bytes may match something that is no text. -/
  | noText
  | unknownProperty
  /-- A class of characters that is known for bytes only. -/
  | unknownClass
  /-- Case can be ignored for bytes only. -/
  | unknownCase
  deriving DecidableEq, Repr

def Reason.message : Reason → String
  | .noMember => "invalid escape sequence found in character class"
  | .rangeOrder => "invalid character class range, the start must be <= the end"
  | .rangeEnd => "invalid range boundary, must be a literal"
  | .openSet => "unclosed character class"
  | .largeCount => "decimal literal invalid"
  | .emptyCode => "hexadecimal literal empty"
  | .badCode => "hexadecimal literal is not a Unicode scalar value"
  | .codeDigit => "invalid hexadecimal digit"
  | .openEscape => "incomplete escape sequence, reached end of pattern prematurely"
  | .unknownEscape => "unrecognized escape sequence"
  | .danglingSign => "dangling flag negation operator"
  | .repeatedFlag => "duplicate flag"
  | .repeatedSign => "flag negation operator repeated"
  | .openFlags => "expected flag but got end of regex"
  | .unknownFlag => "unrecognized flag"
  | .repeatedName => "duplicate capture group name"
  | .emptyName => "empty capture group name"
  | .badName => "invalid capture group character"
  | .openName => "unclosed capture group name"
  | .openGroup => "unclosed group"
  | .strayEnd => "unopened group"
  | .depth limit =>
    "exceed the maximum number of nested parentheses/brackets (" ++ toString limit ++ ")"
  | .countOrder => "invalid repetition count range, the start must be <= the end"
  | .emptyCount => "repetition quantifier expects a valid decimal"
  | .openCount => "unclosed counted repetition"
  | .nothingRepeated => "repetition operator missing expression"
  | .openBoundary =>
    "special word boundary assertion is either unclosed or contains an invalid character"
  | .unknownBoundary =>
    "unrecognized special word boundary assertion, valid choices are: start, end, " ++
      "start-half or end-half"
  | .boundaryCut =>
    "found either the beginning of a special word boundary or a bounded repetition on a \\b " ++
      "with an opening brace, but no closing brace"
  | .badProperty => "invalid Unicode character class"
  | .reference => "backreferences are not supported"
  | .lookAround => "look-around, including look-ahead and look-behind, is not supported"
  | .beyondBytes => "Unicode not allowed here"
  | .noText => "pattern can match invalid UTF-8"
  | .unknownProperty => "Unicode property not found"
  | .unknownClass =>
    "Unicode-aware Perl class not found (make sure the unicode-perl feature is enabled)"
  | .unknownCase =>
    "Unicode-aware case insensitivity matching is not available " ++
      "(make sure the unicode-case feature is enabled)"

/-- A reason with the places that it is about: the one of the fault, and before it the one that the
fault repeats, if it repeats one. -/
structure Fault where
  /-- Why the pattern is refused. -/
  reason : Reason
  /-- The places in ascending order. -/
  places : List Span
  deriving DecidableEq, Repr

/-! ## Showing a fault -/

/-- A place as line and column, both counted from one. -/
structure Place where
  line : Nat
  column : Nat
  deriving DecidableEq, Repr

def Place.next (p : Place) (c : Char) : Place :=
  if c = '\n' then ⟨p.line + 1, 1⟩ else ⟨p.line, p.column + 1⟩

/-- Line and column of a character. -/
def placeOf (pattern : List Char) (index : Nat) : Place :=
  (pattern.take index).foldl Place.next ⟨1, 1⟩

/-- Cuts characters at line ends. `line` holds the characters of the line being read, in order. A
line end at the end of everything begins no line. -/
def linesFrom (line : List Char) : List Char → List (List Char)
  | [] => if line.isEmpty then [] else [line]
  | c :: cs => if c = '\n' then line :: linesFrom [] cs else linesFrom (line ++ [c]) cs

def withoutReturn (line : List Char) : List Char :=
  if line.getLast? = some '\r' then line.dropLast else line

/-- The marks below a line, given as pairs of columns. Marks have at least one character and do not
overlap. -/
def marks (column : Nat) : List (Nat × Nat) → List Char
  | [] => []
  | (start, stop) :: rest =>
    let width := max 1 (stop - start)
    List.replicate (start - column) ' ' ++ List.replicate width '^' ++
      marks (max start column + width) rest

/-- A number, filled up with blanks in front. -/
def padded (width n : Nat) : List Char :=
  let digits := (toString n).toList
  List.replicate (width - digits.length) ' ' ++ digits

/-- The lines of a pattern, each with the marks that belong below it. -/
def marked (pattern : List Char) (places : List (Place × Place)) : List (List Char) :=
  let lines := (linesFrom [] pattern).map withoutReturn
  let count := lines.length + if pattern.getLast? = some '\n' then 1 else 0
  let width := if count ≤ 1 then 0 else (toString count).length
  let blanks := if width = 0 then 4 else width + 2
  (lines.mapIdx fun k line ↦
    let here := places.filter fun p ↦ p.1.line == p.2.line && p.1.line == k + 1
    let front := if width = 0 then List.replicate 4 ' ' else padded width (k + 1) ++ [':', ' ']
    let below := marks 1 (here.map fun p ↦ (p.1.column, p.2.column))
    (front ++ line) :: if here.isEmpty then [] else [List.replicate blanks ' ' ++ below]).flatten

/-- A place that spans lines, in words. -/
def acrossLines (p : Place × Place) : List Char :=
  ("on line " ++ toString p.1.line ++ " (column " ++ toString p.1.column ++ ") through line " ++
    toString p.2.line ++ " (column " ++ toString (p.2.column - 1) ++ ")").toList

/-- The line that sets a pattern of several lines off. -/
def divider : List Char := List.replicate 79 '~'

def Fault.report (f : Fault) (pattern : List Char) : String :=
  let places := f.places.map fun s ↦ (placeOf pattern s.start, placeOf pattern s.stop)
  let body := marked pattern places
  let across := (places.filter fun p ↦ p.1.line != p.2.line).map acrossLines
  let lines := if pattern.contains '\n' then divider :: body ++ [divider] ++ across else body
  let text := lines.flatMap fun line ↦ line ++ ['\n']
  "regex parse error:\n" ++ String.ofList text ++ "error: " ++ f.reason.message

end Pattern

end ChipEight
