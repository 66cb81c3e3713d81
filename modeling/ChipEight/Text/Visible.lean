/-!
# Text without terminal control

A message may quote what the user typed, and a terminal would obey control characters in it. So
before a message is shown, control characters are taken out, all but the ASCII white space, and with
them the escape sequences that some of them begin.

The sequences are those of a video terminal: a single character behind the escape character, a
control sequence with parameters, a device string with a header, and strings of other kinds. White
space breaks off the first two and is shown, and is swallowed in a string.
-/

namespace ChipEight

namespace Visible

/-- Where in an escape sequence a text is. -/
inductive Mode where
  /-- In none. -/
  | ground
  /-- Behind the escape character. -/
  | escaped
  /-- Behind the escape character and an intermediate. -/
  | intermediate
  /-- In a control sequence, behind its opening bracket. -/
  | control
  /-- In a string for the operating system, which a bell ends. -/
  | system
  /-- At the beginning of a device string. -/
  | device
  | deviceParameters
  | deviceIntermediate
  /-- In a string that a string terminator ends: the body of a device string, or of another kind. -/
  | body
  deriving DecidableEq, Repr

def escape : Char := '\x1B'

def isSpace (c : Char) : Bool := ['\t', '\n', '\x0C', '\r', ' '].contains c

def isControl (c : Char) : Bool := c.toNat < 0x20 || c.toNat == 0x7F

/-- Whether a character is a final one, which ends a sequence or a header. -/
def isFinal (c : Char) : Bool := 0x40 ≤ c.toNat && c.toNat < 0x7F

def isIntermediate (c : Char) : Bool := 0x20 ≤ c.toNat && c.toNat < 0x30

def isParameter (c : Char) : Bool := 0x30 ≤ c.toNat && c.toNat < 0x40

/-- Whether a character cancels any sequence. -/
def cancels (c : Char) : Bool := c.toNat == 0x18 || c.toNat == 0x1A

/-- Whether the one-byte string terminator is among the bytes of a character, which are looked at
one by one inside a string. -/
def holdsTerminator (c : Char) : Bool :=
  0x80 ≤ c.toNat && (String.singleton c).toUTF8.toList.contains 0x9C

/-- The mode behind a character that follows the escape character. -/
def Mode.begin (c : Char) : Mode :=
  match c with
  | '[' => .control
  | ']' => .system
  | 'P' => .device
  | 'X' | '^' | '_' => .body
  | _ =>
    if isIntermediate c then .intermediate
    else if isParameter c || isFinal c then .ground
    else .escaped

/-- The mode behind a character that neither cancels nor escapes. -/
def Mode.advance : Mode → Char → Mode
  | .ground, _ => .ground
  | .escaped, c => .begin c
  | .intermediate, c => if isParameter c || isFinal c then .ground else .intermediate
  | .control, c => if isFinal c then .ground else .control
  | .system, c => if c = '\x07' then .ground else .system
  | .device, c =>
    if isIntermediate c then .deviceIntermediate
    else if c = ':' || isFinal c then .body
    else if isParameter c then .deviceParameters
    else .device
  | .deviceParameters, c =>
    if isIntermediate c then .deviceIntermediate
    else if isFinal c || ":<=>?".toList.contains c then .body
    else .deviceParameters
  | .deviceIntermediate, c => if isParameter c || isFinal c then .body else .deviceIntermediate
  | .body, c => if holdsTerminator c then .ground else .body

/-- Whether a control character is carried out in a mode, and not swallowed with a string. -/
def Mode.obeys : Mode → Bool
  | .ground | .escaped | .intermediate | .control => true
  | .system | .device | .deviceParameters | .deviceIntermediate | .body => false

/-- Whether a character is shown. White space other than the blank is a control character too. -/
def Mode.shows (mode : Mode) (c : Char) : Bool :=
  if isControl c then isSpace c && mode.obeys else mode == .ground

/-- The mode behind a character. A control character that is shown ends the sequence. -/
def Mode.next (mode : Mode) (c : Char) : Mode :=
  if cancels c then .ground
  else if c = escape then .escaped
  else if mode.shows c then .ground
  else mode.advance c

/-- The characters that are shown. -/
def filter : Mode → List Char → List Char
  | _, [] => []
  | mode, c :: cs =>
    let rest := filter (mode.next c) cs
    if mode.shows c then c :: rest else rest

end Visible

/-- The characters of a text that are shown. -/
def visible (cs : List Char) : List Char := Visible.filter .ground cs

end ChipEight
