import ChipEight.JsonText.Scan

/-!
# Skipping a value

A value that nobody asked for must still be JSON. It is recognised one character at a time by an
automaton with a stack of the brackets that are open, so nesting may be of any depth. A number ends
only at the character behind it, which the automaton then takes as the next one.

Unlike a number that is read, a number that is skipped counts as malformed if the text ends inside
it, and it may be of any size.
-/

namespace ChipEight

namespace JsonText

/-- An open bracket. -/
inductive Frame where
  | list
  | object
  deriving DecidableEq, Repr

/-- Where the automaton stands. -/
inductive Spot where
  /-- A value is due. -/
  | value
  /-- A bracket was just opened. -/
  | opened
  /-- A value was just finished inside a bracket. -/
  | finished
  /-- A key is due. -/
  | key
  /-- A colon is due. -/
  | colon
  /-- The rest of a word is due. -/
  | word (rest : List Char)
  /-- Behind a minus sign. -/
  | minus
  /-- Behind a leading zero. -/
  | zero
  /-- Among the digits of the whole part. -/
  | whole
  /-- Behind a decimal point. -/
  | point
  /-- Among the digits of the fraction. -/
  | fraction
  /-- Behind the letter of an exponent. -/
  | exponent
  | exponentSign
  | exponentDigits
  /-- Inside a string, which may be a key. -/
  | string (isKey : Bool)
  /-- Behind a backslash. -/
  | escape (isKey : Bool)
  /-- Among four hexadecimal digits: how many bytes have passed and whether they were digits. -/
  | unit (isKey : Bool) (bytes : Nat) (sound : Bool)
  deriving DecidableEq, Repr

/-- What the automaton does with a character. -/
inductive Move where
  /-- Takes it and goes on. -/
  | go (spot : Spot) (open? : List Frame)
  /-- Takes it; the value is complete. -/
  | last
  /-- Leaves it; the value was complete before. -/
  | behind
  /-- Refuses it. -/
  | refuse (fault : Fault)

/-- A character at which a value is due. -/
def moveValue (frames : List Frame) (c : Char) : Move :=
  match c.toNat with
  | 0x6E => .go (.word ['u', 'l', 'l']) frames
  | 0x74 => .go (.word ['r', 'u', 'e']) frames
  | 0x66 => .go (.word ['a', 'l', 's', 'e']) frames
  | 0x2D => .go .minus frames
  | 0x30 => .go .zero frames
  | 0x22 => .go (.string false) frames
  | 0x5B => .go .opened (.list :: frames)
  | 0x7B => .go .opened (.object :: frames)
  | _ =>
    if c.isDigit then .go .whole frames
    else if isSpace c then .go .value frames
    else .refuse .expectedValue

/-- The move that completes a value with the character it takes. -/
def moveComplete : List Frame → Move
  | [] => .last
  | frames => .go .finished frames

/-- A character at which a key is due. -/
def moveKey (frames : List Frame) (c : Char) : Move :=
  if c.toNat = 0x22 then .go (.string true) frames
  else if isSpace c then .go .key frames
  else .refuse .keyNotString

/-- A character behind a complete value. -/
def moveFinished (frames : List Frame) (c : Char) : Move :=
  match frames with
  | [] => .behind
  | .list :: outer =>
    if isSpace c then .go .finished frames
    else if c.toNat = 0x2C then .go .value frames
    else if c.toNat = 0x5D then moveComplete outer
    else .refuse .expectedListComma
  | .object :: outer =>
    if isSpace c then .go .finished frames
    else if c.toNat = 0x2C then .go .key frames
    else if c.toNat = 0x7D then moveComplete outer
    else .refuse .expectedObjectComma

/-- A character behind an opening bracket. -/
def moveOpened (frames : List Frame) (c : Char) : Move :=
  if isSpace c then .go .opened frames
  else
    match frames with
    | .list :: outer => if c.toNat = 0x5D then moveComplete outer else moveValue frames c
    | .object :: outer => if c.toNat = 0x7D then moveComplete outer else moveKey frames c
    | [] => moveValue frames c

def startsExponent (c : Char) : Bool := c == 'e' || c == 'E'

/-- The automaton. -/
def move (spot : Spot) (frames : List Frame) (c : Char) : Move :=
  match spot with
  | .value => moveValue frames c
  | .opened => moveOpened frames c
  | .finished => moveFinished frames c
  | .key => moveKey frames c
  | .colon =>
    if isSpace c then .go .colon frames
    else if c.toNat = 0x3A then .go .value frames
    else .refuse .expectedColon
  | .word [] => moveFinished frames c
  | .word (w :: ws) =>
    if c = w then
      match ws with
      | [] => moveComplete frames
      | _ => .go (.word ws) frames
    else .refuse .expectedWord
  | .minus =>
    if c == '0' then .go .zero frames
    else if c.isDigit then .go .whole frames
    else .refuse .invalidNumber
  | .zero =>
    if c.isDigit then .refuse .invalidNumber
    else if c == '.' then .go .point frames
    else if startsExponent c then .go .exponent frames
    else moveFinished frames c
  | .whole =>
    if c.isDigit then .go .whole frames
    else if c == '.' then .go .point frames
    else if startsExponent c then .go .exponent frames
    else moveFinished frames c
  | .point => if c.isDigit then .go .fraction frames else .refuse .invalidNumber
  | .fraction =>
    if c.isDigit then .go .fraction frames
    else if startsExponent c then .go .exponent frames
    else moveFinished frames c
  | .exponent =>
    if c == '+' || c == '-' then .go .exponentSign frames
    else if c.isDigit then .go .exponentDigits frames
    else .refuse .invalidNumber
  | .exponentSign => if c.isDigit then .go .exponentDigits frames else .refuse .invalidNumber
  | .exponentDigits =>
    if c.isDigit then .go .exponentDigits frames else moveFinished frames c
  | .string isKey =>
    if c.toNat = 0x22 then (if isKey then .go .colon frames else moveComplete frames)
    else if c.toNat = 0x5C then .go (.escape isKey) frames
    else if c.toNat < 0x20 then .refuse .controlCharacter
    else .go (.string isKey) frames
  | .escape isKey =>
    if c == 'u' then .go (.unit isKey 0 true) frames
    else if (escapedLetter? c).isSome then .go (.string isKey) frames
    else .refuse .invalidEscape
  | .unit isKey bytes sound =>
    let bytes := bytes + c.utf8Size
    let sound := sound && (hexValue? c).isSome
    if bytes < 4 then .go (.unit isKey bytes sound) frames
    else if sound then .go (.string isKey) frames
    else .refuse .invalidEscape

/-- What the end of the text means. -/
def moveEnd (spot : Spot) (frames : List Frame) : Except Fault (List Char) :=
  match spot with
  | .value | .word _ => .error .endInValue
  | .key | .colon => .error .endInObject
  | .string _ | .escape _ | .unit .. => .error .endInString
  | .minus | .point | .exponent | .exponentSign => .error .invalidNumber
  | .opened | .finished | .zero | .whole | .fraction | .exponentDigits =>
    match frames with
    | [] => .ok []
    | .list :: _ => .error .endInList
    | .object :: _ => .error .endInObject

/-- Runs the automaton and returns the text behind the value. -/
def skipFrom (spot : Spot) (frames : List Frame) : List Char → Except Fault (List Char)
  | [] => moveEnd spot frames
  | c :: cs =>
    match move spot frames c with
    | .go spot frames => skipFrom spot frames cs
    | .last => .ok cs
    | .behind => .ok (c :: cs)
    | .refuse fault => .error fault

/-- The text behind one value of any kind. -/
def skipValue (cs : List Char) : Except Fault (List Char) := skipFrom .value [] cs

end JsonText

end ChipEight
