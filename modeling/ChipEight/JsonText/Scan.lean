import ChipEight.JsonText.Fault

/-!
# Pieces of JSON text

Blanks, the three words, strings and numbers. Every reader takes the characters still to come and
returns what it read together with the characters behind it.

An escape by code unit needs four hexadecimal digits. If fewer than four bytes of text are left, the
text counts as cut short whatever they are; otherwise anything but four digits is a bad escape. Two
escapes may together spell one character beyond the sixteen-bit range; half a pair is refused.
-/

namespace ChipEight

namespace JsonText

/-- What is left of a text, or the fault met while reading. -/
abbrev Read (α : Type) := Except Fault (α × List Char)

/-- Whether a character may stand between two tokens. -/
def isSpace (c : Char) : Bool := c == ' ' || c == '\n' || c == '\t' || c == '\r'

def skipSpace (cs : List Char) : List Char := cs.dropWhile isSpace

/-- Reads the rest of one of the words `null`, `true` and `false`. -/
def readWord : List Char → List Char → Except Fault (List Char)
  | [], cs => .ok cs
  | _ :: _, [] => .error .endInValue
  | w :: ws, c :: cs => if c = w then readWord ws cs else .error .expectedWord

/-- The value of a hexadecimal digit. -/
def hexValue? (c : Char) : Option Nat :=
  let n := c.toNat
  if 0x30 ≤ n ∧ n ≤ 0x39 then some (n - 0x30)
  else if 0x41 ≤ n ∧ n ≤ 0x46 then some (n - 0x37)
  else if 0x61 ≤ n ∧ n ≤ 0x66 then some (n - 0x57)
  else none

/-- The number spelled by hexadecimal digits. -/
def hexNumber? (cs : List Char) : Option Nat :=
  cs.foldl (fun n c ↦ do return (← n) * 16 + (← hexValue? c)) (some 0)

/-- The code unit spelled by the next four characters. -/
def codeUnit (cs : List Char) : Except Fault Nat :=
  let four := cs.take 4
  if (String.ofList four).utf8ByteSize < 4 then .error .endInString
  else
    match hexNumber? four with
    | some n => .ok n
    | none => .error .invalidEscape

/-- Whether a code unit is the first half of a pair. -/
def isLeading (n : Nat) : Bool := 0xD800 ≤ n && n ≤ 0xDBFF

/-- Whether a code unit is the second half of a pair. -/
def isTrailing (n : Nat) : Bool := 0xDC00 ≤ n && n ≤ 0xDFFF

/-- The character spelled by an escape by code unit, and how many characters behind the `u` it
takes. -/
def escapedUnit (cs : List Char) : Except Fault (Char × Nat) := do
  let n ← codeUnit cs
  if isTrailing n then .error .loneSurrogate
  else if isLeading n then
    match cs.drop 4 with
    | [] => .error .endInString
    | '\\' :: [] => .error .endInString
    | '\\' :: 'u' :: more =>
      let n' ← codeUnit more
      if isTrailing n' then
        return (Char.ofNat ((n - 0xD800) * 0x400 + (n' - 0xDC00) + 0x10000), 10)
      else .error .loneSurrogate
    | _ => .error .unfinishedSurrogate
  else return (Char.ofNat n, 4)

/-- The character spelled by an escape of one letter. -/
def escapedLetter? (c : Char) : Option Char :=
  match c.toNat with
  | 0x22 => some c
  | 0x5C => some c
  | 0x2F => some c
  | 0x62 => some '\x08'
  | 0x66 => some '\x0c'
  | 0x6E => some '\n'
  | 0x72 => some '\r'
  | 0x74 => some '\t'
  | _ => none

/-- Reads a string behind its opening quote. `done` holds the characters already read, the last one
first. -/
def readStringFrom (done : List Char) : List Char → Read (List Char)
  | [] => .error .endInString
  | '\x22' :: cs => .ok (done.reverse, cs)
  | '\\' :: [] => .error .endInString
  | '\\' :: 'u' :: cs =>
    match escapedUnit cs with
    | .error fault => .error fault
    | .ok (c, size) => readStringFrom (c :: done) (cs.drop size)
  | '\\' :: c :: cs =>
    match escapedLetter? c with
    | some c => readStringFrom (c :: done) cs
    | none => .error .invalidEscape
  | c :: cs => if c.toNat < 0x20 then .error .controlCharacter else readStringFrom (c :: done) cs
termination_by cs => cs.length
decreasing_by all_goals simp_wf <;> omega

/-- Reads a string behind its opening quote. -/
def readString (cs : List Char) : Read String :=
  match readStringFrom [] cs with
  | .ok (s, rest) => .ok (String.ofList s, rest)
  | .error fault => .error fault

/-!
## Numbers in JSON text

A number without fraction and exponent is whole as long as it fits into sixty-four bits, signed if
it is negative; `-0` and everything larger is a floating-point number.

A floating-point number is computed in two steps. The leading digits that fit into sixty-four bits,
with or without the point among them, form the significand, which is rounded to a `Float`; all
digits behind them only count for the power of ten. The significand is then multiplied by the power
of ten or divided by it, in floating-point arithmetic. Both steps round, so the result need not be
the nearest number; it is the number shown in messages.
-/

inductive Number where
  /-- A whole number from zero on, below `2 ^ 64`. -/
  | natural (n : Nat)
  /-- The whole number `-n`, with `0 < n ≤ 2 ^ 63`. -/
  | negative (n : Nat)
  /-- Any other number. -/
  | real (x : Float)

/-- A number as it is shown in a message. -/
def Number.found : Number → Found
  | .natural n => .natural n
  | .negative n => .negative n
  | .real x => .real x

def maxSignificand : Nat := 0xFFFFFFFFFFFFFFFF

/-- Appends digits to a significand as long as it fits. Returns the significand, the number of
digits taken and the text behind them. -/
def takeDigits (significand taken : Nat) : List Char → Nat × Nat × List Char
  | [] => (significand, taken, [])
  | c :: cs =>
    let longer := significand * 10 + (c.toNat - 0x30)
    if c.isDigit && longer ≤ maxSignificand then takeDigits longer (taken + 1) cs
    else (significand, taken, c :: cs)

/-- The number of leading digits and the text behind them. -/
def dropDigits (cs : List Char) : Nat × List Char :=
  let digits := cs.takeWhile Char.isDigit
  (digits.length, cs.dropWhile Char.isDigit)

/-- The largest power of ten that a `Float` holds has this exponent. -/
def maxPower : Nat := 308

/-- Divides by powers of ten of at most `maxPower` until the exponent is used up or nothing is left.
A quotient of a 64-bit number is zero after three divisions, so `rounds` need not be larger. -/
def shrink (x : Float) (power : Nat) : Nat → Float
  | 0 => x
  | rounds + 1 =>
    if power ≤ maxPower then x / Float.ofScientific 1 false power
    else if x == 0 then x
    else shrink (x / Float.ofScientific 1 false maxPower) (power - maxPower) rounds

/-- The value of `significand * 10 ^ exponent`. -/
def magnitude (significand : Nat) (exponent : Int) : Except Fault Float :=
  let x := significand.toUInt64.toFloat
  if exponent < 0 then .ok (shrink x exponent.natAbs 4)
  else if exponent.toNat ≤ maxPower then
    let y := x * Float.ofScientific 1 false exponent.toNat
    if y.isInf then .error .numberOutOfRange else .ok y
  else if significand = 0 then .ok x
  else .error .numberOutOfRange

def signed (positive : Bool) (x : Float) : Number := .real (if positive then x else -x)

/-- Reads an exponent behind its letter. An exponent beyond the 32-bit range is not added up: it
makes a number zero or too large. -/
def readExponent (positive : Bool) (significand : Nat) (exponent : Int) (cs : List Char) :
    Read Number :=
  let (up, cs) :=
    match cs with
    | '+' :: rest => (true, rest)
    | '-' :: rest => (false, rest)
    | _ => (true, cs)
  match cs with
  | [] => .error .endInValue
  | c :: _ =>
    if c.isDigit then
      let digits := cs.takeWhile Char.isDigit
      let rest := cs.dropWhile Char.isDigit
      let power : Nat := digits.foldl (fun n d ↦ n * 10 + (d.toNat - 0x30)) 0
      if 0x80000000 ≤ power then
        if significand ≠ 0 ∧ up then .error .numberOutOfRange
        else .ok (signed positive 0, rest)
      else
        let total := if up then exponent + (power : Int) else exponent - (power : Int)
        (magnitude significand total).map fun x ↦ (signed positive x, rest)
    else .error .invalidNumber

/-- Reads an exponent if one follows. -/
def readScale (positive : Bool) (significand : Nat) (exponent : Int) (cs : List Char) :
    Read Number :=
  match cs with
  | 'e' :: rest => readExponent positive significand exponent rest
  | 'E' :: rest => readExponent positive significand exponent rest
  | _ => (magnitude significand exponent).map fun x ↦ (signed positive x, cs)

def readFraction (positive : Bool) (significand : Nat) (exponent : Int) (cs : List Char) :
    Read Number :=
  match cs with
  | [] => .error .endInValue
  | c :: _ =>
    if c.isDigit then
      let (longer, taken, rest) := takeDigits significand 0 cs
      readScale positive longer (exponent - taken) (dropDigits rest).2
    else .error .invalidNumber

/-- Reads what follows the whole part of a number. `extra` counts the digits that did not fit into
the significand. -/
def readTail (positive : Bool) (significand extra : Nat) (cs : List Char) : Read Number :=
  match cs with
  | '.' :: rest => readFraction positive significand extra rest
  | 'e' :: rest => readExponent positive significand extra rest
  | 'E' :: rest => readExponent positive significand extra rest
  | _ =>
    if extra ≠ 0 then (magnitude significand extra).map fun x ↦ (signed positive x, cs)
    else if positive then .ok (.natural significand, cs)
    else if significand = 0 ∨ 0x8000000000000000 < significand then
      .ok (signed false significand.toUInt64.toFloat, cs)
    else .ok (.negative significand, cs)

/-- Reads a number behind its sign. -/
def readMagnitude (positive : Bool) (cs : List Char) : Read Number :=
  match cs with
  | [] => .error .endInValue
  | '0' :: rest =>
    if (rest.head?.map Char.isDigit).getD false then .error .invalidNumber
    else readTail positive 0 0 rest
  | c :: _ =>
    if c.isDigit then
      let (significand, _, rest) := takeDigits 0 0 cs
      let (extra, rest) := dropDigits rest
      readTail positive significand extra rest
    else .error .invalidNumber

def startsNumber (c : Char) : Bool := c == '-' || c.isDigit

/-- Reads a number whose first character has been recognised. -/
def readNumber (cs : List Char) : Read Number :=
  match cs with
  | '-' :: rest => readMagnitude false rest
  | _ => readMagnitude true cs

end JsonText

end ChipEight
