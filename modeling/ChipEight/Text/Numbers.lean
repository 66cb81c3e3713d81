/-!
# Numbers in text

Numbers are written by hand in two forms: whole numbers, in decimal or hexadecimal, and decimals,
which are read in single precision. Each form has faults of its own.
-/

namespace ChipEight

/-!
## Whole numbers

Whole numbers from zero on, in any base up to sixteen and below a given bound. Digits are taken from
left to right, so of two faults the leftmost is reported: a number is too large as soon as its
leading digits are, whatever follows them.

One `+` may stand in front. Behind the mark `0x` or `0X` a number is hexadecimal, where this is
allowed at all, and the `+` then stands behind the mark.
-/

namespace Whole

/-- Why a text is no whole number. -/
inductive Fault where
  /-- There is nothing to read. -/
  | empty
  /-- A character is no digit of the base. -/
  | badDigit
  /-- The number is not below the bound. -/
  | tooLarge
  deriving DecidableEq, Repr

def Fault.message : Fault → String
  | .empty => "cannot parse integer from empty string"
  | .badDigit => "invalid digit found in string"
  | .tooLarge => "number too large to fit in target type"

/-- The value of a digit, in either case of its letters. -/
def digit? (base : Nat) (c : Char) : Option Nat :=
  let value? :=
    if '0' ≤ c ∧ c ≤ '9' then some (c.toNat - '0'.toNat)
    else if 'a' ≤ c ∧ c ≤ 'f' then some (c.toNat - 'a'.toNat + 10)
    else if 'A' ≤ c ∧ c ≤ 'F' then some (c.toNat - 'A'.toNat + 10)
    else none
  value?.filter (· < base)

/-- Appends digits to a number that stays below the bound. -/
def appendDigits (base bound : Nat) (value : Nat) : List Char → Except Fault Nat
  | [] => .ok value
  | c :: cs =>
    match digit? base c with
    | none => .error .badDigit
    | some d =>
      if value * base + d < bound then appendDigits base bound (value * base + d) cs
      else .error .tooLarge

/-- Reads a number in the given base, below the bound. -/
def ofDigits (base bound : Nat) : List Char → Except Fault Nat
  | [] => .error .empty
  | ['+'] => .error .badDigit
  | '+' :: cs => appendDigits base bound 0 cs
  | cs => appendDigits base bound 0 cs

/-- Reads a decimal number, or a hexadecimal one behind the mark. -/
def ofLiteral (bound : Nat) : List Char → Except Fault Nat
  | '0' :: 'x' :: cs => ofDigits 16 bound cs
  | '0' :: 'X' :: cs => ofDigits 16 bound cs
  | cs => ofDigits 10 bound cs

end Whole

/-!
## Numbers in single precision

A number is written with digits, of which at least one stands before or behind the point, an
optional sign and an optional power of ten; `inf`, `infinity` and `nan` are numbers too, in any case
of their letters. The number read is the single-precision number nearest to the decimal.

The size of the decimal is estimated before it is computed, so an absurd power of ten costs nothing:
far outside the range the result is zero or infinity.
-/

namespace Single

/-- Why a text is no number. -/
inductive Fault where
  /-- There is nothing to read. -/
  | empty
  /-- It is not written like a number. -/
  | malformed
  deriving DecidableEq, Repr

def Fault.message : Fault → String
  | .empty => "cannot parse float from empty string"
  | .malformed => "invalid float literal"

def value (digits : List Char) : Nat := digits.foldl (fun n c ↦ n * 10 + (c.toNat - '0'.toNat)) 0

def infinity : Float32 := 1.0 / 0.0

/-- The number nearest to `digits * 10 ^ exponent`. Powers of ten from `10 ^ 39` on are infinite,
and below `10 ^ -46` everything is zero. -/
def nearest (digits : Nat) (exponent : Int) : Float32 :=
  let magnitude := exponent + (toString digits).length
  if digits = 0 then 0.0
  else if 50 < magnitude then infinity
  else if magnitude < -60 then 0.0
  else Float32.ofScientific digits (exponent < 0) exponent.natAbs

/-- Reads the power of ten behind a number. -/
def exponent? : List Char → Option Int
  | [] => some 0
  | mark :: cs =>
    let (negative, digits) :=
      match cs with
      | '-' :: ds => (true, ds)
      | '+' :: ds => (false, ds)
      | ds => (false, ds)
    if mark.toLower = 'e' ∧ digits ≠ [] ∧ digits.all Char.isDigit then
      some (if negative then -(value digits : Int) else value digits)
    else none

/-- Splits the leading digits off. -/
def splitDigits (cs : List Char) : List Char × List Char :=
  (cs.takeWhile Char.isDigit, cs.dropWhile Char.isDigit)

/-- Reads a number without a sign that is written with digits. -/
def decimal? (cs : List Char) : Option Float32 :=
  let (whole, rest) := splitDigits cs
  let (fraction, rest) :=
    match rest with
    | '.' :: ds => splitDigits ds
    | ds => ([], ds)
  if whole = [] ∧ fraction = [] then none
  else (exponent? rest).map fun e ↦ nearest (value (whole ++ fraction)) (e - fraction.length)

/-- Reads a number without a sign. -/
def unsigned? (cs : List Char) : Option Float32 :=
  match String.ofList (cs.map Char.toLower) with
  | "inf" | "infinity" => some infinity
  | "nan" => some (0.0 / 0.0)
  | _ => decimal? cs

/-- Reads a number. -/
def ofText (s : String) : Except Fault Float32 :=
  let number? :=
    match s.toList with
    | '-' :: cs => (unsigned? cs).map fun x ↦ -x
    | '+' :: cs => unsigned? cs
    | cs => unsigned? cs
  match number? with
  | some x => .ok x
  | none => .error (if s = "" then .empty else .malformed)

end Single

end ChipEight
