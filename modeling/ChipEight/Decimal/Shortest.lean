/-!
# The shortest decimal of a floating-point number

A positive finite `Float` stands for an interval of reals: those that round to it. Among the
decimals in this interval the shortest is chosen, and of the shortest the one nearest to the number.
Everything is exact arithmetic on natural numbers; the interval includes its ends exactly when the
significand is even, because ties round to even.

For each number of digits only the two neighbours of the number on the decimal grid can be the
answer: if any point of the grid lies in the interval, one of these two does.
-/

namespace ChipEight

namespace Decimal

/-- A decimal `digits * 10 ^ exponent`. -/
structure Scientific where
  digits : Nat
  /-- The power of ten. -/
  exponent : Int
  deriving DecidableEq, Repr

/-- The same decimal without a zero at the end of its digits, if there is one. -/
def Scientific.reduced (d : Scientific) : Scientific :=
  if d.digits % 10 = 0 then ⟨d.digits / 10, d.exponent + 1⟩ else d

/-- A positive number with the interval that rounds to it, all over one denominator. -/
structure Rounding where
  /-- Numerator of the lower end. -/
  low : Nat
  /-- Numerator of the number. -/
  value : Nat
  /-- Numerator of the upper end. -/
  high : Nat
  den : Nat
  /-- Whether the ends belong to the interval. -/
  closed : Bool

/-- The interval of the double-precision number with the given bits, which must be positive and
finite. Below a power of two the neighbours are half as far away as above it. -/
def Rounding.ofBits (bits : Nat) : Rounding :=
  let fraction := bits % (1 <<< 52)
  let biased := bits / (1 <<< 52) % (1 <<< 11)
  let significand := if biased = 0 then fraction else fraction + (1 <<< 52)
  let exponent : Int := (if biased = 0 then 1 else biased : Nat) - 1075
  let below := if fraction = 0 ∧ 1 < biased then 1 else 2
  let shift := (exponent - 2).toNat
  { low := (4 * significand - below) <<< shift
    value := (4 * significand) <<< shift
    high := (4 * significand + 2) <<< shift
    den := 1 <<< (2 - exponent).toNat
    closed := significand % 2 == 0 }

/-- Whether `k * 10 ^ s` lies in the interval. -/
def Rounding.admits (r : Rounding) (k : Nat) (s : Int) : Bool :=
  let scaled := k * Nat.pow 10 s.toNat * r.den
  let unit := Nat.pow 10 (-s).toNat
  if r.closed then r.low * unit ≤ scaled && scaled ≤ r.high * unit
  else r.low * unit < scaled && scaled < r.high * unit

/-- The neighbours of the number on the grid of multiples of `10 ^ s`, and whether the upper one is
nearer. A tie goes to the even neighbour. -/
def Rounding.neighbour (r : Rounding) (s : Int) : Nat × Bool :=
  let num := r.value * Nat.pow 10 (-s).toNat
  let den := r.den * Nat.pow 10 s.toNat
  let k := num / den
  let rest := 2 * (num % den)
  (k, den < rest || (den == rest && k % 2 == 1))

/-- The decimal exponent of the number: the `e` with `10 ^ e ≤ value < 10 ^ (e + 1)`. The estimate
from the binary lengths is at most three too small, so three corrections suffice. -/
def Rounding.exponent (r : Rounding) : Int :=
  let start : Int := ((Nat.log2 r.value : Int) - Nat.log2 r.den) * 30103 / 100000 - 2
  let correct (e : Int) : Int :=
    if Nat.pow 10 (e + 1).toNat * r.den ≤ r.value * Nat.pow 10 (-(e + 1)).toNat then e + 1 else e
  correct (correct (correct (correct start)))

/-- The nearest admitted neighbour on the grid of multiples of `10 ^ s`, if there is one. -/
def Rounding.onGrid? (r : Rounding) (s : Int) : Option Scientific :=
  let (k, up) := r.neighbour s
  let first := if up then k + 1 else k
  let second := if up then k else k + 1
  if r.admits first s then some ⟨first, s⟩
  else if r.admits second s then some ⟨second, s⟩
  else none

/-- The shortest decimal that rounds to the number, tried with one digit, two digits and so on.
Seventeen digits always suffice. A power of ten is found as the upper neighbour of a number just
below it and then has a digit too many, which is a zero. -/
def Rounding.shortest (r : Rounding) : Scientific :=
  let e := r.exponent
  let grids := (List.range 17).map fun n : Nat ↦ e - (n : Int)
  ((grids.findSome? r.onGrid?).getD ⟨(r.neighbour (e - 16)).1, e - 16⟩).reduced

/-! ## Layout -/

/-- A decimal in positional notation, always with a point and a digit behind it. `point` is the
number of digits before the point and may be negative. -/
def positional (digits : List Char) (point : Int) : List Char :=
  if point ≤ 0 then
    ['0', '.'] ++ List.replicate (-point).toNat '0' ++ digits
  else if digits.length ≤ point.toNat then
    digits ++ List.replicate (point.toNat - digits.length) '0' ++ ['.', '0']
  else
    digits.take point.toNat ++ ['.'] ++ digits.drop point.toNat

/-- A decimal with one digit before the point and a signed power of ten. -/
def withExponent (digits : List Char) (power : Int) : List Char :=
  let mantissa :=
    match digits with
    | [] => []
    | [d] => [d]
    | d :: ds => d :: '.' :: ds
  let mark := if power < 0 then ['e', '-'] else ['e', '+']
  mantissa ++ mark ++ (toString power.natAbs).toList

/-- A positive finite number in its shortest decimal form: positional from `10 ^ -5` up to below
`10 ^ 16`, with a power of ten outside this range. -/
def positiveText (bits : Nat) : List Char :=
  let decimal := (Rounding.ofBits bits).shortest
  let digits := (toString decimal.digits).toList
  let point := decimal.exponent + digits.length
  if -5 < point ∧ point ≤ 16 then positional digits point else withExponent digits (point - 1)

/-- A finite number in its shortest decimal form. -/
def text (x : Float) : String :=
  let bits := x.toBits.toNat
  let magnitude := bits % (1 <<< 63)
  let body := if magnitude = 0 then ['0', '.', '0'] else positiveText magnitude
  String.ofList (if bits < (1 <<< 63) then body else '-' :: body)

end Decimal

end ChipEight
