import ChipEight.JsonText.Scan

/-!
# JSON as it is written

A `Tree` is a JSON value together with everything that is left to the one who writes it down: the
blanks between tokens, the spelling of numbers, the escapes in strings. `Tree.text` is the text. The
parts that a text is free in are types of their own, so a tree cannot be ill-formed: blanks are a
list of the four blank characters, the whole part of a number is a natural number and has no zeros
in front, and a character that must be escaped cannot be written plainly.

The grammar of strings admits half of a surrogate pair, but such a string has no characters. Where
the characters of a string matter it is made of `Letter`s, each of which has one; elsewhere it is
made of `Piece`s.
-/

namespace ChipEight

namespace JsonText

/-! ## Blanks -/

/-- A character that may stand between two tokens. -/
inductive Blank where
  | space
  | tab
  | lineFeed
  | carriageReturn
  deriving DecidableEq, Repr

def Blank.char : Blank → Char
  | .space => ' '
  | .tab => '\t'
  | .lineFeed => '\n'
  | .carriageReturn => '\r'

/-- Blanks between two tokens. -/
abbrev Blanks := List Blank

def Blanks.text (bs : Blanks) : List Char := bs.map Blank.char

/-- Something with blanks around it. -/
structure Laid (α : Type) where
  before : Blanks
  item : α
  after : Blanks

/-- The text of something with blanks around it. -/
def Laid.text {α : Type} (inner : α → List Char) (l : Laid α) : List Char :=
  l.before.text ++ (inner l.item ++ l.after.text)

/-! ## Numbers -/

/-- One or more decimal digits. -/
structure Digits where
  first : Fin 10
  more : List (Fin 10)

def Digits.text (ds : Digits) : List Char := (ds.first :: ds.more).map fun d ↦ d.val.digitChar

structure Exponent where
  /-- Whether the letter is a capital. -/
  capital : Bool
  /-- The sign if there is one, `true` for plus. -/
  sign : Option Bool
  digits : Digits

def Exponent.text (e : Exponent) : List Char :=
  (if e.capital then 'E' else 'e')
    :: (e.sign.elim [] (fun plus ↦ [if plus then '+' else '-']) ++ e.digits.text)

/-- A number as it is written. -/
structure Numeral where
  negative : Bool
  /-- The part in front of the point. -/
  whole : Nat
  fraction : Option Digits
  exponent : Option Exponent

namespace Numeral

/-- What follows the whole part. -/
def tail (n : Numeral) : List Char :=
  n.fraction.elim [] (fun ds ↦ '.' :: ds.text) ++ n.exponent.elim [] Exponent.text

def text (n : Numeral) : List Char :=
  (if n.negative then ['-'] else []) ++ (Nat.toDigits 10 n.whole ++ n.tail)

/-- The number, if it is written as a whole number from zero on. -/
def natural? : Numeral → Option Nat
  | ⟨false, n, none, none⟩ => some n
  | _ => none

/-- A whole number as it is written. -/
def ofInt (i : Int) : Numeral := ⟨i < 0, i.natAbs, none, none⟩

end Numeral

/-! ## Strings -/

/-- A hexadecimal digit in either case. -/
structure HexDigit where
  value : Fin 16
  capital : Bool

def HexDigit.char (d : HexDigit) : Char :=
  if d.value.val < 10 then Char.ofNat (0x30 + d.value.val)
  else Char.ofNat ((if d.capital then 0x37 else 0x57) + d.value.val)

/-- A code unit of sixteen bits as four digits. -/
structure CodeUnit where
  first : HexDigit
  second : HexDigit
  third : HexDigit
  fourth : HexDigit

namespace CodeUnit

def text (u : CodeUnit) : List Char :=
  [u.first.char, u.second.char, u.third.char, u.fourth.char]

def value (u : CodeUnit) : Nat :=
  u.first.value.val * 0x1000 + u.second.value.val * 0x100 + u.third.value.val * 0x10
    + u.fourth.value.val

/-- Whether a code unit is the first half of a pair. -/
def Leads (u : CodeUnit) : Prop := 0xD800 ≤ u.value ∧ u.value ≤ 0xDBFF

/-- Whether a code unit is the second half of a pair. -/
def Trails (u : CodeUnit) : Prop := 0xDC00 ≤ u.value ∧ u.value ≤ 0xDFFF

end CodeUnit

inductive ShortEscape where
  | quote
  | backslash
  | slash
  | backspace
  | formFeed
  | lineFeed
  | carriageReturn
  | tab
  deriving DecidableEq, Repr

namespace ShortEscape

def letter : ShortEscape → Char
  | .quote => '\x22'
  | .backslash => '\\'
  | .slash => '/'
  | .backspace => 'b'
  | .formFeed => 'f'
  | .lineFeed => 'n'
  | .carriageReturn => 'r'
  | .tab => 't'

def char : ShortEscape → Char
  | .quote => '\x22'
  | .backslash => '\\'
  | .slash => '/'
  | .backspace => '\x08'
  | .formFeed => '\x0c'
  | .lineFeed => '\n'
  | .carriageReturn => '\r'
  | .tab => '\t'

end ShortEscape

/-- Whether a character may stand in a string as it is. -/
def IsPlain (c : Char) : Prop := 0x20 ≤ c.toNat ∧ c ≠ '\x22' ∧ c ≠ '\\'

/-- A character of a string as it is written. -/
inductive Letter where
  | plain (c : Char) (isPlain : IsPlain c)
  | short (e : ShortEscape)
  /-- A character of the sixteen-bit range by its code unit. -/
  | unit (u : CodeUnit) (single : ¬u.Leads ∧ ¬u.Trails)
  /-- A character beyond the sixteen-bit range by a pair of code units. -/
  | pair (u v : CodeUnit) (leads : u.Leads) (trails : v.Trails)

namespace Letter

def text : Letter → List Char
  | .plain c _ => [c]
  | .short e => ['\\', e.letter]
  | .unit u _ => '\\' :: 'u' :: u.text
  | .pair u v _ _ => '\\' :: 'u' :: (u.text ++ '\\' :: 'u' :: v.text)

def char : Letter → Char
  | .plain c _ => c
  | .short e => e.char
  | .unit u _ => Char.ofNat u.value
  | .pair u v _ _ => Char.ofNat ((u.value - 0xD800) * 0x400 + (v.value - 0xDC00) + 0x10000)

end Letter

/-- A string as it is written, with its characters known. -/
abbrev Spelling := List Letter

namespace Spelling

def string (s : Spelling) : String := String.ofList (s.map Letter.char)

def inner (s : Spelling) : List Char := s.flatMap Letter.text

end Spelling

/-- A part of a string as it is written, whether it stands for a character or not. -/
inductive Piece where
  | letter (l : Letter)
  /-- Any code unit, half of a pair included. -/
  | unit (u : CodeUnit)

def Piece.text : Piece → List Char
  | .letter l => l.text
  | .unit u => '\\' :: 'u' :: u.text

def piecesText (ps : List Piece) : List Char := ps.flatMap Piece.text

/-- A text in quotes. -/
def inQuotes (inner : List Char) : List Char := '\x22' :: (inner ++ ['\x22'])

/-! ## Values -/

/-- A JSON value as it is written. The blanks of a list or an object are those behind its opening
bracket; they are the only ones if it is empty. -/
inductive Tree where
  | null
  | boolean (b : Bool)
  | number (n : Numeral)
  | string (ps : List Piece)
  | list (gap : Blanks) (items : List (Laid Tree))
  | object (gap : Blanks) (members : List (Laid (List Piece) × Laid Tree))

/-- The comma in front of an item that is not the first one. -/
def comma (isFirst : Bool) : List Char := if isFirst then [] else [',']

mutual

/-- The text of a value. -/
def Tree.text : Tree → List Char
  | .null => ['n', 'u', 'l', 'l']
  | .boolean true => ['t', 'r', 'u', 'e']
  | .boolean false => ['f', 'a', 'l', 's', 'e']
  | .number n => n.text
  | .string ps => inQuotes (piecesText ps)
  | .list gap items => '[' :: (gap.text ++ (Tree.itemsText true items ++ [']']))
  | .object gap members => '\x7b' :: (gap.text ++ (Tree.membersText true members ++ ['\x7d']))

def Tree.itemsText (isFirst : Bool) : List (Laid Tree) → List Char
  | [] => []
  | ⟨before, t, after⟩ :: items =>
    comma isFirst ++ (before.text ++ (t.text ++ (after.text ++ Tree.itemsText false items)))

def Tree.membersText (isFirst : Bool) : List (Laid (List Piece) × Laid Tree) → List Char
  | [] => []
  | (key, ⟨before, t, after⟩) :: members =>
    comma isFirst ++ (key.text (fun ps ↦ inQuotes (piecesText ps)) ++ ':' ::
      (before.text ++ (t.text ++ (after.text ++ Tree.membersText false members))))

end

end JsonText

end ChipEight
