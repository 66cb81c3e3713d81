import ChipEight.Pattern
import ChipEight.Text.Classes

/-!
# A place in a pattern being read

While a pattern is read, a cursor holds what is left of it, how far one is, whether blanks and
remarks are skipped at the moment, and the names of groups met so far.
-/

namespace ChipEight

namespace Pattern

/-- A place in a pattern that is being read. -/
structure Cursor where
  /-- What is left. -/
  rest : List Char
  /-- How many characters are behind. -/
  place : Nat
  skipsBlanks : Bool
  /-- The names of groups, with the places where they stand. -/
  names : List (List Char × Span)

/-- Refuses a pattern because of what stands at a place. -/
def refuse {α : Type} (reason : Reason) (start stop : Nat) : Except Fault α :=
  .error ⟨reason, [⟨start, stop⟩]⟩

namespace Cursor

def ofPattern (pattern : List Char) : Cursor := ⟨pattern, 0, false, []⟩

def char? (c : Cursor) : Option Char := c.rest.head?

def atEnd (c : Cursor) : Bool := c.rest.isEmpty

def next (c : Cursor) : Cursor :=
  match c.rest with
  | [] => c
  | _ :: rest => { c with rest, place := c.place + 1 }

/-- What is left behind blanks and remarks, and the place of it. A remark begins with `#` and ends
with the line. -/
def passBlanks (remark : Bool) (place : Nat) : List Char → List Char × Nat
  | [] => ([], place)
  | c :: cs =>
    if remark then passBlanks (c != '\n') (place + 1) cs
    else if isBlank c then passBlanks false (place + 1) cs
    else if c = '#' then passBlanks true (place + 1) cs
    else (c :: cs, place)

/-- Behind blanks and remarks, where they are skipped. -/
def skip (c : Cursor) : Cursor :=
  if c.skipsBlanks then
    let (rest, place) := passBlanks false c.place c.rest
    { c with rest, place }
  else c

/-- One character further, and behind the blanks and remarks there. -/
def advance (c : Cursor) : Cursor := c.next.skip

/-- Behind a word, if it stands here. -/
def pass? (c : Cursor) (word : List Char) : Option Cursor :=
  if word.isPrefixOf c.rest then
    some { c with rest := c.rest.drop word.length, place := c.place + word.length }
  else none

/-- The character after the next one. Where blanks are skipped it is looked for behind them and
behind the mark of a remark, but in the remark itself. -/
def second? (c : Cursor) : Option Char :=
  match c.rest with
  | [] => none
  | _ :: cs =>
    if c.skipsBlanks then
      let further :=
        match cs.dropWhile isBlank with
        | '#' :: remark => remark.dropWhile isBlank
        | further => further
      further.head?.or cs.head?
    else cs.head?

/-- Refuses a pattern because it ends here, or because of what is missing here. -/
def refuse {α : Type} (c : Cursor) (reason : Reason) : Except Fault α :=
  Pattern.refuse reason c.place c.place

def refuseChar {α : Type} (c : Cursor) (reason : Reason) : Except Fault α :=
  Pattern.refuse reason c.place (c.place + 1)

/-- Refuses a pattern because of what stands from a place up to here. -/
def refuseFrom {α : Type} (c : Cursor) (start : Nat) (reason : Reason) : Except Fault α :=
  Pattern.refuse reason start c.place

end Cursor

/-! ## Numbers -/

/-- The value of a digit in base sixteen. -/
def hexDigit? (c : Char) : Option Nat :=
  if '0' ≤ c ∧ c ≤ '9' then some (c.toNat - 48)
  else if 'a' ≤ c ∧ c ≤ 'f' then some (c.toNat - 87)
  else if 'A' ≤ c ∧ c ≤ 'F' then some (c.toNat - 55)
  else none

/-- The character with a code point. -/
def charOf? (n : Nat) : Option Char := if n.isValidChar then some (Char.ofNat n) else none

/-- Reads so many digits in base sixteen and appends them to a number. -/
def fixedCode : Nat → Nat → Cursor → Except Fault (Nat × Cursor)
  | 0, code, c => .ok (code, c)
  | count + 1, code, c =>
    match c.char? with
    | none => c.refuse .openEscape
    | some d =>
      match hexDigit? d with
      | none => c.refuseChar .codeDigit
      | some x => fixedCode count (code * 16 + x) c.advance

/-- Reads digits in base sixteen up to a closing brace and appends them to a number, which is absent
as long as there are no digits. The brace that opened stands at `start`. -/
def bracedCode (start : Nat) : Nat → Option Nat → Cursor → Except Fault (Option Nat × Cursor)
  | 0, _, c => c.refuseFrom start .openEscape
  | fuel + 1, code, c =>
    match c.char? with
    | none => c.refuseFrom start .openEscape
    | some '\x7d' => .ok (code, c)
    | some d =>
      match hexDigit? d with
      | none => c.refuseChar .codeDigit
      | some x => bracedCode start fuel (some (code.getD 0 * 16 + x)) c.advance

/-- Reads a code point in base sixteen: in braces, or so many digits. -/
def readCode (count : Nat) (c : Cursor) : Except Fault (Char × Cursor) := do
  if c.atEnd then c.refuse .openEscape
  else if c.char? = some '\x7b' then
    let (code?, close) ← bracedCode c.place c.rest.length none c.advance
    let after := close.advance
    match code? with
    | none => after.refuseFrom c.place .emptyCode
    | some code =>
      match charOf? code with
      | some char => .ok (char, after)
      | none => close.refuseFrom (c.place + 1) .badCode
  else
    let (code, after) ← fixedCode count 0 c
    match charOf? code with
    | some char => .ok (char, after)
    | none => after.refuseFrom c.place .badCode

/-- Behind blanks, whether blanks are skipped or not. -/
def passAll : Nat → Cursor → Cursor
  | 0, c => c
  | fuel + 1, c => if c.char?.any isBlank then passAll fuel c.advance else c

def readDigits : Nat → List Char → Cursor → List Char × Cursor
  | 0, digits, c => (digits, c)
  | fuel + 1, digits, c =>
    match c.char? with
    | some d => if d.isDigit then readDigits fuel (digits ++ [d]) c.advance else (digits, c)
    | none => (digits, c)

/-- Reads a count, with blanks around it. Where there is none the fault is not reported at once, so
the cursor is there in any case. -/
def readCount (c : Cursor) : Except Fault Nat × Cursor :=
  let fuel := c.rest.length
  let start := { c with skipsBlanks := false }
  let start := { passAll fuel start with skipsBlanks := c.skipsBlanks }
  let (digits, stop) := readDigits fuel [] start
  let value := digits.foldl (fun n d ↦ n * 10 + (d.toNat - 48)) 0
  let count :=
    if digits.isEmpty then stop.refuseFrom start.place .emptyCount
    else if value < 0x100000000 then .ok value
    else stop.refuseFrom start.place .largeCount
  (count, passAll fuel stop)

end Pattern

end ChipEight
