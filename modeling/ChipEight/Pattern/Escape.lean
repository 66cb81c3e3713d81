import ChipEight.Pattern.Cursor

/-!
# Escapes in patterns

Behind a backslash a character that has a meaning in patterns stands for itself, and some letters
get a meaning: control characters, code points, classes of characters, and boundaries. Letters and
digits without a meaning are refused, so that they may get one.
-/

namespace ChipEight

namespace Pattern

/-- What a pattern or a set is made of. -/
inductive Atom where
  /-- A character. -/
  | literal (l : Literal)
  /-- Any character. -/
  | dot (span : Span)
  /-- A condition on a place; `word` if it is about words. -/
  | boundary (span : Span) (word : Bool)
  | property (span : Span)
  /-- A digit, a blank or a word character, or none of these. -/
  | shorthand (span : Span) (negated : Bool)

namespace Atom

def span : Atom → Span
  | .literal l => l.span
  | .dot s | .boundary s _ | .property s | .shorthand s _ => s

def toPattern : Atom → Pattern
  | .literal l => .literal l
  | .dot s => .dot s
  | .boundary s word => .boundary s word
  | .property s => .property s
  | .shorthand s negated => .shorthand s negated

/-- An atom as a member of a set. -/
def toSet : Atom → Except Fault CharSet
  | .literal l => .ok (.literal l)
  | .property s => .ok (.property s)
  | .shorthand s negated => .ok (.shorthand s negated)
  | .dot s | .boundary s _ => .error ⟨.noMember, [s]⟩

/-- An atom as an end of a range. -/
def toLiteral : Atom → Except Fault Literal
  | .literal l => .ok l
  | a => .error ⟨.rangeEnd, [a.span]⟩

end Atom

/-- Whether a character has a meaning in patterns and stands for itself behind a backslash. -/
def isMeta (c : Char) : Bool := "\\.+*?()|[]\x7b\x7d^$#&-~".toList.contains c

/-- Whether a character may stand for itself behind a backslash although it has no meaning. -/
def maybeEscaped (c : Char) : Bool :=
  c.toNat < 0x80 && !c.isAlphanum && c != '<' && c != '>'

/-- The control character that a letter stands for behind a backslash. -/
def controlOf? : Char → Option Char
  | 'a' => some '\x07'
  | 'f' => some '\x0C'
  | 't' => some '\t'
  | 'n' => some '\n'
  | 'r' => some '\r'
  | 'v' => some '\x0B'
  | _ => none

/-- How many digits a code point has behind a letter, if it is not in braces. -/
def codeDigits? : Char → Option Nat
  | 'x' => some 2
  | 'u' => some 4
  | 'U' => some 8
  | _ => none

/-- Reads a code point behind its letter. The backslash stands at `start`. -/
def readCodePoint (start count : Nat) (c : Cursor) : Except Fault (Atom × Cursor) := do
  let c := c.advance
  let (char, after) ← readCode count c
  let isByte := count == 2 && c.char? != some '\x7b'
  return (.literal ⟨⟨start, after.place⟩, char, isByte⟩, after)

def toBrace : Nat → Cursor → Cursor
  | 0, c => c
  | fuel + 1, c =>
    if c.atEnd || c.char? == some '\x7d' then c else toBrace fuel c.advance

/-- Reads a property behind its letter: a single letter, or a name in braces. -/
def readProperty (start : Nat) (c : Cursor) : Except Fault (Atom × Cursor) :=
  let c := c.advance
  match c.char? with
  | none => c.refuse .openEscape
  | some '\x7b' =>
    let close := toBrace c.rest.length c.advance
    if close.atEnd then close.refuse .openEscape
    else .ok (.property ⟨start, close.next.place⟩, close.next)
  | some '\\' => c.refuseChar .badProperty
  | some _ => .ok (.property ⟨start, c.advance.place⟩, c.advance)

def readKind : Nat → List Char → Cursor → List Char × Cursor
  | 0, word, c => (word, c)
  | fuel + 1, word, c =>
    match c.char? with
    | some d => if d.isAlpha || d == '-' then readKind fuel (word ++ [d]) c.advance else (word, c)
    | none => (word, c)

def boundaryKinds : List String := ["start", "end", "start-half", "end-half"]

/-- Reads the kind of a word boundary in braces, if there is one. Braces with anything else in them
are left to be read as a count. -/
def readBoundary (start : Nat) (c : Cursor) : Except Fault (Atom × Cursor) :=
  let plain : Except Fault (Atom × Cursor) := .ok (.boundary ⟨start, c.place⟩ true, c)
  if c.char? = some '\x7b' then
    let inner := c.advance
    match inner.char? with
    | none => inner.refuseFrom start .boundaryCut
    | some d =>
      if d.isAlpha || d == '-' then
        let (kind, close) := readKind inner.rest.length [] inner
        if close.char? = some '\x7d' then
          if boundaryKinds.contains (String.ofList kind) then
            .ok (.boundary ⟨start, close.next.place⟩ true, close.next)
          else close.refuseFrom inner.place .unknownBoundary
        else close.refuseFrom c.place .openBoundary
      else plain
  else plain

def readEscape (c : Cursor) : Except Fault (Atom × Cursor) :=
  let start := c.place
  let c := c.next
  match c.char? with
  | none => c.refuseFrom start .openEscape
  | some d =>
    let after := c.next
    let span : Span := ⟨start, after.place⟩
    if d.isDigit then .error ⟨.reference, [span]⟩
    else if let some count := codeDigits? d then readCodePoint start count c
    else if d == 'p' || d == 'P' then readProperty start c
    else if "dsw".toList.contains d then .ok (.shorthand span false, after)
    else if "DSW".toList.contains d then .ok (.shorthand span true, after)
    else if isMeta d || maybeEscaped d then .ok (.literal ⟨span, d, false⟩, after)
    else if let some control := controlOf? d then .ok (.literal ⟨span, control, false⟩, after)
    else if d == 'A' || d == 'z' then .ok (.boundary span false, after)
    else if d == 'b' then readBoundary start after
    else if "B<>".toList.contains d then .ok (.boundary span true, after)
    else .error ⟨.unknownEscape, [span]⟩

end Pattern

end ChipEight
