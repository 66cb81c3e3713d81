import ChipEight.Pattern.Reader

/-!
# Checking patterns

A pattern that can be read may still ask for something that there is not. Characters have no
properties, classes and cases beyond ASCII here, and a pattern on bytes must not match what is no
text. Whether it may is seen at each part: a set of bytes that stays within ASCII has a complement
that does not.

Where case is ignored, a set of characters is refused unless no case is needed to tell what is in
it, which is so if it holds nothing or everything.
-/

namespace ChipEight

namespace Pattern

/-- How much a set holds. -/
inductive Extent where
  /-- No character. -/
  | nothing
  /-- Every character. -/
  | everything
  /-- Characters that are not known in detail. -/
  | something
  deriving DecidableEq, Repr

namespace Extent

def complement : Extent → Extent
  | .nothing => .everything
  | .everything => .nothing
  | .something => .something

def union : Extent → Extent → Extent
  | .nothing, e | e, .nothing => e
  | .everything, .everything => .everything
  | _, _ => .something

/-- What a combination of two sets holds. -/
def combine : SetOperation → Extent → Extent → Extent
  | .intersection, .nothing, _ | .intersection, _, .nothing => .nothing
  | .intersection, .everything, e | .intersection, e, .everything => e
  | .difference, .nothing, _ | .difference, _, .everything => .nothing
  | .difference, e, .nothing => e
  | .symmetricDifference, .nothing, e | .symmetricDifference, e, .nothing => e
  | .symmetricDifference, .everything, .everything => .nothing
  | _, _, _ => .something

end Extent

/-- What the flags in force say. -/
structure Settings where
  /-- Whether case does not count. -/
  ignoresCase : Bool
  /-- Whether the pattern is about characters and not about bytes. -/
  onCharacters : Bool
  deriving DecidableEq, Repr

namespace Settings

def start : Settings := ⟨false, true⟩

/-- The settings behind a change of flags. -/
def change (s : Settings) (changes : FlagChanges) : Settings where
  ignoresCase := (changes.state? .ignoreCase).getD s.ignoresCase
  onCharacters := (changes.state? .characters).getD s.onCharacters

/-- Whether a set has to be known by the cases of its characters. -/
def needsCases (s : Settings) (e : Extent) : Bool :=
  s.ignoresCase && s.onCharacters && e == .something

/-- Refuses a set whose cases are not known. -/
def checkCases (s : Settings) (e : Extent) (span : Span) : Except Fault Unit :=
  if s.needsCases e then .error ⟨.unknownCase, [span]⟩ else .ok ()

/-- Refuses the complement of a set of bytes. -/
def checkComplement (s : Settings) (negated : Bool) (span : Span) : Except Fault Unit :=
  if negated && !s.onCharacters then .error ⟨.noText, [span]⟩ else .ok ()

/-- Refuses a byte that is no character, in a pattern on bytes. -/
def checkByte (s : Settings) (l : Literal) : Except Fault Unit :=
  if !s.onCharacters && l.isByte && 0x80 ≤ l.char.toNat then .error ⟨.noText, [l.span]⟩ else .ok ()

/-- Refuses a member of a set that is no byte, in a pattern on bytes. -/
def checkMember (s : Settings) (l : Literal) : Except Fault Unit := do
  s.checkByte l
  if !s.onCharacters && 0x80 ≤ l.char.toNat then .error ⟨.beyondBytes, [l.span]⟩ else .ok ()

/-- Refuses a property: none is known, and none belongs into a pattern on bytes. -/
def checkProperty (s : Settings) (span : Span) : Except Fault Unit :=
  .error ⟨if s.onCharacters then .unknownProperty else .beyondBytes, [span]⟩

/-- Refuses a class of characters that is not known, or that is no set of characters. -/
def checkShorthand (s : Settings) (negated : Bool) (span : Span) : Except Fault Unit :=
  if s.onCharacters then .error ⟨.unknownClass, [span]⟩ else s.checkComplement negated span

end Settings

/-- What a set in brackets holds, from what stands between them. -/
def closeSet (s : Settings) (span : Span) (negated : Bool) (e : Extent) : Except Fault Extent := do
  s.checkCases e span
  s.checkComplement negated span
  return if negated then e.complement else e

mutual

/-- Checks a set and says what it holds. -/
def CharSet.check (s : Settings) : CharSet → Except Fault Extent
  | .empty _ => .ok .nothing
  | .literal l => do
    s.checkMember l
    return .something
  | .range _ first last => do
    s.checkMember first
    s.checkMember last
    return .something
  | .named span negated => closeSet s span negated .something
  | .property span => do
    s.checkProperty span
    return .something
  | .shorthand span negated => do
    s.checkShorthand negated span
    return .something
  | .bracketed span negated body => do closeSet s span negated (← body.check s)
  | .union _ items => CharSet.checkAll s .nothing items
  | .operation _ op left right => do
    let l ← left.check s
    let r ← right.check s
    s.checkCases r right.span
    s.checkCases l left.span
    return Extent.combine op l r

/-- Checks sets in order and says what they hold together with what has been found before. -/
def CharSet.checkAll (s : Settings) (found : Extent) : List CharSet → Except Fault Extent
  | [] => .ok found
  | item :: items => do CharSet.checkAll s (found.union (← item.check s)) items

end

mutual

/-- Checks a pattern and says what the settings are behind it. -/
def check (s : Settings) : Pattern → Except Fault Settings
  | .empty _ | .boundary .. => .ok s
  | .flags _ changes => .ok (s.change changes)
  | .literal l => do
    s.checkByte l
    s.checkCases .something l.span
    return s
  | .dot span => if s.onCharacters then .ok s else .error ⟨.noText, [span]⟩
  | .property span => do
    s.checkProperty span
    return s
  | .shorthand span negated => do
    s.checkShorthand negated span
    return s
  | .set span negated body => do
    let _ ← closeSet s span negated (← body.check s)
    return s
  | .repetition _ body => body.check s
  | .group _ changes body => do
    let _ ← body.check (s.change changes)
    return s
  | .alternation _ parts | .concatenation _ parts => checkAll s parts

/-- Checks patterns in order and says what the settings are behind them. -/
def checkAll (s : Settings) : List Pattern → Except Fault Settings
  | [] => .ok s
  | part :: parts => do checkAll (← part.check s) parts

end

mutual

/-- What a pattern does to the settings. -/
def after (s : Settings) : Pattern → Settings
  | .flags _ changes => s.change changes
  | .repetition _ body => body.after s
  | .alternation _ parts | .concatenation _ parts => afterAll s parts
  | .empty _ | .boundary .. | .literal _ | .dot _ | .property _ | .shorthand .. | .set ..
  | .group .. => s

def afterAll (s : Settings) : List Pattern → Settings
  | [] => s
  | part :: parts => afterAll (part.after s) parts

end

mutual

/-- Whether a pattern asks where words end, and words are made of characters. -/
def asksForWords (s : Settings) : Pattern → Bool
  | .boundary _ word => word && s.onCharacters
  | .repetition _ body => body.asksForWords s
  | .group _ changes body => body.asksForWords (s.change changes)
  | .alternation _ parts | .concatenation _ parts => anyAsksForWords s parts
  | .empty _ | .flags .. | .literal _ | .dot _ | .property _ | .shorthand .. | .set .. => false

def anyAsksForWords (s : Settings) : List Pattern → Bool
  | [] => false
  | part :: parts => part.asksForWords s || anyAsksForWords (part.after s) parts

end

/-! ## The verdict -/

/-- How deep groups and sets may be nested. -/
def maxDepth : Nat := 250

/-- Why a text cannot be used as a pattern. -/
inductive Rejection where
  /-- The text is no pattern, or asks for something that there is not. -/
  | faulty (text : List Char) (fault : Fault)
  /-- The pattern asks where words of any characters end. -/
  | words
  deriving DecidableEq, Repr

def Rejection.message : Rejection → String
  | .faulty .. => "error building NFA"
  | .words =>
    "unsupported regex feature for DFAs: cannot build DFAs for regexes with Unicode word " ++
      "boundaries; switch to ASCII word boundaries, or heuristically enable Unicode word " ++
      "boundaries or use a different regex engine"

/-- The causes behind the words, the nearest first. -/
def Rejection.causes : Rejection → List String
  | .faulty text fault => ["error parsing regex", fault.report text]
  | .words => []

/-- Reads and checks a pattern, first its form and then its meaning. -/
def checked (text : List Char) : Except Fault Pattern := do
  let p ← ofChars text
  match p.tooDeep? maxDepth with
  | some span => .error ⟨.depth maxDepth, [span]⟩
  | none =>
    let _ ← p.check .start
    return p

/-- Checks that a text can be used as a pattern. -/
def accept (text : List Char) : Except Rejection Unit :=
  match checked text with
  | .error fault => .error (.faulty text fault)
  | .ok p => if p.asksForWords .start then .error .words else .ok ()

end Pattern

end ChipEight
