import ChipEight.Pattern.Fault

/-!
# Patterns

A pattern describes texts: it is a regular expression with groups, sets of characters, repetitions,
and flags that change the meaning of what follows them. Patterns are only checked here and never
matched, so a tree keeps what checking needs: the places of its parts, and the flags.
-/

namespace ChipEight

/-- What a flag changes. -/
inductive Flag where
  /-- Whether case counts. -/
  | ignoreCase
  /-- Whether line ends bound lines. -/
  | lines
  /-- Whether a dot stands for a line end too. -/
  | dotAll
  /-- Whether repetitions prefer few turns. -/
  | few
  /-- Whether the pattern is about characters and not about bytes. -/
  | characters
  /-- Whether a line may end in a carriage return. -/
  | returns
  /-- Whether blanks in the pattern are skipped. -/
  | skipBlanks
  deriving DecidableEq, Repr

def Flag.ofChar? : Char → Option Flag
  | 'i' => some .ignoreCase
  | 'm' => some .lines
  | 's' => some .dotAll
  | 'U' => some .few
  | 'u' => some .characters
  | 'R' => some .returns
  | 'x' => some .skipBlanks
  | _ => none

/-- Flags with whether each is turned on. -/
abbrev FlagChanges := List (Flag × Bool)

/-- What a flag is set to, if it is changed at all. -/
def FlagChanges.state? (changes : FlagChanges) (flag : Flag) : Option Bool :=
  (changes.find? fun change ↦ change.1 == flag).map (·.2)

namespace Pattern

/-- A character of a pattern that stands for itself. -/
structure Literal where
  /-- Where it stands. -/
  span : Span
  char : Char
  /-- Whether it is written as a byte, with two digits. -/
  isByte : Bool
  deriving DecidableEq, Repr

inductive SetOperation where
  /-- What is in both. -/
  | intersection
  /-- What is in the first only. -/
  | difference
  /-- What is in one but not in both. -/
  | symmetricDifference
  deriving DecidableEq, Repr

inductive CharSet where
  /-- The set without members. -/
  | empty (span : Span)
  /-- A single character. -/
  | literal (l : Literal)
  /-- The characters between two, both included. -/
  | range (span : Span) (first last : Literal)
  /-- A class of ASCII characters given by name, or its complement. -/
  | named (span : Span) (negated : Bool)
  /-- The characters with a property. -/
  | property (span : Span)
  /-- Digits, blanks or word characters, or the complement of these. -/
  | shorthand (span : Span) (negated : Bool)
  /-- A set in brackets, or its complement. -/
  | bracketed (span : Span) (negated : Bool) (body : CharSet)
  /-- What is in one of several sets. -/
  | union (span : Span) (items : List CharSet)
  /-- A combination of two sets. -/
  | operation (span : Span) (op : SetOperation) (left right : CharSet)

def CharSet.span : CharSet → Span
  | .literal l => l.span
  | .empty s | .range s _ _ | .named s _ | .property s | .shorthand s _ | .bracketed s _ _
  | .union s _ | .operation s _ _ _ => s

/-- The sets in the order given as one set. If there is none it stands at `place`. -/
def CharSet.ofItems (place : Nat) : List CharSet → CharSet
  | [] => .empty ⟨place, place⟩
  | [item] => item
  | first :: rest => .union ⟨first.span.start, (rest.getLast?.getD first).span.stop⟩ (first :: rest)

end Pattern

inductive Pattern where
  /-- Stands for nothing. -/
  | empty (span : Pattern.Span)
  /-- A change of flags, up to the end of the group around it. -/
  | flags (span : Pattern.Span) (changes : FlagChanges)
  /-- A character that stands for itself. -/
  | literal (l : Pattern.Literal)
  /-- Stands for any character. -/
  | dot (span : Pattern.Span)
  /-- A condition on the place between two characters; `word` if it is about words. -/
  | boundary (span : Pattern.Span) (word : Bool)
  /-- A character with a property. -/
  | property (span : Pattern.Span)
  /-- A digit, a blank or a word character, or none of these. -/
  | shorthand (span : Pattern.Span) (negated : Bool)
  | set (span : Pattern.Span) (negated : Bool) (body : Pattern.CharSet)
  | repetition (span : Pattern.Span) (body : Pattern)
  /-- A group, and the flags that it changes for itself. -/
  | group (span : Pattern.Span) (changes : FlagChanges) (body : Pattern)
  /-- One of several patterns. -/
  | alternation (span : Pattern.Span) (branches : List Pattern)
  /-- Patterns one after the other. -/
  | concatenation (span : Pattern.Span) (parts : List Pattern)

namespace Pattern

def span : Pattern → Span
  | .literal l => l.span
  | .empty s | .flags s _ | .dot s | .boundary s _ | .property s | .shorthand s _ | .set s _ _
  | .repetition s _ | .group s _ _ | .alternation s _ | .concatenation s _ => s

/-- The parts in the order given as one pattern, which stands in `span`. -/
def ofParts (span : Span) : List Pattern → Pattern
  | [] => .empty span
  | [part] => part
  | parts => .concatenation span parts

/-! ## Nesting -/

mutual

/-- The first set that is nested more than `limit` deep. -/
def CharSet.tooDeep? (limit : Nat) : CharSet → Option Span
  | .bracketed s _ body =>
    match limit with
    | 0 => some s
    | limit + 1 => body.tooDeep? limit
  | .union s items =>
    match limit with
    | 0 => some s
    | limit + 1 => CharSet.firstTooDeep? limit items
  | .operation s _ left right =>
    match limit with
    | 0 => some s
    | limit + 1 => (left.tooDeep? limit).or (right.tooDeep? limit)
  | .empty _ | .literal _ | .range .. | .named .. | .property _ | .shorthand .. => none

/-- The first set in a list that is nested more than `limit` deep. -/
def CharSet.firstTooDeep? (limit : Nat) : List CharSet → Option Span
  | [] => none
  | item :: items => (item.tooDeep? limit).or (CharSet.firstTooDeep? limit items)

end

mutual

/-- The first pattern or set that is nested more than `limit` deep. -/
def tooDeep? (limit : Nat) : Pattern → Option Span
  | .set s _ body =>
    match limit with
    | 0 => some s
    | limit + 1 => body.tooDeep? limit
  | .repetition s body | .group s _ body =>
    match limit with
    | 0 => some s
    | limit + 1 => body.tooDeep? limit
  | .alternation s parts | .concatenation s parts =>
    match limit with
    | 0 => some s
    | limit + 1 => firstTooDeep? limit parts
  | .empty _ | .flags .. | .literal _ | .dot _ | .boundary .. | .property _ | .shorthand .. => none

/-- The first in a list that is nested more than `limit` deep. -/
def firstTooDeep? (limit : Nat) : List Pattern → Option Span
  | [] => none
  | part :: parts => (part.tooDeep? limit).or (firstTooDeep? limit parts)

end

end Pattern

end ChipEight
