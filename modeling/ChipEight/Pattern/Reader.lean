import ChipEight.Pattern.Escape

/-!
# Reading patterns

A pattern is read from left to right, and the first thing that is wrong is reported. What is left
open is noticed at the end of the pattern, and the innermost open group or set is blamed.

Fuel is the number of characters and one more: every turn of a loop, and every descent into a group
or a set, takes at least one character.
-/

namespace ChipEight

namespace Pattern

/-! ## Sets -/

def classNames : List String :=
  ["alnum", "alpha", "ascii", "blank", "cntrl", "digit", "graph", "lower", "print", "punct",
   "space", "upper", "word", "xdigit"]

/-- Reads a class by name, which stands in a pair of brackets and colons. Anything else is left to
be read as a set. -/
def readClass? (c : Cursor) : Option (CharSet × Cursor) := do
  let opened ← c.pass? ['[', ':']
  let named := (opened.pass? ['^']).getD opened
  let name := named.rest.takeWhile (· != ':')
  let closed ← named.pass? (name ++ [':', ']'])
  if classNames.contains (String.ofList name) then
    some (.named ⟨c.place, closed.place⟩ (opened.char? == some '^'), closed)
  else none

/-- Reads a character, a class or a property. -/
def readMember (c : Cursor) : Except Fault (Atom × Cursor) :=
  match c.char? with
  | none => c.refuse .openSet
  | some '\\' => readEscape c
  | some d => .ok (.literal ⟨⟨c.place, c.place + 1⟩, d, false⟩, c.next)

/-- Reads a member of a set or a range of members. The bracket of the set is `opened`. -/
def readRange (opened : Span) (c : Cursor) : Except Fault (CharSet × Cursor) := do
  let (first, c) ← readMember c
  let c := c.skip
  if c.atEnd then .error ⟨.openSet, [opened]⟩
  else if c.char? != some '-' || c.second? == some ']' || c.second? == some '-' then
    return (← first.toSet, c)
  else
    let c := c.advance
    if c.atEnd then .error ⟨.openSet, [opened]⟩
    else
      let (last, c) ← readMember c
      let span : Span := ⟨first.span.start, last.span.stop⟩
      let first ← first.toLiteral
      let last ← last.toLiteral
      if first.char ≤ last.char then return (.range span first last, c)
      else .error ⟨.rangeOrder, [span]⟩

/-- A set in the middle of reading it. -/
structure OpenSet where
  /-- The bracket with what follows it at once. -/
  opened : Span
  /-- Whether the complement is meant. -/
  negated : Bool
  /-- The combination begun, with its left side. -/
  left : Option (SetOperation × CharSet)
  /-- Where the members begin. -/
  place : Nat
  /-- The members behind the last sign of a combination, in order. -/
  items : List CharSet

namespace OpenSet

/-- What has been read, as one set. -/
def body (s : OpenSet) : CharSet :=
  let right := CharSet.ofItems s.place s.items
  match s.left with
  | none => right
  | some (op, left) => .operation ⟨left.span.start, right.span.stop⟩ op left right

def add (s : OpenSet) (item : CharSet) : OpenSet := { s with items := s.items ++ [item] }

/-- Begins a combination behind what has been read. -/
def combine (s : OpenSet) (op : SetOperation) (place : Nat) : OpenSet :=
  { s with left := some (op, s.body), place, items := [] }

end OpenSet

/-- The sign of a combination, if it stands here. -/
def readOperation? (c : Cursor) : Option (SetOperation × Cursor) :=
  ((c.pass? ['&', '&']).map ((SetOperation.intersection, ·))).or <|
    ((c.pass? ['-', '-']).map ((SetOperation.difference, ·))).or <|
      (c.pass? ['~', '~']).map ((SetOperation.symmetricDifference, ·))

/-- Reads hyphens at the beginning of a set, which stand for themselves. -/
def readHyphens (start : Nat) : Nat → List CharSet → Cursor → Except Fault (List CharSet × Cursor)
  | 0, items, c => .ok (items, c)
  | fuel + 1, items, c =>
    if c.char? = some '-' then
      let items := items ++ [.literal ⟨⟨c.place, c.place + 1⟩, '-', false⟩]
      if c.advance.atEnd then refuse .openSet start start
      else readHyphens start fuel items c.advance
    else .ok (items, c)

/-- Reads the beginning of a set. A closing bracket there stands for itself. -/
def openSet (c : Cursor) : Except Fault (OpenSet × Cursor) := do
  let start := c.place
  let c := c.advance
  if c.atEnd then c.refuseFrom start .openSet
  else
    let negated := c.char? == some '^'
    let c := if negated then c.advance else c
    if c.atEnd then c.refuseFrom start .openSet
    else
      let place := c.place
      let (items, c) ← readHyphens start c.rest.length [] c
      if items.isEmpty && c.char? == some ']' then
        let items := [CharSet.literal ⟨⟨c.place, c.place + 1⟩, ']', false⟩]
        let c := c.advance
        if c.atEnd then c.refuseFrom start .openSet
        else return (⟨⟨start, c.place⟩, negated, none, place, items⟩, c)
      else return (⟨⟨start, c.place⟩, negated, none, place, items⟩, c)

/-- Reads the rest of a set, with its closing bracket. -/
def readSet : Nat → OpenSet → Cursor → Except Fault (Span × CharSet × Cursor)
  | 0, s, _ => .error ⟨.openSet, [s.opened]⟩
  | fuel + 1, s, c => do
    let c := c.skip
    match c.char? with
    | none => .error ⟨.openSet, [s.opened]⟩
    | some ']' => return (⟨s.opened.start, c.next.place⟩, s.body, c.next)
    | some '[' =>
      match readClass? c with
      | some (item, c) => readSet fuel (s.add item) c
      | none =>
        let (inner, c) ← openSet c
        let (span, body, c) ← readSet fuel inner c
        readSet fuel (s.add (.bracketed span inner.negated body)) c
    | some _ =>
      match readOperation? c with
      | some (op, c) => readSet fuel (s.combine op c.place) c
      | none =>
        let (item, c) ← readRange s.opened c
        readSet fuel (s.add item) c

/-! ## Groups -/

/-- Flags as they are written: letters, and the sign that turns off what follows it. -/
structure FlagSign where
  /-- Where it stands. -/
  span : Span
  /-- The flag, or nothing for the sign. -/
  flag : Option Flag
  deriving DecidableEq

def changesOf (signs : List FlagSign) : FlagChanges :=
  (signs.foldl (fun s sign ↦
    match sign.flag with
    | none => (s.1, false)
    | some flag => (s.1 ++ [(flag, s.2)], s.2)) (([], true) : FlagChanges × Bool)).1

/-- Reads flags up to a closing parenthesis or a colon, which is left. -/
def readFlags : Nat → List FlagSign → Cursor → Except Fault (List FlagSign × Cursor)
  | 0, _, c => c.refuse .openFlags
  | fuel + 1, signs, c =>
    match c.char? with
    | none => c.refuse .openFlags
    | some d =>
      if d == ':' || d == ')' then
        match signs.getLast? with
        | some ⟨span, none⟩ => .error ⟨.danglingSign, [span]⟩
        | _ => .ok (signs, c)
      else
        let flag := Flag.ofChar? d
        if flag.isNone && d != '-' then c.refuseChar .unknownFlag
        else
          let span : Span := ⟨c.place, c.place + 1⟩
          match signs.find? fun sign ↦ sign.flag == flag with
          | some earlier =>
            let reason := if flag.isNone then .repeatedSign else .repeatedFlag
            .error ⟨reason, [earlier.span, span]⟩
          | none => readFlags fuel (signs ++ [⟨span, flag⟩]) c.next

def isNameChar (first : Bool) (c : Char) : Bool :=
  if first then c == '_' || isLetter c else "_.[]".toList.contains c || isLetterOrNumeral c

/-- Reads the name of a group, with the bracket behind it. -/
def readName : Nat → List Char → Cursor → Except Fault (List Char × Cursor)
  | 0, _, c => c.refuse .openName
  | fuel + 1, name, c =>
    match c.char? with
    | none => c.refuse .openName
    | some '>' => .ok (name, c.next)
    | some d =>
      if isNameChar name.isEmpty d then readName fuel (name ++ [d]) c.next
      else c.refuseChar .badName

/-- Reads the name of a group and adds it to the names. -/
def nameGroup (c : Cursor) : Except Fault Cursor := do
  let (name, after) ← readName (c.rest.length + 1) [] c
  let span : Span := ⟨c.place, after.place - 1⟩
  if name.isEmpty then c.refuse .emptyName
  else
    match after.names.find? fun n ↦ n.1 == name with
    | some earlier => .error ⟨.repeatedName, [earlier.2, span]⟩
    | none => return { after with names := (name, span) :: after.names }

/-- The beginning of a group. -/
inductive Opening where
  /-- Flags that stand alone. -/
  | flags (span : Span) (changes : FlagChanges)
  | group (changes : FlagChanges)

/-- Behind a look-around, if one stands here. -/
def passLookAround? (c : Cursor) : Option Cursor :=
  ["?=", "?!", "?<=", "?<!"].findSome? fun word ↦ c.pass? word.toList

/-- Reads the beginning of a group. Without flags, the parentheses around flags hold a repetition
that has nothing to repeat. -/
def readOpening (c : Cursor) : Except Fault (Opening × Cursor) := do
  let opened := c.place
  let c := c.advance
  if let some after := passLookAround? c then after.refuseFrom opened .lookAround
  else if let some after := (c.pass? "?P<".toList).or (c.pass? "?<".toList) then
    return (.group [], ← nameGroup after)
  else if let some after := c.pass? ['?'] then
    if after.atEnd then refuse .openGroup opened (opened + 1)
    else
      let (signs, stop) ← readFlags (after.rest.length + 1) [] after
      if stop.char? = some ')' then
        if signs.isEmpty then c.refuse .nothingRepeated
        else return (.flags ⟨opened, stop.next.place⟩ (changesOf signs), stop.next)
      else return (.group (changesOf signs), stop.next)
  else return (.group [], c)

/-! ## Patterns -/

/-- A pattern in the middle of reading it. -/
structure OpenPattern where
  /-- Where the pattern begins. -/
  start : Nat
  /-- The branches read, in order. -/
  branches : List Pattern
  /-- Where the present branch begins. -/
  place : Nat
  /-- The parts of the present branch, in order. -/
  parts : List Pattern

namespace OpenPattern

/-- A pattern of which nothing has been read. -/
def ofPlace (place : Nat) : OpenPattern := ⟨place, [], place, []⟩

def allBranches (p : OpenPattern) (stop : Nat) : List Pattern :=
  p.branches ++ [ofParts ⟨p.place, stop⟩ p.parts]

/-- What has been read, as one pattern. -/
def close (p : OpenPattern) (stop : Nat) : Pattern :=
  match p.allBranches stop with
  | [branch] => branch
  | branches => .alternation ⟨p.start, stop⟩ branches

def branch (p : OpenPattern) (stop : Nat) : OpenPattern :=
  ⟨p.start, p.allBranches stop, stop + 1, []⟩

def add (p : OpenPattern) (part : Pattern) : OpenPattern := { p with parts := p.parts ++ [part] }

/-- What a repetition repeats, and what is before it. A change of flags cannot be repeated. -/
def operand (p : OpenPattern) (c : Cursor) : Except Fault (OpenPattern × Pattern) :=
  match p.parts.getLast? with
  | none | some (.empty _) | some (.flags ..) => c.refuse .nothingRepeated
  | some part => .ok ({ p with parts := p.parts.dropLast }, part)

end OpenPattern

/-- Behind the sign that makes a repetition prefer few turns, if it stands here. -/
def passFew (c : Cursor) : Cursor := if c.char? = some '?' then c.next else c

/-- Reads a repetition in braces, from the opening brace on, and says whether its counts are in
order. -/
def readCounts (c : Cursor) : Except Fault (Bool × Cursor) := do
  let start := c.place
  let c := c.advance
  if c.atEnd then c.refuseFrom start .openCount
  else
    let (least, c) := readCount c
    if c.atEnd then c.refuseFrom start .openCount
    else if c.char? = some ',' then
      let c := c.advance
      if c.atEnd then c.refuseFrom start .openCount
      else
        let least ← least
        if c.char? = some '\x7d' then return (true, c)
        else
          let (most, c) := readCount c
          let most ← most
          if c.char? = some '\x7d' then return (least ≤ most, c)
          else c.refuseFrom start .openCount
    else
      let _ ← least
      if c.char? = some '\x7d' then return (true, c) else c.refuseFrom start .openCount

/-- Reads a repetition, from its sign on. -/
def readRepetition (sign : Char) (c : Cursor) : Except Fault Cursor :=
  if sign = '\x7b' then do
    let (inOrder, close) ← readCounts c
    let after := passFew close.advance
    if inOrder then return after else after.refuseFrom c.place .countOrder
  else .ok (passFew c.next)

/-- Reads a part that is neither a group nor a set nor a repetition. -/
def readAtom (d : Char) (c : Cursor) : Except Fault (Atom × Cursor) :=
  let span : Span := ⟨c.place, c.place + 1⟩
  match d with
  | '\\' => readEscape c
  | '.' => .ok (.dot span, c.next)
  | '^' | '$' => .ok (.boundary span false, c.next)
  | _ => .ok (.literal ⟨span, d, false⟩, c.next)

/-- Reads a pattern up to the end or to a closing parenthesis, which is left. -/
def readBody : Nat → OpenPattern → Cursor → Except Fault (Pattern × Cursor)
  | 0, p, c => .ok (p.close c.place, c)
  | fuel + 1, p, c => do
    let c := c.skip
    match c.char? with
    | none | some ')' => return (p.close c.place, c)
    | some '|' => readBody fuel (p.branch c.place) c.next
    | some '(' =>
      let opened := c.place
      let skips := c.skipsBlanks
      match ← readOpening c with
      | (.flags span changes, c) =>
        let skipsBlanks := (changes.state? .skipBlanks).getD skips
        readBody fuel (p.add (.flags span changes)) { c with skipsBlanks }
      | (.group changes, c) =>
        let skipsBlanks := (changes.state? .skipBlanks).getD skips
        let (body, c) ← readBody fuel (.ofPlace c.place) { c with skipsBlanks }
        if c.atEnd then refuse .openGroup opened (opened + 1)
        else
          let c := { c.next with skipsBlanks := skips }
          readBody fuel (p.add (.group ⟨opened, c.place⟩ changes body)) c
    | some '[' =>
      let (s, c) ← openSet c
      let (span, body, c) ← readSet fuel s c
      readBody fuel (p.add (.set span s.negated body)) c
    | some d =>
      if "?*+\x7b".toList.contains d then
        let (p, part) ← p.operand c
        let after ← readRepetition d c
        readBody fuel (p.add (.repetition ⟨part.span.start, after.place⟩ part)) after
      else
        let (atom, c) ← readAtom d c
        readBody fuel (p.add atom.toPattern) c

/-- Reads a whole pattern. -/
def ofChars (cs : List Char) : Except Fault Pattern := do
  let (p, c) ← readBody (cs.length + 1) (.ofPlace 0) (.ofPattern cs)
  if c.atEnd then return p else c.refuseChar .strayEnd

end Pattern

end ChipEight
