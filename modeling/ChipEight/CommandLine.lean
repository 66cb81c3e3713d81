import ChipEight.Text.Classes
import ChipEight.Text.Visible

/-!
# Command lines

A command line is a list of words. Words that begin with `-` name options, the others are operands
and fill the slots of the command in order; after the word `--` every word is an operand.

A value is not read where it stands but when the next operand or option begins, or at the end of the
line. The order is visible when a line has two faults: a word with no place on the line is reported
at once, ahead of a value still waiting to be read. So the scan carries one *pending* value, and
`Progress.settle` is the only place that reads it.

A command is complete when its settings, as collected, make up a result. There is no separate list
of required operands: the labels reported as missing are those of the slots left empty.
-/

namespace ChipEight

/-- Why a command line is refused. -/
inductive UsageFault where
  /-- No command has this name. -/
  | unknownCommand (word : String)
  /-- The word has no place on the line. -/
  | unexpected (word : String)
  /-- The operands with these labels are not given. -/
  | missing (labels : List String)
  /-- The value given for a label cannot be read. -/
  | invalidValue (value label reason : String)
  /-- Nothing is given where the label needs a value. -/
  | valueRequired (label : String)
  /-- An option is given twice. -/
  | repeated (label : String)
  /-- A value is given to an option that takes none. -/
  | excessValue (value label : String)
  /-- Not a mistake: help is asked for. -/
  | help
  /-- No command is given, which is answered with help. -/
  | helpWanted
  deriving DecidableEq, Repr

namespace UsageFault

/-- A text in the style `code` of a terminal. -/
def styled (code text : String) : String := "\x1B[" ++ code ++ "m" ++ text ++ "\x1B[0m"

/-- A word of the user, in yellow. -/
def highlighted (word : String) : String := styled "33" word

/-- The last paragraph of a report. -/
def advice : String := "\n\nFor more information, try '" ++ styled "1" "--help" ++ "'.\n"

/-- What is said first about a fault, as it is sent to a terminal. A word of the user is styled, and
so a sequence that the word leaves open ends behind it; a reason is not.

The paragraphs between this one and the `advice` are left out: tips, such as names that are spelt
like the word, and the usage of the command. Help pages are left out as a whole, and `<help>` stands
for them. -/
def text : UsageFault → String
  | .unknownCommand word => "error: unrecognized subcommand '" ++ highlighted word ++ "'"
  | .unexpected word => "error: unexpected argument '" ++ highlighted word ++ "' found"
  | .missing labels =>
    "error: the following required arguments were not provided:" ++
      String.join (labels.map fun label ↦ "\n  " ++ label)
  | .invalidValue value label reason =>
    "error: invalid value '" ++ highlighted value ++ "' for '" ++ label ++ "': " ++ reason
  | .valueRequired label => "error: a value is required for '" ++ label ++ "' but none was supplied"
  | .repeated label => "error: the argument '" ++ label ++ "' cannot be used multiple times"
  | .excessValue value label =>
    "error: unexpected value '" ++ highlighted value ++ "' for '" ++ label ++
      "' found; no more were expected"
  | .help | .helpWanted => "<help>"

/-- The characters up to the first empty line. -/
def firstParagraph : List Char → List Char
  | '\n' :: '\n' :: _ => []
  | c :: cs => c :: firstParagraph cs
  | [] => []

/-- The fault in words, up to the first empty line, which may come from a word of the user. This is
all that a console of this library shows of a refused line: a full report would go on with tips, the
usage and the advice, and an answer to a request for help would be the page itself. -/
def message (f : UsageFault) : String :=
  String.ofList (trimEnd (firstParagraph (visible (f.text ++ advice).toList)))

end UsageFault

namespace CommandLine

/-! ## Words -/

/-- What a word looks like. -/
inductive Shape where
  /-- The word `--`. -/
  | separator
  /-- A long option, with the value attached to it by `=`. -/
  | long (name : String) (value : Option String)
  /-- Short options; `letter` is the first of them. -/
  | short (letter : Char)
  /-- Anything else, among it a single `-`. -/
  | plain
  deriving DecidableEq, Repr

/-- The shape of a long option, from what follows its `--`. -/
def Shape.ofLong (body : List Char) : Shape :=
  let name := String.ofList (body.takeWhile (· != '='))
  match body.dropWhile (· != '=') with
  | [] => .long name none
  | _ :: value => .long name (some (String.ofList value))

def Shape.ofWord (word : String) : Shape :=
  match word.toList with
  | ['-', '-'] => .separator
  | '-' :: '-' :: body => .ofLong body
  | '-' :: letter :: _ => .short letter
  | _ => .plain

/-! ## Grammars -/

/-- Why a value is not accepted. -/
inductive Refusal where
  /-- It is empty. -/
  | nothing
  /-- It cannot be read. -/
  | because (reason : String)
  deriving DecidableEq, Repr

/-- Reads a value and adds it to the settings. -/
abbrev Reading (σ : Type) : Type := String → σ → Except Refusal σ

/-- A place for an operand. -/
structure Slot (σ : Type) where
  /-- How messages name the operand. -/
  label : String
  /-- Reads the operand. -/
  read : Reading σ

/-- What an option takes. -/
inductive Takes (σ : Type) where
  /-- No value; giving the option changes the settings. -/
  | nothing (set : σ → σ)
  /-- One value. -/
  | value (read : Reading σ)

/-- A long option. -/
structure Switch (σ : Type) where
  /-- The name, without the `--`. -/
  name : String
  /-- How messages name the option. -/
  label : String
  /-- What the option takes. -/
  takes : Takes σ

/-- What may follow a command. -/
structure Grammar (σ α : Type) where
  /-- The operands in order. -/
  slots : List (Slot σ)
  /-- The options besides `--help` and `-h`. -/
  switches : List (Switch σ)
  /-- The settings before anything is read. -/
  start : σ
  /-- The result, if the settings are complete. -/
  finish : σ → Option α

/-! ## Scanning -/

/-- A value that has been seen but not read. -/
structure Pending (σ : Type) where
  label : String
  /-- Reads it. -/
  read : Reading σ
  /-- The value, or nothing yet behind an option. -/
  word : Option String

/-- What is known in the middle of a line. -/
structure Progress (σ : Type) where
  /-- The settings read so far. -/
  settings : σ
  /-- The labels given so far. -/
  given : List String
  /-- The value to be read next. -/
  pending : Option (Pending σ)
  /-- The slots that are still empty. -/
  slots : List (Slot σ)

variable {σ α : Type}

def readFor (label : String) (read : Reading σ) (word : String) (s : σ) : Except UsageFault σ :=
  match read word s with
  | .ok s => .ok s
  | .error .nothing => .error (.valueRequired label)
  | .error (.because reason) => .error (.invalidValue word label reason)

namespace Progress

/-- Marks a label as given, which may happen once, and changes the settings. -/
def give (p : Progress σ) (label : String) (change : σ → Except UsageFault σ) :
    Except UsageFault (Progress σ) :=
  if p.given.contains label then .error (.repeated label)
  else (change p.settings).map fun s ↦
    { p with settings := s, given := label :: p.given, pending := none }

/-- Reads the pending value. -/
def settle (p : Progress σ) : Except UsageFault (Progress σ) :=
  match p.pending with
  | none => .ok p
  | some ⟨label, _, none⟩ => .error (.valueRequired label)
  | some ⟨label, read, some word⟩ => p.give label (readFor label read word)

/-- Takes a word as the value of the option before it or else as the next operand. The value of an
option may not stand behind the separator. -/
def operand (p : Progress σ) (separated : Bool) (word : String) : Except UsageFault (Progress σ) :=
  match p.pending, separated with
  | some ⟨label, read, none⟩, false => .ok { p with pending := some ⟨label, read, some word⟩ }
  | _, _ =>
    match p.slots with
    | [] => .error (.unexpected word)
    | slot :: slots => p.settle.map fun p ↦
      { p with pending := some ⟨slot.label, slot.read, some word⟩, slots }

/-- Begins an option. -/
def switch (p : Progress σ) (option : Switch σ) (value : Option String) :
    Except UsageFault (Progress σ) :=
  match option.takes, value with
  | .nothing _, some value => .error (.excessValue value option.label)
  | .nothing set, none => do (← p.settle).give option.label fun s ↦ .ok (set s)
  | .value read, some value => do (← p.settle).give option.label (readFor option.label read value)
  | .value read, none => p.settle.map fun p ↦ { p with pending := some ⟨option.label, read, none⟩ }

end Progress

/-- Scans one word that is not behind the separator. -/
def Grammar.word (g : Grammar σ α) (p : Progress σ) (word : String) :
    Except UsageFault (Progress σ) :=
  match Shape.ofWord word with
  | .separator => .ok p
  | .long "help" (some value) => .error (.excessValue value "--help")
  | .long "help" none => do
    let _ ← p.settle
    .error .help
  | .long name value =>
    match g.switches.find? fun option ↦ option.name == name with
    | some option => p.switch option value
    | none => .error (.unexpected ("--" ++ name))
  | .short letter => do
    if letter = 'h' then
      let _ ← p.settle
      .error .help
    else .error (.unexpected (String.ofList ['-', letter]))
  | .plain => p.operand false word

/-- Scans the words of a line; `separated` tells whether the separator has been met. -/
def Grammar.scan (g : Grammar σ α) : Bool → Progress σ → List String →
    Except UsageFault (Progress σ)
  | _, p, [] => p.settle
  | true, p, word :: words => do g.scan true (← p.operand true word) words
  | false, p, word :: words => do
    g.scan (Shape.ofWord word == .separator) (← g.word p word) words

def Grammar.parse (g : Grammar σ α) (words : List String) : Except UsageFault α := do
  let p ← g.scan false ⟨g.start, [], none, g.slots⟩ words
  match g.finish p.settings with
  | some a => .ok a
  | none => .error (.missing (p.slots.map (·.label)))

/-! ## Commands -/

/-- A command or a family of commands. -/
inductive CommandTree (α : Type) where
  /-- A command, which reads the words that follow it. -/
  | leaf (read : List String → Except UsageFault α)
  /-- Commands by their names. A family may or may not answer `--help` and `-h`; it always has the
  command `help`. -/
  | family (answersHelp : Bool) (members : List (List String × CommandTree α))

namespace CommandTree

def ofGrammar (g : Grammar σ α) : CommandTree α := .leaf g.parse

/-- The member with the given name. -/
def member? (members : List (List String × CommandTree α)) (name : String) :
    Option (CommandTree α) :=
  (members.find? fun m ↦ m.1.contains name).map (·.2)

/-- Whether a word is the name of a command. -/
def names (members : List (List String × CommandTree α)) (word : String) : Bool :=
  word == "help" || (member? members word).isSome

/-- Asks for help on the command that is found by following the words. There is nothing below a
command that is no family, nor below `help`. -/
def help : CommandTree α → List String → UsageFault
  | _, [] => .help
  | .leaf _, word :: _ => .unknownCommand word
  | .family _ members, word :: words =>
    match member? members word with
    | some t => t.help words
    | none =>
      if word == "help" then
        match words with
        | [] => .help
        | next :: _ => .unknownCommand next
      else .unknownCommand word

/-- What is wrong with a word that is no command of a family. -/
def refuse (answersHelp : Bool) (members : List (List String × CommandTree α)) (word : String)
    (words : List String) : UsageFault :=
  match Shape.ofWord word with
  | .separator =>
    match words with
    | [] => .helpWanted
    | next :: _ => if names members next then .unexpected next else .unknownCommand next
  | .long name value =>
    match answersHelp && name == "help", value with
    | true, none => .help
    | true, some value => .excessValue value "--help"
    | false, _ => .unexpected ("--" ++ name)
  | .short letter =>
    if answersHelp && letter == 'h' then .help else .unexpected (String.ofList ['-', letter])
  | .plain => .unknownCommand word

/-- Finds the command that the words name and lets it read the rest. -/
def parse : CommandTree α → List String → Except UsageFault α
  | .leaf read, words => read words
  | .family .., [] => .error .helpWanted
  | .family answersHelp members, word :: words =>
    match member? members word with
    | some t => t.parse words
    | none =>
      if word == "help" then .error (help (.family answersHelp members) words)
      else .error (refuse answersHelp members word words)

end CommandTree

end CommandLine

end ChipEight
