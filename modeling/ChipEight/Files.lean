/-!
# Files

The debugger saves and restores machines, so it needs files. Whatever has files is a `MonadFiles`:
the file system of the computer, or a `FileTree`, which is a value and about which statements can be
proved. Operations that fail say why; that a file is not text is also found here.
-/

namespace ChipEight

/-- Why a file operation fails. -/
inductive FileFault where
  | notFound
  /-- A folder stands where a file is needed. -/
  | isFolder
  /-- A file stands where a folder is needed. -/
  | notFolder
  /-- A name is longer than names may be. -/
  | nameTooLong
  /-- The path holds a null character. -/
  | nullInPath
  /-- The bytes of the file are no text. -/
  | notText
  /-- Any other reason, in words. -/
  | other (reason : String)
  deriving DecidableEq, Repr

def FileFault.message : FileFault → String
  | .notFound => "No such file or directory (os error 2)"
  | .isFolder => "Is a directory (os error 21)"
  | .notFolder => "Not a directory (os error 20)"
  | .nameTooLong => "File name too long (os error 36)"
  | .nullInPath => "file name contained an unexpected NUL byte"
  | .notText => "stream did not contain valid UTF-8"
  | .other reason => reason

/-- Something that has files. -/
class MonadFiles (m : Type → Type) where
  read : String → m (Except FileFault ByteArray)
  /-- Creates a file or replaces what is in it. -/
  write : String → ByteArray → m (Except FileFault Unit)

namespace MonadFiles

variable {m : Type → Type} [Monad m] [MonadFiles m]

/-- The text that bytes encode. -/
def decodeText (bytes : ByteArray) : Except FileFault String :=
  match String.fromUTF8? bytes with
  | some s => .ok s
  | none => .error .notText

def readText (path : String) : m (Except FileFault String) := do
  return (← read path) >>= decodeText

/-- Creates a file with a text or replaces what is in it. -/
def writeText (path text : String) : m (Except FileFault Unit) := write path text.toUTF8

end MonadFiles

/-!
## Paths

A path is a text whose parts are separated by slashes. An empty part and `.` stay where they are,
`..` leads to the folder above, and every other part is a name, which therefore is never empty and
never holds a slash.
-/

namespace Path

/-- A part of a path. -/
inductive Part where
  /-- Nothing or `.`, which stays where it is. -/
  | stay
  /-- To the folder above. -/
  | up
  /-- To the entry with this name. -/
  | down (name : String)
  deriving DecidableEq, Repr

/-- Cuts characters at slashes. `part` holds the characters of the part being read, in order. -/
def cut (part : List Char) : List Char → List (List Char)
  | [] => [part]
  | c :: cs => if c = '/' then part :: cut [] cs else cut (part ++ [c]) cs

def Part.ofChars : List Char → Part
  | [] => .stay
  | ['.'] => .stay
  | ['.', '.'] => .up
  | cs => .down (String.ofList cs)

def parts (path : String) : List Part := (cut [] path.toList).map Part.ofChars

def isAbsolute (path : String) : Bool := path.toList.head? == some '/'

def endsWithSlash (path : String) : Bool := path.toList.getLast? == some '/'

/-- The name that a path ends with, if it ends with a name. -/
def fileName? (path : String) : Option String :=
  match ((parts path).filter (· != .stay)).getLast? with
  | some (.down name) => some name
  | _ => none

/-- A name without its extension: what stands before the last dot, unless nothing does. -/
def stem (name : String) : String :=
  match name.toList.reverse.dropWhile (· != '.') with
  | [] => name
  | [_] => name
  | _ :: before => String.ofList before.reverse

end Path

end ChipEight
