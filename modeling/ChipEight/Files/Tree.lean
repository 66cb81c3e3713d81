import ChipEight.Files

/-!
# File trees

A tree of folders and files as a value. What is in it is listed by location: the names on the way
from an entry up to the topmost folder, so that the folder of an entry is the tail of its location.

A path is followed part by part, and every part needs a folder to be followed from. For this reason
a file cannot be read under a path that ends with a slash, and a path that ends with a slash never
creates a file.
-/

namespace ChipEight

/-- Where an entry is: its name, the name of its folder and so on. -/
abbrev Location := List String

/-- What can be in a folder. -/
inductive Entry where
  | file (bytes : ByteArray)
  | folder

/-- The entries of a tree, the latest first. The topmost folder and the one that paths start from
are always there and are not listed. -/
structure FileTree where
  entries : List (Location × Entry)

namespace FileTree

/-- The folder that paths start from. -/
def start : Location := ["work"]

def empty : FileTree := ⟨[]⟩

def maxName : Nat := 255

def maxPath : Nat := 4095

def lookup? (t : FileTree) (place : Location) : Option Entry :=
  if place = [] ∨ place = start then some .folder
  else (t.entries.find? fun e ↦ e.1 == place).map (·.2)

/-- The entry at a location, which must be there. -/
def lookup (t : FileTree) (place : Location) : Except FileFault Entry :=
  match t.lookup? place with
  | some e => .ok e
  | none => .error .notFound

/-- Refuses a name that is too long. -/
def checkName (name : String) : Except FileFault Unit :=
  if name.utf8ByteSize ≤ maxName then .ok () else .error .nameTooLong

/-- Refuses a path that no file can have. -/
def checkPath (path : String) : Except FileFault Unit :=
  if path.toList.contains '\x00' then .error .nullInPath
  else if path = "" then .error .notFound
  else if path.utf8ByteSize ≤ maxPath then .ok () else .error .nameTooLong

def follow (t : FileTree) (place : Location) (part : Path.Part) : Except FileFault Location := do
  match ← t.lookup place with
  | .file _ => .error .notFolder
  | .folder =>
    match part with
    | .stay => .ok place
    | .up => .ok place.tail
    | .down name =>
      checkName name
      let _ ← t.lookup (name :: place)
      return name :: place

/-- Follows the parts of a path. -/
def walk (t : FileTree) (path : String) (parts : List Path.Part) : Except FileFault Location :=
  parts.foldlM t.follow (if Path.isAbsolute path then [] else start)

def read (t : FileTree) (path : String) : Except FileFault ByteArray := do
  checkPath path
  match ← t.lookup (← t.walk path (Path.parts path)) with
  | .file bytes => return bytes
  | .folder => .error .isFolder

def put (t : FileTree) (place : Location) (e : Entry) : FileTree := ⟨(place, e) :: t.entries⟩

/-- The parts of a path up to the slashes at its end. -/
def essential (path : String) : List Path.Part :=
  Path.parts (String.ofList (path.toList.reverse.dropWhile (· == '/')).reverse)

/-- The location of the file that a path creates or replaces. A path that ends with a name is
followed up to the name only; any other leads to a folder, if it leads anywhere. -/
def target (t : FileTree) (path : String) : Except FileFault Location := do
  checkPath path
  let parts := essential path
  match parts.getLast? with
  | some (.down name) =>
    let folder ← t.walk path parts.dropLast
    match ← t.lookup folder with
    | .file _ => .error .notFolder
    | .folder =>
      if Path.endsWithSlash path then .error .isFolder
      else
        checkName name
        match t.lookup? (name :: folder) with
        | some .folder => .error .isFolder
        | _ => return name :: folder
  | _ =>
    let _ ← t.walk path parts
    .error .isFolder

/-- Creates a file or replaces what is in it. -/
def write (t : FileTree) (path : String) (bytes : ByteArray) : Except FileFault FileTree :=
  (t.target path).map fun place ↦ t.put place (.file bytes)

/-- Creates the folders on the way of a path as far as they are not there. -/
def makeFolders (t : FileTree) (path : String) : FileTree :=
  let start := if Path.isAbsolute path then [] else start
  let step (s : FileTree × Location) (part : Path.Part) : FileTree × Location :=
    match part with
    | .stay => s
    | .up => (s.1, s.2.tail)
    | .down name =>
      match s.1.lookup? (name :: s.2) with
      | some _ => (s.1, name :: s.2)
      | none => (s.1.put (name :: s.2) .folder, name :: s.2)
  ((Path.parts path).foldl step (t, start)).1

instance : MonadFiles (StateM FileTree) where
  read path := fun t ↦ (t.read path, t)
  write path bytes := fun t ↦
    match t.write path bytes with
    | .ok t' => (.ok (), t')
    | .error f => (.error f, t)

end FileTree

end ChipEight
