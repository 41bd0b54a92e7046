/-!
# Trees of files

Files and folders held in memory, with a working directory, and what goes wrong when a path is read or
written. Folders are there for the files below them; a path is walked name by name, so that a name after
one that is missing or no folder is never looked at.
-/

namespace SeriesQuery

/-- Why a file cannot be used, as the system puts it. -/
inductive FileFault where
  /-- The path leads to nothing that can be opened. -/
  | unopened (reason : String)
  /-- What was opened cannot be read. -/
  | unreadable (reason : String)
  deriving DecidableEq, Repr

namespace FileFault

/-- The reason for the fault. -/
def reason : FileFault → String
  | unopened reason => reason
  | unreadable reason => reason

/-- Nothing is there. -/
def missing : FileFault := unopened "No such file or directory (os error 2)"

/-- A name below a file. -/
def notFolder : FileFault := unopened "Not a directory (os error 20)"

/-- A name that no file can have. -/
def longName : FileFault := unopened "File name too long (os error 36)"

/-- Why a folder has no bytes to read or write. -/
def folderReason : String := "Is a directory (os error 21)"

end FileFault

/-- A place in a tree: the names on the way from the root. -/
abbrev Place := List String

/-- What is at a place. -/
inductive Entry where
  | file (bytes : List UInt8)
  | folder
  deriving DecidableEq, Repr

/-- The files of a tree, and the working directory. -/
structure Files where
  directory : Place
  entries : List (Place × List UInt8) := []
  deriving DecidableEq, Repr

namespace Files

/-- The tree has a folder at the place: the root, one on the way to a file, or one on the way to the
working directory. -/
def hasFolder (fs : Files) (place : Place) : Bool :=
  place.isPrefixOf fs.directory || fs.entries.any fun (file, _) => place.isPrefixOf file

/-- What is at the place, if anything. -/
def entry? (fs : Files) (place : Place) : Option Entry :=
  match fs.entries.lookup place with
  | some bytes => some (.file bytes)
  | none => if fs.hasFolder place then some .folder else none

/-- The bytes that a name has at most. -/
def longestName : Nat := 255

/-- The place one name further. -/
def step (fs : Files) (place : Place) (name : String) : Except FileFault Place :=
  match fs.entry? place with
  | none => .error .missing
  | some (.file _) => .error .notFolder
  | some .folder =>
    if name = "" ∨ name = "." then .ok place
    else if name = ".." then .ok place.dropLast
    else if longestName < name.utf8ByteSize then .error .longName
    else .ok (place ++ [name])

/-- The names of a path. An empty name comes from a slash at an end, or from two in a row. -/
def names (path : String) : List String := (path.toList.splitOn '/').map String.ofList

/-- Where a path starts: at the root when its first name is empty. -/
def start (fs : Files) (path : String) : Place :=
  if path.toList.head? = some '/' then [] else fs.directory

/-- The place of a path, where there need not be anything. -/
def place (fs : Files) (path : String) : Except FileFault Place :=
  if path = "" then .error .missing else (names path).foldlM fs.step (fs.start path)

/-- There is something at the path. -/
def has (fs : Files) (path : String) : Bool :=
  match fs.place path with
  | .ok place => (fs.entry? place).isSome
  | .error _ => false

/-- The bytes of the file at the path. -/
def read (fs : Files) (path : String) : Except FileFault (List UInt8) := do
  match fs.entry? (← fs.place path) with
  | none => throw .missing
  | some .folder => throw (.unreadable FileFault.folderReason)
  | some (.file bytes) => return bytes

/-- The names of a path without the slashes at its end. -/
def trimmedNames (path : String) : List String :=
  ((names path).reverse.dropWhile (· = "")).reverse

/-- The tree with the bytes in the file at the path, which need not be there before; its folder does. -/
def write (fs : Files) (path : String) (bytes : List UInt8) : Except FileFault Files := do
  if path = "" then throw .missing
  let place ← (trimmedNames path).foldlM fs.step (fs.start path)
  if trimmedNames path ≠ names path ∨ fs.entry? place = some .folder then
    throw (.unopened FileFault.folderReason)
  return { fs with entries := (place, bytes) :: fs.entries.filter (·.1 ≠ place) }

end Files

end SeriesQuery
