/-!
# Files

How files are reached: through two operations that may have effects. A tree of directories in
memory has them, and so may a machine.
-/

namespace Dataflow

/-- Why a path leads to no file. -/
inductive FileError where
  /-- There is nothing of that name. -/
  | missing
  /-- The path goes through a file. -/
  | notDirectory
  /-- The path leads to a directory. -/
  | isDirectory
  /-- A name, or the whole path, is too long. -/
  | nameTooLong
  /-- The path holds the character that ends paths. -/
  | nulCharacter
  deriving DecidableEq

def FileError.message : FileError → String
  | .missing => "No such file or directory (os error 2)"
  | .notDirectory => "Not a directory (os error 20)"
  | .isDirectory => "Is a directory (os error 21)"
  | .nameTooLong => "File name too long (os error 36)"
  | .nulCharacter => "file name contained an unexpected NUL byte"

/-- How files are read and written by path. What goes wrong is told in words. -/
structure Files (m : Type → Type) where
  read : String → m (Except String String)
  write : String → String → m (Except String Unit)

/-!
## Paths

A path is a list of names with slashes between them. It starts at the root when a
slash stands first, else at the working directory. Several slashes count as one; a
slash at the end says that the path leads to a directory.
-/

structure Path where
  fromRoot : Bool
  /-- The names before the last, all of which are names of directories. -/
  through : List String
  /-- The last name; empty where there is none. -/
  last : String
  /-- Whether a slash follows the last name. -/
  slashed : Bool
  deriving DecidableEq

namespace Path

def limit : Nat := 4095

def nameLimit : Nat := 255

/-- The names between slashes, empty ones too. -/
def split : List Char → List (List Char)
  | [] => [[]]
  | c :: rest =>
    match c, split rest with
    | '/', names => [] :: names
    | c, [] => [[c]]
    | c, name :: names => (c :: name) :: names

/-- The names of a text that are not empty. -/
def names (text : List Char) : List String :=
  ((split text).filter (!·.isEmpty)).map String.ofList

/-- The path of a list of characters. -/
def ofChars (text : List Char) : Path where
  fromRoot := text.head? == some '/'
  through := (names text).dropLast
  last := (names text).getLast?.getD ""
  slashed := text.getLast? == some '/'

def parse (text : String) : Except FileError Path :=
  if text.toList.contains '\x00' then .error .nulCharacter
  else if text = "" then .error .missing
  else if limit < text.utf8ByteSize then .error .nameTooLong
  else .ok (ofChars text.toList)

/-- Whether the path ends in no name of its own, so that it can only lead to a
directory. -/
def isPlace (p : Path) : Bool := p.last == "" || p.last == "." || p.last == ".."

end Path

/-!
## Trees of files

Directories and files in memory. A path is followed name by name, so the first name
that leads nowhere says what is wrong with it. A file is written where its path
leads through directories only; no directory is made.
-/

/-- A place in a tree: the names on the way from it up to the root. -/
abbrev Location := List String

/-- Directories, files, and the directory that paths start at. Of files at one place
the first counts. -/
structure FileTree where
  directories : List Location
  files : List (Location × String) := []
  current : Location

namespace FileTree

/-- The directory of a name in a directory. A point is the directory itself, two
points are the one above; the root is above itself. -/
def enter (t : FileTree) (place : Location) (name : String) : Except FileError Location :=
  if name = "." then .ok place
  else if name = ".." then .ok place.tail
  else if Path.nameLimit < name.utf8ByteSize then .error .nameTooLong
  else if t.directories.contains (name :: place) then .ok (name :: place)
  else if (t.files.lookup (name :: place)).isSome then .error .notDirectory
  else .error .missing

/-- The directory that a path leads through to its last name. -/
def place (t : FileTree) (p : Path) : Except FileError Location :=
  p.through.foldlM t.enter (if p.fromRoot then [] else t.current)

/-- The place for a file of a name in a directory. -/
def entry (t : FileTree) (place : Location) (name : String) : Except FileError Location :=
  if Path.nameLimit < name.utf8ByteSize then .error .nameTooLong
  else if t.directories.contains (name :: place) then .error .isDirectory
  else .ok (name :: place)

/-- The text of the file that a path leads to. -/
def read (t : FileTree) (text : String) : Except FileError String := do
  let p ← Path.parse text
  let place ← t.place p
  if p.isPlace then throw .isDirectory
  if p.slashed then
    let _ ← t.enter place p.last
    throw .isDirectory
  match t.files.lookup (← t.entry place p.last) with
  | some content => return content
  | none => throw .missing

/-- The tree with a text in the file that a path leads to. -/
def write (t : FileTree) (text content : String) : Except FileError FileTree := do
  let p ← Path.parse text
  let place ← t.place p
  if p.isPlace || p.slashed then throw .isDirectory
  return { t with files := (← t.entry place p.last, content) :: t.files }

def access : Files (StateM FileTree) where
  read path := return ((← get).read path).mapError FileError.message
  write path content := do
    match (← get).write path content with
    | .ok t => do
      set t
      return .ok ()
    | .error e => return .error e.message

end FileTree

end Dataflow
