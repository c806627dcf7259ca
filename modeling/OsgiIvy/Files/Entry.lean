import OsgiIvy.Files.Path
import OsgiIvy.Text.Lines
import OsgiIvy.Text.Utf8

/-!
# Files

What stands at a path, and its text.  Files hold UTF-8, and all their line ends are read alike.
`Tree` is a directory that is kept in memory.
-/

namespace OsgiIvy

open OsgiIvy.Text

/-- What stands at a path. -/
inductive Entry
  | absent
  | directory
  | file (content : Utf8.Octets)
deriving DecidableEq, Repr

/-- Why there is no text at a path. -/
inductive FileFault
  | absent
  | isDirectory
  | undecodable
deriving DecidableEq, Repr

def FileFault.message : FileFault → String
  | .absent => "no such file"
  | .isDirectory => "it is a directory"
  | .undecodable => "it does not hold UTF-8"

/-- What can go wrong with a file that is read as something. -/
inductive ReadFault (ε : Type)
  | file (fault : FileFault)
  | content (fault : ε)

namespace Entry

/-- The text of a file. -/
def readChars : Entry → Except FileFault (List Char)
  | .absent => .error .absent
  | .directory => .error .isDirectory
  | .file content =>
    match Utf8.decode? content with
    | some cs => .ok (readNewlines cs)
    | none => .error .undecodable

def readText (e : Entry) : Except FileFault String := e.readChars.map String.ofList

/-- A file with a text. -/
def ofText (text : String) : Entry := .file (Utf8.encode text.toList)

end Entry

/-! ### Directories in memory -/

/-- The files below a directory, by the names on the way to them, and directories without files. -/
structure Tree where
  files : List (List String × Utf8.Octets)
  directories : List (List String)

namespace Tree

/-- What stands at the end of the way. -/
def entryAt (t : Tree) (names : List String) : Entry :=
  match t.files.lookup names with
  | some content => .file content
  | none =>
    if names.isEmpty || (t.files.map Prod.fst ++ t.directories).any (names.isPrefixOf ·) then
      .directory
    else .absent

/-- Goes on from a place, name by name; only directories lead on.  The way up from the top is not
known. -/
def follow (t : Tree) : List String → List String → Entry
  | here, [] => t.entryAt here
  | here, name :: rest =>
    if t.entryAt here ≠ .directory then .absent
    else if name = "" || name = "." then follow t here rest
    else if name = ".." then if here.isEmpty then .absent else follow t here.dropLast rest
    else follow t (here ++ [name]) rest

/-- What stands at a path that is written out.  A path with a root leads out of the tree, and no
path at all leads nowhere. -/
def look (t : Tree) (path : String) : Entry :=
  if path = "" || path.toList.head? = some '/' then .absent
  else t.follow [] ((cutAt '/' path.toList).map String.ofList)

/-! ### Writing -/

/-- Why a file cannot be written. -/
inductive WriteFault
  | isDirectory
  /-- What should be the file's directory is a file. -/
  | parentIsFile
  /-- A directory further up is a file. -/
  | ancestorIsFile
  | nullCharacter
  | tooLong
deriving DecidableEq, Repr

/-- The names on the way to a path, without going up. -/
def wayTo (path : Path) : List String :=
  path.names.foldl (fun here name => if name = ".." then here.dropLast else here ++ [name]) []

/-- A place in the tree by the names on the way to it, or any place outside. -/
abbrev Place := Option (List String)

/-- The place above a place. -/
def above : Place → Place
  | some [] => none
  | place => place.map List.dropLast

/-- The most octets of a name. -/
def maxName : Nat := 255

/-- The most octets of a path. -/
def maxPath : Nat := 4095

def isTooLong (name : String) : Bool := maxName < name.utf8ByteSize

/-- Goes on from a place and makes the directories that are missing; the flag tells whether one was.
Then a file in the way counts as the directory that should be there. -/
def makeWay (t : Tree) (hasMade : Bool) (place : Place) :
    List String → Except WriteFault (Tree × Place)
  | [] => .ok (t, place)
  | name :: rest =>
    if name = ".." then makeWay t hasMade (above place) rest
    else if isTooLong name then .error .tooLong
    else
      match place with
      | none => makeWay t hasMade none rest
      | some here =>
        let next := here ++ [name]
        match t.entryAt next with
        | .directory => makeWay t hasMade (some next) rest
        | .file _ => .error (if hasMade || rest.isEmpty then .parentIsFile else .ancestorIsFile)
        | .absent =>
          makeWay { t with directories := next :: t.directories } true (some next) rest

/-- The place of a file that is written with all directories that it needs. -/
def placeToWrite (t : Tree) (path : Path) : Except WriteFault Place := do
  let start : Place := if path.root = "" then some [] else none
  if Path.hasNull path.parent.text then .error .nullCharacter
  else if maxPath < path.parent.text.utf8ByteSize then .error .tooLong
  else
    let (t, place) ← makeWay t false start path.parent.names
    match path.names.getLast? with
    | none => .error .isDirectory
    | some name =>
      if Path.hasNull name then .error .nullCharacter
      else if name = ".." then .error .isDirectory
      else if isTooLong name || maxPath < path.text.utf8ByteSize then .error .tooLong
      else
        let file := place.map (· ++ [name])
        if file.map t.entryAt = some .directory then .error .isDirectory else .ok file

end Tree

end OsgiIvy
