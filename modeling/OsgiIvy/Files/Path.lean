import OsgiIvy.Text.Pieces

/-!
# Paths

Names of files below a root or below the working directory.  Repeated and final slashes and the name
`.` do not matter; `..` is a name like others.
-/

namespace OsgiIvy

open OsgiIvy.Text

structure Path where
  /-- Slashes in front of everything: none, one, or two of a special meaning. -/
  root : String
  names : List String
deriving DecidableEq, Repr

namespace Path

/-- Three or more leading slashes are one. -/
def rootOf (cs : List Char) : String :=
  match (cs.takeWhile (· = '/')).length with
  | 0 => ""
  | 2 => "//"
  | _ => "/"

def ofString (s : String) : Path :=
  let pieces := (cutAt '/' s.toList).map String.ofList
  ⟨rootOf s.toList, pieces.filter fun name => name ≠ "" && name ≠ "."⟩

/-- The path as it is shown. -/
def text (p : Path) : String :=
  if p.root = "" && p.names.isEmpty then "." else p.root ++ "/".intercalate p.names

/-- The directory of a file; a root is its own. -/
def parent (p : Path) : Path := { p with names := p.names.dropLast }

/-- A path seen from a directory; one with a root stands alone. -/
def join (p q : Path) : Path := if q.root = "" then ⟨p.root, p.names ++ q.names⟩ else q

/-- No file has a path with a null character. -/
def hasNull (path : String) : Bool := path.toList.contains '\x00'

def name (p : Path) : String := p.names.getLast?.getD ""

/-- The last dot of the name and what follows it.  A dot at either end of the name makes no suffix.
-/
def suffix (p : Path) : List Char :=
  let behind := p.name.toList.reverse.takeWhile (· ≠ '.')
  let before := (p.name.toList.reverse.dropWhile (· ≠ '.')).drop 1
  if behind.isEmpty || before.isEmpty then [] else '.' :: behind.reverse

end Path

end OsgiIvy
