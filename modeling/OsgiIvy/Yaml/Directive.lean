import OsgiIvy.Yaml.Number
import OsgiIvy.Yaml.Property

/-!
# Directives

Lines in front of a document that tell how it is to be read: the version of the language, or what a
handle stands for in tags.  Other directives tell nothing.
-/

namespace OsgiIvy.Yaml

inductive Directive
  | version (major : Nat)
  /-- The tags with the handle begin with the given characters. -/
  | handle (name start : List Char)
  | other
deriving DecidableEq, Repr

namespace Directive

/-! ### Reading -/

def readNumber (c : Cursor) : Except Fault (Nat × Cursor) := do
  let digits := c.wordWhile Char.isDigit
  if digits.isEmpty then c.fail else return (← decimal digits, c.skip digits.length)

def readVersion (c : Cursor) : Except Fault (Directive × Cursor) := do
  let (major, c) ← readNumber (c.skipWhile (· = ' '))
  if c.peek? ≠ some '.' then c.fail
  else
    let (_, c) ← readNumber c.next
    if endsMark c.peek? then pure (.version major, c) else c.fail

def readHandleStart (c : Cursor) : Except Fault (Directive × Cursor) := do
  let (name, c) ← readHandle (c.skipWhile (· = ' '))
  if c.peek? ≠ some ' ' then c.fail
  else
    let (start, c) ← readTagText (c.skipWhile (· = ' '))
    if endsMark c.peek? then pure (.handle name start, c) else c.fail

/-- Reads a directive from its percent sign on to the end of the line. -/
def read (c : Cursor) : Except Fault (Directive × Cursor) := do
  let name := c.next.wordWhile isNameChar
  let after := c.next.skip name.length
  if name.isEmpty || !endsMark after.peek? then after.fail
  else
    let (directive, after) ←
      if name = "YAML".toList then readVersion after
      else if name = "TAG".toList then readHandleStart after
      else pure (.other, after.skipWhile (!isBreak ·))
    return (directive, ← after.skipComment)

/-! ### Handles -/

/-- What handles stand for. -/
abbrev Handles := List (List Char × List Char)

/-- The handles that need no directive. -/
def usualHandles : Handles := [(['!'], ['!']), (['!', '!'], "tag:yaml.org,2002:".toList)]

/-- What the handles in a document stand for.  The version may be given once and has to be a first
one, and each handle may be given once. -/
def handles? (directives : List Directive) : Option Handles :=
  let versions := directives.filterMap fun d => match d with
    | .version major => some major
    | _ => none
  let given := directives.filterMap fun d => match d with
    | .handle name start => some (name, start)
    | _ => none
  if versions.length ≤ 1 && versions.all (· = 1) && (given.map (·.1)).Nodup then
    some (given ++ usualHandles)
  else none

end Directive

end OsgiIvy.Yaml
