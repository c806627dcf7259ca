import OsgiIvy.Assoc
import OsgiIvy.Manifest.Fault
import OsgiIvy.Text.Blank
import OsgiIvy.Text.Lines

/-!
# The main section of a manifest

Headers `Name: value`, one to a line.  A line that begins with a space goes on with the value of
the header above it.  The section begins with the first line that is not blank and ends with the
next blank one.
-/

namespace OsgiIvy.Manifest

open OsgiIvy.Text

/-- The headers of a manifest in the order in which they first occur. -/
abbrev Headers := Assoc String String

/-- What a line of the section is. -/
inductive Line
  | blank
  | continuation (chunk : List Char)
  | header (name value : List Char)
  | malformed (text : List Char)
deriving DecidableEq, Repr

/-- A header has a colon, and its name is not blank. -/
def Line.ofChars (cs : List Char) : Line :=
  if isBlankText cs then .blank
  else
    match cs with
    | ' ' :: chunk => .continuation chunk
    | _ =>
      let name := strip (cs.takeWhile (· ≠ ':'))
      match cs.dropWhile (· ≠ ':') with
      | [] => .malformed cs
      | _ :: value => if name.isEmpty then .malformed cs else .header name (strip value)

/-- Reads the lines from the one with number `n` on.  `last` is the name of the header above. -/
def readSection (n : Nat) (headers : Headers) (last : Option String) :
    List (List Char) → Except Fault Headers
  | [] => .ok headers
  | line :: rest =>
    match Line.ofChars line with
    | .blank => if headers.isEmpty then readSection (n + 1) headers last rest else .ok headers
    | .continuation chunk =>
      match last with
      | none => .error (.strayContinuation n)
      | some name =>
        readSection (n + 1)
          (headers.alter name fun old => old.getD "" ++ String.ofList chunk) last rest
    | .header name value =>
      let name := String.ofList name
      readSection (n + 1) (headers.put name (String.ofList value)) (some name) rest
    | .malformed text => .error (.malformedLine n (String.ofList text))

/-- The headers of a manifest's main section. -/
def parseChars (cs : List Char) : Except Fault Headers := readSection 1 {} none (lines cs)

def parse (text : String) : Except Fault Headers := parseChars text.toList

end OsgiIvy.Manifest
