import OsgiIvy.Yaml.Cursor

/-!
# Plain texts

Texts without marks around them.  A plain text ends where its characters would mean something else,
and it may go on over several lines: the end of a line counts as a space, and an empty line as the
end of a line.
-/

namespace OsgiIvy.Yaml

/-- The characters that structure lists and mappings between brackets; a question mark starts a
key there. -/
def isFlowMark (c : Char) : Bool :=
  c = ',' || c = '[' || c = ']' || c = '\x7b' || c = '\x7d'

/-- A colon in front of this character ends a key. -/
def endsKey (inFlow : Bool) (next : Option Char) : Bool :=
  endsWord next || (inFlow && next.any isFlowMark)

/-- How many characters of a plain text stand together. -/
def plainRun (inFlow : Bool) : List Char → Nat
  | [] => 0
  | c :: rest =>
    if isGap c || (c = ':' && endsKey inFlow rest.head?) ||
        (inFlow && (c = '?' || isFlowMark c)) then 0
    else plainRun inFlow rest + 1

/-- What stands between two runs of characters. -/
structure Gap where
  /-- What it counts as; nothing if the text ends here. -/
  filler : List Char
  /-- The gap goes over the end of a line. -/
  isBroken : Bool
  after : Cursor

/-- Passes over blank lines and the spaces in front of the next word, from the beginning of a line
on.  The ends of lines are kept; nothing is if a document begins or ends there. -/
def readBreaks : Nat → Cursor → Option (List Char) × Cursor
  | 0, c => (some [], c)
  | fuel + 1, c =>
    if c.isDocumentMarker then (none, c)
    else
      let c := c.skipWhile (· = ' ')
      match c.readBreak? with
      | none => (some [], c)
      | some (br, c) =>
        let (more, c) := readBreaks fuel c
        (more.map (br :: ·), c)

/-- The end of a line between two runs: one alone is a space. -/
def folded (br : Char) (more : List Char) : List Char :=
  if br ≠ '\n' then br :: more else if more.isEmpty then [' '] else more

def readGap (c : Cursor) : Gap :=
  let spaces := c.wordWhile (· = ' ')
  let c := c.skip spaces.length
  match c.readBreak? with
  | none => ⟨spaces, false, c⟩
  | some (br, c) =>
    match readBreaks (c.left + 1) c with
    | (some more, c) => ⟨folded br more, true, c⟩
    | (none, c) => ⟨[], true, c⟩

/-- A plain text that was read: its characters, whether the gap behind the last of them goes over
the end of a line, and what follows the gap. -/
structure PlainText where
  chars : List Char
  isBroken : Bool
  after : Cursor

/-- Reads runs and the gaps between them.  Outside of brackets the text ends at a line that is not
indented as far as `indent`. -/
def readRuns (inFlow : Bool) (indent : Int) : Nat → PlainText → List Char → PlainText
  | 0, t, _ => t
  | fuel + 1, t, filler =>
    let c := t.after
    let n := if c.peek? = some '#' then 0 else plainRun inFlow c.rest
    if n = 0 then t
    else
      let gap := readGap (c.skip n)
      let t := ⟨t.chars ++ filler ++ c.rest.take n, gap.isBroken, gap.after⟩
      if gap.filler.isEmpty || (!inFlow && (gap.after.column : Int) < indent) then t
      else readRuns inFlow indent fuel t gap.filler

def readPlain (inFlow : Bool) (indent : Int) (c : Cursor) : PlainText :=
  readRuns inFlow indent (c.left + 1) ⟨[], false, c⟩ []

end OsgiIvy.Yaml
