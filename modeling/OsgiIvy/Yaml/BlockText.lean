import OsgiIvy.Yaml.Cursor

/-!
# Indented texts

Texts of whole lines that are indented further than what they belong to.  The mark in front of one
tells whether its lines are kept or folded, what becomes of the ends of lines behind it, and
possibly how far it is indented.
-/

namespace OsgiIvy.Yaml

/-! ### Marks -/

/-- Which ends of lines behind the last line of a text belong to it. -/
inductive LineEnds
  | none
  | one
  | all
deriving DecidableEq, Repr

/-- What stands behind the mark of a text: which ends of lines are kept, and how far the text is
indented, if that is said. -/
structure BlockHeader where
  ends : LineEnds
  indent : Option Nat

def lineEnds? : Option Char → Option LineEnds
  | some '-' => some .none
  | some '+' => some .all
  | _ => none

/-- Reads a digit that says how far a text is indented, if there is one. -/
def readIndent (c : Cursor) : Except Fault (Option Nat × Cursor) :=
  match c.peek? with
  | some ch =>
    if ch = '0' then c.fail
    else if ch.isDigit then .ok (some (ch.toNat - 0x30), c.next)
    else .ok (none, c)
  | none => .ok (none, c)

/-- Reads what stands behind the mark of a text up to the end of the line. -/
def readBlockHeader (c : Cursor) : Except Fault (BlockHeader × Cursor) := do
  let (header, c) ←
    match lineEnds? c.peek? with
    | some ends => do
      let (indent, c) ← readIndent c.next
      pure (⟨ends, indent⟩, c)
    | none => do
      match ← readIndent c with
      | (none, c) => pure (⟨.one, none⟩, c)
      | (some indent, c) =>
        match lineEnds? c.peek? with
        | some ends => pure (⟨ends, some indent⟩, c.next)
        | none => pure (⟨.one, some indent⟩, c)
  if endsMark c.peek? then return (header, ← c.skipComment) else c.fail

/-! ### Lines -/

/-- Passes over blank lines and the indentation of the next line, and keeps the ends of lines. -/
def blockBreaks (indent : Nat) : Nat → Cursor → List Char × Cursor
  | 0, c => ([], c)
  | fuel + 1, c =>
    let spaces := c.wordWhile (· = ' ')
    let c := c.skip (min spaces.length (indent - c.column))
    match c.readBreak? with
    | none => ([], c)
    | some (br, c) =>
      let (more, c) := blockBreaks indent fuel c
      (br :: more, c)

/-- Passes over the blank lines and spaces in front of a text whose indentation is not known, and
finds the furthest column. -/
def blockStart : Nat → Cursor → List Char × Nat × Cursor
  | 0, c => ([], 0, c)
  | fuel + 1, c =>
    let c := c.skipWhile (· = ' ')
    match c.readBreak? with
    | none => ([], c.column, c)
    | some (br, after) =>
      let (more, furthest, after) := blockStart fuel after
      (br :: more, max c.column furthest, after)

/-- A text that was read: its characters without the ends of lines behind it, the end of its last
line, the ends of the blank lines behind that, and what follows. -/
structure BlockLines where
  chars : List Char
  lastEnd : List Char
  blank : List Char
  after : Cursor

/-- What stands between two lines of a folded text: nothing but a space, unless one of the lines
begins with a blank or there are blank lines between them. -/
def foldedEnd (br blank : List Char) (first second : Option Char) : List Char :=
  let isBlank (c : Option Char) := c = some ' ' || c = some '\t'
  if br = ['\n'] && !isBlank first && !isBlank second then
    if blank.isEmpty then [' '] else []
  else br

/-- Reads the lines that are indented as far as the text, behind some blank lines. -/
def readBlockLines (isFolded : Bool) (indent : Nat) : Nat → List Char → Cursor → BlockLines
  | 0, blank, c => ⟨[], [], blank, c⟩
  | fuel + 1, blank, c =>
    if c.column = indent && c.peek?.isSome then
      let line := c.wordWhile (!isBreak ·)
      let (br, after) :=
        match (c.skip line.length).readBreak? with
        | some (br, after) => ([br], after)
        | none => ([], c.skip line.length)
      let (more, after) := blockBreaks indent (after.left + 1) after
      if after.column = indent && after.peek?.isSome then
        let lineEnd := if isFolded then foldedEnd br more c.peek? after.peek? else br
        let rest := readBlockLines isFolded indent fuel more after
        { rest with chars := blank ++ line ++ lineEnd ++ rest.chars }
      else ⟨blank ++ line, br, more, after⟩
    else ⟨[], [], blank, c⟩

/-- Reads an indented text from its mark on.  It is indented further than `outer`. -/
def readBlock (isFolded : Bool) (outer : Nat) (c : Cursor) :
    Except Fault (List Char × Cursor) := do
  let (header, c) ← readBlockHeader c.next
  let fuel := c.left + 1
  let (blank, indent, c) :=
    match header.indent with
    | some n =>
      let (blank, c) := blockBreaks (outer + n) fuel c
      (blank, outer + n, c)
    | none =>
      let (blank, furthest, c) := blockStart fuel c
      (blank, max (outer + 1) furthest, c)
  let lines := readBlockLines isFolded indent fuel blank c
  pure (lines.chars ++ match header.ends with
    | .none => []
    | .one => lines.lastEnd
    | .all => lines.lastEnd ++ lines.blank, lines.after)

end OsgiIvy.Yaml
