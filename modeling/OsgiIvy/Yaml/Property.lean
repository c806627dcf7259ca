import OsgiIvy.Text.Digits
import OsgiIvy.Text.Utf8
import OsgiIvy.Yaml.Cursor

/-!
# Properties of nodes

What may stand in front of a node: a name, by which the node can be repeated elsewhere in the text,
and a tag, which tells what kind of value the node has.  A tag is written in full, or as a handle
that stands for its beginning and the rest of it.
-/

namespace OsgiIvy.Yaml

open OsgiIvy.Text

/-! ### Names -/

/-- A name ends in front of this character, or at the end of the text. -/
def endsName (next : Option Char) : Bool :=
  endsWord next || next.any "?:,]\x7d%@\x60".toList.contains

/-- Reads a name behind the mark that announces it. -/
def readName (c : Cursor) : Except Fault (List Char × Cursor) :=
  let name := c.next.wordWhile isNameChar
  let after := c.next.skip name.length
  if name.isEmpty || !endsName after.peek? then after.fail else .ok (name, after)

/-! ### Tags -/

/-- A tag as it is written. -/
structure Tag where
  handle : Option (List Char)
  rest : List Char
deriving DecidableEq, Repr

/-- The characters that tags are written with; behind a percent sign stands an octet. -/
def isTagChar (c : Char) : Bool := c.isAlphanum || "-;/?:@&=+$,_.!~*\x27()[]".toList.contains c

/-- Reads octets that are written as percent signs and pairs of digits. -/
def readOctets : Nat → Cursor → Except Fault (Utf8.Octets × Cursor)
  | 0, c => c.fail
  | fuel + 1, c => do
    match c.rest with
    | '%' :: a :: b :: _ =>
      if isHexDigit a && isHexDigit b then
        let (octets, after) ← readOctets fuel (c.skip 3)
        pure (Utf8.octet (hexDigitsValue [a, b]) :: octets, after)
      else c.fail
    | '%' :: _ => c.fail
    | _ => pure ([], c)

/-- Reads a part of a tag as far as its characters go. -/
def readTagChars : Nat → Cursor → Except Fault (List Char × Cursor)
  | 0, c => c.fail
  | fuel + 1, c => do
    let run := c.wordWhile isTagChar
    let after := c.skip run.length
    if after.peek? = some '%' then
      let (octets, after) ← readOctets (after.left + 1) after
      match Utf8.decode? octets with
      | none => after.fail
      | some decoded =>
        let (more, after) ← readTagChars fuel after
        pure (run ++ decoded ++ more, after)
    else pure (run, after)

/-- Reads a part of a tag, which has to have some character. -/
def readTagText (c : Cursor) : Except Fault (List Char × Cursor) := do
  let (cs, after) ← readTagChars (c.left + 1) c
  if after.index = c.index then after.fail else pure (cs, after)

/-- Reads a handle: an exclamation mark, or two with a name between them, which may be empty. -/
def readHandle (c : Cursor) : Except Fault (List Char × Cursor) :=
  if c.peek? ≠ some '!' then c.fail
  else if c.second? = some ' ' then .ok (['!'], c.next)
  else
    let name := c.next.wordWhile isNameChar
    let after := c.next.skip name.length
    if after.peek? = some '!' then .ok ('!' :: name ++ ['!'], after.next) else after.fail

/-- Reads a tag, of which the next character is the first. -/
def readTag (c : Cursor) : Except Fault (Tag × Cursor) := do
  let (tag, after) ←
    if c.second? = some '<' then do
      let (rest, after) ← readTagText (c.skip 2)
      if after.peek? = some '>' then pure (⟨none, rest⟩, after.next) else after.fail
    else if endsWord c.second? then pure (⟨none, ['!']⟩, c.next)
    else do
      let word := c.next.wordWhile fun ch => ch ≠ ' ' && !isBreak ch
      let (handle, after) ← if word.contains '!' then readHandle c else pure (['!'], c.next)
      let (rest, after) ← readTagText after
      pure (⟨some handle, rest⟩, after)
  if endsMark after.peek? then pure (tag, after) else after.fail

end OsgiIvy.Yaml
