import OsgiIvy.Text.Digits
import OsgiIvy.Text.Point
import OsgiIvy.Yaml.PlainText

/-!
# Quoted texts

Texts between single or double marks.  A mark that is written twice between single marks is one
mark; between double marks a backslash escapes, and only so can a text hold halves of characters.
The end of a line counts as in plain texts.
-/

namespace OsgiIvy.Yaml

open OsgiIvy.Text

/-! ### Escapes -/

/-- What a backslash escapes, by letter. -/
def unescape? : Char → Option Char
  | '0' => some '\x00'
  | 'a' => some '\x07'
  | 'b' => some '\x08'
  | 't' => some '\t'
  | '\t' => some '\t'
  | 'n' => some '\n'
  | 'v' => some '\x0b'
  | 'f' => some '\x0c'
  | 'r' => some '\r'
  | 'e' => some '\x1b'
  | ' ' => some ' '
  | '"' => some '"'
  | '\\' => some '\\'
  | '/' => some '/'
  | 'N' => some '\u0085'
  | '_' => some '\u00a0'
  | 'L' => some '\u2028'
  | 'P' => some '\u2029'
  | _ => none

/-- How many hexadecimal digits follow a letter that stands for a number. -/
def codeWidth? : Char → Option Nat
  | 'x' => some 2
  | 'u' => some 4
  | 'U' => some 8
  | _ => none

/-- The point with a number, which has to fit into a signed word of 32 bits. -/
def pointOfCode (n : Nat) : Except Fault Point :=
  let text := String.ofList ('U' :: Nat.toDigits 16 n)
  if 0x80000000 ≤ n then .error (.misfit .tooLarge text)
  else if 0x110000 ≤ n then .error (.misfit .impossible text)
  else .ok (Point.ofNat n)

/-! ### Lines -/

/-- Passes over blank lines and the blanks in front of the next word; the ends of lines are kept. -/
def quotedBreaks : Nat → Cursor → Except Fault (List Char × Cursor)
  | 0, c => c.fail
  | fuel + 1, c =>
    if c.isDocumentMarker then c.fail
    else
      let c := c.skipWhile fun ch => ch = ' ' || ch = '\t'
      match c.readBreak? with
      | none => .ok ([], c)
      | some (br, c) => do
        let (more, c) ← quotedBreaks fuel c
        pure (br :: more, c)

/-- Blanks between two words of a text. -/
def quotedGap (c : Cursor) : Except Fault (List Char × Cursor) :=
  let blanks := c.wordWhile fun ch => ch = ' ' || ch = '\t'
  let c := c.skip blanks.length
  match c.peek? with
  | none => c.fail
  | some _ =>
    match c.readBreak? with
    | none => .ok (blanks, c)
    | some (br, c) => do
      let (more, c) ← quotedBreaks (c.left + 1) c
      pure (folded br more, c)

/-! ### Texts -/

/-- What a backslash and the characters after it stand for. -/
def readEscape (c : Cursor) : Except Fault (List Point × Cursor) :=
  match c.peek? with
  | none => c.fail
  | some ch =>
    match unescape? ch, codeWidth? ch with
    | some value, _ => .ok ([.char value], c.next)
    | none, some width =>
      let digits := c.next.rest.take width
      if digits.length = width && digits.all isHexDigit then do
        let value ← pointOfCode (hexDigitsValue digits)
        pure ([value], c.next.skip width)
      else c.fail
    | none, none =>
      match c.readBreak? with
      | some (_, c) => do
        let (breaks, c) ← quotedBreaks (c.left + 1) c
        pure (breaks.map .char, c)
      | none => c.fail

/-- Reads up to the closing mark. -/
def quotedPoints (isDouble : Bool) : Nat → Cursor → Except Fault (List Point × Cursor)
  | 0, c => c.fail
  | fuel + 1, c => do
    let mark := if isDouble then '"' else '\x27'
    match c.peek? with
    | none => c.fail
    | some ch =>
      if ch = mark then
        if !isDouble && c.second? = some mark then
          let (more, c) ← quotedPoints isDouble fuel (c.skip 2)
          pure (.char mark :: more, c)
        else pure ([], c.next)
      else
        let (piece, c) ←
          if isDouble && ch = '\\' then readEscape c.next
          else if isGap ch then (quotedGap c).map fun (gap, c) => (gap.map .char, c)
          else pure ([.char ch], c.next)
        let (more, c) ← quotedPoints isDouble fuel c
        pure (piece ++ more, c)

/-- Reads a quoted text from its opening mark on. -/
def readQuoted (isDouble : Bool) (c : Cursor) : Except Fault (List Point × Cursor) :=
  quotedPoints isDouble (c.left + 1) c.next

end OsgiIvy.Yaml
