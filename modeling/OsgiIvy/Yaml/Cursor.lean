/-!
# Places in a YAML text

A cursor stands in front of the characters that are still to be read and knows its line and column,
on which the structure of the text depends.
-/

namespace OsgiIvy.Yaml

/-- Why a text that is well-formed stands for no value. -/
inductive Misfit
  /-- What it stands for does not exist. -/
  | impossible
  /-- It stands for a number that is larger than numbers of its kind can be. -/
  | tooLarge
  /-- It stands for a truth value and is none of the words for one. -/
  | unknownWord
  /-- It stands for a number and has no characters. -/
  | missing
  /-- It stands for a moment and does not have the form of one. -/
  | shapeless
  /-- A mapping stands where only a text can stand for a moment. -/
  | notText
deriving DecidableEq, Repr

def Misfit.message : Misfit → String
  | .impossible => "impossible value"
  | .tooLarge => "too large a number"
  | .unknownWord => "unknown word"
  | .missing => "missing number"
  | .shapeless => "unreadable moment"
  | .notText => "mapping in place of a moment"

/-- Why a text has no value. -/
inductive Fault
  /-- The text is not well-formed at this line. -/
  | malformed (line : Nat)
  /-- A part of the text stands for nothing. -/
  | misfit (cause : Misfit) (text : String)
deriving DecidableEq, Repr

def Fault.message : Fault → String
  | .malformed line => "malformed text at line " ++ toString line
  | .misfit cause text => cause.message ++ " " ++ text

/-! ### Characters -/

/-- The characters that end a line. -/
def isBreak (c : Char) : Bool :=
  c = '\r' || c = '\n' || c = '\u0085' || c = '\u2028' || c = '\u2029'

/-- The characters that end a word: spaces, tabs and the ends of lines. -/
def isGap (c : Char) : Bool := c = ' ' || c = '\t' || isBreak c

/-- A word ends in front of this character, or at the end of the text. -/
def endsWord (next : Option Char) : Bool := next.all isGap

/-- Marks in front of a text, such as tags, end in front of this character; a tab does not end
them. -/
def endsMark (next : Option Char) : Bool := next.all fun c => c = ' ' || isBreak c

/-- The characters of names. -/
def isNameChar (c : Char) : Bool := c.isAlphanum || c = '-' || c = '_'

/-- The characters that a text may hold at all. -/
def isAllowed (c : Char) : Bool :=
  let n := c.toNat
  n == 0x09 || n == 0x0A || n == 0x0D || (0x20 ≤ n && n ≤ 0x7E) || n == 0x85 ||
    (0xA0 ≤ n && n ≤ 0xFFFD) || 0x10000 ≤ n

/-! ### Cursors -/

structure Cursor where
  rest : List Char
  /-- How many characters are left. -/
  left : Nat
  /-- How many characters have been passed over. -/
  index : Nat
  line : Nat
  column : Nat

namespace Cursor

def ofChars (cs : List Char) : Cursor := ⟨cs, cs.length, 0, 1, 0⟩

def peek? (c : Cursor) : Option Char := c.rest.head?

/-- The character after the next. -/
def second? (c : Cursor) : Option Char := c.rest[1]?

/-- Passes over one character.  A carriage return ends a line unless a line feed follows; a byte
order mark takes up no column. -/
def next (c : Cursor) : Cursor :=
  match c.rest with
  | [] => c
  | '\r' :: '\n' :: rest => ⟨'\n' :: rest, c.left - 1, c.index + 1, c.line, c.column + 1⟩
  | ch :: rest =>
    if isBreak ch then ⟨rest, c.left - 1, c.index + 1, c.line + 1, 0⟩
    else if ch = '\uFEFF' then ⟨rest, c.left - 1, c.index + 1, c.line, c.column⟩
    else ⟨rest, c.left - 1, c.index + 1, c.line, c.column + 1⟩

/-- Passes over some characters. -/
def skip (n : Nat) (c : Cursor) : Cursor := n.repeat next c

/-- The next characters as long as they satisfy a condition. -/
def wordWhile (p : Char → Bool) (c : Cursor) : List Char := c.rest.takeWhile p

def skipWhile (p : Char → Bool) (c : Cursor) : Cursor := c.skip (c.wordWhile p).length

/-- Passes over the end of a line, and tells how it counts in a text: most ends count as a line
feed. -/
def readBreak? (c : Cursor) : Option (Char × Cursor) :=
  match c.rest with
  | '\r' :: '\n' :: _ => some ('\n', c.skip 2)
  | ch :: _ =>
    if ch = '\u2028' || ch = '\u2029' then some (ch, c.next)
    else if isBreak ch then some ('\n', c.next)
    else none
  | [] => none

def fail {α : Type} (c : Cursor) : Except Fault α := .error (.malformed c.line)

/-- Passes over what may follow the marks in a line, which is a comment, and over the end of the
line. -/
def skipComment (c : Cursor) : Except Fault Cursor :=
  let c := c.skipWhile (· = ' ')
  let c := if c.peek? = some '#' then c.skipWhile (!isBreak ·) else c
  match c.readBreak?, c.peek? with
  | some (_, c), _ => .ok c
  | none, none => .ok c
  | none, some _ => c.fail

/-- Three of the same character and the end of a word. -/
def isMarker (ch : Char) (c : Cursor) : Bool :=
  c.rest.take 3 = [ch, ch, ch] && endsWord c.rest[3]?

/-- The mark that starts a document or the one that ends it. -/
def isDocumentMarker (c : Cursor) : Bool := c.isMarker '-' || c.isMarker '.'

end Cursor

end OsgiIvy.Yaml
