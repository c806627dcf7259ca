import OsgiIvy.Yaml.BlockText
import OsgiIvy.Yaml.Directive
import OsgiIvy.Yaml.QuotedText

/-!
# Tokens

The tokens of a YAML text.  Indentation becomes tokens of its own, as does the key of an entry: that
a text is a key shows only at the colon behind it, so the places where a key may begin are
remembered until then.
-/

namespace OsgiIvy.Yaml

open OsgiIvy.Text (Point)

inductive Token.Kind
  | documentStart
  | documentEnd
  | blockListStart
  | blockMappingStart
  | blockEnd
  | flowListStart
  | flowListEnd
  | flowMappingStart
  | flowMappingEnd
  | item
  | separator
  | key
  | value
  | directive (directive : Directive)
  /-- The name of the node that follows. -/
  | name (chars : List Char)
  /-- The node of a name that was given before. -/
  | reference (name : List Char)
  | tag (tag : Tag)
  /-- A text, and whether it stands without marks. -/
  | text (points : List Point) (isPlain : Bool)
  /-- Here the text cannot be read on. -/
  | broken (fault : Fault)
deriving DecidableEq, Repr

structure Token where
  kind : Token.Kind
  line : Nat
deriving DecidableEq, Repr

namespace Token

/-! ### The state of a scan -/

/-- A place where a key may begin: how many tokens come before it, and whether one has to begin
there. -/
structure Candidate where
  position : Nat
  isRequired : Bool
  index : Nat
  line : Nat
  column : Nat

/-- The state between two tokens: the text that is left, the count of open brackets, the indentation
of the open lists and mappings, innermost first, whether a key may begin here, the last candidate
for each count of open brackets, and the tokens that were read, the newest first, with their count.
-/
structure Scan where
  cursor : Cursor
  depth : Nat
  indents : List Int
  keyAllowed : Bool
  candidates : List (Nat × Candidate)
  newest : List Token
  count : Nat

namespace Scan

def start (cs : List Char) : Scan :=
  let c := Cursor.ofChars cs
  let c := if c.peek? = some '\uFEFF' then c.next else c
  ⟨c, 0, [], true, [], [], 0⟩

def inFlow (s : Scan) : Bool := s.depth ≠ 0

/-- The indentation of the innermost list or mapping; outside of all it is less than any column. -/
def indent (s : Scan) : Int := s.indents.head?.getD (-1)

def column (s : Scan) : Int := s.cursor.column

def tokens (s : Scan) : List Token := s.newest.reverse

/-- Puts a token behind as many of the others as `position` says. -/
def insert (position : Nat) (t : Token) (s : Scan) : Scan :=
  let behind := s.count - position
  { s with
    newest := s.newest.take behind ++ t :: s.newest.drop behind
    count := s.count + 1 }

def emit (kind : Kind) (s : Scan) : Scan := s.insert s.count ⟨kind, s.cursor.line⟩

def move (change : Cursor → Cursor) (s : Scan) : Scan := { s with cursor := change s.cursor }

def fail {α : Type} (s : Scan) : Except Fault α := s.cursor.fail

/-! ### Candidates -/

/-- A candidate that is given up; one that is required cannot be. -/
def giveUp (s : Scan) (c : Candidate) : Except Fault Unit :=
  if c.isRequired then s.fail else pure ()

/-- Gives up the candidate among the open brackets. -/
def dropCandidate (s : Scan) : Except Fault Scan := do
  match s.candidates.lookup s.depth with
  | none => pure s
  | some c =>
    s.giveUp c
    pure { s with candidates := s.candidates.filter (·.1 ≠ s.depth) }

/-- Remembers that a key may begin here. -/
def saveCandidate (s : Scan) : Except Fault Scan := do
  if s.keyAllowed then
    let isRequired := !s.inFlow && s.indent = s.column
    let s ← s.dropCandidate
    let c : Candidate :=
      ⟨s.count, isRequired, s.cursor.index, s.cursor.line, s.cursor.column⟩
    pure { s with candidates := (s.depth, c) :: s.candidates }
  else pure s

/-- A key stands on one line and has at most 1024 characters. -/
def isStale (s : Scan) (c : Candidate) : Bool :=
  c.line ≠ s.cursor.line || 1024 < s.cursor.index - c.index

def dropStale (s : Scan) : Except Fault Scan := do
  let (stale, fresh) := s.candidates.partition fun c => s.isStale c.2
  stale.forM fun c => s.giveUp c.2
  pure { s with candidates := fresh }

/-! ### Indentation -/

/-- Ends the lists and mappings that are indented further than the column. -/
def unwind (column : Int) (s : Scan) : Scan :=
  if s.inFlow then s
  else
    let closed := s.indents.takeWhile (column < ·)
    closed.foldl (fun s _ => s.emit .blockEnd)
      { s with indents := s.indents.dropWhile (column < ·) }

/-- Starts a list or mapping at a column that is indented further than the innermost one; its token
stands at the given position. -/
def indentTo (column : Int) (position : Nat) (kind : Kind) (s : Scan) : Scan :=
  if s.indent < column then
    { s with indents := column :: s.indents }.insert position ⟨kind, s.cursor.line⟩
  else s

/-! ### Marks -/

/-- Emits a token and goes on behind it. -/
def emitUntil (kind : Kind) (after : Cursor) (s : Scan) : Scan :=
  { s.emit kind with cursor := after }

/-- Ends everything that is still open. -/
def close (s : Scan) : Except Fault Scan := (s.unwind (-1)).dropCandidate

/-- The start or the end of a document. -/
def readMarker (kind : Kind) (s : Scan) : Except Fault Scan := do
  let s ← s.close
  pure (({ s with keyAllowed := false }.emit kind).move (Cursor.skip 3))

def readDirective (s : Scan) : Except Fault Scan := do
  let s ← s.close
  let (directive, after) ← Directive.read s.cursor
  pure ({ s with keyAllowed := false }.emitUntil (.directive directive) after)

def openBracket (kind : Kind) (s : Scan) : Except Fault Scan := do
  let s ← s.saveCandidate
  pure (({ s with depth := s.depth + 1, keyAllowed := true }.emit kind).move Cursor.next)

def closeBracket (kind : Kind) (s : Scan) : Except Fault Scan := do
  if s.inFlow then
    let s ← s.dropCandidate
    pure (({ s with depth := s.depth - 1, keyAllowed := false }.emit kind).move Cursor.next)
  else s.fail

def readSeparator (s : Scan) : Except Fault Scan := do
  let s ← s.dropCandidate
  pure (({ s with keyAllowed := true }.emit .separator).move Cursor.next)

/-- The mark of an item or of a key that is written out. -/
def readIndicator (start kind : Kind) (keyAllowed : Bool) (s : Scan) : Except Fault Scan := do
  if !s.inFlow && !s.keyAllowed then s.fail
  else
    let s := if s.inFlow then s else s.indentTo s.column s.count start
    let s ← s.dropCandidate
    pure (({ s with keyAllowed := keyAllowed }.emit kind).move Cursor.next)

/-- The colon behind a key.  If a key may have begun before it, it did. -/
def readColon (s : Scan) : Except Fault Scan := do
  match s.candidates.lookup s.depth with
  | some c =>
    let s := { s with candidates := s.candidates.filter (·.1 ≠ s.depth), keyAllowed := false }
    let s := s.insert c.position ⟨.key, c.line⟩
    let s := if s.inFlow then s else s.indentTo c.column c.position .blockMappingStart
    pure ((s.emit .value).move Cursor.next)
  | none =>
    if !s.inFlow && !s.keyAllowed then s.fail
    else
      let s := if s.inFlow then s else s.indentTo s.column s.count .blockMappingStart
      pure (({ s with keyAllowed := !s.inFlow }.emit .value).move Cursor.next)

/-! ### Texts -/

def readQuotedText (isDouble : Bool) (s : Scan) : Except Fault Scan := do
  let s ← s.saveCandidate
  let (ps, after) ← readQuoted isDouble s.cursor
  pure ({ s with keyAllowed := false }.emitUntil (.text ps false) after)

def readPlainText (s : Scan) : Except Fault Scan := do
  let s ← s.saveCandidate
  let t := readPlain s.inFlow (s.indent + 1) s.cursor
  pure ({ s with keyAllowed := t.isBroken }.emitUntil (.text (t.chars.map .char) true) t.after)

def readBlockText (isFolded : Bool) (s : Scan) : Except Fault Scan := do
  let s ← s.dropCandidate
  let (cs, after) ← readBlock isFolded s.indent.toNat s.cursor
  pure ({ s with keyAllowed := true }.emitUntil (.text (cs.map .char) false) after)

/-- Characters with which no plain text begins; a hyphen, question mark or colon may begin one in
front of other characters. -/
def isIndicator (c : Char) : Bool := "-?:,[]\x7b\x7d#&*!|>\x27\"%@\x60".toList.contains c

def startsPlain (inFlow : Bool) (ch : Char) (next : Option Char) : Bool :=
  (!isGap ch && !isIndicator ch) ||
    (!endsWord next && (ch = '-' || (!inFlow && (ch = '?' || ch = ':'))))

/-! ### Properties -/

/-- A name, a reference or a tag; a key may begin with each of them. -/
def readProperty {α : Type} (read : Cursor → Except Fault (α × Cursor)) (kind : α → Kind)
    (s : Scan) : Except Fault Scan := do
  let s ← s.saveCandidate
  let (a, after) ← read s.cursor
  pure ({ s with keyAllowed := false }.emitUntil (kind a) after)

/-! ### Everything -/

/-- Passes over spaces, comments and the ends of lines.  Outside of brackets, a key may begin on a
new line. -/
def skipSpace : Nat → Scan → Scan
  | 0, s => s
  | fuel + 1, s =>
    let c := s.cursor.skipWhile (· = ' ')
    let c := if c.peek? = some '#' then c.skipWhile (!isBreak ·) else c
    match c.readBreak? with
    | some (_, c) => skipSpace fuel { s with cursor := c, keyAllowed := s.keyAllowed || !s.inFlow }
    | none => { s with cursor := c }

/-- Reads the token that begins with a character. -/
def readToken (ch : Char) (s : Scan) : Except Fault Scan :=
  let c := s.cursor
  let next := c.second?
  let isApart := s.inFlow || endsWord next
  if c.column = 0 && ch = '%' then s.readDirective
  else if c.column = 0 && c.isMarker '-' then s.readMarker .documentStart
  else if c.column = 0 && c.isMarker '.' then s.readMarker .documentEnd
  else if ch = '[' then s.openBracket .flowListStart
  else if ch = '\x7b' then s.openBracket .flowMappingStart
  else if ch = ']' then s.closeBracket .flowListEnd
  else if ch = '\x7d' then s.closeBracket .flowMappingEnd
  else if ch = ',' then s.readSeparator
  else if ch = '-' && endsWord next then s.readIndicator .blockListStart .item true
  else if ch = '?' && isApart then s.readIndicator .blockMappingStart .key (!s.inFlow)
  else if ch = ':' && isApart then s.readColon
  else if ch = '*' then s.readProperty readName .reference
  else if ch = '&' then s.readProperty readName .name
  else if ch = '!' then s.readProperty readTag .tag
  else if !s.inFlow && ch = '|' then s.readBlockText false
  else if !s.inFlow && ch = '>' then s.readBlockText true
  else if ch = '\x27' then s.readQuotedText false
  else if ch = '"' then s.readQuotedText true
  else if startsPlain s.inFlow ch next then s.readPlainText
  else s.fail

/-- Passes over what stands in front of the next token and reads it.  At the end of the text, where
`true` is returned, everything that is still open ends. -/
def advance (s : Scan) : Except Fault (Scan × Bool) := do
  let s ← (skipSpace (s.cursor.left + 1) s).dropStale
  let s := s.unwind s.column
  match s.cursor.peek? with
  | none => return (← s.close, true)
  | some ch => return (← s.readToken ch, false)

/-- How many tokens are settled before the text is read on: a token that may turn out to be a key is
not, and neither are those after it. -/
def settled (s : Scan) : Nat :=
  let fresh := s.candidates.filter fun c => !s.isStale c.2
  (fresh.map fun c => c.2.position).foldl min s.count

/-- The tokens that can be told apart before a fault. -/
def breakOff (s : Scan) (fault : Fault) : List Token :=
  s.tokens.take s.settled ++ [⟨.broken fault, s.cursor.line⟩]

/-- Reads tokens up to the end of the text or a fault in it. -/
def run : Nat → Scan → List Token
  | 0, s => s.breakOff (.malformed s.cursor.line)
  | fuel + 1, s =>
    match s.advance with
    | .error fault => s.breakOff fault
    | .ok (s, isLast) => if isLast then s.tokens else run fuel s

end Scan

/-- The tokens of a text. -/
def scan (cs : List Char) : List Token :=
  if cs.all isAllowed then Scan.run (cs.length + 1) (.start cs) else [⟨.broken (.malformed 1), 1⟩]

end Token

end OsgiIvy.Yaml
