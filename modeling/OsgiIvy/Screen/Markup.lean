import OsgiIvy.Screen.Emoji

/-!
# Markup

Texts with tags, which set the style of what follows: a small letter or one of `#`, `/`, `@` behind
an opening bracket, and everything up to the closing one.  A backslash in front of a tag makes it
text, and two backslashes there are one.  `escape` makes a text that is to be shown as it is, and
`visible` is what is seen of a text: its tags are gone and names of emoji are replaced.
-/

namespace OsgiIvy.Screen

/-! ### Tags -/

def isTagStart (c : Char) : Bool := c.isLower || c = '#' || c = '/' || c = '@'

/-- Whether the text behind an opening bracket is that of a tag. -/
def beginsTag : List Char → Bool
  | [] => false
  | c :: cs => isTagStart c && (cs.dropWhile fun c => c ≠ '[' && c ≠ ']').head? = some ']'

def backslashes (n : Nat) : List Char := List.replicate n '\\'

/-! ### Escaping -/

/-- Escapes the tags of a text behind some backslashes. -/
def escapeFrom (slashes : Nat) : List Char → List Char
  | [] => backslashes slashes
  | c :: cs =>
    if c = '\\' then escapeFrom (slashes + 1) cs
    else
      let before := if c = '[' && beginsTag cs then 2 * slashes + 1 else slashes
      backslashes before ++ c :: escapeFrom 0 cs

/-- A text whose tags are text.  A single backslash at its end is written twice, so that it does not
escape a tag behind the text. -/
def escape (cs : List Char) : List Char :=
  let escaped := escapeFrom 0 cs
  let slashes := (escaped.reverse.takeWhile (· = '\\')).length
  if slashes = 1 then escaped ++ ['\\'] else escaped

/-! ### Reading -/

inductive Piece
  | text (cs : List Char)
  /-- A tag with the backslashes in front of it. -/
  | tag (slashes : Nat) (content : List Char)
deriving DecidableEq, Repr

/-- The pieces of a text, given what was read of it: the backslashes last read and the text in front
of them, or that the rest begins inside a tag. -/
def piecesFrom (inTag : Bool) (slashes : Nat) (text : List Char) : List Char → List Piece
  | [] => [.text (text ++ backslashes slashes)]
  | c :: cs =>
    if inTag then piecesFrom (c ≠ ']') 0 [] cs
    else if c = '\\' then piecesFrom false (slashes + 1) text cs
    else if c = '[' && beginsTag cs then
      .text text :: .tag slashes (cs.takeWhile (· ≠ ']')) :: piecesFrom true 0 [] cs
    else piecesFrom false 0 (text ++ backslashes slashes ++ [c]) cs

def pieces (cs : List Char) : List Piece := piecesFrom false 0 [] cs

/-- A bracket that begins no tag may be escaped, too. -/
def unescapeBrackets : List Char → List Char
  | '\\' :: '[' :: cs => '[' :: unescapeBrackets cs
  | c :: cs => c :: unescapeBrackets cs
  | [] => []

/-- What is seen of a piece.  An odd number of backslashes makes text of a tag. -/
def Piece.visible : Piece → List Char
  | .text cs => replaceEmoji (unescapeBrackets cs)
  | .tag slashes content =>
    backslashes (slashes / 2) ++
      if slashes % 2 = 1 then replaceEmoji ('[' :: content ++ [']']) else []

/-- The characters that are shown: all but those that ring a bell or move the cursor. -/
def isShown (c : Char) : Bool :=
  c ≠ '\x07' && c ≠ '\x08' && c ≠ '\x0b' && c ≠ '\x0c' && c ≠ '\r'

/-- What is seen of a text with tags. -/
def visible (cs : List Char) : List Char := ((pieces cs).flatMap Piece.visible).filter isShown

end OsgiIvy.Screen
