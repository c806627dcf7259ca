import OsgiIvy.Screen.EmojiNames
import OsgiIvy.Text.Blank
import OsgiIvy.Text.Digits

/-!
# Emoji

Names between colons stand for emoji: `:star:` is shown as a star.  A name may end with a wish for
one of two forms, `-text` or `-emoji`, and capital letters count as small ones.  A name that no
emoji has stays as it is, with both of its colons.
-/

namespace OsgiIvy.Screen

open OsgiIvy.Text

/-! ### Names -/

/-- The emoji of an entry, by its name. -/
def readEmojiEntry (entry : String) : List Char × List Char :=
  let name := entry.toList.takeWhile (· ≠ '=')
  let codes := (String.ofList (entry.toList.drop (name.length + 1))).splitOn "-"
  (name, codes.map fun code => Char.ofNat (hexDigitsValue code.toList))

/-- All names with their emoji. -/
def emojiByName : List (List Char × List Char) :=
  ((emojiEntries.splitOn "\n").flatMap (·.splitOn " ")).filter (· ≠ "") |>.map readEmojiEntry

/-- The capital letters outside ASCII whose small ones are in names. -/
def capitals : List (Char × Char) :=
  [('Ã', 'ã'), ('Å', 'å'), ('Ç', 'ç'), ('É', 'é'), ('Í', 'í'), ('Ô', 'ô'), ('\u212A', 'k'),
    ('\u212B', 'å')]

def smallLetter (c : Char) : Char := (capitals.lookup c).getD c.toLower

/-- The forms of an emoji that a name can ask for, with the character that chooses one. -/
def emojiForms : List (List Char × Char) :=
  [("-emoji".toList, '\uFE0F'), ("-text".toList, '\uFE0E')]

/-- A name without the form it asks for, and the character of that form. -/
def splitForm (name : List Char) : List Char × List Char :=
  match emojiForms.find? fun form => form.1.isSuffixOf name with
  | some (ending, form) => (name.take (name.length - ending.length), [form])
  | none => (name, [])

/-- The emoji that a name stands for. -/
def emoji? (name : List Char) : Option (List Char) :=
  let (name, form) := splitForm name
  (emojiByName.lookup (name.map smallLetter)).map (· ++ form)

/-! ### Replacing -/

/-- What stands between a colon and the next one; no blank may stand there. -/
def nameBehind? (cs : List Char) : Option (List Char) :=
  let name := cs.takeWhile (· ≠ ':')
  if name.all (!isBlank ·) && name.length < cs.length then some name else none

/-- A text with emoji for their names, behind some characters to pass over. -/
def replaceEmojiFrom : Nat → List Char → List Char
  | _, [] => []
  | skipped + 1, _ :: cs => replaceEmojiFrom skipped cs
  | 0, c :: cs =>
    match if c = ':' then nameBehind? cs else none with
    | some name =>
      (emoji? name).getD (':' :: name ++ [':']) ++ replaceEmojiFrom (name.length + 1) cs
    | none => c :: replaceEmojiFrom 0 cs

/-- A text with emoji for their names. -/
def replaceEmoji (cs : List Char) : List Char := replaceEmojiFrom 0 cs

end OsgiIvy.Screen
