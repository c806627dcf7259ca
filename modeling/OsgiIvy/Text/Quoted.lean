import OsgiIvy.Text.Point
import OsgiIvy.Text.Printable

/-!
# Quoted texts

How messages show a text: between quotation marks, with everything that cannot be seen escaped.
Single marks are used unless the text holds a single mark and no double one.
-/

namespace OsgiIvy.Text

/-- The quotation mark around a text. -/
def quoteMark (cs : List Char) : Char :=
  if cs.contains '\x27' && !cs.contains '"' then '"' else '\x27'

/-- The last `width` hexadecimal digits of a number, in lower case. -/
def hexDigits : Nat → Nat → List Char
  | 0, _ => []
  | width + 1, n => hexDigits width (n / 16) ++ [Nat.digitChar (n % 16)]

/-- An unprintable character: two, four or eight hexadecimal digits, as few as will do. -/
def escapeUnprintable (c : Char) : List Char :=
  let n := c.toNat
  if n < 0x100 then '\\' :: 'x' :: hexDigits 2 n
  else if n < 0x10000 then '\\' :: 'u' :: hexDigits 4 n
  else '\\' :: 'U' :: hexDigits 8 n

/-- One character between quotation marks `mark`. -/
def escapeQuoted (mark c : Char) : List Char :=
  if c = mark || c = '\\' then ['\\', c]
  else if c = '\n' then ['\\', 'n']
  else if c = '\r' then ['\\', 'r']
  else if c = '\t' then ['\\', 't']
  else if isPrintable c then [c]
  else escapeUnprintable c

/-- The text between quotation marks. -/
def quoted (s : String) : String :=
  let cs := s.toList
  let mark := quoteMark cs
  String.ofList (mark :: cs.flatMap (escapeQuoted mark) ++ [mark])

/-- A half is escaped as what cannot be seen. -/
def escapePoint (mark : Char) : Point → List Char
  | .char c => escapeQuoted mark c
  | .half n => '\\' :: 'u' :: hexDigits 4 (Point.firstHalf + n)

def TornText.quoted (t : TornText) : String :=
  let mark := quoteMark (t.points.map Point.shown)
  String.ofList (mark :: t.points.flatMap (escapePoint mark) ++ [mark])

end OsgiIvy.Text
