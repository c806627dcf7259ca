import OsgiIvy.Text.Pieces

/-!
# Lines

Cutting a text at its line boundaries, and the reading of a file's line ends.  A carriage return
and the line feed after it are one boundary; the boundary that ends the text starts no further
line.
-/

namespace OsgiIvy.Text

/-- The characters that end a line: the line and paragraph ends of Unicode, and the file, group
and record separators U+001C to U+001E. -/
def isLineEnd (c : Char) : Bool :=
  let n := c.toNat
  (0x0A ≤ n && n ≤ 0x0D) || (0x1C ≤ n && n ≤ 0x1E) || n == 0x85 || n == 0x2028 || n == 0x2029

/-- The lines of a text, without their boundaries. -/
def lines : List Char → List (List Char)
  | [] => []
  | '\r' :: '\n' :: rest => [] :: lines rest
  | c :: rest => if isLineEnd c then [] :: lines rest else consFirst c (lines rest)

/-- A file's line ends: CR LF and a lone CR are read as LF. -/
def readNewlines : List Char → List Char
  | [] => []
  | '\r' :: '\n' :: rest => '\n' :: readNewlines rest
  | c :: rest => (if c = '\r' then '\n' else c) :: readNewlines rest

end OsgiIvy.Text
