import OsgiIvy.Screen.Width
import OsgiIvy.Text.Blank
import OsgiIvy.Text.Lines

/-!
# Layout

Filling lines with words, and tables whose columns are as wide as their texts.  `columnWidths` makes
the widest columns narrower when a table is wider than the screen.
-/

namespace OsgiIvy.Screen

open OsgiIvy.Text

/-! ### Words -/

def tabWidth : Nat := 8

/-- A text that begins in some column, with spaces for its tabs: each leads to the next column that
is a multiple of the width of tabs. -/
def expandTabs (column : Nat) : List Char → List Char
  | [] => []
  | c :: cs =>
    if c = '\t' then
      let spaces := tabWidth - column % tabWidth
      List.replicate spaces ' ' ++ expandTabs (column + spaces) cs
    else c :: expandTabs (column + charWidth c) cs

/-- The words of a text behind the beginning of a word, each with the blanks behind it.  The blanks
in front of all words belong to the first one, and blanks alone are no word. -/
def wordsFrom (word : List Char) : List Char → List (List Char)
  | [] => if isBlankText word then [] else [word]
  | c :: cs =>
    if !isBlank c && word.getLast?.any isBlank && !isBlankText word then word :: wordsFrom [c] cs
    else wordsFrom (word ++ [c]) cs

def words (cs : List Char) : List (List Char) := wordsFrom [] cs

/-! ### Lines -/

/-- What becomes of a word that is wider than a line. -/
inductive Overflow
  /-- It goes on in the next line. -/
  | fold
  /-- It is cut off, with an ellipsis in its last column. -/
  | ellipsis
deriving DecidableEq, Repr

/-- Lines that are full, and the line that is being filled with its columns in use. -/
structure Filling where
  full : List (List Char)
  line : List Char
  used : Nat
deriving DecidableEq, Repr

namespace Filling

def empty : Filling := ⟨[], [], 0⟩

/-- Goes on in a new line; a line with nothing in it is one. -/
def breakLine (f : Filling) : Filling :=
  if f.line.isEmpty then f else ⟨f.full ++ [f.line], [], 0⟩

/-- Adds characters, each in a new line if there is no room for it. -/
def addFolded (limit : Nat) : Filling → List Char → Filling
  | f, [] => f
  | f, c :: cs =>
    let f := if limit < f.used + charWidth c then ⟨f.full ++ [f.line], [], 0⟩ else f
    addFolded limit ⟨f.full, f.line ++ [c], f.used + charWidth c⟩ cs

/-- Adds a word.  The blanks behind it need no room. -/
def addWord (overflow : Overflow) (limit : Nat) (f : Filling) (word : List Char) : Filling :=
  let size := width (stripEnd word)
  if f.used + size ≤ limit then ⟨f.full, f.line ++ word, f.used + width word⟩
  else
    let f := f.breakLine
    match overflow, decide (limit < size) with
    | .fold, true => addFolded limit f word
    | _, _ => ⟨f.full, word, width word⟩

def lines (f : Filling) : List (List Char) := f.full ++ [f.line]

end Filling

/-- The lines that the words of a text fill.  A text of blanks is one line. -/
def fillLines (overflow : Overflow) (limit : Nat) (cs : List Char) : List (List Char) :=
  if isBlankText cs then [cs] else ((words cs).foldl (Filling.addWord overflow limit) .empty).lines

/-- Drops blanks at the end of a line that has more characters than there are columns. -/
def dropExcess (limit : Nat) (line : List Char) : List Char :=
  let blanks := line.length - (stripEnd line).length
  line.take (line.length - min blanks (line.length - limit))

/-- The beginning of a text that fills some columns; half of a wide character is a space. -/
def crop (limit : Nat) : List Char → List Char
  | [] => []
  | c :: cs =>
    if limit = 0 then []
    else if charWidth c ≤ limit then c :: crop (limit - charWidth c) cs
    else [' ']

def cutOff (overflow : Overflow) (limit : Nat) (line : List Char) : List Char :=
  if width line ≤ limit then line
  else
    match overflow with
    | .fold => crop limit line
    | .ellipsis => crop (limit - 1) line ++ ['…']

/-- A text in lines of some columns at most. -/
def wrap (overflow : Overflow) (limit : Nat) (cs : List Char) : List (List Char) :=
  (cutAt '\n' cs).flatMap fun line =>
    (fillLines overflow limit (expandTabs 0 line)).map fun filled =>
      cutOff overflow limit (dropExcess limit filled)

/-! ### Columns -/

def largest (ns : List Nat) : Nat := ns.foldl max 0

/-- The columns that a text would like to have: those of its longest line, tabs not counted. -/
def naturalWidth (cs : List Char) : Nat := largest ((lines cs).map width)

/-- A share of some parts in a total, to the nearest whole number, and to the even one of two. -/
def roundedShare (total parts : Nat) : Nat :=
  let share := total / parts
  let rest := 2 * (total % parts)
  if parts < rest || (rest = parts && share % 2 = 1) then share + 1 else share

/-- Makes every one of the widest columns narrower, by the same share in what is too much, and none
by more than some columns. -/
def reduceWidest (widest most : Nat) : (count excess : Nat) → List Nat → List Nat
  | _, _, [] => []
  | count, excess, w :: ws =>
    if w = widest then
      let share := min most (roundedShare excess count)
      (w - share) :: reduceWidest widest most (count - 1) (excess - share) ws
    else w :: reduceWidest widest most count excess ws

/-- Makes the widest columns as narrow as the next ones, and so on, until all of them fit.  Every
step makes one more column as narrow as another, so that the number of columns bounds the steps. -/
def reduceColumns (limit : Nat) : Nat → List Nat → List Nat
  | 0, widths => widths
  | steps + 1, widths =>
    if total widths ≤ limit then widths
    else
      let widest := largest widths
      let next := largest (widths.filter (· ≠ widest))
      let excess := total widths - limit
      reduceColumns limit steps
        (reduceWidest widest (min excess (widest - next)) (widths.count widest) excess widths)

/-- The widths of the columns of a table: as wide as they would like to be if there is room. -/
def columnWidths (limit : Nat) (natural : List Nat) : List Nat :=
  reduceColumns limit (2 * natural.length) natural

/-! ### Tables -/

/-- The columns of the screen. -/
def screenWidth : Nat := 2000

/-- The columns that are left for the blanks around cells and their texts, for so many cells with a
line at each side and between any two. -/
def roomFor (cells : Nat) : Nat := screenWidth - (cells + 1)

/-- The blanks at the two sides of a cell. -/
def padding : Nat := 2

/-- Lines side by side, as many as the cell with the most of them has. -/
def sideBySide (cells : List (List (List Char))) : List (List String) :=
  (List.range (largest (cells.map List.length))).map fun i =>
    cells.map fun lines => String.ofList (lines.getD i [])

/-- The rows of a table, in which a row whose texts have several lines takes several rows. -/
def tableRows (rows : List (List (List Char))) : List (List String) :=
  let cells := largest (rows.map List.length)
  let natural := (List.range cells).map fun i =>
    padding + largest (rows.map fun row => naturalWidth (row.getD i []))
  let widths := columnWidths (roomFor cells) natural
  rows.flatMap fun row =>
    sideBySide ((row.zip widths).map fun cell => wrap .ellipsis (cell.2 - padding) cell.1)

/-- The rows of a frame around a text, which is as wide as the screen. -/
def frameRows (cs : List Char) : List (List String) :=
  sideBySide [wrap .fold (roomFor 1 - padding) cs]

end OsgiIvy.Screen
