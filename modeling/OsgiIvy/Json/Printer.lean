import OsgiIvy.Value.Order
import OsgiIvy.Value.Text

/-!
# Writing JSON

Members in the order of their keys, ASCII only: other characters are escaped in units of sixteen
bits, and halves of characters in one unit each.  With an indent each item and member has a line of
its own; without one a single line holds everything.  `isOrdered` says which values have such an
order.
-/

namespace OsgiIvy.Json

open OsgiIvy.Text

/-! ### Texts -/

/-- The 16-bit units of a character. -/
def units (c : Char) : List Nat :=
  let n := c.toNat
  if n < 0x10000 then [n] else [0xD800 + (n - 0x10000) / 0x400, 0xDC00 + (n - 0x10000) % 0x400]

def escapeUnit (n : Nat) : List Char := '\\' :: 'u' :: hexDigits 4 n

/-- One character of a text: visible ASCII as it is, except the quotation mark and the backslash;
five control characters by a letter; everything else by its units. -/
def escapeChar (c : Char) : List Char :=
  if c = '"' || c = '\\' then ['\\', c]
  else if c = '\n' then ['\\', 'n']
  else if c = '\r' then ['\\', 'r']
  else if c = '\t' then ['\\', 't']
  else if c = '\x08' then ['\\', 'b']
  else if c = '\x0c' then ['\\', 'f']
  else if 0x20 ≤ c.toNat && c.toNat < 0x7F then [c]
  else (units c).flatMap escapeUnit

def writeText (s : String) : List Char := '"' :: s.toList.flatMap escapeChar ++ ['"']

/-- A half of a character is written as one of the units of a character is. -/
def escapePoint : Point → List Char
  | .char c => escapeChar c
  | .half n => escapeUnit (Point.firstHalf + n)

def writePoints (ps : List Point) : List Char := '"' :: ps.flatMap escapePoint ++ ['"']

/-! ### Numbers and names -/

def floatChars (x : Float) : List Char :=
  if x.isNaN then "NaN".toList
  else if x.isInf then (if Decimal.isNegative x then "-Infinity" else "Infinity").toList
  else Decimal.renderFinite x

/-- The name of a member; keys that are no texts are written as texts. -/
def memberName : Value → String
  | .null => "null"
  | .bool b => if b then "true" else "false"
  | .float x => String.ofList (floatChars x)
  | v => v.text

def writeName : Value → List Char
  | .torn t => writePoints t.points
  | v => writeText (memberName v)

/-! ### Order -/

mutual

/-- A value whose mappings have keys with an order between them. -/
def isOrdered : Value → Bool
  | .list items => itemsAreOrdered items
  | .mapping entries => Value.haveOrder (entries.map Prod.fst) && entriesAreOrdered entries
  | _ => true

def itemsAreOrdered : List Value → Bool
  | [] => true
  | v :: rest => isOrdered v && itemsAreOrdered rest

def entriesAreOrdered : List (Value × Value) → Bool
  | [] => true
  | (_, v) :: rest => isOrdered v && entriesAreOrdered rest

end

/-! ### Layout -/

/-- How items are set apart: the line break in front of an item at a depth, and what stands
between a name and its member. -/
structure Layout where
  lineBreak : Nat → List Char
  separator : List Char
  colon : List Char

namespace Layout

def indented (width : Nat) : Layout where
  lineBreak depth := '\n' :: List.replicate (width * depth) ' '
  separator := [',']
  colon := [':', ' ']

def oneLine : Layout where
  lineBreak _ := []
  separator := [',', ' ']
  colon := [':', ' ']

end Layout

/-- Items between brackets; none at all leave nothing between them. -/
def enclose (layout : Layout) (depth : Nat) (opening closing : Char) (items : List (List Char)) :
    List Char :=
  if items.isEmpty then [opening, closing]
  else
    let inner := layout.lineBreak (depth + 1)
    opening :: inner ++ (layout.separator ++ inner).intercalate items ++
      layout.lineBreak depth ++ [closing]

/-- Members stand in the order of their keys, not of the names that the keys are written as. -/
def memberLe (a b : Value × List Char) : Bool := Value.keyLe a.1 b.1

mutual

def writeChars (layout : Layout) (depth : Nat) : Value → List Char
  | .null => "null".toList
  | .bool b => (if b then "true" else "false").toList
  | .int n => (toString n).toList
  | .float x => floatChars x
  | .string s => writeText s
  | .torn t => writePoints t.points
  | .date d => writeText (Value.date d).text
  | .moment m => writeText (Value.moment m).text
  | .list items => enclose layout depth '[' ']' (writeItems layout (depth + 1) items)
  | .mapping entries =>
    let members := sortBy memberLe (writeMembers layout (depth + 1) entries)
    enclose layout depth '\x7b' '\x7d'
      (members.map fun m => writeName m.1 ++ layout.colon ++ m.2)

def writeItems (layout : Layout) (depth : Nat) : List Value → List (List Char)
  | [] => []
  | v :: rest => writeChars layout depth v :: writeItems layout depth rest

/-- The keys of the members with their written values. -/
def writeMembers (layout : Layout) (depth : Nat) : List (Value × Value) → List (Value × List Char)
  | [] => []
  | (k, v) :: rest => (k, writeChars layout depth v) :: writeMembers layout depth rest

end

/-- The JSON text of a value with the given indent. -/
def write (indent : Nat) (v : Value) : String :=
  String.ofList (writeChars (.indented indent) 0 v)

/-- The JSON text of a value on one line. -/
def writeLine (v : Value) : String := String.ofList (writeChars .oneLine 0 v)

end OsgiIvy.Json
