import OsgiIvy.Yaml.PlainValue

/-!
# Kinds of values

What the tag of a node says about its value, and the values of texts whose kind is known.
-/

namespace OsgiIvy.Yaml

open OsgiIvy.Text (Point)

inductive Kind
  /-- The form of the text tells. -/
  | plain
  | null
  | truth
  | whole
  | float
  | moment
  | text
  | list
  | mapping
  /-- A key that stands for the entries of other mappings. -/
  | merge
  /-- A key that marks what its mapping stands for where a text has to be. -/
  | value
  /-- There are no values of this kind. -/
  | unknown
deriving DecidableEq, Repr

namespace Kind

/-! ### Tags -/

/-- What the tags of all kinds begin with. -/
def tagStart : List Char := "tag:yaml.org,2002:".toList

/-- The kinds by what their tags end with. -/
def byName : List (String × Kind) :=
  [("null", .null), ("bool", .truth), ("int", .whole), ("float", .float), ("timestamp", .moment),
    ("str", .text), ("seq", .list), ("map", .mapping), ("merge", .merge), ("value", .value)]

def ofTag (tag : List Char) : Kind :=
  match byName.find? fun e => tagStart ++ e.1.toList = tag with
  | some (_, kind) => kind
  | none => .unknown

/-! ### Texts -/

/-- The form of a key that stands for the entries of other mappings. -/
def mergeText : List Char := ['<', '<']

/-- The form of a key that marks what its mapping stands for. -/
def valueText : List Char := ['=']

/-- The plain texts that stand for nothing by themselves. -/
def reserved : List (List Char) := [mergeText, valueText, ['!'], ['&'], ['*']]

/-- The truth value that a word stands for, in any case. -/
def readTruth (cs : List Char) : Except Fault Value :=
  let word := String.ofList (cs.map Char.toLower)
  if ["yes", "true", "on"].contains word then .ok (.bool true)
  else if ["no", "false", "off"].contains word then .ok (.bool false)
  else .error (.misfit .unknownWord word)

/-- The day or moment that a text stands for; a line may end behind it. -/
def readMoment (cs : List Char) : Except Fault Value :=
  let line := if cs.getLast? = some '\n' then cs.dropLast else cs
  (timestamp? true line).getD (.error (.misfit .shapeless (String.ofList cs)))

/-- The value of a text of this kind.  A text with halves has the form of nothing else. -/
def read (kind : Kind) (ps : List Point) : Except Fault Value :=
  let cs := ps.map Point.shown
  match kind with
  | .plain =>
    if ps.any Point.isHalf then .ok (.ofPoints ps)
    else if reserved.contains cs then .error (.malformed 0)
    else plainValue cs
  | .null => .ok .null
  | .truth => readTruth cs
  | .whole => (readWhole cs).map .int
  | .float => (readFloat cs).map .float
  | .moment => readMoment cs
  | .text => .ok (.ofPoints ps)
  | .list | .mapping | .merge | .value | .unknown => .error (.malformed 0)

end Kind

end OsgiIvy.Yaml
