import OsgiIvy.Value.Text

/-!
# Fields of values

Reading the parts of a value whose kind is not known: looking up its fields, going through its
elements and taking it as a pair.  A `Fault` says why that fails.
-/

namespace OsgiIvy.Value

inductive Fault
  /-- There is no such field. -/
  | missing (key : String)
  /-- Fields are looked for in a value that has none. -/
  | noFields
  /-- The value is of a kind that cannot be used so. -/
  | wrongKind
  /-- The value is of the right kind and of impossible content. -/
  | badContent
deriving DecidableEq, Repr

/-- The entries of a mapping. -/
def entries (v : Value) : Except Fault (List (Value × Value)) :=
  match v with
  | .mapping es => .ok es
  | _ => .error .noFields

/-- A field that may be missing. -/
def field? (v : Value) (key : String) : Except Fault (Option Value) :=
  match v with
  | .mapping es => .ok (lookup es key)
  | _ => .error .noFields

/-- A field that has a default. -/
def fieldD (v : Value) (key : String) (default : Value) : Except Fault Value :=
  (v.field? key).map (·.getD default)

/-- A field that has to be there. -/
def need (v : Value) (key : String) : Except Fault Value :=
  match v with
  | .mapping es =>
    match lookup es key with
    | some w => .ok w
    | none => .error (.missing key)
  | _ => .error .wrongKind

/-- What a value is made of: the items of a list, the characters of a text, the keys of a
mapping. -/
def elements (v : Value) : Except Fault (List Value) :=
  match v with
  | .list items => .ok items
  | .string s => .ok (s.toList.map fun c => .string (String.singleton c))
  | .torn t => .ok (t.points.map fun p => ofPoints [p])
  | .mapping es => .ok (es.map Prod.fst)
  | _ => .error .wrongKind

/-- The elements of a value that has two. -/
def pair (v : Value) : Except Fault (Value × Value) :=
  match v.elements with
  | .ok [a, b] => .ok (a, b)
  | .ok _ => .error .badContent
  | .error fault => .error fault

/-- A value that can be a key. -/
def asKey (v : Value) : Except Fault Value := if v.isScalar then .ok v else .error .wrongKind

/-- The text of a value. -/
def asText (v : Value) : Except Fault String := if v.hasText then .ok v.text else .error .badContent

/-- The text of a field that has a default. -/
def textD (v : Value) (key default : String) : Except Fault String := do
  (← v.fieldD key (.string default)).asText

/-- The text of a field that has to be there. -/
def needText (v : Value) (key : String) : Except Fault String := do (← v.need key).asText

/-- The text of a field that may be missing or null. -/
def text? (v : Value) (key : String) : Except Fault (Option String) := do
  ((← v.field? key).bind present?).mapM asText

end OsgiIvy.Value
