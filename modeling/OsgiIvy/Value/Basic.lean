import OsgiIvy.Assoc
import OsgiIvy.Text.Point
import OsgiIvy.Time.Moment

/-!
# Values

What a description or a stored snapshot holds before it is read as something in particular: the
values of JSON and of YAML.  Mappings keep the order of their entries and may have any scalar as
a key.  A text with halves of characters in it is a value of its own kind, so that every value has
one form.  `same` is the equality by which entries are looked up: it does not tell a truth value
from the number 0 or 1, nor a whole number from the float of the same value.
-/

namespace OsgiIvy

open OsgiIvy.Text OsgiIvy.Time

inductive Value where
  | null
  | bool (b : Bool)
  | int (n : Int)
  | float (x : Float)
  | string (s : String)
  | torn (t : TornText)
  | date (d : Date)
  | moment (m : Moment)
  | list (items : List Value)
  | mapping (entries : List (Value × Value))

namespace Value

instance : Inhabited Value := ⟨.null⟩

/-! ### Truth and equality -/

/-- Nothing, false, zero and the empty text, list and mapping count as absent. -/
def isTruthy : Value → Bool
  | .null => false
  | .bool b => b
  | .int n => n != 0
  | .float x => x != 0.0
  | .string s => s != ""
  | .torn _ => true
  | .date _ => true
  | .moment _ => true
  | .list items => !items.isEmpty
  | .mapping entries => !entries.isEmpty

/-- A finite float that is a whole number, as that number. -/
def wholeNumber? (x : Float) : Option Int :=
  if x.isFinite && x.floor == x then
    let bits := x.toBits
    let field := ((bits >>> 52) &&& 0x7FF).toNat
    let rest := (bits &&& 0xFFFFFFFFFFFFF).toNat
    let mantissa := if field = 0 then rest else Nat.pow 2 52 + rest
    let n : Int := if field < 1075 then mantissa >>> (1075 - field) else mantissa <<< (field - 1075)
    some (if (bits >>> 63) == 1 then -n else n)
  else none

/-- The whole number that a truth value, number or float stands for. -/
def asInt? : Value → Option Int
  | .bool b => some (if b then 1 else 0)
  | .int n => some n
  | .float x => wholeNumber? x
  | _ => none

/-- Floats that are the same number; not-a-number is the same as itself. -/
def sameFloat (x y : Float) : Bool := x == y || (x.isNaN && y.isNaN)

mutual

def same : Value → Value → Bool
  | .null, .null => true
  | .string a, .string b => a == b
  | .torn a, .torn b => a == b
  | .float x, .float y => sameFloat x y
  | .date a, .date b => a == b
  | .moment a, .moment b => a.same b
  | .list a, .list b => sameItems a b
  | .mapping a, .mapping b => a.length == b.length && within a b
  | a, b =>
    match a.asInt?, b.asInt? with
    | some m, some n => m == n
    | _, _ => false

def sameItems : List Value → List Value → Bool
  | [], [] => true
  | a :: as, b :: bs => same a b && sameItems as bs
  | _, _ => false

/-- Every entry of the first mapping is one of the second. -/
def within : List (Value × Value) → List (Value × Value) → Bool
  | [], _ => true
  | (k, v) :: rest, other => other.any (fun e => same k e.1 && same v e.2) && within rest other

end

instance : BEq Value := ⟨same⟩

/-! ### Texts -/

/-- The text with the given points. -/
def ofPoints (ps : List Point) : Value :=
  if h : ps.any Point.isHalf = true then .torn ⟨ps, h⟩ else .string (Point.text ps)

theorem ofPoints_ofString (s : String) : ofPoints (Point.ofString s) = .string s := by
  rw [ofPoints, dif_neg (by simp [Point.any_isHalf_ofString]), Point.text_ofString]

/-- The points of a text. -/
def points? : Value → Option (List Point)
  | .string s => some (Point.ofString s)
  | .torn t => some t.points
  | _ => none

/-! ### Parts -/

/-- What a place holds that null leaves empty. -/
def present? : Value → Option Value
  | .null => none
  | v => some v

/-- A value that can be a key: lists and mappings cannot. -/
def isScalar : Value → Bool
  | .list _ => false
  | .mapping _ => false
  | _ => true

/-- The mapping of entries written one after the other; the last value of a key counts. -/
def ofEntries (entries : List (Value × Value)) : Value := .mapping (Assoc.ofList entries).entries

/-- A mapping with texts as keys. -/
def object (fields : List (String × Value)) : Value :=
  .mapping (fields.map fun f => (.string f.1, f.2))

/-- The value of a key in the entries of a mapping. -/
def lookup (entries : List (Value × Value)) (key : String) : Option Value :=
  List.lookup (Value.string key) entries

end Value

end OsgiIvy
