import OsgiIvy.Sorted
import OsgiIvy.Value.Basic

/-!
# The order of keys

Texts stand in order by code point, and numbers, truth values among them, by value.  Between keys
of these two kinds there is no order, nor between null and any other key.
-/

namespace OsgiIvy.Value

open OsgiIvy.Text

/-! ### Comparing -/

/-- A float is at most a whole number: an infinite one if it is negative. -/
def floatLeInt (x : Float) (n : Int) : Bool :=
  match wholeNumber? x.ceil with
  | some m => m ≤ n
  | none => x < 0.0

/-- A whole number is at most a float: an infinite one if it is positive. -/
def intLeFloat (n : Int) (x : Float) : Bool :=
  match wholeNumber? x.floor with
  | some m => n ≤ m
  | none => 0.0 < x

/-- One key is at most another of its kind. -/
def keyLe (a b : Value) : Bool :=
  match a, b with
  | .string s, .string t => textLe s t
  | .torn s, .torn t => Point.listLe s.points t.points
  | .torn s, .string t => Point.listLe s.points (Point.ofString t)
  | .string s, .torn t => Point.listLe (Point.ofString s) t.points
  | .float x, .float y => x ≤ y
  | .float x, b => b.asInt?.any (floatLeInt x)
  | a, .float y => a.asInt?.any (intLeFloat · y)
  | a, b =>
    match a.asInt?, b.asInt? with
    | some m, some n => m ≤ n
    | _, _ => false

/-! ### Keys that have an order -/

def isText : Value → Bool
  | .string _ => true
  | .torn _ => true
  | _ => false

def isNumber : Value → Bool
  | .bool _ => true
  | .int _ => true
  | .float _ => true
  | _ => false

/-- Keys with an order between any two of them. -/
def haveOrder (keys : List Value) : Bool :=
  keys.length ≤ 1 || keys.all isText || keys.all isNumber

theorem haveOrder_texts (names : List String) : haveOrder (names.map .string) = true := by
  simp [haveOrder, isText]

end OsgiIvy.Value
