import OsgiIvy.Decimal.Shortest
import OsgiIvy.Text.Quoted
import OsgiIvy.Value.Basic

/-!
# Values as text

The text that stands for a value where a text is wanted: a text stands for itself, numbers are
written in the fewest digits, and inside lists and mappings texts are quoted.  Halves of characters
are escaped in quotes, and elsewhere the replacement character stands for each of them.
-/

namespace OsgiIvy.Value

open OsgiIvy.Text OsgiIvy.Time

/-- A float; not-a-number and the infinities have names. -/
def floatText (x : Float) : String :=
  if x.isNaN then "nan"
  else if x.isInf then (if Decimal.isNegative x then "-inf" else "inf")
  else String.ofList (Decimal.renderFinite x)

def joined (separator : String) (parts : List String) : String := separator.intercalate parts

/-- A distance from UTC in days, seconds and microseconds, the last two never negative. -/
def quotedOffset (o : Offset) : String :=
  if o.micros = 0 then "datetime.timezone.utc"
  else
    let days := o.micros.fdiv Offset.dayMicros
    let rest := (o.micros.fmod Offset.dayMicros).toNat
    let part (name : String) (n : Int) := if n = 0 then [] else [name ++ "=" ++ toString n]
    let parts := part "days" days ++ part "seconds" (rest / 1000000) ++
      part "microseconds" (rest % 1000000 : Nat)
    "datetime.timezone(datetime.timedelta(" ++ joined ", " parts ++ "))"

/-- A moment by its parts; seconds and microseconds only as far as they are not zero. -/
def quotedMoment (m : Moment) : String :=
  let clock := if m.micro ≠ 0 then [m.second, m.micro] else if m.second ≠ 0 then [m.second] else []
  let parts := ([m.date.year, m.date.month, m.date.day, m.hour, m.minute] ++ clock).map toString
  let zone := match m.offset with
    | some o => ["tzinfo=" ++ quotedOffset o]
    | none => []
  "datetime.datetime(" ++ joined ", " (parts ++ zone) ++ ")"

def quotedDate (d : Date) : String :=
  "datetime.date(" ++ joined ", " ([d.year, d.month, d.day].map toString) ++ ")"

mutual

/-- The value as part of a list or mapping, and as messages name it. -/
def quoted : Value → String
  | .null => "None"
  | .bool b => if b then "True" else "False"
  | .int n => toString n
  | .float x => floatText x
  | .string s => Text.quoted s
  | .torn t => t.quoted
  | .date d => quotedDate d
  | .moment m => quotedMoment m
  | .list items => "[" ++ joined ", " (quotedItems items) ++ "]"
  | .mapping entries => "\x7b" ++ joined ", " (quotedEntries entries) ++ "\x7d"

def quotedItems : List Value → List String
  | [] => []
  | v :: rest => quoted v :: quotedItems rest

def quotedEntries : List (Value × Value) → List String
  | [] => []
  | (k, v) :: rest => (quoted k ++ ": " ++ quoted v) :: quotedEntries rest

end

/-- A value that has no text has a whole number of more digits than this in it. -/
def maxDigits : Nat := 4300

mutual

def hasText : Value → Bool
  | .int n => n.natAbs < Nat.pow 10 maxDigits
  | .list items => allHaveText items
  | .mapping entries => entriesHaveText entries
  | _ => true

def allHaveText : List Value → Bool
  | [] => true
  | v :: rest => hasText v && allHaveText rest

def entriesHaveText : List (Value × Value) → Bool
  | [] => true
  | (k, v) :: rest => hasText k && hasText v && entriesHaveText rest

end

/-- The value where a text is wanted. -/
def text : Value → String
  | .string s => s
  | .torn t => Point.text t.points
  | .date d => String.ofList (Moment.renderDate d)
  | .moment m => String.ofList (Moment.renderWith ' ' m)
  | v => quoted v

end OsgiIvy.Value
