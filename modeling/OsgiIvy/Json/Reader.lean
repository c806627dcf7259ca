import OsgiIvy.Decimal.Shortest
import OsgiIvy.Text.Digits
import OsgiIvy.Value.Basic

/-!
# Reading JSON

A recursive descent over the members of a text, which may be halves of characters as well.  Every
reader returns what it read and what is left after it, or why it cannot: the first fault counts.
Whole numbers have up to `maxDigits` digits; numbers with a point or an exponent are floats; `NaN`
and the infinities are taken too.  Of members with one name the last counts.
-/

namespace OsgiIvy.Json

open OsgiIvy.Text
open Glyph (point next? spanChars after?)

/-- Why a text has no value. -/
inductive Fault
  | malformed
  /-- A whole number with too many digits. -/
  | tooLong
deriving DecidableEq, Repr

/-- The most digits of a whole number. -/
def maxDigits : Nat := 4300

/-- What was read, if anything was. -/
def orMalformed {α : Type} : Option α → Except Fault α
  | some a => .ok a
  | none => .error .malformed

def isSpace (c : Char) : Bool := c = ' ' || c = '\t' || c = '\n' || c = '\r'

variable {γ : Type} [Glyph γ]

def skipSpace (gs : List γ) : List γ := gs.dropWhile (Glyph.satisfies isSpace)

/-! ### Texts -/

/-- A hexadecimal digit, as a number. -/
def readDigit (gs : List γ) : Option (Nat × List γ) := do
  let (c, rest) ← next? gs
  let d ← hexDigit? c
  pure (d, rest)

/-- A unit of sixteen bits from four hexadecimal digits. -/
def readUnit (gs : List γ) : Option (Nat × List γ) := do
  let (a, gs) ← readDigit gs
  let (b, gs) ← readDigit gs
  let (c, gs) ← readDigit gs
  let (d, gs) ← readDigit gs
  pure (((a * 16 + b) * 16 + c) * 16 + d, gs)

def charOfPair (high low : Nat) : Char :=
  Char.ofNat (0x10000 + (high - 0xD800) * 0x400 + (low - 0xDC00))

/-- What a backslash escapes, by letter. -/
def unescape? : Char → Option Char
  | '"' => some '"'
  | '\\' => some '\\'
  | '/' => some '/'
  | 'b' => some '\x08'
  | 'f' => some '\x0c'
  | 'n' => some '\n'
  | 'r' => some '\r'
  | 't' => some '\t'
  | _ => none

/-- What an escaped unit stands for: a character with the next escaped unit, if the two are its
halves, and itself otherwise. -/
def readEscapedUnit (gs : List γ) : Option (Point × List γ) := do
  let (high, rest) ← readUnit gs
  if 0xD800 ≤ high && high < 0xDC00 then
    match after? "\\u" rest with
    | some more =>
      match readUnit more with
      | none => none
      | some (low, behind) =>
        if 0xDC00 ≤ low && low < 0xE000 then some (.char (charOfPair high low), behind)
        else some (.ofNat high, rest)
    | none => some (.ofNat high, rest)
  else some (.ofNat high, rest)

/-- What follows a backslash. -/
def readEscape (gs : List γ) : Option (Point × List γ) :=
  match next? gs with
  | some ('u', rest) => readEscapedUnit rest
  | some (c, rest) => (unescape? c).map (.char ·, rest)
  | none => none

/-- One point of a text that has not ended, with its escape undone. -/
def readPoint : List γ → Option (Point × List γ)
  | [] => none
  | g :: gs =>
    if point g = .char '\\' then readEscape gs
    else if (point g).toNat < 0x20 then none
    else some (point g, gs)

/-- The points of a text up to its closing mark, at most as many as the fuel. -/
def readTextPoints : Nat → List γ → Option (List Point × List γ)
  | 0, _ => none
  | fuel + 1, gs =>
    match next? gs with
    | some ('"', rest) => some ([], rest)
    | _ => do
      let (p, rest) ← readPoint gs
      let (more, rest) ← readTextPoints fuel rest
      pure (p :: more, rest)

/-- A text behind its opening mark. -/
def readText (fuel : Nat) (gs : List γ) : Option (Value × List γ) :=
  (readTextPoints fuel gs).map fun r => (.ofPoints r.1, r.2)

/-! ### Numbers -/

/-- The digits behind a point, if there are any. -/
def fractionDigits (gs : List γ) : List Char × List γ :=
  match next? gs with
  | some ('.', rest) =>
    let (digits, behind) := spanChars Char.isDigit rest
    if digits.isEmpty then ([], gs) else (digits, behind)
  | _ => ([], gs)

/-- A sign, if there is one: whether it is a minus sign. -/
def readSign (gs : List γ) : Bool × List γ :=
  match next? gs with
  | some ('-', rest) => (true, rest)
  | some ('+', rest) => (false, rest)
  | _ => (false, gs)

/-- The exponent, if there is one. -/
def exponentPart (gs : List γ) : Option (Int × List γ) := do
  let (e, rest) ← next? gs
  if e = 'e' || e = 'E' then
    let (negative, rest) := readSign rest
    let (exponent, behind) := spanChars Char.isDigit rest
    if exponent.isEmpty then none
    else
      let n : Int := digitsValue exponent
      some (if negative then -n else n, behind)
  else none

/-- A number behind its sign; a zero stands alone before the point. -/
def readMagnitude (negative : Bool) (gs : List γ) : Except Fault (Value × List γ) :=
  let digits := (spanChars Char.isDigit gs).1
  let whole := if digits.head? = some '0' then ['0'] else digits
  if whole.isEmpty then .error .malformed
  else
    let (fraction, rest) := fractionDigits (gs.drop whole.length)
    let (exponent, rest) := match exponentPart rest with
      | some (e, behind) => (some e, behind)
      | none => (none, rest)
    if fraction.isEmpty && exponent.isNone then
      let n : Int := digitsValue whole
      if maxDigits < whole.length then .error .tooLong
      else .ok (.int (if negative then -n else n), rest)
    else
      let x := Decimal.toFloat (digitsValue (whole ++ fraction))
        (exponent.getD 0 - fraction.length)
      .ok (.float (if negative then -x else x), rest)

/-! ### Values -/

/-- The words that are values. -/
def words : List (String × Value) :=
  [("null", .null), ("true", .bool true), ("false", .bool false), ("NaN", .float (0.0 / 0.0)),
    ("Infinity", .float (1.0 / 0.0)), ("-Infinity", .float (-1.0 / 0.0))]

def readWord (gs : List γ) : Option (Value × List γ) :=
  words.findSome? fun w => (after? w.1 gs).map (w.2, ·)

/-- A value that is no list or mapping. -/
def readScalar (fuel : Nat) (gs : List γ) : Except Fault (Value × List γ) :=
  match next? gs with
  | some ('"', rest) => orMalformed (readText fuel rest)
  | first =>
    match readWord gs with
    | some r => .ok r
    | none =>
      match first with
      | some ('-', rest) => readMagnitude true rest
      | _ => readMagnitude false gs

/-- The name of a member and the text behind its colon. -/
def readName (fuel : Nat) (gs : List γ) : Option (Value × List γ) :=
  match next? gs with
  | some ('"', rest) => do
    let (name, rest) ← readText fuel rest
    match next? (skipSpace rest) with
    | some (':', more) => some (name, skipSpace more)
    | _ => none
  | _ => none

mutual

/-- A value.  Every step takes a member at least, so the length of the text is fuel enough. -/
def readValue : Nat → List γ → Except Fault (Value × List γ)
  | 0, _ => .error .malformed
  | fuel + 1, gs =>
    match next? gs with
    | some ('[', rest) =>
      let items := skipSpace rest
      match next? items with
      | some (']', behind) => .ok (.list [], behind)
      | _ => (readItems fuel items).map fun r => (.list r.1, r.2)
    | some ('\x7b', rest) =>
      let members := skipSpace rest
      match next? members with
      | some ('\x7d', behind) => .ok (.mapping [], behind)
      | _ => (readMembers fuel members).map fun r => (Value.ofEntries r.1, r.2)
    | _ => readScalar fuel gs

/-- Items up to the closing bracket. -/
def readItems : Nat → List γ → Except Fault (List Value × List γ)
  | 0, _ => .error .malformed
  | fuel + 1, gs => do
    let (v, rest) ← readValue fuel gs
    match next? (skipSpace rest) with
    | some (']', behind) => pure ([v], behind)
    | some (',', more) =>
      let (vs, behind) ← readItems fuel (skipSpace more)
      pure (v :: vs, behind)
    | _ => .error .malformed

/-- Members up to the closing brace. -/
def readMembers : Nat → List γ → Except Fault (List (Value × Value) × List γ)
  | 0, _ => .error .malformed
  | fuel + 1, gs => do
    let (name, rest) ← orMalformed (readName fuel gs)
    let (v, rest) ← readValue fuel rest
    match next? (skipSpace rest) with
    | some ('\x7d', behind) => pure ([(name, v)], behind)
    | some (',', more) =>
      let (members, behind) ← readMembers fuel (skipSpace more)
      pure ((name, v) :: members, behind)
    | _ => .error .malformed

end

/-- The value that a text writes, with blanks around it. -/
def read {τ : Type} [Script τ γ] (text : τ) : Except Fault Value := do
  let gs := Script.glyphs text
  let (v, rest) ← readValue (gs.length + 1) (skipSpace gs)
  if (skipSpace rest).isEmpty then pure v else .error .malformed

/-- The value of a text that has one. -/
def read? {τ : Type} [Script τ γ] (text : τ) : Option Value := (read text).toOption

end OsgiIvy.Json
