import OsgiIvy.Text.Pieces
import OsgiIvy.Value.Basic
import OsgiIvy.Yaml.Number

/-!
# Values of plain texts

What a text without marks stands for: a truth value, nothing, a number, a day or a moment, or else
itself.  Numbers may have underscores between their digits, and a number whose parts are separated
by colons is in base sixty.
-/

namespace OsgiIvy.Yaml

open OsgiIvy.Text OsgiIvy.Time

/-! ### Words -/

def trueWords : List String :=
  ["yes", "Yes", "YES", "true", "True", "TRUE", "on", "On", "ON"]

def falseWords : List String :=
  ["no", "No", "NO", "false", "False", "FALSE", "off", "Off", "OFF"]

def nullWords : List String := ["", "~", "null", "Null", "NULL"]

def word? (s : String) : Option Value :=
  if trueWords.contains s then some (.bool true)
  else if falseWords.contains s then some (.bool false)
  else if nullWords.contains s then some .null
  else none

/-! ### Parts of numbers -/

def isDigitOr (p : Char → Bool) (c : Char) : Bool := p c || c = '_'

def isOctalDigit (c : Char) : Bool := '0' ≤ c && c ≤ '7'

def isBinaryDigit (c : Char) : Bool := c = '0' || c = '1'

/-- Digits and underscores that begin with a digit. -/
def isDigits (cs : List Char) : Bool := cs.head?.any Char.isDigit && cs.all (isDigitOr Char.isDigit)

/-- A part of a number in base sixty behind the first. -/
def isSixtieth : List Char → Bool
  | [a] => a.isDigit
  | [a, b] => '0' ≤ a && a ≤ '5' && b.isDigit
  | _ => false

/-! ### Whole numbers -/

/-- The value of digits in a base other than ten, with underscores.  No digit at all is an
impossible number. -/
def valueIn (base : Nat) (cs : List Char) : Except Fault Nat :=
  let digits := withoutUnderscores cs
  if digits.isEmpty then .error (.misfit .impossible (String.ofList cs))
  else .ok (digits.foldl (fun n c => base * n + (hexDigit? c).getD 0) 0)

/-- The parts of a number in base sixty, with colons between them. -/
def sixtiethsValue (first : List Char) (parts : List (List Char)) : Except Fault Nat :=
  (decimal first).map fun n => parts.foldl (fun n part => 60 * n + digitsValue part) n

/-- The number that an unsigned text stands for. -/
def natural? (cs : List Char) : Option (Except Fault Nat) :=
  let inBase (base : Nat) (p : Char → Bool) (digits : List Char) :=
    if !digits.isEmpty && digits.all (isDigitOr p) then some (valueIn base digits) else none
  match cs with
  | '0' :: 'b' :: digits => inBase 2 isBinaryDigit digits
  | '0' :: 'x' :: digits => inBase 16 isHexDigit digits
  | '0' :: _ => inBase 8 isOctalDigit cs
  | _ =>
    match cutAt ':' cs with
    | [] => none
    | first :: parts =>
      if isDigits first && parts.all isSixtieth then
        some (sixtiethsValue (withoutUnderscores first) parts)
      else none

def whole? (cs : List Char) : Option (Except Fault Value) :=
  let (isNegative, cs) := splitSign cs
  (natural? cs).map fun n => n.map fun n => .int (if isNegative then -(n : Int) else n)

/-! ### Floats -/

/-- A power of ten behind a number; its sign has to be written. -/
def exponent? : List Char → Option Int
  | [] => some 0
  | e :: sign :: digits =>
    if (e = 'e' || e = 'E') && (sign = '+' || sign = '-') && !digits.isEmpty &&
        digits.all Char.isDigit then
      let n : Int := digitsValue digits
      some (if sign = '-' then -n else n)
    else none
  | _ => none

/-- A number with a point, by the characters in front of the point and behind it. -/
def pointed? (isSigned : Bool) (whole behind : List Char) : Option Float :=
  let fraction := behind.takeWhile (isDigitOr Char.isDigit)
  let isNumber :=
    if whole.isEmpty then !isSigned && fraction.head?.any Char.isDigit else isDigits whole
  if isNumber then
    (exponent? (behind.dropWhile (isDigitOr Char.isDigit))).map
      (floatOf (withoutUnderscores whole) (withoutUnderscores fraction))
  else none

/-- A number with a point in base sixty: the last part has the point. -/
def sixtieths? (whole behind : List Char) : Option (Except Fault Float) :=
  match cutAt ':' whole with
  | first :: part :: parts =>
    if isDigits first && (part :: parts).all isSixtieth && behind.all (isDigitOr Char.isDigit) then
      let leading := (withoutUnderscores first :: part :: parts).dropLast
      let last := (part :: parts).getLast?.getD []
      some (sumSixtieths (String.ofList whole)
        (floatOf last (withoutUnderscores behind) 0 ::
          (leading.map fun part => floatOf part [] 0).reverse))
    else none
  | _ => none

def float? (cs : List Char) : Option (Except Fault Value) :=
  let (isNegative, unsigned) := splitSign cs
  let isSigned := unsigned.length ≠ cs.length
  let signed (x : Float) := Value.float (if isNegative then -x else x)
  let text := String.ofList unsigned
  if [".inf", ".Inf", ".INF"].contains text then some (.ok (signed (1.0 / 0.0)))
  else if !isSigned && [".nan", ".NaN", ".NAN"].contains text then some (.ok (.float (0.0 / 0.0)))
  else
    match unsigned.dropWhile (· ≠ '.') with
    | [] => none
    | _ :: behind =>
      let whole := unsigned.takeWhile (· ≠ '.')
      let x := ((pointed? isSigned whole behind).map .ok).orElse fun _ => sixtieths? whole behind
      x.map (Except.map signed)

/-! ### Days and moments -/

/-- One or two digits in front of other characters. -/
def readShort (cs : List Char) : Option (Nat × List Char) :=
  (readDigits 2 cs).orElse fun _ => readDigits 1 cs

def expect (c : Char) : List Char → Option (List Char)
  | d :: rest => if c = d then some rest else none
  | [] => none

/-- The distance from UTC at the end of a moment, in minutes. -/
def zone? (cs : List Char) : Option (Option Int) :=
  match cs.dropWhile fun c => c = ' ' || c = '\t' with
  | [] => if cs.isEmpty then some none else none
  | ['Z'] => some (some 0)
  | sign :: rest =>
    if sign = '+' || sign = '-' then do
      let (hours, rest) ← readShort rest
      let minutes ←
        match rest with
        | [] => some 0
        | _ => do
          let (minutes, rest) ← readDigits 2 (← expect ':' rest)
          if rest.isEmpty then some minutes else none
      let n : Int := hours * 60 + minutes
      pure (some (if sign = '-' then -n else n))
    else none

/-- A fraction of a second in microseconds: digits behind the sixth are passed over. -/
def fractionMicros (digits : List Char) : Nat :=
  let six := digits.take 6
  digitsValue six * Nat.pow 10 (6 - six.length)

/-- A moment behind its day. -/
def clock? (day : Date) (cs : List Char) : Option (Moment × Option Int) := do
  let rest ←
    match cs with
    | 'T' :: rest => some rest
    | 't' :: rest => some rest
    | c :: _ =>
      if c = ' ' || c = '\t' then some (cs.dropWhile fun c => c = ' ' || c = '\t') else none
    | [] => none
  let (hour, rest) ← readShort rest
  let (minute, rest) ← readDigits 2 (← expect ':' rest)
  let (second, rest) ← readDigits 2 (← expect ':' rest)
  let (fraction, rest) :=
    match rest with
    | '.' :: rest => (rest.takeWhile Char.isDigit, rest.dropWhile Char.isDigit)
    | _ => ([], rest)
  let zone ← zone? rest
  pure (⟨day, hour, minute, second, fractionMicros fraction, none⟩, zone)

/-- A day or a moment, if the text has the form of one; the calendar may not have it.  Only where
short days are allowed, the month and the day of a day alone may have one digit. -/
def timestamp? (allowsShort : Bool) (cs : List Char) : Option (Except Fault Value) := do
  let impossible : Except Fault Value := .error (.misfit .impossible (String.ofList cs))
  let (year, rest) ← readDigits 4 cs
  let rest ← expect '-' rest
  let (month, afterMonth) ← readShort rest
  let afterMonth ← expect '-' afterMonth
  let (day, afterDay) ← readShort afterMonth
  let date : Date := ⟨year, month, day⟩
  if afterDay.isEmpty then
    if allowsShort || cs.length = 10 then
      some (if date.isValid then .ok (.date date) else impossible)
    else none
  else do
    let (moment, zone) ← clock? date afterDay
    let checked (m : Moment) := if m.isValid then .ok (.moment m) else impossible
    match zone with
    | none => some (checked moment)
    | some minutes =>
      match Offset.ofMicros? (minutes * 60000000) with
      | some offset => some (checked { moment with offset := some offset })
      | none => some impossible

/-! ### Everything -/

/-- The value of a plain text. -/
def plainValue (cs : List Char) : Except Fault Value :=
  let s := String.ofList cs
  match word? s, float? cs, whole? cs, timestamp? false cs with
  | some v, _, _, _ => .ok v
  | _, some v, _, _ => v
  | _, _, some v, _ => v
  | _, _, _, some v => v
  | _, _, _, _ => .ok (.string s)

end OsgiIvy.Yaml
