import OsgiIvy.Decimal.Shortest
import OsgiIvy.Text.Blank
import OsgiIvy.Text.Digits
import OsgiIvy.Text.Pieces
import OsgiIvy.Yaml.Cursor

/-!
# Numbers

The numbers that digits stand for, and those of texts that are known to be numbers.  Underscores do
not count, and a number may be in base sixty, with colons between its parts.
-/

namespace OsgiIvy.Yaml

open OsgiIvy.Text

/-- A sign, if there is one, and what follows it. -/
def splitSign : List Char → Bool × List Char
  | '-' :: cs => (true, cs)
  | '+' :: cs => (false, cs)
  | cs => (false, cs)

def withoutUnderscores (cs : List Char) : List Char := cs.filter (· ≠ '_')

/-! ### Whole numbers -/

/-- The most digits that a whole number in base ten can be read from. -/
def maxDigits : Nat := 4300

/-- The value of digits in base ten. -/
def decimal (digits : List Char) : Except Fault Nat :=
  if maxDigits < digits.length then .error (.misfit .impossible (String.ofList digits))
  else .ok (digitsValue digits)

/-- The letters that announce a base behind a zero. -/
def baseLetters (base : Nat) : List Char :=
  if base = 2 then ['b', 'B']
  else if base = 8 then ['o', 'O']
  else if base = 16 then ['x', 'X']
  else []

/-- Digits without the announcement of their base. -/
def withoutBase (base : Nat) (cs : List Char) : List Char :=
  match cs with
  | '0' :: letter :: digits => if (baseLetters base).contains letter then digits else cs
  | _ => cs

/-- A whole number in a base, which may have blanks around it, a sign and its base announced. -/
def readInt (base : Nat) (cs : List Char) : Except Fault Int :=
  let (isNegative, unsigned) := splitSign (strip cs)
  let digits := withoutBase base unsigned
  let isNumber := !digits.isEmpty && (digits.all fun c => (hexDigit? c).any (· < base)) &&
    (base ≠ 10 || digits.length ≤ maxDigits)
  if isNumber then
    let n : Int := digits.foldl (fun n c => base * n + (hexDigit? c).getD 0) 0
    .ok (if isNegative then -n else n)
  else .error (.misfit .impossible (String.ofList cs))

/-- The whole number that a text stands for. -/
def readWhole (cs : List Char) : Except Fault Int := do
  let (isNegative, digits) := splitSign (withoutUnderscores cs)
  let n ←
    match digits with
    | [] => .error (.misfit .missing (String.ofList cs))
    | ['0'] => .ok 0
    | '0' :: 'b' :: digits => readInt 2 digits
    | '0' :: 'x' :: digits => readInt 16 digits
    | '0' :: _ => readInt 8 digits
    | _ => ((cutAt ':' digits).mapM (readInt 10)).map fun parts => parts.foldl (60 * · + ·) 0
  pure (if isNegative then -n else n)

/-! ### Floats -/

def floatOf (whole fraction : List Char) (exponent : Int) : Float :=
  Decimal.toFloat (digitsValue (whole ++ fraction)) (exponent - fraction.length)

/-- The sum of parts in base sixty, the last part first.  Every power of sixty is rounded to a float
before it is multiplied, and has to be in the range of floats. -/
def sumSixtieths (text : String) (parts : List Float) : Except Fault Float := do
  let sum ← parts.foldlM (fun (acc : Float × Nat) x => do
    let power := Decimal.toFloat acc.2 0
    if power.isInf then .error (.misfit .tooLarge text)
    else pure (acc.1 + x * power, acc.2 * 60)) (0.0, 1)
  pure sum.1

/-- A power of ten behind a number, if there is one. -/
def readExponent? : List Char → Option Int
  | [] => some 0
  | 'e' :: cs =>
    let (isNegative, digits) := splitSign cs
    if !digits.isEmpty && digits.all Char.isDigit then
      let n : Int := digitsValue digits
      some (if isNegative then -n else n)
    else none
  | _ => none

/-- A number in lower case with or without a point. -/
def readPointed? (cs : List Char) : Option Float :=
  let whole := cs.takeWhile Char.isDigit
  let (fraction, rest) :=
    match cs.dropWhile Char.isDigit with
    | '.' :: rest => (rest.takeWhile Char.isDigit, rest.dropWhile Char.isDigit)
    | rest => ([], rest)
  if (whole ++ fraction).isEmpty then none
  else (readExponent? rest).map (floatOf whole fraction)

/-- A number, which may have blanks around it and a sign, or one of the words for what is none. -/
def readFloatPart (cs : List Char) : Except Fault Float :=
  let (isNegative, unsigned) := splitSign (strip cs)
  let x? :=
    if ["inf", "infinity"].contains (String.ofList unsigned) then some (1.0 / 0.0)
    else if unsigned = ['n', 'a', 'n'] then some (0.0 / 0.0)
    else readPointed? unsigned
  match x? with
  | some x => .ok (if isNegative then -x else x)
  | none => .error (.misfit .impossible (String.ofList cs))

/-- The float that a text stands for. -/
def readFloat (cs : List Char) : Except Fault Float := do
  let text := String.ofList cs
  let (isNegative, unsigned) := splitSign ((withoutUnderscores cs).map Char.toLower)
  if (withoutUnderscores cs).isEmpty then .error (.misfit .missing text)
  else
    let x ←
      if unsigned = ".inf".toList then .ok (1.0 / 0.0)
      else if unsigned = ".nan".toList then .ok (0.0 / 0.0)
      else do
        match ← (cutAt ':' unsigned).mapM readFloatPart with
        | [x] => pure x
        | parts => sumSixtieths text parts.reverse
    pure (if isNegative then -x else x)

end OsgiIvy.Yaml
