/-!
# Shortest decimals

The fewest decimal digits that read back to a floating-point number, and the number that a decimal
writes.  A double is decoded to `mantissa * 2 ^ exponent`; the reals that round to it form an
interval, and the first grid of powers of ten with a point in that interval gives the digits.
-/

namespace OsgiIvy.Decimal

/-- The digits of a number and the power of ten that the last one counts. -/
structure Digits where
  value : Nat
  exponent : Int
deriving DecidableEq, Repr

/-- The reals that round to a positive number: `low / scale` to `high / scale`, with the ends when
`closed`; the number itself is `center / scale`. -/
structure Interval where
  low : Nat
  center : Nat
  high : Nat
  scale : Nat
  closed : Bool
deriving DecidableEq, Repr

/-- The interval of a positive finite double.  Below a power of two the neighbour is only half as
far away as above it. -/
def Interval.ofBits (bits : UInt64) : Interval :=
  let field := ((bits >>> 52) &&& 0x7FF).toNat
  let rest := (bits &&& 0xFFFFFFFFFFFFF).toNat
  let mantissa := if field = 0 then rest else Nat.pow 2 52 + rest
  let exponent : Int := (if field = 0 then 1 else field) - 1077
  let below := if rest = 0 && field > 1 then 1 else 2
  let up := Nat.pow 2 exponent.toNat
  { low := (4 * mantissa - below) * up
    center := 4 * mantissa * up
    high := (4 * mantissa + 2) * up
    scale := Nat.pow 2 (-exponent).toNat
    closed := mantissa % 2 = 0 }

namespace Interval

/-- Compares `n * 10 ^ e` with `m / scale`. -/
def compareWith (i : Interval) (n : Nat) (e : Int) (m : Nat) : Ordering :=
  compare (n * Nat.pow 10 e.toNat * i.scale) (m * Nat.pow 10 (-e).toNat)

/-- Whether `n * 10 ^ e` rounds to the number. -/
def holds (i : Interval) (n : Nat) (e : Int) : Bool :=
  match i.compareWith n e i.low, i.compareWith n e i.high with
  | .gt, .lt => true
  | .eq, .lt => i.closed
  | .gt, .eq => i.closed
  | _, _ => false

/-- The power of ten that the number's first digit counts. -/
def magnitude (i : Interval) : Int :=
  if i.scale ≤ i.center then (Nat.toDigits 10 (i.center / i.scale)).length - 1
  else
    let j := (Nat.toDigits 10 (i.scale / i.center)).length - 1
    if i.scale ≤ i.center * Nat.pow 10 j then -(j : Int) else -((j : Int) + 1)

/-- The points of the grid `10 ^ e` on either side of the number, those that round to it: of two,
the nearer, and of two equally near the even one. -/
def pointOn (i : Interval) (e : Int) : Option Nat :=
  let up := Nat.pow 10 e.toNat
  let down := Nat.pow 10 (-e).toNat
  let n := i.center * down / (i.scale * up)
  match i.holds n e, i.holds (n + 1) e with
  | true, true =>
    match compare (2 * i.center * down) ((2 * n + 1) * up * i.scale) with
    | .lt => some n
    | .gt => some (n + 1)
    | .eq => some (if n % 2 = 0 then n else n + 1)
  | true, false => some n
  | false, true => some (n + 1)
  | false, false => none

/-- The digits of the first grid that has any; seventeen always do. -/
def shortest (i : Interval) : Digits :=
  let top := i.magnitude
  let found := (List.range 17).findSome? fun (k : Nat) =>
    let e := top - (k : Int)
    (i.pointOn e).map fun n => (⟨n, e⟩ : Digits)
  found.getD ⟨i.center * Nat.pow 5 i.scale.log2, -i.scale.log2⟩

end Interval

/-- Whether a double is below zero; zero has a sign too. -/
def isNegative (x : Float) : Bool := (x.toBits >>> 63) == 1

/-- Positional notation from `10 ^ -4` up to `10 ^ 16`, with a digit on either side of the point;
otherwise one digit before the point and a signed exponent of at least two digits. -/
def layout (d : Digits) : List Char :=
  let digits := Nat.toDigits 10 d.value
  let stripped := (digits.reverse.dropWhile (· = '0')).reverse
  let point : Int := digits.length + d.exponent
  if -4 < point && point ≤ 16 then
    if point ≤ 0 then '0' :: '.' :: List.replicate (-point).toNat '0' ++ stripped
    else
      let whole := stripped.take point.toNat
      let fraction := stripped.drop point.toNat
      whole ++ List.replicate (point.toNat - whole.length) '0' ++
        '.' :: (if fraction.isEmpty then ['0'] else fraction)
  else
    let e := point - 1
    let exponent := Nat.toDigits 10 e.natAbs
    let sign := if e < 0 then '-' else '+'
    stripped.take 1 ++ (if stripped.length ≤ 1 then [] else '.' :: stripped.drop 1) ++
      'e' :: sign :: (if exponent.length < 2 then '0' :: exponent else exponent)

/-- A finite double in the fewest digits. -/
def renderFinite (x : Float) : List Char :=
  let bits := x.toBits &&& 0x7FFFFFFFFFFFFFFF
  let sign := if isNegative x then ['-'] else []
  sign ++ if bits == 0 then ['0', '.', '0'] else layout (Interval.ofBits bits).shortest

/-! ### Reading -/

/-- The double nearest to `value * 10 ^ exponent`.  What lies beyond the range of doubles is
settled by the count of digits. -/
def toFloat (value : Nat) (exponent : Int) : Float :=
  let magnitude := (Nat.toDigits 10 value).length + exponent
  if value = 0 then 0.0
  else if magnitude > 400 then 1.0 / 0.0
  else if magnitude < -400 then 0.0
  else Float.ofScientific value (exponent < 0) exponent.natAbs

end OsgiIvy.Decimal
