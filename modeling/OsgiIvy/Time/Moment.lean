import OsgiIvy.Text.Digits
import OsgiIvy.Time.Date

/-!
# Moments

A day and a time of day to the microsecond, with or without the distance of its clock from UTC,
and the written form `2024-01-02T03:04:05.000006+01:00`.  Writing leaves out what is zero after
the seconds; reading takes the shorter forms of the same notation as well, with or without dashes
and colons, weeks in place of months, and any character between day and time.
-/

namespace OsgiIvy.Time

open OsgiIvy.Text

/-- The distance of a clock from UTC in microseconds, less than a day either way. -/
structure Offset where
  micros : Int
deriving DecidableEq, Repr

namespace Offset

def utc : Offset := ⟨0⟩

def dayMicros : Int := 86400000000

def ofMicros? (n : Int) : Option Offset :=
  if -dayMicros < n && n < dayMicros then some ⟨n⟩ else none

/-- A fraction of a second in six digits; nothing when it is zero. -/
def fraction (n : Nat) : List Char := if n = 0 then [] else '.' :: padded 6 n

/-- Sign, hours and minutes; seconds and their fraction only if there are any. -/
def render (o : Offset) : List Char :=
  let n := o.micros.natAbs
  let seconds := n / 1000000
  let micros := n % 1000000
  let tail :=
    if seconds % 60 = 0 && micros = 0 then [] else ':' :: padded 2 (seconds % 60) ++ fraction micros
  (if o.micros < 0 then '-' else '+') :: padded 2 (seconds / 3600) ++
    ':' :: padded 2 (seconds / 60 % 60) ++ tail

end Offset

structure Moment where
  date : Date
  hour : Nat
  minute : Nat
  second : Nat
  micro : Nat
  offset : Option Offset
deriving DecidableEq, Repr

namespace Moment

/-- A moment that the calendar and the clock have. -/
def isValid (m : Moment) : Bool :=
  m.date.isValid && m.hour ≤ 23 && m.minute ≤ 59 && m.second ≤ 59 && m.micro ≤ 999999

def check? (m : Moment) : Option Moment := if m.isValid then some m else none

/-- The moment at a count of microseconds after the beginning of 1970, in UTC. -/
def sinceEpoch (micros : Nat) : Moment :=
  let seconds := micros / 1000000
  let clock := seconds % 86400
  { date := Date.ofOrdinal (Date.ordinal ⟨1970, 1, 1⟩ + seconds / 86400)
    hour := clock / 3600
    minute := clock / 60 % 60
    second := clock % 60
    micro := micros % 1000000
    offset := some .utc }

/-- Microseconds from the beginning of the calendar to a moment, by its own clock. -/
def micros (m : Moment) : Int :=
  let seconds := ((m.date.ordinal * 24 + m.hour) * 60 + m.minute) * 60 + m.second
  ((seconds * 1000000 + m.micro : Nat) : Int)

/-- Moments whose distance from UTC is known are the same if they are in UTC; a moment without it is
the same as no moment with it. -/
def same (a b : Moment) : Bool :=
  match a.offset, b.offset with
  | some x, some y => a.micros - x.micros = b.micros - y.micros
  | none, none => a.micros = b.micros
  | _, _ => false

/-! ### Writing -/

def renderDate (d : Date) : List Char :=
  padded 4 d.year ++ '-' :: padded 2 d.month ++ '-' :: padded 2 d.day

/-- The written form with the given character between day and time. -/
def renderWith (separator : Char) (m : Moment) : List Char :=
  renderDate m.date ++ separator :: padded 2 m.hour ++ ':' :: padded 2 m.minute ++
    ':' :: padded 2 m.second ++ Offset.fraction m.micro ++
    match m.offset with
    | some o => o.render
    | none => []

def render (m : Moment) : String := String.ofList (renderWith 'T' m)

/-! ### Reading the day -/

/-- Where the day ends and the time begins, settled by the first characters of the text.  A week
without a day is told from a week with one by the dash or the count of digits that follow. -/
def dateLength (cs : List Char) : Option Nat :=
  let length := cs.length
  if length < 7 then none
  else if length = 7 then some 7
  else if cs[4]? = some '-' then
    if cs[5]? = some 'W' then
      if cs[8]? = some '-' then
        if length = 9 then none
        else if (cs[10]?.map Char.isDigit).getD false then some 8
        else some 10
      else some 8
    else some 10
  else if cs[4]? = some 'W' then
    let last := 7 + ((cs.drop 7).takeWhile Char.isDigit).length
    if last < 9 then some last
    else if last % 2 = 0 then some 7
    else some 8
  else some 8

/-- The day of a week, by number or from its start. -/
def readWeek (dashed : Bool) (year : Nat) (cs : List Char) : Option Date := do
  let (week, rest) ← readDigits 2 cs
  match rest with
  | [] => Date.ofWeek? year week 1
  | c :: more =>
    let digits ← if dashed then (if c = '-' then some more else none) else some rest
    let (day, _) ← readDigits 1 digits
    Date.ofWeek? year week day

def readDate (cs : List Char) : Option Date := do
  let (year, rest) ← readDigits 4 cs
  let dashed := rest.head? = some '-'
  let rest := if dashed then rest.drop 1 else rest
  match rest with
  | 'W' :: week => readWeek dashed year week
  | _ =>
    let (month, rest) ← readDigits 2 rest
    let rest ←
      if !dashed then some rest else if rest.head? = some '-' then some (rest.drop 1) else none
    let (day, rest) ← readDigits 2 rest
    if rest.isEmpty then Date.ofYearMonthDay? year month day else none

/-! ### Reading the time -/

/-- Hours, minutes, seconds and microseconds as read, and whether something was left over. -/
structure Clock where
  hour : Nat := 0
  minute : Nat := 0
  second : Nat := 0
  micro : Nat := 0
  leftOver : Bool := false
deriving DecidableEq, Repr

/-- Whether nothing follows; a null character ends a text as its end does. -/
def isOver (cs : List Char) : Bool := cs.head?.all (· = '\x00')

/-- A fraction of a second: six digits count, fewer are filled up with zeros, more are passed
over. -/
def readFraction (clock : Clock) (cs : List Char) : Option Clock := do
  let width := min 6 cs.length
  let (n, rest) ← readDigits width cs
  pure { clock with
    micro := n * Nat.pow 10 (6 - width)
    leftOver := !isOver (rest.dropWhile Char.isDigit) }

/-- The parts of a clock that are still to be read. -/
inductive ClockPart
  | hours
  | minutes
  | seconds
deriving DecidableEq, Repr

def Clock.set (clock : Clock) (n : Nat) : ClockPart → Clock
  | .hours => { clock with hour := n }
  | .minutes => { clock with minute := n }
  | .seconds => { clock with second := n }

/-- What follows two digits of a clock. -/
inductive ClockStep
  | finished (leftOver : Bool)
  | next (rest : List Char)
  | fraction (rest : List Char)
  | malformed
deriving DecidableEq, Repr

/-- After two digits comes the next part, behind a colon if the text uses colons, or the fraction
behind a point or comma.  A single ASCII character that follows is left over, unless it is null. -/
def clockStep (colons : Bool) : List Char → ClockStep
  | [] => .finished false
  | [c] => if c.toNat < 0x80 then .finished (c ≠ '\x00') else .malformed
  | c :: rest =>
    if colons && c = ':' then .next rest
    else if c = '.' || c = ',' then .fraction rest
    else if colons then .malformed
    else .next (c :: rest)

/-- Hours, then minutes, seconds and a fraction as far as they are given.  The text uses colons if
one follows the hours. -/
def readClock (cs : List Char) : Option Clock := do
  let (hour, afterHour) ← readDigits 2 cs
  let colons := afterHour.head? = some ':'
  let clock : Clock := { hour := hour }
  match clockStep colons afterHour with
  | .finished leftOver => pure { clock with leftOver := leftOver }
  | .fraction rest => readFraction clock rest
  | .malformed => none
  | .next rest =>
    let (minute, afterMinute) ← readDigits 2 rest
    let clock := { clock with minute := minute }
    match clockStep colons afterMinute with
    | .finished leftOver => pure { clock with leftOver := leftOver }
    | .fraction rest => readFraction clock rest
    | .malformed => none
    | .next rest =>
      let (second, afterSecond) ← readDigits 2 rest
      let clock := { clock with second := second }
      match clockStep colons afterSecond with
      | .finished leftOver => pure { clock with leftOver := leftOver }
      | .malformed => none
      | .fraction rest | .next rest => readFraction clock rest

/-- The distance from UTC behind its sign.  Whole seconds of zero are UTC. -/
def readOffset (negative : Bool) (cs : List Char) : Option Offset := do
  let clock ← readClock cs
  if clock.leftOver then none
  else
    let seconds := clock.hour * 3600 + clock.minute * 60 + clock.second
    if seconds = 0 then some .utc
    else
      let micros : Int := seconds * 1000000 + clock.micro
      Offset.ofMicros? (if negative then -micros else micros)

/-- A time of day and the distance from UTC, which begins with the first sign or `Z`.  What a
clock leaves over in front of that is passed over. -/
def readTime (cs : List Char) : Option (Clock × Option Offset) := do
  let isZone (c : Char) := c = '+' || c = '-' || c = 'Z'
  let clock ← readClock (cs.takeWhile (!isZone ·))
  match cs.dropWhile (!isZone ·) with
  | [] => if clock.leftOver then none else some (clock, none)
  | 'Z' :: rest => if isOver rest then some (clock, some .utc) else none
  | sign :: rest => do
    let offset ← readOffset (sign = '-') rest
    pure (clock, some offset)

/-- The moment that a text writes.  A day alone is its midnight. -/
def read? (s : String) : Option Moment := do
  let cs := s.toList
  let n ← dateLength cs
  let date ← readDate (cs.take n)
  match cs.drop n with
  | [] => check? ⟨date, 0, 0, 0, 0, none⟩
  | _ :: time =>
    let (clock, offset) ← readTime time
    check? ⟨date, clock.hour, clock.minute, clock.second, clock.micro, offset⟩

end Moment

end OsgiIvy.Time
