import OsgiIvy.Text.Digits
import OsgiIvy.Text.Pieces

/-!
# Authorities of URIs

Which text may stand between `//` and the path: square brackets come in pairs and hold an address
of the sixth or a later version of the protocol, and no character stands for a delimiter.
-/

namespace OsgiIvy.Uri

open OsgiIvy.Text

/-! ### Addresses -/

/-- One of the four numbers of an address of the fourth version: at most 255, no leading zeros. -/
def isByteNumber (cs : List Char) : Bool :=
  !cs.isEmpty && cs.length ≤ 3 && cs.all Char.isDigit && (cs.length = 1 || cs.head? ≠ some '0') &&
    digitsValue cs ≤ 255

def isAddress4 (cs : List Char) : Bool :=
  let parts := cutAt '.' cs
  parts.length = 4 && parts.all isByteNumber

/-- One of the eight numbers of an address of the sixth version. -/
def isGroup (cs : List Char) : Bool := !cs.isEmpty && cs.length ≤ 4 && cs.all isHexDigit

/-- The groups of an address; a final address of the fourth version counts as two. -/
def groupsOf (cs : List Char) : Option (List (List Char)) :=
  let groups := cutAt ':' cs
  let last := groups.getLast?.getD []
  if groups.length < 3 then none
  else if last.contains '.' then
    if isAddress4 last then some (groups.dropLast ++ [['0'], ['0']]) else none
  else some groups

/-- Groups on both sides of the one gap that `::` leaves: an end may be empty only next to the
gap, and the gap stands for one group at least. -/
def hasOneGap (before after : List (List Char)) : Bool :=
  let before := if before.head? = some [] then before.drop 1 else before
  let after := if after.getLast? = some [] then after.dropLast else after
  before.all isGroup && after.all isGroup && before.length + after.length ≤ 7

/-- An end is empty only next to the gap. -/
def endsClosed (before after : List (List Char)) : Bool :=
  (before.head? ≠ some [] || before.length = 1) && (after.getLast? ≠ some [] || after.length = 1)

/-- Eight groups, or fewer with one gap between the first and the last. -/
def isAddress6 (cs : List Char) : Bool :=
  match groupsOf cs with
  | none => false
  | some groups =>
    let inner := (groups.drop 1).dropLast
    let gaps := inner.countP (·.isEmpty)
    if groups.length > 9 then false
    else if gaps = 0 then groups.length = 8 && groups.all isGroup
    else if gaps = 1 then
      let before := groups.take 1 ++ inner.takeWhile (!·.isEmpty)
      let after := groups.drop (before.length + 1)
      hasOneGap before after && endsClosed before after
    else false

/-- The part of an address in front of its zone, which follows a percent sign and is not empty. -/
def withoutZone (cs : List Char) : Option (List Char) :=
  match cutAt '%' cs with
  | [address] => some address
  | [address, zone] => if zone.isEmpty then none else some address
  | _ => none

/-- An address of a later version: `v`, hexadecimal digits, a point and something more. -/
def isFutureAddress (cs : List Char) : Bool :=
  match cs with
  | 'v' :: rest =>
    let digits := rest.takeWhile isHexDigit
    match rest.dropWhile isHexDigit with
    | '.' :: tail => !digits.isEmpty && !tail.isEmpty
    | _ => false
  | _ => false

def isBracketedHost (cs : List Char) : Bool :=
  if cs.head? = some 'v' then isFutureAddress cs
  else
    match withoutZone cs with
    | some address => isAddress6 address
    | none => false

/-! ### Authorities -/

/-- Characters whose compatibility form holds one of `/?#@:`. -/
def delimiterLookalikes : List Nat :=
  [0x2047, 0x2048, 0x2049, 0x2100, 0x2101, 0x2105, 0x2106, 0x2A74, 0xFE13, 0xFE16, 0xFE55, 0xFE56,
    0xFE5F, 0xFE6B, 0xFF03, 0xFF0F, 0xFF1A, 0xFF1F, 0xFF20]

/-- The host in an authority and what follows its brackets, where the last `@` ends the name of a
user.  Nothing stands between the two but an opening bracket; without one, the host ends at the
port. -/
def splitHost (cs : List Char) : Option (List Char × List Char) :=
  let place := (cs.reverse.takeWhile (· ≠ '@')).reverse
  match place.dropWhile (· ≠ '[') with
  | [] => some (place.takeWhile (· ≠ ':'), [])
  | _ :: inner =>
    if place.head? = some '[' then
      some (inner.takeWhile (· ≠ ']'), (inner.dropWhile (· ≠ ']')).drop 1)
    else none

/-- The brackets of an authority that has both kinds enclose a host, and a port may follow. -/
def hasBracketedHost (cs : List Char) : Bool :=
  match splitHost cs with
  | some (host, behind) => isBracketedHost host && behind.head?.all (· = ':')
  | none => false

/-- An authority that can be read. -/
def isAuthority (cs : List Char) : Bool :=
  let brackets :=
    if cs.contains '[' && cs.contains ']' then hasBracketedHost cs
    else !cs.contains '[' && !cs.contains ']'
  brackets && cs.all fun c => !delimiterLookalikes.contains c.toNat

end OsgiIvy.Uri
