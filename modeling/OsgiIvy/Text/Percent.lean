import OsgiIvy.Text.Digits
import OsgiIvy.Text.Point
import OsgiIvy.Text.Utf8

/-!
# Percent coding

Texts inside URIs.  Encoding leaves letters, digits and `_.-~` and writes every other octet of a
text's UTF-8 form as `%` and two digits.  Decoding takes any text: octets written next to each other
are read as UTF-8, and what is no `%` with two hexadecimal digits stays as it is, as do halves of
characters.
-/

namespace OsgiIvy.Text.Percent

open Utf8 (Octets)

/-- The characters that stand for themselves; letters and digits are those of ASCII. -/
def isUnreserved (c : Char) : Bool :=
  c.isAlphanum || c = '_' || c = '.' || c = '-' || c = '~'

/-- A hexadecimal digit in upper case. -/
def upperHex (n : Nat) : Char := if n < 10 then Char.ofNat (0x30 + n) else Char.ofNat (0x37 + n)

def escapeOctet (b : UInt8) : List Char :=
  ['%', upperHex (b.toNat / 16), upperHex (b.toNat % 16)]

def encodeChar (c : Char) : List Char :=
  if isUnreserved c then [c] else (Utf8.encodeChar c).flatMap escapeOctet

def encode (cs : List Char) : List Char := cs.flatMap encodeChar

/-- The octet that two hexadecimal digits write. -/
def octet? (a b : Char) : Option UInt8 := do
  let high ← hexDigit? a
  let low ← hexDigit? b
  pure (high * 16 + low).toUInt8

/-- Decodes the rest of a text, given the octets in front of it in reverse. -/
def decodeAfter (octets : Octets) : List Char → List Char
  | [] => Utf8.decode octets.reverse
  | '%' :: a :: b :: rest =>
    match octet? a b with
    | some o => decodeAfter (o :: octets) rest
    | none => decodeAfter ('%'.toNat.toUInt8 :: octets) (a :: b :: rest)
  | c :: rest =>
    if c.toNat < 0x80 then decodeAfter (c.toNat.toUInt8 :: octets) rest
    else Utf8.decode octets.reverse ++ c :: decodeAfter [] rest

def decode (cs : List Char) : List Char := decodeAfter [] cs

section Halves

variable {γ : Type} [Glyph γ]

/-- Decodes the rest of a text that may hold halves, given the characters between the last half and
the rest in reverse. -/
def decodeRuns (run : List Char) : List γ → List γ
  | [] => (decode run.reverse).map Glyph.ofChar
  | g :: gs =>
    match Glyph.point g with
    | .char c => decodeRuns (c :: run) gs
    | .half _ => (decode run.reverse).map Glyph.ofChar ++ g :: decodeRuns [] gs

def decodeGlyphs (gs : List γ) : List γ := decodeRuns [] gs

end Halves

end OsgiIvy.Text.Percent
