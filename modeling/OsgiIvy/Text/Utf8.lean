/-!
# UTF-8

Characters as octets.  `decode` takes any octets: every maximal run that begins like a character
and does not go on like one gives one replacement character, as does an octet that begins nothing.
`decode?` takes well-formed octets only.
-/

namespace OsgiIvy.Text.Utf8

abbrev Octets := List UInt8

def octet (n : Nat) : UInt8 := n.toUInt8

def encodeChar (c : Char) : Octets :=
  let n := c.toNat
  if n < 0x80 then [octet n]
  else if n < 0x800 then [octet (0xC0 + n / 0x40), octet (0x80 + n % 0x40)]
  else if n < 0x10000 then
    [octet (0xE0 + n / 0x1000), octet (0x80 + n / 0x40 % 0x40), octet (0x80 + n % 0x40)]
  else
    [octet (0xF0 + n / 0x40000), octet (0x80 + n / 0x1000 % 0x40), octet (0x80 + n / 0x40 % 0x40),
      octet (0x80 + n % 0x40)]

def encode (cs : List Char) : Octets := cs.flatMap encodeChar

/-! ### Decoding -/

def replacement : Char := '\uFFFD'

/-- Between two octets: at the start of a character, or inside one with the bits read so far, the
count of octets still to come and the bounds of the next. -/
inductive State
  | start
  | inside (bits more low high : Nat)
deriving DecidableEq, Repr

/-- What an octet at the start of a character gives.  The bounds keep out longer forms than
needed, surrogates and numbers beyond the last character. -/
def lead (n : Nat) : List Char × State :=
  if n < 0x80 then ([Char.ofNat n], .start)
  else if 0xC2 ≤ n && n ≤ 0xDF then ([], .inside (n - 0xC0) 1 0x80 0xBF)
  else if n = 0xE0 then ([], .inside 0 2 0xA0 0xBF)
  else if n = 0xED then ([], .inside 0xD 2 0x80 0x9F)
  else if 0xE1 ≤ n && n ≤ 0xEF then ([], .inside (n - 0xE0) 2 0x80 0xBF)
  else if n = 0xF0 then ([], .inside 0 3 0x90 0xBF)
  else if 0xF1 ≤ n && n ≤ 0xF3 then ([], .inside (n - 0xF0) 3 0x80 0xBF)
  else if n = 0xF4 then ([], .inside 4 3 0x80 0x8F)
  else ([replacement], .start)

/-- Takes one octet.  One that does not go on with the character begins the next. -/
def step (s : State) (b : UInt8) : List Char × State :=
  let n := b.toNat
  match s with
  | .start => lead n
  | .inside bits more low high =>
    if low ≤ n && n ≤ high then
      let bits := bits * 0x40 + (n - 0x80)
      if more ≤ 1 then ([Char.ofNat bits], .start) else ([], .inside bits (more - 1) 0x80 0xBF)
    else
      let (cs, next) := lead n
      (replacement :: cs, next)

def decodeFrom : State → Octets → List Char
  | .start, [] => []
  | .inside .., [] => [replacement]
  | s, b :: rest =>
    let (cs, next) := step s b
    cs ++ decodeFrom next rest

def decode (bs : Octets) : List Char := decodeFrom .start bs

/-- The characters that the octets are written form of, if they are well-formed: the octets are
those of what they decode to. -/
def decode? (bs : Octets) : Option (List Char) :=
  let cs := decode bs
  if encode cs = bs then some cs else none

theorem encode_of_decode? {bs : Octets} {cs : List Char} (h : decode? bs = some cs) :
    encode cs = bs := by
  simp only [decode?, Option.ite_none_right_eq_some, Option.some.injEq] at h
  exact h.2 ▸ h.1

end OsgiIvy.Text.Utf8
