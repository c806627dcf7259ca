/-!
# Digits

Decimal and hexadecimal digits, of which only those of ASCII count, and numbers written with a fixed
count of decimal digits.  `readDigits_padded` says that reading undoes writing.
-/

namespace OsgiIvy.Text

def digitValue (c : Char) : Nat := c.toNat - 0x30

/-- The value of a hexadecimal digit. -/
def hexDigit? (c : Char) : Option Nat :=
  if c.isDigit then some (digitValue c)
  else if 'a' ≤ c && c ≤ 'f' then some (c.toNat - 0x57)
  else if 'A' ≤ c && c ≤ 'F' then some (c.toNat - 0x37)
  else none

def isHexDigit (c : Char) : Bool := (hexDigit? c).isSome

/-- The value of a row of hexadecimal digits. -/
def hexDigitsValue (cs : List Char) : Nat := cs.foldl (fun n c => 16 * n + (hexDigit? c).getD 0) 0

/-- The value of a row of digits. -/
def digitsValue (cs : List Char) : Nat := cs.foldl (fun n c => 10 * n + digitValue c) 0

/-- The last `width` decimal digits of a number. -/
def padded : Nat → Nat → List Char
  | 0, _ => []
  | width + 1, n => padded width (n / 10) ++ [Nat.digitChar (n % 10)]

theorem padded_length (width n : Nat) : (padded width n).length = width := by
  induction width generalizing n with
  | zero => rfl
  | succ width ih => simp [padded, ih]

/-- A text's first `width` characters as a number, and the text after them; nothing unless all of
them are digits. -/
def readDigits (width : Nat) (cs : List Char) : Option (Nat × List Char) :=
  let digits := cs.take width
  if digits.length = width && digits.all Char.isDigit then some (digitsValue digits, cs.drop width)
  else none

theorem digitChar_isDigit {n : Nat} (h : n < 10) : (Nat.digitChar n).isDigit = true := by
  revert h; revert n; decide

theorem digitValue_digitChar {n : Nat} (h : n < 10) : digitValue (Nat.digitChar n) = n := by
  revert h; revert n; decide

theorem padded_all_isDigit (width n : Nat) : (padded width n).all Char.isDigit = true := by
  induction width generalizing n with
  | zero => rfl
  | succ width ih =>
    have hd : (Nat.digitChar (n % 10)).isDigit = true := digitChar_isDigit (Nat.mod_lt _ (by omega))
    simp [padded, List.all_append, ih, hd]

theorem digitsValue_padded {width n : Nat} (h : n < Nat.pow 10 width) :
    digitsValue (padded width n) = n := by
  induction width generalizing n with
  | zero =>
    have : n = 0 := by simpa using h
    subst this
    rfl
  | succ width ih =>
    have hq : n / 10 < Nat.pow 10 width := by
      rw [show Nat.pow 10 (width + 1) = Nat.pow 10 width * 10 from rfl] at h
      exact Nat.div_lt_of_lt_mul (by omega)
    have hv := ih hq
    have hd := digitValue_digitChar (Nat.mod_lt n (by omega : 0 < 10))
    simp only [digitsValue, padded, List.foldl_append, List.foldl_cons, List.foldl_nil] at hv ⊢
    rw [hv, hd]
    omega

theorem readDigits_padded {width n : Nat} (h : n < Nat.pow 10 width) (rest : List Char) :
    readDigits width (padded width n ++ rest) = some (n, rest) := by
  have hl := padded_length width n
  have ht : (padded width n ++ rest).take width = padded width n := by
    rw [List.take_append_of_le_length (by omega), List.take_of_length_le (by omega)]
  have hd : (padded width n ++ rest).drop width = rest := by
    rw [List.drop_append_of_le_length (by omega), List.drop_of_length_le (by omega),
      List.nil_append]
  simp only [readDigits, ht, hd, hl, padded_all_isDigit, digitsValue_padded h, decide_true,
    Bool.and_self, if_true]

end OsgiIvy.Text
