import Mathlib.Tactic.SplitIfs
import OsgiIvy.Text.Utf8

/-!
# UTF-8 read back

Decoding undoes encoding (`decode_encode`).  A lead octet settles how many octets follow and between
which bounds the next one lies; these bounds leave out just what no character is written as.
-/

namespace OsgiIvy.Text.Utf8

theorem toNat_octet {n : Nat} (h : n < 256) : (octet n).toNat = n := by
  rw [octet, Nat.toUInt8_eq, UInt8.toNat_ofNat', Nat.mod_eq_of_lt h]

/-! ### Lead octets -/

theorem lead_one {n : Nat} (h : n < 0x80) : lead n = ([Char.ofNat n], .start) := by
  simp [lead, h]

theorem lead_two : ∀ k < 32, 2 ≤ k → lead (0xC0 + k) = ([], .inside k 1 0x80 0xBF) := by
  decide

theorem lead_three : ∀ k < 16, lead (0xE0 + k) =
    ([], .inside k 2 (if k = 0 then 0xA0 else 0x80) (if k = 0xD then 0x9F else 0xBF)) := by
  decide

theorem lead_four : ∀ k < 5, lead (0xF0 + k) =
    ([], .inside k 3 (if k = 0 then 0x90 else 0x80) (if k = 4 then 0x8F else 0xBF)) := by
  decide

theorem decodeFrom_lead {n : Nat} (h : n < 256) {s : State} {cs : List Char}
    (hlead : lead n = (cs, s)) (rest : Octets) :
    decodeFrom .start (octet n :: rest) = cs ++ decodeFrom s rest := by
  simp only [decodeFrom, step, toNat_octet h, hlead]

/-! ### Octets inside a character -/

theorem decodeFrom_more {n low high : Nat} (h : n < 256) (hlow : low ≤ n) (hhigh : n ≤ high)
    (bits more : Nat) (rest : Octets) :
    decodeFrom (.inside bits (more + 2) low high) (octet n :: rest) =
      decodeFrom (.inside (bits * 0x40 + (n - 0x80)) (more + 1) 0x80 0xBF) rest := by
  simp [decodeFrom, step, toNat_octet h, hlow, hhigh]

theorem decodeFrom_last {n low high : Nat} (h : n < 256) (hlow : low ≤ n) (hhigh : n ≤ high)
    (bits : Nat) (rest : Octets) :
    decodeFrom (.inside bits 1 low high) (octet n :: rest) =
      Char.ofNat (bits * 0x40 + (n - 0x80)) :: decodeFrom .start rest := by
  simp [decodeFrom, step, toNat_octet h, hlow, hhigh]

/-! ### Progress -/

theorem lead_progress (n : Nat) : (lead n).1 ≠ [] ∨ (lead n).2 ≠ .start := by
  unfold lead
  split_ifs <;> simp

/-- No octet is lost: it gives a character or leaves one begun. -/
theorem step_progress (s : State) (b : UInt8) : (step s b).1 ≠ [] ∨ (step s b).2 ≠ .start := by
  cases s with
  | start => exact lead_progress b.toNat
  | inside bits more low high =>
    unfold step
    dsimp only
    split_ifs <;> simp

theorem decodeFrom_ne_nil {s : State} {bs : Octets} (h : bs ≠ [] ∨ s ≠ .start) :
    decodeFrom s bs ≠ [] := by
  induction bs generalizing s with
  | nil =>
    cases s with
    | start => simp at h
    | inside bits more low high => simp [decodeFrom]
  | cons b bs ih =>
    have hstep : decodeFrom s (b :: bs) = (step s b).1 ++ decodeFrom (step s b).2 bs := by
      rw [decodeFrom]
    rw [hstep]
    rcases step_progress s b with hcs | hnext
    · exact List.append_ne_nil_of_left_ne_nil hcs _
    · exact List.append_ne_nil_of_right_ne_nil _ (ih (.inr hnext))

/-! ### Characters -/

/-- The numbers of characters: the surrogates are none. -/
theorem toNat_bounds (c : Char) :
    c.toNat < 0xD800 ∨ 0xDFFF < c.toNat ∧ c.toNat < 0x110000 := by
  have h := c.valid
  rw [UInt32.isValidChar, Nat.isValidChar] at h
  exact h

theorem decodeFrom_encodeChar (c : Char) (rest : Octets) :
    decodeFrom .start (encodeChar c ++ rest) = c :: decodeFrom .start rest := by
  have hbounds := toNat_bounds c
  have hchar : Char.ofNat c.toNat = c := Char.ofNat_toNat c
  generalize hn : c.toNat = n at hbounds hchar
  -- One case for each number of octets; the bounds of the second one follow from those of `n`.
  by_cases h1 : n < 0x80
  · have hoctets : encodeChar c = [octet n] := by simp [encodeChar, hn, h1]
    rw [hoctets, List.singleton_append, decodeFrom_lead (by omega) (lead_one h1), hchar]
    rfl
  by_cases h2 : n < 0x800
  · have hoctets : encodeChar c = [octet (0xC0 + n / 0x40), octet (0x80 + n % 0x40)] := by
      simp [encodeChar, hn, h1, h2]
    have hbits : n / 0x40 * 0x40 + (0x80 + n % 0x40 - 0x80) = n := by omega
    rw [hoctets, List.cons_append, decodeFrom_lead (by omega) (lead_two _ (by omega) (by omega)),
      List.nil_append, List.singleton_append,
      decodeFrom_last (by omega) (by omega) (by omega), hbits, hchar]
  by_cases h3 : n < 0x10000
  · have hoctets : encodeChar c = [octet (0xE0 + n / 0x1000), octet (0x80 + n / 0x40 % 0x40),
        octet (0x80 + n % 0x40)] := by
      simp [encodeChar, hn, h1, h2, h3]
    have hbits : (n / 0x1000 * 0x40 + (0x80 + n / 0x40 % 0x40 - 0x80)) * 0x40 +
        (0x80 + n % 0x40 - 0x80) = n := by omega
    rw [hoctets, List.cons_append, decodeFrom_lead (by omega) (lead_three _ (by omega)),
      List.nil_append, List.cons_append,
      decodeFrom_more (by omega) (by split <;> omega) (by split <;> omega) _ 0,
      List.singleton_append, decodeFrom_last (by omega) (by omega) (by omega), hbits, hchar]
  · have hoctets : encodeChar c = [octet (0xF0 + n / 0x40000), octet (0x80 + n / 0x1000 % 0x40),
        octet (0x80 + n / 0x40 % 0x40), octet (0x80 + n % 0x40)] := by
      simp [encodeChar, hn, h1, h2, h3]
    have hbits : ((n / 0x40000 * 0x40 + (0x80 + n / 0x1000 % 0x40 - 0x80)) * 0x40 +
        (0x80 + n / 0x40 % 0x40 - 0x80)) * 0x40 + (0x80 + n % 0x40 - 0x80) = n := by omega
    rw [hoctets, List.cons_append, decodeFrom_lead (by omega) (lead_four _ (by omega)),
      List.nil_append, List.cons_append,
      decodeFrom_more (by omega) (by split <;> omega) (by split <;> omega) _ 1,
      List.cons_append, decodeFrom_more (by omega) (by omega) (by omega) _ 0,
      List.singleton_append, decodeFrom_last (by omega) (by omega) (by omega), hbits, hchar]

theorem decode_encode (cs : List Char) : decode (encode cs) = cs := by
  induction cs with
  | nil => rfl
  | cons c cs ih =>
    have hoctets : encode (c :: cs) = encodeChar c ++ encode cs := List.flatMap_cons
    rw [decode] at ih ⊢
    rw [hoctets, decodeFrom_encodeChar, ih]

theorem decode?_encode (cs : List Char) : decode? (encode cs) = some cs := by
  rw [decode?, decode_encode, if_pos rfl]

end OsgiIvy.Text.Utf8
