import OsgiIvy.Proofs.Text.Points
import OsgiIvy.Proofs.Text.Utf8
import OsgiIvy.Text.Percent

/-!
# Percent coding read back

Decoding undoes encoding (`decode_encode`), and an encoded text holds unreserved characters and
percent signs only (`unreserved_of_mem_encode`), so that it can stand between delimiters.
-/

namespace OsgiIvy.Text.Percent

open Glyph (Keeps exists_half map_ofChar_chars ofChar ofChar_or_isHalf point point_ofChar
  shown_ofChar)
open Utf8 (Octets)

/-! ### Octets -/

theorem hexDigit?_upperHex : ∀ k < 16, hexDigit? (upperHex k) = some k := by
  decide

theorem isUnreserved_upperHex : ∀ k < 16, isUnreserved (upperHex k) = true := by
  decide

theorem octet?_upperHex (b : UInt8) :
    octet? (upperHex (b.toNat / 16)) (upperHex (b.toNat % 16)) = some b := by
  have hb : b.toNat < 256 := b.toNat_lt
  have hvalue : b.toNat / 16 * 16 + b.toNat % 16 = b.toNat := by omega
  rw [octet?, hexDigit?_upperHex _ (by omega), hexDigit?_upperHex _ (by omega)]
  show some (b.toNat / 16 * 16 + b.toNat % 16).toUInt8 = some b
  rw [hvalue, Nat.toUInt8_eq, UInt8.ofNat_toNat]

theorem decodeAfter_escapeOctet (octets : Octets) (b : UInt8) (rest : List Char) :
    decodeAfter octets (escapeOctet b ++ rest) = decodeAfter (b :: octets) rest := by
  simp [escapeOctet, decodeAfter, octet?_upperHex]

theorem decodeAfter_escapeOctets (octets bs : Octets) (rest : List Char) :
    decodeAfter octets (bs.flatMap escapeOctet ++ rest) =
      decodeAfter (bs.reverse ++ octets) rest := by
  induction bs generalizing octets with
  | nil => rfl
  | cons b bs ih =>
    rw [List.flatMap_cons, List.append_assoc, decodeAfter_escapeOctet, ih, List.reverse_cons,
      List.append_assoc, List.singleton_append]

/-! ### Characters -/

theorem unreserved_bounds {c : Char} (h : isUnreserved c = true) : c.toNat < 0x80 ∧ c ≠ '%' := by
  constructor
  · unfold isUnreserved Char.isAlphanum Char.isAlpha Char.isUpper Char.isLower Char.isDigit at h
    simp only [Bool.or_eq_true, Bool.and_eq_true, decide_eq_true_eq] at h
    rcases h with ((((((⟨-, h⟩ | ⟨-, h⟩) | ⟨-, h⟩) | rfl) | rfl) | rfl) | rfl)
    · exact Nat.lt_of_le_of_lt (UInt32.le_iff_toNat_le.mp h) (by decide)
    · exact Nat.lt_of_le_of_lt (UInt32.le_iff_toNat_le.mp h) (by decide)
    · exact Nat.lt_of_le_of_lt (UInt32.le_iff_toNat_le.mp h) (by decide)
    all_goals decide
  · rintro rfl
    exact absurd h (by decide)

theorem decodeAfter_cons {c : Char} (hascii : c.toNat < 0x80) (hpercent : c ≠ '%')
    (octets : Octets) (rest : List Char) :
    decodeAfter octets (c :: rest) = decodeAfter (c.toNat.toUInt8 :: octets) rest := by
  rw [decodeAfter]
  · rw [if_pos hascii]
  · intro a b more h
    exact absurd h hpercent

theorem decodeAfter_encodeChar (octets : Octets) (c : Char) (rest : List Char) :
    decodeAfter octets (encodeChar c ++ rest) =
      decodeAfter ((Utf8.encodeChar c).reverse ++ octets) rest := by
  rw [encodeChar]
  split
  · next hc =>
    obtain ⟨hascii, hpercent⟩ := unreserved_bounds hc
    have hoctets : Utf8.encodeChar c = [c.toNat.toUInt8] := by
      simp [Utf8.encodeChar, hascii, Utf8.octet]
    rw [List.singleton_append, decodeAfter_cons hascii hpercent, hoctets]
    rfl
  · exact decodeAfter_escapeOctets octets (Utf8.encodeChar c) rest

/-! ### Texts -/

/-- The octets are gathered to the end and read as UTF-8 together. -/
theorem decodeAfter_encode (octets : Octets) (cs : List Char) :
    decodeAfter octets (encode cs) = Utf8.decode (octets.reverse ++ Utf8.encode cs) := by
  induction cs generalizing octets with
  | nil => simp [encode, Utf8.encode, decodeAfter]
  | cons c cs ih =>
    have hchars : encode (c :: cs) = encodeChar c ++ encode cs := List.flatMap_cons
    have hoctets : Utf8.encode (c :: cs) = Utf8.encodeChar c ++ Utf8.encode cs := List.flatMap_cons
    rw [hchars, decodeAfter_encodeChar, ih, hoctets, List.reverse_append, List.reverse_reverse,
      List.append_assoc]

theorem decode_encode (cs : List Char) : decode (encode cs) = cs := by
  rw [decode, decodeAfter_encode, List.reverse_nil, List.nil_append, Utf8.decode_encode]

/-- In a text without halves everything is decoded together. -/
theorem decodeRuns_chars (run cs : List Char) : decodeRuns run cs = decode (run.reverse ++ cs) := by
  induction cs generalizing run with
  | nil => rw [decodeRuns, map_ofChar_chars, List.append_nil]
  | cons c cs ih =>
    have hstep : decodeRuns run (c :: cs) = decodeRuns (c :: run) cs := rfl
    rw [hstep, ih, List.reverse_cons, List.append_assoc, List.singleton_append]

theorem decodeGlyphs_chars (cs : List Char) : decodeGlyphs cs = decode cs := decodeRuns_chars [] cs

theorem decodeAfter_ne_nil {octets : Octets} {cs : List Char} (h : octets ≠ [] ∨ cs ≠ []) :
    decodeAfter octets cs ≠ [] := by
  fun_induction decodeAfter octets cs with
  | case1 octets =>
    have hoctets : octets.reverse ≠ [] := by simpa using h
    exact Utf8.decodeFrom_ne_nil (.inl hoctets)
  | case2 octets a b rest o ho ih => exact ih (.inl (List.cons_ne_nil o octets))
  | case3 octets a b rest ho ih => exact ih (.inl (List.cons_ne_nil _ octets))
  | case4 octets c rest hc hascii ih => exact ih (.inl (List.cons_ne_nil _ octets))
  | case5 octets c rest hc hascii ih => simp

/-- What is written stands for something, be it replacement characters. -/
theorem decode_ne_nil {cs : List Char} (h : cs ≠ []) : decode cs ≠ [] :=
  decodeAfter_ne_nil (.inr h)

theorem unreserved_of_mem_encode {c : Char} {cs : List Char} (h : c ∈ encode cs) :
    isUnreserved c = true ∨ c = '%' := by
  obtain ⟨d, -, h⟩ := List.mem_flatMap.mp h
  rw [encodeChar] at h
  split at h
  · next hd => exact .inl (List.mem_singleton.mp h ▸ hd)
  · obtain ⟨b, -, h⟩ := List.mem_flatMap.mp h
    have hb : b.toNat < 256 := b.toNat_lt
    simp only [escapeOctet, List.mem_cons, List.not_mem_nil, or_false] at h
    rcases h with rfl | rfl | rfl
    · exact .inr rfl
    · exact .inl (isUnreserved_upperHex _ (by omega))
    · exact .inl (isUnreserved_upperHex _ (by omega))

/-- No delimiter stands in an encoded text. -/
theorem not_mem_encode {c : Char} (h : isUnreserved c = false) (hpercent : c ≠ '%')
    (cs : List Char) : c ∉ encode cs := by
  intro hc
  rcases unreserved_of_mem_encode hc with hunreserved | hc
  · rw [h] at hunreserved
    exact Bool.noConfusion hunreserved
  · exact hpercent hc

/-! ### Halves -/

theorem octet?_replacement (a : Char) :
    octet? '\uFFFD' a = none ∧ octet? a '\uFFFD' = none := by
  have hnone : hexDigit? '\uFFFD' = none := by decide
  unfold octet?
  rw [hnone]
  cases hexDigit? a <;> exact ⟨rfl, rfl⟩

/-- A percent sign without two digits is an octet like any other. -/
theorem decodeAfter_ascii {c : Char} (hascii : c.toNat < 0x80) {cs : List Char}
    (h : ∀ a b rest, cs = a :: b :: rest → c = '%' → octet? a b = none) (octets : Octets) :
    decodeAfter octets (c :: cs) = decodeAfter (c.toNat.toUInt8 :: octets) cs := by
  by_cases hpercent : c = '%'
  · subst hpercent
    match cs, h with
    | [], _ => rfl
    | [a], _ => rfl
    | a :: b :: rest, h => rw [decodeAfter, h a b rest rfl rfl]
  · exact decodeAfter_cons hascii hpercent octets cs

/-- What stands in front of a replacement character is decoded by itself. -/
theorem decodeAfter_append_replacement (octets : Octets) (cs ds : List Char) :
    decodeAfter octets (cs ++ '\uFFFD' :: ds) =
      decodeAfter octets cs ++ '\uFFFD' :: decode ds := by
  fun_induction decodeAfter octets cs with
  | case1 octets => rfl
  | case2 octets a b rest o ho ih => simp [decodeAfter, ho, ih]
  | case3 octets a b rest ho ih =>
    rw [List.cons_append, List.cons_append, List.cons_append, decodeAfter, ho]
    exact ih
  | case4 octets c rest hc hascii ih =>
    rw [List.cons_append, decodeAfter_ascii hascii, ih]
    intro a b more hsplit hpercent
    match rest, hsplit with
    | [], hsplit => exact (List.cons.inj hsplit).1 ▸ (octet?_replacement b).1
    | [x], hsplit =>
      obtain ⟨hb, -⟩ := List.cons.inj (List.cons.inj hsplit).2
      exact hb ▸ (octet?_replacement a).2
    | x :: y :: rest, _ => exact absurd rfl (hc x y rest hpercent)
  | case5 octets c rest hc hascii ih =>
    rw [List.cons_append, decodeAfter, if_neg hascii, ih, List.append_assoc, List.cons_append]
    exact fun a b more hpercent _ => absurd (hpercent ▸ hascii) (by decide)

theorem decode_append_replacement (cs ds : List Char) :
    decode (cs ++ '\uFFFD' :: ds) = decode cs ++ '\uFFFD' :: decode ds :=
  decodeAfter_append_replacement [] cs ds

section Keeps

variable {γ δ : Type} [Glyph γ] [Glyph δ]

theorem decodeRuns_append_replacement (front run : List Char) (gs : List γ) :
    decodeRuns (front ++ '\uFFFD' :: run) gs =
      (decode run.reverse).map ofChar ++ ofChar '\uFFFD' :: decodeRuns front gs := by
  induction gs generalizing front with
  | nil =>
    rw [decodeRuns, decodeRuns, List.reverse_append, List.reverse_cons, List.append_assoc,
      List.singleton_append, decode_append_replacement, List.map_append, List.map_cons]
  | cons g gs ih =>
    rw [decodeRuns, decodeRuns]
    cases point g with
    | char c => exact ih (c :: front)
    | half n =>
      rw [List.reverse_append, List.reverse_cons, List.append_assoc, List.singleton_append,
        decode_append_replacement, List.map_append, List.map_cons, List.append_assoc,
        List.cons_append]

variable {f : γ → δ} (hf : Keeps f)
include hf

/-- Halves that change do not change what is decoded around them. -/
theorem decodeRuns_map (run : List Char) (gs : List γ) :
    decodeRuns run (gs.map f) = (decodeRuns run gs).map f := by
  induction gs generalizing run with
  | nil => rw [List.map_nil, decodeRuns, decodeRuns, hf.map_ofChar]
  | cons g gs ih =>
    rw [List.map_cons, decodeRuns, decodeRuns]
    rcases ofChar_or_isHalf g with ⟨c, rfl⟩ | hhalf
    · rw [hf.ofChar, point_ofChar, point_ofChar]
      exact ih (c :: run)
    · have hshown := hf.half g hhalf
      obtain ⟨n, hn⟩ := exists_half hhalf
      rw [hn, List.map_append, hf.map_ofChar, List.map_cons, ← ih]
      rcases ofChar_or_isHalf (f g) with ⟨c, hc⟩ | hhalf'
      · obtain rfl : c = '\uFFFD' := by rw [← hshown, hc, shown_ofChar]
        rw [hc, point_ofChar]
        exact decodeRuns_append_replacement [] run (gs.map f)
      · obtain ⟨m, hm⟩ := exists_half hhalf'
        rw [hm]

theorem decodeGlyphs_map (gs : List γ) : decodeGlyphs (gs.map f) = (decodeGlyphs gs).map f :=
  decodeRuns_map hf [] gs

end Keeps

end OsgiIvy.Text.Percent
