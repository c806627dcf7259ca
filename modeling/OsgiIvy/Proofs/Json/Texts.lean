import OsgiIvy.Json.Printer
import OsgiIvy.Json.Reader
import OsgiIvy.Proofs.Text.Points
import OsgiIvy.Proofs.Text.Utf8

/-!
# Texts in JSON

A text is read back from its written form: each character from its escape (`readPoint_escapeChar`),
and then the whole text up to the closing mark (`readText_writeText`).  A half of a character is
read back as well, unless what follows it completes it: two halves are written like the character
that they make up, and are read as that character (`readText_writePoints`).
-/

namespace OsgiIvy.Json

open OsgiIvy.Text
open Glyph (after? after?_eq_some_iff next?_char point_char)

/-! ### Units -/

theorem hexDigit?_digitChar : ∀ d < 16, hexDigit? (Nat.digitChar d) = some d := by
  decide

theorem readDigit_digitChar (m : Nat) (rest : List Char) :
    readDigit (Nat.digitChar (m % 16) :: rest) = some (m % 16, rest) := by
  have hdigit : hexDigit? (Nat.digitChar (m % 16)) = some (m % 16) :=
    hexDigit?_digitChar _ (Nat.mod_lt m (by omega))
  rw [readDigit, next?_char]
  simp [hdigit]

theorem readUnit_hexDigits {n : Nat} (h : n < 0x10000) (rest : List Char) :
    readUnit (hexDigits 4 n ++ rest) = some (n, rest) := by
  have hvalue :
      ((n / 16 / 16 / 16 % 16 * 16 + n / 16 / 16 % 16) * 16 + n / 16 % 16) * 16 + n % 16 = n := by
    omega
  simp [hexDigits, readUnit, readDigit_digitChar, hvalue]

/-! ### Escaped units -/

def IsFirstHalf (n : Nat) : Prop := 0xD800 ≤ n ∧ n < 0xDC00

def IsSecondHalf (n : Nat) : Prop := 0xDC00 ≤ n ∧ n < 0xE000

/-- What a text begins with is no second half, so that it does not complete a half before it. -/
def BeginsApart (cs : List Char) : Prop :=
  ∀ more, cs = '\\' :: 'u' :: more →
    ∃ low behind, readUnit more = some (low, behind) ∧ ¬IsSecondHalf low

theorem beginsApart_cons {c : Char} (h : c ≠ '\\') (rest : List Char) : BeginsApart (c :: rest) :=
  fun _ heq => absurd (List.cons.inj heq).1 h

theorem beginsApart_letter {c : Char} (h : c ≠ 'u') (rest : List Char) :
    BeginsApart ('\\' :: c :: rest) :=
  fun _ heq => absurd (List.cons.inj (List.cons.inj heq).2).1 h

theorem beginsApart_escapeUnit {n : Nat} (hn : n < 0x10000) (h : ¬IsSecondHalf n)
    (rest : List Char) : BeginsApart (escapeUnit n ++ rest) := by
  intro more heq
  obtain rfl : hexDigits 4 n ++ rest = more := (List.cons.inj (List.cons.inj heq).2).2
  exact ⟨n, rest, readUnit_hexDigits hn rest, h⟩

/-- A unit by itself. -/
theorem readPoint_escapeUnit {n : Nat} (hn : n < 0x10000) {rest : List Char}
    (h : IsFirstHalf n → BeginsApart rest) :
    readPoint (escapeUnit n ++ rest) = some (.ofNat n, rest) := by
  show readEscapedUnit (hexDigits 4 n ++ rest) = some (.ofNat n, rest)
  rw [readEscapedUnit, readUnit_hexDigits hn]
  by_cases hfirst : IsFirstHalf n
  · have hhigh : (decide (0xD800 ≤ n) && decide (n < 0xDC00)) = true := by
      simpa [IsFirstHalf] using hfirst
    simp only [Option.bind_eq_bind, Option.bind_some, hhigh, if_true]
    cases hafter : after? "\\u" rest with
    | none => rfl
    | some more =>
      obtain ⟨low, behind, hlow, hsecond⟩ := h hfirst more (after?_eq_some_iff.mp hafter)
      have hapart : ¬(decide (0xDC00 ≤ low) && decide (low < 0xE000)) = true := by
        simpa [IsSecondHalf] using hsecond
      simp only [hlow, hapart, Bool.false_eq_true, if_false]
  · have hwhole : ¬(decide (0xD800 ≤ n) && decide (n < 0xDC00)) = true := by
      simpa [IsFirstHalf] using hfirst
    simp only [Option.bind_eq_bind, Option.bind_some, hwhole, Bool.false_eq_true, if_false]

/-- Two units that make up a character. -/
theorem readPoint_escapeUnits {high low : Nat} (hhigh : IsFirstHalf high) (hlow : IsSecondHalf low)
    (rest : List Char) :
    readPoint (escapeUnit high ++ (escapeUnit low ++ rest)) =
      some (.char (charOfPair high low), rest) := by
  obtain ⟨hfirst, hfirst'⟩ := hhigh
  obtain ⟨hsecond, hsecond'⟩ := hlow
  have hafter : after? "\\u" (escapeUnit low ++ rest) = some (hexDigits 4 low ++ rest) :=
    after?_eq_some_iff.mpr rfl
  show readEscapedUnit (hexDigits 4 high ++ (escapeUnit low ++ rest)) = _
  rw [readEscapedUnit, readUnit_hexDigits (by omega)]
  simp [hfirst, hfirst', hsecond, hsecond', hafter, readUnit_hexDigits (n := low) (by omega)]

/-! ### Points -/

theorem ofNat_toNat (p : Point) : Point.ofNat p.toNat = p := by
  cases p with
  | char c =>
    have hbounds := Utf8.toNat_bounds c
    have hwhole : ¬(Point.firstHalf ≤ c.toNat ∧ c.toNat < Point.firstHalf + 0x800) := by
      unfold Point.firstHalf
      omega
    simp [Point.toNat, Point.ofNat, hwhole]
  | half n => simp [Point.toNat, Point.ofNat]

theorem readPoint_units (c : Char) (rest : List Char) :
    readPoint ((units c).flatMap escapeUnit ++ rest) = some (.char c, rest) := by
  have hbounds := Utf8.toNat_bounds c
  by_cases hplane : c.toNat < 0x10000
  · have hunits : (units c).flatMap escapeUnit = escapeUnit c.toNat := by simp [units, hplane]
    have hpoint : Point.ofNat c.toNat = .char c := ofNat_toNat (.char c)
    rw [hunits, readPoint_escapeUnit hplane, hpoint]
    rintro ⟨hfirst, hfirst'⟩
    omega
  · -- Two units of ten bits each stand for what a character is beyond the first plane.
    obtain ⟨high, hhigh⟩ : ∃ n, n = 0xD800 + (c.toNat - 0x10000) / 0x400 := ⟨_, rfl⟩
    obtain ⟨low, hlow⟩ : ∃ n, n = 0xDC00 + (c.toNat - 0x10000) % 0x400 := ⟨_, rfl⟩
    have hfirst : IsFirstHalf high := by
      unfold IsFirstHalf
      omega
    have hsecond : IsSecondHalf low := by
      unfold IsSecondHalf
      omega
    have hpair : charOfPair high low = c := by
      have hvalue : 0x10000 + (high - 0xD800) * 0x400 + (low - 0xDC00) = c.toNat := by omega
      rw [charOfPair, hvalue, Char.ofNat_toNat]
    have hunits : (units c).flatMap escapeUnit = escapeUnit high ++ escapeUnit low := by
      simp [units, hplane, hhigh, hlow]
    rw [hunits, List.append_assoc, readPoint_escapeUnits hfirst hsecond, hpair]

theorem readPoint_cons {c : Char} (hescape : c ≠ '\\') (hcontrol : 0x20 ≤ c.toNat)
    (rest : List Char) : readPoint (c :: rest) = some (.char c, rest) := by
  have hvisible : ¬(Point.char c).toNat < 0x20 := Nat.not_lt.mpr hcontrol
  simp only [readPoint, point_char, Point.char.injEq, hescape, hvisible, if_false]

/-- How a character is written: as it is, by a letter behind a backslash, or by its units. -/
theorem escapeChar_cases (c : Char) :
    escapeChar c = [c] ∧ c ≠ '\\' ∧ c ≠ '"' ∧ 0x20 ≤ c.toNat ∨
      (∃ d, escapeChar c = ['\\', d] ∧ d ≠ 'u' ∧ unescape? d = some c) ∨
      escapeChar c = (units c).flatMap escapeUnit := by
  unfold escapeChar
  split
  · next h =>
    simp only [Bool.or_eq_true, decide_eq_true_eq] at h
    rcases h with rfl | rfl <;> exact .inr (.inl ⟨_, rfl, by decide, rfl⟩)
  next hmarks =>
  simp only [Bool.or_eq_true, decide_eq_true_eq, not_or] at hmarks
  split
  · next h => exact .inr (.inl ⟨'n', rfl, by decide, by rw [h]; rfl⟩)
  split
  · next h => exact .inr (.inl ⟨'r', rfl, by decide, by rw [h]; rfl⟩)
  split
  · next h => exact .inr (.inl ⟨'t', rfl, by decide, by rw [h]; rfl⟩)
  split
  · next h => exact .inr (.inl ⟨'b', rfl, by decide, by rw [h]; rfl⟩)
  split
  · next h => exact .inr (.inl ⟨'f', rfl, by decide, by rw [h]; rfl⟩)
  split
  · next hvisible =>
    simp only [Bool.and_eq_true, decide_eq_true_eq] at hvisible
    exact .inl ⟨rfl, hmarks.2, hmarks.1, hvisible.1⟩
  · exact .inr (.inr rfl)

theorem readPoint_letter {c d : Char} (hd : d ≠ 'u') (h : unescape? d = some c)
    (rest : List Char) : readPoint ('\\' :: d :: rest) = some (.char c, rest) := by
  have hread : readPoint ('\\' :: d :: rest) = readEscape (d :: rest) := rfl
  rw [hread, readEscape, next?_char]
  split
  · next heq => exact absurd (Prod.mk.inj (Option.some.inj heq)).1 hd
  · next heq =>
    obtain ⟨rfl, rfl⟩ := Prod.mk.inj (Option.some.inj heq)
    rw [h, Option.map_some]
  · next heq => exact absurd heq nofun

/-- Every character is read back from its escape, whatever follows. -/
theorem readPoint_escapeChar (c : Char) (rest : List Char) :
    readPoint (escapeChar c ++ rest) = some (.char c, rest) := by
  rcases escapeChar_cases c with ⟨h, hescape, -, hcontrol⟩ | ⟨d, h, hd, hletter⟩ | h
  · rw [h]
    exact readPoint_cons hescape hcontrol rest
  · rw [h]
    exact readPoint_letter hd hletter rest
  · rw [h]
    exact readPoint_units c rest

theorem beginsApart_escapeChar (c : Char) (rest : List Char) :
    BeginsApart (escapeChar c ++ rest) := by
  rcases escapeChar_cases c with ⟨h, hescape, -, -⟩ | ⟨d, h, hd, -⟩ | h
  · rw [h]
    exact beginsApart_cons hescape rest
  · rw [h]
    exact beginsApart_letter hd rest
  · have hbounds := Utf8.toNat_bounds c
    obtain ⟨n, ns, hunits, hn, hsecond⟩ :
        ∃ n ns, units c = n :: ns ∧ n < 0x10000 ∧ ¬IsSecondHalf n := by
      unfold units IsSecondHalf
      dsimp only
      split
      · next hplane => exact ⟨_, _, rfl, hplane, by omega⟩
      · exact ⟨_, _, rfl, by omega, by omega⟩
    rw [h, hunits, List.flatMap_cons, List.append_assoc]
    exact beginsApart_escapeUnit hn hsecond _

/-- No escape begins with the mark that ends a text. -/
theorem escapePoint_eq_cons (p : Point) : ∃ d ds, escapePoint p = d :: ds ∧ d ≠ '"' := by
  have hbackslash : '\\' ≠ '"' := by decide
  cases p with
  | half n => exact ⟨'\\', _, rfl, hbackslash⟩
  | char c =>
    rcases escapeChar_cases c with ⟨h, -, hmark, -⟩ | ⟨d, h, -, -⟩ | h
    · exact ⟨c, [], h, hmark⟩
    · exact ⟨'\\', [d], h, hbackslash⟩
    · have hunits : ∃ n ns, units c = n :: ns := by
        unfold units
        dsimp only
        split <;> exact ⟨_, _, rfl⟩
      obtain ⟨n, ns, hunits⟩ := hunits
      exact ⟨'\\', _, by rw [escapePoint, h, hunits]; rfl, hbackslash⟩

/-! ### Texts -/

/-- Some points with every two halves that make up a character put together. -/
def joined : List Point → List Point
  | [] => []
  | .half m :: .half n :: ps =>
    if m.val < 0x400 ∧ 0x400 ≤ n.val then
      .char (charOfPair (Point.firstHalf + m) (Point.firstHalf + n)) :: joined ps
    else .half m :: joined (.half n :: ps)
  | p :: ps => p :: joined ps

theorem joined_chars (cs : List Char) : joined (cs.map .char) = cs.map .char := by
  induction cs with
  | nil => rfl
  | cons c cs ih => rw [List.map_cons, joined, ih]; exact nofun

theorem readTextPoints_of_readPoint {fuel : Nat} {p : Point} {d : Char} {ds rest : List Char}
    (hd : d ≠ '"') (hread : readPoint (d :: ds) = some (p, rest)) :
    readTextPoints (fuel + 1) (d :: ds) =
      (readTextPoints fuel rest).map fun r => (p :: r.1, r.2) := by
  rw [readTextPoints, next?_char]
  split
  · next heq => exact absurd (Prod.mk.inj (Option.some.inj heq)).1 hd
  · rw [hread]
    show ((readTextPoints fuel rest).bind fun r => some (p :: r.1, r.2)) = _
    cases readTextPoints fuel rest <;> rfl

/-- What is written behind the mark that opens a text. -/
def written (ps : List Point) (rest : List Char) : List Char :=
  ps.flatMap escapePoint ++ '"' :: rest

theorem written_cons (p : Point) (ps : List Point) (rest : List Char) :
    written (p :: ps) rest = escapePoint p ++ written ps rest := by
  rw [written, written, List.flatMap_cons, List.append_assoc]

theorem readTextPoints_cons {fuel : Nat} {p q : Point} {ps : List Point} {rest more : List Char}
    (hread : readPoint (written (p :: ps) rest) = some (q, more)) :
    readTextPoints (fuel + 1) (written (p :: ps) rest) =
      (readTextPoints fuel more).map fun r => (q :: r.1, r.2) := by
  obtain ⟨d, ds, hescape, hd⟩ := escapePoint_eq_cons p
  rw [written_cons, hescape, List.cons_append] at hread ⊢
  exact readTextPoints_of_readPoint hd hread

/-- A half that begins a character is not followed by one that ends it. -/
def StandsApart (m : Fin 0x800) : List Point → Prop
  | .half n :: _ => ¬(m.val < 0x400 ∧ 0x400 ≤ n.val)
  | _ => True

theorem readPoint_half {m : Fin 0x800} {ps : List Point} (h : StandsApart m ps)
    (rest : List Char) :
    readPoint (written (.half m :: ps) rest) = some (.half m, written ps rest) := by
  have hpoint : Point.ofNat (Point.firstHalf + m) = .half m := ofNat_toNat (.half m)
  have hbound : Point.firstHalf + m < 0x10000 := by
    unfold Point.firstHalf
    omega
  rw [written_cons, escapePoint, readPoint_escapeUnit hbound, hpoint]
  rintro ⟨-, hfirst⟩
  match ps, h with
  | [], _ => exact beginsApart_cons (by decide) rest
  | .char c :: ps, _ =>
    rw [written_cons]
    exact beginsApart_escapeChar c _
  | .half n :: ps, h =>
    rw [written_cons]
    refine beginsApart_escapeUnit ?_ ?_ _
    · unfold Point.firstHalf
      omega
    · rintro ⟨hsecond, -⟩
      unfold Point.firstHalf at hfirst hsecond
      exact h ⟨by omega, by omega⟩

theorem readPoint_pair {m n : Fin 0x800} (h : m.val < 0x400 ∧ 0x400 ≤ n.val) (ps : List Point)
    (rest : List Char) :
    readPoint (written (.half m :: .half n :: ps) rest) =
      some (.char (charOfPair (Point.firstHalf + m) (Point.firstHalf + n)), written ps rest) := by
  have hfirst : IsFirstHalf (Point.firstHalf + m) := by
    unfold IsFirstHalf Point.firstHalf
    omega
  have hsecond : IsSecondHalf (Point.firstHalf + n) := by
    unfold IsSecondHalf Point.firstHalf
    omega
  rw [written_cons, written_cons]
  exact readPoint_escapeUnits hfirst hsecond _

/-- Points are read back up to the closing mark, halves that make up a character as the
character. -/
theorem readTextPoints_written {fuel : Nat} {ps : List Point} (h : ps.length < fuel)
    (rest : List Char) : readTextPoints fuel (written ps rest) = some (joined ps, rest) := by
  obtain ⟨fuel, rfl⟩ : ∃ n, fuel = n + 1 := ⟨fuel - 1, by omega⟩
  fun_induction joined ps generalizing fuel with
  | case1 => rfl
  | case2 m n ps hpair ih =>
    rw [List.length_cons, List.length_cons] at h
    obtain ⟨fuel, rfl⟩ : ∃ k, fuel = k + 1 := ⟨fuel - 1, by omega⟩
    rw [readTextPoints_cons (readPoint_pair hpair ps rest), ih fuel (by omega), Option.map_some]
  | case3 m n ps hapart ih =>
    rw [List.length_cons] at h
    obtain ⟨fuel, rfl⟩ : ∃ k, fuel = k + 1 := ⟨fuel - 1, by omega⟩
    have hstands : StandsApart m (.half n :: ps) := hapart
    rw [readTextPoints_cons (readPoint_half hstands rest), ih fuel (by omega), Option.map_some]
  | case4 p ps halone ih =>
    rw [List.length_cons] at h
    obtain ⟨fuel, rfl⟩ : ∃ k, fuel = k + 1 := ⟨fuel - 1, by omega⟩
    have hread : readPoint (written (p :: ps) rest) = some (p, written ps rest) := by
      cases p with
      | char c =>
        rw [written_cons]
        exact readPoint_escapeChar c _
      | half m =>
        refine readPoint_half ?_ rest
        match ps with
        | [] => trivial
        | .char c :: ps => trivial
        | .half n :: ps => exact absurd rfl (halone m n ps rfl)
    rw [readTextPoints_cons hread, ih fuel (by omega), Option.map_some]

theorem length_le_length_escape (ps : List Point) :
    ps.length ≤ (ps.flatMap escapePoint).length := by
  induction ps with
  | nil => exact Nat.le_refl 0
  | cons p ps ih =>
    obtain ⟨d, ds, hescape, -⟩ := escapePoint_eq_cons p
    rw [List.flatMap_cons, hescape, List.length_append, List.length_cons, List.length_cons]
    omega

/-- What is written of some points behind the opening mark is read back as their text, halves that
make up a character as the character. -/
theorem readText_writePoints {fuel : Nat} {ps : List Point} (h : (writePoints ps).length ≤ fuel)
    (rest : List Char) :
    ∃ cs, writePoints ps ++ rest = '"' :: cs ∧
      readText fuel cs = some (.ofPoints (joined ps), rest) := by
  refine ⟨written ps rest, ?_, ?_⟩
  · simp [writePoints, written]
  · have hlength := length_le_length_escape ps
    simp only [writePoints, List.length_append, List.length_cons, List.length_nil] at h
    rw [readText, readTextPoints_written (by omega), Option.map_some]

theorem writeText_eq (s : String) : writeText s = writePoints (Point.ofString s) := by
  rw [writeText, writePoints, Point.ofString, List.flatMap_map]
  rfl

/-- What is written behind the opening mark is read back as the text. -/
theorem readText_writeText {fuel : Nat} {s : String} (h : (writeText s).length ≤ fuel)
    (rest : List Char) :
    ∃ cs, writeText s ++ rest = '"' :: cs ∧ readText fuel cs = some (.string s, rest) := by
  have hjoined : joined (Point.ofString s) = Point.ofString s := joined_chars s.toList
  rw [writeText_eq] at h ⊢
  have hread := readText_writePoints h rest
  rwa [hjoined, Value.ofPoints_ofString] at hread

end OsgiIvy.Json
