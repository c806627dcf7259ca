/-!
# Blanks

White space as manifests, descriptions and command lines know it, and the removal of blanks at
the ends of a text.  `strip_eq_self_iff` says which texts are left as they are.
-/

namespace OsgiIvy.Text

/-- White space: the Unicode property together with the four information separators
U+001C to U+001F.  The zero-width space and the byte-order mark are not blank. -/
def isBlank (c : Char) : Bool :=
  let n := c.toNat
  (0x09 ≤ n && n ≤ 0x0D) || (0x1C ≤ n && n ≤ 0x20) || n == 0x85 || n == 0xA0 || n == 0x1680 ||
    (0x2000 ≤ n && n ≤ 0x200A) || n == 0x2028 || n == 0x2029 || n == 0x202F || n == 0x205F ||
    n == 0x3000

/-- A text of blanks only; the empty text is one. -/
def isBlankText (cs : List Char) : Bool := cs.all isBlank

/-! ### Stripping -/

def stripStart (cs : List Char) : List Char := cs.dropWhile isBlank

def stripEnd (cs : List Char) : List Char := (cs.reverse.dropWhile isBlank).reverse

/-- The text without the blanks at its two ends. -/
def strip (cs : List Char) : List Char := stripEnd (stripStart cs)

/-- No blank at either end: the first and the last character, if there are any, are not blank. -/
def IsStripped (cs : List Char) : Prop :=
  (∀ c, cs.head? = some c → isBlank c = false) ∧ (∀ c, cs.getLast? = some c → isBlank c = false)

theorem stripStart_eq_self_iff (cs : List Char) :
    stripStart cs = cs ↔ ∀ c, cs.head? = some c → isBlank c = false := by
  cases cs with
  | nil => simp [stripStart]
  | cons c cs =>
    by_cases h : isBlank c = true
    · have : (cs.dropWhile isBlank).length ≤ cs.length :=
        (List.dropWhile_sublist isBlank).length_le
      constructor
      · intro e
        have := congrArg List.length e
        simp only [stripStart, List.dropWhile_cons, h, if_true, List.length_cons] at this
        omega
      · intro e
        simp [h] at e
    · simp [stripStart, h]

theorem stripEnd_eq_self_iff (cs : List Char) :
    stripEnd cs = cs ↔ ∀ c, cs.getLast? = some c → isBlank c = false := by
  have h := stripStart_eq_self_iff cs.reverse
  simp only [stripStart, List.head?_reverse] at h
  rw [← h, stripEnd, List.reverse_eq_iff]

theorem strip_eq_self_of_isStripped {cs : List Char} (h : IsStripped cs) : strip cs = cs := by
  rw [strip, (stripStart_eq_self_iff cs).2 h.1, (stripEnd_eq_self_iff cs).2 h.2]

theorem stripEnd_length_le (cs : List Char) : (stripEnd cs).length ≤ cs.length := by
  have := (List.dropWhile_sublist (l := cs.reverse) isBlank).length_le
  simpa [stripEnd] using this

theorem stripStart_length_le (cs : List Char) : (stripStart cs).length ≤ cs.length :=
  (List.dropWhile_sublist isBlank).length_le

theorem strip_length_le (cs : List Char) : (strip cs).length ≤ cs.length :=
  Nat.le_trans (stripEnd_length_le _) (stripStart_length_le cs)

/-- Stripping leaves exactly the stripped texts as they are. -/
theorem strip_eq_self_iff (cs : List Char) : strip cs = cs ↔ IsStripped cs := by
  refine ⟨fun h => ?_, strip_eq_self_of_isStripped⟩
  have hlen := congrArg List.length h
  have h1 := stripStart_length_le cs
  have h2 := stripEnd_length_le (stripStart cs)
  have hstart : stripStart cs = cs := by
    refine (List.dropWhile_sublist isBlank).eq_of_length ?_
    simp only [strip] at hlen
    simp only [stripStart] at h1 h2 hlen
    omega
  rw [strip, hstart] at h
  exact ⟨(stripStart_eq_self_iff cs).1 hstart, (stripEnd_eq_self_iff cs).1 h⟩

/-- `strip` on strings. -/
def stripped (s : String) : String := String.ofList (strip s.toList)

end OsgiIvy.Text
