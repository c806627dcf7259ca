import Mathlib.Data.List.TakeWhile
import OsgiIvy.Text.Blank

/-!
# Blanks at the ends

Stripping takes blanks from the ends of a text and nothing else.  What it leaves is stripped, and
has all characters of the text that are not blank.
-/

namespace OsgiIvy.Text

variable {c : Char} {cs ds : List Char}

/-! ### Blank texts -/

theorem strip_eq_nil_iff : strip cs = [] ↔ isBlankText cs = true := by
  have hend : ∀ ds : List Char, stripEnd ds = [] ↔ ∀ c ∈ ds, isBlank c = true := by
    intro ds
    rw [stripEnd, List.reverse_eq_nil_iff, List.dropWhile_eq_nil_iff]
    simp
  rw [strip, hend, isBlankText, List.all_eq_true]
  constructor
  · intro h c hc
    -- A character before the first that is not blank is blank, and so are the others.
    rw [← List.takeWhile_append_dropWhile (p := isBlank) (l := cs)] at hc
    rcases List.mem_append.mp hc with hc | hc
    · exact List.mem_takeWhile_imp hc
    · exact h c hc
  · intro h c hc
    exact h c ((List.dropWhile_sublist isBlank).mem hc)

theorem isBlankText_false_of_isStripped (hne : cs ≠ []) (h : IsStripped cs) :
    isBlankText cs = false := by
  rw [← Bool.not_eq_true, ← strip_eq_nil_iff, strip_eq_self_of_isStripped h]
  exact hne

/-! ### What stripping takes away -/

theorem stripStart_cons_of_blank (hc : isBlank c = true) :
    stripStart (c :: cs) = stripStart cs := by
  rw [stripStart, List.dropWhile_cons_of_pos hc, stripStart]

theorem strip_cons_of_blank (hc : isBlank c = true) : strip (c :: cs) = strip cs := by
  rw [strip, stripStart_cons_of_blank hc, strip]

/-- The blanks at the end are what stripping takes away. -/
theorem stripEnd_append_blanks (cs : List Char) :
    ∃ blanks, isBlankText blanks = true ∧ stripEnd cs ++ blanks = cs := by
  refine ⟨(cs.reverse.takeWhile isBlank).reverse, ?_, ?_⟩
  · rw [isBlankText, List.all_reverse, List.all_eq_true]
    exact fun c hc => List.mem_takeWhile_imp hc
  · rw [stripEnd, ← List.reverse_append, List.takeWhile_append_dropWhile, List.reverse_reverse]

/-! ### What stripping leaves -/

instance (cs : List Char) : Decidable (IsStripped cs) := decidable_of_iff _ (strip_eq_self_iff cs)

theorem stripEnd_sublist (cs : List Char) : (stripEnd cs).Sublist cs := by
  have h := (List.dropWhile_sublist (l := cs.reverse) isBlank).reverse
  rwa [List.reverse_reverse] at h

theorem strip_sublist (cs : List Char) : (strip cs).Sublist cs :=
  (stripEnd_sublist (stripStart cs)).trans (List.dropWhile_sublist isBlank)

theorem isStripped_strip (cs : List Char) : IsStripped (strip cs) := by
  obtain ⟨blanks, -, hblanks⟩ := stripEnd_append_blanks (stripStart cs)
  constructor
  · intro c hc
    have hhead : (stripStart cs).head? = some c := by
      rw [strip] at hc
      rw [← hblanks, List.head?_append, hc, Option.some_or]
    have hfirst := List.head?_dropWhile_not isBlank cs
    rw [stripStart] at hhead
    rw [hhead] at hfirst
    simpa using hfirst
  · intro c hc
    rw [strip, stripEnd, List.getLast?_reverse] at hc
    have hlast := List.head?_dropWhile_not isBlank (stripStart cs).reverse
    rw [hc] at hlast
    simpa using hlast

theorem isStripped_append_cons (hne : cs ≠ []) (hcs : IsStripped cs) (hc : isBlank c = false)
    (hds : ∀ d, ds.getLast? = some d → isBlank d = false) : IsStripped (cs ++ c :: ds) := by
  constructor
  · intro d hd
    obtain ⟨first, rest, rfl⟩ := List.exists_cons_of_ne_nil hne
    exact hcs.1 d hd
  · intro d hd
    rw [List.getLast?_append, List.getLast?_cons, Option.some_or, Option.some.injEq] at hd
    cases hlast : ds.getLast? with
    | none =>
      rw [hlast, Option.getD_none] at hd
      exact hd ▸ hc
    | some last =>
      rw [hlast, Option.getD_some] at hd
      exact hds d (hd ▸ hlast)

/-- Blanks are all that stripping takes away. -/
theorem count_strip (hc : isBlank c = false) (cs : List Char) :
    (strip cs).count c = cs.count c := by
  have hnone : ∀ blanks : List Char, (∀ b ∈ blanks, isBlank b = true) → blanks.count c = 0 := by
    intro blanks hblanks
    refine List.count_eq_zero.mpr fun hmem => ?_
    rw [hblanks c hmem] at hc
    exact Bool.noConfusion hc
  obtain ⟨blanks, hblank, hjoin⟩ := stripEnd_append_blanks (stripStart cs)
  have hend : (strip cs).count c = (stripStart cs).count c := by
    rw [← hjoin, List.count_append, hnone blanks (List.all_eq_true.mp hblank), Nat.add_zero]
    rfl
  have hstart : (cs.takeWhile isBlank).count c + (stripStart cs).count c = cs.count c := by
    rw [stripStart, ← List.count_append, List.takeWhile_append_dropWhile]
  rw [hnone _ fun b hb => List.mem_takeWhile_imp hb, Nat.zero_add] at hstart
  rw [hend, hstart]

end OsgiIvy.Text
