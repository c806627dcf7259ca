import Mathlib.Data.List.Sort
import OsgiIvy.Sorted

/-!
# Sets of names

The names of a set ascend, so that a set is known by its members: neither the order in which names
were added nor how often they were counts.
-/

namespace OsgiIvy.NameSet

theorem pairwise_insertName {names : List String} (h : names.Pairwise (· < ·)) (a : String) :
    (insertName a names).Pairwise (· < ·) := by
  induction names with
  | nil => exact List.pairwise_singleton _ a
  | cons b rest ih =>
    obtain ⟨hfirst, hrest⟩ := List.pairwise_cons.mp h
    by_cases hab : a = b
    · rw [insertName, if_pos hab]
      exact h
    by_cases hlt : a < b
    · rw [insertName, if_neg hab, if_pos hlt]
      refine List.pairwise_cons.mpr ⟨fun c hc => ?_, h⟩
      rcases List.mem_cons.mp hc with rfl | hc
      · exact hlt
      · exact String.lt_trans hlt (hfirst c hc)
    · have hba : b < a := by
        by_contra hnot
        exact hab (String.le_antisymm (String.not_lt.mp hnot) (String.not_lt.mp hlt))
      rw [insertName, if_neg hab, if_neg hlt]
      refine List.pairwise_cons.mpr ⟨fun c hc => ?_, ih hrest⟩
      rcases mem_insertName.mp hc with rfl | hc
      · exact hba
      · exact hfirst c hc

theorem pairwise_foldl_insert {s : NameSet} (h : s.names.Pairwise (· < ·)) (as : List String) :
    (as.foldl insert s).names.Pairwise (· < ·) := by
  induction as generalizing s with
  | nil => exact h
  | cons a as ih => exact ih (pairwise_insertName h a)

theorem pairwise_ofList (as : List String) : (ofList as).names.Pairwise (· < ·) :=
  pairwise_foldl_insert List.Pairwise.nil as

/-- Sets with the same members are equal. -/
theorem ofList_eq_ofList {as bs : List String} (h : ∀ a, a ∈ as ↔ a ∈ bs) :
    ofList as = ofList bs := by
  have hmem : ∀ a, a ∈ (ofList as).names ↔ a ∈ (ofList bs).names := fun a =>
    mem_ofList.trans ((h a).trans mem_ofList.symm)
  have hirrefl : Std.Irrefl fun a b : String => a < b := ⟨String.lt_irrefl⟩
  have hantisymm : Std.Antisymm fun a b : String => a < b :=
    ⟨fun _ _ hab hba => absurd hba (String.lt_asymm hab)⟩
  exact congrArg NameSet.mk
    ((pairwise_ofList as).eq_of_mem_iff (pairwise_ofList bs) hmem)

end OsgiIvy.NameSet
