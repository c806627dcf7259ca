import Mathlib.Data.List.Sort
import OsgiIvy.Sorted

/-!
# Sorting

`sortBy` is the library's sorting by insertion.  Lists of the same elements are sorted alike if no
two different elements are equal in the order (`sortBy_eq_of_perm`), as it is with members under
different names, and with any pairs of texts (`sortBy_pairLe_eq_iff`).
-/

namespace OsgiIvy

variable {α β : Type} {le : α → α → Bool}

/-- An order in which any two elements have a place. -/
structure IsOrder (le : α → α → Bool) : Prop where
  total : ∀ a b, le a b = true ∨ le b a = true
  trans : ∀ a b c, le a b = true → le b c = true → le a c = true

/-! ### Sorting by insertion -/

theorem insertSorted_eq_orderedInsert (le : α → α → Bool) (a : α) (as : List α) :
    insertSorted le a as = as.orderedInsert (fun a b => le a b = true) a := by
  induction as with
  | nil => rfl
  | cons b rest ih => rw [insertSorted, List.orderedInsert_cons, ih]

theorem sortBy_eq_insertionSort (le : α → α → Bool) (as : List α) :
    sortBy le as = as.insertionSort fun a b => le a b = true := by
  induction as with
  | nil => rfl
  | cons a rest ih =>
    rw [List.insertionSort_cons, ← ih, ← insertSorted_eq_orderedInsert]
    rfl

theorem pairwise_sortBy (h : IsOrder le) (as : List α) :
    (sortBy le as).Pairwise fun a b => le a b = true := by
  have htotal : Std.Total fun a b => le a b = true := ⟨h.total⟩
  have htrans : IsTrans α fun a b => le a b = true := ⟨h.trans⟩
  rw [sortBy_eq_insertionSort]
  exact List.pairwise_insertionSort _ as

theorem sortBy_of_pairwise {as : List α} (h : as.Pairwise fun a b => le a b = true) :
    sortBy le as = as := by
  rw [sortBy_eq_insertionSort]
  exact h.insertionSort_eq

theorem sortBy_sortBy (h : IsOrder le) (as : List α) : sortBy le (sortBy le as) = sortBy le as :=
  sortBy_of_pairwise (pairwise_sortBy h as)

theorem sortBy_eq_of_perm (h : IsOrder le) {as bs : List α} (hperm : as.Perm bs)
    (hantisymm : ∀ a ∈ as, ∀ b ∈ as, le a b = true → le b a = true → a = b) :
    sortBy le as = sortBy le bs := by
  have hsame : (sortBy le as).Perm (sortBy le bs) :=
    (sortBy_perm le as).trans (hperm.trans (sortBy_perm le bs).symm)
  refine hsame.eq_of_pairwise ?_ (pairwise_sortBy h as) (pairwise_sortBy h bs)
  intro a b ha hb
  exact hantisymm a ((sortBy_perm le as).mem_iff.mp ha) b
    (hperm.mem_iff.mpr ((sortBy_perm le bs).mem_iff.mp hb))

/-! ### The order of texts -/

theorem textLe_iff {a b : String} : textLe a b = true ↔ a ≤ b := by
  rw [textLe, Bool.not_eq_true', decide_eq_false_iff_not, String.not_lt]

theorem isOrder_textLe : IsOrder textLe where
  total a b := by
    rw [textLe_iff, textLe_iff]
    exact String.le_total a b
  trans a b c := by
    rw [textLe_iff, textLe_iff, textLe_iff]
    exact String.le_trans

theorem IsOrder.on (h : IsOrder le) (f : β → α) : IsOrder fun a b => le (f a) (f b) :=
  ⟨fun a b => h.total (f a) (f b), fun a b c => h.trans (f a) (f b) (f c)⟩

theorem textLe_antisymm {a b : String} (hab : textLe a b = true) (hba : textLe b a = true) :
    a = b :=
  String.le_antisymm (textLe_iff.mp hab) (textLe_iff.mp hba)

/-! ### The order of pairs -/

variable {p q r : String × String}

theorem pairLe_of_eq (h : p.1 = q.1) : pairLe p q = textLe p.2 q.2 := if_pos h

theorem pairLe_of_ne (h : p.1 ≠ q.1) : pairLe p q = textLe p.1 q.1 := if_neg h

theorem textLe_of_pairLe (h : pairLe p q = true) : textLe p.1 q.1 = true := by
  by_cases hpq : p.1 = q.1
  · rw [hpq]
    exact textLe_iff.mpr (String.le_refl q.1)
  · rwa [pairLe_of_ne hpq] at h

theorem pairLe_trans (hpq : pairLe p q = true) (hqr : pairLe q r = true) : pairLe p r = true := by
  have hfirst : textLe p.1 r.1 = true :=
    isOrder_textLe.trans _ _ _ (textLe_of_pairLe hpq) (textLe_of_pairLe hqr)
  by_cases hpr : p.1 = r.1
  · -- Between two equal first texts there is no other.
    have hsame : p.1 = q.1 :=
      textLe_antisymm (textLe_of_pairLe hpq) (hpr ▸ textLe_of_pairLe hqr)
    rw [pairLe_of_eq hsame] at hpq
    rw [pairLe_of_eq (hsame.symm.trans hpr)] at hqr
    rw [pairLe_of_eq hpr]
    exact isOrder_textLe.trans _ _ _ hpq hqr
  · rwa [pairLe_of_ne hpr]

theorem pairLe_antisymm (hpq : pairLe p q = true) (hqp : pairLe q p = true) : p = q := by
  have hfirst : p.1 = q.1 := textLe_antisymm (textLe_of_pairLe hpq) (textLe_of_pairLe hqp)
  rw [pairLe_of_eq hfirst] at hpq
  rw [pairLe_of_eq hfirst.symm] at hqp
  exact Prod.ext hfirst (textLe_antisymm hpq hqp)

theorem isOrder_pairLe : IsOrder pairLe where
  total p q := by
    by_cases h : p.1 = q.1
    · rw [pairLe_of_eq h, pairLe_of_eq h.symm]
      exact isOrder_textLe.total p.2 q.2
    · rw [pairLe_of_ne h, pairLe_of_ne (Ne.symm h)]
      exact isOrder_textLe.total p.1 q.1
  trans _ _ _ := pairLe_trans

theorem sortBy_pairLe_eq_iff {ps qs : List (String × String)} :
    sortBy pairLe ps = sortBy pairLe qs ↔ ps.Perm qs := by
  constructor
  · intro h
    exact (sortBy_perm pairLe ps).symm.trans (h ▸ sortBy_perm pairLe qs)
  · intro hperm
    exact sortBy_eq_of_perm isOrder_pairLe hperm fun _ _ _ _ => pairLe_antisymm

end OsgiIvy
