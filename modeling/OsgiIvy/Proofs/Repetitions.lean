import Mathlib.Data.List.Dedup
import Mathlib.Data.List.Induction
import OsgiIvy.Distinct

/-!
# Leaving out repetitions

The elements of a list without repetitions are fewer than those of the list exactly if the list
repeats any (`length_distinct_eq_iff`), and choosing among them is choosing first
(`filter_distinct`).
-/

namespace OsgiIvy

variable {α : Type} [DecidableEq α]

/-- The library keeps the last of several occurrences, so it is applied from the end. -/
theorem distinct_eq_reverse_dedup (as : List α) : distinct as = as.reverse.dedup.reverse := by
  induction as using List.reverseRecOn with
  | nil => rfl
  | append_singleton as a ih =>
    rw [distinct_append_singleton, ih, List.reverse_append, List.reverse_singleton,
      List.singleton_append]
    by_cases h : a ∈ as
    · rw [addNew_of_mem (by simpa using h), List.dedup_cons_of_mem (by simpa using h)]
    · rw [addNew_of_not_mem (by simpa using h), List.dedup_cons_of_notMem (by simpa using h),
        List.reverse_cons]

theorem distinct_of_nodup {as : List α} (h : as.Nodup) : distinct as = as := by
  rw [distinct_eq_reverse_dedup, (List.nodup_reverse.mpr h).dedup, List.reverse_reverse]

theorem distinct_sublist (as : List α) : (distinct as).Sublist as := by
  have hreverse := (List.dedup_sublist as.reverse).reverse
  rwa [List.reverse_reverse, ← distinct_eq_reverse_dedup] at hreverse

theorem length_distinct_eq_iff {as : List α} : (distinct as).length = as.length ↔ as.Nodup := by
  constructor
  · intro h
    rw [← (distinct_sublist as).eq_of_length h]
    exact nodup_distinct as
  · intro h
    rw [distinct_of_nodup h]

theorem distinct_eq_nil_iff {as : List α} : distinct as = [] ↔ as = [] := by
  rw [List.eq_nil_iff_forall_not_mem, List.eq_nil_iff_forall_not_mem]
  exact forall_congr' fun _ => not_congr mem_distinct

theorem filter_addNew (p : α → Bool) (as : List α) (a : α) :
    (addNew as a).filter p = if p a then addNew (as.filter p) a else as.filter p := by
  by_cases hmem : a ∈ as
  · rw [addNew_of_mem hmem]
    split
    · next hp => rw [addNew_of_mem (List.mem_filter.mpr ⟨hmem, hp⟩)]
    · rfl
  · rw [addNew_of_not_mem hmem, List.filter_append, List.filter_singleton]
    have hnew : a ∉ as.filter p := fun h => hmem (List.mem_filter.mp h).1
    cases hp : p a with
    | true => rw [addNew_of_not_mem hnew]; rfl
    | false => exact List.append_nil _

theorem filter_foldl_addNew (p : α → Bool) (as bs : List α) :
    (bs.foldl addNew as).filter p = (bs.filter p).foldl addNew (as.filter p) := by
  induction bs generalizing as with
  | nil => rfl
  | cons b bs ih =>
    rw [List.foldl_cons, ih, filter_addNew, List.filter_cons]
    cases p b with
    | true => rfl
    | false => rfl

theorem filter_distinct (p : α → Bool) (as : List α) :
    (distinct as).filter p = distinct (as.filter p) :=
  filter_foldl_addNew p [] as

theorem foldl_addNew_of_subset {as bs : List α} (h : bs ⊆ as) : bs.foldl addNew as = as := by
  induction bs with
  | nil => rfl
  | cons b bs ih =>
    obtain ⟨hb, hbs⟩ := List.cons_subset.mp h
    rw [List.foldl_cons, addNew_of_mem hb, ih hbs]

theorem distinct_append_of_subset {as bs : List α} (h : bs ⊆ as) :
    distinct (as ++ bs) = distinct as := by
  have hsub : bs ⊆ distinct as := fun b hb => mem_distinct.mpr (h hb)
  rw [distinct, List.foldl_append]
  exact foldl_addNew_of_subset hsub

/-- Something that is added for each element of a list is added once, or not at all. -/
theorem foldl_addNew_map_const {β : Type} (as : List α) (a : α) (bs : List β) :
    (bs.map fun _ => a).foldl addNew as = if bs.isEmpty then as else addNew as a := by
  cases bs with
  | nil => rfl
  | cons b bs =>
    have hsub : (bs.map fun _ => a) ⊆ addNew as a := by
      intro c hc
      obtain ⟨-, -, rfl⟩ := List.mem_map.mp hc
      exact mem_addNew.mpr (.inr rfl)
    rw [List.map_cons, List.foldl_cons, foldl_addNew_of_subset hsub]
    rfl

end OsgiIvy
