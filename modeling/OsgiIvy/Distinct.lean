/-!
# Distinct elements

Lists in which every element stands once, where it was first seen.  `mem_distinct` says that none is
lost and `nodup_distinct` that none is left twice.
-/

namespace OsgiIvy

variable {α : Type} [BEq α]

/-- Adds an element to a list that does not have it. -/
def addNew (as : List α) (a : α) : List α := if as.contains a then as else as ++ [a]

/-- The elements of a list without repetitions, in the order in which they first occur. -/
def distinct (as : List α) : List α := as.foldl addNew []

theorem distinct_append_singleton (as : List α) (a : α) :
    distinct (as ++ [a]) = addNew (distinct as) a :=
  List.foldl_append

section Laws

variable [LawfulBEq α]

theorem addNew_of_mem {as : List α} {a : α} (h : a ∈ as) : addNew as a = as := by
  simp [addNew, h]

theorem addNew_of_not_mem {as : List α} {a : α} (h : a ∉ as) : addNew as a = as ++ [a] := by
  simp [addNew, h]

theorem mem_addNew {as : List α} {a b : α} : b ∈ addNew as a ↔ b ∈ as ∨ b = a := by
  by_cases h : a ∈ as
  · rw [addNew_of_mem h]
    exact ⟨.inl, fun hb => hb.elim id fun hba => hba ▸ h⟩
  · simp [addNew_of_not_mem h]

theorem nodup_addNew {as : List α} (h : as.Nodup) (a : α) : (addNew as a).Nodup := by
  by_cases ha : a ∈ as
  · rwa [addNew_of_mem ha]
  · rw [addNew_of_not_mem ha]
    refine List.nodup_append.mpr ⟨h, List.pairwise_singleton _ a, ?_⟩
    intro b hb c hc hbc
    rw [List.mem_singleton] at hc
    exact ha (hc ▸ hbc ▸ hb)

theorem mem_foldl_addNew {as bs : List α} {b : α} :
    b ∈ bs.foldl addNew as ↔ b ∈ as ∨ b ∈ bs := by
  induction bs generalizing as with
  | nil => simp
  | cons c bs ih => rw [List.foldl_cons, ih, mem_addNew, List.mem_cons, or_assoc]

theorem nodup_foldl_addNew {as : List α} (h : as.Nodup) (bs : List α) :
    (bs.foldl addNew as).Nodup := by
  induction bs generalizing as with
  | nil => exact h
  | cons c bs ih => exact ih (nodup_addNew h c)

theorem mem_distinct {as : List α} {a : α} : a ∈ distinct as ↔ a ∈ as := by
  simp [distinct, mem_foldl_addNew]

theorem nodup_distinct (as : List α) : (distinct as).Nodup :=
  nodup_foldl_addNew List.nodup_nil as

end Laws

end OsgiIvy
