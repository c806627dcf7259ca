import Mathlib.Data.List.Pairwise
import OsgiIvy.Proofs.Images
import OsgiIvy.Proofs.Repetitions

/-!
# First occurrences

Leaving out repetitions keeps the order in which elements first occur (`pairwise_distinct`), so that
lists of the same elements become equal exactly if these first occur in the same order
(`distinct_eq_distinct_iff`).  Equality need not be lawful if it is that of images under some map
(`distinct_beq_distinct_iff`).
-/

namespace OsgiIvy

/-! ### The order of first occurrences -/

section Lawful

variable {α : Type} [DecidableEq α]

theorem pairwise_distinct (as : List α) :
    (distinct as).Pairwise fun a b => as.idxOf a < as.idxOf b := by
  induction as using List.reverseRecOn with
  | nil => exact List.Pairwise.nil
  | append_singleton as c ih =>
    have hkept : (distinct as).Pairwise fun a b =>
        (as ++ [c]).idxOf a < (as ++ [c]).idxOf b := by
      refine ih.imp_of_mem fun ha hb hlt => ?_
      rwa [List.idxOf_append_of_mem (mem_distinct.mp ha),
        List.idxOf_append_of_mem (mem_distinct.mp hb)]
    rw [distinct_append_singleton]
    by_cases hc : c ∈ as
    · rwa [addNew_of_mem (mem_distinct.mpr hc)]
    · rw [addNew_of_not_mem fun h => hc (mem_distinct.mp h)]
      refine List.pairwise_append.mpr ⟨hkept, List.pairwise_singleton _ c, fun a ha b hb => ?_⟩
      have ha : a ∈ as := mem_distinct.mp ha
      rw [List.mem_singleton.mp hb, List.idxOf_append_of_mem ha, List.idxOf_append_of_notMem hc]
      exact Nat.lt_add_right _ (List.idxOf_lt_length_of_mem ha)

/-- Two elements that occur in one order in the one list do so in the other. -/
def InStep (as bs : List α) (a b : α) : Prop :=
  (as.idxOf a ≤ as.idxOf b → bs.idxOf a ≤ bs.idxOf b) ∧
    (as.idxOf b ≤ as.idxOf a → bs.idxOf b ≤ bs.idxOf a)

theorem inStep_of_distinct_eq {as bs : List α} (h : distinct as = distinct bs) {a b : α}
    (ha : a ∈ as) (hb : b ∈ as) : InStep as bs a b := by
  have hboth : (distinct as).Pairwise fun a b =>
      as.idxOf a < as.idxOf b ∧ bs.idxOf a < bs.idxOf b :=
    (pairwise_distinct as).and (h ▸ pairwise_distinct bs)
  have hpairs : (distinct as).Pairwise (InStep as bs) := hboth.imp fun hlt =>
    ⟨fun _ => Nat.le_of_lt hlt.2, fun hle => absurd hlt.1 (Nat.not_lt.mpr hle)⟩
  have hsymm : Std.Symm (InStep as bs) := ⟨fun _ _ => And.symm⟩
  exact List.Pairwise.forall_of_forall (fun _ _ => ⟨fun _ => Nat.le_refl _, fun _ => Nat.le_refl _⟩)
    hpairs (mem_distinct.mpr ha) (mem_distinct.mpr hb)

theorem distinct_eq_distinct_iff {as bs : List α} (hmem : ∀ a, a ∈ as ↔ a ∈ bs) :
    distinct as = distinct bs ↔
      ∀ a ∈ as, ∀ b ∈ as, as.idxOf a ≤ as.idxOf b → bs.idxOf a ≤ bs.idxOf b := by
  constructor
  · exact fun h a ha b hb => (inStep_of_distinct_eq h ha hb).1
  · intro h
    have hperm : (distinct as).Perm (distinct bs) :=
      (List.perm_ext_iff_of_nodup (nodup_distinct as) (nodup_distinct bs)).mpr fun a => by
        rw [mem_distinct, mem_distinct, hmem]
    have hfirst : (distinct as).Pairwise fun a b => bs.idxOf a ≤ bs.idxOf b :=
      (pairwise_distinct as).imp_of_mem fun ha hb hlt =>
        h _ (mem_distinct.mp ha) _ (mem_distinct.mp hb) (Nat.le_of_lt hlt)
    have hsecond : (distinct bs).Pairwise fun a b => bs.idxOf a ≤ bs.idxOf b :=
      (pairwise_distinct bs).imp Nat.le_of_lt
    refine hperm.eq_of_pairwise ?_ hfirst hsecond
    intro a b _ hb hab hba
    exact ((List.idxOf_inj (mem_distinct.mp hb)).mp (Nat.le_antisymm hba hab)).symm

end Lawful

/-! ### Images -/

section Images

variable {α β : Type} [BEq α] {f : α → β}

theorem idxOf_image [BEq β] {as : List α} {a : α} (hf : ∀ b ∈ as, (f b == f a) = (b == a)) :
    (as.map f).idxOf (f a) = as.idxOf a := by
  induction as with
  | nil => rfl
  | cons b as ih =>
    rw [List.map_cons, List.idxOf_cons, List.idxOf_cons, hf b List.mem_cons_self,
      ih fun c hc => hf c (List.mem_cons_of_mem b hc)]

theorem beq_iff_image_eq [BEq β] [LawfulBEq β] {as bs : List α}
    (hf : ∀ a ∈ as, ∀ b ∈ bs, (f a == f b) = (a == b)) :
    (as == bs) = true ↔ as.map f = bs.map f := by
  induction as generalizing bs with
  | nil => cases bs <;> simp
  | cons a as ih =>
    cases bs with
    | nil => simp
    | cons b bs =>
      have hrest : (as == bs) = true ↔ as.map f = bs.map f := ih fun c hc d hd =>
        hf c (List.mem_cons_of_mem a hc) d (List.mem_cons_of_mem b hd)
      rw [List.cons_beq_cons, Bool.and_eq_true, hrest, ← hf a List.mem_cons_self b
        List.mem_cons_self, beq_iff_eq, List.map_cons, List.map_cons, List.cons.injEq]

/-- Lists of the same elements are equal without their repetitions exactly if the elements first
occur in the same order. -/
theorem distinct_beq_distinct_iff [DecidableEq β] {as bs : List α} (hmem : ∀ a, a ∈ as ↔ a ∈ bs)
    (hf : ∀ a ∈ as, ∀ b ∈ as, (f a == f b) = (a == b)) :
    (distinct as == distinct bs) = true ↔
      ∀ a ∈ as, ∀ b ∈ as, as.idxOf a ≤ as.idxOf b → bs.idxOf a ≤ bs.idxOf b := by
  have hfbs : ∀ a ∈ bs, ∀ b ∈ bs, (f a == f b) = (a == b) := fun a ha b hb =>
    hf a ((hmem a).mpr ha) b ((hmem b).mpr hb)
  have hcross : ∀ a ∈ distinct as, ∀ b ∈ distinct bs, (f a == f b) = (a == b) := fun a ha b hb =>
    hf a (mem_of_mem_distinct ha) b ((hmem b).mpr (mem_of_mem_distinct hb))
  have himages : ∀ x, x ∈ as.map f ↔ x ∈ bs.map f := fun x => by
    rw [List.mem_map, List.mem_map]
    exact exists_congr fun a => and_congr_left fun _ => hmem a
  rw [beq_iff_image_eq hcross, ← distinct_image hf, ← distinct_image hfbs,
    distinct_eq_distinct_iff himages, List.forall_mem_map]
  refine forall₂_congr fun a ha => ?_
  rw [List.forall_mem_map]
  refine forall₂_congr fun b hb => ?_
  rw [idxOf_image fun c hc => hf c hc a ha, idxOf_image fun c hc => hf c hc b hb,
    idxOf_image fun c hc => hf c ((hmem c).mpr hc) a ha,
    idxOf_image fun c hc => hf c ((hmem c).mpr hc) b hb]

end Images

end OsgiIvy
