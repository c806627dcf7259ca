import OsgiIvy.Proofs.Mappings
import OsgiIvy.Distinct

/-!
# Elements that are apart

Keys are looked up by an equality that need not be lawful, as that of values is not.  Writing keeps
the keys of a mapping apart all the same, because a key is added only where none equals it
(`apart_keys_alter`).
-/

namespace OsgiIvy

/-- No element equals one that stands in front of it. -/
def Apart {α : Type} [BEq α] (as : List α) : Prop := as.Pairwise fun a b => (b == a) = false

section Lists

variable {α β : Type} [BEq α] [BEq β]

theorem apart_nil : Apart ([] : List α) := List.Pairwise.nil

theorem apart_addNew {as : List α} (h : Apart as) (a : α) : Apart (addNew as a) := by
  rw [addNew]
  split
  · exact h
  · next hnew =>
    refine List.pairwise_append.mpr ⟨h, List.pairwise_singleton _ a, ?_⟩
    intro b hb c hc
    rw [List.mem_singleton.mp hc]
    cases hab : a == b with
    | false => rfl
    | true => exact absurd (List.contains_iff_exists_mem_beq.mpr ⟨b, hb, hab⟩) hnew

theorem apart_distinct (as : List α) : Apart (distinct as) :=
  List.foldlRecOn as _ apart_nil fun _ h a _ => apart_addNew h a

/-- Elements are apart if their images under a map that keeps equality are. -/
theorem Apart.of_map {f : α → β} (hf : ∀ a b, (f a == f b) = (a == b)) {as : List α}
    (h : Apart (as.map f)) : Apart as :=
  (List.pairwise_map.mp h).imp fun hab => (hf _ _).symm.trans hab

theorem apart_iff_nodup [LawfulBEq α] {as : List α} : Apart as ↔ as.Nodup :=
  List.Pairwise.iff fun _ _ => beq_eq_false_iff_ne.trans ne_comm

end Lists

namespace Assoc

variable {κ ν : Type} [BEq κ]

theorem apart_keys_alter {m : Assoc κ ν} (h : Apart m.keys) (k : κ) (f : Option ν → ν) :
    Apart (m.alter k f).keys := by
  have hkeys : (m.alter k f).keys = addNew m.keys k := keys_alterEntries_eq_addNew k f m.entries
  rw [hkeys]
  exact apart_addNew h k

theorem apart_keys_ofList (ps : List (κ × ν)) : Apart (ofList ps).keys := by
  refine List.foldlRecOn (motive := fun m : Assoc κ ν => Apart m.keys) ps _ apart_nil ?_
  intro m h p _
  exact apart_keys_alter h p.1 _

/-- What holds of all keys and values that are written holds of all entries. -/
theorem forall_mem_ofList {p : κ → Prop} {q : ν → Prop} {ps : List (κ × ν)}
    (h : ∀ e ∈ ps, p e.1 ∧ q e.2) : ∀ e ∈ (ofList ps).entries, p e.1 ∧ q e.2 := by
  have hput : ∀ (k : κ) (v : ν), p k → q v → ∀ es : List (κ × ν), (∀ e ∈ es, p e.1 ∧ q e.2) →
      ∀ e ∈ alterEntries k (fun _ => v) es, p e.1 ∧ q e.2 := by
    intro k v hk hv es hes
    induction es with
    | nil => exact List.forall_mem_singleton.mpr ⟨hk, hv⟩
    | cons e es ih =>
      obtain ⟨hfirst, hrest⟩ := List.forall_mem_cons.mp hes
      rw [alterEntries]
      split
      · exact List.forall_mem_cons.mpr ⟨⟨hfirst.1, hv⟩, hrest⟩
      · exact List.forall_mem_cons.mpr ⟨hfirst, ih hrest⟩
  refine List.foldlRecOn (motive := fun m : Assoc κ ν => ∀ e ∈ m.entries, p e.1 ∧ q e.2) ps _
    (fun e he => absurd he List.not_mem_nil) ?_
  intro m hm e he
  exact hput e.1 e.2 (h e he).1 (h e he).2 m.entries hm

/-- What holds of the old values and of every changed one holds of all after a change. -/
theorem forall_mem_alterEntries (p : ν → Prop) {k : κ} {f : Option ν → ν} (hnew : p (f none))
    (hchange : ∀ v, p v → p (f (some v))) {es : List (κ × ν)} (h : ∀ e ∈ es, p e.2) :
    ∀ e ∈ alterEntries k f es, p e.2 := by
  induction es with
  | nil => exact List.forall_mem_singleton.mpr hnew
  | cons e es ih =>
    obtain ⟨hfirst, hrest⟩ := List.forall_mem_cons.mp h
    rw [alterEntries]
    split
    · exact List.forall_mem_cons.mpr ⟨hchange e.2 hfirst, hrest⟩
    · exact List.forall_mem_cons.mpr ⟨hfirst, ih hrest⟩

end Assoc

end OsgiIvy
