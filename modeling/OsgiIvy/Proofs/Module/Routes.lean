import Mathlib.Data.List.Induction
import OsgiIvy.Module.Dependency
import OsgiIvy.Proofs.Apart

/-!
# Routes of a dependency

A dependency holds each master once and each route once, and it holds no master without a route:
`HasDistinctRoutes`.  Its routes can then be read off and written again without a change
(`HasDistinctRoutes.routes_addRoutes_mappings`).
-/

namespace OsgiIvy.Dependency

variable {τ φ : Type} [BEq τ]

/-- Adds routes one after the other. -/
def addRoutes (d : Dependency τ φ) (routes : List (τ × τ)) : Dependency τ φ :=
  routes.foldl (fun d route => d.addRoute route.1 route.2) d

omit [BEq τ] in
/-- Each master stands once, and each of its routes once. -/
structure HasDistinctRoutes (d : Dependency τ φ) : Prop where
  masters : d.routes.IsMapping
  routed : ∀ e ∈ d.routes.entries, e.2 ≠ []
  targets : ∀ e ∈ d.routes.entries, e.2.Nodup

theorem addRoutes_append (d : Dependency τ φ) (rs ss : List (τ × τ)) :
    d.addRoutes (rs ++ ss) = (d.addRoutes rs).addRoutes ss :=
  List.foldl_append ..

/-- Routes are all that adding routes changes. -/
theorem addRoutes_eq (d : Dependency τ φ) (rs : List (τ × τ)) :
    d.addRoutes rs = { d with routes := (d.addRoutes rs).routes } := by
  induction rs generalizing d with
  | nil => rfl
  | cons r rs ih => exact ih (d.addRoute r.1 r.2)

/-! ### Routes that are apart -/

/-- Masters are apart, and so are the targets of each, of which there are some.  Equality need not
be lawful for this. -/
structure HasApartRoutes (d : Dependency τ φ) : Prop where
  masters : Apart d.masters
  routed : ∀ e ∈ d.routes.entries, e.2 ≠ []
  targets : ∀ e ∈ d.routes.entries, Apart e.2

theorem HasApartRoutes.addRoute {d : Dependency τ φ} (h : d.HasApartRoutes) (master target : τ) :
    (d.addRoute master target).HasApartRoutes := by
  have hsome : ∀ as : List τ, addNew as target ≠ [] := by
    intro as
    rw [addNew]
    split
    · next hmem => exact fun hnil => absurd hmem (by simp [hnil])
    · simp
  refine ⟨Assoc.apart_keys_alter h.masters master _, ?_, ?_⟩
  · exact Assoc.forall_mem_alterEntries (· ≠ []) (hsome []) (fun as _ => hsome as) h.routed
  · exact Assoc.forall_mem_alterEntries Apart (apart_addNew apart_nil target)
      (fun as has => apart_addNew has target) h.targets

theorem hasApartRoutes_of_no_routes {d : Dependency τ φ} (h : d.routes = {}) :
    d.HasApartRoutes := by
  have hentries : d.routes.entries = [] := by rw [h]; rfl
  refine ⟨?_, ?_, ?_⟩
  · rw [masters, Assoc.keys, hentries]
    exact apart_nil
  · simp [hentries]
  · simp [hentries]

variable [LawfulBEq τ]

/-! ### Adding routes -/

/-- All routes of a master that is new. -/
theorem entries_addRoutes_group {d : Dependency τ φ} {master : τ} (hnew : master ∉ d.masters)
    {targets : List τ} (hne : targets ≠ []) (hnodup : targets.Nodup) :
    (d.addRoutes (targets.map (master, ·))).routes.entries =
      d.routes.entries ++ [(master, targets)] := by
  -- From the last target backwards: what stands at the end is the master with the targets so far.
  induction targets using List.reverseRecOn with
  | nil => exact absurd rfl hne
  | append_singleton targets t ih =>
    rw [List.map_append, addRoutes_append]
    by_cases htargets : targets = []
    · subst htargets
      simp only [addRoutes, List.map_nil, List.foldl_nil, List.map_cons, List.foldl_cons, addRoute,
        Assoc.alter]
      rw [Assoc.alterEntries_of_not_mem hnew]
      simp [addNew]
    · have hfresh : t ∉ targets := not_mem_of_nodup_append hnodup
      have hentries := ih htargets (List.nodup_append.mp hnodup).1
      simp only [addRoutes, List.map_cons, List.map_nil, List.foldl_cons, List.foldl_nil,
        addRoute, Assoc.alter] at hentries ⊢
      rw [hentries, Assoc.alterEntries_append_self hnew]
      simp [addNew_of_not_mem hfresh]

/-- The routes of masters that are new, master by master. -/
theorem entries_addRoutes_groups {d : Dependency τ φ} (groups : List (τ × List τ))
    (hmasters : (d.masters ++ groups.map Prod.fst).Nodup) (hne : ∀ g ∈ groups, g.2 ≠ [])
    (hnodup : ∀ g ∈ groups, g.2.Nodup) :
    (d.addRoutes (groups.flatMap fun g => g.2.map (g.1, ·))).routes.entries =
      d.routes.entries ++ groups := by
  induction groups generalizing d with
  | nil => simp [addRoutes]
  | cons g groups ih =>
    have hnew : g.1 ∉ d.masters := not_mem_of_nodup_append hmasters
    have hgroup := entries_addRoutes_group hnew (hne g (List.mem_cons_self ..))
      (hnodup g (List.mem_cons_self ..))
    have hrest : ((d.addRoutes (g.2.map (g.1, ·))).masters ++ groups.map Prod.fst).Nodup := by
      simpa [masters, Assoc.keys, hgroup] using hmasters
    rw [List.flatMap_cons, addRoutes_append,
      ih hrest (fun h hh => hne h (List.mem_cons_of_mem g hh))
        (fun h hh => hnodup h (List.mem_cons_of_mem g hh)), hgroup]
    simp

/-- Routes whose masters are new and all different stand as they were added. -/
theorem mappings_addRoutes {d : Dependency τ φ} {rs : List (τ × τ)}
    (hmasters : (d.masters ++ rs.map Prod.fst).Nodup) :
    (d.addRoutes rs).mappings = d.mappings ++ rs ∧
      (d.addRoutes rs).masters = d.masters ++ rs.map Prod.fst := by
  have hflat : (rs.map fun r => (r.1, [r.2])).flatMap (fun g => g.2.map (g.1, ·)) = rs := by
    induction rs with
    | nil => rfl
    | cons r rs ih => simp_all [List.flatMap_map]
  have hentries := entries_addRoutes_groups (d := d) (rs.map fun r => (r.1, [r.2]))
    (by simpa [List.map_map, Function.comp_def] using hmasters)
    (fun g hg => by obtain ⟨r, -, rfl⟩ := List.mem_map.mp hg; simp)
    (fun g hg => by obtain ⟨r, -, rfl⟩ := List.mem_map.mp hg; simp)
  rw [hflat] at hentries
  constructor
  · rw [mappings, hentries, List.flatMap_append, hflat]
    rfl
  · simp [masters, Assoc.keys, hentries, List.map_map, Function.comp_def]

/-! ### Masters -/

theorem mem_masters_addRoute {d : Dependency τ φ} {master target m : τ} :
    m ∈ (d.addRoute master target).masters ↔ m ∈ d.masters ∨ m = master := by
  have hkeys : (d.addRoute master target).masters =
      if master ∈ d.masters then d.masters else d.masters ++ [master] :=
    Assoc.keys_alter d.routes master _
  rw [hkeys]
  split
  · next h => exact ⟨.inl, fun hm => hm.elim id fun heq => heq ▸ h⟩
  · rw [List.mem_append, List.mem_singleton]

theorem mem_masters_addRoutes {d : Dependency τ φ} {rs : List (τ × τ)} {m : τ} :
    m ∈ (d.addRoutes rs).masters ↔ m ∈ d.masters ∨ m ∈ rs.map Prod.fst := by
  induction rs generalizing d with
  | nil => simp [addRoutes]
  | cons r rs ih =>
    have hstep : d.addRoutes (r :: rs) = (d.addRoute r.1 r.2).addRoutes rs := rfl
    rw [hstep, ih, mem_masters_addRoute, List.map_cons, List.mem_cons, or_assoc]

/-! ### Distinct routes -/

omit [BEq τ] [LawfulBEq τ] in
theorem hasDistinctRoutes_of_no_routes {d : Dependency τ φ} (h : d.routes = {}) :
    d.HasDistinctRoutes := by
  have hentries : d.routes.entries = [] := by rw [h]; rfl
  refine ⟨?_, ?_, ?_⟩
  · rw [h]
    exact Assoc.isMapping_empty
  · simp [hentries]
  · simp [hentries]

omit [BEq τ] [LawfulBEq τ] in
/-- No route of an edge is a repetition if its masters and their targets are not. -/
theorem HasDistinctRoutes.nodup_mappings {d : Dependency τ φ} (h : d.HasDistinctRoutes) :
    d.mappings.Nodup := by
  rw [mappings, List.nodup_flatMap]
  constructor
  · intro e he
    exact (h.targets e he).map fun _ _ heq => (Prod.mk.inj heq).2
  · refine (List.pairwise_map.mp h.masters).imp fun hne r hr hr' => ?_
    obtain ⟨_, -, rfl⟩ := List.mem_map.mp hr
    obtain ⟨_, -, heq⟩ := List.mem_map.mp hr'
    exact hne (Prod.mk.inj heq).1.symm

theorem filter_routes (e : τ × List τ) (master : τ) :
    (e.2.map (e.1, ·)).filter (·.1 == master) =
      if master == e.1 then e.2.map (master, ·) else [] := by
  by_cases h : master = e.1
  · subst h
    rw [beq_self_eq_true, if_pos rfl, List.filter_eq_self]
    exact List.forall_mem_map.mpr fun target _ => beq_self_eq_true e.1
  · rw [beq_eq_false_iff_ne.mpr h, if_neg Bool.false_ne_true, List.filter_eq_nil_iff]
    exact List.forall_mem_map.mpr fun target _ heq => h (eq_of_beq heq).symm

/-- Looking up a master finds the targets of all its routes. -/
theorem HasDistinctRoutes.map_targets {d : Dependency τ φ} (h : d.HasDistinctRoutes) (master : τ) :
    (d.targets master).map (master, ·) = d.mappings.filter (·.1 == master) := by
  have hentries : ∀ es : List (τ × List τ), (es.map Prod.fst).Nodup →
      ((es.lookup master).getD []).map (master, ·) =
        (es.flatMap fun e => e.2.map (e.1, ·)).filter (·.1 == master) := by
    intro es hnodup
    induction es with
    | nil => rfl
    | cons e es ih =>
      obtain ⟨hnew, hrest⟩ := List.nodup_cons.mp hnodup
      rw [List.flatMap_cons, List.filter_append, ← ih hrest, List.lookup_cons, filter_routes]
      cases hmaster : master == e.1 with
      | true =>
        have hnone : es.lookup master = none :=
          Assoc.lookup_of_not_mem (eq_of_beq hmaster ▸ hnew)
        simp [hnone]
      | false => simp
  exact hentries d.routes.entries h.masters

theorem hasApartRoutes_iff {d : Dependency τ φ} : d.HasApartRoutes ↔ d.HasDistinctRoutes := by
  constructor
  · intro h
    exact ⟨apart_iff_nodup.mp h.masters, h.routed, fun e he => apart_iff_nodup.mp (h.targets e he)⟩
  · intro h
    exact ⟨apart_iff_nodup.mpr h.masters, h.routed,
      fun e he => apart_iff_nodup.mpr (h.targets e he)⟩

theorem HasDistinctRoutes.addRoute {d : Dependency τ φ} (h : d.HasDistinctRoutes)
    (master target : τ) : (d.addRoute master target).HasDistinctRoutes :=
  hasApartRoutes_iff.mp ((hasApartRoutes_iff.mpr h).addRoute master target)

theorem HasDistinctRoutes.addRoutes {d : Dependency τ φ} (h : d.HasDistinctRoutes)
    (rs : List (τ × τ)) : (d.addRoutes rs).HasDistinctRoutes := by
  induction rs generalizing d with
  | nil => exact h
  | cons r rs ih => exact ih (h.addRoute r.1 r.2)

/-- Routes that are read off and written again are the same routes. -/
theorem HasDistinctRoutes.routes_addRoutes_mappings {d e : Dependency τ φ}
    (h : d.HasDistinctRoutes) (he : e.routes = {}) :
    (e.addRoutes d.mappings).routes = d.routes := by
  have hnone : e.routes.entries = [] := by rw [he]; rfl
  have hmasters : (e.masters ++ d.routes.entries.map Prod.fst).Nodup := by
    rw [Dependency.masters, Assoc.keys, hnone]
    exact h.masters
  have hentries := entries_addRoutes_groups (d := e) _ hmasters h.routed h.targets
  rw [hnone, List.nil_append] at hentries
  exact congrArg Assoc.mk hentries

end OsgiIvy.Dependency
