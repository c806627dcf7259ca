import OsgiIvy.Proofs.Grouping
import OsgiIvy.Proofs.Module.Routes
import OsgiIvy.Proofs.Occurrences

/-!
# Routes by their masters

Routes that are added one after the other to an edge that has none end up grouped by their masters
(`entries_addRoutes`): each master stands where it first occurs, and so does each of its targets.
`addRoutes_fresh` says so of the routes themselves, and that adding them in this order to another
edge gives the same routes.  Routes that come from several masters at once, some of them repeated,
stand in the groups of those masters that have targets (`grouped_routesFrom`).
-/

namespace OsgiIvy.Dependency

variable {τ φ : Type} [DecidableEq τ]

/-! ### Groups -/

/-- The targets of a master among some routes, each once. -/
def targetsIn (rs : List (τ × τ)) (master : τ) : List τ :=
  distinct ((rs.filter (·.1 == master)).map Prod.snd)

/-- Routes by their masters, each master once. -/
def grouped (rs : List (τ × τ)) : List (τ × List τ) :=
  (distinct (rs.map Prod.fst)).map fun master => (master, targetsIn rs master)

theorem mem_targetsIn {rs : List (τ × τ)} {master target : τ} :
    target ∈ targetsIn rs master ↔ (master, target) ∈ rs := by
  rw [targetsIn, mem_distinct, List.mem_map]
  constructor
  · rintro ⟨r, hr, rfl⟩
    obtain ⟨hmem, heq⟩ := List.mem_filter.mp hr
    rwa [← eq_of_beq heq]
  · exact fun h => ⟨_, List.mem_filter.mpr ⟨h, beq_self_eq_true master⟩, rfl⟩

/-- The routes of an edge to which routes were added that had none. -/
theorem entries_addRoutes {d : Dependency τ φ} (h : d.routes = {}) (rs : List (τ × τ)) :
    (d.addRoutes rs).routes.entries = grouped rs := by
  have hroutes : rs.foldl (fun m r => m.alter r.1 fun old => addNew (old.getD []) r.2) d.routes =
      (d.addRoutes rs).routes := List.foldl_hom Dependency.routes fun _ _ => rfl
  rw [← hroutes, h]
  exact entries_foldl_alter addNew [] rs

theorem mappings_addRoutes_eq {d : Dependency τ φ} (h : d.routes = {}) (rs : List (τ × τ)) :
    (d.addRoutes rs).mappings =
      (distinct (rs.map Prod.fst)).flatMap fun master => (targetsIn rs master).map (master, ·) := by
  rw [mappings, entries_addRoutes h, grouped, List.flatMap_map]

theorem masters_addRoutes {d : Dependency τ φ} (h : d.routes = {}) (rs : List (τ × τ)) :
    (d.addRoutes rs).masters = distinct (rs.map Prod.fst) := by
  rw [masters, Assoc.keys, entries_addRoutes h, grouped, List.map_map]
  exact List.map_id _

theorem mem_mappings_addRoutes {d : Dependency τ φ} (h : d.routes = {}) {rs : List (τ × τ)}
    {r : τ × τ} : r ∈ (d.addRoutes rs).mappings ↔ r ∈ rs := by
  rw [mappings_addRoutes_eq h, List.mem_flatMap]
  constructor
  · rintro ⟨master, -, hr⟩
    obtain ⟨target, htarget, rfl⟩ := List.mem_map.mp hr
    exact mem_targetsIn.mp htarget
  · intro hr
    refine ⟨r.1, mem_distinct.mpr (List.mem_map_of_mem hr), ?_⟩
    exact List.mem_map_of_mem (mem_targetsIn.mpr hr)

/-! ### The order of the routes -/

/-- A route comes before another if its master was routed earlier, or if it is of the same master
and was added earlier. -/
def Precedes (calls : List (τ × τ)) (r s : τ × τ) : Prop :=
  (calls.map Prod.fst).idxOf r.1 < (calls.map Prod.fst).idxOf s.1 ∨
    r.1 = s.1 ∧ calls.idxOf r < calls.idxOf s

theorem pairwise_targetsIn (calls : List (τ × τ)) (master : τ) :
    (targetsIn calls master).Pairwise fun s t =>
      calls.idxOf (master, s) < calls.idxOf (master, t) :=
  (pairwise_distinct (rowsOf calls master)).imp idxOf_lt_of_rowsOf

theorem pairwise_mappings_addRoutes {d : Dependency τ φ} (h : d.routes = {})
    (calls : List (τ × τ)) : (d.addRoutes calls).mappings.Pairwise (Precedes calls) := by
  rw [mappings_addRoutes_eq h, List.pairwise_flatMap]
  -- Routes of one master are told apart by their targets, any others by their masters.
  constructor
  · intro master _
    rw [List.pairwise_map]
    exact (pairwise_targetsIn calls master).imp fun hlt => .inr ⟨rfl, hlt⟩
  · refine (pairwise_distinct _).imp fun hlt r hr s hs => ?_
    obtain ⟨_, -, rfl⟩ := List.mem_map.mp hr
    obtain ⟨_, -, rfl⟩ := List.mem_map.mp hs
    exact .inl hlt

/-- An edge without routes. -/
def fresh (revision : RevisionId τ) (force changing transitive : φ) : Dependency τ φ :=
  ⟨revision, force, changing, transitive, {}⟩

/-- The routes of an edge are those that were added, each once, master by master in the order in
which these were first routed, and those of a master in the order in which they were first added.
The masters stand in the same order, and looking up one of them finds the targets of its routes. -/
structure IsRoutedBy (calls : List (τ × τ)) (d : Dependency τ φ) : Prop where
  mem_mappings : ∀ r, r ∈ d.mappings ↔ r ∈ calls
  nodup : d.mappings.Nodup
  mappings : d.mappings.Pairwise (Precedes calls)
  mem_masters : ∀ master, master ∈ d.masters ↔ master ∈ calls.map Prod.fst
  masters : d.masters.Pairwise fun m n =>
    (calls.map Prod.fst).idxOf m < (calls.map Prod.fst).idxOf n
  targets : ∀ master, (d.targets master).map (master, ·) = d.mappings.filter (·.1 == master)

theorem isRoutedBy_addRoutes {d : Dependency τ φ} (h : d.routes = {}) (calls : List (τ × τ)) :
    IsRoutedBy calls (d.addRoutes calls) := by
  have hdistinct : (d.addRoutes calls).HasDistinctRoutes :=
    (hasDistinctRoutes_of_no_routes h).addRoutes calls
  refine ⟨fun _ => mem_mappings_addRoutes h, hdistinct.nodup_mappings,
    pairwise_mappings_addRoutes h calls, ?_, ?_, hdistinct.map_targets⟩
  · intro master
    rw [masters_addRoutes h, mem_distinct]
  · rw [masters_addRoutes h]
    exact pairwise_distinct _

/-- Whatever is added to a new edge, it holds these routes.  Adding the routes that it lists to
another new edge gives that edge the same routes in the same order. -/
theorem addRoutes_fresh (revision : RevisionId τ) (force changing transitive : φ)
    (calls : List (τ × τ)) :
    let edge := (fresh revision force changing transitive).addRoutes calls
    IsRoutedBy calls edge ∧
      ∀ (revision' : RevisionId τ) (force' changing' transitive' : φ),
        let again := (fresh revision' force' changing' transitive').addRoutes edge.mappings
        again.mappings = edge.mappings ∧ again.masters = edge.masters ∧
          ∀ master, again.targets master = edge.targets master := by
  intro edge
  refine ⟨isRoutedBy_addRoutes rfl calls, fun revision' force' changing' transitive' => ?_⟩
  intro again
  have hdistinct : edge.HasDistinctRoutes :=
    (hasDistinctRoutes_of_no_routes rfl).addRoutes calls
  have hroutes : again.routes = edge.routes := hdistinct.routes_addRoutes_mappings rfl
  refine ⟨?_, ?_, fun master => ?_⟩
  · rw [Dependency.mappings, hroutes, Dependency.mappings]
  · rw [Dependency.masters, hroutes, Dependency.masters]
  · rw [targets, hroutes, targets]

/-- Two masters that are routed by turns. -/
example : ((fresh ⟨"org", "lib", none, none⟩ false false true).addRoutes
    [("test", "core"), ("default", "core"), ("test", "extras"), ("test", "core")]).mappings =
      [("test", "core"), ("test", "extras"), ("default", "core")] := by
  decide

/-! ### Routes from several masters -/

section From

variable (masters : List τ) (targetsAt : τ → List τ)

def routesFrom : List (τ × τ) := masters.flatMap fun master => (targetsAt master).map (master, ·)

theorem distinct_fst_routesFrom :
    distinct ((routesFrom masters targetsAt).map Prod.fst) =
      distinct (masters.filter fun master => !(targetsAt master).isEmpty) := by
  -- With any elements at the start, so that the hypothesis fits after the first master.
  have hfold : ∀ as : List τ, ((routesFrom masters targetsAt).map Prod.fst).foldl addNew as =
      (masters.filter fun master => !(targetsAt master).isEmpty).foldl addNew as := by
    induction masters with
    | nil => exact fun _ => rfl
    | cons master masters ih =>
      intro as
      have hfirst : ((targetsAt master).map (master, ·)).map Prod.fst =
          (targetsAt master).map fun _ => master := by
        rw [List.map_map]
        rfl
      have hsplit : routesFrom (master :: masters) targetsAt =
          (targetsAt master).map (master, ·) ++ routesFrom masters targetsAt := rfl
      rw [hsplit, List.map_append, List.foldl_append, hfirst, foldl_addNew_map_const, ih]
      cases hempty : (targetsAt master).isEmpty with
      | true => simp [hempty]
      | false => simp [hempty]
  exact hfold []

variable {masters targetsAt}

omit [DecidableEq τ] in
theorem mem_routesFrom {r : τ × τ} :
    r ∈ routesFrom masters targetsAt ↔ r.1 ∈ masters ∧ r.2 ∈ targetsAt r.1 := by
  rw [routesFrom, List.mem_flatMap]
  constructor
  · rintro ⟨master, hmaster, hr⟩
    obtain ⟨target, htarget, rfl⟩ := List.mem_map.mp hr
    exact ⟨hmaster, htarget⟩
  · rintro ⟨hmaster, htarget⟩
    exact ⟨r.1, hmaster, List.mem_map_of_mem htarget⟩

/-- The first occurrence of a master brings all its targets. -/
theorem targetsIn_routesFrom {master : τ} (h : master ∈ masters) :
    targetsIn (routesFrom masters targetsAt) master = distinct (targetsAt master) := by
  obtain ⟨before, after, rfl, hbefore⟩ := List.eq_append_cons_of_mem h
  have hsplit : routesFrom (before ++ master :: after) targetsAt =
      routesFrom before targetsAt ++
        ((targetsAt master).map (master, ·) ++ routesFrom after targetsAt) := by
    rw [routesFrom, List.flatMap_append, List.flatMap_cons]
    rfl
  have hnone : (routesFrom before targetsAt).filter (·.1 == master) = [] := by
    rw [List.filter_eq_nil_iff]
    intro r hr heq
    exact hbefore (eq_of_beq heq ▸ (mem_routesFrom.mp hr).1)
  have hall : ((targetsAt master).map (master, ·)).filter (·.1 == master) =
      (targetsAt master).map (master, ·) := by
    rw [List.filter_eq_self]
    intro r hr
    obtain ⟨target, -, rfl⟩ := List.mem_map.mp hr
    exact beq_self_eq_true master
  have hfirst : ((targetsAt master).map (master, ·)).map Prod.snd = targetsAt master := by
    rw [List.map_map]
    exact List.map_id _
  have hrest : ((routesFrom after targetsAt).filter (·.1 == master)).map Prod.snd ⊆
      targetsAt master := by
    intro target htarget
    obtain ⟨r, hr, rfl⟩ := List.mem_map.mp htarget
    obtain ⟨hmem, heq⟩ := List.mem_filter.mp hr
    exact eq_of_beq heq ▸ (mem_routesFrom.mp hmem).2
  rw [targetsIn, hsplit, List.filter_append, List.filter_append, hnone, hall, List.nil_append,
    List.map_append, hfirst, distinct_append_of_subset hrest]

variable (masters targetsAt)

/-- Masters without targets have no group, and repeated masters have one. -/
theorem grouped_routesFrom :
    grouped (routesFrom masters targetsAt) =
      (distinct (masters.filter fun master => !(targetsAt master).isEmpty)).map fun master =>
        (master, distinct (targetsAt master)) := by
  rw [grouped, distinct_fst_routesFrom]
  refine List.map_congr_left fun master hmaster => ?_
  have hmem : master ∈ masters := (List.mem_filter.mp (mem_distinct.mp hmaster)).1
  rw [targetsIn_routesFrom hmem]

end From

end OsgiIvy.Dependency
