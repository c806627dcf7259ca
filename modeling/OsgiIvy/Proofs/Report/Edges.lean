import OsgiIvy.Proofs.Module.Groups
import OsgiIvy.Proofs.Report.Evictions

/-!
# The edges of a fixed descriptor

A fixed descriptor has an edge for each node that some root reached without evicting it, in the
order of the dependencies.  `IsEdgeTo` says all there is to the edge: where it leads, that it is
forced unless the module is to be kept, and which configurations it routes to which.
-/

namespace OsgiIvy.Report

open OsgiIvy.Time (Moment)

/-- An edge to the revision that was requested of a module that is to be kept, and a forced one to
the revision that was chosen of any other.  It routes each root in which the node was not evicted to
the configurations of the node that were selected there: roots and configurations stand once, in the
order in which they first occur, and a root without configurations does not stand at all. -/
structure IsEdgeTo (keep : List (ModuleId String)) (n : Node String) (e : Dependency String Bool) :
    Prop where
  revision : e.revision = if n.moduleId ∈ keep then n.requested else n.resolved
  force : e.force = true ↔ n.moduleId ∉ keep
  changing : e.changing = false
  transitive : e.transitive = false
  mappings : ∀ root target, (root, target) ∈ e.mappings ↔
    root ∈ n.roots ∧ root ∉ n.evictedIn ∧ target ∈ n.configurationsAt root
  nodup : e.mappings.Nodup
  routes : e.routes.entries = (distinct ((survivingRoots n).filter fun root =>
    !(n.configurationsAt root).isEmpty)).map fun root => (root, distinct (n.configurationsAt root))

theorem hasEdge_eq_any (n : Node String) :
    hasEdge n = n.roots.any fun root => !n.evictedIn.contains root := by
  rw [Bool.eq_iff_iff, hasEdge_iff, ne_eq, List.eq_nil_iff_forall_not_mem, not_forall_not,
    List.any_eq_true]
  refine exists_congr fun root => ?_
  rw [mem_survivingRoots, Node.isEvicted, Bool.not_eq_true']

theorem pinned_eq (keep : List (ModuleId String)) (n : Node String) :
    (pinned keep n : Dependency String Bool) =
      ⟨if n.moduleId ∈ keep then n.requested else n.resolved, decide (n.moduleId ∉ keep), false,
        false, {}⟩ := by
  unfold pinned
  by_cases h : n.moduleId ∈ keep
  · rw [if_pos (List.contains_iff_mem.mpr h), if_pos h, decide_eq_false (not_not.mpr h)]
    rfl
  · rw [if_neg (mt List.contains_iff_mem.mp h), if_neg h, decide_eq_true h]
    rfl

theorem edgeTo_eq (keep : List (ModuleId String)) (n : Node String) : edgeTo keep n =
    { pinned keep n with routes := ⟨(distinct ((survivingRoots n).filter fun root =>
        !(n.configurationsAt root).isEmpty)).map fun root =>
          (root, distinct (n.configurationsAt root))⟩ } := by
  have hroutes := Dependency.entries_addRoutes (routes_pinned keep n)
    (Dependency.routesFrom (survivingRoots n) n.configurationsAt)
  rw [Dependency.grouped_routesFrom] at hroutes
  rw [← hroutes]
  exact Dependency.addRoutes_eq _ _

theorem isEdgeTo_edgeTo (keep : List (ModuleId String)) (n : Node String) :
    IsEdgeTo keep n (edgeTo keep n) := by
  have hnone := routes_pinned keep n
  refine ⟨?_, ?_, ?_, ?_, ?_, ?_, ?_⟩
  · rw [edgeTo_eq, pinned_eq]
  · rw [edgeTo_eq, pinned_eq, decide_eq_true_iff]
  · rw [edgeTo_eq, pinned_eq]
  · rw [edgeTo_eq, pinned_eq]
  · intro root target
    have hroot : n.isEvicted root = false ↔ root ∉ n.evictedIn := by
      rw [Node.isEvicted, ← Bool.not_eq_true, List.contains_iff_mem]
    have hmem : (root, target) ∈ (edgeTo keep n).mappings ↔
        (root, target) ∈ Dependency.routesFrom (survivingRoots n) n.configurationsAt :=
      Dependency.mem_mappings_addRoutes hnone
    rw [hmem, Dependency.mem_routesFrom, mem_survivingRoots, hroot, and_assoc]
  · exact ((Dependency.hasDistinctRoutes_of_no_routes hnone).addRoutes _).nodup_mappings
  · rw [edgeTo_eq]

/-- The edges stand in the order of the nodes, one for each that has a root in which it was not
evicted. -/
theorem dependencies_fixed_edges (r : Report String Bool) (now : Moment) (settings : Settings)
    (keep : List (ModuleId String)) :
    List.Forall₂ (IsEdgeTo keep)
      (r.nodes.filter fun n => n.roots.any fun root => !n.evictedIn.contains root)
      (r.fixed now settings keep).dependencies := by
  have hedges : (r.nodes.filter fun n => n.roots.any fun root => !n.evictedIn.contains root) =
      r.nodes.filter hasEdge :=
    List.filter_congr fun n _ => (hasEdge_eq_any n).symm
  rw [hedges, dependencies_fixed_eq_map, List.forall₂_map_right_iff, List.forall₂_same]
  exact fun n _ => isEdgeTo_edgeTo keep n

end OsgiIvy.Report
