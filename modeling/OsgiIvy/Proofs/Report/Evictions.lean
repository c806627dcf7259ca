import OsgiIvy.Proofs.Report.Snapshots

/-!
# Edges to evicted nodes

A fixed descriptor has an edge to a node that survives in one of its roots, and a report leaves out
what nodes bring in that are completely evicted.  A node that lost in all its roots survives in
none.  A node without roots, too, survives in none, but it never lost: it is the one on which the
two disagree (`dependencies_fixed_unless_evicted_iff`).
-/

namespace OsgiIvy.Report

open OsgiIvy.Time (Moment)

variable {n : Node String} {keep : List (ModuleId String)}

/-! ### Where a node survives -/

theorem mem_survivingRoots {root : String} :
    root ∈ survivingRoots n ↔ root ∈ n.roots ∧ n.isEvicted root = false := by
  rw [survivingRoots, List.mem_filter, Bool.not_eq_true']

theorem survivingRoots_eq_nil_iff :
    survivingRoots n = [] ↔ n.roots = [] ∨ n.isCompletelyEvicted = true := by
  have hlost : survivingRoots n = [] ↔ n.roots.all n.isEvicted = true := by
    rw [survivingRoots, List.filter_eq_nil_iff, List.all_eq_true]
    simp only [Bool.not_eq_true', Bool.not_eq_false]
  rw [hlost, Node.isCompletelyEvicted]
  cases n.roots with
  | nil => simp
  | cons root roots => simp

/-! ### The edge to a node -/

/-- The node has roots and did not lose in all of them. -/
def hasEdge (n : Node String) : Bool := !n.roots.isEmpty && !n.isCompletelyEvicted

theorem hasEdge_iff : hasEdge n = true ↔ survivingRoots n ≠ [] := by
  rw [hasEdge, ne_eq, survivingRoots_eq_nil_iff, not_or, Bool.and_eq_true, Bool.not_eq_true',
    Bool.not_eq_true', List.isEmpty_eq_false_iff, Bool.not_eq_true]

theorem fixedEdge?_eq (keep : List (ModuleId String)) (n : Node String) :
    fixedEdge? keep n = if hasEdge n then some (edgeTo keep n) else none := by
  by_cases h : hasEdge n = true
  · rw [if_pos h, fixedEdge?_of_survivingRoots keep (hasEdge_iff.mp h)]
  · have hnone : survivingRoots n = [] := by
      by_contra hsome
      exact h (hasEdge_iff.mpr hsome)
    rw [if_neg h, fixedEdge?, hnone]
    rfl

theorem isSome_fixedEdge? (keep : List (ModuleId String)) (n : Node String) :
    (fixedEdge? keep n : Option (Dependency String Bool)).isSome = hasEdge n := by
  rw [fixedEdge?_eq]
  cases hasEdge n <;> rfl

theorem roots_ne_nil_of_isCompletelyEvicted (h : n.isCompletelyEvicted = true) : n.roots ≠ [] := by
  rw [Node.isCompletelyEvicted, Bool.and_eq_true, Bool.not_eq_true', List.isEmpty_eq_false_iff] at h
  exact h.1

/-- The tests agree on the nodes that have roots. -/
theorem hasEdge_eq_iff : hasEdge n = !n.isCompletelyEvicted ↔ n.roots ≠ [] := by
  rw [hasEdge]
  constructor
  · intro h hnone
    simp [hnone, Node.isCompletelyEvicted] at h
  · intro hroots
    rw [List.isEmpty_eq_false_iff.mpr hroots]
    rfl

/-! ### The edges of a fixed descriptor -/

/-- The stored dependencies of a report. -/
def nodes (r : Report String Bool) : List (Node String) := r.dependencies.map r.findings.node

theorem dependencies_fixed_eq_map (r : Report String Bool) (now : Moment) (settings : Settings)
    (keep : List (ModuleId String)) :
    (r.fixed now settings keep).dependencies = (r.nodes.filter hasEdge).map (edgeTo keep) := by
  rw [dependencies_fixed, nodes, ← List.filterMap_eq_map, List.filterMap_filter,
    List.filterMap_map]
  exact List.filterMap_congr fun i _ => fixedEdge?_eq keep (r.findings.node i)

/-- Only nodes without roots make the two tests choose differently. -/
theorem map_filter_hasEdge_eq_iff {ns : List (Node String)}
    {f : Node String → Dependency String Bool} :
    (ns.filter hasEdge).map f = (ns.filter (!·.isCompletelyEvicted)).map f ↔
      ∀ n ∈ ns, n.roots ≠ [] := by
  constructor
  · intro h n hn
    have hsub : ns.filter hasEdge =
        (ns.filter (!·.isCompletelyEvicted)).filter (!·.roots.isEmpty) := by
      rw [List.filter_filter]
      rfl
    have hlength := congrArg List.length h
    rw [List.length_map, List.length_map, hsub, List.length_filter_eq_length_iff] at hlength
    cases hlost : n.isCompletelyEvicted with
    | true => exact roots_ne_nil_of_isCompletelyEvicted hlost
    | false =>
      have hroots := hlength n (List.mem_filter.mpr ⟨hn, by simp [hlost]⟩)
      simpa using hroots
  · intro h
    rw [List.filter_congr fun n hn => hasEdge_eq_iff.mpr (h n hn)]

/-- A fixed descriptor has edges, in order, to the nodes that have roots and did not lose in all of
them.  These are the nodes that are not completely evicted exactly when all have roots: the tests
disagree on a node without roots, and on no other. -/
theorem dependencies_fixed_unless_evicted_iff (r : Report String Bool) (now : Moment)
    (settings : Settings) (keep : List (ModuleId String)) :
    (r.fixed now settings keep).dependencies = (r.nodes.filter hasEdge).map (edgeTo keep) ∧
    ((r.fixed now settings keep).dependencies =
        (r.nodes.filter (!·.isCompletelyEvicted)).map (edgeTo keep) ↔
      ∀ n ∈ r.nodes, n.roots ≠ []) ∧
    ∀ n : Node String,
      ((fixedEdge? keep n : Option (Dependency String Bool)).isSome = !n.isCompletelyEvicted ↔
        n.roots ≠ []) := by
  rw [dependencies_fixed_eq_map]
  refine ⟨rfl, map_filter_hasEdge_eq_iff, fun n => ?_⟩
  rw [isSome_fixedEdge?, hasEdge_eq_iff]

/-- A node that was never evicted, in a report on a module without configurations. -/
def rootless : Report String Bool :=
  let app : ModuleDescriptor := Descriptor.empty ⟨"org", "app", none, some "1"⟩ "integration"
  let lib : Node String := Node.bare ⟨"org", "lib", none, some "1.5"⟩
  let jar : Artifact String := ⟨lib.resolved, some "lib", some "jar", some "jar", none, {}⟩
  (Report.empty app none "-" ⟨fun _ => lib, fun _ => ⟨jar, .present⟩⟩).setDependencies [0]
    fun _ => true

theorem no_edge_rootless :
    (rootless.nodes.map Node.isCompletelyEvicted = [false]) ∧
    (rootless.fixed ⟨⟨2024, 1, 2⟩, 3, 4, 5, 0, some .utc⟩ {} []).dependencies = [] := by
  decide

end OsgiIvy.Report
