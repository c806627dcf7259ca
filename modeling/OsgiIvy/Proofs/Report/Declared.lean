import OsgiIvy.Proofs.Report.Evictions

/-!
# Declared masters

A fixed descriptor declares the configurations that received a report.  The masters of its edges
come from the nodes instead: they are the roots in which a node was not evicted and configurations
of it were selected (`exists_master_fixed_iff`).  Recording the dependencies passes over a root
without a report, so that the two may differ and an edge may have a master that is not declared.
`masters_fixed_declared_iff` says when that happens.
-/

namespace OsgiIvy

open OsgiIvy.Time (Moment)

/-- The node was reached through the root and not evicted there, and configurations of it were
selected. -/
def Node.IsRoutedFrom (n : Node String) (root : String) : Prop :=
  root ∈ n.roots ∧ n.isEvicted root = false ∧ n.configurationsAt root ≠ []

namespace Report

/-! ### The edge to a node -/

section Edge

variable {keep : List (ModuleId String)} {n : Node String} {e : Dependency String Bool}

theorem masters_pinned (keep : List (ModuleId String)) (n : Node String) :
    (pinned keep n : Dependency String Bool).masters = [] := by
  rw [Dependency.masters, routes_pinned]
  rfl

theorem mem_masters_fixedEdge? (h : fixedEdge? keep n = some e) (m : String) :
    m ∈ e.masters ↔ n.IsRoutedFrom m := by
  obtain ⟨-, rfl⟩ := fixedEdge?_eq_some_iff.mp h
  rw [edgeTo, Dependency.mem_masters_addRoutes, masters_pinned]
  constructor
  · rintro (hnone | hmem)
    · exact absurd hnone List.not_mem_nil
    · obtain ⟨route, hroute, rfl⟩ := List.mem_map.mp hmem
      obtain ⟨root, hroot, htargets⟩ := List.mem_flatMap.mp hroute
      obtain ⟨target, htarget, rfl⟩ := List.mem_map.mp htargets
      obtain ⟨hreached, hkept⟩ := mem_survivingRoots.mp hroot
      exact ⟨hreached, hkept, List.ne_nil_of_mem htarget⟩
  · rintro ⟨hreached, hkept, hselected⟩
    obtain ⟨target, htarget⟩ := List.exists_mem_of_ne_nil _ hselected
    have hroot : m ∈ survivingRoots n := mem_survivingRoots.mpr ⟨hreached, hkept⟩
    refine .inr (List.mem_map.mpr ⟨(m, target), ?_, rfl⟩)
    exact List.mem_flatMap.mpr ⟨m, hroot, List.mem_map_of_mem htarget⟩

theorem exists_fixedEdge? (keep : List (ModuleId String)) {root : String}
    (h : n.IsRoutedFrom root) : ∃ e : Dependency String Bool, fixedEdge? keep n = some e := by
  have hroot : root ∈ survivingRoots n := mem_survivingRoots.mpr ⟨h.1, h.2.1⟩
  exact ⟨_, fixedEdge?_of_survivingRoots keep (List.ne_nil_of_mem hroot)⟩

end Edge

/-! ### The edges of a fixed descriptor -/

section Edges

variable (r : Report String Bool) (now : Moment) (settings : Settings)
  (keep : List (ModuleId String))

theorem mem_dependencies_fixed {e : Dependency String Bool} :
    e ∈ (r.fixed now settings keep).dependencies ↔
      ∃ n ∈ r.dependencies, fixedEdge? keep (r.findings.node n) = some e := by
  rw [dependencies_fixed, List.mem_filterMap]

theorem exists_master_fixed_iff (m : String) :
    (∃ e ∈ (r.fixed now settings keep).dependencies, m ∈ e.masters) ↔
      ∃ n ∈ r.dependencies, (r.findings.node n).IsRoutedFrom m := by
  constructor
  · rintro ⟨e, he, hm⟩
    obtain ⟨n, hn, hedge⟩ := (mem_dependencies_fixed r now settings keep).mp he
    exact ⟨n, hn, (mem_masters_fixedEdge? hedge m).mp hm⟩
  · rintro ⟨n, hn, hrouted⟩
    obtain ⟨e, hedge⟩ := exists_fixedEdge? keep hrouted
    exact ⟨e, (mem_dependencies_fixed r now settings keep).mpr ⟨n, hn, hedge⟩,
      (mem_masters_fixedEdge? hedge m).mpr hrouted⟩

end Edges

/-- A master of an edge is a root that the node of the edge is routed from, and it is declared
exactly when it received a report.  So all masters are declared exactly when all roots that a node
is routed from received one. -/
theorem masters_fixed_declared_iff (r : Report String Bool) (now : Moment) (settings : Settings)
    (keep : List (ModuleId String)) :
    (∀ e ∈ (r.fixed now settings keep).dependencies, ∀ m ∈ e.masters,
      (∃ n ∈ r.dependencies, fixedEdge? keep (r.findings.node n) = some e ∧
        (r.findings.node n).IsRoutedFrom m) ∧
      (m ∈ (r.fixed now settings keep).configurationNames ↔ m ∈ r.configurations)) ∧
    ((∀ e ∈ (r.fixed now settings keep).dependencies, ∀ m ∈ e.masters,
        m ∈ (r.fixed now settings keep).configurationNames) ↔
      ∀ n ∈ r.dependencies, ∀ root, (r.findings.node n).IsRoutedFrom root →
        root ∈ r.configurations) := by
  rw [configurationNames_fixed]
  refine ⟨?_, ?_, ?_⟩
  · intro e he m hm
    obtain ⟨n, hn, hedge⟩ := (mem_dependencies_fixed r now settings keep).mp he
    exact ⟨⟨n, hn, hedge, (mem_masters_fixedEdge? hedge m).mp hm⟩, Iff.rfl⟩
  · intro hdeclared n hn root hrouted
    obtain ⟨e, he, hm⟩ := (exists_master_fixed_iff r now settings keep root).mpr ⟨n, hn, hrouted⟩
    exact hdeclared e he root hm
  · intro hreported e he m hm
    obtain ⟨n, hn, hrouted⟩ := (exists_master_fixed_iff r now settings keep m).mp ⟨e, he, hm⟩
    exact hreported n hn m hrouted

/-- Both roots of the contested dependency received a report, and the one that its edge is routed
from is declared. -/
theorem masters_fixed_declared_contested :
    (∃ e ∈ (contestedReport.fixed ⟨⟨2024, 1, 2⟩, 3, 4, 5, 0, some .utc⟩ {} []).dependencies,
      e.masters = ["test"]) ∧
    ∀ e ∈ (contestedReport.fixed ⟨⟨2024, 1, 2⟩, 3, 4, 5, 0, some .utc⟩ {} []).dependencies,
      ∀ m ∈ e.masters, m ∈ (contestedReport.fixed ⟨⟨2024, 1, 2⟩, 3, 4, 5, 0, some .utc⟩ {}
        []).configurationNames := by
  refine ⟨⟨_, List.mem_singleton_self _, rfl⟩, ?_⟩
  refine (masters_fixed_declared_iff contestedReport _ {} []).2.mpr ?_
  rintro n - root ⟨hroot, -, -⟩
  exact hroot

/-- The same dependency, recorded where no configuration received a report. -/
def unreported : Report String Bool :=
  let app : ModuleDescriptor := Descriptor.empty ⟨"org", "app", none, some "1"⟩ "integration"
  (Report.empty app none "-" contestedReport.findings).setDependencies [0] fun _ => true

theorem undeclared_master_unreported :
    ∃ e ∈ (unreported.fixed ⟨⟨2024, 1, 2⟩, 3, 4, 5, 0, some .utc⟩ {} []).dependencies,
      ∃ m ∈ e.masters, m ∉ (unreported.fixed ⟨⟨2024, 1, 2⟩, 3, 4, 5, 0, some .utc⟩ {}
        []).configurationNames := by
  refine ⟨_, List.mem_singleton_self _, "test", List.mem_singleton_self _, ?_⟩
  rw [configurationNames_fixed]
  exact List.not_mem_nil

end Report

end OsgiIvy
