import OsgiIvy.Proofs.Bundle.Snapshots
import OsgiIvy.Report.Fixed

/-!
# Snapshots of fixed descriptors

A fixed descriptor binds the artifacts of its configurations in their order and repeats no route, so
that its snapshot keeps all of it, as that of a bundle does.
-/

namespace OsgiIvy

open OsgiIvy.Json (tornFace)
open OsgiIvy.Time (Moment)

namespace Report

/-- A report whose mappings, and those of its descriptor, have each key once. -/
structure IsProper (r : Report String Bool) : Prop where
  registered : r.registered.IsMapping
  namespaces : r.descriptor.namespaces.IsMapping
  attributes : ∀ e ∈ r.descriptor.artifacts.entries, ∀ a ∈ e.2, a.extra.IsMapping

/-! ### Recording keeps reports proper -/

theorem isProper_empty {d : ModuleDescriptor} (hnamespaces : d.namespaces.IsMapping)
    (hattributes : ∀ e ∈ d.artifacts.entries, ∀ a ∈ e.2, a.extra.IsMapping)
    (resolveId : Option String) (separator : String) (findings : Findings String) :
    (Report.empty d resolveId separator findings).IsProper :=
  ⟨Assoc.isMapping_empty, hnamespaces, hattributes⟩

variable {r : Report String Bool}

theorem IsProper.register (h : r.IsProper) (configuration : String) (part : Nat) :
    (r.register configuration part).IsProper :=
  ⟨h.registered.put configuration part, h.namespaces, h.attributes⟩

theorem IsProper.addPart (h : r.IsProper) (configuration : String) :
    (r.addPart configuration).IsProper :=
  ⟨h.registered, h.namespaces, h.attributes⟩

theorem IsProper.dispatch (h : r.IsProper) (n : Nat) : (r.dispatch n).IsProper :=
  List.foldlRecOn _ _ h fun _ hr _ _ => ⟨hr.registered, hr.namespaces, hr.attributes⟩

theorem IsProper.setDependencies (h : r.IsProper) (nodes : List Nat)
    (filter : Artifact String → Bool) : (r.setDependencies nodes filter).IsProper :=
  List.foldlRecOn (motive := IsProper) _ _ ⟨h.registered, h.namespaces, h.attributes⟩
    fun _ hr n _ => hr.dispatch n

/-! ### Fixed descriptors -/

section Edge

variable {keep : List (ModuleId String)} {n : Node String}

theorem routes_pinned (keep : List (ModuleId String)) (n : Node String) :
    (pinned keep n : Dependency String Bool).routes = {} := by
  unfold pinned
  split
  · rfl
  · rfl

/-- The edge to a node that survives somewhere: pinned, and routed from the roots where it does. -/
def edgeTo (keep : List (ModuleId String)) (n : Node String) : Dependency String Bool :=
  (pinned keep n).addRoutes
    ((survivingRoots n).flatMap fun root => (n.configurationsAt root).map (root, ·))

theorem fixedEdge?_of_survivingRoots (keep : List (ModuleId String)) (h : survivingRoots n ≠ []) :
    fixedEdge? keep n = some (edgeTo keep n) := by
  rw [← List.isEmpty_eq_false_iff] at h
  simp only [fixedEdge?, h]
  rfl

theorem fixedEdge?_eq_some_iff {e : Dependency String Bool} :
    fixedEdge? keep n = some e ↔ survivingRoots n ≠ [] ∧ edgeTo keep n = e := by
  constructor
  · intro h
    have hroots : survivingRoots n ≠ [] := by
      intro hnone
      simp [fixedEdge?, hnone] at h
    rw [fixedEdge?_of_survivingRoots keep hroots] at h
    exact ⟨hroots, Option.some.inj h⟩
  · rintro ⟨hroots, rfl⟩
    exact fixedEdge?_of_survivingRoots keep hroots

theorem hasDistinctRoutes_fixedEdge? {e : Dependency String Bool} (h : fixedEdge? keep n = some e) :
    e.HasDistinctRoutes := by
  obtain ⟨-, rfl⟩ := fixedEdge?_eq_some_iff.mp h
  exact (Dependency.hasDistinctRoutes_of_no_routes (routes_pinned keep n)).addRoutes _

end Edge

/-- Nothing but artifacts is bound. -/
theorem bindArtifacts_frame (d base : ModuleDescriptor) (names : List String) :
    bindArtifacts d names base =
      { base with artifacts := (bindArtifacts d names base).artifacts } := by
  -- The artifacts of the first name are added to the base, which is the base of the others.
  induction names generalizing base with
  | nil => rfl
  | cons name names ih =>
    have hstep : bindArtifacts d (name :: names) base =
        bindArtifacts d names (base.addAll name (d.artifactsOf name)) := rfl
    rw [hstep, Descriptor.addAll_frame]
    exact ih { base with artifacts := (base.addAll name (d.artifactsOf name)).artifacts }

section Fields

variable (r) (now : Moment) (settings : Settings) (keep : List (ModuleId String))

theorem publicationDate_fixed : (r.fixed now settings keep).publicationDate = some now := by
  rw [fixed, bindArtifacts_frame]

theorem namespaces_fixed : (r.fixed now settings keep).namespaces = r.descriptor.namespaces := by
  rw [fixed, bindArtifacts_frame]

theorem dependencies_fixed : (r.fixed now settings keep).dependencies =
    r.dependencies.filterMap fun n => fixedEdge? keep (r.findings.node n) := by
  rw [fixed, bindArtifacts_frame]

theorem configurationNames_fixed :
    (r.fixed now settings keep).configurationNames = r.configurations := by
  rw [fixed, bindArtifacts_frame, Descriptor.configurationNames, plainConfigurations, List.map_map]
  exact List.map_id r.configurations

end Fields

/-- The artifacts of a fixed descriptor are those that the module has for the configurations. -/
theorem artifacts_fixed (h : r.registered.IsMapping) (now : Moment) (settings : Settings)
    (keep : List (ModuleId String)) :
    (r.fixed now settings keep).artifacts.entries = r.descriptor.bindings r.configurations := by
  have hbound : ∀ {base : ModuleDescriptor}, base.artifacts = {} →
      (bindArtifacts r.descriptor r.configurations base).artifacts.entries =
        r.descriptor.bindings r.configurations := by
    intro base hbase
    have hnew : (base.artifacts.keys ++ r.configurations).Nodup := by
      rw [hbase]
      exact h
    have hfold := congrArg (·.artifacts.entries) (Descriptor.foldl_addAll r.descriptor hnew)
    simp only [hbase] at hfold
    exact hfold
  exact hbound rfl

/-! ### The snapshot -/

theorem isProper_fixed (h : r.IsProper) {now : Moment} (hnow : Moment.read? now.render = some now)
    (settings : Settings) (keep : List (ModuleId String)) :
    Snapshot.IsProper (r.fixed now settings keep) := by
  refine ⟨?_, ?_, ?_, ?_, ?_⟩
  · rw [configurationNames_fixed]
    exact h.registered
  · rw [namespaces_fixed]
    exact h.namespaces
  · intro e he a ha
    rw [artifacts_fixed h.registered] at he
    rw [(Descriptor.mem_bindings he).1] at ha
    obtain ⟨e', he', ha'⟩ := Descriptor.exists_mem_entries_of_mem_artifactsOf ha
    exact h.attributes e' he' a ha'
  · intro e he
    rw [dependencies_fixed] at he
    obtain ⟨n, -, hn⟩ := List.mem_filterMap.mp he
    exact hasDistinctRoutes_fixedEdge? hn
  · intro m hm
    rw [publicationDate_fixed] at hm
    rw [← Option.some.inj hm]
    exact hnow

theorem isBound_fixed (h : r.IsProper) (now : Moment) (settings : Settings)
    (keep : List (ModuleId String)) : Snapshot.IsBound (r.fixed now settings keep) := by
  constructor
  · rw [Assoc.keys, artifacts_fixed h.registered, configurationNames_fixed]
    exact r.descriptor.keys_bindings_sublist r.configurations
  · intro e he
    rw [artifacts_fixed h.registered] at he
    exact (Descriptor.mem_bindings he).2

/-- The descriptor of every bundle and every fixed descriptor survive in their snapshots, as long as
the moment of publication can be read from its text. -/
theorem survives_snapshot {now : Moment} (hnow : Moment.read? now.render = some now)
    (indent : Nat) :
    (∀ context b md, Descriptor.ofBundle now context b = .ok md → Snapshot.Survives indent md) ∧
      ∀ settings keep (r : Report String Bool), r.IsProper →
        Snapshot.Survives indent (r.fixed now settings keep) := by
  constructor
  · intro context b md h
    exact Snapshot.survives (Bundle.isProper_ofBundle hnow h) (Bundle.isBound_ofBundle h) indent
  · intro settings keep r h
    exact Snapshot.survives (isProper_fixed h hnow settings keep)
      (isBound_fixed h now settings keep) indent

/-- A bundle with an optional requirement, whose archive lies beside its manifest. -/
def archived : Bundle where
  symbolicName := "archived"
  version := "1.0.0"
  exports := [⟨"api", "1.0", ⟨["log"]⟩⟩]
  requirements := [⟨packageType, "log", some "[1,2)", optional⟩]
  artifacts := [⟨some "archived.jar", some "jar", false⟩]
  environments := []
  hasInnerClasspath := false

/-- A dependency that was found for two configurations and lost in one of them. -/
def contested : Node String where
  requested := ⟨"org", "log", none, some "[1,2)"⟩
  resolved := ⟨"org", "log", none, some "1.5"⟩
  roots := ["default", "test"]
  configurations := ⟨[("default", ["core"]), ("test", ["core", "extras"])]⟩
  evictedIn := ["default"]
  problem := ""
  artifacts := []

/-- What resolving a module for two of its configurations came to; one of them has an artifact. -/
def contestedReport : Report String Bool :=
  let revision : RevisionId String := ⟨"org", "app", none, some "1"⟩
  let jar : Artifact String :=
    ⟨revision, some "app", some "jar", some "jar", none, .ofList [("packaging", "bundle")]⟩
  let app : ModuleDescriptor :=
    (Descriptor.empty revision "integration").addArtifact "test" jar
  let findings : Findings String := ⟨fun _ => contested, fun _ => ⟨jar, .present⟩⟩
  ((((Report.empty app none "-" findings).addPart "default").register "default" 0).register
    "test" 0).setDependencies [0] fun _ => true

theorem isProper_contestedReport : contestedReport.IsProper := by
  refine IsProper.setDependencies (IsProper.register (IsProper.register (IsProper.addPart
    (isProper_empty ?_ ?_ _ _ _) _) _ _) _ _) _ _
  · exact Assoc.isMapping_empty
  · intro e he a ha
    rw [List.mem_singleton.mp he] at ha
    rw [List.mem_singleton.mp ha]
    exact Assoc.isMapping_ofList _

theorem survives_snapshot_contested :
    ∃ now md, Moment.read? now.render = some now ∧
      Descriptor.ofBundle now ⟨some "http://repo/", none, none⟩ archived = .ok md ∧
      md.artifacts.keys = ["default"] ∧ Snapshot.Survives 2 md ∧ contestedReport.IsProper ∧
      Snapshot.Survives 2 (contestedReport.fixed now {} []) := by
  have hnow : Moment.read? (Moment.render ⟨⟨2024, 1, 2⟩, 3, 4, 5, 0, some .utc⟩) =
      some ⟨⟨2024, 1, 2⟩, 3, 4, 5, 0, some .utc⟩ := by decide
  have hmd : ∃ md, Descriptor.ofBundle ⟨⟨2024, 1, 2⟩, 3, 4, 5, 0, some .utc⟩
      ⟨some "http://repo/", none, none⟩ archived = .ok md ∧
        md.artifacts.keys = ["default"] := ⟨_, rfl, rfl⟩
  obtain ⟨md, hmd, hkeys⟩ := hmd
  obtain ⟨hbundle, hfixed⟩ := survives_snapshot hnow 2
  exact ⟨_, md, hnow, hmd, hkeys, hbundle _ archived md hmd, isProper_contestedReport,
    hfixed {} [] contestedReport isProper_contestedReport⟩

/-- The report on a module before anything is recorded. -/
def blank {τ φ : Type} [Field τ] (d : Descriptor τ φ) : Report τ φ :=
  Report.empty d none "-" ⟨fun _ => .bare d.revision,
    fun _ => ⟨⟨d.revision, none, none, none, none, {}⟩, .present⟩⟩

/-- A fixed descriptor has the description of its module, and the halves of a character in it are
read back as the character. -/
theorem not_survives_torn :
    ∃ now text d, Moment.read? now.render = some now ∧
      Snapshot.toJson? 2 ((blank (Snapshot.described (.torn tornFace))).fixed now {} []) =
        some text ∧
      Snapshot.ofJson text = .ok d ∧
      d.description ≠
        ((blank (Snapshot.described (.torn tornFace))).fixed now {} []).description := by
  have hnow : Moment.read? (Moment.render ⟨⟨2024, 1, 2⟩, 3, 4, 5, 0, some .utc⟩) =
      some ⟨⟨2024, 1, 2⟩, 3, 4, 5, 0, some .utc⟩ := by decide
  have hwhole : (blank { (Descriptor.empty ⟨"org", "app", none, none⟩ "integration" :
      ModuleDescriptor) with description := "😀" }).IsProper :=
    isProper_empty Assoc.isMapping_empty (fun _ he => absurd he List.not_mem_nil) _ _ _
  obtain ⟨text, htext, hread⟩ := Snapshot.ofJson_toJson? (isProper_fixed hwhole hnow {} []) 2
  exact ⟨_, text, _, hnow, (Snapshot.toJson?_eq_of_joinHalves rfl 2).trans htext, hread, nofun⟩

end Report

end OsgiIvy
