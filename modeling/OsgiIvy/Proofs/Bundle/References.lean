import OsgiIvy.Proofs.Bundle.Exclusions
import OsgiIvy.Proofs.Bundle.Snapshots

/-!
# References between the configurations of a bundle

A descriptor names configurations in its dependencies, artifacts and exclude rules and in what
configurations extend.  Those of the first three kinds are always there; those of the last kind are
there unless an export uses a package that the bundle neither exports nor requires
(`ofBundle_references`).
-/

namespace OsgiIvy

/-- The configurations that dependencies, artifacts and exclude rules name are those of the
descriptor. -/
structure Descriptor.NamesOwn (d : ModuleDescriptor) : Prop where
  masters : ∀ e ∈ d.dependencies, ∀ name ∈ e.masters, name ∈ d.configurationNames
  artifacts : ∀ name, d.artifactsOf name ≠ [] → name ∈ d.configurationNames
  rules : ∀ r ∈ d.excludeRules, ∀ name ∈ r.configurations, name ∈ d.configurationNames

/-- The configurations that others extend are those of the descriptor. -/
def Descriptor.ExtendsOwn (d : ModuleDescriptor) : Prop :=
  ∀ c ∈ d.configurations, ∀ parent ∈ c.parents, parent ∈ d.configurationNames

instance (d : ModuleDescriptor) : Decidable d.ExtendsOwn :=
  inferInstanceAs (Decidable (∀ _ ∈ _, _))

namespace Bundle

open OsgiIvy.Configuration (defaultName optionalName transitiveOptionalName useName)
open OsgiIvy.Time (Moment)

variable {now : Moment} {context : Context} {b : Bundle} {md : ModuleDescriptor}

theorem mem_configurationNames_of_base (h : Descriptor.ofBundle now context b = .ok md)
    {name : String} (hbase : name ∈ baseConfigurations.map Configuration.name) :
    name ∈ md.configurationNames :=
  (mem_configurationNames_iff h).mpr (.inl hbase)

/-! ### Dependencies, artifacts and rules -/

theorem masters_declared (h : Descriptor.ofBundle now context b = .ok md)
    {e : Dependency String Bool} (he : e ∈ md.dependencies) {name : String}
    (hname : name ∈ e.masters) : name ∈ md.configurationNames := by
  rw [(configurations_and_dependencies_ofBundle h).2, dependencies_outline] at he
  obtain ⟨r, hr, rfl⟩ := List.mem_map.mp he
  rcases mem_masters_dependencyOf.mp hname with ⟨htype, rfl⟩ | ⟨-, rfl⟩ | ⟨-, rfl | rfl⟩
  · have hmentions : b.Mentions r.name := .inr ⟨r, (List.mem_filter.mp hr).1, htype, rfl⟩
    exact (useName_mem_configurationNames_iff h).mpr hmentions
  · exact mem_configurationNames_of_base h (by decide)
  · exact mem_configurationNames_of_base h (by decide)
  · exact mem_configurationNames_of_base h (by decide)

theorem artifacts_declared (h : Descriptor.ofBundle now context b = .ok md) {name : String}
    (hname : md.artifactsOf name ≠ []) : name ∈ md.configurationNames := by
  have hkey : name ∈ md.artifacts.keys :=
    List.mem_map_of_mem (Descriptor.mem_entries_of_artifactsOf hname)
  exact (isBound_ofBundle h).configurations.subset hkey

theorem rules_declared (h : Descriptor.ofBundle now context b = .ok md) {r : ExcludeRule String}
    (hr : r ∈ md.excludeRules) {name : String} (hname : name ∈ r.configurations) :
    name ∈ md.configurationNames := by
  obtain ⟨packages, -, hrules⟩ := excludeRules_ofBundle h
  rw [hrules] at hr
  obtain ⟨package, -, rfl⟩ := List.mem_map.mp hr
  exact hname

/-! ### What configurations extend -/

theorem parents_base {c : Configuration String Bool} (hc : c ∈ baseConfigurations) :
    ∀ parent ∈ c.parents, parent ∈ baseConfigurations.map Configuration.name := by
  revert c
  decide

theorem extendsOwn_iff (h : Descriptor.ofBundle now context b = .ok md) :
    md.ExtendsOwn ↔ ∀ p, ∀ use ∈ b.usesOf p, b.Mentions use := by
  rw [Descriptor.ExtendsOwn, (configurations_and_dependencies_ofBundle h).1]
  constructor
  · intro hall p use huse
    have hc : Configuration.forUse p (b.usesOf p) ∈ (outline now b).configurations :=
      mem_configurations_outline.mpr (.inr ⟨p, mentions_of_mem_usesOf huse, rfl⟩)
    have hparent := hall _ hc (useName use) (mem_parents_forUse.mpr (.inr ⟨use, huse, rfl⟩))
    exact (useName_mem_configurationNames_iff h).mp hparent
  · intro hall c hc parent hparent
    rcases mem_configurations_outline.mp hc with hbase | ⟨p, hp, rfl⟩
    · exact mem_configurationNames_of_base h (parents_base hbase parent hparent)
    · rcases mem_parents_forUse.mp hparent with rfl | ⟨use, huse, rfl⟩
      · exact mem_configurationNames_of_base h (by decide)
      · exact (useName_mem_configurationNames_iff h).mpr (hall p use huse)

/-- A descriptor has each configuration that its dependencies, artifacts and exclude rules name; and
it has each that others extend exactly if what the first export of a package uses is exported or
required itself. -/
theorem ofBundle_references (h : Descriptor.ofBundle now context b = .ok md) :
    md.NamesOwn ∧
      (md.ExtendsOwn ↔ ∀ p e, b.exports.find? (·.name == p) = some e →
        ∀ use ∈ e.uses, b.Mentions use) := by
  refine ⟨⟨fun _ he _ => masters_declared h he, fun _ => artifacts_declared h,
    fun _ hr _ => rules_declared h hr⟩, ?_⟩
  rw [extendsOwn_iff h]
  constructor
  · intro hall p e hfirst use huse
    exact hall p use (mem_usesOf.mpr ⟨e, hfirst, huse⟩)
  · intro hall p use huse
    obtain ⟨e, hfirst, huse⟩ := mem_usesOf.mp huse
    exact hall p e hfirst use huse

/-- What the first export of a package uses is mentioned; what a later one uses need not be. -/
theorem ofBundle_references_layered :
    ∃ md, Descriptor.ofBundle ⟨⟨2024, 1, 2⟩, 3, 4, 5, 0, some .utc⟩
        ⟨some "http://host/", none, some (Profiles.providedBy Profiles.circularProfiles)⟩ layered =
          .ok md ∧
      md.NamesOwn ∧ md.ExtendsOwn ∧ md.artifactsOf "default" ≠ [] ∧ md.excludeRules ≠ [] := by
  have hmd : ∃ md, Descriptor.ofBundle ⟨⟨2024, 1, 2⟩, 3, 4, 5, 0, some .utc⟩
      ⟨some "http://host/", none, some (Profiles.providedBy Profiles.circularProfiles)⟩ layered =
        .ok md ∧ md.artifactsOf "default" ≠ [] ∧ md.excludeRules ≠ [] :=
    ⟨_, rfl, by decide, by decide⟩
  obtain ⟨md, hmd, hartifacts, hrules⟩ := hmd
  obtain ⟨hnames, hextends⟩ := ofBundle_references hmd
  refine ⟨md, hmd, hnames, hextends.mpr ?_, hartifacts, hrules⟩
  have hfirst : ∀ e ∈ layered.exports, layered.exports.find? (·.name == e.name) = some e →
      ∀ use ∈ e.uses.names, layered.Mentions use := by decide
  intro p e hfind
  obtain rfl := name_of_find? hfind
  exact hfirst e (List.mem_of_find?_eq_some hfind) hfind

/-- With the exports the other way round, the first one of a package uses one that is not there. -/
example : ¬(outline ⟨⟨2024, 1, 2⟩, 3, 4, 5, 0, some .utc⟩
    { layered with exports := layered.exports.reverse }).ExtendsOwn := by
  decide

end Bundle

end OsgiIvy
