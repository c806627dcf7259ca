import OsgiIvy.Bundle.Descriptor
import OsgiIvy.Proofs.Outcomes
import OsgiIvy.Proofs.Module.Bindings
import OsgiIvy.Proofs.Module.Registered

/-!
# Parts of the descriptor of a bundle

Exports and requirements give a descriptor its configurations and dependencies; artifacts, exclude
rules and headers are added without touching these (`ofBundle_eq_ok`).  The configuration of a
package is settled by the first export of the package: `mem_configurations_outline`.
-/

namespace OsgiIvy

open OsgiIvy.Time (Moment)

namespace Bundle

/-! ### From outline to descriptor -/

/-- The descriptor of a bundle before its artifacts are located. -/
def outline (now : Moment) (b : Bundle) : ModuleDescriptor :=
  addRequirements b (b.exports.foldl addExport (baseDescriptor now b))

theorem addExtraInfos_eq (d : ModuleDescriptor) (infos : List (String × String)) :
    infos.foldl (fun d h => d.addExtraInfo h.1 h.2) d =
      { d with extraInfos := d.extraInfos ++ infos } := by
  induction infos generalizing d with
  | nil => simp
  | cons info infos ih =>
    rw [List.foldl_cons, ih, Descriptor.addExtraInfo]
    simp

/-- The artifacts that those of a bundle become. -/
def located (b : Bundle) : Option String → Except LocationFault (List (Artifact String))
  | none => .ok []
  | some base => (b.artifacts.mapM (locate b base)).map (·.filterMap id)

theorem addArtifacts_eq (b : Bundle) (base : Option String) (d : ModuleDescriptor) :
    addArtifacts b base d = (located b base).map (d.addAll Configuration.defaultName) := by
  cases base with
  | none => rfl
  | some base =>
    rw [addArtifacts, located]
    induction b.artifacts generalizing d with
    | nil => rfl
    | cons a as ih =>
      rw [List.foldlM_cons, List.mapM_cons]
      cases locate b base a with
      | error fault => rfl
      | ok found =>
        -- What is left of the run starts from the descriptor with the artifact that was found.
        cases found with
        | none =>
          refine (ih d).trans ?_
          cases as.mapM (locate b base) <;> rfl
        | some artifact =>
          refine (ih (d.addArtifact Configuration.defaultName artifact)).trans ?_
          cases as.mapM (locate b base) <;> rfl

theorem exists_locate_of_mem_located {b : Bundle} {base : Option String}
    {as : List (Artifact String)} (h : located b base = .ok as) {a : Artifact String}
    (ha : a ∈ as) : ∃ base x, locate b base x = .ok (some a) := by
  cases base with
  | none =>
    rw [← Except.ok.inj h] at ha
    exact absurd ha List.not_mem_nil
  | some base =>
    obtain ⟨found, hfound, rfl⟩ := map_eq_ok.mp h
    obtain ⟨o, ho, rfl⟩ := List.mem_filterMap.mp ha
    obtain ⟨x, -, hx⟩ := exists_of_mem_mapM hfound ho
    exact ⟨base, x, hx⟩

/-- The packages that the environments of a bundle provide. -/
def provided (b : Bundle) : Option Profiles → Except ConversionFault (List NameSet)
  | none => .ok []
  | some profiles => environmentPackages b profiles

/-- A descriptor with rules against packages, environment by environment. -/
def excluding (d : ModuleDescriptor) (packages : List NameSet) : ModuleDescriptor :=
  { d with excludeRules := d.excludeRules ++
      packages.flatMap fun ps => ps.toList.map (excludePackage d.configurationNames) }

theorem addExclusions_eq (b : Bundle) (profiles : Option Profiles) (d : ModuleDescriptor) :
    addExclusions b profiles d = (provided b profiles).map (excluding d) := by
  cases profiles with
  | none => simp [addExclusions, provided, excluding, Except.map]
  | some profiles =>
    rw [addExclusions, provided]
    cases environmentPackages b profiles <;> rfl

/-- A descriptor with the artifacts that were found, the rules against what is provided, and the
headers. -/
def assembled (context : Context) (d : ModuleDescriptor) (as : List (Artifact String))
    (packages : List NameSet) : ModuleDescriptor :=
  let d := excluding (d.addAll Configuration.defaultName as) packages
  { d with extraInfos := d.extraInfos ++ context.headers.getD [] }

/-- Locating and looking up do not look at the descriptor. -/
theorem complete_eq (context : Context) (b : Bundle) (d : ModuleDescriptor) :
    complete context b d = (do
      let as ← (located b context.base).mapError .location
      let packages ← provided b context.profiles
      pure (assembled context (addRequirements b (b.exports.foldl addExport d)) as packages)) := by
  rw [complete, addArtifacts_eq]
  cases located b context.base with
  | error fault => rfl
  | ok as =>
    rw [map_ok, mapError_ok, mapError_ok, ok_bind, ok_bind, addExclusions_eq]
    cases provided b context.profiles with
    | error fault => rfl
    | ok packages => exact congrArg Except.ok (addExtraInfos_eq _ _)

/-- Whatever a bundle is seen together with, its outline gets artifacts, exclude rules and
information only. -/
theorem ofBundle_eq_ok {now : Moment} {context : Context} {b : Bundle} {md : ModuleDescriptor}
    (h : Descriptor.ofBundle now context b = .ok md) :
    ∃ as packages, located b context.base = .ok as ∧ provided b context.profiles = .ok packages ∧
      md = assembled context (outline now b) as packages := by
  rw [Descriptor.ofBundle, complete_eq] at h
  obtain ⟨as, has, h⟩ := bind_eq_ok.mp h
  obtain ⟨packages, hpackages, h⟩ := bind_eq_ok.mp h
  exact ⟨as, packages, mapError_eq_ok.mp has, hpackages, (Except.ok.inj h).symm⟩

/-- What is added to a descriptor to complete it. -/
theorem assembled_frame (context : Context) (d : ModuleDescriptor) (as : List (Artifact String))
    (packages : List NameSet) : ∃ rules infos, assembled context d as packages =
      { d with
        artifacts := (d.addAll Configuration.defaultName as).artifacts
        excludeRules := rules
        extraInfos := infos } := by
  rw [assembled, excluding, Descriptor.addAll_frame]
  exact ⟨_, _, rfl⟩

theorem configurations_and_dependencies_ofBundle {now : Moment} {context : Context} {b : Bundle}
    {md : ModuleDescriptor} (h : Descriptor.ofBundle now context b = .ok md) :
    md.configurations = (outline now b).configurations ∧
      md.dependencies = (outline now b).dependencies := by
  obtain ⟨as, packages, -, -, rfl⟩ := ofBundle_eq_ok h
  obtain ⟨rules, infos, hframe⟩ := assembled_frame context (outline now b) as packages
  rw [hframe]
  exact ⟨rfl, rfl⟩

theorem configurationNames_ofBundle {now : Moment} {context : Context} {b : Bundle}
    {md : ModuleDescriptor} (h : Descriptor.ofBundle now context b = .ok md) :
    md.configurationNames = (outline now b).configurationNames :=
  congrArg (List.map Configuration.name) (configurations_and_dependencies_ofBundle h).1

/-- Alone, a bundle has the descriptor of its outline. -/
theorem ofBundle_alone (now : Moment) (b : Bundle) :
    Descriptor.ofBundle now ⟨none, none, none⟩ b = .ok (outline now b) := rfl

/-! ### What an outline leaves alone -/

/-- A descriptor that differs from another one in information, configurations and dependencies
only. -/
def Outlines (base d : ModuleDescriptor) : Prop :=
  ∃ infos cs es, d = { base with extraInfos := infos, configurations := cs, dependencies := es }

theorem outlines_addExport {base d : ModuleDescriptor} (h : Outlines base d) (e : Export) :
    Outlines base (addExport d e) := by
  obtain ⟨infos, cs, es, rfl⟩ := h
  rw [addExport, Descriptor.ensureConfiguration_eq]
  exact ⟨_, _, _, rfl⟩

theorem outlines_addRequirement {base d : ModuleDescriptor} (h : Outlines base d)
    (r : Requirement) : Outlines base (addRequirement d r) := by
  obtain ⟨infos, cs, es, rfl⟩ := h
  rw [addRequirement]
  split
  · rw [Descriptor.ensureConfiguration_eq]
    exact ⟨_, _, _, rfl⟩
  · exact ⟨_, _, _, rfl⟩

theorem outlines_outline (now : Moment) (b : Bundle) :
    Outlines (baseDescriptor now b) (outline now b) := by
  have hexports : Outlines (baseDescriptor now b)
      (b.exports.foldl addExport (baseDescriptor now b)) :=
    List.foldlRecOn _ addExport ⟨_, _, _, rfl⟩ fun d hd e _ => outlines_addExport hd e
  exact List.foldlRecOn _ addRequirement hexports fun d hd r _ => outlines_addRequirement hd r

/-! ### Dependencies -/

theorem dependencies_foldl_addExport (d : ModuleDescriptor) (es : List Export) :
    (es.foldl addExport d).dependencies = d.dependencies := by
  induction es generalizing d with
  | nil => rfl
  | cons e es ih =>
    rw [List.foldl_cons, ih, addExport, Descriptor.ensureConfiguration_eq]
    rfl

theorem dependencies_addRequirement (d : ModuleDescriptor) (r : Requirement) :
    (addRequirement d r).dependencies = d.dependencies ++ [dependencyOf r] := by
  rw [addRequirement]
  split
  · rw [Descriptor.ensureConfiguration_eq]
    rfl
  · rfl

theorem dependencies_foldl_addRequirement (d : ModuleDescriptor) (rs : List Requirement) :
    (rs.foldl addRequirement d).dependencies = d.dependencies ++ rs.map dependencyOf := by
  induction rs generalizing d with
  | nil => simp
  | cons r rs ih => rw [List.foldl_cons, ih, dependencies_addRequirement]; simp

theorem dependencies_outline (now : Moment) (b : Bundle) :
    (outline now b).dependencies =
      (b.requirements.filter (isExternal b.exportedNames)).map dependencyOf := by
  rw [outline, addRequirements, dependencies_foldl_addRequirement, dependencies_foldl_addExport]
  rfl

/-! ### Configurations -/

/-- The packages that the first export of a package uses. -/
def usesOf (b : Bundle) (package : String) : List String :=
  ((b.exports.find? (·.name == package)).map fun e => e.uses.toList).getD []

/-- A package that is exported or required. -/
def Mentions (b : Bundle) (package : String) : Prop :=
  (∃ e ∈ b.exports, e.name = package) ∨
    ∃ r ∈ b.requirements, r.type = packageType ∧ r.name = package

instance (b : Bundle) (package : String) : Decidable (b.Mentions package) :=
  inferInstanceAs (Decidable (_ ∨ _))

section Exports

variable {b : Bundle} {p : String}

theorem mem_exportedNames : p ∈ b.exportedNames ↔ ∃ e ∈ b.exports, e.name = p := by
  rw [exportedNames, NameSet.mem_ofList, List.mem_map]

theorem name_of_find? {e : Export} (h : b.exports.find? (·.name == p) = some e) : e.name = p := by
  simpa using List.find?_some h

theorem find?_exports_eq_none_iff :
    b.exports.find? (·.name == p) = none ↔ ¬∃ e ∈ b.exports, e.name = p := by
  simp

theorem usesOf_of_find? {e : Export} (h : b.exports.find? (·.name == p) = some e) :
    b.usesOf p = e.uses.toList := by
  rw [usesOf, h]
  rfl

theorem usesOf_of_not_exported (h : ¬∃ e ∈ b.exports, e.name = p) : b.usesOf p = [] := by
  rw [usesOf, find?_exports_eq_none_iff.mpr h]
  rfl

theorem mem_usesOf {q : String} :
    q ∈ b.usesOf p ↔ ∃ e, b.exports.find? (·.name == p) = some e ∧ q ∈ e.uses := by
  cases hfirst : b.exports.find? (·.name == p) with
  | none =>
    rw [usesOf_of_not_exported (find?_exports_eq_none_iff.mp hfirst)]
    exact ⟨fun h => absurd h List.not_mem_nil, nofun⟩
  | some e =>
    rw [usesOf_of_find? hfirst]
    constructor
    · exact fun h => ⟨e, rfl, h⟩
    · rintro ⟨e', he', h⟩
      rwa [← Option.some.inj he'] at h

theorem mentions_of_find? {e : Export} (h : b.exports.find? (·.name == p) = some e) :
    b.Mentions p :=
  .inl ⟨e, List.mem_of_find?_eq_some h, name_of_find? h⟩

theorem mentions_of_mem_usesOf {q : String} (h : q ∈ b.usesOf p) : b.Mentions p := by
  obtain ⟨e, hfirst, -⟩ := mem_usesOf.mp h
  exact mentions_of_find? hfirst

end Exports

def exportConfiguration (e : Export) : Configuration String Bool :=
  Configuration.forUse e.name e.uses.toList

def requiredConfiguration (r : Requirement) : Configuration String Bool :=
  Configuration.forUse r.name []

/-- The configurations that exports and requirements register, in order. -/
def useConfigurations (b : Bundle) : List (Configuration String Bool) :=
  b.exports.map exportConfiguration ++
    ((b.requirements.filter (isExternal b.exportedNames)).filter Requirement.isPackage).map
      requiredConfiguration

theorem configurations_foldl_addExport (d : ModuleDescriptor) (es : List Export) :
    (es.foldl addExport d).configurations =
      (es.map exportConfiguration).foldl Configuration.registered d.configurations := by
  induction es generalizing d with
  | nil => rfl
  | cons e es ih =>
    rw [List.foldl_cons, ih, addExport, Descriptor.ensureConfiguration_eq]
    rfl

theorem configurations_foldl_addRequirement (d : ModuleDescriptor) (rs : List Requirement) :
    (rs.foldl addRequirement d).configurations =
      ((rs.filter Requirement.isPackage).map requiredConfiguration).foldl
        Configuration.registered d.configurations := by
  induction rs generalizing d with
  | nil => rfl
  | cons r rs ih =>
    rw [List.foldl_cons, ih, addRequirement, List.filter_cons]
    split
    · simp only [Descriptor.addDependency, Descriptor.ensureConfiguration_eq, List.map_cons,
        List.foldl_cons]
      rfl
    · rfl

theorem configurations_outline (now : Moment) (b : Bundle) :
    (outline now b).configurations =
      b.useConfigurations.foldl Configuration.registered baseConfigurations := by
  rw [outline, addRequirements, configurations_foldl_addRequirement,
    configurations_foldl_addExport, useConfigurations, List.foldl_append]
  rfl

theorem nodup_configurationNames_outline (now : Moment) (b : Bundle) :
    (outline now b).configurationNames.Nodup := by
  rw [Descriptor.configurationNames, configurations_outline, Configuration.names_foldl_registered]
  exact nodup_foldl_addNew (by decide) _

theorem useName_inj {p q : String} : Configuration.useName p = Configuration.useName q ↔ p = q := by
  simp [Configuration.useName, String.append_right_inj]

theorem useName_beq (p q : String) :
    (Configuration.useName p == Configuration.useName q) = (p == q) := by
  rw [Bool.eq_iff_iff, beq_iff_eq, beq_iff_eq, useName_inj]

theorem useName_not_mem_base (p : String) :
    Configuration.useName p ∉ baseConfigurations.map Configuration.name := by
  intro h
  have hhead : ∀ name ∈ baseConfigurations.map Configuration.name,
      name.toList.head? ≠ some 'u' := by decide
  exact hhead _ h (by simp [Configuration.useName, String.toList_append])

theorem useName_ne_defaultName (p : String) :
    Configuration.useName p ≠ Configuration.defaultName :=
  fun h => useName_not_mem_base p (h ▸ List.mem_cons_self ..)

theorem mem_parents_forUse {p parent : String} {uses : List String} :
    parent ∈ (Configuration.forUse p uses).parents ↔
      parent = Configuration.defaultName ∨ ∃ q ∈ uses, parent = Configuration.useName q := by
  rw [Configuration.forUse, List.mem_append, List.mem_map, List.mem_singleton, or_comm]
  simp only [eq_comm]

/-- Where every member of a list has a configuration for the use of its package, the first one of a
package leads to the first member for it. -/
theorem find?_map_useName {α : Type} {package : α → String} {f : α → Configuration String Bool}
    (hname : ∀ a, (f a).name = Configuration.useName (package a)) (as : List α) (p : String) :
    (as.map f).find? (·.name == Configuration.useName p) =
      (as.find? (package · == p)).map f := by
  have hsame : (fun a => (f a).name == Configuration.useName p) = (package · == p) := by
    funext a
    rw [hname, useName_beq]
  rw [List.find?_map]
  exact congrArg (fun found => (as.find? found).map f) hsame

/-- A package that is required and not exported comes from outside. -/
theorem mem_external_of_not_exported {b : Bundle} {r : Requirement} (hr : r ∈ b.requirements)
    (htype : r.type = packageType) (hnot : ¬∃ e ∈ b.exports, e.name = r.name) :
    r ∈ (b.requirements.filter (isExternal b.exportedNames)).filter Requirement.isPackage := by
  have hunexported : r.name ∉ b.exportedNames := fun hmem => hnot (mem_exportedNames.mp hmem)
  have hexternal : isExternal b.exportedNames r = true := by
    simp [isExternal, hunexported, htype, packageType, environmentType]
  have hpackage : r.isPackage = true := decide_eq_true htype
  exact List.mem_filter.mpr ⟨List.mem_filter.mpr ⟨hr, hexternal⟩, hpackage⟩

/-- The first export of a package that is mentioned settles its configuration; a package that is
only required uses nothing. -/
theorem find?_useConfigurations {b : Bundle} {p : String} (h : b.Mentions p) :
    b.useConfigurations.find? (·.name == Configuration.useName p) =
      some (Configuration.forUse p (b.usesOf p)) := by
  have hexports := find?_map_useName (f := exportConfiguration) (fun _ => rfl) b.exports p
  have hrequired (rs : List Requirement) :=
    find?_map_useName (f := requiredConfiguration) (fun _ => rfl) rs p
  rw [useConfigurations, List.find?_append, hexports, hrequired]
  cases hfirst : b.exports.find? (·.name == p) with
  | some e =>
    rw [Option.map_some, Option.some_or, exportConfiguration, name_of_find? hfirst,
      usesOf_of_find? hfirst]
  | none =>
    have hnot := find?_exports_eq_none_iff.mp hfirst
    obtain ⟨r, hr, htype, rfl⟩ := h.resolve_left hnot
    have hmem := mem_external_of_not_exported hr htype hnot
    cases hfind : ((b.requirements.filter (isExternal b.exportedNames)).filter
        Requirement.isPackage).find? (·.name == r.name) with
    | none => exact absurd (beq_self_eq_true r.name) (List.find?_eq_none.mp hfind r hmem)
    | some s =>
      have hs : s.name = r.name := by simpa using List.find?_some hfind
      rw [Option.map_none, Option.none_or, Option.map_some, requiredConfiguration, hs,
        usesOf_of_not_exported hnot]

theorem eq_forUse_of_mem {b : Bundle} {c : Configuration String Bool}
    (h : c ∈ b.useConfigurations) :
    ∃ p, b.Mentions p ∧ c.name = Configuration.useName p := by
  rcases List.mem_append.mp h with h | h
  · obtain ⟨e, he, rfl⟩ := List.mem_map.mp h
    exact ⟨e.name, .inl ⟨e, he, rfl⟩, rfl⟩
  · obtain ⟨r, hr, rfl⟩ := List.mem_map.mp h
    have hr := List.mem_filter.mp hr
    refine ⟨r.name, .inr ⟨r, (List.mem_filter.mp hr.1).1, ?_, rfl⟩, rfl⟩
    simpa [Requirement.isPackage] using hr.2

/-- The configurations are those that every bundle has and one for each package. -/
theorem mem_configurations_outline {now : Moment} {b : Bundle} {c : Configuration String Bool} :
    c ∈ (outline now b).configurations ↔
      c ∈ baseConfigurations ∨
        ∃ p, b.Mentions p ∧ c = Configuration.forUse p (b.usesOf p) := by
  have hnodup : ((outline now b).configurations.map Configuration.name).Nodup :=
    nodup_configurationNames_outline now b
  rw [Configuration.mem_iff_find? hnodup, configurations_outline,
    Configuration.find?_foldl_registered, List.find?_append]
  constructor
  · intro h
    rcases Option.or_eq_some_iff.mp h with h | ⟨-, h⟩
    · exact .inl (List.mem_of_find?_eq_some h)
    · obtain ⟨p, hp, hname⟩ := eq_forUse_of_mem (List.mem_of_find?_eq_some h)
      rw [hname, find?_useConfigurations hp] at h
      exact .inr ⟨p, hp, (Option.some.inj h).symm⟩
  · rintro (h | ⟨p, hp, rfl⟩)
    · have hbase : (baseConfigurations.map Configuration.name).Nodup := by decide
      rw [(Configuration.mem_iff_find? hbase).mp h, Option.some_or]
    · have hnone : baseConfigurations.find? (·.name == Configuration.useName p) = none := by
        refine List.find?_eq_none.mpr fun c hc hname => useName_not_mem_base p ?_
        exact List.mem_map.mpr ⟨c, hc, by simpa using hname⟩
      have hname : (Configuration.forUse p (b.usesOf p)).name = Configuration.useName p := rfl
      rw [hname, hnone, Option.none_or, find?_useConfigurations hp]

/-- Each configuration of the outline is found under its name. -/
theorem configuration?_ofBundle {now : Moment} {context : Context} {b : Bundle}
    {md : ModuleDescriptor} (h : Descriptor.ofBundle now context b = .ok md)
    {c : Configuration String Bool} (hc : c ∈ (outline now b).configurations) :
    md.configuration? c.name = some c := by
  have hnodup : ((outline now b).configurations.map Configuration.name).Nodup :=
    nodup_configurationNames_outline now b
  rw [Descriptor.configuration?, (configurations_and_dependencies_ofBundle h).1]
  exact (Configuration.mem_iff_find? hnodup).mp hc

end Bundle

end OsgiIvy
