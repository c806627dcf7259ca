import OsgiIvy.Proofs.Bundle.Exclusions

/-!
# Bundles in another order

Exports and requirements are gone through one after the other, and a configuration is registered by
the first of them that calls for it.  Where no package is exported twice, this makes no difference:
a bundle that lists its exports and requirements in another order has the same descriptor up to the
order of its parts (`ofBundle_reordered`).
-/

namespace OsgiIvy

open OsgiIvy.Time (Moment)

/-- Where keys are distinct, the order makes no difference to what is found under a key. -/
theorem find?_key_perm {α κ : Type} [DecidableEq κ] {key : α → κ} {as bs : List α}
    (h : as.Perm bs) (hnodup : (as.map key).Nodup) (k : κ) :
    as.find? (key · == k) = bs.find? (key · == k) := by
  induction h with
  | nil => rfl
  | cons a _ ih =>
    obtain ⟨-, hrest⟩ := List.nodup_cons.mp hnodup
    rw [List.find?_cons, List.find?_cons, ih hrest]
  | swap a b as =>
    obtain ⟨hnew, -⟩ := List.nodup_cons.mp hnodup
    have hne : key b ≠ key a := fun h => hnew (h ▸ List.mem_cons_self)
    simp only [List.find?_cons]
    by_cases hb : key b = k
    · have ha : (key a == k) = false := beq_eq_false_iff_ne.mpr (hb ▸ Ne.symm hne)
      simp only [hb, ha, beq_self_eq_true]
    · have hb' : (key b == k) = false := beq_eq_false_iff_ne.mpr hb
      simp only [hb']
  | trans hab _ ih₁ ih₂ =>
    exact (ih₁ hnodup).trans (ih₂ ((hab.map key).nodup_iff.mp hnodup))

/-- Rules that exclude the same artifacts from the same configurations. -/
structure ExcludeRule.Reorders (r r' : ExcludeRule String) : Prop where
  artifact : r'.artifact = r.artifact
  matcher : r'.matcher = r.matcher
  configurations : r'.configurations.Perm r.configurations

/-- Descriptors that differ in the order of their parts only, and in when they were published: what
is found under a name is the same, and so is everything that has no order. -/
structure Descriptor.Reorders (d d' : ModuleDescriptor) : Prop where
  configurations : d'.configurations.Perm d.configurations
  configuration? : ∀ name, d'.configuration? name = d.configuration? name
  dependencies : d'.dependencies.Perm d.dependencies
  excludeRules : List.Forall₂ ExcludeRule.Reorders d.excludeRules d'.excludeRules
  extraInfos : d'.extraInfos.Perm d.extraInfos
  extraInfo? : ∀ name, d'.extraInfo? name = d.extraInfo? name
  rest : { d' with
    publicationDate := d.publicationDate
    configurations := d.configurations
    dependencies := d.dependencies
    excludeRules := d.excludeRules
    extraInfos := d.extraInfos } = d

namespace Bundle

variable {now later : Moment} {context : Context} {b : Bundle} {es : List Export}
  {rs : List Requirement}

/-- The bundle with other exports and requirements. -/
def listing (b : Bundle) (es : List Export) (rs : List Requirement) : Bundle :=
  { b with exports := es, requirements := rs }

section Outlines

variable (hes : es.Perm b.exports) (hrs : rs.Perm b.requirements)
include hes

theorem exportedNames_listing : (b.listing es rs).exportedNames = b.exportedNames :=
  NameSet.ofList_eq_ofList fun _ => (hes.map Export.name).mem_iff

theorem usesOf_listing (hnames : (b.exports.map Export.name).Nodup) (p : String) :
    (b.listing es rs).usesOf p = b.usesOf p := by
  have hnames' : (es.map Export.name).Nodup := (hes.map Export.name).nodup_iff.mpr hnames
  have hfirst : es.find? (·.name == p) = b.exports.find? (·.name == p) :=
    find?_key_perm hes hnames' p
  rw [usesOf, usesOf, listing, hfirst]

include hrs

theorem mentions_listing {p : String} : (b.listing es rs).Mentions p ↔ b.Mentions p := by
  simp only [Mentions, listing, hes.mem_iff, hrs.mem_iff]

theorem dependencies_listing : (outline later (b.listing es rs)).dependencies.Perm
    (outline now b).dependencies := by
  rw [dependencies_outline, dependencies_outline, exportedNames_listing hes]
  exact (hrs.filter _).map dependencyOf

theorem configurations_listing (hnames : (b.exports.map Export.name).Nodup) :
    (outline later (b.listing es rs)).configurations.Perm (outline now b).configurations := by
  have hnodup (now : Moment) (b : Bundle) : (outline now b).configurations.Nodup :=
    List.Nodup.of_map _ (nodup_configurationNames_outline now b)
  apply (List.perm_ext_iff_of_nodup (hnodup later _) (hnodup now b)).mpr
  intro c
  simp only [mem_configurations_outline, mentions_listing hes hrs, usesOf_listing hes hnames]

end Outlines

theorem located_listing (base : Option String) :
    located (b.listing es rs) base = located b base := by
  cases base <;> rfl

theorem artifacts_addAll (d : ModuleDescriptor) (name : String) (as : List (Artifact String)) :
    (d.addAll name as).artifacts =
      as.foldl (fun m a => m.alter name fun old => old.getD [] ++ [a]) d.artifacts :=
  (List.foldl_hom Descriptor.artifacts fun _ _ => rfl).symm

/-- Information, configurations, dependencies and exclude rules apart, a descriptor is made of the
bundle's identity and artifacts. -/
theorem ofBundle_frame {md : ModuleDescriptor} (h : Descriptor.ofBundle now context b = .ok md) :
    ∃ as infos cs ds rules, located b context.base = .ok as ∧
      md = { (baseDescriptor now b).addAll Configuration.defaultName as with
        extraInfos := infos
        configurations := cs
        dependencies := ds
        excludeRules := rules } := by
  obtain ⟨as, packages, hlocated, -, rfl⟩ := ofBundle_eq_ok h
  obtain ⟨rules, infos, hframe⟩ := assembled_frame context (outline now b) as packages
  obtain ⟨infos', cs, ds, houtline⟩ := outlines_outline now b
  have hartifacts : ((outline now b).addAll Configuration.defaultName as).artifacts =
      ((baseDescriptor now b).addAll Configuration.defaultName as).artifacts := by
    rw [artifacts_addAll, artifacts_addAll, houtline]
  refine ⟨as, infos, cs, ds, rules, hlocated, ?_⟩
  rw [hframe, hartifacts, houtline, Descriptor.addAll_frame (baseDescriptor now b)]

theorem provided_listing (profiles : Option Profiles) :
    provided (b.listing es rs) profiles = provided b profiles := by
  cases profiles <;> rfl

theorem exists_ofBundle_listing {md : ModuleDescriptor}
    (h : Descriptor.ofBundle now context b = .ok md) (later : Moment) :
    ∃ md', Descriptor.ofBundle later context (b.listing es rs) = .ok md' := by
  obtain ⟨as, packages, hlocated, hprovided, -⟩ := ofBundle_eq_ok h
  have hlocated' : located (b.listing es rs) context.base = .ok as := by
    rw [located_listing, hlocated]
  have hprovided' : provided (b.listing es rs) context.profiles = .ok packages := by
    rw [provided_listing, hprovided]
  refine ⟨assembled context (outline later (b.listing es rs)) as packages, ?_⟩
  rw [Descriptor.ofBundle, complete_of_located hlocated', hprovided']
  rfl

/-- The versions of the exports, under the names of their information. -/
def exportInfos (es : List Export) : Assoc String String :=
  ⟨es.map fun e => (exportInfoName e.name, e.version)⟩

theorem isMapping_exportInfos (hnames : (es.map Export.name).Nodup) :
    (exportInfos es).IsMapping := by
  have hinj : Function.Injective exportInfoName := fun _ _ => (String.append_right_inj _).mp
  have hkeys : (exportInfos es).keys = (es.map Export.name).map exportInfoName := by
    rw [Assoc.keys, exportInfos, List.map_map, List.map_map]
    rfl
  rw [Assoc.IsMapping, hkeys]
  exact hnames.map hinj

theorem reorders_listing {md md' : ModuleDescriptor} (hnames : (b.exports.map Export.name).Nodup)
    (hes : es.Perm b.exports) (hrs : rs.Perm b.requirements)
    (h : Descriptor.ofBundle now context b = .ok md)
    (h' : Descriptor.ofBundle later context (b.listing es rs) = .ok md') : md.Reorders md' := by
  obtain ⟨hcs, hds⟩ := configurations_and_dependencies_ofBundle h
  obtain ⟨hcs', hds'⟩ := configurations_and_dependencies_ofBundle h'
  have hconfigurations : md'.configurations.Perm md.configurations := by
    rw [hcs, hcs']
    exact configurations_listing hes hrs hnames
  refine ⟨hconfigurations, ?_, ?_, ?_, ?_, ?_, ?_⟩
  · have hnodup : (md'.configurations.map Configuration.name).Nodup := by
      rw [hcs']
      exact nodup_configurationNames_outline later _
    exact find?_key_perm hconfigurations hnodup
  · rw [hds, hds']
    exact dependencies_listing hes hrs
  · obtain ⟨packages, hprovided, hrules⟩ := excludeRules_ofBundle h
    obtain ⟨packages', hprovided', hrules'⟩ := excludeRules_ofBundle h'
    rw [provided_listing, hprovided] at hprovided'
    rw [hrules, hrules', ← Except.ok.inj hprovided', List.forall₂_map_left_iff,
      List.forall₂_map_right_iff]
    exact List.forall₂_same.mpr fun _ _ => ⟨rfl, rfl, hconfigurations.map Configuration.name⟩
  · rw [extraInfos_ofBundle h, extraInfos_ofBundle h']
    exact (hes.map _).append_right _
  · intro name
    have hfound : (exportInfos es).get? name = (exportInfos b.exports).get? name :=
      (isMapping_exportInfos hnames).get?_perm (hes.map _) name
    rw [Descriptor.extraInfo?, Descriptor.extraInfo?, extraInfos_ofBundle h,
      extraInfos_ofBundle h', List.lookup_append, List.lookup_append]
    exact congrArg (Option.or · _) hfound
  · obtain ⟨as, infos, cs, ds, rules, hlocated, hmd⟩ := ofBundle_frame h
    obtain ⟨as', infos', cs', ds', rules', hlocated', hmd'⟩ := ofBundle_frame h'
    rw [located_listing, hlocated] at hlocated'
    have hbase : baseDescriptor later (b.listing es rs) = published (baseDescriptor now b) later :=
      rfl
    rw [hmd', ← Except.ok.inj hlocated', hbase, addAll_published, hmd]
    rfl

/-- A bundle that exports no package twice has a descriptor that does not depend on the order of its
exports and requirements: listed in another order, they give the same configurations under the same
names, the same dependencies with their mappings, as often as before, rules that exclude the same
packages from the same configurations, and the same information under the same names. -/
theorem ofBundle_reordered (hnames : (b.exports.map Export.name).Nodup) (hes : es.Perm b.exports)
    (hrs : rs.Perm b.requirements) {md : ModuleDescriptor}
    (h : Descriptor.ofBundle now context b = .ok md) (later : Moment) :
    ∃ md', Descriptor.ofBundle later context { b with exports := es, requirements := rs } =
      .ok md' ∧ md.Reorders md' := by
  obtain ⟨md', h'⟩ := exists_ofBundle_listing h later
  exact ⟨md', h', reorders_listing hnames hes hrs h h'⟩

/-- Where a package is exported twice, the order does make a difference. -/
example : ({ layered with exports := layered.exports.reverse }).usesOf "api" = ["xml"] ∧
    layered.usesOf "api" = ["api.spi", "log"] := by
  decide

/-- A bundle with repeated requirements that runs in an environment. -/
def hostedRepeating : Bundle := { repeating with environments := ["JavaSE-1.8"] }

/-- Some environments and a header that has the name of an export's information. -/
def circularContext : Context where
  base := none
  headers := some [("_osgi_export_api", "9")]
  profiles := some (.providedBy Profiles.circularProfiles)

theorem ofBundle_reordered_hosted :
    ∃ md md', Descriptor.ofBundle ⟨⟨2024, 1, 2⟩, 3, 4, 5, 0, some .utc⟩ circularContext
        hostedRepeating = .ok md ∧
      Descriptor.ofBundle ⟨⟨2024, 1, 2⟩, 3, 4, 6, 0, some .utc⟩ circularContext
        { hostedRepeating with
          exports := hostedRepeating.exports.reverse
          requirements := hostedRepeating.requirements.reverse } = .ok md' ∧
      md.Reorders md' ∧
      md.configurationNames =
        ["default", "optional", "transitive-optional", "use_api", "use_impl", "use_log"] ∧
      md'.configurationNames =
        ["default", "optional", "transitive-optional", "use_impl", "use_api", "use_log"] := by
  have hmd : ∃ md, Descriptor.ofBundle ⟨⟨2024, 1, 2⟩, 3, 4, 5, 0, some .utc⟩ circularContext
      hostedRepeating = .ok md := ⟨_, rfl⟩
  obtain ⟨md, h⟩ := hmd
  obtain ⟨md', h', hreorders⟩ := ofBundle_reordered (by decide)
    (List.reverse_perm hostedRepeating.exports) (List.reverse_perm hostedRepeating.requirements) h
    ⟨⟨2024, 1, 2⟩, 3, 4, 6, 0, some .utc⟩
  refine ⟨md, md', h, h', hreorders, ?_, ?_⟩
  · rw [configurationNames_ofBundle h]
    decide
  · rw [configurationNames_ofBundle h']
    decide

end Bundle

end OsgiIvy
