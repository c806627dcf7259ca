import OsgiIvy.Proofs.Bundle.Configurations
import OsgiIvy.Proofs.Bundle.Conversions
import OsgiIvy.Proofs.Profile.Reading

/-!
# Exclude rules of a bundle

What the required environments provide is excluded, in the order in which they are required
(`ofBundle_excludes`).  The rules are made when all configurations are registered, so that each of
them names every configuration of the descriptor.
-/

namespace OsgiIvy

namespace Profiles

variable {entries : List (Value × Value)} {declared : Declared} {profiles : Profiles}

/-- The packages that a profile has by its declaration and those of all that it extends, directly or
not: each of them once, in ascending order. -/
structure Provides (declared : Declared) (name : String) (packages : List String) : Prop where
  known : name ∈ declared.map Prod.fst
  ascending : packages.Pairwise (· < ·)
  mem_iff : ∀ package, package ∈ packages ↔
    ∃ d ∈ declared, Inherits declared name d.1 ∧ package ∈ d.2.packages

theorem provides_of_get? (hnames : (declared.map Prod.fst).Nodup) {name : String}
    {packages : NameSet} (hget : (providedBy declared).get? name = some packages) :
    Provides declared name packages.toList := by
  obtain ⟨hknown, rfl⟩ := get?_providedBy_eq_some_iff.mp hget
  exact ⟨hknown, NameSet.pairwise_ofList _, fun _ => mem_inherited hnames⟩

theorem exists_declared_of_ofEntries (h : ofEntries entries = .ok profiles) :
    ∃ declared, readDeclarations entries = .ok ⟨declared⟩ ∧ (declared.map Prod.fst).Nodup ∧
      providedBy declared = profiles := by
  obtain ⟨⟨declared⟩, hread, hrun⟩ := bind_eq_ok.mp h
  have hnames : (declared.map Prod.fst).Nodup := isMapping_readDeclarations hread
  exact ⟨declared, hread, hnames, ((ofDeclarations_eq_ok_iff hnames).mp hrun).2⟩

end Profiles

namespace Bundle

open OsgiIvy.Configuration (useName)
open OsgiIvy.Time (Moment)

variable {now : Moment} {context : Context} {b : Bundle} {md : ModuleDescriptor}

/-! ### Rules -/

/-- The rule that keeps a package out of configurations, whatever the artifact. -/
def ruleAgainst (names : List String) (package : String) : ExcludeRule String where
  artifact := ⟨⟨packageType, package⟩, ArtifactId.any, ArtifactId.any, ArtifactId.any⟩
  matcher := ExcludeRule.defaultMatcher
  configurations := names

theorem foldl_addConfiguration (names : List String) (r : ExcludeRule String) :
    names.foldl ExcludeRule.addConfiguration r =
      { r with configurations := names.foldl addNew r.configurations } := by
  induction names generalizing r with
  | nil => rfl
  | cons name names ih => exact ih (r.addConfiguration name)

theorem excludePackage_eq {names : List String} (h : names.Nodup) :
    excludePackage names = ruleAgainst names := by
  funext package
  have hnames : names.foldl addNew [] = names := distinct_of_nodup h
  rw [excludePackage, foldl_addConfiguration, hnames]
  rfl

theorem excludeRules_excluding {d : ModuleDescriptor} (hnames : d.configurationNames.Nodup)
    (hnone : d.excludeRules = []) (packages : List NameSet) :
    (excluding d packages).excludeRules =
      (packages.map NameSet.toList).flatten.map (ruleAgainst d.configurationNames) := by
  rw [excluding, hnone, List.nil_append, excludePackage_eq hnames, ← List.flatMap_def,
    List.map_flatMap]

theorem excludeRules_ofBundle (h : Descriptor.ofBundle now context b = .ok md) :
    ∃ packages, provided b context.profiles = .ok packages ∧
      md.excludeRules =
        (packages.map NameSet.toList).flatten.map (ruleAgainst md.configurationNames) := by
  obtain ⟨as, packages, -, hprovided, rfl⟩ := ofBundle_eq_ok h
  obtain ⟨infos, cs, es, houtline⟩ := outlines_outline now b
  refine ⟨packages, hprovided, excludeRules_excluding ?_ ?_ packages⟩
  -- Rules are made last: artifacts leave the names of the configurations as they are.
  · rw [Descriptor.addAll_frame]
    exact nodup_configurationNames_outline now b
  · rw [Descriptor.addAll_frame, houtline]
    rfl

/-! ### Environments -/

/-- The rules against what declarations give to the required environments: environment by
environment, one rule for each package, and each rule names every configuration once, those for
required packages among them. -/
structure ExcludesProvided (declared : Profiles.Declared) (b : Bundle) (md : ModuleDescriptor) :
    Prop where
  rules : ∃ packages, List.Forall₂ (Profiles.Provides declared) b.environments packages ∧
    md.excludeRules = packages.flatten.map (ruleAgainst md.configurationNames)
  once : md.configurationNames.Nodup
  required : ∀ r ∈ b.requirements, r.type = packageType → useName r.name ∈ md.configurationNames

theorem excludesProvided_ofBundle {declared : Profiles.Declared}
    (hnames : (declared.map Prod.fst).Nodup)
    (hprofiles : context.profiles = some (Profiles.providedBy declared))
    (h : Descriptor.ofBundle now context b = .ok md) : ExcludesProvided declared b md := by
  obtain ⟨packages, hprovided, hrules⟩ := excludeRules_ofBundle h
  rw [hprofiles] at hprovided
  have hfound : List.Forall₂
      (fun name ps => packagesIn (Profiles.providedBy declared) name = .ok ps)
      b.environments packages := forall₂_of_mapM hprovided
  have hprovides : List.Forall₂ (Profiles.Provides declared) b.environments
      (packages.map NameSet.toList) := by
    apply List.forall₂_map_right_iff.mpr
    exact hfound.imp fun _ _ hget => Profiles.provides_of_get? hnames (packagesIn_eq_ok_iff.mp hget)
  refine ⟨⟨_, hprovides, hrules⟩, ?_, ?_⟩
  · rw [configurationNames_ofBundle h]
    exact nodup_configurationNames_outline now b
  · intro r hr htype
    exact (useName_mem_configurationNames_iff h).mpr (.inr ⟨r, hr, htype, rfl⟩)

/-- Seen together with profiles that were read, a bundle has exclude rules against the packages that
their declarations give to the environments it requires; and it has no descriptor if it requires an
environment that is not among them. -/
theorem ofBundle_excludes {entries : List (Value × Value)} {profiles : Profiles}
    (h : Profiles.ofEntries entries = .ok profiles) :
    ∃ declared, Profiles.readDeclarations entries = .ok ⟨declared⟩ ∧
      (∀ ds, Profiles.DeclareAll entries ds → declared = ds) ∧
      ∀ (now : Moment) base headers (b : Bundle),
        (∀ md, Descriptor.ofBundle now ⟨base, headers, some profiles⟩ b = .ok md →
          ExcludesProvided declared b md) ∧
        ((∃ name ∈ b.environments, profiles.get? name = none) →
          ∃ fault, Descriptor.ofBundle now ⟨base, headers, some profiles⟩ b = .error fault) := by
  obtain ⟨declared, hread, hnames, rfl⟩ := Profiles.exists_declared_of_ofEntries h
  refine ⟨declared, hread, ?_, ?_⟩
  · intro ds hds
    have hsame : (⟨declared⟩ : Profiles.Declarations) = ⟨ds⟩ :=
      Except.ok.inj (hread.symm.trans (Profiles.readDeclarations_of_declareAll hds))
    exact congrArg Assoc.entries hsame
  · intro now base headers b
    refine ⟨fun md hmd => excludesProvided_ofBundle hnames rfl hmd, fun hunknown => ?_⟩
    exact ofBundle_of_hasUnknown ⟨_, rfl, hunknown⟩ now

/-- A bundle that requires an environment twice. -/
def hosted : Bundle :=
  { layered with environments := ["JavaSE-1.8", "J2SE-1.4", "JavaSE-1.8"] }

theorem ofBundle_excludes_hosted :
    ∃ profiles md, Profiles.ofEntries Profiles.circularEntries = .ok profiles ∧
      Descriptor.ofBundle ⟨⟨2024, 1, 2⟩, 3, 4, 5, 0, some .utc⟩ ⟨none, none, some profiles⟩ hosted =
        .ok md ∧
      ExcludesProvided Profiles.circularProfiles hosted md ∧
      md.excludeRules.map (fun r => r.artifact.module.name) = ["java.util.function", "javax.xml",
        "java.util.function", "javax.xml", "java.util.function", "javax.xml"] ∧
      ∃ fault, Descriptor.ofBundle ⟨⟨2024, 1, 2⟩, 3, 4, 5, 0, some .utc⟩
        ⟨none, none, some profiles⟩ { hosted with environments := ["J2SE-9"] } = .error fault := by
  have hread : Profiles.ofEntries Profiles.circularEntries =
      .ok (Profiles.providedBy Profiles.circularProfiles) := rfl
  obtain ⟨declared, -, hsame, hall⟩ := ofBundle_excludes hread
  obtain rfl := hsame _ Profiles.declareAll_circular
  refine ⟨_, _, hread, rfl, (hall _ none none hosted).1 _ rfl, rfl, ?_⟩
  exact (hall _ none none _).2 ⟨"J2SE-9", by decide, rfl⟩

end Bundle

end OsgiIvy
