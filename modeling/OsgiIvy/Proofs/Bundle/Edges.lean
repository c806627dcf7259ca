import Mathlib.Data.List.Forall2
import OsgiIvy.Proofs.Bundle.Parts
import OsgiIvy.Proofs.Module.Routes

/-!
# Edges of a bundle

Which requirements become dependencies, and how these are routed (`IsEdge`).  An optional
requirement is never routed from the default configuration.
-/

namespace OsgiIvy.Bundle

open OsgiIvy.Time (Moment)
open OsgiIvy.Configuration (defaultName optionalName transitiveOptionalName useName)

/-! ### Requirements with an edge -/

/-- A requirement that neither an environment nor an export of the bundle satisfies. -/
def NeedsEdge (b : Bundle) (r : Requirement) : Prop :=
  r.type ≠ environmentType ∧ ¬(r.type = packageType ∧ ∃ e ∈ b.exports, e.name = r.name)

instance (b : Bundle) (r : Requirement) : Decidable (b.NeedsEdge r) :=
  inferInstanceAs (Decidable (_ ∧ ¬(_ ∧ _)))

theorem isExternal_iff {b : Bundle} {r : Requirement} :
    isExternal b.exportedNames r = true ↔ b.NeedsEdge r := by
  simp only [isExternal, NeedsEdge, Requirement.isPackage, mem_exportedNames, Bool.and_eq_true,
    Bool.not_eq_true', Bool.and_eq_false_iff, decide_eq_true_eq, decide_eq_false_iff_not]
  rw [not_and_or, and_comm]

theorem filter_isExternal (b : Bundle) :
    b.requirements.filter (isExternal b.exportedNames) =
      b.requirements.filter fun r => decide (b.NeedsEdge r) := by
  refine List.filter_congr fun r _ => ?_
  rw [Bool.eq_iff_iff, isExternal_iff, decide_eq_true_eq]

/-! ### Routes -/

theorem nodup_masters_routesOf (r : Requirement) : ((routesOf r).map Prod.fst).Nodup := by
  have hbase := useName_not_mem_base r.name
  have hfixed : (baseConfigurations.map Configuration.name).Nodup := by decide
  simp only [baseConfigurations, Configuration.forDefault, Configuration.forOptional,
    Configuration.forTransitiveOptional, Configuration.named, List.map_cons, List.map_nil,
    List.mem_cons, List.not_mem_nil, or_false, not_or, List.nodup_cons] at hbase hfixed
  unfold routesOf targetOf
  cases r.isPackage
  · cases r.isOptional
    · simp
    · simpa using hfixed.2.1
  · cases r.isOptional
    · simpa using hbase.1
    · simpa [hbase.2] using hfixed.2.1

/-- The routes of a requirement's dependency stand as they are listed. -/
theorem mappings_dependencyOf (r : Requirement) :
    (dependencyOf r).mappings = routesOf r ∧
      (dependencyOf r).masters = (routesOf r).map Prod.fst :=
  Dependency.mappings_addRoutes
    (d := Dependency.onRevision (revisionOf r.type r.name r.version) false true)
    (nodup_masters_routesOf r)

theorem revision_dependencyOf (r : Requirement) :
    (dependencyOf r).revision = ⟨r.type, r.name, none, some (r.version.getD "[0,)")⟩ := by
  have h := Dependency.addRoutes_eq
    (Dependency.onRevision (revisionOf r.type r.name r.version) false true :
      Dependency String Bool) (routesOf r)
  exact congrArg Dependency.revision h

theorem mem_masters_dependencyOf {r : Requirement} {master : String} :
    master ∈ (dependencyOf r).masters ↔
      r.type = packageType ∧ master = useName r.name ∨
        r.resolution ≠ optional ∧ master = defaultName ∨
        r.resolution = optional ∧ (master = optionalName ∨ master = transitiveOptionalName) := by
  rw [(mappings_dependencyOf r).2]
  by_cases htype : r.type = packageType
  · by_cases hres : r.resolution = optional
    · simp [routesOf, targetOf, Requirement.isPackage, Requirement.isOptional, htype, hres]
    · simp [routesOf, targetOf, Requirement.isPackage, Requirement.isOptional, htype, hres]
  · by_cases hres : r.resolution = optional
    · simp [routesOf, Requirement.isPackage, Requirement.isOptional, htype, hres]
    · simp [routesOf, Requirement.isPackage, Requirement.isOptional, htype, hres]

theorem default_mem_masters_iff {r : Requirement} :
    defaultName ∈ (dependencyOf r).masters ↔ r.resolution ≠ optional := by
  have huse := (useName_ne_defaultName r.name).symm
  have hoptional : defaultName ≠ optionalName := by decide
  have htransitive : defaultName ≠ transitiveOptionalName := by decide
  simp [mem_masters_dependencyOf, huse, hoptional, htransitive]

/-! ### Edges -/

/-- The edge that a requirement calls for.  The use of a package leads to the use of the package,
and whoever has an optional requirement gets it by the optional configurations only. -/
structure IsEdge (r : Requirement) (d : Dependency String Bool) : Prop where
  revision : d.revision = ⟨r.type, r.name, none, some (r.version.getD "[0,)")⟩
  mandatory_package : r.type = packageType → r.resolution ≠ optional →
    d.mappings = [(useName r.name, useName r.name), (defaultName, useName r.name)]
  optional_package : r.type = packageType → r.resolution = optional →
    d.mappings = [(useName r.name, useName r.name), (optionalName, useName r.name),
      (transitiveOptionalName, transitiveOptionalName)]
  mandatory_other : r.type ≠ packageType → r.resolution ≠ optional →
    d.mappings = [(defaultName, defaultName)]
  optional_other : r.type ≠ packageType → r.resolution = optional →
    d.mappings = [(optionalName, defaultName), (transitiveOptionalName, transitiveOptionalName)]
  optional_withheld : r.resolution = optional → defaultName ∉ d.masters

theorem isEdge_dependencyOf (r : Requirement) : IsEdge r (dependencyOf r) := by
  have hmappings := (mappings_dependencyOf r).1
  refine ⟨revision_dependencyOf r, ?_, ?_, ?_, ?_, ?_⟩
  · intro htype hres
    simp [hmappings, routesOf, targetOf, Requirement.isPackage, Requirement.isOptional, htype, hres]
  · intro htype hres
    simp [hmappings, routesOf, targetOf, Requirement.isPackage, Requirement.isOptional, htype, hres]
  · intro htype hres
    simp [hmappings, routesOf, targetOf, Requirement.isPackage, Requirement.isOptional, htype, hres]
  · intro htype hres
    simp [hmappings, routesOf, targetOf, Requirement.isPackage, Requirement.isOptional, htype, hres]
  · intro hres hdefault
    exact default_mem_masters_iff.mp hdefault hres

/-- Alone, a bundle always has a descriptor; and whatever it is seen together with, its dependencies
are, in order, the edges of the requirements that need one. -/
theorem ofBundle_edges (now : Moment) (b : Bundle) :
    (∃ md, Descriptor.ofBundle now ⟨none, none, none⟩ b = .ok md) ∧
      ∀ context md, Descriptor.ofBundle now context b = .ok md →
        List.Forall₂ IsEdge (b.requirements.filter fun r => decide (b.NeedsEdge r))
          md.dependencies := by
  refine ⟨⟨outline now b, ofBundle_alone now b⟩, ?_⟩
  intro context md h
  rw [(configurations_and_dependencies_ofBundle h).2, dependencies_outline, filter_isExternal,
    List.forall₂_map_right_iff]
  exact List.forall₂_same.mpr fun r _ => isEdge_dependencyOf r

/-- A bundle that requires one package twice, once optionally, and a package that it exports
later. -/
def repeating : Bundle where
  symbolicName := "repeating"
  version := "1.0.0"
  exports := [⟨"api", "1.0", ⟨[]⟩⟩, ⟨"impl", "1.0", ⟨["api"]⟩⟩]
  requirements := [⟨packageType, "log", some "[1,2)", optional⟩,
    ⟨packageType, "impl", none, mandatory⟩, ⟨packageType, "log", none, mandatory⟩,
    ⟨environmentType, "JavaSE-17", none, mandatory⟩, ⟨bundleType, "impl", none, optional⟩]
  artifacts := []
  environments := []
  hasInnerClasspath := false

theorem ofBundle_edges_repeating :
    ∃ md, Descriptor.ofBundle ⟨⟨2024, 1, 2⟩, 3, 4, 5, 0, some .utc⟩ ⟨none, none, none⟩ repeating =
        .ok md ∧
      List.Forall₂ IsEdge
        [⟨packageType, "log", some "[1,2)", optional⟩,
          ⟨packageType, "log", none, mandatory⟩, ⟨bundleType, "impl", none, optional⟩]
        md.dependencies := by
  refine ⟨_, ofBundle_alone _ repeating, ?_⟩
  have hneeded : repeating.requirements.filter (fun r => decide (repeating.NeedsEdge r)) =
      [⟨packageType, "log", some "[1,2)", optional⟩,
        ⟨packageType, "log", none, mandatory⟩,
        ⟨bundleType, "impl", none, optional⟩] := by decide
  rw [← hneeded]
  exact (ofBundle_edges _ repeating).2 _ _ (ofBundle_alone _ repeating)

end OsgiIvy.Bundle
