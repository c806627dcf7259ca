import OsgiIvy.Proofs.Bundle.Edges
import OsgiIvy.Proofs.Module.Location
import OsgiIvy.Proofs.Module.References
import OsgiIvy.Proofs.Module.SnapshotJson

/-!
# Snapshots of bundles

The descriptor of a bundle repeats nothing and has artifacts for the default configuration only, so
that its snapshot keeps all of it.
-/

namespace OsgiIvy

open OsgiIvy.Time (Moment)
open OsgiIvy.Configuration (defaultName)

theorem isMapping_extra_locate {owner : RevisionId String} {base uri : String} {kind : FileKind}
    {a : Artifact String} (h : Artifact.locate owner base uri kind = .ok a) :
    a.extra.IsMapping := by
  by_cases hivy : IvyUri.isIvyUri uri = true
  · rw [locate_of_isIvyUri hivy] at h
    rw [IvyUri.extra_decode (mapError_eq_ok.mp h)]
    exact Assoc.isMapping_empty
  · rw [locate_of_not_isIvyUri hivy] at h
    obtain ⟨url, -, rfl⟩ := map_eq_ok.mp h
    unfold Artifact.file
    cases kind.packaging with
    | none => exact Assoc.isMapping_empty
    | some packaging => exact Assoc.isMapping_ofList _

namespace Bundle

theorem defaultName_mem_configurationNames (now : Moment) (b : Bundle) :
    defaultName ∈ (outline now b).configurationNames := by
  rw [Descriptor.configurationNames, configurations_outline, Configuration.names_foldl_registered]
  exact mem_foldl_addNew.mpr (.inl (by decide))

/-! ### The snapshot -/

theorem hasDistinctRoutes_dependencyOf (r : Requirement) : (dependencyOf r).HasDistinctRoutes :=
  (Dependency.hasDistinctRoutes_of_no_routes rfl).addRoutes (routesOf r)

variable {now : Moment} {context : Context} {b : Bundle} {md : ModuleDescriptor}

/-- The artifacts of a bundle are those of its default configuration. -/
theorem artifacts_ofBundle (h : Descriptor.ofBundle now context b = .ok md) :
    ∃ as : List (Artifact String),
      md.artifacts.entries = Descriptor.binding defaultName as ∧ ∀ a ∈ as, a.extra.IsMapping := by
  obtain ⟨as, packages, has, -, rfl⟩ := ofBundle_eq_ok h
  obtain ⟨rules, added, hframe⟩ := assembled_frame context (outline now b) as packages
  obtain ⟨infos, cs, es, houtline⟩ := outlines_outline now b
  have hnone : (outline now b).artifacts = {} := by
    rw [houtline]
    rfl
  refine ⟨as, ?_, ?_⟩
  · have hnew : defaultName ∉ (outline now b).artifacts.keys := by
      rw [hnone]
      exact List.not_mem_nil
    rw [hframe, Descriptor.addAll_of_new hnew, hnone]
    rfl
  · intro a ha
    obtain ⟨base, x, hlocate⟩ := exists_locate_of_mem_located has ha
    unfold locate at hlocate
    split at hlocate
    · exact absurd (Except.ok.inj hlocate) nofun
    · obtain ⟨a', hlocate, ha'⟩ := map_eq_ok.mp hlocate
      rw [← Option.some.inj ha']
      exact isMapping_extra_locate hlocate

theorem isProper_ofBundle (hnow : Moment.read? now.render = some now)
    (h : Descriptor.ofBundle now context b = .ok md) : Snapshot.IsProper md := by
  obtain ⟨-, hdependencies⟩ := configurations_and_dependencies_ofBundle h
  obtain ⟨found, hentries, hmapping⟩ := artifacts_ofBundle h
  obtain ⟨as, packages, -, -, hmd⟩ := ofBundle_eq_ok h
  obtain ⟨rules, added, hframe⟩ := assembled_frame context (outline now b) as packages
  obtain ⟨infos, cs, es, houtline⟩ := outlines_outline now b
  refine ⟨?_, ?_, ?_, ?_, ?_⟩
  · rw [configurationNames_ofBundle h]
    exact nodup_configurationNames_outline now b
  · have hnamespaces : md.namespaces = (baseDescriptor now b).namespaces := by
      rw [hmd, hframe, houtline]
    rw [hnamespaces]
    exact Assoc.isMapping_ofList _
  · intro e he a ha
    rw [hentries] at he
    obtain ⟨rfl, -⟩ := Descriptor.mem_binding.mp he
    exact hmapping a ha
  · intro e he
    rw [hdependencies, dependencies_outline] at he
    obtain ⟨r, -, rfl⟩ := List.mem_map.mp he
    exact hasDistinctRoutes_dependencyOf r
  · intro m hm
    have hdate : md.publicationDate = some now := by
      rw [hmd, hframe, houtline]
      rfl
    rw [hdate] at hm
    rw [← Option.some.inj hm]
    exact hnow

theorem isBound_ofBundle (h : Descriptor.ofBundle now context b = .ok md) :
    Snapshot.IsBound md := by
  obtain ⟨as, hentries, -⟩ := artifacts_ofBundle h
  constructor
  · rw [Assoc.keys, hentries, configurationNames_ofBundle h]
    exact (Descriptor.keys_binding_sublist _ as).trans
      (List.singleton_sublist.mpr (defaultName_mem_configurationNames now b))
  · intro e he
    rw [hentries] at he
    obtain ⟨rfl, hne⟩ := Descriptor.mem_binding.mp he
    exact hne

end Bundle

end OsgiIvy
