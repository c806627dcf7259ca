import OsgiIvy.Proofs.Module.Registered
import OsgiIvy.Proofs.Module.SnapshotJson

/-!
# Snapshots of edited descriptors

Every edit keeps a descriptor proper (`IsProper.edit`), and so does every sequence of edits: its
snapshot can be read back.  Artifacts may be bound to a name under which no configuration is
registered; the snapshot holds the artifacts of the registered configurations and no others
(`allArtifacts_read_iff`).
-/

namespace OsgiIvy

open OsgiIvy.Time (Moment)

/-- The attributes of an artifact that is added, and the routes of an edge, stand once each. -/
def Descriptor.Edit.IsProper : Descriptor.Edit String Bool → Prop
  | .addArtifact _ a => a.extra.IsMapping
  | .addDependency e => e.HasDistinctRoutes
  | _ => True

namespace Descriptor

variable {d d' : ModuleDescriptor}

/-- A configuration is added exactly if it answers to its name once it is ensured. -/
theorem addConfiguration_eq_ok_iff {c : Configuration String Bool} :
    d.addConfiguration c = .ok d' ↔ d.ensured c = c ∧ d' = d.ensureConfiguration c := by
  unfold addConfiguration ensured ensureConfiguration
  cases d.configuration? c.name with
  | none => simp [eq_comm]
  | some registered =>
    by_cases h : registered = c
    · simp [h, eq_comm]
    · simp [h]

/-- A new descriptor. -/
def fresh (revision : RevisionId String) (status : String) (date : Option Moment) :
    ModuleDescriptor :=
  { Descriptor.empty revision status with publicationDate := date }

/-- What a sequence of edits makes of a new descriptor, whose date can be read from its text. -/
def IsBuilt (d : ModuleDescriptor) : Prop :=
  ∃ revision status date es, (∀ m, date = some m → Moment.read? m.render = some m) ∧
    (∀ e ∈ es, Edit.IsProper e) ∧ (fresh revision status date).edits es = d

end Descriptor

namespace Snapshot

open Descriptor (Edit)

variable {d d' : ModuleDescriptor}

/-! ### Edits -/

theorem mem_or_exists_of_mem_modify {α : Type} {as : List α} {i : Nat} {f : α → α} {a : α}
    (h : a ∈ as.modify i f) : a ∈ as ∨ ∃ b ∈ as, a = f b := by
  obtain ⟨j, hj⟩ := List.mem_iff_getElem?.mp h
  rw [List.getElem?_modify] at hj
  obtain ⟨b, hb, hab⟩ := Option.map_eq_some_iff.mp hj
  have hmem : b ∈ as := List.mem_iff_getElem?.mpr ⟨j, hb⟩
  split at hab
  · exact .inr ⟨b, hmem, hab.symm⟩
  · exact .inl (hab ▸ hmem)

theorem isProper_fresh (revision : RevisionId String) (status : String) {date : Option Moment}
    (hdate : ∀ m, date = some m → Moment.read? m.render = some m) :
    IsProper (Descriptor.fresh revision status date) where
  configurations := List.nodup_nil
  namespaces := Assoc.isMapping_empty
  attributes _ he := absurd he List.not_mem_nil
  routes _ he := absurd he List.not_mem_nil
  date := hdate

theorem IsProper.ensureConfiguration (h : IsProper d) (c : Configuration String Bool) :
    IsProper (d.ensureConfiguration c) := by
  rw [Descriptor.ensureConfiguration_eq]
  refine { h with configurations := ?_ }
  rw [Descriptor.configurationNames, Configuration.names_registered]
  exact nodup_addNew h.configurations c.name

theorem IsProper.addArtifact (h : IsProper d) (name : String) {a : Artifact String}
    (ha : a.extra.IsMapping) : IsProper (d.addArtifact name a) := by
  refine { h with attributes := fun e he b hb => ?_ }
  rcases Assoc.mem_alterEntries he with hold | rfl | ⟨as, has, rfl⟩
  · exact h.attributes e hold b hb
  · obtain rfl : b = a := by simpa using hb
    exact ha
  · rcases List.mem_append.mp hb with hb | hb
    · exact h.attributes (name, as) has b hb
    · exact List.mem_singleton.mp hb ▸ ha

theorem IsProper.addDependency (h : IsProper d) {e : Dependency String Bool}
    (he : e.HasDistinctRoutes) : IsProper (d.addDependency e) := by
  refine { h with routes := fun f hf => ?_ }
  rcases List.mem_append.mp hf with hf | hf
  · exact h.routes f hf
  · exact List.mem_singleton.mp hf ▸ he

theorem IsProper.addRoute (h : IsProper d) (index : Nat) (master target : String) :
    IsProper { d with
      dependencies := d.dependencies.modify index (·.addRoute master target) } := by
  refine { h with routes := fun f hf => ?_ }
  rcases mem_or_exists_of_mem_modify hf with hf | ⟨e, he, rfl⟩
  · exact h.routes f hf
  · exact (h.routes e he).addRoute master target

theorem IsProper.edit {e : Edit String Bool} (h : IsProper d) (he : e.IsProper)
    (hrun : d.edit e = .ok d') : IsProper d' := by
  cases e with
  | addConfiguration c =>
    rw [(Descriptor.addConfiguration_eq_ok_iff.mp hrun).2]
    exact h.ensureConfiguration c
  | ensureConfiguration c =>
    rw [← Except.ok.inj hrun]
    exact h.ensureConfiguration c
  | addArtifact name a =>
    rw [← Except.ok.inj hrun]
    exact h.addArtifact name he
  | addDependency e =>
    rw [← Except.ok.inj hrun]
    exact h.addDependency he
  | addRoute index master target =>
    rw [← Except.ok.inj hrun]
    exact h.addRoute index master target
  | addNamespace short long =>
    rw [← Except.ok.inj hrun]
    exact { h with namespaces := h.namespaces.put short long }
  | addExcludeRule | restrictRule | addExtraInfo | setStatus | setDescription | setHomePage =>
    rw [← Except.ok.inj hrun]
    exact { h with }

theorem IsProper.edits (h : IsProper d) {es : List (Edit String Bool)}
    (hes : ∀ e ∈ es, e.IsProper) : IsProper (d.edits es) := by
  induction es generalizing d with
  | nil => exact h
  | cons e es ih =>
    obtain ⟨he, hrest⟩ := List.forall_mem_cons.mp hes
    rw [Descriptor.edits, List.foldl_cons]
    refine ih ?_ hrest
    cases hrun : d.edit e with
    | ok changed => exact h.edit he hrun
    | error clash => exact h

/-! ### Artifacts that a snapshot holds -/

theorem allArtifacts_kept (d : ModuleDescriptor) :
    (kept d).allArtifacts = distinct (d.configurationNames.flatMap d.artifactsOf) := by
  have hbound : ∀ (name : String) (as : List (Artifact String)),
      (Descriptor.binding name as).flatMap Prod.snd = as := by
    intro name as
    cases as with
    | nil => rfl
    | cons a as => simp [Descriptor.binding]
  have hentries : (d.bindings d.configurationNames).flatMap Prod.snd =
      d.configurationNames.flatMap d.artifactsOf := by
    rw [Descriptor.bindings, List.flatMap_assoc]
    exact List.flatMap_congr fun name _ => hbound name _
  rw [Descriptor.allArtifacts, kept, hentries]

theorem IsProper.kept (h : IsProper d) : IsProper (kept d) := by
  refine { h with attributes := fun e he a ha => ?_ }
  rw [(Descriptor.mem_bindings he).1] at ha
  exact h.attributesOf e.1 a ha

/-- What is read from a snapshot has the artifacts of the registered configurations. -/
theorem allArtifacts_of_ofValue (h : IsProper d) :
    ∃ read, ofValue (toValue d) = .ok read ∧ read.allArtifacts =
      (distinct (d.configurationNames.flatMap d.artifactsOf)).map (Artifact.stored id) := by
  refine ⟨(Snapshot.kept d).stored id, ?_, ?_⟩
  · have hread := ofValue_rearrange_toValue id_perm h
    rwa [Value.rearrange_id] at hread
  · rw [Descriptor.allArtifacts_stored id_perm h.kept.attributes, allArtifacts_kept]

theorem contains_stored {as : List (Artifact String)} (h : ∀ a ∈ as, a.extra.IsMapping)
    (a : Artifact String) :
    ((distinct as).map (Artifact.stored id)).contains (a.stored id) = as.contains a := by
  rw [contains_image fun b hb => a.beq_stored id_perm id_perm (h b (mem_of_mem_distinct hb))]
  exact contains_distinct (fun _ _ _ => Artifact.beq_trans) as a

theorem contains_artifactsOf_iff (d : ModuleDescriptor) (a : Artifact String) :
    (d.configurationNames.flatMap d.artifactsOf).contains a = true ↔
      ∃ name ∈ d.configurationNames, (d.artifactsOf name).contains a = true := by
  simp only [List.contains_iff_exists_mem_beq, List.mem_flatMap]
  constructor
  · rintro ⟨b, ⟨name, hname, hb⟩, hab⟩
    exact ⟨name, hname, b, hb, hab⟩
  · rintro ⟨name, hname, b, hb, hab⟩
    exact ⟨b, ⟨name, hname, hb⟩, hab⟩

theorem isProper_of_isBuilt (h : d.IsBuilt) : IsProper d := by
  obtain ⟨revision, status, date, es, hdate, hes, rfl⟩ := h
  exact (isProper_fresh revision status hdate).edits hes

/-- However a descriptor was built, its snapshot is read back, and an artifact is still there
exactly if it is bound to a registered configuration. -/
theorem allArtifacts_read_iff (h : d.IsBuilt) :
    ∃ read, ofValue (toValue d) = .ok read ∧
      read.allArtifacts =
        (distinct (d.configurationNames.flatMap d.artifactsOf)).map (Artifact.stored id) ∧
      ∀ a ∈ d.allArtifacts, (read.allArtifacts.contains (a.stored id) = true ↔
        ∃ name ∈ d.configurationNames, (d.artifactsOf name).contains a = true) := by
  have hproper := isProper_of_isBuilt h
  obtain ⟨read, hread, hartifacts⟩ := allArtifacts_of_ofValue hproper
  refine ⟨read, hread, hartifacts, fun a _ => ?_⟩
  have hattributes : ∀ b ∈ d.configurationNames.flatMap d.artifactsOf, b.extra.IsMapping := by
    intro b hb
    obtain ⟨name, -, hb⟩ := List.mem_flatMap.mp hb
    exact hproper.attributesOf name b hb
  rw [hartifacts, contains_stored hattributes, contains_artifactsOf_iff]

/-- An artifact of the module, with attributes. -/
def archive (type : String) : Artifact String :=
  ⟨⟨"org", "app", none, some "1"⟩, some "app", some type, some "jar", none,
    ⟨[("classifier", type), ("packaging", "bundle")]⟩⟩

theorem isMapping_archive (type : String) : (archive type).extra.IsMapping := by
  simp [archive, Assoc.IsMapping, Assoc.keys]

/-- Archives bound to a configuration that is registered later and to one that never is. -/
def archiveEdits : List (Edit String Bool) :=
  [.addArtifact "default" (archive "jar"), .addArtifact "sources" (archive "source"),
    .addConfiguration (.named "default"),
    .addDependency (.onRevision ⟨"org", "lib", none, some "2"⟩ true false),
    .addRoute 0 "default" "use_lib"]

theorem allArtifacts_read_archives :
    ∃ d : ModuleDescriptor, d.IsBuilt ∧ d.allArtifacts = [archive "jar", archive "source"] ∧
      ∃ read, ofValue (toValue d) = .ok read ∧
        read.allArtifacts.contains ((archive "jar").stored id) = true ∧
        ¬ read.allArtifacts.contains ((archive "source").stored id) = true := by
  have hes : ∀ e ∈ archiveEdits, e.IsProper := by
    simp only [archiveEdits, List.forall_mem_cons]
    exact ⟨isMapping_archive "jar", isMapping_archive "source", trivial,
      Dependency.hasDistinctRoutes_of_no_routes rfl, trivial, by simp⟩
  have hbuilt : ((Descriptor.fresh ⟨"org", "app", none, some "1"⟩ "release" none).edits
      archiveEdits).IsBuilt := ⟨_, _, none, _, nofun, hes, rfl⟩
  have hall : ((Descriptor.fresh ⟨"org", "app", none, some "1"⟩ "release" none).edits
      archiveEdits).allArtifacts = [archive "jar", archive "source"] := by decide
  obtain ⟨read, hread, -, hiff⟩ := allArtifacts_read_iff hbuilt
  refine ⟨_, hbuilt, hall, read, hread, ?_, ?_⟩
  · rw [hiff (archive "jar") (by simp [hall])]
    decide
  · rw [hiff (archive "source") (by simp [hall])]
    decide

/-- An archive bound to a configuration that is not registered is not read back. -/
theorem allArtifacts_read_unregistered :
    ∃ d : ModuleDescriptor,
      (Descriptor.fresh ⟨"org", "app", none, some "1"⟩ "integration" none).edits
        [.addArtifact "default" (archive "jar")] = d ∧
      d.allArtifacts = [archive "jar"] ∧
      ∃ read, ofValue (toValue d) = .ok read ∧ read.allArtifacts = [] :=
  ⟨_, rfl, rfl, _, rfl, rfl⟩

end Snapshot

end OsgiIvy
