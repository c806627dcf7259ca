import OsgiIvy.Proofs.Grouping
import OsgiIvy.Proofs.Json.Canonical
import OsgiIvy.Proofs.Module.Registrations
import OsgiIvy.Proofs.Occurrences

/-!
# Artifacts in the order of their bindings

A descriptor keeps its artifacts by configuration, in the order in which the configurations first
had one (`entries_artifacts_edits`).  All its artifacts are therefore listed group by group, each
once, and one that was bound late may stand in front of one that was bound before it.
`allArtifacts_edits_iff` says when the list has the order of the bindings.
-/

namespace OsgiIvy

open OsgiIvy.Time (Moment)

/-! ### Equality -/

/-- Artifacts are equal exactly if they have the same parts once the attributes are in order. -/
theorem Artifact.canonical_eq_iff {a b : Artifact String} (ha : a.extra.IsMapping)
    (hb : b.extra.IsMapping) : a.canonical = b.canonical ↔ (a == b) = true := by
  have hextra : Json.byName a.extra.entries = Json.byName b.extra.entries ↔
      a.extra.same b.extra = true :=
    (Json.byName_eq_byName_iff ha).trans
      ⟨fun hperm => hb.same_of_perm hperm, fun hsame => ha.perm_of_same hsame⟩
  rw [Artifact.beq_iff, ← hextra, canonical, canonical, Artifact.mk.injEq, Assoc.mk.injEq]
  rfl

namespace Descriptor

variable {d : ModuleDescriptor}

/-! ### Bindings -/

/-- What an edit binds: a configuration and an artifact. -/
def Edit.binds? : Edit String Bool → Option (String × Artifact String)
  | .addArtifact configuration a => some (configuration, a)
  | _ => none

/-- The configurations and artifacts that edits bind, in order. -/
def bound (es : List (Edit String Bool)) : List (String × Artifact String) :=
  es.filterMap Edit.binds?

/-- The artifacts that are bound, configuration by configuration. -/
def inGroups (calls : List (String × Artifact String)) : List (Artifact String) :=
  (distinct (calls.map Prod.fst)).flatMap (rowsOf calls)

/-- Puts an artifact behind those of the configuration. -/
def bindArtifact (m : Assoc String (List (Artifact String))) (call : String × Artifact String) :
    Assoc String (List (Artifact String)) :=
  m.alter call.1 fun old => old.getD [] ++ [call.2]

theorem artifacts_edit (d : ModuleDescriptor) (e : Edit String Bool) :
    (d.edits [e]).artifacts = e.binds?.toList.foldl bindArtifact d.artifacts := by
  cases e with
  | addConfiguration c =>
    rw [edits_addConfiguration, ensureConfiguration_eq]
    rfl
  | ensureConfiguration c =>
    rw [edits_of_ok rfl, ensureConfiguration_eq]
    rfl
  | _ => rfl

theorem artifacts_edits_eq (d : ModuleDescriptor) (es : List (Edit String Bool)) :
    (d.edits es).artifacts = (bound es).foldl bindArtifact d.artifacts :=
  edits_foldl artifacts_edit d es

theorem artifacts_edits (revision : RevisionId String) (status : String) (date : Option Moment)
    (es : List (Edit String Bool)) :
    ((fresh revision status date).edits es).artifacts.entries =
      (distinct ((bound es).map Prod.fst)).map fun configuration =>
        (configuration, rowsOf (bound es) configuration) := by
  have hmade : ∀ as : List (Artifact String), as.foldl (fun made a => made ++ [a]) [] = as := by
    intro as
    induction as using List.reverseRecOn with
    | nil => rfl
    | append_singleton as a ih => rw [List.foldl_append, ih, List.foldl_cons, List.foldl_nil]
  rw [artifacts_edits_eq]
  refine (entries_foldl_alter (fun made a => made ++ [a]) [] (bound es)).trans ?_
  exact List.map_congr_left fun configuration _ => congrArg (configuration, ·) (hmade _)

/-- All artifacts of a descriptor that was built are those that were bound, group by group. -/
theorem allArtifacts_edits (revision : RevisionId String) (status : String) (date : Option Moment)
    (es : List (Edit String Bool)) :
    ((fresh revision status date).edits es).allArtifacts = distinct (inGroups (bound es)) := by
  rw [allArtifacts, artifacts_edits, List.flatMap_map]
  rfl

/-! ### The order of the bindings -/

theorem isMapping_of_mem_bound {es : List (Edit String Bool)} (hes : ∀ e ∈ es, e.IsProper)
    {a : Artifact String} (ha : a ∈ (bound es).map Prod.snd) : a.extra.IsMapping := by
  obtain ⟨call, hcall, rfl⟩ := List.mem_map.mp ha
  obtain ⟨e, he, hbinds⟩ := List.mem_filterMap.mp hcall
  cases e with
  | addArtifact configuration a =>
    rw [← Option.some.inj hbinds]
    exact hes _ he
  | _ => exact absurd hbinds nofun

/-- Whatever edits have been made of a new descriptor, all its artifacts are those that were bound,
each once, group by group.  They stand in the order of their first bindings exactly if no artifact
stands in front of one that was bound before it. -/
theorem allArtifacts_edits_iff (revision : RevisionId String) (status : String)
    (date : Option Moment) {es : List (Edit String Bool)} (hes : ∀ e ∈ es, e.IsProper) :
    let d := (fresh revision status date).edits es
    let grouped := inGroups (bound es)
    let artifacts := (bound es).map Prod.snd
    d.allArtifacts = distinct grouped ∧
    (Apart d.allArtifacts ∧ ∀ a, d.allArtifacts.contains a = artifacts.contains a) ∧
    ((d.allArtifacts == distinct artifacts) = true ↔
      ∀ a ∈ artifacts, ∀ b ∈ artifacts,
        grouped.idxOf a ≤ grouped.idxOf b → artifacts.idxOf a ≤ artifacts.idxOf b) := by
  intro d grouped artifacts
  have hall : d.allArtifacts = distinct grouped := allArtifacts_edits ..
  have hperm : grouped.Perm artifacts := flatMap_rowsOf_perm (bound es)
  refine ⟨hall, ⟨?_, fun a => ?_⟩, ?_⟩
  · rw [hall]
    exact apart_distinct grouped
  · rw [hall, contains_distinct fun _ _ _ => Artifact.beq_trans]
    exact hperm.contains_eq
  · have hequal : ∀ a ∈ grouped, ∀ b ∈ grouped,
        decide (a.canonical = b.canonical) = (a == b) := fun a ha b hb =>
      Bool.eq_iff_iff.mpr (decide_eq_true_iff.trans
        (Artifact.canonical_eq_iff (isMapping_of_mem_bound hes (hperm.mem_iff.mp ha))
          (isMapping_of_mem_bound hes (hperm.mem_iff.mp hb))))
    rw [hall, distinct_beq_distinct_iff (fun a => hperm.mem_iff) hequal]
    simp only [hperm.mem_iff]

open Snapshot (archive isMapping_archive)

/-- An artifact bound to two configurations, with its attributes in another order. -/
def sharedSource : List (Edit String Bool) :=
  [.addArtifact "default" (archive "jar"), .addArtifact "default" (archive "source"),
    .addConfiguration (.named "default"),
    .addArtifact "sources" { archive "source" with
      extra := ⟨(archive "source").extra.entries.reverse⟩ },
    .addArtifact "sources" (archive "javadoc")]

theorem allArtifacts_edits_sharedSource :
    (∀ e ∈ sharedSource, e.IsProper) ∧
      (((fresh ⟨"org", "app", none, some "1"⟩ "release" none).edits sharedSource).allArtifacts ==
        [archive "jar", archive "source", archive "javadoc"]) = true := by
  have hes : ∀ e ∈ sharedSource, e.IsProper := by
    simp only [sharedSource, List.forall_mem_cons]
    exact ⟨isMapping_archive "jar", isMapping_archive "source", trivial,
      (isMapping_archive "source").perm (List.reverse_perm _), isMapping_archive "javadoc", by simp⟩
  refine ⟨hes, (allArtifacts_edits_iff _ _ none hes).2.2.mpr ?_⟩
  decide

/-- Two configurations that are given artifacts by turns. -/
def byTurns : List (Edit String Bool) :=
  [.addArtifact "default" (archive "jar"), .addArtifact "sources" (archive "source"),
    .addArtifact "default" (archive "javadoc")]

/-- The last artifact to be bound stands in front of the one that was bound before it. -/
theorem allArtifacts_edits_byTurns :
    distinct ((bound byTurns).map Prod.snd) =
        [archive "jar", archive "source", archive "javadoc"] ∧
      ((fresh ⟨"org", "app", none, some "1"⟩ "release" none).edits byTurns).allArtifacts =
        [archive "jar", archive "javadoc", archive "source"] := by
  decide

end Descriptor

end OsgiIvy
