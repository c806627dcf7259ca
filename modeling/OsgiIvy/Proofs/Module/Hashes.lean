import OsgiIvy.Proofs.Module.FirstBindings
import OsgiIvy.Proofs.Sorting

/-!
# Artifacts that are looked for by their hashes

Equal artifacts have the same parts to make a hash of, in whatever order their attributes stand
(`Artifact.hashedParts_eq_iff`).  So it makes no difference whether an artifact is looked for among
others by its hash first: all artifacts are listed once, whatever hashes collide
(`allArtifacts_hashed`).
-/

namespace OsgiIvy

theorem Artifact.hashedParts_eq_iff {a b : Artifact String} (ha : a.extra.IsMapping)
    (hb : b.extra.IsMapping) : a.hashedParts = b.hashedParts ↔ (a == b) = true := by
  have hextra : a.extra.entries.Perm b.extra.entries ↔ a.extra.same b.extra = true :=
    ⟨hb.same_of_perm, ha.perm_of_same⟩
  rw [Artifact.beq_iff, ← hextra, ← sortBy_pairLe_eq_iff]
  unfold hashedParts
  rw [HashedParts.mk.injEq]

theorem Artifact.beq_self {a : Artifact String} (ha : a.extra.IsMapping) : (a == a) = true :=
  (hashedParts_eq_iff ha ha).mp rfl

theorem Artifact.beq_symm {a b : Artifact String} (ha : a.extra.IsMapping)
    (hb : b.extra.IsMapping) (h : (a == b) = true) : (b == a) = true :=
  (hashedParts_eq_iff hb ha).mp ((hashedParts_eq_iff ha hb).mpr h).symm

namespace Descriptor

open Snapshot (archive isMapping_archive)

variable {d : ModuleDescriptor} (hash : HashedParts → Int)

/-! ### Looking up by hashes -/

/-- Adds an artifact unless one with its hash equals it. -/
def addHashed (seen : List (Artifact String)) (a : Artifact String) : List (Artifact String) :=
  if seen.any fun b => hash a.hashedParts = hash b.hashedParts && a == b then seen
  else seen ++ [a]

/-- All artifacts of a descriptor, each looked up by its hash among those before it. -/
def listedBy (d : ModuleDescriptor) : List (Artifact String) :=
  (d.artifacts.entries.flatMap Prod.snd).foldl (addHashed hash) []

theorem addHashed_eq {seen : List (Artifact String)} {a : Artifact String}
    (hseen : ∀ b ∈ seen, b.extra.IsMapping) (ha : a.extra.IsMapping) :
    addHashed hash seen a = addNew seen a := by
  have hfound : (seen.any fun b => hash a.hashedParts = hash b.hashedParts && a == b) =
      seen.contains a := by
    rw [Bool.eq_iff_iff, List.any_eq_true, List.contains_iff_exists_mem_beq]
    refine exists_congr fun b => and_congr_right fun hb => ?_
    rw [Bool.and_eq_true, and_iff_right_iff_imp]
    intro hab
    rw [(Artifact.hashedParts_eq_iff ha (hseen b hb)).mpr hab]
    exact decide_eq_true rfl
  unfold addHashed addNew
  rw [hfound]

theorem foldl_addHashed {seen as : List (Artifact String)}
    (hall : ∀ a ∈ seen ++ as, a.extra.IsMapping) :
    as.foldl (addHashed hash) seen = as.foldl addNew seen := by
  induction as generalizing seen with
  | nil => rfl
  | cons a as ih =>
    obtain ⟨hseen, hrest⟩ := List.forall_mem_append.mp hall
    obtain ⟨ha, has⟩ := List.forall_mem_cons.mp hrest
    rw [List.foldl_cons, List.foldl_cons, addHashed_eq hash hseen ha]
    refine ih (List.forall_mem_append.mpr ⟨fun b hb => ?_, has⟩)
    rcases mem_of_mem_addNew hb with hold | rfl
    · exact hseen b hold
    · exact ha

/-! ### All artifacts -/

/-- Each configuration has its artifacts once, and they have each of their attributes once. -/
structure BindsMappings (d : ModuleDescriptor) : Prop where
  configurations : d.artifacts.IsMapping
  attributes : ∀ e ∈ d.artifacts.entries, ∀ a ∈ e.2, a.extra.IsMapping

theorem BindsMappings.isMapping_extra (h : BindsMappings d) {a : Artifact String}
    (ha : a ∈ d.artifacts.entries.flatMap Prod.snd) : a.extra.IsMapping := by
  obtain ⟨e, he, hae⟩ := List.mem_flatMap.mp ha
  exact h.attributes e he a hae

theorem listedBy_eq (h : BindsMappings d) : d.listedBy hash = d.allArtifacts := by
  refine foldl_addHashed hash fun a ha => ?_
  rw [List.nil_append] at ha
  exact h.isMapping_extra ha

theorem mem_flatMap_artifacts_iff (h : BindsMappings d) {a : Artifact String} :
    a ∈ d.artifacts.entries.flatMap Prod.snd ↔
      ∃ configuration, a ∈ d.artifactsOf configuration := by
  rw [List.mem_flatMap]
  constructor
  · rintro ⟨e, he, hae⟩
    refine ⟨e.1, ?_⟩
    rwa [artifactsOf, Assoc.getD, h.configurations.get?_of_mem he, Option.getD_some]
  · rintro ⟨configuration, ha⟩
    exact exists_mem_entries_of_mem_artifactsOf ha

theorem pairwise_allArtifacts (h : BindsMappings d) : d.allArtifacts.Pairwise fun a b =>
    (a == b) = false ∧ (b == a) = false := by
  refine (apart_distinct _).imp_of_mem fun {a b} ha hb hba => ⟨?_, hba⟩
  cases hab : a == b with
  | false => rfl
  | true =>
    have hsymm := Artifact.beq_symm (h.isMapping_extra (mem_of_mem_distinct ha))
      (h.isMapping_extra (mem_of_mem_distinct hb)) hab
    exact absurd (hba.symm.trans hsymm) nofun

theorem exists_mem_allArtifacts (h : BindsMappings d) {a : Artifact String}
    (ha : a ∈ d.artifacts.entries.flatMap Prod.snd) : ∃ b ∈ d.allArtifacts, (a == b) = true := by
  have hself : (a == a) = true := Artifact.beq_self (h.isMapping_extra ha)
  rw [← List.contains_iff_exists_mem_beq, allArtifacts,
    contains_distinct fun _ _ _ => Artifact.beq_trans]
  exact List.contains_iff_exists_mem_beq.mpr ⟨a, ha, hself⟩

/-- Artifacts are equal exactly if their hashes are made of the same parts.  So all artifacts of a
descriptor are listed whatever the hashes are: no two of them are equal, and each artifact that is
bound to a configuration equals one of them, which is itself bound to one. -/
theorem allArtifacts_hashed :
    (∀ {a b : Artifact String}, a.extra.IsMapping → b.extra.IsMapping →
      ((a == b) = true ↔ a.hashedParts = b.hashedParts)) ∧
    ∀ {d : ModuleDescriptor}, d.BindsMappings →
      (∀ hash, d.listedBy hash = d.allArtifacts) ∧
      (d.allArtifacts.Pairwise fun a b => (a == b) = false ∧ (b == a) = false) ∧
      (∀ configuration, ∀ a ∈ d.artifactsOf configuration,
        ∃ b ∈ d.allArtifacts, (a == b) = true) ∧
      ∀ b ∈ d.allArtifacts, ∃ configuration, b ∈ d.artifactsOf configuration := by
  refine ⟨fun ha hb => (Artifact.hashedParts_eq_iff ha hb).symm, fun {d} h => ?_⟩
  refine ⟨fun hash => listedBy_eq hash h, pairwise_allArtifacts h, fun configuration a ha => ?_,
    fun b hb => ?_⟩
  · exact exists_mem_allArtifacts h ((mem_flatMap_artifacts_iff h).mpr ⟨configuration, ha⟩)
  · exact (mem_flatMap_artifacts_iff h).mp (mem_of_mem_distinct hb)

/-- A descriptor with an artifact that is bound twice, and a hash by which all artifacts collide. -/
theorem allArtifacts_hashed_sharedSource :
    let d := (fresh ⟨"org", "app", none, some "1"⟩ "release" none).edits sharedSource
    d.BindsMappings ∧ (d.listedBy fun _ => 0) = d.allArtifacts ∧
      (archive "source").extra.IsMapping ∧
      (archive "source").hashedParts = { archive "source" with
        extra := ⟨(archive "source").extra.entries.reverse⟩ }.hashedParts := by
  intro d
  have hbinds : d.BindsMappings := ⟨by decide, by decide⟩
  have hsource : (archive "source").extra.IsMapping := isMapping_archive "source"
  refine ⟨hbinds, (allArtifacts_hashed.2 hbinds).1 _, hsource, ?_⟩
  exact (allArtifacts_hashed.1 hsource (hsource.perm (List.reverse_perm _))).mp (by decide)

end Descriptor

end OsgiIvy
