import OsgiIvy.Proofs.Json.Halves
import OsgiIvy.Proofs.Module.Snapshot

/-!
# Snapshots as JSON

A snapshot is a plain value, so its JSON text reads as the snapshot with its members in order, and
that as the stored form of the descriptor (`ofJson_toJson?`).  `Restores` says what a descriptor
that was read has in common with the one that was written: everything, mappings being in any
order.
-/

namespace OsgiIvy.Snapshot

open Json Value

/-! ### Plain snapshots -/

theorem plain_members {parts : List (String × Option Value)} (hkeys : (parts.map Prod.fst).Nodup)
    (h : ∀ p ∈ parts, ∀ v ∈ p.2, Plain v) : Plain (.object (members parts)) := by
  refine Plain.object ((keys_members_sublist parts).nodup hkeys) fun f hf => ?_
  obtain ⟨p, hp, hf⟩ := List.mem_flatMap.mp hf
  cases hv : p.2 with
  | none =>
    rw [hv] at hf
    exact absurd hf List.not_mem_nil
  | some v =>
    rw [hv] at hf
    rw [List.mem_singleton.mp hf]
    exact h p hp v hv

theorem plain_map_string {o : Option String} : ∀ v ∈ o.map Value.string, Plain v := by
  intro v hv
  obtain ⟨s, -, rfl⟩ := Option.map_eq_some_iff.mp hv
  exact Plain.string s

theorem plain_strings (names : List String) : Plain (.list (names.map .string)) := by
  refine Plain.list fun v hv => ?_
  obtain ⟨s, -, rfl⟩ := List.mem_map.mp hv
  exact Plain.string s

theorem plain_ofRevision (r : RevisionId String) : Plain (ofRevision r) := by
  rw [ofRevision_eq]
  refine plain_members (by simp [revisionParts]) ?_
  simp only [revisionParts, List.forall_mem_cons, Option.mem_some_iff, forall_eq']
  exact ⟨.string _, .string _, plain_map_string, plain_map_string, by simp⟩

theorem plain_optionValue (o : Option String) : Plain (Field.optionValue o) := by
  cases o with
  | none => exact Plain.null
  | some s => exact Plain.string s

theorem ofAssoc_eq (m : Assoc String String) :
    ofAssoc m = .object (m.entries.map fun e => (e.1, .string e.2)) := by
  simp [ofAssoc, object, Field.toValue]

theorem nodup_keys_ofAssoc {m : Assoc String String} (h : m.IsMapping) :
    ((m.entries.map fun e => (e.1, Value.string e.2)).map Prod.fst).Nodup := by
  simpa [Assoc.IsMapping, Assoc.keys, Function.comp_def] using h

theorem plain_ofAssoc {m : Assoc String String} (h : m.IsMapping) : Plain (ofAssoc m) := by
  rw [ofAssoc_eq]
  refine Plain.object (nodup_keys_ofAssoc h) fun f hf => ?_
  obtain ⟨e, -, rfl⟩ := List.mem_map.mp hf
  exact Plain.string e.2

theorem plain_ofArtifact {a : Artifact String} (h : a.extra.IsMapping) : Plain (ofArtifact a) := by
  rw [ofArtifact_eq]
  refine plain_members (by simp [artifactParts]) ?_
  simp only [artifactParts, List.forall_mem_cons, Option.mem_some_iff, forall_eq']
  refine ⟨plain_ofRevision _, plain_optionValue _, plain_optionValue _, plain_optionValue _,
    plain_map_string, ?_, by simp⟩
  intro v hv
  split at hv
  · exact absurd hv (Option.not_mem_none v)
  · rw [← Option.mem_some_iff.mp hv]
    exact plain_ofAssoc h

theorem plain_ofConfiguration (c : Configuration String Bool) {artifacts : List (Artifact String)}
    (h : ∀ a ∈ artifacts, a.extra.IsMapping) : Plain (ofConfiguration c artifacts) := by
  rw [ofConfiguration_eq]
  refine plain_members (by simp [configurationParts]) ?_
  simp only [configurationParts, List.forall_mem_cons, Option.mem_some_iff, forall_eq']
  refine ⟨.string _, .string _, .bool _, ?_, ?_, plain_map_string, ?_, by simp⟩
  · intro v hv
    split at hv
    · exact absurd hv (Option.not_mem_none v)
    · rw [← Option.mem_some_iff.mp hv]
      exact Plain.string _
  · intro v hv
    split at hv
    · exact absurd hv (Option.not_mem_none v)
    · rw [← Option.mem_some_iff.mp hv]
      exact plain_strings _
  · refine Plain.list fun v hv => ?_
    obtain ⟨a, ha, rfl⟩ := List.mem_map.mp hv
    exact plain_ofArtifact (h a ha)

theorem plain_ofPairs (ps : List (String × String)) : Plain (ofPairs ps) := by
  refine Plain.list fun v hv => ?_
  obtain ⟨p, -, rfl⟩ := List.mem_map.mp hv
  exact plain_strings [p.1, p.2]

theorem plain_ofDependency (d : Dependency String Bool) : Plain (ofDependency d) := by
  rw [ofDependency_eq]
  refine plain_members (by simp [dependencyParts]) ?_
  simp only [dependencyParts, List.forall_mem_cons, Option.mem_some_iff, forall_eq']
  exact ⟨plain_ofRevision _, .bool _, .bool _, .bool _, plain_ofPairs _, by simp⟩

theorem plain_ofRule (r : ExcludeRule String) : Plain (ofRule r) := by
  rw [ofRule_eq]
  refine plain_members (by simp [ruleParts]) ?_
  simp only [ruleParts, List.forall_mem_cons, Option.mem_some_iff, forall_eq']
  exact ⟨.string _, .string _, .string _, .string _, .string _, .string _, plain_strings _, by simp⟩

theorem plain_toValue {d : ModuleDescriptor} (h : IsProper (undated d)) : Plain (toValue d) := by
  rw [toValue_eq]
  refine plain_members (by simp [descriptorParts]) ?_
  simp only [descriptorParts, List.forall_mem_cons, Option.mem_some_iff, forall_eq']
  refine ⟨.string _, .string _, plain_ofRevision _, .string _, .string _, plain_ofPairs _,
    plain_ofAssoc h.namespaces, ?_, ?_, ?_, plain_map_string, ?_, by simp⟩
  · refine Plain.list fun v hv => ?_
    obtain ⟨c, -, rfl⟩ := List.mem_map.mp hv
    exact plain_ofConfiguration c (h.attributesOf c.name)
  · refine Plain.list fun v hv => ?_
    obtain ⟨e, -, rfl⟩ := List.mem_map.mp hv
    exact plain_ofDependency e
  · refine Plain.list fun v hv => ?_
    obtain ⟨r, -, rfl⟩ := List.mem_map.mp hv
    exact plain_ofRule r
  · intro v hv
    obtain ⟨m, -, rfl⟩ := Option.map_eq_some_iff.mp hv
    exact Plain.string _

/-! ### Texts -/

theorem toJson?_eq_some {d : ModuleDescriptor} (h : IsProper (undated d)) (indent : Nat) :
    toJson? indent d = some (toJson indent d) := by
  rw [toJson?, if_pos (plain_toValue h).isOrdered]

/-- A proper descriptor has a JSON text, which reads as its stored form. -/
theorem ofJson_toJson? {d : ModuleDescriptor} (h : IsProper d) (indent : Nat) :
    ∃ text, toJson? indent d = some text ∧ ofJson text = .ok ((kept d).stored byKey) := by
  refine ⟨toJson indent d, toJson?_eq_some h.undated indent, ?_⟩
  rw [ofJson, toJson, read_write (plain_toValue h.undated)]
  exact ofValue_rearrange_toValue byKey_perm h

/-! ### Torn texts -/

/-- Putting together the halves in a snapshot does not change its text. -/
theorem toJson?_eq_of_joinHalves {τ φ : Type} [BEq τ] [Field τ] [Flag φ] {d : Unchecked}
    {e : Descriptor τ φ} (h : joinHalves (toValue d) = toValue e) (indent : Nat) :
    toJson? indent d = toJson? indent e := by
  rw [toJson?, toJson?, toJson, toJson, ← h, isOrdered_joinHalves, write_joinHalves]

/-- A new descriptor with a description. -/
def described (description : Value) : Unchecked :=
  (Descriptor.empty ⟨.string "org", .string "app", none, none⟩ (.string "integration")).edits
    [.setDescription description]

/-- The same with a description of characters. -/
def describedAs (description : String) : ModuleDescriptor :=
  (Descriptor.empty ⟨"org", "app", none, none⟩ "integration").edits [.setDescription description]

theorem joinHalves_toValue_described :
    joinHalves (toValue (described (.torn tornFace))) = toValue (describedAs "😀") := by
  rfl

/-! ### What is restored -/

/-- A descriptor that was read has everything that the one that was written has. -/
structure Restores (d : Unchecked) (md : ModuleDescriptor) : Prop where
  revision : d.revision = md.revision.stored
  status : d.status = .string md.status
  description : d.description = .string md.description
  homePage : d.homePage = md.homePage.map .string
  publicationDate : d.publicationDate = md.publicationDate
  extraInfos : d.extraInfos = md.extraInfos.map fun p => (.string p.1, .string p.2)
  namespaces : d.namespaces.same (md.namespaces.stored id) = true
  configurations : d.configurations = md.configurations.map Configuration.stored
  artifactsOf : ∀ name ∈ md.configurationNames,
    (d.artifactsOf (.string name) == (md.artifactsOf name).map (Artifact.stored id)) = true
  allArtifacts : (d.allArtifacts == md.allArtifacts.map (Artifact.stored id)) = true
  edges : d.dependencies = md.dependencies.map Dependency.stored
  mappings : d.dependencies.map Dependency.mappings =
    md.dependencies.map fun e => e.mappings.map fun p => (.string p.1, .string p.2)
  excludeRules : d.excludeRules = md.excludeRules.map ExcludeRule.stored

theorem beq_map_of_forall {α β : Type} [BEq β] {f g : α → β} {as : List α}
    (h : ∀ a ∈ as, (f a == g a) = true) : (as.map f == as.map g) = true := by
  induction as with
  | nil => rfl
  | cons a as ih =>
    rw [List.map_cons, List.map_cons, List.cons_beq_cons, h a List.mem_cons_self, Bool.true_and]
    exact ih fun b hb => h b (List.mem_cons_of_mem a hb)

theorem id_perm (es : List (Value × Value)) : (id es).Perm es := .refl es

theorem beq_stored_of_isMapping {a : Artifact String} (h : a.extra.IsMapping)
    {order : List (Value × Value) → List (Value × Value)} (horder : ∀ es, (order es).Perm es) :
    (a.stored order == a.stored id) = true := by
  rw [a.beq_stored horder id_perm h]
  show a.same a = true
  simp [Artifact.same, h.same_self]

theorem restores_stored {d : ModuleDescriptor} (h : IsProper d)
    {order : List (Value × Value) → List (Value × Value)} (horder : ∀ es, (order es).Perm es) :
    Restores (d.stored order) d where
  revision := rfl
  status := rfl
  description := rfl
  homePage := rfl
  publicationDate := rfl
  extraInfos := rfl
  namespaces := (Assoc.same_stored horder id_perm d.namespaces h.namespaces).trans
    h.namespaces.same_self
  configurations := rfl
  artifactsOf := by
    intro name _
    rw [Descriptor.artifactsOf_stored]
    exact beq_map_of_forall fun a ha => beq_stored_of_isMapping (h.attributesOf name a ha) horder
  allArtifacts := by
    rw [Descriptor.allArtifacts_stored horder h.attributes]
    refine beq_map_of_forall fun a ha => ?_
    obtain ⟨e, he, hae⟩ := List.mem_flatMap.mp (mem_of_mem_distinct ha)
    exact beq_stored_of_isMapping (h.attributes e he a hae) horder
  edges := rfl
  mappings := by
    simp [Descriptor.stored, Dependency.mappings_stored]
  excludeRules := rfl

/-- The artifacts of a descriptor are those of its configurations, in their order. -/
structure IsBound (d : ModuleDescriptor) : Prop where
  configurations : d.artifacts.keys.Sublist d.configurationNames
  artifacts : ∀ e ∈ d.artifacts.entries, e.2 ≠ []

theorem kept_eq_self {d : ModuleDescriptor} (hd : IsProper d) (hbound : IsBound d) :
    kept d = d := by
  have hentries := Descriptor.bindings_eq_entries hd.configurations hbound.configurations
    hbound.artifacts
  rw [kept, hentries]

/-- A descriptor has a JSON text, and what is read from it restores the descriptor. -/
def Survives (indent : Nat) (md : ModuleDescriptor) : Prop :=
  ∃ text, toJson? indent md = some text ∧ ∃ d, ofJson text = .ok d ∧ Restores d md

theorem survives {md : ModuleDescriptor} (h : IsProper md) (hbound : IsBound md) (indent : Nat) :
    Survives indent md := by
  obtain ⟨text, htext, hread⟩ := ofJson_toJson? h indent
  rw [kept_eq_self h hbound] at hread
  exact ⟨text, htext, md.stored byKey, hread, restores_stored h byKey_perm⟩

end OsgiIvy.Snapshot
