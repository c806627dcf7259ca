import Mathlib.Data.List.Forall2
import OsgiIvy.Proofs.Json.Canonical
import OsgiIvy.Proofs.Module.Made

/-!
# Descriptors with one text

The text of a snapshot tells apart what differs in a descriptor, and nothing else: the order in
which namespaces and attributes were written does not count (`toJson?_eq_iff`).  Each kind of part
has the same canonical form exactly if the parts are equal.
-/

namespace OsgiIvy

/-- What a snapshot holds of an edge. -/
def Dependency.content (e : Dependency String Bool) :
    RevisionId String × Bool × Bool × Bool × List (String × String) :=
  (e.revision, e.force, e.changing, e.transitive, e.mappings)

section Order

variable (order : List (String × String) → List (String × String))

/-- The artifact with its attributes in another order. -/
def Artifact.reordered (a : Artifact String) : Artifact String :=
  { a with extra := ⟨order a.extra.entries⟩ }

/-- The descriptor with its namespaces and the attributes of its artifacts in another order. -/
def Descriptor.reordered (d : ModuleDescriptor) : ModuleDescriptor :=
  { d with
    namespaces := ⟨order d.namespaces.entries⟩
    artifacts := ⟨d.artifacts.entries.map fun e => (e.1, e.2.map (Artifact.reordered order))⟩ }

theorem Descriptor.artifactsOf_reordered (d : ModuleDescriptor) (name : String) :
    (d.reordered order).artifactsOf name = (d.artifactsOf name).map (Artifact.reordered order) := by
  have hlookup := Assoc.lookup_image (f := id) (fun _ _ => rfl)
    (List.map (Artifact.reordered order)) name d.artifacts.entries
  refine (congrArg (·.getD []) hlookup).trans ?_
  rw [artifactsOf, Assoc.getD, Assoc.get?]
  cases List.lookup name d.artifacts.entries <;> rfl

end Order

namespace Snapshot

open OsgiIvy.Time (Moment)
open Descriptor (Edit)
open Json Value

/-- Two descriptors differ in nothing that is written, mappings being in any order. -/
structure Agrees (d e : ModuleDescriptor) : Prop where
  revision : d.revision = e.revision
  status : d.status = e.status
  description : d.description = e.description
  homePage : d.homePage = e.homePage
  publicationDate : d.publicationDate.map Moment.render = e.publicationDate.map Moment.render
  extraInfos : d.extraInfos = e.extraInfos
  namespaces : d.namespaces.same e.namespaces = true
  configurations : d.configurations = e.configurations
  artifactsOf : ∀ name ∈ d.configurationNames, (d.artifactsOf name == e.artifactsOf name) = true
  edges : d.dependencies.map Dependency.content = e.dependencies.map Dependency.content
  excludeRules : d.excludeRules = e.excludeRules

/-! ### Members -/

section Members

variable {order : List (Value × Value) → List (Value × Value)}
  (parts others : List (String × Option Value))

theorem members_map (g : Value → Value) :
    members (parts.map fun p => (p.1, p.2.map g)) = (members parts).map fun f => (f.1, g f.2) := by
  rw [members, members, List.flatMap_map, List.map_flatMap]
  refine List.flatMap_congr fun p _ => ?_
  cases p.2 <;> rfl

variable {parts others}

theorem map_lookup (hkeys : (parts.map Prod.fst).Nodup) (g : Value → Value) :
    (parts.map Prod.fst).map (fun key => (parts.lookup key).join.map g) =
      parts.map fun p => p.2.map g := by
  rw [List.map_map]
  refine List.map_congr_left fun p hp => ?_
  have hlookup : parts.lookup p.1 = some p.2 :=
    Assoc.IsMapping.get?_of_mem (m := (⟨parts⟩ : Assoc String (Option Value))) hkeys hp
  rw [Function.comp_apply, hlookup, Option.join_some]

/-- Objects with members under the same keys, any of which may be missing, differ in no more than
these members. -/
theorem rearrange_members_eq_iff (horder : ∀ es, (order es).Perm es)
    (parts others : List (String × Option Value)) (hnodup : (parts.map Prod.fst).Nodup)
    (hkeys : parts.map Prod.fst = others.map Prod.fst) :
    rearrange order (.object (members parts)) = rearrange order (.object (members others)) ↔
      (parts.map fun p => p.2.map (rearrange order)) =
        others.map fun p => p.2.map (rearrange order) := by
  constructor
  · -- A field can be read from an object whatever the order, so equal objects have equal fields.
    intro h
    have hlookup : ∀ key, (parts.lookup key).join.map (rearrange order) =
        (others.lookup key).join.map (rearrange order) := by
      intro key
      have hfield := field?_members horder hnodup key
      rw [h, field?_members horder (hkeys ▸ hnodup) key] at hfield
      exact (Except.ok.inj hfield).symm
    rw [← map_lookup hnodup, ← map_lookup (hkeys ▸ hnodup), hkeys]
    exact List.map_congr_left fun key _ => hlookup key
  · intro h
    have hparts : (parts.map fun p => (p.1, p.2.map (rearrange order))) =
        others.map fun p => (p.1, p.2.map (rearrange order)) := by
      rw [← List.zip_map', ← List.zip_map', hkeys, h]
    rw [rearrange_object, rearrange_object, ← members_map, ← members_map, hparts]

/-- A member that is left out if there is nothing to write. -/
theorem map_unless_eq_iff {α : Type} (f : α → Value) (missing : α → Bool) {a b : α} {R : Prop}
    (hmissing : missing a = true → missing b = true → R) (hsame : R → missing a = missing b)
    (h : rearrange order (f a) = rearrange order (f b) ↔ R) :
    (if missing a then none else some (f a)).map (rearrange order) =
      (if missing b then none else some (f b)).map (rearrange order) ↔ R := by
  cases ha : missing a with
  | false =>
    cases hb : missing b with
    | false => simpa using h
    | true => simpa using fun hR => Bool.false_ne_true (ha ▸ hb ▸ hsame hR)
  | true =>
    cases hb : missing b with
    | false => simpa using fun hR => Bool.false_ne_true (hb ▸ ha ▸ (hsame hR).symm)
    | true => simpa using hmissing ha hb

end Members

/-! ### Lists -/

section Lists

variable {α β : Type}

theorem map_eq_map_iff {f g : α → β} {R : α → α → Prop} {as bs : List α}
    (h : ∀ a ∈ as, ∀ b ∈ bs, f a = g b ↔ R a b) :
    as.map f = bs.map g ↔ List.Forall₂ R as bs := by
  induction as generalizing bs with
  | nil => cases bs <;> simp
  | cons a as ih =>
    cases bs with
    | nil => simp
    | cons b bs =>
      rw [List.map_cons, List.map_cons, List.cons.injEq, List.forall₂_cons,
        h a List.mem_cons_self b List.mem_cons_self,
        ih fun c hc e he => h c (List.mem_cons_of_mem a hc) e (List.mem_cons_of_mem b he)]

theorem rearrange_list_eq_iff {order : List (Value × Value) → List (Value × Value)}
    {f g : α → Value} {R : α → α → Prop} {as bs : List α}
    (h : ∀ a ∈ as, ∀ b ∈ bs, rearrange order (f a) = rearrange order (g b) ↔ R a b) :
    rearrange order (.list (as.map f)) = rearrange order (.list (bs.map g)) ↔
      List.Forall₂ R as bs := by
  rw [rearrange_list, rearrange_list, Value.list.injEq, List.map_map, List.map_map]
  exact map_eq_map_iff h

theorem forall₂_beq_iff [BEq α] {as bs : List α} :
    List.Forall₂ (fun a b => (a == b) = true) as bs ↔ (as == bs) = true := by
  induction as generalizing bs with
  | nil => cases bs <;> simp
  | cons a as ih =>
    cases bs with
    | nil => simp
    | cons b bs => rw [List.forall₂_cons, List.cons_beq_cons, Bool.and_eq_true, ih]

end Lists

/-! ### Parts -/

theorem map_string_eq_iff {o p : Option String} :
    o.map Value.string = p.map Value.string ↔ o = p :=
  (Option.map_injective string_injective).eq_iff

theorem map_strings_eq_iff {as bs : List String} :
    as.map Value.string = bs.map Value.string ↔ as = bs :=
  (List.map_injective_iff.mpr string_injective).eq_iff

theorem map_rearrange_string {order : List (Value × Value) → List (Value × Value)}
    (o : Option String) : (o.map Value.string).map (rearrange order) = o.map Value.string := by
  cases o with
  | none => rfl
  | some s => exact congrArg some (rearrange_string order s)

theorem optionValue_eq_iff {o p : Option String} :
    Field.optionValue o = Field.optionValue p ↔ o = p := by
  cases o <;> cases p <;> simp [Field.optionValue, Field.toValue]

theorem canonical_ofRevision_eq_iff {r s : RevisionId String} :
    rearrange byKey (ofRevision r) = rearrange byKey (ofRevision s) ↔ r = s := by
  rw [ofRevision_eq, ofRevision_eq, rearrange_members_eq_iff byKey_perm (revisionParts r)
    (revisionParts s) (by simp [revisionParts]) rfl]
  obtain ⟨organisation, name, branch, revision⟩ := r
  obtain ⟨organisation', name', branch', revision'⟩ := s
  simp [revisionParts, rearrange_string, map_rearrange_string, map_string_eq_iff, -Option.map_map]

theorem canonical_ofPairs_eq_iff {ps qs : List (String × String)} :
    rearrange byKey (ofPairs ps) = rearrange byKey (ofPairs qs) ↔ ps = qs := by
  have hinjective : Function.Injective fun p : String × String =>
      Value.list [.string p.1, .string p.2] := by
    intro p q h
    simpa [Prod.ext_iff] using h
  rw [rearrange_ofPairs, rearrange_ofPairs, ofPairs, ofPairs, Value.list.injEq]
  exact (List.map_injective_iff.mpr hinjective).eq_iff

theorem canonical_ofAssoc_eq_iff {m n : Assoc String String} (hm : m.IsMapping)
    (hn : n.IsMapping) :
    rearrange byKey (ofAssoc m) = rearrange byKey (ofAssoc n) ↔ m.same n = true := by
  have hinjective : Function.Injective fun e : String × String => (e.1, Value.string e.2) := by
    intro e f h
    simpa [Prod.ext_iff] using h
  have hentries : ∀ l : Assoc String String, (l.entries.map fun e => (e.1, Value.string e.2)).map
      (fun f => (f.1, rearrange byKey f.2)) = l.entries.map fun e => (e.1, Value.string e.2) := by
    intro l
    simp [rearrange_string]
  rw [ofAssoc_eq, ofAssoc_eq, canonical_object_eq_iff (nodup_keys_ofAssoc hm), hentries, hentries,
    List.map_perm_map_iff hinjective]
  exact ⟨hn.same_of_perm, hm.perm_of_same⟩

theorem canonical_attributes_eq_iff {m n : Assoc String String} (hm : m.IsMapping)
    (hn : n.IsMapping) :
    (if m.isEmpty then none else some (ofAssoc m)).map (rearrange byKey) =
      (if n.isEmpty then none else some (ofAssoc n)).map (rearrange byKey) ↔ m.same n = true := by
  refine map_unless_eq_iff ofAssoc Assoc.isEmpty ?_ ?_ (canonical_ofAssoc_eq_iff hm hn)
  · intro hmempty hnempty
    rw [Assoc.isEmpty, List.isEmpty_iff] at hmempty hnempty
    rw [Assoc.same_eq, Assoc.size, Assoc.size, hmempty, hnempty]
    rfl
  · intro hsame
    exact (hm.perm_of_same hsame).isEmpty_eq

theorem canonical_ofArtifact_eq_iff {a b : Artifact String} (ha : a.extra.IsMapping)
    (hb : b.extra.IsMapping) :
    rearrange byKey (ofArtifact a) = rearrange byKey (ofArtifact b) ↔ (a == b) = true := by
  rw [ofArtifact_eq, ofArtifact_eq, rearrange_members_eq_iff byKey_perm (artifactParts a)
    (artifactParts b) (by simp [artifactParts]) rfl, Artifact.beq_iff]
  simp [artifactParts, rearrange_optionValue, map_rearrange_string, map_string_eq_iff,
    optionValue_eq_iff, canonical_ofRevision_eq_iff, canonical_attributes_eq_iff ha hb,
    -Option.map_map]

theorem canonical_artifacts_eq_iff {as bs : List (Artifact String)}
    (has : ∀ a ∈ as, a.extra.IsMapping) (hbs : ∀ b ∈ bs, b.extra.IsMapping) :
    rearrange byKey (.list (as.map ofArtifact)) = rearrange byKey (.list (bs.map ofArtifact)) ↔
      (as == bs) = true := by
  rw [← forall₂_beq_iff]
  exact rearrange_list_eq_iff fun a ha b hb => canonical_ofArtifact_eq_iff (has a ha) (hbs b hb)

theorem visibility_name_injective : Function.Injective Visibility.name := by
  intro v w h
  cases v <;> cases w <;> first | rfl | exact absurd h (by decide)

theorem canonical_description_eq_iff {s t : String} :
    (if s == "" then none else some (Value.string s)).map (rearrange byKey) =
      (if t == "" then none else some (Value.string t)).map (rearrange byKey) ↔ s = t := by
  refine map_unless_eq_iff Value.string (· == "") ?_ ?_ ?_
  · intro hs ht
    rw [beq_iff_eq.mp hs, beq_iff_eq.mp ht]
  · intro h
    rw [h]
  · rw [rearrange_string, rearrange_string, string_injective.eq_iff]

theorem canonical_parents_eq_iff {as bs : List String} :
    (if as.isEmpty then none else some (Value.list (as.map .string))).map (rearrange byKey) =
      (if bs.isEmpty then none else some (Value.list (bs.map .string))).map (rearrange byKey) ↔
        as = bs := by
  refine map_unless_eq_iff (fun names => Value.list (names.map .string)) List.isEmpty ?_ ?_ ?_
  · intro has hbs
    rw [List.isEmpty_iff.mp has, List.isEmpty_iff.mp hbs]
  · intro h
    rw [h]
  · rw [rearrange_strings, rearrange_strings, Value.list.injEq, map_strings_eq_iff]

theorem canonical_ofConfiguration_eq_iff {c c' : Configuration String Bool}
    {as bs : List (Artifact String)} (has : ∀ a ∈ as, a.extra.IsMapping)
    (hbs : ∀ b ∈ bs, b.extra.IsMapping) :
    rearrange byKey (ofConfiguration c as) = rearrange byKey (ofConfiguration c' bs) ↔
      (as == bs) = true ∧ c = c' := by
  rw [ofConfiguration_eq, ofConfiguration_eq, rearrange_members_eq_iff byKey_perm
    (configurationParts c as) (configurationParts c' bs) (by simp [configurationParts]) rfl]
  obtain ⟨name, visibility, description, parents, transitive, deprecated⟩ := c
  obtain ⟨name', visibility', description', parents', transitive', deprecated'⟩ := c'
  simp only [configurationParts, List.map_cons, List.map_nil, List.cons.injEq, Option.map_some,
    Option.some.injEq, rearrange_string, rearrange_bool, Value.string.injEq, Value.bool.injEq,
    map_rearrange_string, map_string_eq_iff, visibility_name_injective.eq_iff,
    canonical_description_eq_iff, canonical_parents_eq_iff, canonical_artifacts_eq_iff has hbs,
    Configuration.mk.injEq]
  tauto

theorem canonical_ofDependency_eq_iff {d e : Dependency String Bool} :
    rearrange byKey (ofDependency d) = rearrange byKey (ofDependency e) ↔
      d.content = e.content := by
  rw [ofDependency_eq, ofDependency_eq, rearrange_members_eq_iff byKey_perm (dependencyParts d)
    (dependencyParts e) (by simp [dependencyParts]) rfl]
  simp [dependencyParts, rearrange_bool, canonical_ofRevision_eq_iff, canonical_ofPairs_eq_iff,
    Dependency.content]

theorem canonical_ofRule_eq_iff {r s : ExcludeRule String} :
    rearrange byKey (ofRule r) = rearrange byKey (ofRule s) ↔ r = s := by
  rw [ofRule_eq, ofRule_eq, rearrange_members_eq_iff byKey_perm (ruleParts r) (ruleParts s)
    (by simp [ruleParts]) rfl]
  obtain ⟨⟨⟨organisation, module⟩, name, type, ext⟩, matcher, configurations⟩ := r
  obtain ⟨⟨⟨organisation', module'⟩, name', type', ext'⟩, matcher', configurations'⟩ := s
  simp [ruleParts, rearrange_string, rearrange_strings, map_strings_eq_iff, and_assoc]

/-! ### Descriptors -/

theorem canonical_configurations_eq_iff {d e : ModuleDescriptor}
    (hd : ∀ name, ∀ a ∈ d.artifactsOf name, a.extra.IsMapping)
    (he : ∀ name, ∀ a ∈ e.artifactsOf name, a.extra.IsMapping) :
    rearrange byKey
        (.list (d.configurations.map fun c => ofConfiguration c (d.artifactsOf c.name))) =
      rearrange byKey
        (.list (e.configurations.map fun c => ofConfiguration c (e.artifactsOf c.name))) ↔
      (∀ name ∈ d.configurationNames, (d.artifactsOf name == e.artifactsOf name) = true) ∧
        d.configurations = e.configurations := by
  have hnames : (∀ name ∈ d.configurationNames,
      (d.artifactsOf name == e.artifactsOf name) = true) ↔
        ∀ c ∈ d.configurations, (d.artifactsOf c.name == e.artifactsOf c.name) = true :=
    List.forall_mem_map
  have hpart : ∀ c c' : Configuration String Bool,
      rearrange byKey (ofConfiguration c (d.artifactsOf c.name)) =
        rearrange byKey (ofConfiguration c' (e.artifactsOf c'.name)) ↔
          (d.artifactsOf c.name == e.artifactsOf c.name) = true ∧ c = c' := by
    -- The configurations are equal, so the artifacts compared are those under one name.
    intro c c'
    rw [canonical_ofConfiguration_eq_iff (hd c.name) (he c'.name)]
    refine and_congr_left fun h => ?_
    rw [h]
  rw [rearrange_list_eq_iff fun c _ c' _ => hpart c c', List.forall₂_and_left,
    List.forall₂_eq_eq_eq, hnames]

theorem canonical_dependencies_eq_iff {ds es : List (Dependency String Bool)} :
    rearrange byKey (.list (ds.map ofDependency)) = rearrange byKey (.list (es.map ofDependency)) ↔
      ds.map Dependency.content = es.map Dependency.content := by
  rw [rearrange_list_eq_iff fun d _ e _ => canonical_ofDependency_eq_iff,
    map_eq_map_iff fun d _ e _ => Iff.rfl]

theorem canonical_rules_eq_iff {rs ss : List (ExcludeRule String)} :
    rearrange byKey (.list (rs.map ofRule)) = rearrange byKey (.list (ss.map ofRule)) ↔
      rs = ss := by
  rw [rearrange_list_eq_iff fun r _ s _ => canonical_ofRule_eq_iff, List.forall₂_eq_eq_eq]

/-- Snapshots have one canonical form exactly if the descriptors agree. -/
theorem canonical_toValue_eq_iff {d e : ModuleDescriptor} (hd : IsProper (undated d))
    (he : IsProper (undated e)) :
    rearrange byKey (toValue d) = rearrange byKey (toValue e) ↔ Agrees d e := by
  have hnamespaces : rearrange byKey (ofAssoc d.namespaces) =
      rearrange byKey (ofAssoc e.namespaces) ↔ d.namespaces.same e.namespaces = true :=
    canonical_ofAssoc_eq_iff hd.namespaces he.namespaces
  have hconfigurations := canonical_configurations_eq_iff (d := d) (e := e) hd.attributesOf
    he.attributesOf
  have hdate : ∀ date : Option Moment, date.map (fun m => Value.string m.render) =
      (date.map Moment.render).map .string := by
    intro date
    rw [Option.map_map]
    rfl
  rw [toValue_eq, toValue_eq, rearrange_members_eq_iff byKey_perm (descriptorParts d)
    (descriptorParts e) (by simp [descriptorParts]) rfl]
  simp only [descriptorParts, List.map_cons, List.map_nil, List.cons.injEq, Option.map_some,
    Option.some.injEq, rearrange_string, Value.string.injEq, hdate, map_rearrange_string,
    map_string_eq_iff, canonical_ofRevision_eq_iff, canonical_ofPairs_eq_iff, hnamespaces,
    hconfigurations, canonical_dependencies_eq_iff, canonical_rules_eq_iff,
    true_and, and_true]
  constructor
  · rintro ⟨hrevision, hstatus, hdescription, hinfos, hsame, ⟨hartifacts, hregistered⟩, hedges,
      hrules, hhome, hpublished⟩
    exact ⟨hrevision, hstatus, hdescription, hhome, hpublished, hinfos, hsame, hregistered,
      hartifacts, hedges, hrules⟩
  · intro h
    exact ⟨h.revision, h.status, h.description, h.extraInfos, h.namespaces,
      ⟨h.artifactsOf, h.configurations⟩, h.edges, h.excludeRules, h.homePage, h.publicationDate⟩

/-! ### Texts -/

section Order

variable {order : List (String × String) → List (String × String)}
  (horder : ∀ es, (order es).Perm es) {d : ModuleDescriptor} (h : IsProper (undated d))
include horder h

theorem isProper_reordered : IsProper (undated (d.reordered order)) := by
  refine { h with namespaces := h.namespaces.perm (horder _), attributes := ?_ }
  intro e he a ha
  obtain ⟨f, hf, rfl⟩ := List.mem_map.mp he
  obtain ⟨b, hb, rfl⟩ := List.mem_map.mp ha
  exact (h.attributes f hf b hb).perm (horder _)

theorem agrees_reordered : Agrees (d.reordered order) d where
  revision := rfl
  status := rfl
  description := rfl
  homePage := rfl
  publicationDate := rfl
  extraInfos := rfl
  namespaces := h.namespaces.same_of_perm (horder _)
  configurations := rfl
  artifactsOf name _ := by
    rw [Descriptor.artifactsOf_reordered, ← forall₂_beq_iff, List.forall₂_map_left_iff,
      List.forall₂_same]
    intro a ha
    exact Artifact.beq_iff.mpr ⟨rfl, rfl, rfl, rfl, rfl,
      (h.attributesOf name a ha).same_of_perm (horder _)⟩
  edges := rfl
  excludeRules := rfl

end Order

theorem toJson_eq_toJson_iff {d e : ModuleDescriptor} (hd : IsProper (undated d))
    (he : IsProper (undated e)) (indent : Nat) :
    toJson indent d = toJson indent e ↔ Agrees d e :=
  (write_eq_write_iff (plain_toValue hd) (plain_toValue he) indent).trans
    (canonical_toValue_eq_iff hd he)

/-- Descriptors have texts, which are the same exactly if the descriptors agree, and the order of
namespaces and attributes makes no difference to a text. -/
theorem texts_eq_iff_agrees {d e : ModuleDescriptor} (hd : d.IsMade) (he : e.IsMade)
    (indent : Nat) :
    ∃ s t, toJson? indent d = some s ∧ toJson? indent e = some t ∧ (s = t ↔ Agrees d e) ∧
      ∀ order, (∀ es, (order es).Perm es) → toJson? indent (d.reordered order) = some s := by
  have hdproper := isProper_undated hd
  have heproper := isProper_undated he
  refine ⟨toJson indent d, toJson indent e, toJson?_eq_some hdproper indent,
    toJson?_eq_some heproper indent, toJson_eq_toJson_iff hdproper heproper indent, ?_⟩
  intro order horder
  have hproper := isProper_reordered horder hdproper
  rw [toJson?_eq_some hproper, (toJson_eq_toJson_iff hproper hdproper indent).mpr
    (agrees_reordered horder hdproper)]

/-- A descriptor with namespaces, and with attributes of its artifact, in the given orders. -/
def mappedEdits (namespaces attributes : List (String × String)) : List (Edit String Bool) :=
  namespaces.map (fun n => .addNamespace n.1 n.2) ++
    [.addConfiguration (.named "default"),
      .addArtifact "default" { archive "jar" with extra := ⟨attributes⟩ }]

theorem texts_eq_iff_agrees_reversed : ∃ d e : ModuleDescriptor, d.IsMade ∧ e.IsMade ∧
    d.namespaces ≠ e.namespaces ∧ d.artifacts ≠ e.artifacts ∧
      ∃ text, toJson? 2 d = some text ∧ toJson? 2 e = some text := by
  have hmade : ∀ namespaces attributes, (Assoc.mk attributes).IsMapping →
      ((Descriptor.fresh ⟨"org", "app", none, some "1"⟩ "release" none).edits
        (mappedEdits namespaces attributes)).IsMade := by
    intro namespaces attributes h
    refine (Descriptor.IsOrigin.fresh _ _ none).isMade_edits fun e he => ?_
    rcases List.mem_append.mp he with he | he
    · obtain ⟨n, -, rfl⟩ := List.mem_map.mp he
      trivial
    · rcases List.mem_pair.mp he with rfl | rfl
      · trivial
      · exact h
  have hd := hmade [("m", "http://m.org"), ("e", "http://e.org")] [("os", "linux"), ("cpu", "arm")]
    (by simp [Assoc.IsMapping, Assoc.keys])
  have he := hmade [("e", "http://e.org"), ("m", "http://m.org")] [("cpu", "arm"), ("os", "linux")]
    (by simp [Assoc.IsMapping, Assoc.keys])
  obtain ⟨s, t, hs, ht, hiff, -⟩ := texts_eq_iff_agrees hd he 2
  have hagrees : s = t := hiff.mpr ⟨rfl, rfl, rfl, rfl, rfl, rfl, rfl, rfl, by decide, rfl, rfl⟩
  exact ⟨_, _, hd, he, by decide, by decide, s, hs, hagrees ▸ ht⟩

/-- A character and its two halves, each for itself, have one text. -/
theorem texts_eq_of_torn :
    (described (.torn tornFace)).description ≠ (described (.string "😀")).description ∧
      ∃ text, toJson? 2 (described (.torn tornFace)) = some text ∧
        toJson? 2 (described (.string "😀")) = some text := by
  have hsame : toJson? 2 (described (.torn tornFace)) = toJson? 2 (described (.string "😀")) :=
    toJson?_eq_of_joinHalves joinHalves_toValue_described 2
  rw [hsame]
  exact ⟨nofun, _, rfl, rfl⟩

end Snapshot

end OsgiIvy
