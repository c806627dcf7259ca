import OsgiIvy.Proofs.Module.Told

/-!
# Snapshots read back

A snapshot tells the descriptor it was written from (`tells_toValue`), whatever order the members
of its mappings have been put in: what is missing in it was missing or empty in the descriptor, and
the default that is read for it is just that.  Its entries fit together, so that reading gives the
stored form of the descriptor.
-/

namespace OsgiIvy

open OsgiIvy.Time (Moment)
open Value

/-! ### Fields -/

namespace Value

theorem need_of_field? {v w : Value} {key : String} (h : v.field? key = .ok (some w)) :
    v.need key = .ok w := by
  cases v with
  | mapping es =>
    rw [field?, Except.ok.injEq] at h
    rw [need, h]
  | _ => exact absurd h nofun

theorem fieldD_of_some {v w : Value} {key : String} (h : v.field? key = .ok (some w))
    (default : Value) : v.fieldD key default = .ok w := by
  rw [fieldD, h]
  rfl

theorem fieldD_of_none {v : Value} {key : String} (h : v.field? key = .ok none)
    (default : Value) : v.fieldD key default = .ok default := by
  rw [fieldD, h]
  rfl

end Value

namespace Snapshot

theorem optionalField_of_field? {v : Value} {o : Option String} {key : String}
    (h : v.field? key = .ok (o.map .string)) : optionalField v key = .ok (o.map .string) := by
  rw [optionalField, h]
  cases o <;> rfl

/-! ### Members -/

/-- Members of which some may be missing. -/
def members (parts : List (String × Option Value)) : List (String × Value) :=
  parts.flatMap fun p => member? p.1 p.2

theorem keys_members_sublist (parts : List (String × Option Value)) :
    ((members parts).map Prod.fst).Sublist (parts.map Prod.fst) := by
  induction parts with
  | nil => exact List.Sublist.refl []
  | cons p parts ih =>
    obtain ⟨key, v⟩ := p
    cases v with
    | none => exact ih.cons key
    | some v => exact ih.cons_cons key

theorem lookup_members {parts : List (String × Option Value)} (h : (parts.map Prod.fst).Nodup)
    (key : String) : (members parts).lookup key = (parts.lookup key).join := by
  induction parts with
  | nil => rfl
  | cons p parts ih =>
    obtain ⟨other, v⟩ := p
    obtain ⟨hnew, hrest⟩ := List.nodup_cons.mp h
    have hparts : members ((other, v) :: parts) = member? other v ++ members parts := rfl
    rw [hparts, List.lookup_append, List.lookup_cons, ih hrest]
    by_cases hkey : key = other
    · subst hkey
      have hnone : parts.lookup key = none := Assoc.lookup_of_not_mem hnew
      cases v <;> simp [member?, hnone]
    · have hbeq : (key == other) = false := by simpa using hkey
      cases v <;> simp [member?, List.lookup_cons, hbeq]

variable {order : List (Value × Value) → List (Value × Value)} (horder : ∀ es, (order es).Perm es)
include horder

theorem field?_members {parts : List (String × Option Value)} (h : (parts.map Prod.fst).Nodup)
    (key : String) : (rearrange order (.object (members parts))).field? key =
      .ok ((parts.lookup key).join.map (rearrange order)) := by
  rw [field?_rearrange_object horder ((keys_members_sublist parts).nodup h), lookup_members h]

/-! ### Revisions and artifacts -/

omit horder

def revisionParts (r : RevisionId String) : List (String × Option Value) :=
  [("organisation", some (.string r.organisation)), ("name", some (.string r.name)),
    ("branch", r.branch.map .string), ("revision", r.revision.map .string)]

theorem ofRevision_eq (r : RevisionId String) :
    ofRevision r = .object (members (revisionParts r)) := by
  simp [ofRevision, revisionParts, members, member?, Field.toValue]

include horder in
theorem tellsRevision_ofRevision (r : RevisionId String) :
    TellsRevision (rearrange order (ofRevision r)) r := by
  have hfield := field?_members horder (show ((revisionParts r).map Prod.fst).Nodup by
    simp [revisionParts])
  rw [ofRevision_eq]
  generalize rearrange order (.object (members (revisionParts r))) = v at hfield
  simp only [revisionParts, List.lookup_cons] at hfield
  exact {
    organisation := need_of_field? (by simp [hfield, rearrange_string])
    name := need_of_field? (by simp [hfield, rearrange_string])
    branch := optionalField_of_field? (by simp [hfield, rearrange_string, Function.comp_def])
    revision := optionalField_of_field? (by simp [hfield, rearrange_string, Function.comp_def]) }

def artifactParts (a : Artifact String) : List (String × Option Value) :=
  [("module", some (ofRevision a.revision)), ("name", some (Field.optionValue a.name)),
    ("type", some (Field.optionValue a.type)), ("ext", some (Field.optionValue a.ext)),
    ("url", a.url.map .string),
    ("extra_attributes", if a.extra.isEmpty then none else some (ofAssoc a.extra))]

theorem ofArtifact_eq (a : Artifact String) :
    ofArtifact a = .object (members (artifactParts a)) := by
  simp [ofArtifact, artifactParts, members, member?, Field.toValue]

/-- A missing field that is stored as null is read as missing. -/
theorem optionalField_of_null {v : Value} {o : Option String} {key : String}
    (h : v.field? key = .ok (some (Field.optionValue o))) :
    optionalField v key = .ok (o.map .string) := by
  rw [optionalField, h]
  cases o <;> rfl

theorem rearrange_optionValue (o : Option String) :
    rearrange order (Field.optionValue o) = Field.optionValue o := by
  cases o <;> simp [Field.optionValue, Field.toValue, rearrange]

theorem rearrange_ofAssoc (m : Assoc String String) :
    rearrange order (ofAssoc m) = .mapping (m.stored order).entries := by
  rw [ofAssoc, rearrange_mapping, List.map_map]
  refine congrArg (fun es => Value.mapping (order es)) (List.map_congr_left fun e _ => ?_)
  exact congrArg (Value.string e.1, ·) (rearrange_string order e.2)

include horder in
theorem tellsArtifact_ofArtifact {a : Artifact String} (h : a.extra.IsMapping) :
    TellsArtifact order (rearrange order (ofArtifact a)) a := by
  have hfield := field?_members horder (show ((artifactParts a).map Prod.fst).Nodup by
    simp [artifactParts])
  rw [ofArtifact_eq]
  generalize rearrange order (.object (members (artifactParts a))) = v at hfield
  simp only [artifactParts, List.lookup_cons] at hfield
  have hextra : v.fieldD "extra_attributes" (.mapping []) =
      .ok (.mapping (a.extra.stored order).entries) := by
    by_cases hempty : a.extra.isEmpty = true
    · have hnone : v.field? "extra_attributes" = .ok none := by simp [hfield, hempty]
      have hentries : a.extra.entries = [] := List.isEmpty_iff.mp hempty
      have hnil : order [] = [] := (horder []).eq_nil
      rw [fieldD_of_none hnone, Assoc.stored, hentries, List.map_nil, hnil]
    · have hsome : v.field? "extra_attributes" =
          .ok (some (rearrange order (ofAssoc a.extra))) := by simp [hfield, hempty]
      rw [fieldD_of_some hsome, rearrange_ofAssoc]
  exact {
    module := ⟨_, need_of_field? (by simp [hfield]), tellsRevision_ofRevision horder a.revision⟩
    name := optionalField_of_null (by simp [hfield, rearrange_optionValue])
    type := optionalField_of_null (by simp [hfield, rearrange_optionValue])
    ext := optionalField_of_null (by simp [hfield, rearrange_optionValue])
    url := optionalField_of_field? (by simp [hfield, rearrange_string, Function.comp_def])
    extra := ⟨hextra, h⟩ }

/-! ### Configurations -/

def configurationParts (c : Configuration String Bool) (artifacts : List (Artifact String)) :
    List (String × Option Value) :=
  [("name", some (.string c.name)), ("visibility", some (.string c.visibility.name)),
    ("transitive", some (.bool c.transitive)),
    ("description", if c.description == "" then none else some (.string c.description)),
    ("extends", if c.parents.isEmpty then none else some (.list (c.parents.map .string))),
    ("deprecated", c.deprecated.map .string),
    ("artifacts", some (.list (artifacts.map ofArtifact)))]

theorem ofConfiguration_eq (c : Configuration String Bool) (artifacts : List (Artifact String)) :
    ofConfiguration c artifacts = .object (members (configurationParts c artifacts)) := by
  simp [ofConfiguration, configurationParts, members, member?, Field.toValue, Flag.toValue,
    Field.isEmpty]

theorem rearrange_strings (names : List String) :
    rearrange order (.list (names.map .string)) = .list (names.map .string) := by
  rw [rearrange_list, List.map_map]
  exact congrArg Value.list (List.map_congr_left fun s _ => rearrange_string order s)

theorem forall₂_map {α : Type} {tells : Value → α → Prop} {f : α → Value} {as : List α}
    (h : ∀ a ∈ as, tells (f a) a) : List.Forall₂ tells (as.map f) as := by
  rw [List.forall₂_map_left_iff]
  exact List.forall₂_same.mpr h

include horder in
theorem tellsRegistration_ofConfiguration {e : Registration}
    (h : ∀ a ∈ e.artifacts, a.extra.IsMapping) :
    TellsRegistration order (rearrange order (ofConfiguration e.configuration e.artifacts)) e := by
  obtain ⟨c, artifacts⟩ := e
  have hfield := field?_members horder
    (show ((configurationParts c artifacts).map Prod.fst).Nodup by simp [configurationParts])
  rw [ofConfiguration_eq]
  generalize rearrange order (.object (members (configurationParts c artifacts))) = v at hfield
  simp only [configurationParts, List.lookup_cons] at hfield
  have hdescription : v.fieldD "description" (.string "") = .ok (.string c.description) := by
    by_cases hempty : c.description = ""
    · rw [hempty]
      exact fieldD_of_none (by simp [hfield, hempty]) _
    · exact fieldD_of_some (by simp [hfield, hempty, rearrange_string]) _
  have hparents : v.fieldD "extends" (.list []) = .ok (.list (c.parents.map .string)) := by
    by_cases hempty : c.parents = []
    · rw [hempty]
      exact fieldD_of_none (by simp [hfield, hempty]) _
    · exact fieldD_of_some (by simp [hfield, hempty, rearrange_strings]) _
  have hartifacts : v.fieldD "artifacts" (.list []) =
      .ok (.list (artifacts.map fun a => rearrange order (ofArtifact a))) :=
    fieldD_of_some (by simp [hfield, rearrange_list, Function.comp_def]) _
  refine ⟨?_, _, hartifacts, forall₂_map fun a ha => tellsArtifact_ofArtifact horder (h a ha)⟩
  exact {
    name := need_of_field? (by simp [hfield, rearrange_string])
    visibility := fieldD_of_some (by simp [hfield, rearrange_string]) _
    description := hdescription
    parents := hparents
    transitive := fieldD_of_some (by simp [hfield, rearrange_bool]) _
    deprecated := optionalField_of_field?
      (by simp [hfield, rearrange_string, Function.comp_def]) }

/-- A configuration of a new name, with nothing bound to it yet. -/
theorem register_of_new {d : ModuleDescriptor} {e : Registration}
    (hname : e.configuration.name ∉ d.configurationNames)
    (hkey : e.configuration.name ∉ d.artifacts.keys) :
    register d e = .ok { d with
      configurations := d.configurations ++ [e.configuration]
      artifacts :=
        ⟨d.artifacts.entries ++ Descriptor.binding e.configuration.name e.artifacts⟩ } := by
  have hfree : d.configuration? e.configuration.name = none := by
    refine List.find?_eq_none.mpr fun c hc => ?_
    rw [beq_iff_eq]
    exact fun heq => hname (heq ▸ List.mem_map_of_mem hc)
  rw [register, Descriptor.addConfiguration, hfree, map_ok]
  exact congrArg Except.ok (Descriptor.addAll_of_new
    (d := { d with configurations := d.configurations ++ [e.configuration] }) hkey e.artifacts)

/-- The entries that are written for configurations of a descriptor. -/
def entriesOf (d : ModuleDescriptor) (cs : List (Configuration String Bool)) : List Registration :=
  cs.map fun c => ⟨c, d.artifactsOf c.name⟩

/-- Configurations are registered one after the other, each with the artifacts it has in the
descriptor that was written. -/
theorem foldlM_register_entriesOf (source : ModuleDescriptor) {d : ModuleDescriptor}
    {cs : List (Configuration String Bool)}
    (hnames : (d.configurationNames ++ cs.map Configuration.name).Nodup)
    (hkeys : (d.artifacts.keys ++ cs.map Configuration.name).Nodup) :
    (entriesOf source cs).foldlM register d = .ok { d with
      configurations := d.configurations ++ cs
      artifacts := ⟨d.artifacts.entries ++ source.bindings (cs.map Configuration.name)⟩ } := by
  -- What is left to register is new to what has been registered and bound so far.
  induction cs generalizing d with
  | nil => simp [entriesOf, Descriptor.bindings, pure_eq_ok]
  | cons c cs ih =>
    have hname : c.name ∉ d.configurationNames := not_mem_of_nodup_append hnames
    have hkey : c.name ∉ d.artifacts.keys := not_mem_of_nodup_append hkeys
    have hrest : ((d.configurations ++ [c]).map Configuration.name ++
        cs.map Configuration.name).Nodup := by
      simpa [Descriptor.configurationNames] using hnames
    have hbindings : source.bindings ((c :: cs).map Configuration.name) =
        Descriptor.binding c.name (source.artifactsOf c.name) ++
          source.bindings (cs.map Configuration.name) := List.flatMap_cons
    have hentries : entriesOf source (c :: cs) =
        ⟨c, source.artifactsOf c.name⟩ :: entriesOf source cs := rfl
    rw [hentries, List.foldlM_cons, register_of_new hname hkey, ok_bind, hbindings,
      ← List.append_assoc, List.append_cons d.configurations c cs]
    exact ih (d := { d with
      configurations := d.configurations ++ [c]
      artifacts := ⟨d.artifacts.entries ++ Descriptor.binding c.name (source.artifactsOf c.name)⟩ })
      hrest (Descriptor.nodup_keys_binding hkeys _)

/-! ### Edges -/

def dependencyParts (d : Dependency String Bool) : List (String × Option Value) :=
  [("module", some (ofRevision d.revision)), ("force", some (.bool d.force)),
    ("changing", some (.bool d.changing)), ("transitive", some (.bool d.transitive)),
    ("confs", some (ofPairs d.mappings))]

theorem ofDependency_eq (d : Dependency String Bool) :
    ofDependency d = .object (members (dependencyParts d)) := by
  simp [ofDependency, dependencyParts, members, member?, Flag.toValue]

theorem rearrange_ofPairs (ps : List (String × String)) :
    rearrange order (ofPairs ps) = ofPairs ps := by
  simp [ofPairs, rearrange_list, rearrange_string, Field.toValue, Function.comp_def]

include horder in
theorem tellsDependency_ofDependency {d : Dependency String Bool} (h : d.HasDistinctRoutes) :
    TellsDependency (rearrange order (ofDependency d)) d := by
  have hfield := field?_members horder (show ((dependencyParts d).map Prod.fst).Nodup by
    simp [dependencyParts])
  rw [ofDependency_eq]
  generalize rearrange order (.object (members (dependencyParts d))) = v at hfield
  simp only [dependencyParts, List.lookup_cons] at hfield
  have hroutes : v.fieldD "confs" (.list []) = .ok (ofPairs d.mappings) :=
    fieldD_of_some (by simp [hfield, rearrange_ofPairs]) _
  have hsame : ({ d with routes := {} } : Dependency String Bool).addRoutes d.mappings = d := by
    rw [Dependency.addRoutes_eq, h.routes_addRoutes_mappings rfl]
  exact {
    module := ⟨_, need_of_field? (by simp [hfield]), tellsRevision_ofRevision horder d.revision⟩
    force := fieldD_of_some (by simp [hfield, rearrange_bool]) _
    changing := fieldD_of_some (by simp [hfield, rearrange_bool]) _
    transitive := fieldD_of_some (by simp [hfield, rearrange_bool]) _
    routes := ⟨d.mappings, hroutes, hsame⟩ }

/-! ### Exclude rules -/

def ruleParts (r : ExcludeRule String) : List (String × Option Value) :=
  [("organisation", some (.string r.artifact.module.organisation)),
    ("module", some (.string r.artifact.module.name)), ("artifact", some (.string r.artifact.name)),
    ("type", some (.string r.artifact.type)), ("ext", some (.string r.artifact.ext)),
    ("matcher", some (.string r.matcher)),
    ("confs", some (.list (r.configurations.map .string)))]

theorem ofRule_eq (r : ExcludeRule String) : ofRule r = .object (members (ruleParts r)) := by
  simp [ofRule, ruleParts, members, member?, Field.toValue]

include horder in
theorem tellsRule_ofRule (r : ExcludeRule String) :
    TellsRule (rearrange order (ofRule r)) r := by
  have hfield := field?_members horder (show ((ruleParts r).map Prod.fst).Nodup by
    simp [ruleParts])
  rw [ofRule_eq]
  generalize rearrange order (.object (members (ruleParts r))) = v at hfield
  simp only [ruleParts, List.lookup_cons] at hfield
  exact {
    organisation := need_of_field? (by simp [hfield, rearrange_string])
    module := need_of_field? (by simp [hfield, rearrange_string])
    artifact := fieldD_of_some (by simp [hfield, rearrange_string]) _
    type := fieldD_of_some (by simp [hfield, rearrange_string]) _
    ext := fieldD_of_some (by simp [hfield, rearrange_string]) _
    matcher := fieldD_of_some (by simp [hfield, rearrange_string]) _
    configurations := fieldD_of_some (by simp [hfield, rearrange_strings]) _ }

/-! ### Descriptors -/

def descriptorParts (d : ModuleDescriptor) : List (String × Option Value) :=
  [("format_version", some (.string formatVersion)), ("generated_by", some (.string generator)),
    ("module", some (ofRevision d.revision)), ("status", some (.string d.status)),
    ("description", some (.string d.description)), ("extra_info", some (ofPairs d.extraInfos)),
    ("namespaces", some (ofAssoc d.namespaces)),
    ("configurations",
      some (.list (d.configurations.map fun c => ofConfiguration c (d.artifactsOf c.name)))),
    ("dependencies", some (.list (d.dependencies.map ofDependency))),
    ("excludes", some (.list (d.excludeRules.map ofRule))),
    ("home_page", d.homePage.map .string),
    ("publication_date", d.publicationDate.map fun m => .string m.render)]

theorem toValue_eq (d : ModuleDescriptor) : toValue d = .object (members (descriptorParts d)) := by
  simp [toValue, descriptorParts, members, member?, Field.toValue]

theorem readDate_render {m : Moment} (h : Moment.read? m.render = some m) :
    readDate (.string m.render) = .ok (some m) := by
  have hrender : m.render ≠ "" := by
    intro hempty
    rw [hempty] at h
    exact absurd h nofun
  have htruthy : (Value.string m.render).isTruthy = true := by simpa [isTruthy] using hrender
  have htext : (Value.string m.render).text = m.render := rfl
  rw [readDate, htruthy, isText_string, htext, h]
  rfl

/-- A descriptor that has each configuration and route once and each key of its mappings once, and
whose date is read from its written form. -/
structure IsProper (d : ModuleDescriptor) : Prop where
  configurations : d.configurationNames.Nodup
  namespaces : d.namespaces.IsMapping
  attributes : ∀ e ∈ d.artifacts.entries, ∀ a ∈ e.2, a.extra.IsMapping
  routes : ∀ e ∈ d.dependencies, e.HasDistinctRoutes
  date : ∀ m, d.publicationDate = some m → Moment.read? m.render = some m

/-- Everything but the date. -/
def undated (d : ModuleDescriptor) : ModuleDescriptor := { d with publicationDate := none }

theorem IsProper.undated {d : ModuleDescriptor} (h : IsProper d) : IsProper (undated d) :=
  { h with date := nofun }

/-- What a snapshot keeps: the artifacts of the configurations of a descriptor, in their order, and
everything else. -/
def kept (d : ModuleDescriptor) : ModuleDescriptor :=
  { d with artifacts := ⟨d.bindings d.configurationNames⟩ }

theorem IsProper.attributesOf {d : ModuleDescriptor} (h : IsProper d) (name : String) :
    ∀ a ∈ d.artifactsOf name, a.extra.IsMapping := by
  intro a ha
  obtain ⟨e, he, hae⟩ := Descriptor.exists_mem_entries_of_mem_artifactsOf ha
  exact h.attributes e he a hae

include horder in
/-- A snapshot tells what it was written from. -/
theorem tells_toValue {d : ModuleDescriptor} (h : IsProper d) :
    Tells order (rearrange order (toValue d)) d (entriesOf d d.configurations) := by
  have hfield := field?_members horder (show ((descriptorParts d).map Prod.fst).Nodup by
    simp [descriptorParts])
  rw [toValue_eq]
  generalize rearrange order (.object (members (descriptorParts d))) = v at hfield
  simp only [descriptorParts, List.lookup_cons] at hfield
  have hdate : ∃ w, v.fieldD "publication_date" .null = .ok w ∧
      readDate w = .ok d.publicationDate := by
    cases hd : d.publicationDate with
    | none => exact ⟨.null, fieldD_of_none (by simp [hfield, hd]) _, rfl⟩
    | some m =>
      exact ⟨.string m.render, fieldD_of_some (by simp [hfield, hd, rearrange_string]) _,
        readDate_render (h.date m hd)⟩
  have hconfigurations : v.fieldD "configurations" (.list []) =
      .ok (.list ((entriesOf d d.configurations).map fun e =>
        rearrange order (ofConfiguration e.configuration e.artifacts))) :=
    fieldD_of_some (by simp [hfield, entriesOf, rearrange_list, Function.comp_def]) _
  have hentries : ∀ e ∈ entriesOf d d.configurations, ∀ a ∈ e.artifacts, a.extra.IsMapping := by
    intro e he
    obtain ⟨c, -, rfl⟩ := List.mem_map.mp he
    exact h.attributesOf c.name
  have hdependencies : v.fieldD "dependencies" (.list []) =
      .ok (.list (d.dependencies.map fun e => rearrange order (ofDependency e))) :=
    fieldD_of_some (by simp [hfield, rearrange_list, Function.comp_def]) _
  have hrules : v.fieldD "excludes" (.list []) =
      .ok (.list (d.excludeRules.map fun r => rearrange order (ofRule r))) :=
    fieldD_of_some (by simp [hfield, rearrange_list, Function.comp_def]) _
  refine {
    front := ?_
    entries := ⟨_, hconfigurations,
      forall₂_map fun e he => tellsRegistration_ofConfiguration horder (hentries e he)⟩
    dependencies := ⟨_, hdependencies,
      forall₂_map fun e he => tellsDependency_ofDependency horder (h.routes e he)⟩
    excludeRules := ⟨_, hrules, forall₂_map fun r _ => tellsRule_ofRule horder r⟩ }
  exact {
    module := ⟨_, need_of_field? (by simp [hfield]), tellsRevision_ofRevision horder d.revision⟩
    status := fieldD_of_some (by simp [hfield, rearrange_string]) _
    date := hdate
    description := fieldD_of_some (by simp [hfield, rearrange_string]) _
    homePage := optionalField_of_field? (by simp [hfield, rearrange_string, Function.comp_def])
    namespaces := ⟨fieldD_of_some (by simp [hfield, rearrange_ofAssoc]) _, h.namespaces⟩
    extraInfos := fieldD_of_some (by simp [hfield, rearrange_ofPairs]) _ }

include horder in
/-- Reading undoes writing, whatever the order of members. -/
theorem ofValue_rearrange_toValue {d : ModuleDescriptor} (h : IsProper d) :
    ofValue (rearrange order (toValue d)) = .ok ((kept d).stored order) := by
  have hregistered := foldlM_register_entriesOf d (d := head d) h.configurations h.configurations
  rw [(tells_toValue horder h).read horder, hregistered]
  rfl

end Snapshot

end OsgiIvy
