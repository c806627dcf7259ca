import OsgiIvy.Proofs.Module.Bindings
import OsgiIvy.Proofs.Module.Routes
import OsgiIvy.Proofs.Module.Stored

/-!
# Well-typed snapshots

`Tells` says what a snapshot tells whose fields hold what they should: under each key stands what
the descriptor has there, or nothing if that is the default.  The entries for configurations are
told one by one, whether they fit together or not.  Reading such a snapshot fails only where an
entry clashes with one before it (`Tells.read`).
-/

namespace OsgiIvy.Snapshot

open Value

/-- What an entry is for: a configuration and the artifacts that are listed with it. -/
structure Registration where
  configuration : Configuration String Bool
  artifacts : List (Artifact String)
deriving DecidableEq, Repr

/-- Registers the configuration of an entry, and its artifacts in any case. -/
def register (d : ModuleDescriptor) (e : Registration) : Except (Clash String) ModuleDescriptor :=
  (d.addConfiguration e.configuration).map (·.addAll e.configuration.name e.artifacts)

/-! ### What is told -/

structure TellsRevision (v : Value) (r : RevisionId String) : Prop where
  organisation : v.need "organisation" = .ok (.string r.organisation)
  name : v.need "name" = .ok (.string r.name)
  branch : optionalField v "branch" = .ok (r.branch.map .string)
  revision : optionalField v "revision" = .ok (r.revision.map .string)

/-- A field that has to be there and tells a revision. -/
def TellsModule (v : Value) (r : RevisionId String) : Prop :=
  ∃ w, v.need "module" = .ok w ∧ TellsRevision w r

/-- A field that lists what is told, and lists nothing if it is missing. -/
def Lists {α : Type} (tells : Value → α → Prop) (v : Value) (key : String) (as : List α) : Prop :=
  ∃ items, v.fieldD key (.list []) = .ok (.list items) ∧ List.Forall₂ tells items as

structure TellsConfiguration (v : Value) (c : Configuration String Bool) : Prop where
  name : v.need "name" = .ok (.string c.name)
  visibility : v.fieldD "visibility" (.string "public") = .ok (.string c.visibility.name)
  description : v.fieldD "description" (.string "") = .ok (.string c.description)
  parents : v.fieldD "extends" (.list []) = .ok (.list (c.parents.map .string))
  transitive : v.fieldD "transitive" (.bool true) = .ok (.bool c.transitive)
  deprecated : optionalField v "deprecated" = .ok (c.deprecated.map .string)

structure TellsDependency (v : Value) (d : Dependency String Bool) : Prop where
  module : TellsModule v d.revision
  force : v.fieldD "force" (.bool false) = .ok (.bool d.force)
  changing : v.fieldD "changing" (.bool false) = .ok (.bool d.changing)
  transitive : v.fieldD "transitive" (.bool true) = .ok (.bool d.transitive)
  routes : ∃ routes : List (String × String), v.fieldD "confs" (.list []) = .ok (ofPairs routes) ∧
    ({ d with routes := {} } : Dependency String Bool).addRoutes routes = d

structure TellsRule (v : Value) (r : ExcludeRule String) : Prop where
  organisation : v.need "organisation" = .ok (.string r.artifact.module.organisation)
  module : v.need "module" = .ok (.string r.artifact.module.name)
  artifact : v.fieldD "artifact" (.string ArtifactId.any) = .ok (.string r.artifact.name)
  type : v.fieldD "type" (.string ArtifactId.any) = .ok (.string r.artifact.type)
  ext : v.fieldD "ext" (.string ArtifactId.any) = .ok (.string r.artifact.ext)
  matcher : v.fieldD "matcher" (.string ExcludeRule.defaultMatcher) = .ok (.string r.matcher)
  configurations : v.fieldD "confs" (.list []) = .ok (.list (r.configurations.map .string))

section Order

variable (order : List (Value × Value) → List (Value × Value))

/-- A field that holds a mapping of texts, in some order. -/
def TellsMapping (v : Value) (key : String) (m : Assoc String String) : Prop :=
  v.fieldD key (.mapping []) = .ok (.mapping (m.stored order).entries) ∧ m.IsMapping

structure TellsArtifact (v : Value) (a : Artifact String) : Prop where
  module : TellsModule v a.revision
  name : optionalField v "name" = .ok (a.name.map .string)
  type : optionalField v "type" = .ok (a.type.map .string)
  ext : optionalField v "ext" = .ok (a.ext.map .string)
  url : optionalField v "url" = .ok (a.url.map .string)
  extra : TellsMapping order v "extra_attributes" a.extra

structure TellsRegistration (v : Value) (e : Registration) : Prop where
  configuration : TellsConfiguration v e.configuration
  artifacts : Lists (TellsArtifact order) v "artifacts" e.artifacts

/-- What stands in front of the configurations.  The date is missing or can be read. -/
structure TellsHead (v : Value) (d : ModuleDescriptor) : Prop where
  module : TellsModule v d.revision
  status : v.fieldD "status" (.string Descriptor.defaultStatus) = .ok (.string d.status)
  date : ∃ w, v.fieldD "publication_date" .null = .ok w ∧ readDate w = .ok d.publicationDate
  description : v.fieldD "description" (.string "") = .ok (.string d.description)
  homePage : optionalField v "home_page" = .ok (d.homePage.map .string)
  namespaces : TellsMapping order v "namespaces" d.namespaces
  extraInfos : v.fieldD "extra_info" (.list []) = .ok (ofPairs d.extraInfos)

/-- The entries for configurations, and everything else as a descriptor has it. -/
structure Tells (v : Value) (d : ModuleDescriptor) (entries : List Registration) : Prop where
  front : TellsHead order v d
  entries : Lists (TellsRegistration order) v "configurations" entries
  dependencies : Lists TellsDependency v "dependencies" d.dependencies
  excludeRules : Lists TellsRule v "excludes" d.excludeRules

end Order

/-! ### Reading -/

theorem liftM_ok {α : Type} (a : α) :
    (liftM (.ok a : Except Value.Fault α) : Except Snapshot.Fault α) = .ok a := rfl

theorem TellsRevision.read {v : Value} {r : RevisionId String} (h : TellsRevision v r) :
    readRevision v = .ok r.stored := by
  rw [readRevision, h.organisation, h.name, h.branch, h.revision]
  rfl

theorem readVisibility_name (visibility : Visibility) :
    readVisibility (.string visibility.name) = .ok visibility := by
  cases visibility <;> rfl

theorem TellsConfiguration.read {v : Value} {c : Configuration String Bool}
    (h : TellsConfiguration v c) : readConfiguration v = .ok c.stored := by
  simp only [readConfiguration, h.name, h.visibility, h.description, h.parents, h.transitive,
    h.deprecated, readVisibility_name, elements, asKey, isScalar, if_true, ok_bind]
  rfl

theorem foldlM_addRoute (d : Dependency String Bool) (routes : List (String × String)) :
    (routes.map fun p => Value.list [.string p.1, .string p.2]).foldlM (fun d route => do
      let (master, target) ← route.pair
      pure (d.addRoute (← master.asKey) target)) d.stored =
      (.ok (d.addRoutes routes).stored : Except Value.Fault (Dependency Value Value)) := by
  induction routes generalizing d with
  | nil => rfl
  | cons r routes ih =>
    rw [List.map_cons, List.foldlM_cons]
    show List.foldlM _ (d.stored.addRoute (.string r.1) (.string r.2)) _ = _
    rw [Dependency.addRoute_stored, ih]
    rfl

theorem TellsDependency.read {v : Value} {d : Dependency String Bool} (h : TellsDependency v d) :
    readDependency v = .ok d.stored := by
  obtain ⟨w, hmodule, hrevision⟩ := h.module
  obtain ⟨routes, hroutes, hsame⟩ := h.routes
  -- The edge that is read has no routes at first and is then given those that are listed.
  have hreplayed := foldlM_addRoute { d with routes := {} } routes
  rw [hsame] at hreplayed
  simp only [readDependency, hmodule, hrevision.read, h.force, h.changing, h.transitive, hroutes,
    ofPairs, elements, ok_bind]
  exact hreplayed

theorem TellsRule.read {v : Value} {r : ExcludeRule String} (h : TellsRule v r) :
    readRule v = .ok r.stored := by
  simp only [readRule, h.organisation, h.module, h.artifact, h.type, h.ext, h.matcher,
    h.configurations, elements, ok_bind]
  rfl

theorem mapM_pair (ps : List (String × String)) :
    (ps.map fun p => Value.list [.string p.1, .string p.2]).mapM Value.pair =
      .ok (ps.map fun p => (.string p.1, .string p.2)) :=
  mapM_map_eq_ok fun _ _ => rfl

section Order

variable {order : List (Value × Value) → List (Value × Value)} (horder : ∀ es, (order es).Perm es)
  {v : Value}
include horder

theorem TellsArtifact.read {a : Artifact String} (h : TellsArtifact order v a) :
    readArtifact v = .ok (a.stored order) := by
  obtain ⟨w, hmodule, hrevision⟩ := h.module
  obtain ⟨hextra, hmapping⟩ := h.extra
  simp only [readArtifact, hmodule, hrevision.read, h.name, h.type, h.ext, h.url, hextra,
    readAttributes, Assoc.ofList_stored horder hmapping, ok_bind]
  rfl

theorem foldlM_readArtifact (d : ModuleDescriptor) (name : String) {items : List Value}
    {as : List (Artifact String)} (h : List.Forall₂ (TellsArtifact order) items as) :
    items.foldlM (fun d item => do
      let a ← readArtifact item
      pure (Descriptor.addArtifact d (.string name) a)) (d.stored order) =
      (.ok ((d.addAll name as).stored order) : Except Snapshot.Fault Unchecked) := by
  induction h generalizing d with
  | nil => rfl
  | @cons item a items as hitem _ ih =>
    rw [List.foldlM_cons, hitem.read horder]
    show List.foldlM _ ((d.stored order).addArtifact (.string name) (a.stored order)) _ = _
    rw [Descriptor.addArtifact_stored, ih]
    rfl

/-- One entry is read as it is told. -/
theorem TellsRegistration.read (d : ModuleDescriptor) {e : Registration}
    (h : TellsRegistration order v e) :
    readConfigurationEntry (d.stored order) v =
      ((register d e).map (Descriptor.stored order)).mapError (.clash ·.stored) := by
  obtain ⟨items, hitems, hartifacts⟩ := h.artifacts
  simp only [readConfigurationEntry, h.configuration.read, liftM_ok, ok_bind,
    Descriptor.addConfiguration_stored, register]
  cases hadded : d.addConfiguration e.configuration with
  | error clash => rfl
  | ok added =>
    have hbound := foldlM_readArtifact horder added e.configuration.name hartifacts
    simp only [map_ok, mapError_ok, ok_bind, hitems, elements, liftM_ok]
    exact hbound

/-- Entries are read one after the other, up to the first that clashes. -/
theorem foldlM_readConfigurationEntry (d : ModuleDescriptor) {items : List Value}
    {entries : List Registration} (h : List.Forall₂ (TellsRegistration order) items entries) :
    items.foldlM readConfigurationEntry (d.stored order) =
      ((entries.foldlM register d).map (Descriptor.stored order)).mapError (.clash ·.stored) := by
  induction h generalizing d with
  | nil => rfl
  | @cons item e items entries hitem _ ih =>
    rw [List.foldlM_cons, List.foldlM_cons, hitem.read horder]
    cases register d e with
    | error clash => rfl
    | ok next => exact ih next

/-- The part of a descriptor that stands in front of its configurations. -/
def head (d : ModuleDescriptor) : ModuleDescriptor :=
  { d with dependencies := [], excludeRules := [], configurations := [], artifacts := {} }

theorem TellsHead.read {d : ModuleDescriptor} (h : TellsHead order v d) :
    readHead v = .ok ((head d).stored order) := by
  obtain ⟨w, hmodule, hrevision⟩ := h.module
  obtain ⟨published, hpublished, hdate⟩ := h.date
  obtain ⟨hnamespaces, hmapping⟩ := h.namespaces
  have hpairs := mapM_pair d.extraInfos
  simp only [readHead, hpublished, hmodule, hrevision.read, h.status, hdate, h.description,
    h.homePage, hnamespaces, h.extraInfos, ofPairs, Field.toValue, entries, elements, hpairs,
    ok_bind, Assoc.ofList_stored horder hmapping]
  rfl

/-- The dependencies and exclude rules of another descriptor. -/
def withEdges (d source : ModuleDescriptor) : ModuleDescriptor :=
  { d with dependencies := source.dependencies, excludeRules := source.excludeRules }

/-- A snapshot is read as it is told, unless an entry clashes with one before it. -/
theorem Tells.read {d : ModuleDescriptor} {entries : List Registration}
    (h : Tells order v d entries) :
    ofValue v = ((entries.foldlM register (head d)).map
      fun read => (withEdges read d).stored order).mapError (.clash ·.stored) := by
  obtain ⟨items, hitems, hentries⟩ := h.entries
  obtain ⟨edges, hedges, hdependencies⟩ := h.dependencies
  obtain ⟨excluded, hexcluded, hrules⟩ := h.excludeRules
  have hregistered := foldlM_readConfigurationEntry horder (head d) hentries
  have hreadEdges := mapM_of_forall₂ (fun _ _ h => h.read) hdependencies
  have hreadRules := mapM_of_forall₂ (fun _ _ h => h.read) hrules
  simp only [ofValue, h.front.read horder, hitems, elements, liftM_ok, ok_bind, hregistered]
  cases entries.foldlM register (head d) with
  | error clash => rfl
  | ok read =>
    simp only [map_ok, mapError_ok, ok_bind, hedges, hexcluded, liftM_ok, hreadEdges, hreadRules]
    rfl

end Order

end OsgiIvy.Snapshot
