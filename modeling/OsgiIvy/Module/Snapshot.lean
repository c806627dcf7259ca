import OsgiIvy.Json.Printer
import OsgiIvy.Json.Reader
import OsgiIvy.Module.Descriptor
import OsgiIvy.Value.Fields

/-!
# Snapshots

The stored form of a descriptor: a mapping whose JSON text is the same for descriptors with the
same content.  `toValue` leaves out what is missing or empty, and `ofValue` fills the gaps with
defaults.  Reading checks the shape of a snapshot only: what stands in a text or flag place is
taken as it is.
-/

namespace OsgiIvy.Snapshot

open OsgiIvy.Text (Glyph Script)
open OsgiIvy.Time (Moment)

/-! ### Writing -/

section Writing

variable {τ φ : Type} [Field τ] [Flag φ]

/-- A member that is written only if there is a value. -/
def member? (key : String) (v : Option Value) : List (String × Value) :=
  (v.map fun w => (key, w)).toList

def ofRevision (r : RevisionId τ) : Value :=
  .object ([("organisation", Field.toValue r.organisation), ("name", Field.toValue r.name)] ++
    member? "branch" (r.branch.map Field.toValue) ++
    member? "revision" (r.revision.map Field.toValue))

def ofPairs (ps : List (τ × τ)) : Value :=
  .list (ps.map fun p => .list [Field.toValue p.1, Field.toValue p.2])

def ofAssoc (m : Assoc τ τ) : Value :=
  .mapping (m.entries.map fun e => (Field.toValue e.1, Field.toValue e.2))

def ofArtifact (a : Artifact τ) : Value :=
  .object ([("module", ofRevision a.revision), ("name", Field.optionValue a.name),
      ("type", Field.optionValue a.type), ("ext", Field.optionValue a.ext)] ++
    member? "url" (a.url.map Field.toValue) ++
    member? "extra_attributes" (if a.extra.isEmpty then none else some (ofAssoc a.extra)))

def ofConfiguration (c : Configuration τ φ) (artifacts : List (Artifact τ)) : Value :=
  .object ([("name", Field.toValue c.name), ("visibility", .string c.visibility.name),
      ("transitive", Flag.toValue c.transitive)] ++
    member? "description"
      (if Field.isEmpty c.description then none else some (Field.toValue c.description)) ++
    member? "extends"
      (if c.parents.isEmpty then none else some (.list (c.parents.map Field.toValue))) ++
    member? "deprecated" (c.deprecated.map Field.toValue) ++
    [("artifacts", .list (artifacts.map ofArtifact))])

def ofDependency (d : Dependency τ φ) : Value :=
  .object [("module", ofRevision d.revision), ("force", Flag.toValue d.force),
    ("changing", Flag.toValue d.changing), ("transitive", Flag.toValue d.transitive),
    ("confs", ofPairs d.mappings)]

def ofRule (r : ExcludeRule τ) : Value :=
  .object [("organisation", Field.toValue r.artifact.module.organisation),
    ("module", Field.toValue r.artifact.module.name), ("artifact", Field.toValue r.artifact.name),
    ("type", Field.toValue r.artifact.type), ("ext", Field.toValue r.artifact.ext),
    ("matcher", Field.toValue r.matcher),
    ("confs", .list (r.configurations.map Field.toValue))]

/-- The version of the stored form. -/
def formatVersion : String := "1.0"

def generator : String := "bundlebridge"

/-- The snapshot of a descriptor. -/
def toValue [BEq τ] (d : Descriptor τ φ) : Value :=
  .object ([("format_version", .string formatVersion), ("generated_by", .string generator),
      ("module", ofRevision d.revision), ("status", Field.toValue d.status),
      ("description", Field.toValue d.description), ("extra_info", ofPairs d.extraInfos),
      ("namespaces", ofAssoc d.namespaces),
      ("configurations",
        .list (d.configurations.map fun c => ofConfiguration c (d.artifactsOf c.name))),
      ("dependencies", .list (d.dependencies.map ofDependency)),
      ("excludes", .list (d.excludeRules.map ofRule))] ++
    member? "home_page" (d.homePage.map Field.toValue) ++
    member? "publication_date" (d.publicationDate.map fun m => .string m.render))

/-- The JSON text of the snapshot. -/
def toJson [BEq τ] (indent : Nat) (d : Descriptor τ φ) : String := Json.write indent (toValue d)

/-- The JSON text of the snapshot, if its keys have an order. -/
def toJson? [BEq τ] (indent : Nat) (d : Descriptor τ φ) : Option String :=
  if Json.isOrdered (toValue d) then some (toJson indent d) else none

end Writing

/-! ### Reading -/

/-- A descriptor as it was stored, with whatever its fields held. -/
abbrev Unchecked := Descriptor Value Value

inductive Fault
  | value (fault : Value.Fault)
  | clash (clash : Clash Value)
  | notJson

instance : MonadLift (Except Value.Fault) (Except Fault) := ⟨Except.mapError .value⟩

/-- A field that may be missing or null. -/
def optionalField (v : Value) (key : String) : Except Value.Fault (Option Value) :=
  (v.field? key).map (·.bind Value.present?)

def readRevision (v : Value) : Except Value.Fault (RevisionId Value) := do
  let organisation ← v.need "organisation"
  let name ← v.need "name"
  let branch ← optionalField v "branch"
  let revision ← optionalField v "revision"
  pure ⟨organisation, name, branch, revision⟩

/-- Attributes as a mapping or as a list of pairs. -/
def readAttributes (v : Value) : Except Value.Fault (Assoc Value Value) :=
  match v with
  | .mapping es => .ok (.ofList es)
  | _ => do
    let pairs ← (← v.elements).mapM fun item => do
      let (key, content) ← item.pair
      pure (← key.asKey, content)
    pure (.ofList pairs)

def readArtifact (v : Value) : Except Value.Fault (Artifact Value) := do
  let revision ← readRevision (← v.need "module")
  let name ← optionalField v "name"
  let type ← optionalField v "type"
  let ext ← optionalField v "ext"
  let url ← optionalField v "url"
  let extra ← readAttributes (← v.fieldD "extra_attributes" (.mapping []))
  pure ⟨revision, name, type, ext, url, extra⟩

def readVisibility (v : Value) : Except Value.Fault Visibility :=
  match v with
  | .string name =>
    match Visibility.ofName? name with
    | some visibility => .ok visibility
    | none => .error .badContent
  | _ => .error .badContent

def readConfiguration (v : Value) : Except Value.Fault (Configuration Value Value) := do
  let name ← v.need "name"
  let visibility ← readVisibility (← v.fieldD "visibility" (.string "public"))
  let description ← v.fieldD "description" (.string "")
  let parents ← (← v.fieldD "extends" (.list [])).elements
  let transitive ← v.fieldD "transitive" (.bool true)
  let deprecated ← optionalField v "deprecated"
  pure ⟨← name.asKey, visibility, description, parents, transitive, deprecated⟩

/-- Registers the configuration of an entry and its artifacts. -/
def readConfigurationEntry (d : Unchecked) (v : Value) : Except Fault Unchecked := do
  let c ← readConfiguration v
  let d ← (d.addConfiguration c).mapError Fault.clash
  let items ← (← v.fieldD "artifacts" (.list [])).elements
  items.foldlM (fun d item => do
    let a ← readArtifact item
    pure (d.addArtifact c.name a)) d

def readDependency (v : Value) : Except Value.Fault (Dependency Value Value) := do
  let revision ← readRevision (← v.need "module")
  let force ← v.fieldD "force" (.bool false)
  let changing ← v.fieldD "changing" (.bool false)
  let transitive ← v.fieldD "transitive" (.bool true)
  let routes ← (← v.fieldD "confs" (.list [])).elements
  routes.foldlM (fun d route => do
    let (master, target) ← route.pair
    pure (d.addRoute (← master.asKey) target)) ⟨revision, force, changing, transitive, {}⟩

def readRule (v : Value) : Except Value.Fault (ExcludeRule Value) := do
  let organisation ← v.need "organisation"
  let module ← v.need "module"
  let name ← v.fieldD "artifact" (.string ArtifactId.any)
  let type ← v.fieldD "type" (.string ArtifactId.any)
  let ext ← v.fieldD "ext" (.string ArtifactId.any)
  let matcher ← v.fieldD "matcher" (.string ExcludeRule.defaultMatcher)
  let configurations ← (← v.fieldD "confs" (.list [])).elements
  pure ⟨⟨⟨organisation, module⟩, name, type, ext⟩, matcher, configurations⟩

/-- A date that is empty in any way is missing; any other is the text of a moment, where half a
character may stand between the day and the time as any character may. -/
def readDate (v : Value) : Except Value.Fault (Option Moment) :=
  if !v.isTruthy then .ok none
  else if v.isText then
    match Moment.read? v.text with
    | some m => .ok (some m)
    | none => .error .badContent
  else .error .wrongKind

/-- The parts of a snapshot that stand in front of its configurations. -/
def readHead (v : Value) : Except Value.Fault Unchecked := do
  let published ← v.fieldD "publication_date" .null
  let revision ← readRevision (← v.need "module")
  let status ← v.fieldD "status" (.string Descriptor.defaultStatus)
  let date ← readDate published
  let description ← v.fieldD "description" (.string "")
  let homePage ← optionalField v "home_page"
  let namespaces ← (← v.fieldD "namespaces" (.mapping [])).entries
  let infos ← (← (← v.fieldD "extra_info" (.list [])).elements).mapM Value.pair
  pure { Descriptor.empty revision status with
    publicationDate := date
    description := description
    homePage := homePage
    namespaces := .ofList namespaces
    extraInfos := infos }

/-- The descriptor that a snapshot holds. -/
def ofValue (v : Value) : Except Fault Unchecked := do
  let d ← (readHead v : Except Value.Fault Unchecked)
  let configurations ← ((do (← v.fieldD "configurations" (.list [])).elements) :
    Except Value.Fault (List Value))
  let d ← configurations.foldlM readConfigurationEntry d
  let dependencies ← ((do (← v.fieldD "dependencies" (.list [])).elements) :
    Except Value.Fault (List Value))
  let dependencies ← (dependencies.mapM readDependency : Except Value.Fault _)
  let rules ← ((do (← v.fieldD "excludes" (.list [])).elements) :
    Except Value.Fault (List Value))
  let rules ← (rules.mapM readRule : Except Value.Fault _)
  pure { d with dependencies := dependencies, excludeRules := rules }

/-- The descriptor that the JSON text of a snapshot holds. -/
def ofJson {τ γ : Type} [Glyph γ] [Script τ γ] (text : τ) : Except Fault Unchecked :=
  match Json.read text with
  | .ok v => ofValue v
  | .error .malformed => .error .notJson
  | .error .tooLong => .error (.value .badContent)

end OsgiIvy.Snapshot
