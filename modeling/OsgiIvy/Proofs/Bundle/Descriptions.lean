import OsgiIvy.Proofs.Bundle.Files
import OsgiIvy.Proofs.Json.Contents
import OsgiIvy.Proofs.Value.Listings

/-!
# Descriptions of bundles

`IsDescription` says which mappings describe a bundle, and `described` says which bundle.  Any other
mapping of JSON is refused (`ofValue_succeeds_iff`): what goes wrong in a part of it, however deep,
is told as a fault of the description.
-/

namespace OsgiIvy.Bundle

open OsgiIvy.Text OsgiIvy.Value

/-! ### Shapes -/

/-- The entries of a value, none if it is no mapping. -/
def entriesOf : Value → List (Value × Value)
  | .mapping es => es
  | _ => []

structure IsExport (v : Value) : Prop where
  mapping : ∃ es, v = .mapping es
  named : (lookup (entriesOf v) "name").isSome = true
  uses : IsListing (fieldOf (entriesOf v) "uses")

structure IsRequirement (v : Value) : Prop where
  mapping : ∃ es, v = .mapping es
  typed : (lookup (entriesOf v) "type").isSome = true
  named : (lookup (entriesOf v) "name").isSome = true

def IsArtifact (v : Value) : Prop := ∃ es, v = .mapping es

/-- A listing whose elements all have a shape. -/
def Lists (shape : Value → Prop) (v : Value) : Prop := IsListing v ∧ ∀ w ∈ v.items, shape w

/-- A mapping that has a name which is not empty in any way, and whose other parts are missing,
empty or of the right shape. -/
structure IsDescription (es : List (Value × Value)) : Prop where
  named : (fieldOf es "symbolic_name").isTruthy = true
  exports : Lists IsExport (fieldOf es "exports")
  requirements : Lists IsRequirement (fieldOf es "requirements")
  artifacts : Lists IsArtifact (fieldOf es "artifacts")
  environments : IsListing (fieldOf es "execution_environments")

/-! ### What is described -/

def exportOf (v : Value) : Export :=
  let es := entriesOf v
  ⟨(fieldOf es "name").text, textOf es "version" defaultVersion,
    .ofList ((fieldOf es "uses").items.map text)⟩

def requirementOf (v : Value) : Requirement :=
  let es := entriesOf v
  ⟨(fieldOf es "type").text, (fieldOf es "name").text, textOf? es "version",
    textOf es "resolution" mandatory⟩

def artifactOf (v : Value) : BundleArtifact :=
  let es := entriesOf v
  ⟨textOf? es "uri", textOf? es "format", (fieldOf es "source").isTruthy⟩

def described (es : List (Value × Value)) : Bundle where
  symbolicName := (fieldOf es "symbolic_name").text
  version := textOf es "version" defaultVersion
  exports := (fieldOf es "exports").items.map exportOf
  requirements := (fieldOf es "requirements").items.map requirementOf
  artifacts := (fieldOf es "artifacts").items.map artifactOf
  environments := (fieldOf es "execution_environments").items.map text
  hasInnerClasspath := (fieldOf es "inner_classpath").isTruthy

/-! ### Parts -/

theorem listField_mapping (es : List (Value × Value)) (key : String) :
    listField (.mapping es) key = listed (fieldOf es key) := rfl

/-- A flag that is missing counts as one that is not set. -/
theorem isTruthy_getD_false (o : Option Value) :
    (o.getD (.bool false)).isTruthy = (o.getD .null).isTruthy := by
  cases o <;> rfl

section Read

variable {v : Value} (h : v.hasText = true)
include h

theorem readExport_of_isExport (hv : IsExport v) : readExport v = .ok (exportOf v) := by
  obtain ⟨es, rfl⟩ := hv.mapping
  have hlisting : IsListing (fieldOf es "uses") := hv.uses
  have huses : ∀ w ∈ (fieldOf es "uses").items, w.hasText = true := fun _ =>
    hasText_of_mem_items (hasText_fieldOf h "uses")
  rw [readExport, needText_mapping h hv.named, textD_mapping h, listField_mapping,
    listed_of_isListing hlisting, ok_bind, ok_bind, ok_bind, mapM_asText huses]
  rfl

theorem readRequirement_of_isRequirement (hv : IsRequirement v) :
    readRequirement v = .ok (requirementOf v) := by
  obtain ⟨es, rfl⟩ := hv.mapping
  rw [readRequirement, needText_mapping h hv.typed, needText_mapping h hv.named,
    text?_mapping h, textD_mapping h]
  rfl

theorem readArtifact_of_isArtifact (hv : IsArtifact v) : readArtifact v = .ok (artifactOf v) := by
  obtain ⟨es, rfl⟩ := hv
  have hsource : (Value.mapping es).fieldD "source" (.bool false) =
      .ok ((lookup es "source").getD (.bool false)) := rfl
  rw [readArtifact, text?_mapping h, text?_mapping h, hsource, ok_bind, ok_bind, ok_bind,
    isTruthy_getD_false]
  rfl

end Read

theorem isExport_of_readExport {v : Value} {e : Export} (h : readExport v = .ok e) :
    IsExport v := by
  obtain ⟨name, hname, h⟩ := bind_eq_ok.mp h
  obtain ⟨version, -, h⟩ := bind_eq_ok.mp h
  obtain ⟨uses, huses, -⟩ := bind_eq_ok.mp h
  obtain ⟨es, rfl, hnamed⟩ := exists_field_of_needText hname
  exact ⟨⟨es, rfl⟩, hnamed, isListing_of_listed huses⟩

theorem isRequirement_of_readRequirement {v : Value} {r : Requirement}
    (h : readRequirement v = .ok r) : IsRequirement v := by
  obtain ⟨type, htype, h⟩ := bind_eq_ok.mp h
  obtain ⟨name, hname, -⟩ := bind_eq_ok.mp h
  obtain ⟨es, rfl, htyped⟩ := exists_field_of_needText htype
  obtain ⟨es', heq, hnamed⟩ := exists_field_of_needText hname
  obtain rfl := Value.mapping.inj heq
  exact ⟨⟨es, rfl⟩, htyped, hnamed⟩

theorem isArtifact_of_readArtifact {v : Value} {a : BundleArtifact} (h : readArtifact v = .ok a) :
    IsArtifact v := by
  obtain ⟨uri, huri, -⟩ := bind_eq_ok.mp h
  obtain ⟨o, ho, -⟩ := bind_eq_ok.mp huri
  cases v with
  | mapping es => exact ⟨es, rfl⟩
  | null | bool | int | float | string | torn | date | moment | list => exact absurd ho nofun

/-! ### Lists of parts -/

section Parts

variable {α : Type} {shape : Value → Prop} {reader : Value → Except Value.Fault α}
  {part : Value → α} {v : Value}

theorem Lists.mapM_items (h : Lists shape v) (htext : v.hasText = true)
    (hreader : ∀ {w}, w.hasText = true → shape w → reader w = .ok (part w)) :
    v.items.mapM reader = .ok (v.items.map part) :=
  mapM_eq_ok fun w hw => hreader (hasText_of_mem_items htext hw) (h.2 w hw)

theorem lists_of_mapM {vs : List Value} {parts : List α} (hlisted : listed v = .ok vs)
    (hparts : vs.mapM reader = .ok parts) (hreader : ∀ {w a}, reader w = .ok a → shape w) :
    Lists shape v := by
  obtain ⟨hlisting, rfl⟩ := listed_eq_ok_iff.mp hlisted
  refine ⟨hlisting, fun w hw => ?_⟩
  obtain ⟨a, ha⟩ := ok_of_mem_of_mapM hparts hw
  exact hreader ha

end Parts

/-! ### Descriptions -/

variable {es : List (Value × Value)}

theorem readBody_of_isDescription (h : (Value.mapping es).hasText = true)
    (hdescription : IsDescription es) : readBody (.mapping es) = .ok (described es) := by
  have hname : (lookup es "symbolic_name").isSome = true := by
    have htruthy := hdescription.named
    rw [lookup_of_fieldOf_ne_null (ne_null_of_isTruthy htruthy), Option.isSome_some]
  have hclasspath : (Value.mapping es).fieldD "inner_classpath" (.bool false) =
      .ok ((lookup es "inner_classpath").getD (.bool false)) := rfl
  have henvironments : ∀ w ∈ (fieldOf es "execution_environments").items, w.hasText = true :=
    fun _ => hasText_of_mem_items (hasText_fieldOf h _)
  have hexports := hdescription.exports.mapM_items (hasText_fieldOf h _) readExport_of_isExport
  have hrequirements :=
    hdescription.requirements.mapM_items (hasText_fieldOf h _) readRequirement_of_isRequirement
  have hartifacts :=
    hdescription.artifacts.mapM_items (hasText_fieldOf h _) readArtifact_of_isArtifact
  simp only [readBody, needText_mapping h hname, textD_mapping h, listField_mapping,
    listed_of_isListing hdescription.exports.1, listed_of_isListing hdescription.requirements.1,
    listed_of_isListing hdescription.artifacts.1, listed_of_isListing hdescription.environments,
    hexports, hrequirements, hartifacts, mapM_asText henvironments, hclasspath, ok_bind,
    isTruthy_getD_false]
  rfl

theorem isDescription_of_readBody {b : Bundle}
    (hnamed : (fieldOf es "symbolic_name").isTruthy = true)
    (h : readBody (.mapping es) = .ok b) : IsDescription es := by
  obtain ⟨_, -, h⟩ := bind_eq_ok.mp h
  obtain ⟨_, -, h⟩ := bind_eq_ok.mp h
  obtain ⟨exports, hexports, h⟩ := bind_eq_ok.mp h
  obtain ⟨_, hreadExports, h⟩ := bind_eq_ok.mp h
  obtain ⟨requirements, hrequirements, h⟩ := bind_eq_ok.mp h
  obtain ⟨_, hreadRequirements, h⟩ := bind_eq_ok.mp h
  obtain ⟨artifacts, hartifacts, h⟩ := bind_eq_ok.mp h
  obtain ⟨_, hreadArtifacts, h⟩ := bind_eq_ok.mp h
  obtain ⟨environments, henvironments, -⟩ := bind_eq_ok.mp h
  exact ⟨hnamed, lists_of_mapM hexports hreadExports isExport_of_readExport,
    lists_of_mapM hrequirements hreadRequirements isRequirement_of_readRequirement,
    lists_of_mapM hartifacts hreadArtifacts isArtifact_of_readArtifact,
    isListing_of_listed henvironments⟩

theorem ofValue_mapping (es : List (Value × Value)) :
    ofValue (.mapping es) =
      if (fieldOf es "symbolic_name").isTruthy then (readBody (.mapping es)).mapError .ofValueFault
      else .error .noSymbolicName := rfl

theorem ofValue_of_isDescription (h : (Value.mapping es).hasText = true)
    (hdescription : IsDescription es) : ofValue (.mapping es) = .ok (described es) := by
  rw [ofValue_mapping, if_pos hdescription.named, readBody_of_isDescription h hdescription]
  rfl

theorem isDescription_of_ofValue {b : Bundle} (h : ofValue (.mapping es) = .ok b) :
    IsDescription es := by
  rw [ofValue_mapping] at h
  split at h
  · next hnamed => exact isDescription_of_readBody hnamed (mapError_eq_ok.mp h)
  · exact absurd h nofun

/-- A fault that says what is wrong with a description; the others break off. -/
def DescriptionFault.isRefusal : DescriptionFault → Bool
  | .notMapping => false
  | .unwritable => false
  | _ => true

/-- A mapping of JSON describes a bundle, or it is refused.  What is read from JSON is of JSON,
whether the text holds halves of characters or not. -/
theorem ofValue_succeeds_iff (h : IsJson (.mapping es)) :
    ((∃ b, ofValue (.mapping es) = .ok b) ↔ IsDescription es) ∧
    (¬ IsDescription es →
      ∃ fault, ofValue (.mapping es) = .error fault ∧ fault.isRefusal = true) ∧
    ∀ {τ γ : Type} [Glyph γ] [Script τ γ] (text : τ) v, Json.read text = .ok v → IsJson v := by
  refine ⟨⟨?_, ?_⟩, ?_, fun _ _ => isJson_of_read⟩
  · rintro ⟨b, hb⟩
    exact isDescription_of_ofValue hb
  · intro hdescription
    exact ⟨described es, ofValue_of_isDescription h.hasText hdescription⟩
  · intro hnot
    cases hrun : ofValue (.mapping es) with
    | ok b => exact absurd (isDescription_of_ofValue hrun) hnot
    | error fault =>
      refine ⟨fault, rfl, ?_⟩
      cases fault with
      | notMapping => exact absurd hrun (ofValue_mapping_ne_notMapping es)
      | unwritable => exact absurd hrun (ofValue_ne_unwritable h.hasText)
      | noSymbolicName | missing | misshapen => rfl

/-- A description with a number for a name, and with parts that are empty or fall apart into
characters. -/
def oddFields : List (String × Value) := [
  ("symbolic_name", .int 5), ("exports", .string ""),
  ("requirements", .list [.object [("type", .string "package"), ("name", .null)]]),
  ("artifacts", .list [.object []]), ("execution_environments", .string "ab")]

/-- The same with an export whose uses are a number. -/
def tornFields : List (String × Value) := [
  ("symbolic_name", .int 5),
  ("exports", .list [.object [("name", .string "api"), ("uses", .int 5)]])]

theorem isJson_oddFields : IsJson (.object oddFields) := by
  have hname : IsJson (.int 5) := isJson_digit (by decide)
  have hrequirement : IsJson (.object [("type", .string "package"), ("name", .null)]) :=
    isJson_object (by decide) (by simp [IsJson.string, IsJson.null])
  have hartifact : IsJson (.object []) := isJson_object (by decide) (by simp)
  refine isJson_object (by decide) ?_
  simp [oddFields, hname, IsJson.string, IsJson.list, hrequirement, hartifact]

theorem isJson_tornFields : IsJson (.object tornFields) := by
  have hfive : IsJson (.int 5) := isJson_digit (by decide)
  have hexport : IsJson (.object [("name", .string "api"), ("uses", .int 5)]) :=
    isJson_object (by decide) (by simp [IsJson.string, hfive])
  refine isJson_object (by decide) ?_
  simp [tornFields, hfive, IsJson.list, hexport]

theorem ofValue_succeeds_odd :
    IsJson (.object oddFields) ∧ (∃ b, ofValue (.object oddFields) = .ok b) ∧
    IsJson (.object tornFields) ∧
    ∃ fault, ofValue (.object tornFields) = .error fault ∧ fault.isRefusal = true := by
  refine ⟨isJson_oddFields, ?_, isJson_tornFields, ?_⟩
  · refine (ofValue_succeeds_iff isJson_oddFields).1.mpr ⟨rfl, ?_, ?_, ?_, .string "ab"⟩
    · exact ⟨.string "", fun w hw => absurd hw List.not_mem_nil⟩
    · refine ⟨.list _, fun w hw => ?_⟩
      rw [List.mem_singleton.mp hw]
      exact ⟨⟨_, rfl⟩, rfl, rfl⟩
    · refine ⟨.list _, fun w hw => ?_⟩
      rw [List.mem_singleton.mp hw]
      exact ⟨_, rfl⟩
  · refine (ofValue_succeeds_iff isJson_tornFields).2.1 fun h => ?_
    have huses : IsListing (.int 5) := (h.exports.2 _ (List.mem_singleton_self _)).uses
    cases huses with
    | empty hfive => exact absurd hfive nofun

end OsgiIvy.Bundle
