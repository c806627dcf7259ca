import OsgiIvy.Module.Snapshot
import OsgiIvy.Proofs.Images
import OsgiIvy.Proofs.Outcomes
import OsgiIvy.Proofs.Value.Objects

/-!
# Stored descriptors

A descriptor of texts and truth values as one of values: `Descriptor.stored`.  Namespaces and extra
attributes are mappings whose order does not count, and storing puts them in some order.  Everything
that a descriptor is asked for it gives in its stored form as well, and stored artifacts are equal
exactly if the artifacts are (`Artifact.beq_stored`).
-/

namespace OsgiIvy

open Value

/-! ### Stored forms -/

def RevisionId.stored (r : RevisionId String) : RevisionId Value :=
  ⟨.string r.organisation, .string r.name, r.branch.map .string, r.revision.map .string⟩

def Configuration.stored (c : Configuration String Bool) : Configuration Value Value :=
  ⟨.string c.name, c.visibility, .string c.description, c.parents.map .string,
    .bool c.transitive, c.deprecated.map .string⟩

def Dependency.stored (d : Dependency String Bool) : Dependency Value Value :=
  ⟨d.revision.stored, .bool d.force, .bool d.changing, .bool d.transitive,
    ⟨d.routes.entries.map fun e => (.string e.1, e.2.map .string)⟩⟩

def ExcludeRule.stored (r : ExcludeRule String) : ExcludeRule Value :=
  ⟨⟨⟨.string r.artifact.module.organisation, .string r.artifact.module.name⟩,
      .string r.artifact.name, .string r.artifact.type, .string r.artifact.ext⟩,
    .string r.matcher, r.configurations.map .string⟩

def Clash.stored (c : Clash String) : Clash Value := ⟨.string c.name, c.revision.stored⟩

section Order

variable (order : List (Value × Value) → List (Value × Value))

def Assoc.stored (m : Assoc String String) : Assoc Value Value :=
  ⟨order (m.entries.map fun e => (.string e.1, .string e.2))⟩

def Artifact.stored (a : Artifact String) : Artifact Value :=
  ⟨a.revision.stored, a.name.map .string, a.type.map .string, a.ext.map .string,
    a.url.map .string, a.extra.stored order⟩

/-- The descriptor as it is stored, with its mappings in the given order. -/
def Descriptor.stored (d : ModuleDescriptor) : Snapshot.Unchecked where
  revision := d.revision.stored
  status := .string d.status
  publicationDate := d.publicationDate
  description := .string d.description
  homePage := d.homePage.map .string
  extraInfos := d.extraInfos.map fun p => (.string p.1, .string p.2)
  namespaces := d.namespaces.stored order
  dependencies := d.dependencies.map Dependency.stored
  excludeRules := d.excludeRules.map ExcludeRule.stored
  configurations := d.configurations.map Configuration.stored
  artifacts := ⟨d.artifacts.entries.map fun e => (.string e.1, e.2.map (Artifact.stored order))⟩

end Order

/-! ### Equality -/

theorem beq_map_string (o p : Option String) :
    (o.map Value.string == p.map Value.string) = (o == p) := by
  cases o <;> cases p <;> rfl

theorem RevisionId.beq_stored (r s : RevisionId String) : (r.stored == s.stored) = (r == s) := by
  show (_ == _ && (_ == _ && (_ == _ && _ == _))) = (_ == _ && (_ == _ && (_ == _ && _ == _)))
  simp only [beq_string, beq_map_string]

theorem beq_map_strings (ss ts : List String) :
    (ss.map Value.string == ts.map Value.string) = (ss == ts) := by
  induction ss generalizing ts with
  | nil => cases ts <;> rfl
  | cons s ss ih =>
    cases ts with
    | nil => rfl
    | cons t ts =>
      rw [List.map_cons, List.map_cons, List.cons_beq_cons, List.cons_beq_cons, beq_string, ih]

theorem beq_bool (a b : Bool) : (Value.bool a == Value.bool b) = (a == b) := by
  cases a <;> cases b <;> rfl

theorem Configuration.beq_stored (c c' : Configuration String Bool) :
    (c.stored == c'.stored) = (c == c') := by
  show (_ == _ && (_ == _ && (_ == _ && (_ == _ && (_ == _ && _ == _))))) =
    (_ == _ && (_ == _ && (_ == _ && (_ == _ && (_ == _ && _ == _)))))
  simp only [beq_string, beq_map_strings, beq_bool, beq_map_string]

section Mappings

variable {order order' : List (Value × Value) → List (Value × Value)}
  (horder : ∀ es, (order es).Perm es) (horder' : ∀ es, (order' es).Perm es)

theorem hasTextKeys_stored {m : Assoc String String} (h : m.IsMapping) :
    HasTextKeys (m.entries.map fun e => (.string e.1, .string e.2)) := by
  have hkeys : ((m.entries.map fun e => (e.1, Value.string e.2)).map Prod.fst).Nodup := by
    simpa [Assoc.IsMapping, Assoc.keys, Function.comp_def] using h
  simpa [textEntries, Function.comp_def] using hasTextKeys_textEntries hkeys

include horder in
theorem Assoc.ofList_stored {m : Assoc String String} (h : m.IsMapping) :
    Assoc.ofList (m.stored order).entries = m.stored order :=
  ofList_of_hasTextKeys ((hasTextKeys_stored h).perm (horder _))

include horder in
theorem Assoc.get?_stored {m : Assoc String String} (h : m.IsMapping) (k : String) :
    (m.stored order).get? (.string k) = (m.get? k).map .string := by
  have hlookup := lookup_perm (hasTextKeys_stored h) (horder _) k
  rw [lookup, lookup, lookup_image beq_string] at hlookup
  exact hlookup

include horder horder' in
theorem Assoc.same_stored (m : Assoc String String) {n : Assoc String String} (hn : n.IsMapping) :
    (m.stored order).same (n.stored order') = m.same n := by
  have hsize (l : Assoc String String) {o} (ho : ∀ es, (o es).Perm es) :
      (l.stored o).size = l.size :=
    (ho _).length_eq.trans (List.length_map _)
  have hentries : ((m.stored order).entries.all fun e =>
        ((n.stored order').get? e.1).any (e.2 == ·)) =
      m.entries.all fun e => (n.get? e.1).any (e.2 == ·) := by
    have hperm : (m.stored order).entries.Perm
        (m.entries.map fun e => (.string e.1, .string e.2)) := horder _
    rw [hperm.all_eq, List.all_map]
    refine congrArg m.entries.all (funext fun e => ?_)
    show ((n.stored order').get? (.string e.1)).any (Value.string e.2 == ·) = _
    rw [get?_stored horder' hn]
    cases n.get? e.1 <;> rfl
  rw [same_eq, same_eq, hsize m horder, hsize n horder', hentries]

include horder horder' in
/-- Storing keeps equal artifacts equal and others apart. -/
theorem Artifact.beq_stored (a : Artifact String) {b : Artifact String} (hb : b.extra.IsMapping) :
    (a.stored order == b.stored order') = (a == b) := by
  show (a.stored order).same (b.stored order') = a.same b
  simp only [Artifact.same, stored, RevisionId.beq_stored, beq_map_string,
    Assoc.same_stored horder horder' a.extra hb]

end Mappings

/-- Artifacts are equal if their parts are, the attributes in any order. -/
theorem Artifact.beq_iff {a b : Artifact String} : (a == b) = true ↔ a.revision = b.revision ∧
    a.name = b.name ∧ a.type = b.type ∧ a.ext = b.ext ∧ a.url = b.url ∧
      a.extra.same b.extra = true := by
  show a.same b = true ↔ _
  simp only [Artifact.same, Bool.and_eq_true, beq_iff_eq, and_assoc]

/-- Equality of artifacts is transitive. -/
theorem Artifact.beq_trans {a b c : Artifact String} (hab : (a == b) = true)
    (hbc : (b == c) = true) : (a == c) = true := by
  obtain ⟨hrevision, hname, htype, hext, hurl, hextra⟩ := beq_iff.mp hab
  obtain ⟨hrevision', hname', htype', hext', hurl', hextra'⟩ := beq_iff.mp hbc
  exact beq_iff.mpr ⟨hrevision.trans hrevision', hname.trans hname', htype.trans htype',
    hext.trans hext', hurl.trans hurl', Assoc.same_trans hextra hextra'⟩

/-! ### Edges -/

theorem Dependency.mappings_stored (d : Dependency String Bool) :
    d.stored.mappings = d.mappings.map fun p => (.string p.1, .string p.2) := by
  simp [mappings, stored, List.flatMap_map, List.map_flatMap, Function.comp_def]

theorem Dependency.addRoute_stored (d : Dependency String Bool) (master target : String) :
    d.stored.addRoute (.string master) (.string target) = (d.addRoute master target).stored := by
  have hchange (old : Option (List String)) :
      addNew ((old.map (List.map Value.string)).getD []) (.string target) =
        (addNew (old.getD []) target).map .string := by
    have himage (targets : List String) : addNew (targets.map Value.string) (.string target) =
        (addNew targets target).map .string := addNew_image fun b _ => beq_string target b
    cases old with
    | none => exact himage []
    | some targets => exact himage targets
  have hroutes := Assoc.alterEntries_image beq_string (List.map Value.string)
    (fun old => addNew (old.getD []) target) (fun old => addNew (old.getD []) (.string target))
    hchange master d.routes.entries
  exact congrArg (fun es => (⟨d.revision.stored, .bool d.force, .bool d.changing,
    .bool d.transitive, ⟨es⟩⟩ : Dependency Value Value)) hroutes

/-! ### Descriptors -/

namespace Descriptor

variable (order : List (Value × Value) → List (Value × Value))

theorem artifactsOf_stored (d : ModuleDescriptor) (name : String) :
    (d.stored order).artifactsOf (.string name) =
      (d.artifactsOf name).map (Artifact.stored order) := by
  have hlookup := Assoc.lookup_image beq_string (List.map (Artifact.stored order)) name
    d.artifacts.entries
  refine (congrArg (·.getD []) hlookup).trans ?_
  rw [artifactsOf, Assoc.getD, Assoc.get?]
  cases List.lookup name d.artifacts.entries <;> rfl

theorem addArtifact_stored (d : ModuleDescriptor) (name : String) (a : Artifact String) :
    (d.stored order).addArtifact (.string name) (a.stored order) =
      (d.addArtifact name a).stored order := by
  have hchange (old : Option (List (Artifact String))) :
      (old.map (List.map (Artifact.stored order))).getD [] ++ [a.stored order] =
        (old.getD [] ++ [a]).map (Artifact.stored order) := by
    cases old <;> simp
  have hartifacts := Assoc.alterEntries_image beq_string (List.map (Artifact.stored order))
    (fun old => old.getD [] ++ [a]) (fun old => old.getD [] ++ [a.stored order])
    hchange name d.artifacts.entries
  exact congrArg (fun es => { d.stored order with artifacts := ⟨es⟩ }) hartifacts

theorem configuration?_stored (d : ModuleDescriptor) (name : String) :
    (d.stored order).configuration? (.string name) =
      (d.configuration? name).map Configuration.stored := by
  show (d.configurations.map Configuration.stored).find? _ = _
  rw [List.find?_map]
  rfl

/-- Stored configurations clash exactly if the configurations do. -/
theorem addConfiguration_stored (d : ModuleDescriptor) (c : Configuration String Bool) :
    (d.stored order).addConfiguration c.stored =
      ((d.addConfiguration c).map (Descriptor.stored order)).mapError Clash.stored := by
  have hfind : (d.stored order).configuration? c.stored.name =
      (d.configuration? c.name).map Configuration.stored := configuration?_stored order d c.name
  rw [addConfiguration, addConfiguration, hfind]
  cases d.configuration? c.name with
  | none => simp [stored, Except.map, mapError_ok]
  | some registered =>
    simp only [Option.map_some, Configuration.beq_stored]
    cases registered == c with
    | true => rfl
    | false => rfl

variable {order} (horder : ∀ es, (order es).Perm es)
include horder

theorem allArtifacts_stored {d : ModuleDescriptor}
    (h : ∀ e ∈ d.artifacts.entries, ∀ a ∈ e.2, a.extra.IsMapping) :
    (d.stored order).allArtifacts = d.allArtifacts.map (Artifact.stored order) := by
  have hentries : (d.stored order).artifacts.entries.flatMap Prod.snd =
      (d.artifacts.entries.flatMap Prod.snd).map (Artifact.stored order) := by
    simp [stored, List.flatMap_map, List.map_flatMap]
  rw [allArtifacts, allArtifacts, hentries]
  refine distinct_image fun a _ b hb => ?_
  obtain ⟨e, he, hb⟩ := List.mem_flatMap.mp hb
  exact a.beq_stored horder horder (h e he b hb)

end Descriptor

end OsgiIvy
