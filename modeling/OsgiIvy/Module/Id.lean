import OsgiIvy.Module.Field

/-!
# Module identities

A module is named by its organisation and name, a revision of it by a branch and a revision on top,
and its artifacts by name, type and extension.  A missing part and an empty one differ.
-/

namespace OsgiIvy

structure ModuleId (τ : Type) where
  organisation : τ
  name : τ
deriving BEq, ReflBEq, LawfulBEq, DecidableEq, Repr

/-- A module at a revision, which is a version or a range of versions. -/
structure RevisionId (τ : Type) where
  organisation : τ
  name : τ
  branch : Option τ
  revision : Option τ
deriving BEq, ReflBEq, LawfulBEq, DecidableEq, Repr

/-- The artifacts of a module with a name, a type and an extension, each of which may be `*`. -/
structure ArtifactId (τ : Type) where
  module : ModuleId τ
  name : τ
  type : τ
  ext : τ
deriving BEq, ReflBEq, LawfulBEq, DecidableEq, Repr

variable {τ : Type} [Field τ]

namespace ModuleId

def text (m : ModuleId τ) : String := Field.text m.organisation ++ "#" ++ Field.text m.name

/-- Organisation and name with a separator between them. -/
def joined (separator : String) (m : ModuleId τ) : String :=
  Field.text m.organisation ++ separator ++ Field.text m.name

end ModuleId

namespace RevisionId

omit [Field τ] in
def moduleId (r : RevisionId τ) : ModuleId τ := ⟨r.organisation, r.name⟩

omit [Field τ] in
/-- The revision with every text replaced. -/
def map {σ : Type} (f : τ → σ) (r : RevisionId τ) : RevisionId σ :=
  ⟨f r.organisation, f r.name, r.branch.map f, r.revision.map f⟩

/-- `organisation#name#branch;revision`, without a branch that is missing. -/
def text (r : RevisionId τ) : String :=
  let branch := match r.branch with
    | some b => "#" ++ Field.text b
    | none => ""
  let revision := match r.revision with
    | some v => Field.text v
    | none => ""
  r.moduleId.text ++ branch ++ ";" ++ revision

end RevisionId

namespace ArtifactId

/-- What matches every name, type or extension. -/
def any : String := "*"

def text (a : ArtifactId τ) : String :=
  a.module.text ++ "!" ++ Field.text a.name ++ "." ++ Field.text a.ext ++
    "(" ++ Field.text a.type ++ ")"

end ArtifactId

end OsgiIvy
