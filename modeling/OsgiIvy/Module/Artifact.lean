import OsgiIvy.Module.Id
import OsgiIvy.Sorted

/-!
# Artifacts

A file that a module revision publishes.  Two artifacts are equal if their parts are, the extra
attributes in any order; `canonical` puts these in order.
-/

namespace OsgiIvy

structure Artifact (τ : Type) where
  revision : RevisionId τ
  name : Option τ
  type : Option τ
  ext : Option τ
  url : Option τ
  extra : Assoc τ τ
deriving DecidableEq, Repr

/-- What the hash of an artifact is made of. -/
structure HashedParts where
  revision : RevisionId String
  name : Option String
  type : Option String
  ext : Option String
  url : Option String
  extra : List (String × String)
deriving DecidableEq, Repr

namespace Artifact

/-- The artifact with every text replaced. -/
def map {τ σ : Type} (f : τ → σ) (a : Artifact τ) : Artifact σ :=
  ⟨a.revision.map f, a.name.map f, a.type.map f, a.ext.map f, a.url.map f,
    ⟨a.extra.entries.map fun e => (f e.1, f e.2)⟩⟩

variable {τ : Type} [BEq τ]

def same (a b : Artifact τ) : Bool :=
  a.revision == b.revision && a.name == b.name && a.type == b.type && a.ext == b.ext &&
    a.url == b.url && a.extra.same b.extra

instance : BEq (Artifact τ) := ⟨same⟩

/-- The artifact with its extra attributes in the order of their names. -/
def canonical (a : Artifact String) : Artifact String :=
  { a with extra := ⟨sortBy (fun e f => textLe e.1 f.1) a.extra.entries⟩ }

/-- The parts of an artifact, with the names and values of the extra attributes in order. -/
def hashedParts (a : Artifact String) : HashedParts :=
  ⟨a.revision, a.name, a.type, a.ext, a.url, sortBy pairLe a.extra.entries⟩

variable [Field τ]

/-- The attribute of an artifact that was resolved once for several configurations. -/
def mergedAttribute : String := "ivy:merged"

def extra? (a : Artifact τ) (name : String) : Option τ :=
  (a.extra.get? (Field.ofText name)).bind Field.present?

def isMerged (a : Artifact τ) : Bool := (a.extra? mergedAttribute).isSome

/-- The revision, name and extension, and the type unless it equals the extension. -/
def text (a : Artifact τ) : String :=
  let suffix := if a.type == a.ext then "" else "(" ++ Field.optionText a.type ++ ")"
  a.revision.text ++ "!" ++ Field.optionText a.name ++ "." ++ Field.optionText a.ext ++ suffix

end Artifact

end OsgiIvy
