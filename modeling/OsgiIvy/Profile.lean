import OsgiIvy.Sorted
import OsgiIvy.Value.Fields
import OsgiIvy.Walk

/-!
# Execution environments

The packages that a platform provides.  A profile inherits the packages of the profiles it extends,
directly or not; `Profiles.ofValue` reads declarations and works the inheritance out.
-/

namespace OsgiIvy

/-- The packages of every known environment, by the environment's name. -/
abbrev Profiles := Assoc String NameSet

namespace Profiles

/-- The names of the known environments. -/
def environments (p : Profiles) : NameSet := .ofList p.keys

/-! ### Declarations -/

/-- What a profile declares itself. -/
structure Declaration where
  parents : List String
  packages : List String
deriving DecidableEq, Repr

abbrev Declarations := Assoc String Declaration

inductive Fault
  | notMapping (name : Value)
  | unknownParent (name parent : String)
  | value (fault : Value.Fault)

def Fault.message : Fault → String
  | .notMapping name => "Profile " ++ name.quoted ++ " must be a mapping"
  | .unknownParent name parent =>
    "Profile " ++ Text.quoted name ++ " extends unknown profile " ++ Text.quoted parent
  | .value _ => ""

/-- The profiles that a profile extends, directly or not, itself first. -/
def ancestors (declared : Declarations) (name : String) : List String :=
  let parents (n : String) := ((declared.get? n).map Declaration.parents).getD []
  reachedFrom parents declared.keys name

/-- The packages of a profile and all that it extends. -/
def packagesOf (declared : Declarations) (name : String) : Except Fault NameSet :=
  let names := ancestors declared name
  match names.find? (!declared.contains ·) with
  | some parent => .error (.unknownParent name parent)
  | none =>
    .ok (.ofList (names.flatMap fun n => ((declared.get? n).map Declaration.packages).getD []))

/-- Works out the packages of every declared profile. -/
def ofDeclarations (declared : Declarations) : Except Fault Profiles := do
  let profiles ← declared.keys.mapM fun name => do
    let packages ← packagesOf declared name
    pure (name, packages)
  pure ⟨profiles⟩

/-! ### Reading -/

/-- A field that is empty in any way, or the texts of its elements. -/
def textsOf (v : Value) : Except Value.Fault (List String) := do
  if v.isTruthy then (← v.elements).mapM Value.asText else pure []

/-- The parents of a profile: one name, or the elements of a value. -/
def parentsOf (v : Value) : Except Value.Fault (List String) :=
  match v with
  | .string s => .ok (if s.isEmpty then [] else [s])
  | .torn _ => .ok [v.text]
  | _ => textsOf v

/-- Reads the declaration of a profile; null declares nothing. -/
def readDeclaration (name entry : Value) : Except Fault Declaration :=
  let read (entry : Value) : Except Value.Fault Declaration := do
    let parents ← entry.fieldD "extends" .null
    let packages ← entry.fieldD "packages" .null
    pure ⟨← parentsOf parents, ← textsOf packages⟩
  match entry with
  | .null => .ok ⟨[], []⟩
  | .mapping _ => (read entry).mapError .value
  | _ => .error (if name.hasText then .notMapping name else .value .badContent)

/-- Reads declarations one after the other; a repeated name keeps its place. -/
def readDeclarations (entries : List (Value × Value)) : Except Fault Declarations :=
  entries.foldlM (fun declared e => do
    let declaration ← readDeclaration e.1 e.2
    let name ← e.1.asText.mapError .value
    pure (declared.put name declaration)) {}

/-- The profiles that the entries of a mapping declare. -/
def ofEntries (entries : List (Value × Value)) : Except Fault Profiles := do
  ofDeclarations (← readDeclarations entries)

end Profiles

end OsgiIvy
