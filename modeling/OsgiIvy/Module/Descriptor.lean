import OsgiIvy.Module.Artifact
import OsgiIvy.Module.Configuration
import OsgiIvy.Module.Dependency

/-!
# Module descriptors

Everything known about a module revision: its configurations, each name once, its dependencies, its
artifacts by configuration, its exclude rules and free-form information.  `Edit` lists the ways to
change a descriptor, and `Descriptor.edit` carries one out.
-/

namespace OsgiIvy

open OsgiIvy.Time (Moment)

structure Descriptor (τ φ : Type) where
  revision : RevisionId τ
  status : τ
  publicationDate : Option Moment
  description : τ
  homePage : Option τ
  extraInfos : List (τ × τ)
  namespaces : Assoc τ τ
  dependencies : List (Dependency τ φ)
  excludeRules : List (ExcludeRule τ)
  configurations : List (Configuration τ φ)
  artifacts : Assoc τ (List (Artifact τ))
deriving DecidableEq, Repr

/-- A descriptor whose fields are texts and truth values. -/
abbrev ModuleDescriptor := Descriptor String Bool

/-- A configuration that differs from the one registered under its name. -/
structure Clash (τ : Type) where
  name : τ
  revision : RevisionId τ
deriving DecidableEq, Repr

def Clash.message {τ : Type} [Field τ] (c : Clash τ) : String :=
  "Configuration " ++ Field.quoted c.name ++ " is already defined on " ++ c.revision.text ++
    " with a different definition"

namespace Descriptor

def defaultStatus : String := "integration"

variable {τ φ : Type}

/-- A descriptor with nothing in it. -/
def empty [Field τ] (revision : RevisionId τ) (status : τ) : Descriptor τ φ where
  revision := revision
  status := status
  publicationDate := none
  description := Field.ofText ""
  homePage := none
  extraInfos := []
  namespaces := {}
  dependencies := []
  excludeRules := []
  configurations := []
  artifacts := {}

/-! ### Configurations -/

def configurationNames (d : Descriptor τ φ) : List τ := d.configurations.map Configuration.name

section Lookup

variable [BEq τ]

def configuration? (d : Descriptor τ φ) (name : τ) : Option (Configuration τ φ) :=
  d.configurations.find? (·.name == name)

/-- Registers a configuration.  One that is registered already changes nothing, and one that
differs from it is a clash. -/
def addConfiguration [BEq φ] (d : Descriptor τ φ) (c : Configuration τ φ) :
    Except (Clash τ) (Descriptor τ φ) :=
  match d.configuration? c.name with
  | none => .ok { d with configurations := d.configurations ++ [c] }
  | some registered => if registered == c then .ok d else .error ⟨c.name, d.revision⟩

/-- Registers a configuration unless its name is taken. -/
def ensureConfiguration (d : Descriptor τ φ) (c : Configuration τ φ) : Descriptor τ φ :=
  if (d.configuration? c.name).isSome then d
  else { d with configurations := d.configurations ++ [c] }

/-- The configuration that answers to a name once it is ensured: the registered one, or else the
given one. -/
def ensured (d : Descriptor τ φ) (c : Configuration τ φ) : Configuration τ φ :=
  (d.configuration? c.name).getD c

/-! ### Artifacts -/

def artifactsOf (d : Descriptor τ φ) (configuration : τ) : List (Artifact τ) :=
  d.artifacts.getD configuration []

def addArtifact (d : Descriptor τ φ) (configuration : τ) (a : Artifact τ) : Descriptor τ φ :=
  { d with artifacts := d.artifacts.alter configuration fun old => old.getD [] ++ [a] }

/-- Every artifact once, in the order of the configurations' first artifacts. -/
def allArtifacts (d : Descriptor τ φ) : List (Artifact τ) :=
  distinct (d.artifacts.entries.flatMap Prod.snd)

/-! ### Everything else -/

def extraInfo? (d : Descriptor τ φ) (name : τ) : Option τ := d.extraInfos.lookup name

def addNamespace (d : Descriptor τ φ) (short long : τ) : Descriptor τ φ :=
  { d with namespaces := d.namespaces.put short long }

end Lookup

def addDependency (d : Descriptor τ φ) (e : Dependency τ φ) : Descriptor τ φ :=
  { d with dependencies := d.dependencies ++ [e] }

def addExcludeRule (d : Descriptor τ φ) (r : ExcludeRule τ) : Descriptor τ φ :=
  { d with excludeRules := d.excludeRules ++ [r] }

def addExtraInfo (d : Descriptor τ φ) (name content : τ) : Descriptor τ φ :=
  { d with extraInfos := d.extraInfos ++ [(name, content)] }

/-- The descriptor as logs name it. -/
def label [Field τ] (d : Descriptor τ φ) : String := "ModuleDescriptor(" ++ d.revision.text ++ ")"

/-! ### Edits -/

inductive Edit (τ φ : Type)
  | addConfiguration (c : Configuration τ φ)
  | ensureConfiguration (c : Configuration τ φ)
  | addArtifact (configuration : τ) (a : Artifact τ)
  | addDependency (e : Dependency τ φ)
  /-- A route of the dependency at an index. -/
  | addRoute (index : Nat) (master target : τ)
  | addExcludeRule (r : ExcludeRule τ)
  /-- A configuration of the rule at an index. -/
  | restrictRule (index : Nat) (configuration : τ)
  | addExtraInfo (name content : τ)
  | addNamespace (short long : τ)
  | setStatus (status : τ)
  | setDescription (description : τ)
  | setHomePage (homePage : Option τ)

/-- Carries out an edit; an index beyond the end changes nothing. -/
def edit [BEq τ] [BEq φ] (d : Descriptor τ φ) : Edit τ φ → Except (Clash τ) (Descriptor τ φ)
  | .addConfiguration c => d.addConfiguration c
  | .ensureConfiguration c => .ok (d.ensureConfiguration c)
  | .addArtifact configuration a => .ok (d.addArtifact configuration a)
  | .addDependency e => .ok (d.addDependency e)
  | .addRoute index master target =>
    .ok { d with dependencies := d.dependencies.modify index (·.addRoute master target) }
  | .addExcludeRule r => .ok (d.addExcludeRule r)
  | .restrictRule index configuration =>
    .ok { d with excludeRules := d.excludeRules.modify index (·.addConfiguration configuration) }
  | .addExtraInfo name content => .ok (d.addExtraInfo name content)
  | .addNamespace short long => .ok (d.addNamespace short long)
  | .setStatus status => .ok { d with status := status }
  | .setDescription description => .ok { d with description := description }
  | .setHomePage homePage => .ok { d with homePage := homePage }

/-- Carries out edits one after the other; one that clashes leaves the descriptor as it is. -/
def edits [BEq τ] [BEq φ] (d : Descriptor τ φ) (es : List (Edit τ φ)) : Descriptor τ φ :=
  es.foldl (fun d e => match d.edit e with
    | .ok changed => changed
    | .error _ => d) d

end Descriptor

end OsgiIvy
