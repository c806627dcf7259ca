import OsgiIvy.Module.Field

/-!
# Configurations

Named groups of a module's dependencies and artifacts.  A configuration extends others and takes
over what they hold; the relation may have cycles.
-/

namespace OsgiIvy

/-- Whether those who depend on a module see a configuration. -/
inductive Visibility
  | shared
  | internal
deriving DecidableEq, Repr

namespace Visibility

def name : Visibility → String
  | .shared => "public"
  | .internal => "private"

def ofName? (name : String) : Option Visibility :=
  if name = "public" then some .shared else if name = "private" then some .internal else none

end Visibility

structure Configuration (τ φ : Type) where
  name : τ
  visibility : Visibility
  description : τ
  parents : List τ
  transitive : φ
  deprecated : Option τ
deriving BEq, ReflBEq, LawfulBEq, DecidableEq, Repr

namespace Configuration

variable {τ φ : Type} [Field τ] [Flag φ]

/-- A public, transitive configuration with nothing but a name. -/
def named (name : τ) : Configuration τ φ :=
  ⟨name, .shared, Field.ofText "", [], Flag.ofBool true, none⟩

/-! ### Configurations of a bundle -/

def defaultName : String := "default"

def optionalName : String := "optional"

def transitiveOptionalName : String := "transitive-optional"

/-- The name of the configuration that stands for using a package. -/
def useName (package : String) : String := "use_" ++ package

def forDefault : Configuration String Bool := named defaultName

def forOptional : Configuration String Bool :=
  { named optionalName with description := "Optional dependencies", parents := [defaultName] }

def forTransitiveOptional : Configuration String Bool :=
  { named transitiveOptionalName with
    description := "Optional dependencies", parents := [optionalName] }

/-- Using a package takes over the use of every package it uses, then the default
configuration. -/
def forUse (package : String) (uses : List String) : Configuration String Bool :=
  { named (useName package) with
    description := "Exported package " ++ package
    parents := uses.map useName ++ [defaultName] }

end Configuration

end OsgiIvy
