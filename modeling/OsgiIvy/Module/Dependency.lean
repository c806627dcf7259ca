import OsgiIvy.Distinct
import OsgiIvy.Module.Id

/-!
# Dependencies

An edge to another module revision.  It routes configurations of the module that depends, its
masters, to configurations of the dependency; masters stand in the order of their first route.
-/

namespace OsgiIvy

open OsgiIvy.Text (quoted)

structure Dependency (τ φ : Type) where
  revision : RevisionId τ
  force : φ
  changing : φ
  transitive : φ
  routes : Assoc τ (List τ)

/-- Excludes artifacts from configurations. -/
structure ExcludeRule (τ : Type) where
  artifact : ArtifactId τ
  matcher : τ
  configurations : List τ
deriving DecidableEq, Repr

deriving instance DecidableEq, Repr for Dependency

namespace Dependency

variable {τ φ : Type} [BEq τ]

/-- Adds a route from a master to a configuration of the dependency. -/
def addRoute (d : Dependency τ φ) (master target : τ) : Dependency τ φ :=
  { d with routes := d.routes.alter master fun old => addNew (old.getD []) target }

omit [BEq τ] in
def masters (d : Dependency τ φ) : List τ := d.routes.keys

def targets (d : Dependency τ φ) (master : τ) : List τ := d.routes.getD master []

omit [BEq τ] in
/-- All pairs of a master and a configuration it is routed to, master by master. -/
def mappings (d : Dependency τ φ) : List (τ × τ) :=
  d.routes.entries.flatMap fun e => e.2.map (e.1, ·)

/-- A dependency without routes, forced or not, that does not change. -/
def onRevision [Flag φ] (revision : RevisionId τ) (force transitive : Bool) : Dependency τ φ :=
  ⟨revision, Flag.ofBool force, Flag.ofBool false, Flag.ofBool transitive, {}⟩

end Dependency

namespace Dependency

/-- The edge as logs name it. -/
def label {τ φ : Type} [Field τ] [Flag φ] (d : Dependency τ φ) : String :=
  let route (e : τ × List τ) :=
    Field.quoted e.1 ++ ": [" ++ ", ".intercalate (e.2.map Field.quoted) ++ "]"
  "DependencyDescriptor(" ++ d.revision.text ++ ", force=" ++ (Flag.toValue d.force).text ++
    ", confs=\x7b" ++ ", ".intercalate (d.routes.entries.map route) ++ "\x7d)"

end Dependency

namespace ExcludeRule

variable {τ : Type} [BEq τ]

def addConfiguration (r : ExcludeRule τ) (name : τ) : ExcludeRule τ :=
  { r with configurations := addNew r.configurations name }

/-- How a rule compares names unless it says otherwise. -/
def defaultMatcher : String := "exactOrRegexp"

end ExcludeRule

end OsgiIvy
