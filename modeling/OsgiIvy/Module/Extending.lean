import OsgiIvy.Module.Descriptor
import OsgiIvy.Walk

/-!
# Extending configurations

The configurations that take over what a configuration holds: those that extend it, those that
extend these, and so on.  The relation may have cycles.
-/

namespace OsgiIvy.Descriptor

variable {τ φ : Type} [BEq τ]

/-- The names of the configurations that name `parent` among those they extend, once for each time
they do. -/
def extendersOf (d : Descriptor τ φ) (parent : τ) : List τ :=
  d.configurations.flatMap fun c => (c.parents.filter (· == parent)).map fun _ => c.name

/-- The names that configurations extend. -/
def extendedNames (d : Descriptor τ φ) : List τ := d.configurations.flatMap Configuration.parents

/-- Every configuration that extends the given one, directly or not, and that one itself, in the
order of a walk. -/
def extendingConfigurations (d : Descriptor τ φ) (extended : τ) : List τ :=
  reachedFrom d.extendersOf d.extendedNames extended

end OsgiIvy.Descriptor
