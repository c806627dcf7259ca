import OsgiIvy.Report.Basic
import OsgiIvy.Settings

/-!
# Fixed descriptors

The descriptor of a module as it was resolved: its configurations extend nothing, and its
dependencies are pinned to the revisions that were chosen.
-/

namespace OsgiIvy.Report

open OsgiIvy.Time (Moment)

variable {τ φ : Type} [BEq τ] [Field τ] [Flag φ]

/-! ### Dependencies -/

/-- The roots in which a node was not evicted. -/
def survivingRoots (n : Node τ) : List τ := n.roots.filter fun root => !n.isEvicted root

/-- The edge to a node, without routes: to the chosen revision, forced, or to the requested one of a
module that is to be kept. -/
def pinned (keep : List (ModuleId τ)) (n : Node τ) : Dependency τ φ :=
  if keep.contains n.moduleId then .onRevision n.requested false false
  else .onRevision n.resolved true false

/-- The edge to a node, unless it was evicted in all its roots. -/
def fixedEdge? (keep : List (ModuleId τ)) (n : Node τ) : Option (Dependency τ φ) :=
  let roots := survivingRoots n
  if roots.isEmpty then none
  else some ((roots.flatMap fun root => (n.configurationsAt root).map (root, ·)).foldl
    (fun e route => e.addRoute route.1 route.2) (pinned keep n))

/-! ### The descriptor -/

/-- The configurations that were reported on, without their definitions. -/
def plainConfigurations (names : List τ) : List (Configuration τ φ) := names.map .named

/-- Binds the artifacts that a descriptor has for the given configurations. -/
def bindArtifacts (d : Descriptor τ φ) (names : List τ) (fixed : Descriptor τ φ) : Descriptor τ φ :=
  names.foldl (fun fixed name =>
    (d.artifactsOf name).foldl (fun fixed a => fixed.addArtifact name a) fixed) fixed

/-- The descriptor of the module as it was resolved, published now. -/
def fixed (now : Moment) (settings : Settings) (keep : List (ModuleId τ)) (r : Report τ φ) :
    Descriptor τ φ :=
  let d := r.descriptor
  let status := if Field.isEmpty d.status then Field.ofText settings.status else d.status
  bindArtifacts d r.configurations { (Descriptor.empty d.revision status : Descriptor τ φ) with
    publicationDate := some now
    description := d.description
    homePage := d.homePage
    extraInfos := d.extraInfos
    namespaces := d.namespaces
    configurations := plainConfigurations r.configurations
    dependencies := r.dependencies.filterMap fun n => fixedEdge? keep (r.findings.node n) }

end OsgiIvy.Report
