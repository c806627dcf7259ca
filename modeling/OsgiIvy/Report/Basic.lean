import OsgiIvy.Distinct
import OsgiIvy.Module.Descriptor
import OsgiIvy.Report.Configuration

/-!
# Reports on modules

What resolving a module came to: the reports on its configurations, the dependencies that were
found, the artifacts to fetch, and problems.  A configuration report may be registered for several
configurations, and it may go on being filled; reports are known by number.
-/

namespace OsgiIvy

structure Report (τ φ : Type) where
  descriptor : Descriptor τ φ
  resolveId : String
  findings : Findings τ
  parts : List (ConfigurationReport τ)
  registered : Assoc τ Nat
  problems : List String
  dependencies : List Nat
  artifacts : List (Artifact τ)

namespace Report

variable {τ φ : Type}

/-- A report on which nothing has been recorded.  Without a name of its own, the resolution is named
for the module. -/
def empty [Field τ] (d : Descriptor τ φ) (resolveId : Option String) (separator : String)
    (findings : Findings τ) : Report τ φ where
  descriptor := d
  resolveId := match resolveId with
    | some name => if name = "" then d.revision.moduleId.joined separator else name
    | none => d.revision.moduleId.joined separator
  findings := findings
  parts := []
  registered := {}
  problems := []
  dependencies := []
  artifacts := []

/-! ### Configuration reports -/

/-- Adds an empty report on a configuration, which is not registered. -/
def addPart (r : Report τ φ) (configuration : τ) : Report τ φ :=
  { r with parts := r.parts ++ [.empty configuration] }

/-- Goes on filling a configuration report. -/
def fill [BEq τ] (r : Report τ φ) (part : Nat) (step : ConfigurationReport.Step) : Report τ φ :=
  { r with parts := r.parts.modify part fun c => c.add r.findings step }

/-- The registered reports, in the order of their configurations' first registration. -/
def registeredParts (r : Report τ φ) : List (ConfigurationReport τ) :=
  r.registered.values.filterMap fun part => r.parts[part]?

def configurations (r : Report τ φ) : List τ := r.registered.keys

section Registered

variable [BEq τ]

/-- Registers a report for a configuration. -/
def register (r : Report τ φ) (configuration : τ) (part : Nat) : Report τ φ :=
  { r with registered := r.registered.put configuration part }

def part? (r : Report τ φ) (configuration : τ) : Option (ConfigurationReport τ) :=
  (r.registered.get? configuration).bind fun part => r.parts[part]?

/-! ### Views across configurations -/

def evicted (r : Report τ φ) : List Nat :=
  distinct (r.registeredParts.flatMap fun c => c.evicted r.findings)

def artifactReports (r : Report τ φ) (status : Option DownloadStatus) (withEvicted : Bool) :
    List Nat :=
  distinct (r.registeredParts.flatMap fun c => c.artifactReports r.findings status withEvicted)

def downloadsOf (r : Report τ φ) (revision : RevisionId τ) : List Nat :=
  distinct (r.registeredParts.flatMap fun c => c.downloadsOf revision)

end Registered

def unresolved (r : Report τ φ) : List Nat :=
  distinct (r.registeredParts.flatMap fun c => c.unresolved r.findings)

section Failures

variable [BEq τ] [Field τ]

def failed (r : Report τ φ) : List Nat :=
  ConfigurationReport.withoutMerged r.findings (r.artifactReports (some .failed) true)

def hasError (r : Report τ φ) : Bool := r.registeredParts.any fun c => c.hasError r.findings

omit [BEq τ] in
/-- The line about a node that was not resolved. -/
def unresolvedMessage (n : Node τ) : String :=
  "unresolved dependency: " ++ n.requested.text ++
    if n.hasProblem then ": " ++ n.problem else ""

/-- The line about an artifact that could not be fetched. -/
def failureMessage (d : Download τ) : String := "download failed: " ++ d.artifact.text

def partMessages (x : Findings τ) (c : ConfigurationReport τ) : List String :=
  (c.unresolved x).map (fun n => unresolvedMessage (x.node n)) ++
    (c.failed x).map fun d => failureMessage (x.download d)

/-- The problems that were put on record, then those of each configuration. -/
def allProblems (r : Report τ φ) : List String :=
  r.problems ++ r.registeredParts.flatMap (partMessages r.findings)

end Failures

/-! ### Dependencies -/

/-- The numbers of the configuration reports that a node belongs to. -/
def partsOf [BEq τ] (r : Report τ φ) (n : Node τ) : List Nat := n.roots.filterMap r.registered.get?

/-- Adds a node to the reports on the configurations through which it was reached. -/
def dispatch [BEq τ] (r : Report τ φ) (n : Nat) : Report τ φ :=
  (r.partsOf (r.findings.node n)).foldl (fun r part => r.fill part (.node n)) r

/-- Records the dependencies that were found and the artifacts to fetch for them. -/
def setDependencies [BEq τ] (r : Report τ φ) (nodes : List Nat) (filter : Artifact τ → Bool) :
    Report τ φ :=
  let usable := nodes.filter fun n => (r.findings.node n).isUsable
  nodes.foldl dispatch { r with
    dependencies := nodes
    artifacts := usable.flatMap fun n => (r.findings.node n).selected filter }

/-- The modules of the dependencies, each once. -/
def moduleIds [BEq τ] (r : Report τ φ) : List (ModuleId τ) :=
  distinct (r.dependencies.map fun n => (r.findings.node n).resolved.moduleId)

end Report

end OsgiIvy
