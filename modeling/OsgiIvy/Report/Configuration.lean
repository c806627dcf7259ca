import OsgiIvy.Report.Node

/-!
# Reports on configurations

What resolving one configuration of a module came to: the nodes that were reached, each once, in
the order in which they were added, with the downloads recorded for each.  A node is found by the
revision that was requested and by the one that was chosen.
-/

namespace OsgiIvy

structure ConfigurationReport (τ : Type) where
  configuration : τ
  byRevision : Assoc (RevisionId τ) Nat
  downloads : Assoc Nat (List Nat)
deriving DecidableEq, Repr

namespace ConfigurationReport

variable {τ : Type}

/-! ### Filling -/

def empty (configuration : τ) : ConfigurationReport τ := ⟨configuration, {}, {}⟩

/-- One step of filling a report. -/
inductive Step
  | node (n : Nat)
  | download (n d : Nat)
deriving DecidableEq, Repr

section Filling

variable [BEq τ]

/-- Adds a node; its revisions lead to it from now on. -/
def addNode (x : Findings τ) (r : ConfigurationReport τ) (n : Nat) : ConfigurationReport τ :=
  { r with
    byRevision := (r.byRevision.put (x.node n).requested n).put (x.node n).resolved n
    downloads := r.downloads.putNew n [] }

/-- Records a download of a node, and adds the node. -/
def addDownload (x : Findings τ) (r : ConfigurationReport τ) (n d : Nat) : ConfigurationReport τ :=
  let r := r.addNode x n
  { r with downloads := r.downloads.alter n fun old => old.getD [] ++ [d] }

def add (x : Findings τ) (r : ConfigurationReport τ) : Step → ConfigurationReport τ
  | .node n => r.addNode x n
  | .download n d => r.addDownload x n d

/-- The report on a configuration that the steps fill. -/
def ofSteps (x : Findings τ) (configuration : τ) (steps : List Step) : ConfigurationReport τ :=
  steps.foldl (add x) (empty configuration)

end Filling

/-! ### Nodes -/

def nodes (r : ConfigurationReport τ) : List Nat := r.downloads.keys

def unresolved (x : Findings τ) (r : ConfigurationReport τ) : List Nat :=
  r.nodes.filter fun n => (x.node n).hasProblem

section Lookup

variable [BEq τ]

def node? (r : ConfigurationReport τ) (revision : RevisionId τ) : Option Nat :=
  r.byRevision.get? revision

def evicted (x : Findings τ) (r : ConfigurationReport τ) : List Nat :=
  r.nodes.filter fun n => (x.node n).isEvicted r.configuration

/-! ### Downloads -/

/-- A download of an artifact of a revision that was evicted in this configuration. -/
def isOfEvicted (x : Findings τ) (r : ConfigurationReport τ) (d : Nat) : Bool :=
  ((r.evicted x).map fun n => (x.node n).resolved).contains (x.download d).artifact.revision

/-- The downloads, node by node: those with the given status if there is one, and without those of
evicted revisions unless they are wanted. -/
def artifactReports (x : Findings τ) (r : ConfigurationReport τ) (status : Option DownloadStatus)
    (withEvicted : Bool) : List Nat :=
  (r.downloads.entries.flatMap Prod.snd).filter fun d =>
    (status.all fun s => (x.download d).status == s) && (withEvicted || !r.isOfEvicted x d)

/-- The downloads of artifacts that are not merged from another configuration. -/
def withoutMerged [Field τ] (x : Findings τ) (downloads : List Nat) : List Nat :=
  downloads.filter fun d => !(x.download d).artifact.isMerged

def failed [Field τ] (x : Findings τ) (r : ConfigurationReport τ) : List Nat :=
  withoutMerged x (r.artifactReports x (some .failed) true)

def hasError [Field τ] (x : Findings τ) (r : ConfigurationReport τ) : Bool :=
  !(r.unresolved x).isEmpty || !(r.failed x).isEmpty

/-- The downloads of the node that a revision leads to, and none if it leads to no node.  A node
that is not listed would leave no answer. -/
def downloadsOf? (r : ConfigurationReport τ) (revision : RevisionId τ) : Option (List Nat) :=
  match r.node? revision with
  | some n => r.downloads.get? n
  | none => some []

def downloadsOf (r : ConfigurationReport τ) (revision : RevisionId τ) : List Nat :=
  (r.downloadsOf? revision).getD []

end Lookup

/-- The report as logs name it. -/
def label [Field τ] (r : ConfigurationReport τ) : String :=
  "ConfigurationResolveReport(" ++ Field.quoted r.configuration ++ ", " ++
    toString r.nodes.length ++ " nodes)"

end ConfigurationReport

end OsgiIvy
