import OsgiIvy.Module.Artifact

/-!
# Resolved nodes and downloads

What resolving a module comes to: a node for each module revision that was reached, and a download
for each artifact that was fetched.  Reports refer to both by number; two nodes may agree in all
their parts and still be two.
-/

namespace OsgiIvy

/-- A dependency of the resolved module.  `roots` are the configurations of the module through which
it was reached, `configurations` the node's own configurations selected for each of them, and
`evictedIn` the roots where it lost to another revision. -/
structure Node (τ : Type) where
  requested : RevisionId τ
  resolved : RevisionId τ
  roots : List τ
  configurations : Assoc τ (List τ)
  evictedIn : List τ
  problem : String
  artifacts : List (Artifact τ)
deriving DecidableEq, Repr

namespace Node

variable {τ : Type}

/-- A node without any parts. -/
def bare (requested : RevisionId τ) : Node τ := ⟨requested, requested, [], {}, [], "", []⟩

def moduleId (n : Node τ) : ModuleId τ := n.requested.moduleId

def hasProblem (n : Node τ) : Bool := n.problem ≠ ""

def text [Field τ] (n : Node τ) : String := n.resolved.text

/-- The artifacts of the node that a filter lets pass. -/
def selected (n : Node τ) (filter : Artifact τ → Bool) : List (Artifact τ) :=
  n.artifacts.filter filter

variable [BEq τ]

def isEvicted (n : Node τ) (root : τ) : Bool := n.evictedIn.contains root

/-- The node was reached, and it lost wherever it was. -/
def isCompletelyEvicted (n : Node τ) : Bool := !n.roots.isEmpty && n.roots.all n.isEvicted

def configurationsAt (n : Node τ) (root : τ) : List τ := n.configurations.getD root []

/-- The node takes part in what is to be fetched. -/
def isUsable (n : Node τ) : Bool := !n.isCompletelyEvicted && !n.hasProblem

end Node

/-! ### Downloads -/

/-- How a download ended; the artifact may have been present already. -/
inductive DownloadStatus
  | present
  | successful
  | failed
deriving DecidableEq, Repr

namespace DownloadStatus

def name : DownloadStatus → String
  | .present => "no"
  | .successful => "successful"
  | .failed => "failed"

def all : List DownloadStatus := [.present, .successful, .failed]

def ofName? (name : String) : Option DownloadStatus := all.find? (·.name = name)

theorem ofName?_name (s : DownloadStatus) : ofName? s.name = some s := by
  cases s <;> decide

end DownloadStatus

structure Download (τ : Type) where
  artifact : Artifact τ
  status : DownloadStatus
deriving DecidableEq, Repr

/-- All nodes and downloads, by number. -/
structure Findings (τ : Type) where
  node : Nat → Node τ
  download : Nat → Download τ

namespace Findings

variable {τ : Type}

def updateNode (x : Findings τ) (n : Nat) (change : Node τ → Node τ) : Findings τ :=
  { x with node := fun i => if i = n then change (x.node i) else x.node i }

def updateDownload (x : Findings τ) (n : Nat) (change : Download τ → Download τ) : Findings τ :=
  { x with download := fun i => if i = n then change (x.download i) else x.download i }

end Findings

end OsgiIvy
