import OsgiIvy.Yaml.Kind

/-!
# Nodes

The tree that a YAML text spells: texts, lists and mappings, and of what kind each of them is to be.
Nothing in it is interpreted yet.
-/

namespace OsgiIvy.Yaml

open OsgiIvy.Text (Point)

inductive Node where
  | text (kind : Kind) (points : List Point)
  | list (kind : Kind) (items : List Node)
  | mapping (kind : Kind) (entries : List (Node × Node))

namespace Node

/-- What is left out where a node could stand. -/
def empty : Node := .text .plain []

def kind : Node → Kind
  | .text kind _ => kind
  | .list kind _ => kind
  | .mapping kind _ => kind

/-! ### Keys -/

/-- A node of a kind, or a plain text of the form of that kind. -/
def isKey (kind : Kind) (form : List Char) (node : Node) : Bool :=
  node.kind = kind || match node with
    | .text .plain ps => ps = form.map .char
    | _ => false

/-- The node is a key that stands for the entries of other mappings. -/
def isMerge (node : Node) : Bool := node.isKey .merge Kind.mergeText

/-- The node is a key that marks what its mapping stands for. -/
def isValue (node : Node) : Bool := node.isKey .value Kind.valueText

/-! ### Texts -/

mutual

/-- The text that a node stands for: a mapping stands for the text of a marked value. -/
def points : Node → Except Fault (List Point)
  | .text _ ps => .ok ps
  | .list .. => .error (.malformed 0)
  | .mapping _ entries => markedPoints entries

def markedPoints : List (Node × Node) → Except Fault (List Point)
  | [] => .error (.malformed 0)
  | (key, node) :: rest => if key.isValue then points node else markedPoints rest

end

/-- The value of a node of a kind whose values stand for no other nodes. -/
def scalar (kind : Kind) (node : Node) : Except Fault Value := do
  let ps ← node.points
  match kind, node with
  | .moment, .mapping .. => .error (.misfit .notText (Point.text ps))
  | _, _ => kind.read ps

end Node

end OsgiIvy.Yaml
