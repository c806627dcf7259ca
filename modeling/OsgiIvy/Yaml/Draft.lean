import OsgiIvy.Yaml.Node

/-!
# Drafts

A node with its texts interpreted and with the entries that it takes over from other mappings in
their place.  A draft may hold several faults; which of them counts is settled level by level: the
parts of a list or mapping are looked at when all lists and mappings that are less deep, and those
on the same level in front of it, have been.
-/

namespace OsgiIvy.Yaml

inductive Draft where
  | scalar (value : Except Fault Value)
  | list (items : List Draft)
  | mapping (entries : List (Draft × Draft))
  /-- Something that is no list or mapping and has to be one, or a mapping that takes over entries
  from something else than mappings. -/
  | broken (fault : Fault)

namespace Draft

/-! ### Interpreting nodes -/

/-- What the entries of a mapping add to it: entries of other mappings, and entries of its own. -/
structure Entries where
  merged : List (Draft × Draft)
  own : List (Draft × Draft)

def Entries.all (es : Entries) : List (Draft × Draft) := es.merged ++ es.own

def ofEntries : Except Fault Entries → Draft
  | .ok es => .mapping es.all
  | .error fault => .broken fault

mutual

def ofNode : Node → Draft
  | .text .list _ | .text .mapping _ => .broken (.malformed 0)
  | .text kind ps => .scalar (kind.read ps)
  | .list .list items => .list (ofItems items)
  | .list .mapping _ => .broken (.malformed 0)
  | .list kind items => .scalar ((Node.list kind items).scalar kind)
  | .mapping .mapping entries => ofEntries (readEntries entries)
  | .mapping .list _ => .broken (.malformed 0)
  | .mapping kind entries => .scalar ((Node.mapping kind entries).scalar kind)

/-- A key.  One that marks a value stands for its text. -/
def ofKey : Node → Draft
  | node => if node.isValue then .scalar (node.scalar .text) else ofNode node

def ofItems : List Node → List Draft
  | [] => []
  | node :: rest => ofNode node :: ofItems rest

def readEntries : List (Node × Node) → Except Fault Entries
  | [] => .ok ⟨[], []⟩
  | (key, node) :: rest => do
    if key.isMerge then
      let merged ← mergedEntries node
      let es ← readEntries rest
      pure ⟨merged ++ es.merged, es.own⟩
    else
      let es ← readEntries rest
      pure ⟨es.merged, (ofKey key, ofNode node) :: es.own⟩

/-- The entries that a mapping takes over: those of another, or those of a list of mappings, the
last first. -/
def mergedEntries : Node → Except Fault (List (Draft × Draft))
  | .text .. => .error (.malformed 0)
  | .list _ items => mergedItems items
  | .mapping _ entries => (readEntries entries).map Entries.all

def mergedItems : List Node → Except Fault (List (Draft × Draft))
  | [] => .ok []
  | .mapping _ entries :: rest => do
    let es ← readEntries entries
    return (← mergedItems rest) ++ es.all
  | _ :: _ => .error (.malformed 0)

end

/-! ### Faults -/

/-- The fault of a text that stands for nothing. -/
def scalarFaults : Draft → List Fault
  | .scalar (.error fault) => [fault]
  | _ => []

/-- The fault of a key, which has to be a scalar. -/
def keyFaults : Draft → List Fault
  | .scalar r => scalarFaults (.scalar r)
  | _ => [.malformed 0]

/-- Puts the lists for each level together. -/
def joinLevels : List (List Fault) → List (List Fault) → List (List Fault)
  | [], bs => bs
  | as, [] => as
  | a :: as, b :: bs => (a ++ b) :: joinLevels as bs

mutual

/-- The faults of the parts of lists and mappings, for each level from the outside in. -/
def levels : Draft → List (List Fault)
  | .scalar _ => []
  | .list items => items.flatMap scalarFaults :: levelsOfItems items
  | .mapping entries =>
    (entries.flatMap fun e => keyFaults e.1 ++ scalarFaults e.2) :: levelsOfEntries entries
  | .broken fault => [[fault]]

def levelsOfItems : List Draft → List (List Fault)
  | [] => []
  | d :: rest => joinLevels (levels d) (levelsOfItems rest)

def levelsOfEntries : List (Draft × Draft) → List (List Fault)
  | [] => []
  | (_, d) :: rest => joinLevels (levels d) (levelsOfEntries rest)

end

/-- The fault that counts. -/
def fault? (d : Draft) : Option Fault := (d.scalarFaults ++ d.levels.flatten).head?

/-! ### Values -/

mutual

/-- The value of a draft without faults. -/
def value : Draft → Value
  | .scalar (.ok v) => v
  | .scalar (.error _) => .null
  | .list items => .list (values items)
  | .mapping entries => Value.ofEntries (valueEntries entries)
  | .broken _ => .null

def values : List Draft → List Value
  | [] => []
  | d :: rest => value d :: values rest

def valueEntries : List (Draft × Draft) → List (Value × Value)
  | [] => []
  | (key, d) :: rest => (value key, value d) :: valueEntries rest

end

def value? (d : Draft) : Except Fault Value :=
  match d.fault? with
  | some fault => .error fault
  | none => .ok d.value

end Draft

end OsgiIvy.Yaml
