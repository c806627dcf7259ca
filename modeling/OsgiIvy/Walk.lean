/-!
# Walks through graphs

Everything that can be reached from a start by following edges, cycles or not.  `walk` keeps the
places still to be visited on a stack and visits each place once.
-/

namespace OsgiIvy

variable {α : Type} [BEq α]

/-- Visits the places on the stack and all that they lead to, and lists what was seen, in order.
The fuel bounds the places taken from the stack. -/
def walk (next : α → List α) : Nat → List α → List α → List α
  | 0, seen, _ => seen
  | _, seen, [] => seen
  | fuel + 1, seen, place :: stack =>
    if seen.contains place then walk next fuel seen stack
    else walk next fuel (seen ++ [place]) ((next place).reverse ++ stack)

omit [BEq α] in
/-- Every place but the start is put on the stack by an edge from a place seen for the first time,
so the edges bound the walk. -/
def edgeCount (next : α → List α) (places : List α) : Nat :=
  places.foldl (fun n place => n + (next place).length) 0

/-- The places that can be reached from the start, when only `places` lead anywhere. -/
def reachedFrom (next : α → List α) (places : List α) (start : α) : List α :=
  walk next (edgeCount next places + 1) [] [start]

/-- Being reached by following edges, in any number of steps. -/
inductive Reaches (next : α → List α) : α → α → Prop
  | refl (a : α) : Reaches next a a
  | step {a b c : α} : Reaches next a b → c ∈ next b → Reaches next a c

end OsgiIvy
