/-!
# Ordered mappings

Pairs of a key and a value, each key once.  A key stands where it was first written, and its value
is the last one written: `keys_put` gives the order, `get?_put_self` and `get?_put_of_ne` the
values.
-/

namespace OsgiIvy

structure Assoc (κ ν : Type) where
  entries : List (κ × ν)
deriving DecidableEq, Repr

namespace Assoc

variable {κ ν : Type}

def empty : Assoc κ ν := ⟨[]⟩

instance : EmptyCollection (Assoc κ ν) := ⟨empty⟩

instance : Inhabited (Assoc κ ν) := ⟨empty⟩

def keys (m : Assoc κ ν) : List κ := m.entries.map Prod.fst

def values (m : Assoc κ ν) : List ν := m.entries.map Prod.snd

def size (m : Assoc κ ν) : Nat := m.entries.length

def isEmpty (m : Assoc κ ν) : Bool := m.entries.isEmpty

variable [BEq κ]

def get? (m : Assoc κ ν) (k : κ) : Option ν := m.entries.lookup k

def getD (m : Assoc κ ν) (k : κ) (default : ν) : ν := (m.get? k).getD default

def contains (m : Assoc κ ν) (k : κ) : Bool := (m.get? k).isSome

/-- The entries with the value of `k` changed by `f`, which is given `none` and whose result is
added at the end when `k` is new. -/
def alterEntries (k : κ) (f : Option ν → ν) : List (κ × ν) → List (κ × ν)
  | [] => [(k, f none)]
  | (k', v) :: rest =>
    if k == k' then (k', f (some v)) :: rest else (k', v) :: alterEntries k f rest

def alter (m : Assoc κ ν) (k : κ) (f : Option ν → ν) : Assoc κ ν := ⟨alterEntries k f m.entries⟩

/-- Writes the value of a key. -/
def put (m : Assoc κ ν) (k : κ) (v : ν) : Assoc κ ν := m.alter k fun _ => v

/-- Writes the value of a key that has none yet. -/
def putNew (m : Assoc κ ν) (k : κ) (v : ν) : Assoc κ ν := m.alter k fun old => old.getD v

/-- The mapping that writing the pairs one after the other gives. -/
def ofList (pairs : List (κ × ν)) : Assoc κ ν :=
  pairs.foldl (fun m p => m.put p.1 p.2) empty

/-- The same keys with equal values, in any order. -/
def same [BEq ν] (m n : Assoc κ ν) : Bool :=
  m.size == n.size && m.entries.all fun e =>
    match n.get? e.1 with
    | some v => e.2 == v
    | none => false

/-! ### What writing does -/

section Laws

variable [LawfulBEq κ]

theorem lookup_alterEntries_self (k : κ) (f : Option ν → ν) (es : List (κ × ν)) :
    (alterEntries k f es).lookup k = some (f (es.lookup k)) := by
  induction es with
  | nil => simp [alterEntries]
  | cons e es ih =>
    obtain ⟨k', v⟩ := e
    by_cases h : k = k'
    · subst h
      simp [alterEntries]
    · have hk : (k == k') = false := by simpa using h
      simp [alterEntries, hk, List.lookup_cons, ih]

theorem lookup_alterEntries_of_ne {k j : κ} (h : j ≠ k) (f : Option ν → ν) (es : List (κ × ν)) :
    (alterEntries k f es).lookup j = es.lookup j := by
  have hj : (j == k) = false := by simpa using h
  induction es with
  | nil => simp [alterEntries, h]
  | cons e es ih =>
    obtain ⟨k', v⟩ := e
    by_cases hk : k = k'
    · subst hk
      simp [alterEntries, hj, List.lookup_cons]
    · have hk' : (k == k') = false := by simpa using hk
      simp [alterEntries, hk', List.lookup_cons, ih]

theorem keys_alterEntries (k : κ) (f : Option ν → ν) (es : List (κ × ν)) :
    (alterEntries k f es).map Prod.fst =
      if k ∈ es.map Prod.fst then es.map Prod.fst else es.map Prod.fst ++ [k] := by
  induction es with
  | nil => simp [alterEntries]
  | cons e es ih =>
    obtain ⟨k', v⟩ := e
    by_cases hk : k = k'
    · subst hk
      simp [alterEntries]
    · have hk' : (k == k') = false := by simpa using hk
      by_cases hm : k ∈ es.map Prod.fst
      · simp only [alterEntries, hk', Bool.false_eq_true, if_false, List.map_cons, ih, hm, if_true,
          List.mem_cons, or_true]
      · simp only [alterEntries, hk', Bool.false_eq_true, if_false, List.map_cons, ih, hm,
          List.mem_cons, hk, or_self, List.cons_append]

theorem get?_alter_self (m : Assoc κ ν) (k : κ) (f : Option ν → ν) :
    (m.alter k f).get? k = some (f (m.get? k)) :=
  lookup_alterEntries_self k f m.entries

theorem get?_alter_of_ne (m : Assoc κ ν) {k j : κ} (h : j ≠ k) (f : Option ν → ν) :
    (m.alter k f).get? j = m.get? j :=
  lookup_alterEntries_of_ne h f m.entries

theorem get?_put_self (m : Assoc κ ν) (k : κ) (v : ν) : (m.put k v).get? k = some v :=
  get?_alter_self m k _

theorem get?_put_of_ne (m : Assoc κ ν) {k j : κ} (h : j ≠ k) (v : ν) :
    (m.put k v).get? j = m.get? j :=
  get?_alter_of_ne m h _

theorem keys_alter (m : Assoc κ ν) (k : κ) (f : Option ν → ν) :
    (m.alter k f).keys = if k ∈ m.keys then m.keys else m.keys ++ [k] :=
  keys_alterEntries k f m.entries

theorem keys_put (m : Assoc κ ν) (k : κ) (v : ν) :
    (m.put k v).keys = if k ∈ m.keys then m.keys else m.keys ++ [k] :=
  keys_alter m k _

end Laws

end Assoc

end OsgiIvy
