/-!
# Sorted lists

Sorting by insertion, which keeps equal elements in their order, and sets of names.  All orders
of texts in this library are by code point.
-/

namespace OsgiIvy

/-- Puts an element in front of the first one that it does not exceed. -/
def insertSorted {α : Type} (le : α → α → Bool) (a : α) : List α → List α
  | [] => [a]
  | b :: rest => if le a b then a :: b :: rest else b :: insertSorted le a rest

def sortBy {α : Type} (le : α → α → Bool) (as : List α) : List α :=
  as.foldr (insertSorted le) []

theorem insertSorted_perm {α : Type} (le : α → α → Bool) (a : α) (bs : List α) :
    (insertSorted le a bs).Perm (a :: bs) := by
  induction bs with
  | nil => exact List.Perm.refl _
  | cons b rest ih =>
    by_cases h : le a b = true
    · simp [insertSorted, h]
    · simp only [insertSorted, h, Bool.false_eq_true, if_false]
      exact (List.Perm.cons b ih).trans (List.Perm.swap a b rest)

theorem sortBy_perm {α : Type} (le : α → α → Bool) (as : List α) : (sortBy le as).Perm as := by
  induction as with
  | nil => exact List.Perm.refl _
  | cons a as ih =>
    simp only [sortBy, List.foldr_cons] at ih ⊢
    exact (insertSorted_perm le a _).trans (List.Perm.cons a ih)

/-- Text `a` stands before text `b` or equals it. -/
def textLe (a b : String) : Bool := !decide (b < a)

/-- Pairs by their first texts, and those with the same first text by their second ones. -/
def pairLe (p q : String × String) : Bool :=
  if p.1 = q.1 then textLe p.2 q.2 else textLe p.1 q.1

/-- A set of names: each once, in order. -/
structure NameSet where
  names : List String
deriving DecidableEq, Repr

namespace NameSet

def empty : NameSet := ⟨[]⟩

instance : EmptyCollection NameSet := ⟨empty⟩

instance : Inhabited NameSet := ⟨empty⟩

/-- Adds a name to names in order. -/
def insertName (a : String) : List String → List String
  | [] => [a]
  | b :: rest =>
    if a = b then b :: rest else if a < b then a :: b :: rest else b :: insertName a rest

def insert (s : NameSet) (a : String) : NameSet := ⟨insertName a s.names⟩

def ofList (as : List String) : NameSet := as.foldl insert empty

def toList (s : NameSet) : List String := s.names

instance : Membership String NameSet := ⟨fun s a => a ∈ s.names⟩

instance (a : String) (s : NameSet) : Decidable (a ∈ s) := inferInstanceAs (Decidable (a ∈ s.names))

theorem mem_insertName {a b : String} {names : List String} :
    b ∈ insertName a names ↔ b = a ∨ b ∈ names := by
  induction names with
  | nil => simp [insertName]
  | cons c rest ih =>
    by_cases hc : a = c
    · subst hc
      simp [insertName]
    · by_cases hl : a < c
      · simp [insertName, hc, hl]
      · simp only [insertName, hc, hl, if_false, List.mem_cons, ih]
        exact or_left_comm

theorem mem_insert {s : NameSet} {a b : String} : b ∈ s.insert a ↔ b = a ∨ b ∈ s :=
  mem_insertName

theorem mem_foldl_insert {s : NameSet} {as : List String} {b : String} :
    b ∈ as.foldl insert s ↔ b ∈ as ∨ b ∈ s := by
  induction as generalizing s with
  | nil => simp
  | cons a as ih =>
    rw [List.foldl_cons, ih, mem_insert, List.mem_cons]
    constructor
    · rintro (h | h | h)
      · exact .inl (.inr h)
      · exact .inl (.inl h)
      · exact .inr h
    · rintro ((h | h) | h)
      · exact .inr (.inl h)
      · exact .inl h
      · exact .inr (.inr h)

theorem mem_ofList {as : List String} {b : String} : b ∈ ofList as ↔ b ∈ as := by
  rw [ofList, mem_foldl_insert]
  exact or_iff_left (List.not_mem_nil)

end NameSet

end OsgiIvy
