import Mathlib.Logic.Relation
import OsgiIvy.Profile
import OsgiIvy.Proofs.Mappings
import OsgiIvy.Proofs.NameSets
import OsgiIvy.Proofs.Outcomes
import OsgiIvy.Proofs.Reachability

/-!
# Inherited packages

`Inherits` says which profiles a profile extends, directly or not.  Declarations are closed if every
profile that is extended is declared (`IsClosed`); each profile then has the packages of all that it
inherits from, and otherwise a name that is not declared is reported.  Neither depends on the order
in which profiles, or the names in them, are written down (`Reordered`).
-/

namespace OsgiIvy.Profiles

/-- The declarations in the order in which they stand. -/
abbrev Declared := List (String × Declaration)

/-- Profile `a` extends profile `b`, directly or not, or is it. -/
def Inherits (declared : Declared) : String → String → Prop :=
  Relation.ReflTransGen fun a b => ∃ d ∈ declared, d.1 = a ∧ b ∈ d.2.parents

def IsClosed (declared : Declared) : Prop :=
  ∀ d ∈ declared, ∀ parent ∈ d.2.parents, parent ∈ declared.map Prod.fst

variable {declared : Declared}

/-! ### Following parents -/

/-- The parents of a name, none if it is not declared. -/
def parentsIn (declared : Declared) (name : String) : List String :=
  (((Assoc.mk declared).get? name).map Declaration.parents).getD []

/-- The packages of a name itself, none if it is not declared. -/
def ownPackages (declared : Declared) (name : String) : List String :=
  (((Assoc.mk declared).get? name).map Declaration.packages).getD []

section Distinct

variable (hnames : (declared.map Prod.fst).Nodup)
include hnames

theorem mem_field_iff {f : Declaration → List String} {name a : String} :
    a ∈ (((Assoc.mk declared).get? name).map f).getD [] ↔
      ∃ d ∈ declared, d.1 = name ∧ a ∈ f d.2 := by
  have hmapping : (Assoc.mk declared).IsMapping := hnames
  constructor
  · intro ha
    cases hget : (Assoc.mk declared).get? name with
    | none =>
      rw [hget] at ha
      exact absurd ha List.not_mem_nil
    | some declaration =>
      rw [hget] at ha
      exact ⟨(name, declaration), Assoc.mem_of_get? hget, rfl, ha⟩
  · rintro ⟨d, hd, rfl, ha⟩
    rw [hmapping.get?_of_mem hd]
    exact ha

theorem mem_parentsIn {name parent : String} :
    parent ∈ parentsIn declared name ↔ ∃ d ∈ declared, d.1 = name ∧ parent ∈ d.2.parents :=
  mem_field_iff hnames

theorem inherits_iff_reaches {a b : String} :
    Inherits declared a b ↔ Reaches (parentsIn declared) a b := by
  constructor
  · intro h
    induction h with
    | refl => exact .refl a
    | tail _ hstep ih => exact .step ih ((mem_parentsIn hnames).mpr hstep)
  · intro h
    induction h with
    | refl => exact .refl
    | step _ hparent ih => exact .tail ih ((mem_parentsIn hnames).mp hparent)

theorem mem_names_of_parentsIn {name : String} (h : parentsIn declared name ≠ []) :
    name ∈ declared.map Prod.fst := by
  obtain ⟨parent, hparent⟩ := List.exists_mem_of_ne_nil _ h
  obtain ⟨d, hd, rfl, -⟩ := (mem_parentsIn hnames).mp hparent
  exact List.mem_map_of_mem hd

/-- The loop that looks for the ancestors of a profile ends with them. -/
theorem walks_ancestors (name : String) :
    Walks (parentsIn declared) [] [name] (ancestors ⟨declared⟩ name) :=
  walks_reachedFrom (fun _ => mem_names_of_parentsIn hnames) name

theorem mem_ancestors {a b : String} : b ∈ ancestors ⟨declared⟩ a ↔ Inherits declared a b := by
  rw [inherits_iff_reaches hnames]
  exact mem_reachedFrom (fun _ => mem_names_of_parentsIn hnames) a b

omit hnames in
theorem Inherits.mem_names (hclosed : IsClosed declared) {a b : String}
    (ha : a ∈ declared.map Prod.fst) (h : Inherits declared a b) : b ∈ declared.map Prod.fst := by
  induction h with
  | refl => exact ha
  | tail _ hstep _ =>
    obtain ⟨d, hd, -, hparent⟩ := hstep
    exact hclosed d hd _ hparent

/-! ### The packages of one profile -/

/-- The packages of a profile and of all that it inherits from. -/
def inherited (declared : Declared) (name : String) : NameSet :=
  .ofList ((ancestors ⟨declared⟩ name).flatMap (ownPackages declared))

theorem mem_inherited {name package : String} :
    package ∈ inherited declared name ↔
      ∃ d ∈ declared, Inherits declared name d.1 ∧ package ∈ d.2.packages := by
  rw [inherited, NameSet.mem_ofList, List.mem_flatMap]
  constructor
  · rintro ⟨b, hb, hpackage⟩
    obtain ⟨d, hd, rfl, hown⟩ := (mem_field_iff hnames).mp hpackage
    exact ⟨d, hd, (mem_ancestors hnames).mp hb, hown⟩
  · rintro ⟨d, hd, hinherits, hown⟩
    exact ⟨d.1, (mem_ancestors hnames).mpr hinherits, (mem_field_iff hnames).mpr ⟨d, hd, rfl, hown⟩⟩

theorem contains_iff {name : String} :
    (Assoc.mk declared).contains name = true ↔ name ∈ declared.map Prod.fst := by
  have hmapping : (Assoc.mk declared).IsMapping := hnames
  rw [Assoc.contains, Option.isSome_iff_exists]
  constructor
  · rintro ⟨declaration, hget⟩
    exact List.mem_map_of_mem (Assoc.mem_of_get? hget)
  · intro h
    obtain ⟨d, hd, rfl⟩ := List.mem_map.mp h
    exact ⟨d.2, hmapping.get?_of_mem hd⟩

/-- A profile has the packages that it inherits, or it inherits from a name that is not declared and
is refused. -/
theorem packagesOf_cases (name : String) :
    ((∀ b, Inherits declared name b → b ∈ declared.map Prod.fst) ∧
      packagesOf ⟨declared⟩ name = .ok (inherited declared name)) ∨
    ∃ parent ∉ declared.map Prod.fst, Inherits declared name parent ∧
      packagesOf ⟨declared⟩ name = .error (.unknownParent name parent) := by
  cases hfind : (ancestors ⟨declared⟩ name).find? (!(Assoc.mk declared).contains ·) with
  | none =>
    refine .inl ⟨fun b hb => ?_, ?_⟩
    · have hdeclared := List.find?_eq_none.mp hfind b ((mem_ancestors hnames).mpr hb)
      rwa [Bool.not_eq_true', Bool.not_eq_false, contains_iff hnames] at hdeclared
    · simp only [packagesOf, hfind]
      rfl
  | some parent =>
    have hunknown := List.find?_some hfind
    rw [Bool.not_eq_true', ← Bool.not_eq_true, contains_iff hnames] at hunknown
    have hreached := (mem_ancestors hnames).mp (List.mem_of_find?_eq_some hfind)
    exact .inr ⟨parent, hunknown, hreached, by simp only [packagesOf, hfind]⟩

/-! ### All profiles -/

/-- A profile with its packages. -/
def profileOf (declared : Declared) (name : String) : Except Fault (String × NameSet) := do
  let packages ← packagesOf ⟨declared⟩ name
  pure (name, packages)

omit hnames in
theorem ofDeclarations_eq (declared : Declared) :
    ofDeclarations ⟨declared⟩ =
      ((declared.map Prod.fst).mapM (profileOf declared)).map Assoc.mk := by
  have hrun : ofDeclarations ⟨declared⟩ =
      (declared.map Prod.fst).mapM (profileOf declared) >>= fun profiles => pure ⟨profiles⟩ := rfl
  rw [hrun]
  cases (declared.map Prod.fst).mapM (profileOf declared) with
  | error fault => rfl
  | ok profiles => rfl

omit hnames in
theorem profileOf_eq_error_iff {name : String} {e : Fault} :
    profileOf declared name = .error e ↔ packagesOf ⟨declared⟩ name = .error e := by
  rw [profileOf]
  cases packagesOf ⟨declared⟩ name with
  | ok packages => exact ⟨nofun, nofun⟩
  | error fault => exact ⟨fun h => congrArg Except.error (Except.error.inj h), fun h => h ▸ rfl⟩

theorem ofDeclarations_of_isClosed (hclosed : IsClosed declared) :
    ofDeclarations ⟨declared⟩ =
      .ok ⟨(declared.map Prod.fst).map fun name => (name, inherited declared name)⟩ := by
  have hstep : ∀ name ∈ declared.map Prod.fst,
      profileOf declared name = .ok (name, inherited declared name) := by
    intro name hname
    rcases packagesOf_cases hnames name with ⟨-, hpackages⟩ | ⟨parent, hunknown, hinherits, -⟩
    · rw [profileOf, hpackages]
      rfl
    · exact absurd (hinherits.mem_names hclosed hname) hunknown
  rw [ofDeclarations_eq, mapM_eq_ok hstep]
  rfl

theorem ofDeclarations_of_not_isClosed (hopen : ¬ IsClosed declared) :
    ∃ name ∈ declared.map Prod.fst, ∃ parent ∉ declared.map Prod.fst,
      Inherits declared name parent ∧
        ofDeclarations ⟨declared⟩ = .error (.unknownParent name parent) := by
  obtain ⟨d, hd, parent, hparent, hunknown⟩ :
      ∃ d ∈ declared, ∃ parent ∈ d.2.parents, parent ∉ declared.map Prod.fst := by
    simpa [IsClosed] using hopen
  -- The profile that extends the unknown name is refused, so some profile is the first to be.
  obtain ⟨e, hfails⟩ : ∃ e, profileOf declared d.1 = .error e := by
    rcases packagesOf_cases hnames d.1 with ⟨hall, -⟩ | ⟨missing, -, -, hpackages⟩
    · exact absurd (hall parent (.single ⟨d, hd, rfl, hparent⟩)) hunknown
    · exact ⟨_, profileOf_eq_error_iff.mpr hpackages⟩
  obtain ⟨name, hname, e', hstep, hrun⟩ := exists_mapM_eq_error (List.mem_map_of_mem hd) hfails
  rw [profileOf_eq_error_iff] at hstep
  rcases packagesOf_cases hnames name with ⟨-, hpackages⟩ | ⟨missing, hmissing, hreached, hpackages⟩
  · exact absurd (hstep.symm.trans hpackages) nofun
  · obtain rfl := Except.error.inj (hstep.symm.trans hpackages)
    refine ⟨name, hname, missing, hmissing, hreached, ?_⟩
    rw [ofDeclarations_eq, hrun]
    rfl

end Distinct

/-! ### Order -/

/-- The same names in any order, each with the same parents and packages in any order. -/
structure Reordered (declared declared' : Declared) : Prop where
  names : (declared.map Prod.fst).Perm (declared'.map Prod.fst)
  lists : ∀ d ∈ declared, ∀ d' ∈ declared', d.1 = d'.1 →
    d.2.parents.Perm d'.2.parents ∧ d.2.packages.Perm d'.2.packages

variable {declared' : Declared}

theorem Reordered.symm (h : Reordered declared declared') : Reordered declared' declared where
  names := h.names.symm
  lists d' hd' d hd hname := (h.lists d hd d' hd' hname.symm).imp List.Perm.symm List.Perm.symm

theorem Reordered.exists_mem (h : Reordered declared declared') {d : String × Declaration}
    (hd : d ∈ declared) :
    ∃ d' ∈ declared', d'.1 = d.1 ∧ d.2.parents.Perm d'.2.parents ∧
      d.2.packages.Perm d'.2.packages := by
  have hname : d.1 ∈ declared'.map Prod.fst := h.names.mem_iff.mp (List.mem_map_of_mem hd)
  obtain ⟨d', hd', heq⟩ := List.mem_map.mp hname
  exact ⟨d', hd', heq, h.lists d hd d' hd' heq.symm⟩

theorem Reordered.isClosed (h : Reordered declared declared') (hclosed : IsClosed declared) :
    IsClosed declared' := by
  intro d' hd' parent hparent
  obtain ⟨d, hd, -, hparents, -⟩ := h.symm.exists_mem hd'
  exact h.names.mem_iff.mp (hclosed d hd parent (hparents.mem_iff.mp hparent))

theorem Reordered.inherits (h : Reordered declared declared') {a b : String}
    (hab : Inherits declared a b) : Inherits declared' a b := by
  refine Relation.ReflTransGen.mono ?_ _ _ hab
  rintro a b ⟨d, hd, rfl, hparent⟩
  obtain ⟨d', hd', hname, hparents, -⟩ := h.exists_mem hd
  exact ⟨d', hd', hname, hparents.mem_iff.mp hparent⟩

theorem Reordered.mem_inherited (h : Reordered declared declared')
    (hnames : (declared.map Prod.fst).Nodup) (hnames' : (declared'.map Prod.fst).Nodup)
    {name package : String} (hmem : package ∈ inherited declared name) :
    package ∈ inherited declared' name := by
  obtain ⟨d, hd, hinherits, hpackage⟩ := (Profiles.mem_inherited hnames).mp hmem
  obtain ⟨d', hd', hname, -, hpackages⟩ := h.exists_mem hd
  exact (Profiles.mem_inherited hnames').mpr
    ⟨d', hd', hname ▸ h.inherits hinherits, hpackages.mem_iff.mp hpackage⟩

theorem Reordered.inherited_eq (h : Reordered declared declared')
    (hnames : (declared.map Prod.fst).Nodup) (hnames' : (declared'.map Prod.fst).Nodup)
    (name : String) : inherited declared' name = inherited declared name := by
  refine NameSet.ofList_eq_ofList fun package => ?_
  have hmem : package ∈ inherited declared' name ↔ package ∈ inherited declared name :=
    ⟨h.symm.mem_inherited hnames' hnames, h.mem_inherited hnames hnames'⟩
  simpa only [inherited, NameSet.mem_ofList] using hmem

/-! ### Reading a profile off -/

theorem keys_graph (names : List String) (f : String → NameSet) :
    (Assoc.mk (names.map fun n => (n, f n))).keys = names := by
  rw [Assoc.keys, List.map_map]
  exact List.map_id names

theorem get?_graph_of_mem {names : List String} {name : String} (h : name ∈ names)
    (f : String → NameSet) : (Assoc.mk (names.map fun n => (n, f n))).get? name = some (f name) :=
  List.lookup_graph f h

theorem get?_graph_of_not_mem {names : List String} {name : String} (h : name ∉ names)
    (f : String → NameSet) : (Assoc.mk (names.map fun n => (n, f n))).get? name = none := by
  rw [← keys_graph names f] at h
  exact Assoc.lookup_of_not_mem h

end OsgiIvy.Profiles
