import OsgiIvy.Proofs.Profile.Inheritance

/-!
# Reading declarations

`DeclareAll` says which profiles the entries of a mapping declare.  What is read from them is worked
out by inheritance (`ofEntries_inherits`): profiles are known, each with the packages of all that it
inherits from, unless one extends a profile that is not declared.  An empty text in the place of a
single parent names nothing.
-/

namespace OsgiIvy.Profiles

open OsgiIvy.Value (lookup)

/-! ### Well-formed entries -/

inductive ListsNames : Value → List String → Prop
  | null : ListsNames .null []
  | list (names : List String) : ListsNames (.list (names.map .string)) names

inductive NamesParents : Value → List String → Prop
  | null : NamesParents .null []
  | list (names : List String) : NamesParents (.list (names.map .string)) names
  | name {name : String} (hname : name ≠ "") : NamesParents (.string name) [name]
  | empty : NamesParents (.string "") []

/-- The entry of a profile: null, or a mapping with the parents and the packages, each of which may
be missing. -/
inductive Declares : Value → Declaration → Prop
  | null : Declares .null ⟨[], []⟩
  | mapping {es : List (Value × Value)} {parents packages : List String}
    (hparents : NamesParents ((lookup es "extends").getD .null) parents)
    (hpackages : ListsNames ((lookup es "packages").getD .null) packages) :
    Declares (.mapping es) ⟨parents, packages⟩

structure DeclareAll (entries : List (Value × Value)) (declared : Declared) : Prop where
  names : (declared.map Prod.fst).Nodup
  entries : List.Forall₂ (fun e d => e.1 = .string d.1 ∧ Declares e.2 d.2) entries declared

/-! ### What is read from them -/

theorem textsOf_list (names : List String) : textsOf (.list (names.map .string)) = .ok names := by
  have hread : (names.map Value.string).mapM Value.asText = .ok names := by
    have htext : ∀ name ∈ names, (Value.string name).asText = .ok (id name) := fun _ _ => rfl
    rw [mapM_map_eq_ok htext, List.map_id]
  cases names with
  | nil => rfl
  | cons name names => exact hread

theorem ListsNames.textsOf {v : Value} {names : List String} (h : ListsNames v names) :
    textsOf v = .ok names := by
  cases h with
  | null => rfl
  | list => exact textsOf_list names

theorem NamesParents.parentsOf {v : Value} {names : List String} (h : NamesParents v names) :
    parentsOf v = .ok names := by
  cases h with
  | null => rfl
  | list => exact textsOf_list names
  | name hname => simp [Profiles.parentsOf, hname]
  | empty => rfl

theorem Declares.readDeclaration {entry : Value} {d : Declaration} (h : Declares entry d)
    (name : Value) : readDeclaration name entry = .ok d := by
  cases h with
  | null => rfl
  | mapping hparents hpackages =>
    simp only [Profiles.readDeclaration, Value.fieldD, Value.field?, Except.map, ok_bind,
      hparents.parentsOf, hpackages.textsOf]
    rfl

/-- Reads one more declaration. -/
def declareEntry (m : Declarations) (e : Value × Value) : Except Fault Declarations := do
  let declaration ← readDeclaration e.1 e.2
  let name ← e.1.asText.mapError .value
  pure (m.put name declaration)

/-- Whatever is declared, each name stands once. -/
theorem isMapping_readDeclarations {entries : List (Value × Value)} {m : Declarations}
    (h : readDeclarations entries = .ok m) : m.IsMapping := by
  have hstep : ∀ (m : Declarations) e m', m.IsMapping → declareEntry m e = .ok m' →
      m'.IsMapping := by
    intro m e m' hm hrun
    obtain ⟨declaration, -, hrun⟩ := bind_eq_ok.mp hrun
    obtain ⟨name, -, hrun⟩ := bind_eq_ok.mp hrun
    rw [← Except.ok.inj hrun]
    exact hm.put name declaration
  exact foldlM_preserves hstep Assoc.isMapping_empty h

theorem foldlM_declareEntry {entries : List (Value × Value)} {declared : Declared}
    (h : List.Forall₂ (fun e d => e.1 = .string d.1 ∧ Declares e.2 d.2) entries declared)
    (m : Declarations) :
    entries.foldlM declareEntry m = .ok (declared.foldl (fun m d => m.put d.1 d.2) m) := by
  induction h generalizing m with
  | nil => rfl
  | cons hentry _ ih =>
    obtain ⟨hname, hdeclares⟩ := hentry
    rw [List.foldlM_cons, declareEntry, hname, hdeclares.readDeclaration]
    exact ih _

theorem readDeclarations_of_declareAll {entries : List (Value × Value)} {declared : Declared}
    (h : DeclareAll entries declared) : readDeclarations entries = .ok ⟨declared⟩ := by
  have hmapping : (Assoc.mk declared).IsMapping := h.names
  have hrun : readDeclarations entries = entries.foldlM declareEntry {} := rfl
  rw [hrun, foldlM_declareEntry h.entries]
  exact congrArg Except.ok hmapping.ofList_entries

theorem ofEntries_of_declareAll {entries : List (Value × Value)} {declared : Declared}
    (h : DeclareAll entries declared) : ofEntries entries = ofDeclarations ⟨declared⟩ := by
  rw [ofEntries, readDeclarations_of_declareAll h]
  rfl

/-! ### What the profiles are -/

variable {entries : List (Value × Value)} {declared declared' : Declared}

/-- The profiles that closed declarations give. -/
def providedBy (declared : Declared) : Profiles :=
  ⟨(declared.map Prod.fst).map fun name => (name, inherited declared name)⟩

theorem keys_providedBy (declared : Declared) :
    (providedBy declared).keys = declared.map Prod.fst :=
  keys_graph _ (inherited declared)

theorem ofDeclarations_eq_ok_iff (hnames : (declared.map Prod.fst).Nodup) {profiles : Profiles} :
    ofDeclarations ⟨declared⟩ = .ok profiles ↔
      IsClosed declared ∧ providedBy declared = profiles := by
  by_cases hclosed : IsClosed declared
  · rw [ofDeclarations_of_isClosed hnames hclosed, Except.ok.injEq]
    exact (and_iff_right hclosed).symm
  · obtain ⟨name, -, parent, -, -, hfails⟩ := ofDeclarations_of_not_isClosed hnames hclosed
    rw [hfails]
    exact ⟨nofun, fun hboth => absurd hboth.1 hclosed⟩

theorem ofEntries_eq_ok_iff (h : DeclareAll entries declared) {profiles : Profiles} :
    ofEntries entries = .ok profiles ↔ IsClosed declared ∧ providedBy declared = profiles := by
  rw [ofEntries_of_declareAll h]
  exact ofDeclarations_eq_ok_iff h.names

theorem ofEntries_eq_error (h : DeclareAll entries declared) {fault : Fault}
    (hfails : ofEntries entries = .error fault) :
    ∃ name parent, fault = .unknownParent name parent ∧ name ∈ declared.map Prod.fst ∧
      parent ∉ declared.map Prod.fst ∧ Inherits declared name parent := by
  rw [ofEntries_of_declareAll h] at hfails
  by_cases hclosed : IsClosed declared
  · rw [ofDeclarations_of_isClosed h.names hclosed] at hfails
    exact absurd hfails nofun
  · obtain ⟨name, hname, parent, hparent, hinherits, hrun⟩ :=
      ofDeclarations_of_not_isClosed h.names hclosed
    exact ⟨name, parent, Except.error.inj (hfails.symm.trans hrun), hname, hparent, hinherits⟩

theorem exists_error_iff (h : DeclareAll entries declared) :
    (∃ fault, ofEntries entries = .error fault) ↔
      ∃ d ∈ declared, ∃ parent ∈ d.2.parents, parent ∉ declared.map Prod.fst := by
  have hopen : (∃ d ∈ declared, ∃ parent ∈ d.2.parents, parent ∉ declared.map Prod.fst) ↔
      ¬ IsClosed declared := by
    simp [IsClosed]
  rw [hopen]
  constructor
  · rintro ⟨fault, hfails⟩ hclosed
    rw [(ofEntries_eq_ok_iff h).mpr ⟨hclosed, rfl⟩] at hfails
    cases hfails
  · intro hnot
    cases hrun : ofEntries entries with
    | error fault => exact ⟨fault, rfl⟩
    | ok profiles => exact absurd ((ofEntries_eq_ok_iff h).mp hrun).1 hnot

theorem get?_providedBy {name : String} (h : name ∈ declared.map Prod.fst) :
    (providedBy declared).get? name = some (inherited declared name) :=
  get?_graph_of_mem h (inherited declared)

theorem get?_providedBy_eq_some_iff {name : String} {packages : NameSet} :
    (providedBy declared).get? name = some packages ↔
      name ∈ declared.map Prod.fst ∧ inherited declared name = packages := by
  by_cases h : name ∈ declared.map Prod.fst
  · rw [get?_providedBy h, Option.some.injEq]
    exact (and_iff_right h).symm
  · rw [providedBy, get?_graph_of_not_mem h]
    exact ⟨nofun, fun hboth => absurd hboth.1 h⟩

theorem Reordered.get?_providedBy (h : Reordered declared declared')
    (hnames : (declared.map Prod.fst).Nodup) (hnames' : (declared'.map Prod.fst).Nodup)
    (name : String) : (providedBy declared').get? name = (providedBy declared).get? name := by
  by_cases hname : name ∈ declared.map Prod.fst
  · rw [Profiles.get?_providedBy hname, Profiles.get?_providedBy (h.names.mem_iff.mp hname),
      h.inherited_eq hnames hnames']
  · have hname' : name ∉ declared'.map Prod.fst := fun hmem => hname (h.names.mem_iff.mpr hmem)
    rw [providedBy, providedBy, get?_graph_of_not_mem hname, get?_graph_of_not_mem hname']

theorem Reordered.environments_providedBy (h : Reordered declared declared') :
    (providedBy declared').environments = (providedBy declared).environments := by
  rw [environments, environments, keys_providedBy, keys_providedBy]
  exact NameSet.ofList_eq_ofList fun _ => h.names.symm.mem_iff

/-- Looking for ancestors ends.  Profiles are refused exactly if one of them extends a name that is
not declared, and for no other reason.  Otherwise each profile has the packages of all that it
inherits from, in whatever order they and their parents are written down. -/
theorem ofEntries_inherits (h : DeclareAll entries declared) :
    (∀ name, Walks (parentsIn declared) [] [name] (ancestors ⟨declared⟩ name)) ∧
    ((∃ fault, ofEntries entries = .error fault) ↔
      ∃ d ∈ declared, ∃ parent ∈ d.2.parents, parent ∉ declared.map Prod.fst) ∧
    (∀ fault, ofEntries entries = .error fault →
      ∃ name parent, fault = .unknownParent name parent ∧ name ∈ declared.map Prod.fst ∧
        parent ∉ declared.map Prod.fst ∧ Inherits declared name parent) ∧
    ∀ profiles, ofEntries entries = .ok profiles →
      profiles.keys = declared.map Prod.fst ∧
      (∀ name ∈ declared.map Prod.fst, ∃ packages, profiles.get? name = some packages ∧
        ∀ package, package ∈ packages ↔
          ∃ d ∈ declared, Inherits declared name d.1 ∧ package ∈ d.2.packages) ∧
      ∀ entries' declared', DeclareAll entries' declared' → Reordered declared declared' →
        ∃ profiles', ofEntries entries' = .ok profiles' ∧
          profiles'.environments = profiles.environments ∧
          ∀ name, profiles'.get? name = profiles.get? name := by
  refine ⟨walks_ancestors h.names, exists_error_iff h, fun _ => ofEntries_eq_error h, ?_⟩
  intro profiles hrun
  obtain ⟨hclosed, rfl⟩ := (ofEntries_eq_ok_iff h).mp hrun
  refine ⟨keys_providedBy declared, ?_, ?_⟩
  · intro name hname
    exact ⟨_, get?_providedBy hname, fun _ => mem_inherited h.names⟩
  · intro entries' declared' h' hreordered
    exact ⟨_, (ofEntries_eq_ok_iff h').mpr ⟨hreordered.isClosed hclosed, rfl⟩,
      hreordered.environments_providedBy, hreordered.get?_providedBy h.names h'.names⟩

/-- Two profiles that extend each other, and one that declares nothing. -/
def circularEntries : List (Value × Value) := [
  (.string "J2SE-1.4", .mapping [
    (.string "packages", .list [.string "javax.xml"]), (.string "extends", .string "JavaSE-1.8")]),
  (.string "JavaSE-1.8", .mapping [
    (.string "extends", .list [.string "OSGi", .string "J2SE-1.4"]),
    (.string "packages", .list [.string "java.util.function"])]),
  (.string "OSGi", .null)]

def circularProfiles : Declared := [
  ("J2SE-1.4", ⟨["JavaSE-1.8"], ["javax.xml"]⟩),
  ("JavaSE-1.8", ⟨["OSGi", "J2SE-1.4"], ["java.util.function"]⟩),
  ("OSGi", ⟨[], []⟩)]

theorem declareAll_circular : DeclareAll circularEntries circularProfiles := by
  refine ⟨by decide, .cons ⟨rfl, .mapping (.name (by decide)) (.list ["javax.xml"])⟩
    (.cons ⟨rfl, .mapping (.list ["OSGi", "J2SE-1.4"]) (.list ["java.util.function"])⟩
      (.cons ⟨rfl, .null⟩ .nil))⟩

theorem ofEntries_inherits_circular :
    ∃ profiles, ofEntries circularEntries = .ok profiles ∧
      profiles.environments = ⟨["J2SE-1.4", "JavaSE-1.8", "OSGi"]⟩ ∧
      profiles.get? "J2SE-1.4" = some ⟨["java.util.function", "javax.xml"]⟩ ∧
      ∃ packages, profiles.get? "JavaSE-1.8" = some packages ∧
        ∀ package, package ∈ packages ↔
          ∃ d ∈ circularProfiles, Inherits circularProfiles "JavaSE-1.8" d.1 ∧
            package ∈ d.2.packages := by
  refine ⟨_, rfl, rfl, rfl, ?_⟩
  exact ((ofEntries_inherits declareAll_circular).2.2.2 _ rfl).2.1 "JavaSE-1.8" (by decide)

/-- A profile whose name is the empty text is not extended by naming it alone. -/
theorem ofEntries_empty_parent :
    ofEntries [
      (.string "", .mapping [(.string "packages", .list [.string "javax.xml"])]),
      (.string "JavaSE-1.8", .mapping [(.string "extends", .string "")])] =
    .ok ⟨[("", ⟨["javax.xml"]⟩), ("JavaSE-1.8", ⟨[]⟩)]⟩ :=
  rfl

end OsgiIvy.Profiles
