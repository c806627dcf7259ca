import OsgiIvy.Proofs.Json.Contents
import OsgiIvy.Proofs.Profile.Reading
import OsgiIvy.Proofs.Value.Listings

/-!
# Refused declarations

An entry that is neither null nor a mapping is refused, and so is a parent that is not declared.  A
mapping whose parents or packages cannot be gone through is not foreseen and breaks the reading off.
As the entries are read in their order, it depends on the first misfit which of these happens
(`settlesBy_ofEntries_iff`).
-/

namespace OsgiIvy.Profiles

open OsgiIvy.Value

/-! ### One entry -/

/-- Null, or a mapping whose parents and packages can be gone through. -/
inductive IsDeclaration : Value → Prop
  | null : IsDeclaration .null
  | mapping {es : List (Value × Value)} (hparents : IsListing (fieldOf es "extends"))
    (hpackages : IsListing (fieldOf es "packages")) : IsDeclaration (.mapping es)

/-- A fault that says what is wrong with the entries; any other breaks off. -/
def Fault.isRefusal : Fault → Bool
  | .value _ => false
  | _ => true

theorem textsOf_eq (v : Value) : textsOf v = listed v >>= fun vs => vs.mapM asText := by
  unfold textsOf listed
  cases v.isTruthy with
  | true => rfl
  | false => rfl

theorem textsOf_succeeds_iff {v : Value} (h : v.hasText = true) :
    (∃ texts, textsOf v = .ok texts) ↔ IsListing v := by
  rw [textsOf_eq]
  constructor
  · rintro ⟨texts, htexts⟩
    obtain ⟨vs, hvs, -⟩ := bind_eq_ok.mp htexts
    exact isListing_of_listed hvs
  · intro hlisting
    have hitems := mapM_asText fun w hw => hasText_of_mem_items h (w := w) hw
    rw [listed_of_isListing hlisting, ok_bind, hitems]
    exact ⟨_, rfl⟩

theorem parentsOf_succeeds_iff {v : Value} (h : v.hasText = true) :
    (∃ parents, parentsOf v = .ok parents) ↔ IsListing v := by
  cases v with
  | string s => exact ⟨fun _ => .string s, fun _ => ⟨_, rfl⟩⟩
  | torn t => exact ⟨fun _ => .torn t, fun _ => ⟨_, rfl⟩⟩
  | null | bool | int | float | date | moment | list | mapping => exact textsOf_succeeds_iff h

/-- Reads the parents and the packages in the entry of a profile. -/
def readParts (es : List (Value × Value)) : Except Value.Fault Declaration := do
  let parents ← parentsOf (fieldOf es "extends")
  let packages ← textsOf (fieldOf es "packages")
  pure ⟨parents, packages⟩

theorem readDeclaration_mapping (name : Value) (es : List (Value × Value)) :
    readDeclaration name (.mapping es) = (readParts es).mapError .value := rfl

theorem readParts_succeeds_iff {es : List (Value × Value)}
    (h : (Value.mapping es).hasText = true) :
    (∃ d, readParts es = .ok d) ↔ IsDeclaration (.mapping es) := by
  have hparents := parentsOf_succeeds_iff (hasText_fieldOf h "extends")
  have hpackages := textsOf_succeeds_iff (hasText_fieldOf h "packages")
  constructor
  · rintro ⟨d, hd⟩
    obtain ⟨parents, hp, hd⟩ := bind_eq_ok.mp hd
    obtain ⟨packages, hq, -⟩ := bind_eq_ok.mp hd
    exact .mapping (hparents.mp ⟨parents, hp⟩) (hpackages.mp ⟨packages, hq⟩)
  · intro hdeclaration
    cases hdeclaration with
    | mapping hp hq =>
      obtain ⟨parents, hp⟩ := hparents.mpr hp
      obtain ⟨packages, hq⟩ := hpackages.mpr hq
      exact ⟨⟨parents, packages⟩, by rw [readParts, hp, ok_bind, hq]; rfl⟩

section Entry

variable {name entry : Value} (hname : name.hasText = true) (hentry : entry.hasText = true)
include hentry

theorem readDeclaration_of_isDeclaration (name : Value) (h : IsDeclaration entry) :
    ∃ d, readDeclaration name entry = .ok d := by
  cases h with
  | null => exact ⟨_, rfl⟩
  | mapping hparents hpackages =>
    obtain ⟨d, hd⟩ := (readParts_succeeds_iff hentry).mpr (.mapping hparents hpackages)
    exact ⟨d, by rw [readDeclaration_mapping, hd]; rfl⟩

include hname

/-- An entry that is no declaration is refused, unless it is a mapping. -/
theorem readDeclaration_of_not_isDeclaration (h : ¬ IsDeclaration entry) :
    ∃ fault, readDeclaration name entry = .error fault ∧
      (fault.isRefusal = true ↔ ∀ es, entry ≠ .mapping es) := by
  cases entry with
  | null => exact absurd .null h
  | mapping es =>
    cases hread : readParts es with
    | ok d => exact absurd ((readParts_succeeds_iff hentry).mp ⟨d, hread⟩) h
    | error fault =>
      have hfails : readDeclaration name (.mapping es) = .error (.value fault) := by
        rw [readDeclaration_mapping, hread]
        rfl
      refine ⟨.value fault, hfails, iff_of_false ?_ fun hnone => hnone es rfl⟩
      exact Bool.false_ne_true
  | bool | int | float | string | torn | date | moment | list =>
    refine ⟨.notMapping name, by simp [readDeclaration, hname], iff_of_true rfl fun es heq => ?_⟩
    cases heq

end Entry

/-! ### All entries -/

/-- The name and the declaration of an entry. -/
def readEntry (e : Value × Value) : Except Fault (String × Declaration) := do
  let declaration ← readDeclaration e.1 e.2
  let name ← e.1.asText.mapError .value
  pure (name, declaration)

theorem readDeclarations_eq (entries : List (Value × Value)) :
    readDeclarations entries = (entries.mapM readEntry).map Assoc.ofList := by
  have hrun : readDeclarations entries = entries.foldlM declareEntry {} := rfl
  rw [hrun]
  refine foldlM_eq_mapM (fun m e => ?_) entries Assoc.empty
  unfold declareEntry readEntry
  cases readDeclaration e.1 e.2 with
  | error fault => rfl
  | ok d =>
    cases (e.1.asText.mapError Fault.value) with
    | error fault => rfl
    | ok name => rfl

theorem exists_unknownParent_of_ofDeclarations {declared : Declarations} {fault : Fault}
    (h : ofDeclarations declared = .error fault) :
    ∃ name parent, fault = .unknownParent name parent := by
  rw [ofDeclarations_eq] at h
  cases hrun : (declared.entries.map Prod.fst).mapM (profileOf declared.entries) with
  | ok profiles => rw [hrun] at h; cases h
  | error fault' =>
    rw [hrun] at h
    obtain ⟨before, name, after, -, -, hname⟩ := first_of_mapM_eq_error hrun
    rw [profileOf_eq_error_iff, Except.error.inj h, packagesOf] at hname
    split at hname
    · next parent _ => exact ⟨name, parent, (Except.error.inj hname).symm⟩
    · cases hname

/-- The first entry that is no declaration is no mapping. -/
def FirstMisfitIsNoMapping (entries : List (Value × Value)) : Prop :=
  ∀ before e after, entries = before ++ e :: after → (∀ b ∈ before, IsDeclaration b.2) →
    ¬ IsDeclaration e.2 → ∀ es, e.2 ≠ .mapping es

/-- The entry in front of which all are declarations is the one that decides. -/
theorem firstMisfitIsNoMapping_append (before after : List (Value × Value)) {e : Value × Value}
    (hbefore : ∀ b ∈ before, IsDeclaration b.2) (h : ¬ IsDeclaration e.2) :
    FirstMisfitIsNoMapping (before ++ e :: after) ↔ ∀ es, e.2 ≠ .mapping es := by
  constructor
  · intro hfirst
    exact hfirst before e after rfl hbefore h
  · rintro hnone before' e' after' hsplit hbefore' h'
    rcases List.append_eq_append_iff.mp hsplit with ⟨between, rfl, hrest⟩ | ⟨between, rfl, hrest⟩
    · cases between with
      | nil =>
        obtain ⟨rfl, -⟩ := List.cons.inj hrest
        exact hnone
      | cons b between =>
        obtain ⟨rfl, -⟩ := List.cons.inj hrest
        exact absurd (hbefore' e (List.mem_append_right before List.mem_cons_self)) h
    · cases between with
      | nil =>
        obtain ⟨rfl, -⟩ := List.cons.inj hrest
        exact hnone
      | cons b between =>
        obtain ⟨rfl, -⟩ := List.cons.inj hrest
        exact absurd (hbefore e' (List.mem_append_right before' List.mem_cons_self)) h'

section Entries

variable {entries : List (Value × Value)}
  (h : ∀ e ∈ entries, e.1.hasText = true ∧ e.2.hasText = true)
include h

theorem readEntry_of_not_isDeclaration {e : Value × Value} (he : e ∈ entries)
    (hmisfit : ¬ IsDeclaration e.2) :
    ∃ fault, readEntry e = .error fault ∧
      (fault.isRefusal = true ↔ ∀ es, e.2 ≠ .mapping es) := by
  obtain ⟨fault, hfault, hrefusal⟩ :=
    readDeclaration_of_not_isDeclaration (h e he).1 (h e he).2 hmisfit
  exact ⟨fault, by rw [readEntry, hfault]; rfl, hrefusal⟩

theorem readEntry_succeeds_iff {e : Value × Value} (he : e ∈ entries) :
    (∃ d, readEntry e = .ok d) ↔ IsDeclaration e.2 := by
  constructor
  · rintro ⟨d, hd⟩
    by_contra hmisfit
    obtain ⟨fault, hfault, -⟩ := readEntry_of_not_isDeclaration h he hmisfit
    exact absurd (hfault.symm.trans hd) nofun
  · intro hdeclaration
    obtain ⟨d, hd⟩ := readDeclaration_of_isDeclaration (h e he).2 e.1 hdeclaration
    refine ⟨(e.1.text, d), ?_⟩
    rw [readEntry, hd, ok_bind, asText, if_pos (h e he).1]
    rfl

/-- Reading fails at the first misfit. -/
theorem firstMisfit_of_readEntries {fault : Fault} (hread : entries.mapM readEntry = .error fault) :
    fault.isRefusal = true ↔ FirstMisfitIsNoMapping entries := by
  obtain ⟨before, e, after, rfl, hbefore, hfault⟩ := first_of_mapM_eq_error hread
  have he : e ∈ before ++ e :: after := List.mem_append_right before List.mem_cons_self
  have hsound : ∀ b ∈ before, IsDeclaration b.2 := fun b hb =>
    (readEntry_succeeds_iff h (List.mem_append_left _ hb)).mp (hbefore b hb)
  have hmisfit : ¬ IsDeclaration e.2 := by
    intro hdeclaration
    obtain ⟨d, hd⟩ := (readEntry_succeeds_iff h he).mpr hdeclaration
    cases hfault.symm.trans hd
  obtain ⟨first, hfirst, hrefusal⟩ := readEntry_of_not_isDeclaration h he hmisfit
  rw [Except.error.inj (hfault.symm.trans hfirst), hrefusal,
    firstMisfitIsNoMapping_append before after hsound hmisfit]

/-- Reading declarations settles as reading the first misfit does. -/
theorem settlesBy_ofEntries_iff :
    SettlesBy Fault.isRefusal (ofEntries entries) ↔ FirstMisfitIsNoMapping entries := by
  have hrun : ofEntries entries = readDeclarations entries >>= ofDeclarations := rfl
  rw [hrun, readDeclarations_eq]
  cases hread : entries.mapM readEntry with
  | error fault => exact settlesBy_error_iff.trans (firstMisfit_of_readEntries h hread)
  | ok ds =>
    rw [map_ok, ok_bind]
    refine iff_of_true ?_ ?_
    · cases hdeclared : ofDeclarations (Assoc.ofList ds) with
      | ok profiles => exact settlesBy_ok profiles
      | error fault =>
        obtain ⟨name, parent, rfl⟩ := exists_unknownParent_of_ofDeclarations hdeclared
        exact settlesBy_error_iff.mpr rfl
    · rintro before e after rfl - hmisfit
      have he : e ∈ before ++ e :: after := List.mem_append_right before List.mem_cons_self
      exact absurd ((readEntry_succeeds_iff h he).mp (ok_of_mem_of_mapM hread he)) hmisfit

end Entries

end OsgiIvy.Profiles
