import OsgiIvy.Proofs.Manifest.Grammar
import OsgiIvy.Proofs.Manifest.Quoting

/-!
# Clauses with several values

The parameters of a clause hold for all its values.  So a clause of several paths says the same as
one clause for each path with all the parameters, wherever it stands in a header: both are read or
both are refused (`declares_parseHeader_shared`).
-/

namespace OsgiIvy.Manifest

open OsgiIvy.Text

namespace Clause

/-- The clause taken apart into clauses of one value. -/
def alone (e : Clause) : List Clause := e.values.map fun value => { e with values := [value] }

/-- The text of a clause: paths and then parameters. -/
def shared (paths : List String) (parameters : String) : String :=
  ";".intercalate (paths ++ [parameters])

/-- A text that reads as a value. -/
def IsPath (path : String) : Prop :=
  isBlankText path.toList = false ∧
    ',' ∉ path.toList ∧ ';' ∉ path.toList ∧ '"' ∉ path.toList ∧ '=' ∉ path.toList

instance : DecidablePred IsPath := fun _ => inferInstanceAs (Decidable (_ ∧ _))

/-- A text whose marks pair up, whose commas stand between marks and whose parts are attributes and
directives, with a name or without one. -/
structure IsParameters (parameters : String) : Prop where
  quotes : parameters.toList.count '"' % 2 = 0
  whole : IsWhole ',' parameters.toList
  settings : ∀ part ∈ partsOf parameters, '=' ∈ part

/-- The clause that parameters build. -/
def settingsOf (parameters : String) : Clause := ofSteps ((partsOf parameters).map Step.ofPart)

section Shared

variable {paths : List String} {parameters : String}

theorem toList_shared (paths : List String) (parameters : String) :
    (shared paths parameters).toList =
      [';'].intercalate (paths.map String.toList ++ [parameters.toList]) := by
  have hsemicolon : ";".toList = [';'] := rfl
  rw [shared, String.toList_intercalate, hsemicolon, List.map_append, List.map_singleton]

/-! ### The parts of the clause -/

theorem quotesBalanced_texts (hpaths : ∀ path ∈ paths, IsPath path)
    (hparameters : IsParameters parameters) :
    ∀ text ∈ paths.map String.toList ++ [parameters.toList], quotesBalanced text = true := by
  refine List.forall_mem_append.mpr ⟨List.forall_mem_map.mpr fun path hpath => ?_, ?_⟩
  · exact quotesBalanced_of_not_mem (hpaths path hpath).2.2.2.1
  · exact List.forall_mem_singleton.mpr (decide_eq_true hparameters.quotes)

theorem quotesBalanced_shared (hpaths : ∀ path ∈ paths, IsPath path)
    (hparameters : IsParameters parameters) :
    quotesBalanced (shared paths parameters).toList = true := by
  rw [toList_shared]
  exact quotesBalanced_intercalate (by decide) (quotesBalanced_texts hpaths hparameters)

/-- No comma cuts the clause. -/
theorem isWhole_shared (hpaths : ∀ path ∈ paths, IsPath path)
    (hparameters : IsParameters parameters) :
    IsWhole ',' (shared paths parameters).toList := by
  rw [toList_shared]
  refine isWhole_intercalate (by decide) (by decide) ?_ (quotesBalanced_texts hpaths hparameters)
  refine List.forall_mem_append.mpr ⟨List.forall_mem_map.mpr fun path hpath => ?_, ?_⟩
  · exact isWhole_of_not_mem (hpaths path hpath).2.1
  · exact List.forall_mem_singleton.mpr hparameters.whole

theorem strip_ne_nil {cs : List Char} (h : isBlankText cs = false) : strip cs ≠ [] := by
  rw [Ne, strip_eq_nil_iff, h]
  exact Bool.false_ne_true

theorem partsOf_shared (hpaths : ∀ path ∈ paths, IsPath path)
    (hparameters : IsParameters parameters) : partsOf (shared paths parameters) =
      (paths.map fun path => strip path.toList) ++ partsOf parameters := by
  have hsep : ';' ≠ '"' := by decide
  have hwhole : (paths.map String.toList).flatMap (pieces ';' false) = paths.map String.toList := by
    rw [List.flatMap_map]
    exact (List.flatMap_congr fun path hpath => (pieces_eq_self_iff hsep path.toList).mpr
      (isWhole_of_not_mem (hpaths path hpath).2.2.1)).trans (List.map_eq_flatMap).symm
  have hfilled : ((paths.map String.toList).map strip).filter (!·.isEmpty) =
      paths.map fun path => strip path.toList := by
    rw [List.map_map, List.filter_eq_self.mpr]
    · rfl
    · refine List.forall_mem_map.mpr fun path hpath => ?_
      simpa using strip_ne_nil (hpaths path hpath).1
  rw [partsOf, ← pieces_eq_piecesOutside hsep, toList_shared,
    pieces_intercalate hsep (by simp) (quotesBalanced_texts hpaths hparameters),
    List.flatMap_append, hwhole, List.flatMap_singleton, parts, List.map_append,
    List.filter_append, hfilled, pieces_eq_piecesOutside hsep]
  rfl

/-! ### Reading the clause -/

theorem ofPart_strip {path : String} (h : IsPath path) :
    Step.ofPart (strip path.toList) = .value (stripped path) := by
  have hsub : ∀ c, c ∉ path.toList → c ∉ strip path.toList := fun c hc hmem =>
    hc ((strip_sublist path.toList).mem hmem)
  have hbare : IsBare (strip path.toList) :=
    isBare_of_not_mem (isStripped_strip _) (hsub '"' h.2.2.2.1)
  rw [ofPart_value (hsub '=' h.2.2.2.2), hbare.unquote_eq]
  rfl

theorem ofSteps_shared (hpaths : ∀ path ∈ paths, IsPath path)
    (hparameters : IsParameters parameters) :
    ofSteps ((partsOf (shared paths parameters)).map Step.ofPart) =
      { settingsOf parameters with values := paths.map stripped } := by
  have hvalues : ((paths.map fun path => strip path.toList).map Step.ofPart) =
      paths.map fun path => Step.value (stripped path) := by
    rw [List.map_map]
    exact List.map_congr_left fun path hpath => ofPart_strip (hpaths path hpath)
  have hnone : ((partsOf parameters).map Step.ofPart).filterMap Step.value? = [] := by
    rw [values_ofPart, List.filter_eq_nil_iff.mpr]
    · rfl
    · exact fun part hpart => by simpa using hparameters.settings part hpart
  rw [partsOf_shared hpaths hparameters, List.map_append, hvalues, settingsOf, ofSteps, ofSteps,
    foldl_add, foldl_add]
  simp [hnone, empty, List.filterMap_append, List.filterMap_map, Function.comp_def, Step.value?,
    Step.attribute?, Step.directive?]

/-- What decides whether the clause is read are its parameters alone. -/
theorem parse_shared_eq_ok_iff (hpaths : ∀ path ∈ paths, IsPath path)
    (hparameters : IsParameters parameters) {e : Clause} :
    parse (shared paths parameters) = .ok e ↔ (∀ part ∈ partsOf parameters, IsNamed part) ∧
      e = { settingsOf parameters with values := paths.map stripped } := by
  have hplain : ∀ part ∈ paths.map fun path => strip path.toList, '=' ∉ part := by
    refine List.forall_mem_map.mpr fun path hpath hmem => ?_
    exact (hpaths path hpath).2.2.2.2 ((strip_sublist path.toList).mem hmem)
  have horder : (partsOf (shared paths parameters)).Pairwise fun p q => '=' ∈ p → '=' ∈ q := by
    rw [partsOf_shared hpaths hparameters]
    refine List.pairwise_append.mpr ⟨?_, ?_, ?_⟩
    · exact List.pairwise_of_forall_mem_list fun p hp q _ hmem => absurd hmem (hplain p hp)
    · exact List.pairwise_of_forall_mem_list fun _ _ q hq _ => hparameters.settings q hq
    · exact fun _ _ q hq _ => hparameters.settings q hq
  rw [parse_eq_ok_iff, says_iff, ofSteps_shared hpaths hparameters]
  refine and_congr ⟨fun htext part hpart => ?_, fun hnamed => ⟨?_, horder, ?_⟩⟩ eq_comm
  · refine htext.named part ?_
    rw [partsOf_shared hpaths hparameters]
    exact List.mem_append_right _ hpart
  · exact of_decide_eq_true (quotesBalanced_shared hpaths hparameters)
  · rw [partsOf_shared hpaths hparameters]
    exact List.forall_mem_append.mpr
      ⟨fun part hpart hmem => absurd hmem (hplain part hpart), hnamed⟩

end Shared

end Clause

open Clause (IsPath IsParameters shared settingsOf)

/-! ### What clauses declare -/

/-- The clauses are read, and taken apart they are the given ones. -/
def Declares (read : Except Fault (List Clause)) (es : List Clause) : Prop :=
  ∃ clauses, read = .ok clauses ∧ clauses.flatMap Clause.alone = es

theorem declares_parseClauses_append {clauses more : List (List Char)} {es : List Clause} :
    Declares (parseClauses (clauses ++ more)) es ↔ ∃ fs gs,
      Declares (parseClauses clauses) fs ∧ Declares (parseClauses more) gs ∧ fs ++ gs = es := by
  simp only [Declares, parseClauses_append, bind_eq_ok, pure_eq_ok, Except.ok.injEq]
  constructor
  · rintro ⟨_, ⟨fs, hfs, gs, hgs, rfl⟩, rfl⟩
    exact ⟨_, _, ⟨fs, hfs, rfl⟩, ⟨gs, hgs, rfl⟩, (List.flatMap_append).symm⟩
  · rintro ⟨_, _, ⟨fs, hfs, rfl⟩, ⟨gs, hgs, rfl⟩, rfl⟩
    exact ⟨fs ++ gs, ⟨fs, hfs, gs, hgs, rfl⟩, List.flatMap_append⟩

section Shared

variable {paths : List String} {parameters : String} {es : List Clause}

theorem isBlankText_shared (hpaths : ∀ path ∈ paths, IsPath path) (hne : paths ≠ []) :
    isBlankText (shared paths parameters).toList = false := by
  obtain ⟨path, rest, rfl⟩ := List.exists_cons_of_ne_nil hne
  rw [Clause.toList_shared]
  exact isBlankText_intercalate (hpaths path List.mem_cons_self).1 _

/-- Parameters with a name each are read with any paths. -/
theorem parseClauses_shared (hnamed : ∀ part ∈ Clause.partsOf parameters, Clause.IsNamed part)
    (hparameters : IsParameters parameters) {groups : List (List String)}
    (hpaths : ∀ paths ∈ groups, paths ≠ [] ∧ ∀ path ∈ paths, IsPath path) :
    parseClauses (groups.map fun paths => (shared paths parameters).toList) =
      .ok (groups.map fun paths =>
        { settingsOf parameters with values := paths.map stripped }) := by
  rw [parseClauses_eq_mapM, List.filter_eq_self.mpr]
  · exact mapM_map_eq_ok fun paths hmem =>
      (Clause.parse_shared_eq_ok_iff (hpaths paths hmem).2 hparameters).mpr ⟨hnamed, rfl⟩
  · refine List.forall_mem_map.mpr fun paths hmem => ?_
    rw [isBlankText_shared (hpaths paths hmem).2 (hpaths paths hmem).1]
    rfl

/-- Parameters without a name are refused with any paths. -/
theorem named_of_parseClauses_shared (hparameters : IsParameters parameters)
    {groups : List (List String)} (hne : groups ≠ [])
    (hpaths : ∀ paths ∈ groups, paths ≠ [] ∧ ∀ path ∈ paths, IsPath path) {clauses : List Clause}
    (h : parseClauses (groups.map fun paths => (shared paths parameters).toList) = .ok clauses) :
    ∀ part ∈ Clause.partsOf parameters, Clause.IsNamed part := by
  obtain ⟨paths, hmem⟩ := List.exists_mem_of_ne_nil groups hne
  rw [parseClauses_eq_mapM] at h
  have hfilled : (shared paths parameters).toList ∈
      (groups.map fun paths => (shared paths parameters).toList).filter (!isBlankText ·) := by
    refine List.mem_filter.mpr ⟨List.mem_map_of_mem hmem, ?_⟩
    rw [isBlankText_shared (hpaths paths hmem).2 (hpaths paths hmem).1]
    rfl
  obtain ⟨e, he⟩ := ok_of_mem_of_mapM h hfilled
  exact ((Clause.parse_shared_eq_ok_iff (hpaths paths hmem).2 hparameters).mp he).1

theorem declares_shared_iff (hparameters : IsParameters parameters) {groups : List (List String)}
    (hne : groups ≠ []) (hpaths : ∀ paths ∈ groups, paths ≠ [] ∧ ∀ path ∈ paths, IsPath path) :
    Declares (parseClauses (groups.map fun paths => (shared paths parameters).toList)) es ↔
      (∀ part ∈ Clause.partsOf parameters, Clause.IsNamed part) ∧
        groups.flatten.map (fun path =>
          { settingsOf parameters with values := [stripped path] }) = es := by
  have halone : (groups.map fun paths =>
      { settingsOf parameters with values := paths.map stripped }).flatMap Clause.alone =
        groups.flatten.map fun path =>
          { settingsOf parameters with values := [stripped path] } := by
    rw [List.flatMap_map, List.map_flatten, List.flatMap_def]
    simp [Clause.alone, Function.comp_def]
  constructor
  · rintro ⟨clauses, hread, rfl⟩
    have hnamed := named_of_parseClauses_shared hparameters hne hpaths hread
    rw [parseClauses_shared hnamed hparameters hpaths] at hread
    rw [← Except.ok.inj hread, halone]
    exact ⟨hnamed, rfl⟩
  · rintro ⟨hnamed, rfl⟩
    exact ⟨_, parseClauses_shared hnamed hparameters hpaths, halone⟩

/-! ### In a header -/

theorem pieces_shared (hparameters : IsParameters parameters) {groups : List (List String)}
    (hpaths : ∀ paths ∈ groups, paths ≠ [] ∧ ∀ path ∈ paths, IsPath path) :
    (groups.map (shared · parameters)).flatMap (fun text => pieces ',' false text.toList) =
      groups.map fun paths => (shared paths parameters).toList := by
  rw [List.flatMap_map, List.map_eq_flatMap]
  refine List.flatMap_congr fun paths hmem => (pieces_eq_self_iff (by decide) _).mpr ?_
  exact Clause.isWhole_shared (hpaths paths hmem).2 hparameters

variable {groups : List (List String)} {before : List String}

theorem declares_parseHeader_iff (hparameters : IsParameters parameters)
    (hpaths : ∀ paths ∈ groups, paths ≠ [] ∧ ∀ path ∈ paths, IsPath path)
    (hbefore : ∀ text ∈ before, quotesBalanced text.toList = true) (after : List String) :
    Declares (parseHeader
        (",".intercalate (before ++ groups.map (shared · parameters) ++ after))) es ↔
      quotesBalanced (",".intercalate after).toList = true ∧
        Declares (parseClauses ((before.flatMap fun text => pieces ',' false text.toList) ++
          (groups.map fun paths => (shared paths parameters).toList) ++
            pieces ',' false (",".intercalate after).toList)) es := by
  have hfront : ∀ text ∈ before ++ groups.map (shared · parameters),
      quotesBalanced text.toList = true := by
    refine List.forall_mem_append.mpr ⟨hbefore, List.forall_mem_map.mpr fun paths hmem => ?_⟩
    exact Clause.quotesBalanced_shared (hpaths paths hmem).2 hparameters
  rw [parseHeader_intercalate_append hfront, List.flatMap_append,
    pieces_shared hparameters hpaths]
  by_cases hquotes : quotesBalanced (",".intercalate after).toList = true
  · rw [if_pos hquotes]
    exact (and_iff_right hquotes).symm
  · rw [if_neg hquotes]
    exact ⟨fun ⟨_, hread, _⟩ => absurd hread nofun, fun h => absurd h.1 hquotes⟩

/-- However paths are grouped into clauses, the header declares the same. -/
theorem declares_parseHeader_groups (hparameters : IsParameters parameters)
    {groups' : List (List String)} (hflatten : groups.flatten = groups'.flatten)
    (hne : groups ≠ []) (hne' : groups' ≠ [])
    (hpaths : ∀ paths ∈ groups, paths ≠ [] ∧ ∀ path ∈ paths, IsPath path)
    (hpaths' : ∀ paths ∈ groups', paths ≠ [] ∧ ∀ path ∈ paths, IsPath path)
    (hbefore : ∀ text ∈ before, quotesBalanced text.toList = true) (after : List String) :
    Declares (parseHeader
        (",".intercalate (before ++ groups.map (shared · parameters) ++ after))) es ↔
      Declares (parseHeader
        (",".intercalate (before ++ groups'.map (shared · parameters) ++ after))) es := by
  rw [declares_parseHeader_iff hparameters hpaths hbefore,
    declares_parseHeader_iff hparameters hpaths' hbefore]
  simp only [declares_parseClauses_append, declares_shared_iff hparameters hne hpaths,
    declares_shared_iff hparameters hne' hpaths', hflatten]

/-- A clause of several paths declares what one clause for each of them does. -/
theorem declares_parseHeader_shared (hparameters : IsParameters parameters) (hne : paths ≠ [])
    (hpaths : ∀ path ∈ paths, IsPath path)
    (hbefore : ∀ text ∈ before, quotesBalanced text.toList = true) (after : List String) :
    Declares (parseHeader (",".intercalate (before ++ [shared paths parameters] ++ after))) es ↔
      Declares (parseHeader (",".intercalate
        (before ++ paths.map (fun path => shared [path] parameters) ++ after))) es := by
  have hgroups : (paths.map fun path => [path]).map (shared · parameters) =
      paths.map fun path => shared [path] parameters := List.map_map
  have hone : [paths].flatten = (paths.map fun path => [path]).flatten := by
    simp [← List.flatMap_def]
  rw [← hgroups]
  refine declares_parseHeader_groups hparameters hone (List.cons_ne_nil _ _) (by simpa using hne)
    ?_ ?_ hbefore after
  · exact List.forall_mem_singleton.mpr ⟨hne, hpaths⟩
  · refine List.forall_mem_map.mpr fun path hpath => ⟨List.cons_ne_nil _ _, ?_⟩
    exact List.forall_mem_singleton.mpr (hpaths path hpath)

end Shared

end OsgiIvy.Manifest
