import OsgiIvy.Proofs.Manifest.Grammar
import OsgiIvy.Proofs.Manifest.Headers

/-!
# Paths of a header

The values of a header's clauses are its paths, the parts without an equals sign, each without the
quotation marks around it (`values_of_parseHeader`).  No path is blank, but one whose marks enclose
nothing but blanks gives a value that is (`isBlankText_unquote_iff`).
-/

namespace OsgiIvy.Manifest

open OsgiIvy.Text

/-! ### Values -/

/-- The parts of a clause that read as values. -/
def clausePaths (clause : List Char) : List (List Char) :=
  (Clause.partsOf (String.ofList clause)).filter ('=' ∉ ·)

/-- The parts of a header that read as values. -/
def pathsOf (header : String) : List (List Char) :=
  (piecesOutside ',' header.toList).flatMap clausePaths

/-- The value that a path is read as. -/
def valueOf (path : List Char) : String := String.ofList (unquote path)

theorem values_of_parseChars {clause : List Char} {e : Clause}
    (h : Clause.parseChars clause = .ok e) : e.values = (clausePaths clause).map valueOf := by
  have hparse : Clause.parse (String.ofList clause) = .ok e := by
    rwa [Clause.parse, String.toList_ofList]
  exact (Clause.parse_eq_ok_iff.mp hparse).2.values

/-- A blank clause is one blank part. -/
theorem clausePaths_of_blank {clause : List Char} (h : isBlankText clause = true) :
    clausePaths clause = [] := by
  have hnone : ';' ∉ clause := fun hmem =>
    absurd (List.all_eq_true.mp h ';' hmem) (by decide)
  have hone : piecesOutside ';' clause = [clause] := by
    rw [← pieces_eq_piecesOutside (by decide)]
    exact (pieces_eq_self_iff (by decide) _).mpr (isWhole_of_not_mem hnone)
  have hstrip : strip clause = [] := strip_eq_nil_iff.mpr h
  rw [clausePaths, Clause.partsOf, String.toList_ofList, hone, Clause.parts, List.map_singleton,
    hstrip]
  rfl

theorem values_of_parseClauses {clauses : List (List Char)} {es : List Clause}
    (h : parseClauses clauses = .ok es) :
    es.flatMap Clause.values = (clauses.flatMap clausePaths).map valueOf := by
  induction clauses generalizing es with
  | nil =>
    rw [← Except.ok.inj h]
    rfl
  | cons clause clauses ih =>
    rw [parseClauses] at h
    rw [List.flatMap_cons, List.map_append]
    split at h
    · next hblank =>
      rw [clausePaths_of_blank hblank, ih h]
      rfl
    · split at h
      · next e he =>
        split at h
        · next fs hfs =>
          rw [← Except.ok.inj h, List.flatMap_cons, values_of_parseChars he, ih hfs]
        · cases h
      · cases h

/-- The values of a header are its paths in order, without their quotation marks. -/
theorem values_of_parseHeader {header : String} {es : List Clause}
    (h : parseHeader header = .ok es) :
    es.flatMap Clause.values = (pathsOf header).map valueOf := by
  rw [parseHeader_eq] at h
  split at h
  · rw [pieces_eq_piecesOutside (by decide)] at h
    exact values_of_parseClauses h
  · cases h

/-! ### Blank values -/

/-- Quotation marks around nothing but blanks. -/
def IsHollow (path : List Char) : Prop :=
  ∃ blanks, isBlankText blanks = true ∧ path = '"' :: (blanks ++ ['"'])

theorem ne_nil_of_mem_pathsOf {header : String} {path : List Char} (h : path ∈ pathsOf header) :
    path ≠ [] ∧ IsStripped path := by
  obtain ⟨clause, -, hpath⟩ := List.mem_flatMap.mp h
  obtain ⟨hpart, hne⟩ := List.mem_filter.mp (List.mem_filter.mp hpath).1
  obtain ⟨piece, -, rfl⟩ := List.mem_map.mp hpart
  exact ⟨by simpa using hne, isStripped_strip piece⟩

theorem isBlankText_unquote_iff {path : List Char} (hne : path ≠ []) (h : IsStripped path) :
    isBlankText (unquote path) = true ↔ IsHollow path := by
  have hself : strip path = path := strip_eq_self_of_isStripped h
  by_cases henclosed : IsEnclosed path
  · obtain ⟨inner, rfl⟩ := (isEnclosed_iff path).mp henclosed
    rw [unquote_of_isEnclosed hself]
    constructor
    · exact fun hblank => ⟨inner, hblank, rfl⟩
    · rintro ⟨blanks, hblank, heq⟩
      obtain rfl : inner = blanks := by simpa using heq
      exact hblank
  · have hopen : ¬ IsEnclosed (strip path) := by rwa [hself]
    rw [unquote_of_not_isEnclosed hopen, hself, isBlankText_false_of_isStripped hne h]
    constructor
    · exact fun hno => absurd hno Bool.false_ne_true
    · rintro ⟨blanks, -, rfl⟩
      exact absurd ((isEnclosed_iff _).mpr ⟨blanks, rfl⟩) henclosed

theorem isBlankText_valueOf_iff {header : String} {path : List Char} (h : path ∈ pathsOf header) :
    isBlankText (valueOf path).toList = true ↔ IsHollow path := by
  obtain ⟨hne, hstripped⟩ := ne_nil_of_mem_pathsOf h
  rw [valueOf, String.toList_ofList, isBlankText_unquote_iff hne hstripped]

end OsgiIvy.Manifest
