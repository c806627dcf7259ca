import OsgiIvy.Proofs.Bundle.Headers
import OsgiIvy.Proofs.Manifest.Sharing

/-!
# Declarations that share their parameters

Exports and requirements are declared value by value, so that only what a header declares when its
clauses are taken apart counts (`ofManifest_of_declares`).  A clause of several paths may therefore
be written as one clause for each of them (`ofManifest_shared`).
-/

namespace OsgiIvy.Bundle

open OsgiIvy.Manifest OsgiIvy.Text
open OsgiIvy.Manifest.Clause (IsPath IsParameters alone shared)

/-! ### Clauses taken apart -/

theorem flatMap_exportsOf_alone (es : List Clause) :
    (es.flatMap alone).flatMap exportsOf = es.flatMap exportsOf := by
  rw [List.flatMap_assoc]
  refine List.flatMap_congr fun e _ => ?_
  rw [alone, List.flatMap_map, exportsOf, List.map_eq_flatMap]
  rfl

theorem flatMap_requirementsOf_alone (type versionKey : String) (es : List Clause) :
    (es.flatMap alone).flatMap (requirementsOf type versionKey) =
      es.flatMap (requirementsOf type versionKey) := by
  rw [List.flatMap_assoc]
  refine List.flatMap_congr fun e _ => ?_
  rw [alone, List.flatMap_map, requirementsOf, List.map_eq_flatMap]
  rfl

/-! ### Headers that declare the same -/

/-- The headers whose clauses declare something for each of their values. -/
def declaring : List String := ["Export-Package", "Import-Package", "Require-Bundle"]

variable {headers headers' : Headers}

/-- Two manifests agree on what they declare. -/
structure DeclareAlike (headers headers' : Headers) : Prop where
  declared : ∀ name ∈ declaring, ∀ es, Declares (parseHeader? (headers.get? name)) es ↔
    Declares (parseHeader? (headers'.get? name)) es
  others : ∀ name ∉ declaring, headers.get? name = headers'.get? name

theorem DeclareAlike.symm (h : DeclareAlike headers headers') : DeclareAlike headers' headers where
  declared name hname es := (h.declared name hname es).symm
  others name hname := (h.others name hname).symm

/-- What one of the headers declares, the other manifest's does. -/
theorem DeclareAlike.exists_read (h : DeclareAlike headers headers') {name : String}
    (hname : name ∈ declaring) {es : List Clause}
    (hread : parseHeader? (headers.get? name) = .ok es) :
    ∃ fs, parseHeader? (headers'.get? name) = .ok fs ∧ fs.flatMap alone = es.flatMap alone :=
  (h.declared name hname _).mp ⟨es, hread, rfl⟩

theorem DeclareAlike.ofManifest (h : DeclareAlike headers headers') {b : Bundle}
    (hb : ofManifest headers = .ok b) : ofManifest headers' = .ok b := by
  obtain ⟨c, name, hread, hname, rfl⟩ := ofManifest_eq_ok_iff.mp hb
  obtain ⟨exports, hexports, hexports'⟩ := h.exists_read (by decide) hread.exports
  obtain ⟨packages, hpackages, hpackages'⟩ := h.exists_read (by decide) hread.packages
  obtain ⟨bundles, hbundles, hbundles'⟩ := h.exists_read (by decide) hread.bundles
  have hversion : versionOf headers' = versionOf headers := by
    rw [versionOf, Assoc.getD, ← h.others _ (by decide)]
    rfl
  refine ofManifest_eq_ok_iff.mpr
    ⟨{ c with exports := exports, packages := packages, bundles := bundles }, name, ?_, hname, ?_⟩
  · exact {
      symbolicName := h.others "Bundle-SymbolicName" (by decide) ▸ hread.symbolicName
      exports := hexports
      packages := hpackages
      bundles := hbundles
      environments :=
        h.others "Bundle-RequiredExecutionEnvironment" (by decide) ▸ hread.environments
      classpath := h.others "Bundle-ClassPath" (by decide) ▸ hread.classpath }
  · simp only [Clauses.bundle, hversion]
    rw [← flatMap_exportsOf_alone exports, hexports', flatMap_exportsOf_alone,
      ← flatMap_requirementsOf_alone _ _ packages, hpackages', flatMap_requirementsOf_alone,
      ← flatMap_requirementsOf_alone _ _ bundles, hbundles', flatMap_requirementsOf_alone]

theorem DeclareAlike.ofManifest_eq_ok_iff (h : DeclareAlike headers headers') (b : Bundle) :
    Bundle.ofManifest headers = .ok b ↔ Bundle.ofManifest headers' = .ok b :=
  ⟨h.ofManifest, h.symm.ofManifest⟩

/-- A header with another text that declares the same. -/
theorem declareAlike_put {name text text' : String} (hname : name ∈ declaring)
    (htext : headers.get? name = some text)
    (h : ∀ es, Declares (parseHeader text) es ↔ Declares (parseHeader text') es) :
    DeclareAlike headers (headers.put name text') where
  declared other _ es := by
    by_cases hother : other = name
    · subst hother
      rw [htext, Assoc.get?_put_self]
      exact h es
    · rw [Assoc.get?_put_of_ne _ hother]
  others other hother := (Assoc.get?_put_of_ne _ (ne_of_mem_of_not_mem hname hother).symm _).symm

/-! ### Shared parameters -/

/-- Whether a header has a clause of several paths or one clause for each of them with the same
parameters: the manifest describes the same bundle, or none. -/
theorem ofManifest_shared {name : String} {paths before after : List String} {parameters : String}
    (hname : name ∈ declaring) (hne : paths ≠ []) (hpaths : ∀ path ∈ paths, IsPath path)
    (hparameters : IsParameters parameters)
    (hbefore : ∀ text ∈ before, text.toList.count '"' % 2 = 0)
    (hheader : headers.get? name =
      some (",".intercalate (before ++ [shared paths parameters] ++ after))) :
    let apart := headers.put name (",".intercalate
      (before ++ paths.map (fun path => shared [path] parameters) ++ after))
    (∀ b, ofManifest headers = .ok b ↔ ofManifest apart = .ok b) ∧
      ((∃ fault, ofManifest headers = .error fault) ↔
        ∃ fault, ofManifest apart = .error fault) := by
  intro apart
  have halike : DeclareAlike headers apart := declareAlike_put hname hheader fun es =>
    declares_parseHeader_shared hparameters hne hpaths
      (fun text htext => decide_eq_true (hbefore text htext)) after
  refine ⟨halike.ofManifest_eq_ok_iff, ?_⟩
  rw [exists_eq_error_iff, exists_eq_error_iff]
  exact forall_congr' fun b => not_congr (halike.ofManifest_eq_ok_iff b)

/-- A manifest that imports what the clauses say. -/
def importing (clauses : List String) : Headers :=
  ⟨[("Bundle-SymbolicName", "app"), ("Import-Package", ",".intercalate clauses)]⟩

/-- A range, a part that is blank, and a directive with a blank in front of its name. -/
def ranged : String := "version=\"[1,2)\";; resolution:=optional"

/-- Two paths between a clause with a comma between marks and one that is plain. -/
theorem ofManifest_shared_ranged :
    (∀ path ∈ ["org.a", " b "], IsPath path) ∧ IsParameters ranged ∧
      ofManifest (importing ["c;note=\",\"", "org.a; b ;version=\"[1,2)\";; resolution:=optional",
        "d"]) =
      ofManifest (importing ["c;note=\",\"", "org.a;version=\"[1,2)\";; resolution:=optional",
        " b ;version=\"[1,2)\";; resolution:=optional", "d"]) := by
  have hpaths : ∀ path ∈ ["org.a", " b "], IsPath path := by decide
  have hparameters : IsParameters ranged :=
    ⟨by decide, (pieces_eq_self_iff (by decide) _).mp (by decide), by decide⟩
  have hread : ofManifest (importing ["c;note=\",\"", shared ["org.a", " b "] ranged, "d"]) =
      .ok {
        symbolicName := "app"
        version := "0.0.0"
        exports := []
        requirements := [⟨"package", "c", none, "mandatory"⟩,
          ⟨"package", "org.a", some "[1,2)", "optional"⟩,
          ⟨"package", "b", some "[1,2)", "optional"⟩, ⟨"package", "d", none, "mandatory"⟩]
        artifacts := []
        environments := []
        hasInnerClasspath := false } := rfl
  have hheader : (importing ["c;note=\",\"", shared ["org.a", " b "] ranged, "d"]).get?
      "Import-Package" =
        some (",".intercalate (["c;note=\",\""] ++ [shared ["org.a", " b "] ranged] ++ ["d"])) :=
    rfl
  have happart := ofManifest_shared (by decide) (by decide) hpaths hparameters (by decide) hheader
  exact ⟨hpaths, hparameters, hread.trans ((happart.1 _).mp hread).symm⟩

end OsgiIvy.Bundle
