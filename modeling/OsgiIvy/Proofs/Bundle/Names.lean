import OsgiIvy.Proofs.Bundle.Headers
import OsgiIvy.Proofs.Manifest.Paths

/-!
# Names in a bundle

A used package is never blank.  Every other name of a bundle is the value of a path in its manifest
(`names_ofManifest`), and is blank exactly if the path is a pair of quotation marks around nothing
but blanks: blank parts are left out, but the marks are only taken away after that
(`ofManifest_names_iff`).
-/

namespace OsgiIvy.Bundle

open OsgiIvy.Manifest OsgiIvy.Text

/-! ### Used packages -/

theorem isBlankText_false_of_mem_usedNames {uses use : String} (h : use ∈ usedNames uses) :
    isBlankText use.toList = false := by
  obtain ⟨cs, hcs, rfl⟩ := List.mem_map.mp (NameSet.mem_ofList.mp h)
  obtain ⟨hpiece, hne⟩ := List.mem_filter.mp hcs
  obtain ⟨piece, -, rfl⟩ := List.mem_map.mp hpiece
  rw [String.toList_ofList]
  exact isBlankText_false_of_isStripped (by simpa using hne) (isStripped_strip piece)

/-! ### Names and their paths -/

variable {headers : Headers} {b : Bundle}

/-- The name of a bundle, of each export, of each requirement and of each environment. -/
def names (b : Bundle) : List String :=
  b.symbolicName :: (b.exports.map Export.name ++ b.requirements.map Requirement.name ++
    b.environments)

/-- The headers that name something for each of their values. -/
def naming : List String :=
  ["Export-Package", "Import-Package", "Require-Bundle", "Bundle-RequiredExecutionEnvironment"]

/-- The paths of a header; one that is missing has none. -/
def pathsIn (headers : Headers) (name : String) : List (List Char) :=
  (headers.get? name).elim [] pathsOf

/-- The paths of a manifest that name something. -/
def namePaths (headers : Headers) : List (List Char) :=
  (pathsIn headers "Bundle-SymbolicName").take 1 ++ naming.flatMap (pathsIn headers)

theorem values_of_parseHeader? {name : String} {es : List Clause}
    (h : parseHeader? (headers.get? name) = .ok es) :
    es.flatMap Clause.values = (pathsIn headers name).map valueOf := by
  rw [pathsIn]
  cases hget : headers.get? name with
  | none =>
    rw [hget] at h
    rw [← Except.ok.inj h]
    rfl
  | some header =>
    rw [hget] at h
    exact values_of_parseHeader h

/-- The first value of the first clause is the first of all. -/
theorem take_one_values {es : List Clause} {name : String}
    (h : es.head?.bind (·.values.head?) = some name) :
    (es.flatMap Clause.values).take 1 = [name] := by
  obtain ⟨e, he, hname⟩ := Option.bind_eq_some_iff.mp h
  obtain ⟨rest, rfl⟩ := List.head?_eq_some_iff.mp he
  obtain ⟨values, hvalues⟩ := List.head?_eq_some_iff.mp hname
  rw [List.flatMap_cons, hvalues]
  rfl

theorem map_name_exports (es : List Clause) :
    (es.flatMap exportsOf).map Export.name = es.flatMap Clause.values := by
  rw [List.map_flatMap]
  refine List.flatMap_congr fun e _ => ?_
  rw [exportsOf, List.map_map]
  exact List.map_id e.values

theorem map_name_requirements (type versionKey : String) (es : List Clause) :
    (es.flatMap (requirementsOf type versionKey)).map Requirement.name =
      es.flatMap Clause.values := by
  rw [List.map_flatMap]
  refine List.flatMap_congr fun e _ => ?_
  rw [requirementsOf, List.map_map]
  exact List.map_id e.values

/-- The names of a bundle are the paths of its manifest without their quotation marks. -/
theorem names_ofManifest (h : ofManifest headers = .ok b) :
    b.names = (namePaths headers).map valueOf := by
  obtain ⟨c, name, hread, hname, rfl⟩ := ofManifest_eq_ok_iff.mp h
  have hfirst : ((pathsIn headers "Bundle-SymbolicName").take 1).map valueOf = [name] := by
    rw [List.map_take, ← values_of_parseHeader? hread.symbolicName]
    exact take_one_values (symbolicNameOf_eq_ok_iff.mp hname)
  have hothers : (naming.flatMap (pathsIn headers)).map valueOf =
      c.exports.flatMap Clause.values ++ (c.packages.flatMap Clause.values ++
        (c.bundles.flatMap Clause.values ++ (c.environments.flatMap Clause.values ++ []))) := by
    rw [values_of_parseHeader? hread.exports, values_of_parseHeader? hread.packages,
      values_of_parseHeader? hread.bundles, values_of_parseHeader? hread.environments,
      List.map_flatMap]
    rfl
  rw [namePaths, List.map_append, hfirst, hothers, names, Clauses.bundle, map_name_exports,
    List.map_append, map_name_requirements, map_name_requirements]
  simp only [List.append_assoc, List.append_nil, List.singleton_append]

/-! ### Blank names -/

theorem mem_pathsOf_of_mem_pathsIn {name : String} {path : List Char}
    (h : path ∈ pathsIn headers name) : ∃ header, path ∈ pathsOf header := by
  rw [pathsIn] at h
  cases hget : headers.get? name with
  | none =>
    rw [hget] at h
    exact absurd h List.not_mem_nil
  | some header =>
    rw [hget] at h
    exact ⟨header, h⟩

theorem mem_pathsOf_of_mem_namePaths {path : List Char} (h : path ∈ namePaths headers) :
    ∃ header, path ∈ pathsOf header := by
  rcases List.mem_append.mp h with hfirst | hrest
  · exact mem_pathsOf_of_mem_pathsIn (List.mem_of_mem_take hfirst)
  · obtain ⟨name, -, hpath⟩ := List.mem_flatMap.mp hrest
    exact mem_pathsOf_of_mem_pathsIn hpath

/-- Whatever a bundle is read from, the packages that its exports use have names that are not
blank; all its other names are not blank either exactly if no path of the manifest is hollow. -/
theorem ofManifest_names_iff (h : ofManifest headers = .ok b) :
    (∀ e ∈ b.exports, ∀ use ∈ e.uses, isBlankText use.toList = false) ∧
      ((∀ name ∈ b.names, isBlankText name.toList = false) ↔
        ∀ path ∈ namePaths headers, ¬ IsHollow path) := by
  constructor
  · obtain ⟨c, name, -, -, rfl⟩ := ofManifest_eq_ok_iff.mp h
    intro e he use huse
    obtain ⟨clause, -, hclause⟩ := List.mem_flatMap.mp he
    obtain ⟨package, -, rfl⟩ := List.mem_map.mp hclause
    exact isBlankText_false_of_mem_usedNames huse
  · rw [names_ofManifest h, List.forall_mem_map]
    refine forall₂_congr fun path hpath => ?_
    obtain ⟨header, hheader⟩ := mem_pathsOf_of_mem_namePaths hpath
    rw [← isBlankText_valueOf_iff hheader, Bool.not_eq_true]

/-- A manifest that names the bundle and an export with quotation marks. -/
def namedBy (name package : String) : Headers :=
  ⟨[("Bundle-SymbolicName", name), ("Export-Package", package)]⟩

/-- Marks around more than blanks, and a list of used packages with a blank one. -/
theorem ofManifest_names_quoted :
    let headers := namedBy "\" app\"" "org.a;\"org b\";uses:=\"org.c, ,org.d\""
    ofManifest headers = .ok {
      symbolicName := " app"
      version := "0.0.0"
      exports := [⟨"org.a", "0.0.0", ⟨["org.c", "org.d"]⟩⟩,
        ⟨"org b", "0.0.0", ⟨["org.c", "org.d"]⟩⟩]
      requirements := []
      artifacts := []
      environments := []
      hasInnerClasspath := false } ∧ ∀ path ∈ namePaths headers, ¬ IsHollow path := by
  refine ⟨rfl, (ofManifest_names_iff rfl).2.mp ?_⟩
  decide

/-- Marks around nothing name the bundle, and marks around a blank name what it exports. -/
theorem ofManifest_names_blank :
    (ofManifest (namedBy "\"\"" "\" \";version=1")).map names = .ok ["", " "] := rfl

end OsgiIvy.Bundle
