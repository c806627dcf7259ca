import Mathlib.Data.List.Permutation
import OsgiIvy.Bundle.OfManifest
import OsgiIvy.Proofs.Manifest.Quoting
import OsgiIvy.Proofs.Outcomes

/-!
# Bundles written into manifests

`WritesExport` and `WritesRequirement` say which clause declares an export or a requirement: the
name, then its parameters in any order, each argument between quotation marks.  The headers that
hold these clauses describe the bundle that they were written for (`ofManifest_writes`).
-/

namespace OsgiIvy.Bundle

open OsgiIvy.Manifest OsgiIvy.Text
open OsgiIvy.Manifest.Clause (Step AreWritable)

/-! ### Versions and used packages -/

/-- A range of versions that can stand between quotation marks. -/
def IsRange (version : String) : Prop :=
  IsStripped version.toList ∧ '"' ∉ version.toList ∧
    (version.toList.head? = some '[' ∨ version.toList.head? = some '(')

/-- A name that can stand in a list of used packages. -/
def IsUsedName (package : String) : Prop :=
  (package.toList ≠ [] ∧ IsStripped package.toList) ∧ ',' ∉ package.toList ∧ '"' ∉ package.toList

instance : DecidablePred IsRange := fun version =>
  inferInstanceAs (Decidable (IsStripped version.toList ∧ _))

instance : DecidablePred IsUsedName := fun package =>
  inferInstanceAs (Decidable ((package.toList ≠ [] ∧ IsStripped package.toList) ∧ _))

theorem rangeOf_of_isRange {version : String} (h : IsRange version) :
    rangeOf version = version := by
  obtain ⟨hstripped, -, hopen⟩ := h
  have hself := strip_eq_self_of_isStripped hstripped
  have htext : String.ofList version.toList = version := String.ofList_toList
  cases hcs : version.toList with
  | nil => simp [hcs] at hopen
  | cons c cs =>
    rw [hcs] at hself hopen htext
    rcases hopen with hc | hc
    · obtain rfl : c = '[' := by simpa using hc
      simp only [rangeOf, hcs, hself, htext]
    · obtain rfl : c = '(' := by simpa using hc
      simp only [rangeOf, hcs, hself, htext]

theorem usedNames_intercalate {uses : List String} (h : ∀ use ∈ uses, IsUsedName use) :
    usedNames (",".intercalate uses) = .ofList uses := by
  cases uses with
  | nil => rfl
  | cons use rest =>
    have hcut : cutAt ',' (",".intercalate (use :: rest)).toList =
        (use :: rest).map String.toList := by
      rw [String.toList_intercalate]
      exact cutAt_intercalate (by simp) (List.forall_mem_map.mpr fun use huse => (h use huse).2.1)
    have hstrip : ((use :: rest).map String.toList).map strip =
        (use :: rest).map String.toList := by
      rw [List.map_map]
      exact List.map_congr_left fun use huse => strip_eq_self_of_isStripped (h use huse).1.2
    have hkept : ((use :: rest).map String.toList).filter (!·.isEmpty) =
        (use :: rest).map String.toList := by
      refine List.filter_eq_self.mpr (List.forall_mem_map.mpr fun use huse => ?_)
      simpa using (h use huse).1.1
    have htexts : ((use :: rest).map String.toList).map String.ofList = use :: rest := by
      rw [List.map_map]
      exact (List.map_congr_left fun _ _ => String.ofList_toList).trans (List.map_id _)
    rw [usedNames, hcut, hstrip, hkept, htexts]

theorem not_mem_quote_uses {uses : List String} (h : ∀ use ∈ uses, IsUsedName use) :
    '"' ∉ (",".intercalate uses).toList := by
  rw [String.toList_intercalate]
  intro hmem
  rcases mem_intercalate hmem with hcomma | ⟨text, htext, hquote⟩
  · exact absurd hcomma (by decide)
  · obtain ⟨use, huse, rfl⟩ := List.mem_map.mp htext
    exact (h use huse).2.2 hquote

/-! ### Clauses that declare something -/

/-- The steps of a clause that declares an export; the used packages may be listed in any order. -/
inductive WritesExport : List Step → Export → Prop
  | declared {name version : String} {uses : List String} {parameters : List Step}
    (hname : IsToken name.toList) (hversion : '"' ∉ version.toList)
    (huses : ∀ use ∈ uses, IsUsedName use)
    (hparameters : parameters.Perm
      [.attribute "version" version, .directive "uses" (",".intercalate uses)]) :
    WritesExport (.value name :: parameters) ⟨name, version, .ofList uses⟩

/-- The steps of a clause that declares a requirement; a version that is missing is left out. -/
inductive WritesRequirement (type versionKey : String) : List Step → Requirement → Prop
  | declared {name resolution : String} {version : Option String} {parameters : List Step}
    (hname : IsToken name.toList) (hversion : ∀ v, version = some v → IsRange v)
    (hresolution : '"' ∉ resolution.toList)
    (hparameters : parameters.Perm ((version.map (Step.attribute versionKey)).toList ++
      [.directive "resolution" resolution])) :
    WritesRequirement type versionKey (.value name :: parameters) ⟨type, name, version, resolution⟩

variable {ss : List Step}

theorem WritesExport.areWritable {e : Export} (h : WritesExport ss e) : AreWritable ss := by
  obtain ⟨hname, hversion, huses, hparameters⟩ := h
  refine Clause.areWritable_value_cons hname fun s hs => ?_
  rcases List.mem_pair.mp (hparameters.mem_iff.mp hs) with rfl | rfl
  · exact ⟨⟨by decide, hversion⟩, rfl⟩
  · exact ⟨⟨by decide, not_mem_quote_uses huses⟩, rfl⟩

theorem WritesExport.exportsOf {e : Export} (h : WritesExport ss e) :
    exportsOf (Clause.ofSteps ss) = [e] := by
  obtain ⟨hname, hversion, huses, hparameters⟩ := h
  rw [← usedNames_intercalate huses]
  rcases List.perm_pair.mp hparameters with rfl | rfl
  · rfl
  · rfl

theorem WritesRequirement.areWritable {type versionKey : String} {r : Requirement}
    (hkey : IsToken versionKey.toList ∧ versionKey.toList.getLast? ≠ some ':')
    (h : WritesRequirement type versionKey ss r) : AreWritable ss := by
  obtain ⟨hname, hversion, hresolution, hparameters⟩ := h
  refine Clause.areWritable_value_cons hname fun s hs => ?_
  rcases List.mem_append.mp (hparameters.mem_iff.mp hs) with hs | hs
  · obtain ⟨v, hv, rfl⟩ := Option.map_eq_some_iff.mp (Option.mem_toList.mp hs)
    exact ⟨⟨hkey, (hversion v hv).2.1⟩, rfl⟩
  · rw [List.mem_singleton.mp hs]
    exact ⟨⟨by decide, hresolution⟩, rfl⟩

theorem WritesRequirement.requirementsOf {type versionKey : String} {r : Requirement}
    (h : WritesRequirement type versionKey ss r) :
    requirementsOf type versionKey (Clause.ofSteps ss) = [r] := by
  obtain ⟨hname, hversion, hresolution, hparameters⟩ := h
  rename_i name resolution version parameters
  cases version with
  | none =>
    obtain rfl := List.perm_singleton.mp hparameters
    rfl
  | some v =>
    have hrange := rangeOf_of_isRange (hversion v rfl)
    have hread : Clause.ofSteps (.value name :: parameters) =
        ⟨[name], ⟨[(versionKey, v)]⟩, ⟨[("resolution", resolution)]⟩⟩ := by
      rcases List.perm_pair.mp hparameters with rfl | rfl
      · rfl
      · rfl
    simp [hread, Bundle.requirementsOf, Assoc.get?, Assoc.getD, hrange]

/-! ### Headers -/

/-- The header holds the clauses; where there are none, it may be missing. -/
def Holds (headers : Headers) (name : String) (clauses : List (List Step)) : Prop :=
  headers.get? name = some (header clauses) ∨ headers.get? name = none ∧ clauses = []

theorem Holds.parseHeader? {headers : Headers} {name : String} {clauses : List (List Step)}
    (h : Holds headers name clauses) (hclauses : ∀ ss ∈ clauses, AreWritable ss) :
    parseHeader? (headers.get? name) = .ok (clauses.map Clause.ofSteps) := by
  rcases h with hsome | ⟨hnone, rfl⟩
  · rw [hsome]
    exact parseHeader_header hclauses
  · rw [hnone]
    rfl

/-- Headers that hold the given clauses, and nothing on the class path. -/
structure Describes (headers : Headers) (symbolicName : String)
    (exports packages bundles : List (List Step)) (environments : List String) : Prop where
  symbolicName : headers.get? "Bundle-SymbolicName" = some symbolicName
  exports : Holds headers "Export-Package" exports
  packages : Holds headers "Import-Package" packages
  bundles : Holds headers "Require-Bundle" bundles
  environments : Holds headers "Bundle-RequiredExecutionEnvironment"
    (environments.map fun environment => [.value environment])
  classpath : headers.get? "Bundle-ClassPath" = none

theorem areWritable_tokens {names : List String} (h : ∀ name ∈ names, IsToken name.toList) :
    ∀ ss ∈ names.map fun name => [Step.value name], AreWritable ss :=
  List.forall_mem_map.mpr fun name hname =>
    Clause.areWritable_value_cons (h name hname) fun _ hs => absurd hs List.not_mem_nil

/-- A header of one token is the token. -/
theorem header_token (name : String) : header [[.value name]] = name := by
  simp [header, Clause.spelled, Step.spelled, Step.text]

section Related

variable {α β : Type} {R : α → β → Prop} {as : List α} {bs : List β}

theorem forall_mem_of_forall₂ {P : α → Prop} (h : List.Forall₂ R as bs)
    (hP : ∀ a b, R a b → P a) : ∀ a ∈ as, P a := by
  induction h with
  | nil => exact fun a ha => absurd ha List.not_mem_nil
  | cons hab _ ih => exact List.forall_mem_cons.mpr ⟨hP _ _ hab, ih⟩

theorem flatMap_eq_of_forall₂ {γ : Type} {f : α → γ} {g : γ → List β} (h : List.Forall₂ R as bs)
    (hg : ∀ a b, R a b → g (f a) = [b]) : (as.map f).flatMap g = bs := by
  induction h with
  | nil => rfl
  | cons hab _ ih => rw [List.map_cons, List.flatMap_cons, hg _ _ hab, ih, List.singleton_append]

end Related

/-- What is written into the headers of a manifest clause by clause is the bundle that they
describe. -/
theorem ofManifest_writes {headers : Headers} {symbolicName : String}
    {exportClauses packageClauses bundleClauses : List (List Step)} {environments : List String}
    {exports : List Export} {packages bundles : List Requirement}
    (hname : IsToken symbolicName.toList)
    (hexports : List.Forall₂ WritesExport exportClauses exports)
    (hpackages : List.Forall₂ (WritesRequirement packageType "version") packageClauses packages)
    (hbundles :
      List.Forall₂ (WritesRequirement bundleType "bundle-version") bundleClauses bundles)
    (henvironments : ∀ environment ∈ environments, IsToken environment.toList)
    (h : Describes headers symbolicName exportClauses packageClauses bundleClauses environments) :
    ofManifest headers = .ok {
      symbolicName := symbolicName
      version := stripped (headers.getD "Bundle-Version" defaultVersion)
      exports := exports
      requirements := packages ++ bundles
      artifacts := []
      environments := environments
      hasInnerClasspath := false } := by
  have hsymbolic : parseHeader? (headers.get? "Bundle-SymbolicName") =
      .ok [Clause.ofSteps [.value symbolicName]] := by
    have hone : ∀ name ∈ [symbolicName], IsToken name.toList := by simpa using hname
    have hread := parseHeader_header (areWritable_tokens hone)
    rw [List.map_singleton, header_token] at hread
    rw [h.symbolicName]
    exact hread
  have hexported := h.exports.parseHeader? (forall_mem_of_forall₂ hexports fun _ _ he =>
    he.areWritable)
  have himported := h.packages.parseHeader? (forall_mem_of_forall₂ hpackages fun _ _ hr =>
    hr.areWritable (by decide))
  have hrequired := h.bundles.parseHeader? (forall_mem_of_forall₂ hbundles fun _ _ hr =>
    hr.areWritable (by decide))
  have hnamed := h.environments.parseHeader? (areWritable_tokens henvironments)
  have hnone : parseHeader? (headers.get? "Bundle-ClassPath") = .ok [] := by
    rw [h.classpath]
    rfl
  have hexports' := flatMap_eq_of_forall₂ hexports fun _ _ he => he.exportsOf
  have hpackages' := flatMap_eq_of_forall₂ hpackages fun _ _ hr => hr.requirementsOf
  have hbundles' := flatMap_eq_of_forall₂ hbundles fun _ _ hr => hr.requirementsOf
  have henvironments' : ((environments.map fun environment => [Step.value environment]).map
      Clause.ofSteps).flatMap Clause.values = environments := by
    rw [List.map_map, List.flatMap_map]
    exact List.flatMap_singleton' environments
  simp only [ofManifest, hsymbolic, hexported, himported, hrequired, hnamed, hnone, ok_bind,
    hexports', hpackages', hbundles', henvironments']
  rfl

/-- Separators in the arguments, parameters in either order, and a requirement of any version. -/
theorem ofManifest_writes_separators :
    ofManifest ⟨[
        ("Bundle-SymbolicName", "org.app"),
        ("Bundle-RequiredExecutionEnvironment", header [
          [.value "J2SE-1.4"], [.value "JavaSE-1.8"]]),
        ("Export-Package", header [
          [.value "a", .attribute "version" " 1;x,y=z ", .directive "uses" "c,b;d=e"],
          [.value "a b", .directive "uses" "", .attribute "version" ""]]),
        ("Import-Package", header [
          [.value "c", .directive "resolution" "optional", .attribute "version" "[1,2)"],
          [.value "a", .directive "resolution" ";,="]]),
        ("Require-Bundle", header [
          [.value "org.lib", .attribute "bundle-version" "(1;2]", .directive "resolution" ""]])]⟩ =
      .ok {
        symbolicName := "org.app"
        version := "0.0.0"
        exports := [⟨"a", " 1;x,y=z ", ⟨["b;d=e", "c"]⟩⟩, ⟨"a b", "", ⟨[]⟩⟩]
        requirements := [⟨"package", "c", some "[1,2)", "optional"⟩, ⟨"package", "a", none, ";,="⟩,
          ⟨"bundle", "org.lib", some "(1;2]", ""⟩]
        artifacts := []
        environments := ["J2SE-1.4", "JavaSE-1.8"]
        hasInnerClasspath := false } := by
  have huses : ∀ use ∈ ["c", "b;d=e"], IsUsedName use := by decide
  have hnone : ∀ use ∈ [], IsUsedName use := by decide
  exact ofManifest_writes (by decide)
    (.cons (.declared (by decide) (by decide) huses (.refl _))
      (.cons (.declared (by decide) (by decide) hnone (.swap _ _ _)) .nil))
    (.cons (.declared (by decide) (by decide) (by decide) (.swap _ _ _))
      (.cons (.declared (by decide) (by decide) (by decide) (.refl _)) .nil))
    (.cons (.declared (by decide) (by decide) (by decide) (.refl _)) .nil)
    (by decide)
    ⟨rfl, .inl rfl, .inl rfl, .inl rfl, .inl rfl, rfl⟩

end OsgiIvy.Bundle
