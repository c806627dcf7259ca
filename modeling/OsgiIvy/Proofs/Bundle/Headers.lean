import OsgiIvy.Bundle.OfManifest
import OsgiIvy.Proofs.Outcomes

/-!
# Headers that describe a bundle

A bundle is read from six headers: their clauses, and the first value of the first of them, make it
(`ofManifest_eq_ok_iff`).
-/

namespace OsgiIvy.Bundle

open OsgiIvy.Manifest OsgiIvy.Text

/-- The clauses of the headers that describe a bundle. -/
structure Clauses where
  symbolicName : List Clause
  exports : List Clause
  packages : List Clause
  bundles : List Clause
  environments : List Clause
  classpath : List Clause

/-- Each of the headers is read, or is missing and has no clauses. -/
structure Clauses.AreRead (headers : Headers) (c : Clauses) : Prop where
  symbolicName : parseHeader? (headers.get? "Bundle-SymbolicName") = .ok c.symbolicName
  exports : parseHeader? (headers.get? "Export-Package") = .ok c.exports
  packages : parseHeader? (headers.get? "Import-Package") = .ok c.packages
  bundles : parseHeader? (headers.get? "Require-Bundle") = .ok c.bundles
  environments :
    parseHeader? (headers.get? "Bundle-RequiredExecutionEnvironment") = .ok c.environments
  classpath : parseHeader? (headers.get? "Bundle-ClassPath") = .ok c.classpath

/-- The bundle of the given name and version that the clauses declare. -/
def Clauses.bundle (c : Clauses) (symbolicName version : String) : Bundle where
  symbolicName := symbolicName
  version := version
  exports := c.exports.flatMap exportsOf
  requirements := c.packages.flatMap (requirementsOf packageType "version") ++
    c.bundles.flatMap (requirementsOf bundleType "bundle-version")
  artifacts := []
  environments := c.environments.flatMap Clause.values
  hasInnerClasspath := c.classpath.any fun e => e.values.any (· ≠ ".")

def versionOf (headers : Headers) : String :=
  stripped (headers.getD "Bundle-Version" defaultVersion)

theorem symbolicNameOf_eq_ok_iff {clauses : List Clause} {name : String} :
    symbolicNameOf clauses = .ok name ↔
      clauses.head?.bind (·.values.head?) = some name := by
  rcases clauses with _ | ⟨⟨values, attributes, directives⟩, rest⟩
  · simp [symbolicNameOf]
  · cases values with
    | nil => simp [symbolicNameOf]
    | cons first values => simp [symbolicNameOf]

/-- A bundle is read exactly if all six headers are and the first one has a value in front. -/
theorem ofManifest_eq_ok_iff {headers : Headers} {b : Bundle} : ofManifest headers = .ok b ↔
    ∃ (c : Clauses) (name : String), c.AreRead headers ∧ symbolicNameOf c.symbolicName = .ok name ∧
      c.bundle name (versionOf headers) = b := by
  simp only [ofManifest, bind_eq_ok, pure_eq_ok, Except.ok.injEq]
  constructor
  · rintro ⟨symbolic, hsymbolic, name, hname, exports, hexports, packages, hpackages, bundles,
      hbundles, environments, henvironments, classpath, hclasspath, rfl⟩
    exact ⟨⟨symbolic, exports, packages, bundles, environments, classpath⟩, name,
      ⟨hsymbolic, hexports, hpackages, hbundles, henvironments, hclasspath⟩, hname, rfl⟩
  · rintro ⟨c, name, h, hname, rfl⟩
    exact ⟨_, h.symbolicName, name, hname, _, h.exports, _, h.packages, _, h.bundles, _,
      h.environments, _, h.classpath, rfl⟩

end OsgiIvy.Bundle
