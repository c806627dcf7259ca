import OsgiIvy.Bundle.Basic
import OsgiIvy.Manifest.Clause
import OsgiIvy.Manifest.Section

/-!
# Bundles from manifests

The headers of a manifest that describe a bundle.  A clause with several values declares each of
them with the clause's attributes and directives.
-/

namespace OsgiIvy.Bundle

open OsgiIvy.Manifest OsgiIvy.Text

/-! ### Versions and used packages -/

/-- A range stands as it is; a bare version means that version or any later one. -/
def rangeOf (version : String) : String :=
  let cs := strip version.toList
  match cs with
  | '[' :: _ => String.ofList cs
  | '(' :: _ => String.ofList cs
  | _ => String.ofList ('[' :: cs ++ [',', ')'])

/-- The names in a `uses` directive. -/
def usedNames (uses : String) : NameSet :=
  .ofList ((((cutAt ',' uses.toList).map strip).filter (!·.isEmpty)).map String.ofList)

/-! ### Headers -/

/-- The exports that a clause of `Export-Package` declares. -/
def exportsOf (e : Clause) : List Export :=
  let version := e.attributes.getD "version" defaultVersion
  let uses := usedNames (e.directives.getD "uses" "")
  e.values.map fun name => ⟨name, version, uses⟩

/-- The requirements that a clause declares; their version is the attribute `versionKey`. -/
def requirementsOf (type versionKey : String) (e : Clause) : List Requirement :=
  let version := (e.attributes.get? versionKey).map rangeOf
  let resolution := e.directives.getD "resolution" mandatory
  e.values.map fun name => ⟨type, name, version, resolution⟩

/-- The first value of the first clause of `Bundle-SymbolicName`. -/
def symbolicNameOf (clauses : List Clause) : Except Fault String :=
  match clauses with
  | ⟨name :: _, _, _⟩ :: _ => .ok name
  | _ => .error .noSymbolicName

/-- The bundle that the headers of a manifest describe. -/
def ofManifest (headers : Headers) : Except Fault Bundle := do
  let symbolicName ← symbolicNameOf (← parseHeader? (headers.get? "Bundle-SymbolicName"))
  let version := stripped (headers.getD "Bundle-Version" defaultVersion)
  let exports ← parseHeader? (headers.get? "Export-Package")
  let packages ← parseHeader? (headers.get? "Import-Package")
  let bundles ← parseHeader? (headers.get? "Require-Bundle")
  let environments ← parseHeader? (headers.get? "Bundle-RequiredExecutionEnvironment")
  let classpath ← parseHeader? (headers.get? "Bundle-ClassPath")
  pure {
    symbolicName := symbolicName
    version := version
    exports := exports.flatMap exportsOf
    requirements := packages.flatMap (requirementsOf packageType "version") ++
      bundles.flatMap (requirementsOf bundleType "bundle-version")
    artifacts := []
    environments := environments.flatMap Clause.values
    hasInnerClasspath := classpath.any fun e => e.values.any (· ≠ ".") }

end OsgiIvy.Bundle
