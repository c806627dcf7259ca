import OsgiIvy.Bundle.Basic
import OsgiIvy.Value.Fields

/-!
# Bundles from descriptions

A bundle written down as a mapping with the keys `symbolic_name`, `version`, `exports`,
`requirements`, `artifacts`, `execution_environments` and `inner_classpath`, all but the first
optional.  Values of any kind stand for their text; the first fault decides.
-/

namespace OsgiIvy.Bundle

inductive DescriptionFault
  /-- The description has no fields. -/
  | notMapping
  | noSymbolicName
  | missing (key : String)
  /-- A part of the wrong shape. -/
  | misshapen
  /-- A number that is too long to have a text. -/
  | unwritable
deriving DecidableEq, Repr

def DescriptionFault.ofValueFault : Value.Fault → DescriptionFault
  | .missing key => .missing key
  | .badContent => .unwritable
  | _ => .misshapen

def DescriptionFault.message : DescriptionFault → String
  | .notMapping => ""
  | .noSymbolicName => "Bundle description has no symbolic_name"
  | .missing key => "Malformed bundle description: " ++ Text.quoted key
  | .misshapen => "Malformed bundle description"
  | .unwritable => "Too long a number in a bundle description"

/-! ### Parts -/

/-- The elements of a field; none if it is missing or empty in any way. -/
def listField (v : Value) (key : String) : Except Value.Fault (List Value) := do
  let w ← v.fieldD key .null
  if w.isTruthy then w.elements else pure []

def readExport (v : Value) : Except Value.Fault Export := do
  let name ← v.needText "name"
  let version ← v.textD "version" defaultVersion
  let uses ← (← listField v "uses").mapM Value.asText
  pure ⟨name, version, .ofList uses⟩

def readRequirement (v : Value) : Except Value.Fault Requirement := do
  let type ← v.needText "type"
  let name ← v.needText "name"
  let version ← v.text? "version"
  let resolution ← v.textD "resolution" mandatory
  pure ⟨type, name, version, resolution⟩

def readArtifact (v : Value) : Except Value.Fault BundleArtifact := do
  let uri ← v.text? "uri"
  let format ← v.text? "format"
  let source ← v.fieldD "source" (.bool false)
  pure ⟨uri, format, source.isTruthy⟩

def readBody (v : Value) : Except Value.Fault Bundle := do
  let symbolicName ← v.needText "symbolic_name"
  let version ← v.textD "version" defaultVersion
  let exports ← (← listField v "exports").mapM readExport
  let requirements ← (← listField v "requirements").mapM readRequirement
  let artifacts ← (← listField v "artifacts").mapM readArtifact
  let environments ← (← listField v "execution_environments").mapM Value.asText
  let innerClasspath ← v.fieldD "inner_classpath" (.bool false)
  pure {
    symbolicName := symbolicName
    version := version
    exports := exports
    requirements := requirements
    artifacts := artifacts
    environments := environments
    hasInnerClasspath := innerClasspath.isTruthy }

/-- The bundle that a value describes. -/
def ofValue (v : Value) : Except DescriptionFault Bundle :=
  match v.field? "symbolic_name" with
  | .error _ => .error .notMapping
  | .ok name =>
    if (name.getD .null).isTruthy then (readBody v).mapError .ofValueFault
    else .error .noSymbolicName

end OsgiIvy.Bundle
