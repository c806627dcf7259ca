import OsgiIvy.Bundle.OfManifest
import OsgiIvy.Bundle.OfValue
import OsgiIvy.Files.Entry
import OsgiIvy.Yaml.Reader

/-!
# Bundles in files

A bundle is read from a manifest, which is a file with the suffix `.mf` in any case, or from a
description in YAML.  The headers of a manifest are kept.
-/

namespace OsgiIvy

open OsgiIvy.Text

/-! ### Manifests -/

namespace Manifest

/-- The headers of the manifest in a file. -/
def ofEntry (e : Entry) : Except (ReadFault Fault) Headers := do
  let text ← e.readText.mapError .file
  (parse text).mapError .content

end Manifest

/-! ### Bundles -/

/-- A bundle and the headers of the manifest it came from. -/
structure BundleSource where
  bundle : Bundle
  headers : Option Manifest.Headers

namespace BundleSource

inductive Fault
  | file (fault : FileFault)
  /-- The file does not hold a manifest. -/
  | headers (fault : Manifest.Fault)
  /-- The headers describe no bundle. -/
  | manifest (headers : Manifest.Headers) (fault : Manifest.Fault)
  | yaml (fault : Yaml.Fault)
  | notMapping
  | description (fault : Bundle.DescriptionFault)

def Fault.message (path : Path) : Fault → String
  | .file fault => "Cannot read " ++ path.text ++ ": " ++ fault.message
  | .headers fault => fault.message
  | .manifest _ fault => fault.message
  | .yaml fault => "Invalid YAML in " ++ path.text ++ ": " ++ fault.message
  | .notMapping => "Bundle description " ++ path.text ++ " must contain a mapping"
  | .description fault => fault.message

def isManifest (path : Path) : Bool := path.suffix.map Char.toLower = ".mf".toList

def ofManifestText (text : String) : Except Fault BundleSource := do
  let headers ← (Manifest.parse text).mapError .headers
  let b ← (Bundle.ofManifest headers).mapError (.manifest headers)
  pure ⟨b, some headers⟩

/-- The bundle that a text describes, by the value that `read` finds in it. -/
def ofDescriptionText (read : String → Except Yaml.Fault Value) (text : String) :
    Except Fault BundleSource := do
  let v ← (read text).mapError .yaml
  match v with
  | .mapping _ => (Bundle.ofValue v).map (⟨·, none⟩) |>.mapError .description
  | _ => .error .notMapping

/-- The bundle in a file, whose text `read` reads unless it is a manifest. -/
def ofEntryWith (read : String → Except Yaml.Fault Value) (path : Path) (e : Entry) :
    Except Fault BundleSource := do
  let text ← e.readText.mapError .file
  if isManifest path then ofManifestText text else ofDescriptionText read text

/-- The bundle in a file. -/
def ofEntry (path : Path) (e : Entry) : Except Fault BundleSource := ofEntryWith Yaml.read path e

end BundleSource

end OsgiIvy
