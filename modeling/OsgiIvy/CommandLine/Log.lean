import OsgiIvy.Bundle.Descriptor
import OsgiIvy.Bundle.OfFile
import OsgiIvy.Files.Configuration

/-!
# Log

What the log says about the steps of a conversion.  Records follow from what the steps came to; all
but warnings are shown only on request.
-/

namespace OsgiIvy.CommandLine

inductive Level
  | debug
  | warning
deriving DecidableEq, Repr

structure LogRecord where
  level : Level
  origin : String
  message : String
deriving DecidableEq, Repr

namespace LogRecord

def levelName : Level → String
  | .debug => "DEBUG"
  | .warning => "WARNING"

def text (r : LogRecord) : String := levelName r.level ++ " " ++ r.origin ++ ": " ++ r.message

def debug (origin message : String) : LogRecord := ⟨.debug, origin, message⟩

/-- The records that are shown. -/
def shown (isVerbose : Bool) (rs : List LogRecord) : List LogRecord :=
  rs.filter fun r => isVerbose || r.level ≠ .debug

/-! ### Files -/

def ofHeaders (path : Path) (headers : Manifest.Headers) : LogRecord :=
  debug "bundlebridge.core.bundle.loader"
    ("Loaded manifest " ++ path.text ++ " with " ++ toString headers.size ++ " headers")

def ofManifest (b : Bundle) : LogRecord :=
  debug "bundlebridge.manifest.parser"
    ("Parsed manifest of " ++ b.symbolicName ++ ";" ++ b.version ++ ": " ++
      toString b.exports.length ++ " exports, " ++ toString b.requirements.length ++
      " requirements")

/-- What is logged on reading a bundle. -/
def ofSource (path : Path) : Except BundleSource.Fault BundleSource → List LogRecord
  | .ok ⟨b, some headers⟩ => [ofHeaders path headers, ofManifest b]
  | .error (.manifest headers _) => [ofHeaders path headers]
  | _ => []

def ofProfileCount (p : Profiles) : LogRecord :=
  debug "bundlebridge.core.bundle.profiles"
    ("Loaded " ++ toString p.size ++ " execution environment profiles")

def ofProfiles : Except (MappingFault Profiles.Fault) (Option Profiles) → List LogRecord
  | .ok (some p) => [ofProfileCount p]
  | _ => []

/-- What is logged on reading settings; an empty file is passed over. -/
def ofSettings (path : Path) :
    Except (MappingFault Settings.Fault) (Option OsgiIvy.Settings) → List LogRecord
  | .ok (some s) => [loaded, ofProfileCount s.profiles]
  | .error (.content _) => [loaded]
  | _ => []
where
  loaded := debug "bundlebridge.config" ("Loaded settings from " ++ path.text)

/-! ### Conversions -/

def skipped (b : Bundle) : LogRecord :=
  ⟨.warning, "bundlebridge.core.bundle.adapter",
    "Skipping artifact without a location in " ++ b.revision.text⟩

/-- The artifacts of a bundle in front of the first one that has no place. -/
def locatedArtifacts (b : Bundle) (base : String) : List BundleArtifact :=
  b.artifacts.takeWhile fun a => (b.locate base a).isOk

/-- What is logged on converting a bundle: the artifacts that are left out, and what came of it. -/
def ofConversion (b : Bundle) (base : Option String)
    (r : Except Bundle.ConversionFault ModuleDescriptor) : List LogRecord :=
  let left : List BundleArtifact := match base with
    | some base => (locatedArtifacts b base).filter fun a => a.uri.isNone
    | none => []
  left.map (fun _ => skipped b) ++
    match r with
    | .ok d => [debug "bundlebridge.core.bundle.adapter"
        ("Translated " ++ d.revision.text ++ ": " ++ toString d.configurations.length ++
          " configurations, " ++ toString d.dependencies.length ++ " dependencies, " ++
          toString d.excludeRules.length ++ " exclude rules")]
    | .error _ => []

end LogRecord

end OsgiIvy.CommandLine
