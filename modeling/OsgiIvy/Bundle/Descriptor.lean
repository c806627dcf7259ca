import OsgiIvy.Bundle.Basic
import OsgiIvy.Module.Descriptor
import OsgiIvy.Module.Location
import OsgiIvy.Profile

/-!
# Descriptors of bundles

A bundle exports and requires packages, and its exports use packages; a module has configurations
that extend each other.  Every package exported or required becomes a configuration `use_p` that
extends `use_q` for each package `q` that `p` uses, and a dependency on a package is routed from
`use_p` to `use_p`, so that whoever depends on `p` gets what `p` uses.  Optional requirements are
routed from `optional` in place of `default`.  What the bundle exports itself and execution
environments become no dependency; the packages of required environments are excluded.
-/

namespace OsgiIvy

open OsgiIvy.Time (Moment)

namespace Bundle

/-- How a conversion ends. -/
inductive ConversionStatus
  | converted
  | unknownEnvironment
  | malformedLocation
deriving DecidableEq, Repr

def ConversionStatus.name : ConversionStatus → String
  | .converted => "ok"
  | .unknownEnvironment => "profile-not-found"
  | .malformedLocation => "malformed-input"

inductive ConversionFault
  | location (fault : LocationFault)
  | unknownEnvironment (name : String)
deriving DecidableEq, Repr

def ConversionFault.status : ConversionFault → ConversionStatus
  | .location _ => .malformedLocation
  | .unknownEnvironment _ => .unknownEnvironment

/-- What went wrong, in one word. -/
def ConversionFault.category (f : ConversionFault) : String := f.status.name

def ConversionFault.message : ConversionFault → String
  | .location fault => fault.message
  | .unknownEnvironment name => "Execution environment profile " ++ name ++ " not found"

/-! ### Identities -/

/-- The revision that stands for something that bundles know by type, name and version.  No
version means any. -/
def revisionOf (type name : String) (version : Option String) : RevisionId String :=
  ⟨type, name, none, some (version.getD "[0,)")⟩

def revision (b : Bundle) : RevisionId String :=
  revisionOf bundleType b.symbolicName (some b.version)

/-- The configurations that the descriptor of a bundle has for the bundle's own sake. -/
def configurationNames (b : Bundle) : List String :=
  [Configuration.defaultName, Configuration.optionalName, Configuration.transitiveOptionalName] ++
    b.exports.map fun e => Configuration.useName e.name

/-! ### Exports and requirements -/

/-- The three configurations that every bundle has. -/
def baseConfigurations : List (Configuration String Bool) :=
  [Configuration.forDefault, Configuration.forOptional, Configuration.forTransitiveOptional]

/-- A descriptor of the bundle without any configurations. -/
def emptyDescriptor (now : Moment) (b : Bundle) : ModuleDescriptor :=
  { Descriptor.empty b.revision Descriptor.defaultStatus with
    publicationDate := some now
    namespaces := .ofList [("o", "http://ant.apache.org/ivy/osgi")] }

/-- A descriptor with the three configurations that every bundle has. -/
def baseDescriptor (now : Moment) (b : Bundle) : ModuleDescriptor :=
  { emptyDescriptor now b with configurations := baseConfigurations }

/-- The name of the information that holds the version of an export. -/
def exportInfoName (package : String) : String := "_osgi_export_" ++ package

/-- Adds an export.  A package exported twice keeps the configuration of its first export. -/
def addExport (d : ModuleDescriptor) (e : Export) : ModuleDescriptor :=
  (d.addExtraInfo (exportInfoName e.name) e.version).ensureConfiguration
    (Configuration.forUse e.name e.uses.toList)

/-- A requirement that becomes a dependency: neither an environment nor a package that the bundle
exports. -/
def isExternal (exported : NameSet) (r : Requirement) : Bool :=
  !(r.isPackage && decide (r.name ∈ exported)) && r.type ≠ environmentType

/-- The configuration that a requirement leads to. -/
def targetOf (r : Requirement) : String :=
  if r.isPackage then Configuration.useName r.name else Configuration.defaultName

/-- The routes of a requirement's dependency. -/
def routesOf (r : Requirement) : List (String × String) :=
  let target := targetOf r
  (if r.isPackage then [(target, target)] else []) ++
    if r.isOptional then
      [(Configuration.optionalName, target),
        (Configuration.transitiveOptionalName, Configuration.transitiveOptionalName)]
    else [(Configuration.defaultName, target)]

def dependencyOf (r : Requirement) : Dependency String Bool :=
  (routesOf r).foldl (fun d route => d.addRoute route.1 route.2)
    (Dependency.onRevision (revisionOf r.type r.name r.version) false true)

/-- Adds a requirement, with a configuration for its package. -/
def addRequirement (d : ModuleDescriptor) (r : Requirement) : ModuleDescriptor :=
  let d := if r.isPackage then d.ensureConfiguration (Configuration.forUse r.name []) else d
  d.addDependency (dependencyOf r)

def addRequirements (b : Bundle) (d : ModuleDescriptor) : ModuleDescriptor :=
  (b.requirements.filter (isExternal b.exportedNames)).foldl addRequirement d

/-! ### Artifacts -/

/-- What is known of a bundle's artifact: a packed archive has an extension of its own, and the
packaging lists what has to be undone to use it. -/
def kindOf (b : Bundle) (a : BundleArtifact) : FileKind :=
  let isPacked := a.format = some packedFormat
  let layers := (if b.hasInnerClasspath && !a.source then ["bundle"] else []) ++
    if isPacked then ["pack200"] else []
  { type := if a.source then "source" else "jar"
    ext := if isPacked then "jar.pack.gz" else "jar"
    packaging := if layers.isEmpty then none else some (",".intercalate layers) }

/-- The artifact of the module that a bundle's artifact becomes; nothing if it has no location. -/
def locate (b : Bundle) (base : String) (a : BundleArtifact) :
    Except LocationFault (Option (Artifact String)) :=
  match a.uri with
  | none => .ok none
  | some uri => (Artifact.locate b.revision base uri (kindOf b a)).map some

def addArtifacts (b : Bundle) (base : Option String) (d : ModuleDescriptor) :
    Except LocationFault ModuleDescriptor :=
  match base with
  | none => .ok d
  | some base => b.artifacts.foldlM (fun d a => do
    match ← locate b base a with
    | some artifact => pure (d.addArtifact Configuration.defaultName artifact)
    | none => pure d) d

/-! ### Environments -/

/-- Excludes a package from configurations, whatever the artifact. -/
def excludePackage (configurations : List String) (package : String) : ExcludeRule String :=
  configurations.foldl ExcludeRule.addConfiguration
    ⟨⟨⟨packageType, package⟩, ArtifactId.any, ArtifactId.any, ArtifactId.any⟩,
      ExcludeRule.defaultMatcher, []⟩

/-- The packages of an environment that has to be known. -/
def packagesIn (profiles : Profiles) (name : String) : Except ConversionFault NameSet :=
  match profiles.get? name with
  | some packages => .ok packages
  | none => .error (.unknownEnvironment name)

/-- The packages of the environments that a bundle requires. -/
def environmentPackages (b : Bundle) (profiles : Profiles) :
    Except ConversionFault (List NameSet) :=
  b.environments.mapM (packagesIn profiles)

/-- Excludes the packages of every required environment, if any environments are known at all. -/
def addExclusions (b : Bundle) (profiles : Option Profiles) (d : ModuleDescriptor) :
    Except ConversionFault ModuleDescriptor :=
  match profiles with
  | none => .ok d
  | some profiles => do
    let packages ← environmentPackages b profiles
    let rules := packages.flatMap fun ps => ps.toList.map (excludePackage d.configurationNames)
    pure { d with excludeRules := d.excludeRules ++ rules }

end Bundle

/-! ### The descriptor -/

/-- What a bundle is seen together with: the base of relative locations, without which artifacts
are left out; the headers of its manifest, to be kept as information; and the known environments,
without which nothing is excluded. -/
structure Bundle.Context where
  base : Option String
  headers : Option (List (String × String))
  profiles : Option Profiles

namespace Bundle

/-- Adds all that a bundle declares to a descriptor with the configurations of every bundle. -/
def complete (context : Context) (b : Bundle) (d : ModuleDescriptor) :
    Except ConversionFault ModuleDescriptor := do
  let d := addRequirements b (b.exports.foldl addExport d)
  let d ← (addArtifacts b context.base d).mapError .location
  let d ← addExclusions b context.profiles d
  pure ((context.headers.getD []).foldl (fun d h => d.addExtraInfo h.1 h.2) d)

end Bundle

open OsgiIvy.Bundle in
/-- The descriptor of the module that a bundle is, published now. -/
def Descriptor.ofBundle (now : Moment) (context : Bundle.Context) (b : Bundle) :
    Except ConversionFault ModuleDescriptor :=
  complete context b (baseDescriptor now b)

/-! ### Conversions -/

namespace Bundle

/-- What a conversion comes to: a descriptor, or the reason why there is none. -/
structure Conversion where
  status : ConversionStatus
  descriptor : Option ModuleDescriptor
  error : String
deriving DecidableEq, Repr

namespace Conversion

def succeeded (c : Conversion) : Bool := c.status = .converted

def ofOutcome : Except ConversionFault ModuleDescriptor → Conversion
  | .ok d => ⟨.converted, some d, ""⟩
  | .error fault => ⟨fault.status, none, fault.message⟩

end Conversion

/-- Converts a bundle, with the configurations of every bundle registered one after the other.
Faults are part of the result; only a clash of these configurations would leave none. -/
def convert (now : Moment) (context : Context) (b : Bundle) : Except (Clash String) Conversion := do
  let d ← baseConfigurations.foldlM Descriptor.addConfiguration (emptyDescriptor now b)
  pure (.ofOutcome (complete context b d))

end Bundle

end OsgiIvy
