import OsgiIvy.Sorted

/-!
# Bundles

What a bundle declares: the packages it exports and the packages each export uses, what it
requires, the execution environments it runs in, and where its artifacts are.
-/

namespace OsgiIvy

/-! ### Tags -/

def bundleType : String := "bundle"

def packageType : String := "package"

def environmentType : String := "ee"

def mandatory : String := "mandatory"

def optional : String := "optional"

/-- The format of a packed archive. -/
def packedFormat : String := "packed"

/-- The version of a bundle or an export that states none. -/
def defaultVersion : String := "0.0.0"

/-! ### Parts -/

/-- A package that the bundle makes available, with the packages its interface uses. -/
structure Export where
  name : String
  version : String
  uses : NameSet
deriving DecidableEq, Repr

/-- Something the bundle needs.  The type is one of the tags, the version a version or a range;
no version means any. -/
structure Requirement where
  type : String
  name : String
  version : Option String
  resolution : String
deriving DecidableEq, Repr

def Requirement.isOptional (r : Requirement) : Bool := r.resolution = optional

def Requirement.isPackage (r : Requirement) : Bool := r.type = packageType

/-- A file of the bundle; its location is absolute, relative or an `ivy:` URI. -/
structure BundleArtifact where
  uri : Option String
  format : Option String
  source : Bool
deriving DecidableEq, Repr

structure Bundle where
  symbolicName : String
  version : String
  exports : List Export
  requirements : List Requirement
  artifacts : List BundleArtifact
  environments : List String
  hasInnerClasspath : Bool
deriving DecidableEq, Repr

namespace Bundle

def exportedNames (b : Bundle) : NameSet := .ofList (b.exports.map Export.name)

end Bundle

end OsgiIvy
