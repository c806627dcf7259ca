import OsgiIvy.Module.IvyUri
import OsgiIvy.Uri.Join

/-!
# Located artifacts

The artifact that a location designates: an `ivy:` URI refers to an artifact of another module; any
other URI, joined to a base when it is relative, is the place of a file of the given module.
-/

namespace OsgiIvy

open OsgiIvy.Text (quoted)

inductive LocationFault
  | ivy (fault : IvyUri.Fault)
  | unreadable (uri : String)
  /-- The URI has no scheme, and what it gives joined to the base has none either. -/
  | notAbsolute (uri base : String)
deriving DecidableEq, Repr

def LocationFault.message : LocationFault → String
  | .ivy fault => fault.message
  | .unreadable uri => "Unable to make the uri into the url: " ++ uri
  | .notAbsolute uri base =>
    "Unable to make the uri into the url: " ++ uri ++ " (base " ++ quoted base ++
      " is not absolute)"

/-- What is known of a file besides its place. -/
structure FileKind where
  type : String
  ext : String
  packaging : Option String
deriving DecidableEq, Repr

variable [Uri.Schemes]

/-- An absolute URI as it is, a relative one joined to the base. -/
def absoluteUri (base uri : String) : Except LocationFault String := do
  let unreadable := LocationFault.unreadable
  match Uri.ofChars? uri.toList with
  | none => .error (unreadable uri)
  | some parts =>
    let place ←
      if parts.scheme.isEmpty then
        match Uri.join base.toList uri.toList with
        | some joined => .ok (String.ofList joined)
        | none => .error (unreadable uri)
      else .ok uri
    match Uri.ofChars? place.toList with
    | none => .error (unreadable place)
    | some parts => if parts.scheme.isEmpty then .error (.notAbsolute place base) else .ok place

/-- The artifact at a location. -/
def Artifact.locate (owner : RevisionId String) (base uri : String) (kind : FileKind) :
    Except LocationFault (Artifact String) :=
  if IvyUri.isIvyUri uri then (IvyUri.decode uri).mapError .ivy
  else do
    let url ← absoluteUri base uri
    let extra := match kind.packaging with
      | some packaging => .ofList [("packaging", packaging)]
      | none => {}
    pure ⟨owner, some owner.name, some kind.type, some kind.ext, some url, extra⟩

end OsgiIvy
