import OsgiIvy.Module.Artifact
import OsgiIvy.Text.Percent
import OsgiIvy.Uri.Basic

/-!
# Ivy URIs

References to artifacts of other modules:
`ivy:///organisation/name?branch=b&rev=r&type=t&art=a&ext=e`.  Every part is percent-encoded, and a
part that the artifact does not have is left out.  `encode` writes the reference to an artifact and
`decode` reads one, whose text may hold halves of characters.  A half in an artifact cannot be
written (`encode?`).
-/

namespace OsgiIvy.IvyUri

open OsgiIvy.Text
open Glyph (after? ofChar)

/-! ### Faults -/

inductive Fault (τ : Type := String)
  | unreadable (uri : τ)
  /-- The path does not begin with a slash. -/
  | relativePath (uri : τ)
  | noOrganisation (uri : τ)
  | malformedQuery (uri : τ)
  | unknownParameter (key uri : τ)
deriving DecidableEq, Repr

def Fault.message {τ γ : Type} [Glyph γ] [Script τ γ] (fault : Fault τ) : τ :=
  let words (s : String) : List γ := s.toList.map ofChar
  Script.ofGlyphs <| match fault with
    | .unreadable uri => words "Unparseable ivy url: " ++ Script.glyphs uri
    | .relativePath uri =>
      words "An ivy url should be of the form ivy:///org/module but was : " ++ Script.glyphs uri
    | .noOrganisation uri =>
      words "Expecting an organisation in the ivy url: " ++ Script.glyphs uri
    | .malformedQuery uri =>
      words "Malformed query string in the ivy url: " ++ Script.glyphs uri
    | .unknownParameter key uri =>
      words "Unrecognized parameter '" ++ Script.glyphs key ++
        words "' in the query string of the ivy url: " ++ Script.glyphs uri

/-! ### Parameters -/

/-- The parts of an artifact that stand in the query. -/
inductive Key
  | branch
  | rev
  | type
  | art
  | ext
deriving DecidableEq, Repr

namespace Key

def all : List Key := [.branch, .rev, .type, .art, .ext]

def name : Key → String
  | .branch => "branch"
  | .rev => "rev"
  | .type => "type"
  | .art => "art"
  | .ext => "ext"

/-- The key with a name. -/
def ofName? {γ : Type} [DecidableEq γ] [Glyph γ] (name : List γ) : Option Key :=
  all.find? fun k => k.name.toList.map Glyph.ofChar = name

variable {τ : Type}

/-- The part of an artifact under a key. -/
def get? (a : Artifact τ) : Key → Option τ
  | .branch => a.revision.branch
  | .rev => a.revision.revision
  | .type => a.type
  | .art => a.name
  | .ext => a.ext

def set (a : Artifact τ) (value : τ) : Key → Artifact τ
  | .branch => { a with revision := { a.revision with branch := some value } }
  | .rev => { a with revision := { a.revision with revision := some value } }
  | .type => { a with type := some value }
  | .art => { a with name := some value }
  | .ext => { a with ext := some value }

end Key

/-! ### Writing -/

def escape (s : String) : List Char := Percent.encode s.toList

/-- The parameter of a key, if the artifact has that part. -/
def parameter? (a : Artifact String) (k : Key) : Option (List Char) :=
  (k.get? a).map fun value => k.name.toList ++ '=' :: escape value

def encodeChars (a : Artifact String) : List Char :=
  "ivy:///".toList ++ escape a.revision.organisation ++ '/' :: escape a.revision.name ++
    '?' :: ['&'].intercalate (Key.all.filterMap (parameter? a))

/-- The URI that refers to an artifact. -/
def encode (a : Artifact String) : String := String.ofList (encodeChars a)

/-- The texts that a reference to an artifact is made of. -/
def writtenTexts {τ : Type} (a : Artifact τ) : List τ :=
  a.revision.organisation :: a.revision.name :: Key.all.filterMap (Key.get? a)

/-- The URI that refers to an artifact with texts that may hold halves, if none of them does that
stands in the URI. -/
def encode? (a : Artifact (List Point)) : Option String :=
  if (writtenTexts a).any (·.any Point.isHalf) then none else some (encode (a.map Point.text))

/-! ### Reading -/

section Reading

variable {τ γ : Type} [Glyph γ] [Script τ γ]

def unescape (gs : List γ) : τ := Script.ofGlyphs (Percent.decodeGlyphs gs)

/-- An artifact of a module without any of the parts that stand in the query. -/
def bare (organisation name : τ) : Artifact τ :=
  ⟨⟨organisation, name, none, none⟩, none, none, none, none, {}⟩

variable [DecidableEq γ]

/-- Reads the parameters one after the other: each a known key and a value with one equals sign
between them. -/
def readParameters (uri : τ) : Artifact τ → List (List γ) → Except (Fault τ) (Artifact τ)
  | a, [] => .ok a
  | a, parameter :: rest =>
    if parameter.isEmpty then readParameters uri a rest
    else
      match cutAt (ofChar '=') parameter with
      | [key, value] =>
        if value.isEmpty then .error (.malformedQuery uri)
        else
          match Key.ofName? key with
          | some k => readParameters uri (k.set a (unescape value)) rest
          | none => .error (.unknownParameter (Script.ofGlyphs key) uri)
      | _ => .error (.malformedQuery uri)

/-- The artifact that a URI refers to.  Its scheme, authority and fragment do not matter. -/
def decode (uri : τ) : Except (Fault τ) (Artifact τ) :=
  match Uri.ofChars? (Script.glyphs uri) with
  | none => .error (.unreadable uri)
  | some parts =>
    match after? "/" parts.path with
    | some path =>
      match path.dropWhile (· ≠ ofChar '/') with
      | [] => .error (.noOrganisation uri)
      | _ :: name =>
        readParameters uri (bare (unescape (path.takeWhile (· ≠ ofChar '/'))) (unescape name))
          (cutAt (ofChar '&') parts.query)
    | none => .error (.relativePath uri)

end Reading

/-- A text whose first colon ends the word `ivy`, in any case. -/
def isIvyUri (uri : String) : Bool :=
  let cs := uri.toList
  cs.contains ':' && (cs.takeWhile (· ≠ ':')).map Char.toLower = "ivy".toList

end OsgiIvy.IvyUri
