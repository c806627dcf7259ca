import OsgiIvy.Uri.Basic

/-!
# Relative URIs

The URI that a reference designates, seen from a base: `join`.  Paths are joined segment by segment
and `.` and `..` are resolved; a `..` too many is dropped.
-/

namespace OsgiIvy.Uri

open OsgiIvy.Text

variable [Schemes]

/-! ### Parameters -/

/-- A path without the parameters of its last segment, and the parameters behind the first
semicolon there. -/
def splitParameters (path : List Char) : List Char × List Char :=
  let segments := cutAt '/' path
  let last := segments.getLast?.getD []
  let (name, parameters) := splitAtFirst ';' last
  (['/'].intercalate (segments.dropLast ++ [name]), parameters)

/-- A URI with the parameters taken out of its path, if its scheme has any. -/
structure Reference where
  uri : Uri
  parameters : List Char
deriving DecidableEq, Repr

def Reference.ofUri (u : Uri) : Reference :=
  if usesParameters u.scheme then
    let (path, parameters) := splitParameters u.path
    ⟨{ u with path := path }, parameters⟩
  else ⟨u, []⟩

def Reference.render (r : Reference) : List Char :=
  let path := r.uri.path ++ if r.parameters.isEmpty then [] else ';' :: r.parameters
  Uri.render { r.uri with path := path }

/-! ### Paths -/

/-- Takes one segment to a path given in reverse. -/
def addSegment (resolved : List (List Char)) (segment : List Char) : List (List Char) :=
  if segment = ['.', '.'] then resolved.drop 1
  else if segment = ['.'] then resolved
  else segment :: resolved

/-- Resolves dot segments.  A path that ends with one names a directory. -/
def resolveSegments (segments : List (List Char)) : List (List Char) :=
  let resolved := (segments.foldl addSegment []).reverse
  let last := segments.getLast?.getD []
  if last = ['.'] || last = ['.', '.'] then resolved ++ [[]] else resolved

/-- Drops the empty segments between the first and the last. -/
def dropInnerEmpty (segments : List (List Char)) : List (List Char) :=
  if segments.length < 2 then segments
  else
    segments.take 1 ++ ((segments.drop 1).dropLast.filter (!·.isEmpty)) ++
      segments.drop (segments.length - 1)

/-- The directory of a path: its segments without the last, unless that is empty. -/
def directory (path : List Char) : List (List Char) :=
  let segments := cutAt '/' path
  if segments.getLast? = some [] then segments else segments.dropLast

/-- The path that a relative path designates. -/
def joinPath (base path : List Char) : List Char :=
  let segments :=
    if path.head? = some '/' then cutAt '/' path
    else dropInnerEmpty (directory base ++ cutAt '/' path)
  let joined := ['/'].intercalate (resolveSegments segments)
  if joined.isEmpty then ['/'] else joined

/-! ### Joining -/

/-- The URI that a reference designates.  One with a scheme of its own, and one whose scheme has no
relative form, stands for itself. -/
def join (base reference : List Char) : Option (List Char) :=
  if base.isEmpty then some reference
  else if reference.isEmpty then some base
  else do
    let b ← ofChars? base
    let r ← ofChars? reference
    let scheme := if r.scheme.isEmpty then b.scheme else r.scheme
    let b := Reference.ofUri b
    let r := Reference.ofUri { r with scheme := scheme }
    if scheme ≠ b.uri.scheme || !usesRelative scheme then pure reference
    else if usesAuthority scheme && !r.uri.authority.isEmpty then pure r.render
    else
      let authority := if usesAuthority scheme then b.uri.authority else r.uri.authority
      let uri := { r.uri with authority := authority }
      if r.uri.path.isEmpty && r.parameters.isEmpty then
        let query := if uri.query.isEmpty then b.uri.query else uri.query
        pure (Reference.render ⟨{ uri with path := b.uri.path, query := query }, b.parameters⟩)
      else
        pure (Reference.render ⟨{ uri with path := joinPath b.uri.path r.uri.path }, r.parameters⟩)

end OsgiIvy.Uri
