import OsgiIvy.Text.Point
import OsgiIvy.Uri.Host

/-!
# URIs

The five parts of a URI, `scheme://authority/path?query#fragment`.  Every text has these parts,
unless its authority cannot be read; nothing is decoded.  A text may hold halves of characters,
which are kept wherever they stand.
-/

namespace OsgiIvy

open OsgiIvy.Text
open Glyph (after? ofChar shown)

structure Uri (γ : Type := Char) where
  scheme : List Char
  authority : List γ
  path : List γ
  query : List γ
  fragment : List γ
deriving DecidableEq, Repr

namespace Uri

/-! ### Parts -/

/-- The characters of schemes; letters and digits are those of ASCII. -/
def isSchemeChar (c : Char) : Bool := c.isAlphanum || c = '+' || c = '-' || c = '.'

def endsAuthority (c : Char) : Bool := c = '/' || c = '?' || c = '#'

section Parts

variable {γ : Type} [DecidableEq γ]

/-- The text in front of the first separator and the text behind it. -/
def splitAtFirst (separator : γ) (gs : List γ) : List γ × List γ :=
  (gs.takeWhile (· ≠ separator), (gs.dropWhile (· ≠ separator)).drop 1)

variable [Glyph γ]

/-- A text without the control characters and spaces that it begins with and without all tabs and
line ends. -/
def clean (gs : List γ) : List γ :=
  (gs.dropWhile fun g => (shown g).toNat ≤ 0x20).filter fun g =>
    shown g ≠ '\t' && shown g ≠ '\r' && shown g ≠ '\n'

/-- The scheme in lower case and the text after its colon: a letter, then letters, digits and
`+-.`.  A text that does not begin so has the empty scheme. -/
def splitScheme (gs : List γ) : List Char × List γ :=
  let name := gs.takeWhile (· ≠ ofChar ':')
  match gs.dropWhile (· ≠ ofChar ':') with
  | [] => ([], gs)
  | _ :: rest =>
    match name with
    | [] => ([], gs)
    | g :: _ =>
      if (shown g).isAlpha && name.all fun g => isSchemeChar (shown g) then
        (name.map fun g => (shown g).toLower, rest)
      else ([], gs)

/-- The authority behind `//` and the text after it. -/
def splitAuthority (gs : List γ) : List γ × List γ :=
  match after? "//" gs with
  | some rest =>
    (rest.takeWhile fun g => !endsAuthority (shown g),
      rest.dropWhile fun g => !endsAuthority (shown g))
  | none => ([], gs)

/-- The parts of a text. -/
def ofChars? (gs : List γ) : Option (Uri γ) :=
  let (scheme, rest) := splitScheme (clean gs)
  let (authority, rest) := splitAuthority rest
  let (rest, fragment) := splitAtFirst (ofChar '#') rest
  let (path, query) := splitAtFirst (ofChar '?') rest
  if isAuthority (authority.map shown) then some ⟨scheme, authority, path, query, fragment⟩
  else none

end Parts

/-! ### Schemes -/

/-- What is known of schemes.  The lists grow from release to release of the library that reads and
joins URIs, so nothing is proved of one release alone: later ones have `rtsps` in all three lists
and `itms-services` among those with an authority. -/
class Schemes where
  /-- The schemes whose URIs may be relative. -/
  relative : List String
  /-- The schemes whose URIs have an authority, an empty one if need be. -/
  authority : List String
  /-- The schemes whose last path segment may end with parameters. -/
  parameters : List String
  authority_of_relative : ∀ scheme ∈ relative, scheme ∈ authority

/-- The lists of the release in use. -/
instance : Schemes where
  relative := ["", "ftp", "http", "gopher", "nntp", "imap", "wais", "file", "https", "shttp", "mms",
    "prospero", "rtsp", "rtspu", "sftp", "svn", "svn+ssh", "ws", "wss"]
  authority := ["", "ftp", "http", "gopher", "nntp", "telnet", "imap", "wais", "file", "mms",
    "https", "shttp", "snews", "prospero", "rtsp", "rtspu", "rsync", "svn", "svn+ssh", "sftp",
    "nfs", "git", "git+ssh", "ws", "wss"]
  parameters := ["", "ftp", "hdl", "prospero", "http", "imap", "https", "shttp", "rtsp", "rtspu",
    "sip", "sips", "mms", "sftp", "tel"]
  authority_of_relative := by decide

variable [Schemes]

def usesRelative (scheme : List Char) : Bool := Schemes.relative.contains (String.ofList scheme)

def usesAuthority (scheme : List Char) : Bool := Schemes.authority.contains (String.ofList scheme)

def usesParameters (scheme : List Char) : Bool :=
  Schemes.parameters.contains (String.ofList scheme)

theorem usesAuthority_of_usesRelative {scheme : List Char} (h : usesRelative scheme = true) :
    usesAuthority scheme = true :=
  List.contains_iff_mem.mpr (Schemes.authority_of_relative _ (List.contains_iff_mem.mp h))

/-! ### Written form -/

/-- The URI with the given parts.  An empty query or fragment leaves no mark, and neither does an
empty authority in front of a path that begins with two slashes, which later releases mark. -/
def render (u : Uri) : List Char :=
  let path := u.path
  let hier :=
    if !u.authority.isEmpty ||
        (!u.scheme.isEmpty && usesAuthority u.scheme && !(['/', '/'].isPrefixOf path)) then
      let path := if path.isEmpty || path.head? = some '/' then path else '/' :: path
      '/' :: '/' :: u.authority ++ path
    else path
  (if u.scheme.isEmpty then [] else u.scheme ++ [':']) ++ hier ++
    (if u.query.isEmpty then [] else '?' :: u.query) ++
    (if u.fragment.isEmpty then [] else '#' :: u.fragment)

end Uri

end OsgiIvy
