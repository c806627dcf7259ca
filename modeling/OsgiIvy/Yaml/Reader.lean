import OsgiIvy.Yaml.Document
import OsgiIvy.Yaml.Draft

/-!
# Reading YAML

The value that a YAML text holds.  Of entries with one key the last counts; the key `<<` puts the
entries of other mappings in front of the mapping's own.  Tags name the kinds of JSON values, days
and moments only; sets, ordered mappings and binary data are not part of the format.
-/

namespace OsgiIvy.Yaml

def readChars (cs : List Char) : Except Fault Value := do
  match ← Node.ofTokens (Token.scan cs) with
  | some node => (Draft.ofNode node).value?
  | none => pure .null

/-- The value that a text holds; an empty text holds nothing. -/
def read (text : String) : Except Fault Value := readChars text.toList

end OsgiIvy.Yaml
