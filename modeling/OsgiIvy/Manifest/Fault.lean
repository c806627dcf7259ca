import OsgiIvy.Text.Quoted

/-!
# Faults of a manifest

Why a manifest, one of its headers or a clause of a header cannot be read.
-/

namespace OsgiIvy.Manifest

open OsgiIvy.Text (quoted)

inductive Fault
  /-- The quotation marks of the text do not pair up. -/
  | openQuote (text : String)
  | namelessDirective (clause : String)
  | namelessAttribute (clause : String)
  /-- A value behind a directive or an attribute. -/
  | lateValue (value clause : String)
  | strayContinuation (line : Nat)
  | malformedLine (line : Nat) (text : String)
  | noSymbolicName
deriving DecidableEq, Repr

def Fault.message : Fault → String
  | .openQuote text => "Unterminated quote in header value: " ++ quoted text
  | .namelessDirective clause => "Directive without a name in clause: " ++ quoted clause
  | .namelessAttribute clause => "Attribute without a name in clause: " ++ quoted clause
  | .lateValue value clause =>
    "Value " ++ quoted value ++ " follows a parameter in clause: " ++ quoted clause
  | .strayContinuation line => "Continuation without a header at line " ++ toString line
  | .malformedLine line text =>
    "Malformed manifest line " ++ toString line ++ ": " ++ quoted text
  | .noSymbolicName => "Manifest has no Bundle-SymbolicName header"

end OsgiIvy.Manifest
