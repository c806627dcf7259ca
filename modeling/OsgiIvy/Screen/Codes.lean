/-!
# Codes for terminals

Codes that set colours and move the cursor: an escape character, a bracket, parameters and a
letter.  Lines that go to no terminal are written without them.
-/

namespace OsgiIvy.Screen

def isParameter (c : Char) : Bool := c.isDigit || c = ';' || c = '?'

/-- The length of what belongs to a code behind its escape character. -/
def codeLength? : List Char → Option Nat
  | '[' :: cs =>
    let parameters := cs.takeWhile isParameter
    match cs.drop parameters.length with
    | letter :: _ => if letter.isAlpha then some (parameters.length + 2) else none
    | [] => none
  | _ => none

/-- A text without codes, behind some characters to pass over. -/
def withoutCodesFrom : Nat → List Char → List Char
  | _, [] => []
  | skipped + 1, _ :: cs => withoutCodesFrom skipped cs
  | 0, c :: cs =>
    match if c = '\x1b' then codeLength? cs else none with
    | some length => withoutCodesFrom length cs
    | none => c :: withoutCodesFrom 0 cs

/-- A text without codes. -/
def withoutCodes (s : String) : String := String.ofList (withoutCodesFrom 0 s.toList)

end OsgiIvy.Screen
