import OsgiIvy.Assoc
import OsgiIvy.Manifest.Quotes

/-!
# Clauses

One clause of a manifest header: values, then attributes `name=argument` and directives
`name:=argument` that hold for all of them, as in
`org.a;org.b;version="[1,2)";resolution:=optional`.  `Clause.parse` reads a clause and
`Clause.render` writes one.
-/

namespace OsgiIvy.Manifest

open OsgiIvy.Text

structure Clause where
  values : List String
  attributes : Assoc String String
  directives : Assoc String String
deriving DecidableEq, Repr

namespace Clause

def empty : Clause := ⟨[], {}, {}⟩

instance : Inhabited Clause := ⟨empty⟩

/-! ### Building -/

/-- One step of building a clause. -/
inductive Step
  | value (text : String)
  | attribute (name argument : String)
  | directive (name argument : String)
deriving DecidableEq, Repr

/-- Adds a value, or sets an attribute or a directive. -/
def add (e : Clause) : Step → Clause
  | .value text => { e with values := e.values ++ [text] }
  | .attribute name argument => { e with attributes := e.attributes.put name argument }
  | .directive name argument => { e with directives := e.directives.put name argument }

def ofSteps (steps : List Step) : Clause := steps.foldl add empty

def hasParameters (e : Clause) : Bool := !e.attributes.isEmpty || !e.directives.isEmpty

/-! ### Equality and written form -/

/-- Clauses with as many values and the same set of them, and with the same attributes and
directives in any order. -/
def same (e f : Clause) : Bool :=
  e.values.length = f.values.length && e.values.all (f.values.contains ·) &&
    f.values.all (e.values.contains ·) && e.directives.same f.directives &&
    e.attributes.same f.attributes

instance : BEq Clause := ⟨same⟩

/-- Values, directives and attributes with semicolons between them; nothing is quoted. -/
def render (e : Clause) : String :=
  ";".intercalate (e.values ++ e.directives.entries.map (fun d => d.1 ++ ":=" ++ d.2) ++
    e.attributes.entries.map (fun a => a.1 ++ "=" ++ a.2))

/-- The clause as logs name it. -/
def label (e : Clause) : String := "ManifestHeaderElement(" ++ quoted e.render ++ ")"

/-! ### Reading -/

/-- A part without an equals sign is a value.  Any other part is a directive if a colon stands
right before the first equals sign, and an attribute otherwise. -/
inductive Part
  | value (text : List Char)
  | attribute (name argument : List Char)
  | directive (name argument : List Char)
deriving DecidableEq, Repr

def Part.ofChars (cs : List Char) : Part :=
  let name := cs.takeWhile (· ≠ '=')
  match cs.dropWhile (· ≠ '=') with
  | [] => .value cs
  | _ :: argument =>
    if name.getLast? = some ':' then .directive name.dropLast argument else .attribute name argument

/-- The building step that a part stands for.  A value may not follow a parameter, and a parameter
has a name. -/
def stepOf (clause : List Char) (hasParameters : Bool) (part : List Char) : Except Fault Step :=
  match Part.ofChars part with
  | .value text =>
    if hasParameters then .error (.lateValue (String.ofList part) (String.ofList clause))
    else .ok (.value (String.ofList (unquote text)))
  | .attribute name argument =>
    if isBlankText name then .error (.namelessAttribute (String.ofList clause))
    else .ok (.attribute (String.ofList (strip name)) (String.ofList (unquote argument)))
  | .directive name argument =>
    if isBlankText name then .error (.namelessDirective (String.ofList clause))
    else .ok (.directive (String.ofList (strip name)) (String.ofList (unquote argument)))

/-- Adds the parts to a clause one after the other. -/
def addParts (clause : List Char) : Clause → List (List Char) → Except Fault Clause
  | e, [] => .ok e
  | e, part :: parts =>
    match stepOf clause e.hasParameters part with
    | .ok step => addParts clause (e.add step) parts
    | .error fault => .error fault

/-- The parts of a clause: what stands between its semicolons, without blank ones. -/
def parts (pieces : List (List Char)) : List (List Char) :=
  (pieces.map strip).filter (!·.isEmpty)

def parseChars (cs : List Char) : Except Fault Clause :=
  match split ';' cs with
  | .ok pieces => addParts cs empty (parts pieces)
  | .error fault => .error fault

/-- Reads one clause. -/
def parse (clause : String) : Except Fault Clause := parseChars clause.toList

end Clause

/-! ### Headers -/

/-- Reads clauses up to the first that is malformed. -/
def parseClauses : List (List Char) → Except Fault (List Clause)
  | [] => .ok []
  | clause :: rest =>
    if isBlankText clause then parseClauses rest
    else
      match Clause.parseChars clause with
      | .ok e =>
        match parseClauses rest with
        | .ok es => .ok (e :: es)
        | .error fault => .error fault
      | .error fault => .error fault

/-- The clauses of a header, which commas set apart; blank ones are passed over. -/
def parseHeader (value : String) : Except Fault (List Clause) :=
  let cs := value.toList
  if isBlankText cs then .ok []
  else
    match split ',' cs with
    | .ok clauses => parseClauses clauses
    | .error fault => .error fault

/-- The clauses of a header that may be missing. -/
def parseHeader? : Option String → Except Fault (List Clause)
  | none => .ok []
  | some value => parseHeader value

end OsgiIvy.Manifest
