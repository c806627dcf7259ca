import OsgiIvy.Assoc

/-!
# Arguments

The arguments of a command: options, which begin with a hyphen, and the others by position.  An
option may have a value, which stands behind it or, after an equals sign or right behind a single
letter, in the same argument; the last value counts.  Two hyphens alone end the options.
-/

namespace OsgiIvy.CommandLine

/-! ### Faults -/

/-- Why arguments cannot be understood. -/
inductive UsageFault
  | unknownOption (name : String)
  | missingValue (option : String)
  | unexpectedValue (option : String)
  | missingArgument (name : String)
  | extraArgument (text : String)
  | missingCommand
  | unknownCommand (name : String)
  | noSuchFile (path : String)
deriving DecidableEq, Repr

def UsageFault.message : UsageFault → String
  | .unknownOption name => "There is no option " ++ name ++ "."
  | .missingValue option => "The option " ++ option ++ " needs a value."
  | .unexpectedValue option => "The option " ++ option ++ " does not take a value."
  | .missingArgument name => "The argument " ++ name ++ " is missing."
  | .extraArgument text => "The argument " ++ text ++ " is not expected."
  | .missingCommand => "The command is missing."
  | .unknownCommand name => "There is no command " ++ name ++ "."
  | .noSuchFile path => "There is no file " ++ path ++ "."

/-! ### Options -/

/-- An option with its long name and, if it has one, its letter. -/
structure OptionSpec where
  name : String
  letter : Option Char
  takesValue : Bool
deriving DecidableEq, Repr

namespace OptionSpec

def flag (name : String) : OptionSpec := ⟨name, none, false⟩

def valued (name : String) : OptionSpec := ⟨name, none, true⟩

def withLetter (o : OptionSpec) (letter : Char) : OptionSpec := { o with letter := some letter }

/-- The option that every command has. -/
def help : OptionSpec := flag "--help"

end OptionSpec

/-- What one argument sets: options with their values, and an option whose value is the next
argument. -/
structure GivenOptions where
  complete : List (String × String)
  pending : Option String
deriving DecidableEq, Repr

/-- An argument that names an option in full. -/
def readLong (specs : List OptionSpec) (arg : List Char) : Except UsageFault GivenOptions :=
  let name := String.ofList (arg.takeWhile (· ≠ '='))
  match specs.find? (·.name = name) with
  | none => .error (.unknownOption name)
  | some o =>
    match arg.dropWhile (· ≠ '=') with
    | [] => .ok (if o.takesValue then ⟨[], some o.name⟩ else ⟨[(o.name, "")], none⟩)
    | _ :: value =>
      if o.takesValue then .ok ⟨[(o.name, String.ofList value)], none⟩
      else .error (.unexpectedValue name)

/-- Letters behind a hyphen, each an option.  What follows the letter of an option with a value is
that value. -/
def readLetters (specs : List OptionSpec) : List Char → Except UsageFault GivenOptions
  | [] => .ok ⟨[], none⟩
  | letter :: rest =>
    match specs.find? (·.letter = some letter) with
    | none => .error (.unknownOption (String.ofList ['-', letter]))
    | some o =>
      if o.takesValue then
        .ok (if rest.isEmpty then ⟨[], some o.name⟩ else ⟨[(o.name, String.ofList rest)], none⟩)
      else do
        let more ← readLetters specs rest
        pure { more with complete := (o.name, "") :: more.complete }

/-- An argument that is an option. -/
def readOption (specs : List OptionSpec) (arg : List Char) : Except UsageFault GivenOptions :=
  if arg.take 2 = ['-', '-'] then readLong specs arg else readLetters specs (arg.drop 1)

/-! ### All arguments -/

structure Arguments where
  /-- Every option that was set, in the order of the first time; a flag has the empty value. -/
  options : Assoc String String
  positional : List String
deriving DecidableEq, Repr

namespace Arguments

def set (a : Arguments) (settings : List (String × String)) : Arguments :=
  { a with options := settings.foldl (fun m s => m.put s.1 s.2) a.options }

def has (a : Arguments) (name : String) : Bool := a.options.contains name

def value? (a : Arguments) (name : String) : Option String := a.options.get? name

/-- Reads arguments one after the other.  Options may stand behind positional arguments if these are
`mixed` with them, and otherwise everything from the first positional argument on is positional. -/
def readFrom (specs : List OptionSpec) (mixed : Bool) :
    Arguments → List String → Except UsageFault Arguments
  | a, [] => .ok a
  | a, arg :: rest =>
    let cs := arg.toList
    if arg = "--" then .ok { a with positional := a.positional ++ rest }
    else if cs.head? = some '-' && cs ≠ ['-'] then do
      let settings ← readOption specs cs
      let a := a.set settings.complete
      match settings.pending, rest with
      | none, rest => readFrom specs mixed a rest
      | some name, value :: rest => readFrom specs mixed (a.set [(name, value)]) rest
      | some name, [] => .error (.missingValue name)
    else if mixed then readFrom specs mixed { a with positional := a.positional ++ [arg] } rest
    else .ok { a with positional := a.positional ++ arg :: rest }

def read (specs : List OptionSpec) (mixed : Bool) (args : List String) :
    Except UsageFault Arguments :=
  readFrom specs mixed ⟨{}, []⟩ args

/-- The positional arguments, which have these names. -/
def expect (names : List String) (a : Arguments) : Except UsageFault (List String) :=
  match names.drop a.positional.length, a.positional.drop names.length with
  | [], [] => .ok a.positional
  | name :: _, _ => .error (.missingArgument name)
  | _, text :: _ => .error (.extraArgument text)

end Arguments

end OsgiIvy.CommandLine
