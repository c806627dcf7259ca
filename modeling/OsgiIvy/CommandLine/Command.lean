import OsgiIvy.CommandLine.Arguments
import OsgiIvy.Module.Artifact

/-!
# Commands

What the command line can be told to do: convert a bundle to the descriptor of a module, and write
or read the URI that refers to an artifact.
-/

namespace OsgiIvy.CommandLine

/-- A path among the arguments. -/
inductive PathArgument
  /-- A file to read. -/
  | input (path : String)
  /-- A file to write. -/
  | output (path : String)
deriving DecidableEq, Repr

def PathArgument.path : PathArgument → String
  | .input path => path
  | .output path => path

/-- How a bundle is converted. -/
structure Conversion where
  /-- The paths in the order in which they are looked at. -/
  paths : List PathArgument
  source : String
  base : Option String
  profiles : Option String
  settings : Option String
  keepHeaders : Bool
  output : Option String
  isVerbose : Bool
deriving DecidableEq, Repr

inductive Command
  | version
  /-- Show how a command is used. -/
  | help (command : String)
  | convert (c : Conversion)
  | encode (a : Artifact String)
  | decode (uri : String) (asJson : Bool)
  /-- Arguments are missing or too many, which counts only after the paths were looked at. -/
  | refused (paths : List PathArgument) (fault : UsageFault)

namespace Command

/-! ### Options -/

def mainOptions : List OptionSpec :=
  [.flag "--version", (OptionSpec.flag "--verbose").withLetter 'v', .help]

def convertOptions : List OptionSpec :=
  [.valued "--base-uri", .valued "--profiles", .valued "--settings", .flag "--embed-manifest",
    (OptionSpec.valued "--output").withLetter 'o', .help]

def encodeOptions : List OptionSpec :=
  [.valued "--branch", .valued "--rev", .valued "--type", .valued "--art", .valued "--ext", .help]

def decodeOptions : List OptionSpec := [.flag "--json", .help]

/-! ### Reading -/

/-- The path that an option gives. -/
def optionPath? (name value : String) : Option PathArgument :=
  if name = "--profiles" || name = "--settings" then some (.input value)
  else if name = "--output" then some (.output value)
  else none

/-- The paths of options in the order of the options, and the positional argument. -/
def pathArguments (a : Arguments) : List PathArgument :=
  a.options.entries.filterMap (fun o => optionPath? o.1 o.2) ++
    (a.positional.take 1).map .input

def readConversion (isVerbose : Bool) (args : List String) : Except UsageFault Command := do
  let a ← Arguments.read convertOptions true args
  if a.has "--help" then pure (.help "translate")
  else
    match a.expect ["PATH"] with
    | .error fault => pure (.refused (pathArguments a) fault)
    | .ok positional =>
      pure (.convert {
        paths := pathArguments a
        source := positional.headD ""
        base := a.value? "--base-uri"
        profiles := a.value? "--profiles"
        settings := a.value? "--settings"
        keepHeaders := a.has "--embed-manifest"
        output := a.value? "--output"
        isVerbose := isVerbose })

def readEncode (args : List String) : Except UsageFault Command := do
  let a ← Arguments.read encodeOptions true args
  if a.has "--help" then pure (.help "uri encode")
  else
    let positional ← a.expect ["ORGANISATION", "NAME"]
    let revision : RevisionId String :=
      ⟨positional.headD "", (positional.drop 1).headD "", a.value? "--branch", a.value? "--rev"⟩
    pure (.encode ⟨revision, a.value? "--art", a.value? "--type", a.value? "--ext", none, {}⟩)

def readDecode (args : List String) : Except UsageFault Command := do
  let a ← Arguments.read decodeOptions true args
  if a.has "--help" then pure (.help "uri decode")
  else
    let positional ← a.expect ["URI"]
    pure (.decode (positional.headD "") (a.has "--json"))

/-- What the options of the program or of a group ask for.  Of the version and the help, the first
counts. -/
def request? (group : String) (a : Arguments) : Option Command :=
  match a.options.keys.find? (· ≠ "--verbose") with
  | some "--version" => some .version
  | some _ => some (.help group)
  | none => none

/-- A name that no command has is read once more as an option, and everything behind it, too. -/
def readUnknown (group name : String) (options : List OptionSpec) (args : List String) :
    Except UsageFault Command := do
  let a ← Arguments.read options false (name :: args)
  match request? group a with
  | some c => pure c
  | none => .error (.unknownCommand name)

def readUri (args : List String) : Except UsageFault Command := do
  let a ← Arguments.read [.help] false args
  match request? "uri" a, a.positional with
  | some c, _ => pure c
  | none, [] => .error .missingCommand
  | none, "encode" :: rest => readEncode rest
  | none, "decode" :: rest => readDecode rest
  | none, name :: rest => readUnknown "uri" name [.help] rest

/-- The command that arguments give. -/
def ofArgs (args : List String) : Except UsageFault Command := do
  let a ← Arguments.read mainOptions false args
  match request? "" a, a.positional with
  | some c, _ => pure c
  | none, [] => .error .missingCommand
  | none, "translate" :: rest => readConversion (a.has "--verbose") rest
  | none, "uri" :: rest => readUri rest
  | none, name :: rest => readUnknown "" name mainOptions rest

/-- The paths of a command in the order in which they are looked at. -/
def paths : Command → List PathArgument
  | .convert c => c.paths
  | .refused paths _ => paths
  | _ => []

/-- How a command is used. -/
def usage : String → String
  | "translate" => "translate [--base-uri URI] [--profiles FILE] [--settings FILE] " ++
      "[--embed-manifest] [--output FILE] PATH"
  | "uri encode" => "uri encode [--branch B] [--rev R] [--type T] [--art A] [--ext E] " ++
      "ORGANISATION NAME"
  | "uri decode" => "uri decode [--json] URI"
  | "uri" => "uri (encode | decode) ..."
  | _ => "[--version] [--verbose] (translate | uri) ..."

end Command

end OsgiIvy.CommandLine
