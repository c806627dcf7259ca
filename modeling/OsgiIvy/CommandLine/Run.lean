import OsgiIvy.CommandLine.Command
import OsgiIvy.CommandLine.Display
import OsgiIvy.CommandLine.Log
import OsgiIvy.Screen.Codes

/-!
# Running commands

What a command comes to, given what stands at each path.  Nothing is written here: the outcome says
what there is to write.  The exit code is 0 for success, 1 for input that cannot be converted, and 2
for arguments that make no sense and for files that cannot be used.
-/

namespace OsgiIvy.CommandLine

open OsgiIvy.Time (Moment)

/-- A fault that no command explains. -/
inductive Breakdown
  | undecodable
  | impossiblePath
  | misfit (cause : Yaml.Misfit)
  | value (fault : Value.Fault)
deriving DecidableEq, Repr

def Breakdown.message : Breakdown → String
  | .undecodable => FileFault.undecodable.message
  | .impossiblePath => "a path with a null character"
  | .misfit cause => cause.message
  | .value _ => "a value of the wrong kind"

/-- How a command ends. -/
inductive Ending
  | success
  /-- A message about input that cannot be used, and the exit code. -/
  | failure (code : Nat) (message : String)
  | usage (fault : UsageFault)
  | breakdown (cause : Breakdown)
deriving DecidableEq, Repr

structure Outcome where
  ending : Ending
  lines : List Line
  log : List LogRecord
  /-- A file that is to be written before anything is shown. -/
  output : Option (Path × String)

namespace Outcome

def success (lines : List Line) : Outcome := ⟨.success, lines, [], none⟩

def ofEnding (ending : Ending) : Outcome := ⟨ending, [], [], none⟩

def withLog (o : Outcome) (log : List LogRecord) : Outcome := { o with log := log ++ o.log }

end Outcome

/-! ### Messages -/

/-- A line that is written to no terminal. -/
def plainLine (text : String) : Line := .plain (Screen.withoutCodes text)

/-- Ends with a message that is written to no terminal. -/
def failing (code : Nat) (message : String) : Ending :=
  .failure code (Screen.withoutCodes message)

/-- The message about a file that cannot be used. -/
def loadFailure (message : String) : Ending := failing 2 ("Error: " ++ message)

/-! ### Files -/

def endingOfSource (path : Path) : BundleSource.Fault → Ending
  | .file .undecodable => .breakdown .undecodable
  | .yaml (.misfit cause _) => .breakdown (.misfit cause)
  | .description .unwritable => .breakdown (.value .badContent)
  | fault => loadFailure (fault.message path)

def endingOfProfiles (path : Path) : MappingFault Profiles.Fault → Ending
  | .file .undecodable => .breakdown .undecodable
  | .yaml (.misfit cause _) => .breakdown (.misfit cause)
  | .content (.value fault) => .breakdown (.value fault)
  | fault => loadFailure (Profiles.Fault.describe path fault)

def endingOfSettings (path : Path) : MappingFault Settings.Fault → Ending
  | .file .undecodable => .breakdown .undecodable
  | .yaml (.misfit cause _) => .breakdown (.misfit cause)
  | .content (.value fault) => .breakdown (.value fault)
  | .content (.profiles (.value fault)) => .breakdown (.value fault)
  | fault => loadFailure (Settings.Fault.describe path fault)

/-- A step of a conversion: it leaves records in the log, and the conversion may end with it. -/
abbrev Step := ExceptT Ending (StateM (List LogRecord))

def log (records : List LogRecord) : Step Unit := modify (· ++ records)

def orEnd {ε α : Type} (ending : ε → Ending) (r : Except ε α) : Step α :=
  match r with
  | .ok a => pure a
  | .error fault => throw (ending fault)

def loadSource (look : String → Entry) (path : String) : Step BundleSource := do
  let r := BundleSource.ofEntry (.ofString path) (look path)
  log (LogRecord.ofSource (.ofString path) r)
  orEnd (endingOfSource (.ofString path)) r

def loadSettings (look : String → Entry) (path : Option String) : Step OsgiIvy.Settings :=
  match path with
  | none => pure {}
  | some path => do
    let r := OsgiIvy.Settings.ofEntry (look path)
    log (LogRecord.ofSettings (.ofString path) r)
    return (← orEnd (endingOfSettings (.ofString path)) r).getD {}

def loadProfiles (look : String → Entry) (path : Option String) : Step (Option Profiles) :=
  match path with
  | none => pure none
  | some path => do
    let r := Profiles.ofEntry (look path)
    log (LogRecord.ofProfiles r)
    return some ((← orEnd (endingOfProfiles (.ofString path)) r).getD {})

/-! ### Conversions -/

/-- The file that a descriptor is written to: the one that is asked for, or one beside the bundle.
-/
def outputPath (c : Conversion) (b : Bundle) : Path :=
  match c.output with
  | some output => if output = "" then beside else .ofString output
  | none => beside
where
  beside := (Path.ofString c.source).parent.join
    (.ofString (b.symbolicName ++ "-" ++ b.version ++ ".descriptor.json"))

/-- Loads what is needed and converts the bundle.  Profiles of the settings count only if there is
no file of profiles. -/
def convert (now : Moment) (look : String → Entry) (c : Conversion) :
    Step (Path × ModuleDescriptor) := do
  let source ← loadSource look c.source
  let settings ← loadSettings look c.settings
  let profiles ← loadProfiles look c.profiles
  let profiles := profiles <|> (if settings.profiles.isEmpty then none else some settings.profiles)
  let headers := if c.keepHeaders then source.headers.map Assoc.entries else none
  let r := Descriptor.ofBundle now ⟨c.base, headers, profiles⟩ source.bundle
  log (LogRecord.ofConversion source.bundle c.base r)
  let d ← orEnd (fun fault => failing 1
    ("Translation failed (" ++ fault.category ++ "): " ++ fault.message)) r
  pure (outputPath c source.bundle, d)

def runConversion (now : Moment) (look : String → Entry) (c : Conversion) : Outcome :=
  match (convert now look c).run.run [] with
  | (.ok (path, d), records) =>
    { ending := .success
      lines := Display.summary d ++ [plainLine ("Descriptor written to: " ++ path.text)]
      log := LogRecord.shown c.isVerbose records
      output := some (path, Snapshot.toJson 2 d) }
  | (.error ending, records) => ⟨ending, [], LogRecord.shown c.isVerbose records, none⟩

/-! ### Commands -/

def programVersion : String := "cli, version 0.1.0"

def runDecode (uri : String) (asJson : Bool) : Outcome :=
  match IvyUri.decode uri with
  | .error fault => .ofEnding (failing 1 ("Error: " ++ fault.message))
  | .ok a =>
    .success (if asJson then [plainLine (Json.write 2 (Display.artifactObject a))]
      else Display.artifactTable a)

/-- A path that is read from has to be that of a file, and no path has null characters. -/
def checkPath (look : String → Entry) (p : PathArgument) : Except Ending Unit :=
  if Path.hasNull p.path then .error (.breakdown .impossiblePath)
  else
    match p, look p.path with
    | .output _, _ => .ok ()
    | .input _, .file _ => .ok ()
    | .input path, _ => .error (.usage (.noSuchFile path))

def Command.run (now : Moment) (look : String → Entry) (c : Command) : Outcome :=
  match c.paths.forM (checkPath look) with
  | .error ending => .ofEnding ending
  | .ok () =>
    match c with
    | .version => .success [plainLine programVersion]
    | .help command => .success [plainLine ("Usage: " ++ Command.usage command)]
    | .convert c => runConversion now look c
    | .encode a => .success [plainLine (IvyUri.encode a)]
    | .decode uri asJson => runDecode uri asJson
    | .refused _ fault => .ofEnding (.usage fault)

/-- What the arguments of the program come to. -/
def run (now : Moment) (look : String → Entry) (args : List String) : Outcome :=
  match Command.ofArgs args with
  | .ok c => c.run now look
  | .error fault => .ofEnding (.usage fault)

end OsgiIvy.CommandLine
