import OsgiIvy.Files.Entry
import OsgiIvy.Module.Snapshot
import OsgiIvy.Settings
import OsgiIvy.Yaml.Reader

/-!
# Settings, profiles and snapshots in files

Settings and profiles are mappings in YAML, and an empty file holds none; snapshots of descriptors
are JSON.
-/

namespace OsgiIvy

/-- Why a file does not hold a mapping of the kind that is wanted. -/
inductive MappingFault (ε : Type)
  | file (fault : FileFault)
  | yaml (fault : Yaml.Fault)
  | notMapping
  | content (fault : ε)

/-- What the mapping in a file holds; nothing if the file is empty. -/
def readMapping {α ε : Type} (read : List (Value × Value) → Except ε α) (e : Entry) :
    Except (MappingFault ε) (Option α) := do
  let text ← e.readText.mapError .file
  match ← (Yaml.read text).mapError .yaml with
  | .null => pure none
  | .mapping entries => (read entries).map some |>.mapError .content
  | _ => .error .notMapping

namespace Profiles

def Fault.describe (path : Path) : MappingFault Fault → String
  | .file fault => "Cannot load profiles from " ++ path.text ++ ": " ++ fault.message
  | .yaml fault => "Cannot load profiles from " ++ path.text ++ ": " ++ fault.message
  | .notMapping => "Profiles file " ++ path.text ++ " must contain a mapping"
  | .content fault => fault.message

/-- The profiles in a file. -/
def ofEntry (e : Entry) : Except (MappingFault Fault) (Option Profiles) := readMapping ofEntries e

end Profiles

namespace Settings

def Fault.describe (path : Path) : MappingFault Fault → String
  | .file fault => "Cannot load settings from " ++ path.text ++ ": " ++ fault.message
  | .yaml fault => "Cannot load settings from " ++ path.text ++ ": " ++ fault.message
  | .notMapping => "Settings file " ++ path.text ++ " must contain a mapping"
  | .content fault => fault.message

/-- The settings in a file. -/
def ofEntry (e : Entry) : Except (MappingFault Fault) (Option Settings) :=
  readMapping (fun entries => ofValue (.mapping entries)) e

end Settings

namespace Snapshot

/-- The descriptor of the snapshot in a file. -/
def ofEntry (e : Entry) : Except (ReadFault Fault) Unchecked := do
  let text ← e.readText.mapError .file
  (ofJson text).mapError .content

end Snapshot

end OsgiIvy
