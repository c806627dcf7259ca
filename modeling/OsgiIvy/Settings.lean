import OsgiIvy.Module.Descriptor
import OsgiIvy.Profile

/-!
# Settings

The status of fixed descriptors that have none of their own, the separator in the names of
resolutions, and the profiles to use.  Everything is optional.
-/

namespace OsgiIvy

structure Settings where
  status : String := Descriptor.defaultStatus
  resolveIdSeparator : String := "-"
  profiles : Profiles := {}

instance : Inhabited Settings := ⟨{}⟩

namespace Settings

inductive Fault
  | unknownKeys (keys : NameSet)
  | profilesNotMapping
  | profiles (fault : Profiles.Fault)
  | value (fault : Value.Fault)

def Fault.message : Fault → String
  | .unknownKeys keys => "Unknown settings: " ++ ", ".intercalate keys.toList
  | .profilesNotMapping => "'profiles' must be a mapping"
  | .profiles fault => fault.message
  | .value _ => ""

def knownKeys : List String := ["status", "resolve_id_separator", "profiles"]

instance : MonadLift (Except Value.Fault) (Except Fault) := ⟨Except.mapError .value⟩

/-- The name of a key, which has to be a text. -/
def keyName (v : Value) : Except Value.Fault String :=
  match v with
  | .string s => .ok s
  | .torn _ => .ok v.text
  | _ => .error .wrongKind

/-- Refuses keys that no setting has. -/
def checkKeys (v : Value) : Except Fault Unit := do
  let keys ← (v.elements : Except Value.Fault (List Value))
  let keys ← (keys.mapM Value.asKey : Except Value.Fault (List Value))
  let unknown := keys.filter fun k => !knownKeys.any fun known => k == .string known
  if unknown.isEmpty then pure ()
  else
    let names ← (unknown.mapM keyName : Except Value.Fault (List String))
    .error (.unknownKeys (.ofList names))

/-- The settings that a value holds. -/
def ofValue (v : Value) : Except Fault Settings := do
  checkKeys v
  let profiles ← (v.fieldD "profiles" .null : Except Value.Fault Value)
  let entries ← match profiles with
    | .mapping entries => .ok entries
    | other => if other.isTruthy then .error .profilesNotMapping else .ok []
  let status ← (v.textD "status" Descriptor.defaultStatus : Except Value.Fault String)
  let separator ← (v.textD "resolve_id_separator" "-" : Except Value.Fault String)
  let profiles ← (Profiles.ofEntries entries).mapError Fault.profiles
  pure { status := status, resolveIdSeparator := separator, profiles := profiles }

end Settings

end OsgiIvy
