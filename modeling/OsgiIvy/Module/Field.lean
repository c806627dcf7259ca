import OsgiIvy.Value.Text

/-!
# Fields

What the text and flag places of a module descriptor hold.  A descriptor that is built holds texts
and truth values; one that is read from a stored snapshot is not checked and may hold any value in
the same places.  Everything on descriptors is said once, for whatever their fields hold.
-/

namespace OsgiIvy

/-- What a text place holds: how it is made from a text, shown in a text and in a message, and
stored, and whether it counts as empty or as no field at all. -/
class Field (τ : Type) where
  ofText : String → τ
  text : τ → String
  quoted : τ → String
  isEmpty : τ → Bool
  present? : τ → Option τ
  toValue : τ → Value

instance : Field String where
  ofText s := s
  text s := s
  quoted := Text.quoted
  isEmpty s := s == ""
  present? := some
  toValue := .string

instance : Field Value where
  ofText := .string
  text := Value.text
  quoted := Value.quoted
  isEmpty v := !v.isTruthy
  present? := Value.present?
  toValue v := v

/-- What a flag place holds. -/
class Flag (φ : Type) where
  ofBool : Bool → φ
  toValue : φ → Value

instance : Flag Bool where
  ofBool b := b
  toValue := .bool

instance : Flag Value where
  ofBool := .bool
  toValue v := v

namespace Field

variable {τ : Type} [Field τ]

/-- A field that may be missing, as a text. -/
def optionText : Option τ → String
  | none => "None"
  | some t => text t

/-- A field that may be missing, as it is stored. -/
def optionValue : Option τ → Value
  | none => .null
  | some t => toValue t

end Field

end OsgiIvy
