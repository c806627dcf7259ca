import OsgiIvy.Proofs.Value.Readable

/-!
# Fields and listings

What the fields of a mapping are read as.  A field may be missing, it may be null or empty in
another way, or it may hold something with elements: `IsListing` says which values can be gone
through.  None of this fails for its content in a mapping that has a text.
-/

namespace OsgiIvy.Value

open OsgiIvy.Text

/-! ### Listings -/

/-- Empty in any way, or a list, a text or a mapping. -/
inductive IsListing : Value → Prop
  | empty {v : Value} (h : v.isTruthy = false) : IsListing v
  | list (items : List Value) : IsListing (.list items)
  | string (s : String) : IsListing (.string s)
  | torn (t : TornText) : IsListing (.torn t)
  | mapping (es : List (Value × Value)) : IsListing (.mapping es)

/-- The items of a list, the members of a text and the keys of a mapping. -/
def items : Value → List Value
  | .list items => items
  | .string s => s.toList.map fun c => .string (String.singleton c)
  | .torn t => t.points.map fun p => ofPoints [p]
  | .mapping es => es.map Prod.fst
  | _ => []

/-- The elements of a value, none if it is empty in any way. -/
def listed (v : Value) : Except Fault (List Value) := if v.isTruthy then v.elements else pure []

theorem ne_null_of_isTruthy {v : Value} (h : v.isTruthy = true) : v ≠ .null := by
  rintro rfl
  cases h

theorem items_of_not_isTruthy {v : Value} (h : v.isTruthy = false) : v.items = [] := by
  cases v with
  | list items => simpa [isTruthy, Value.items] using h
  | string s => simpa [isTruthy, Value.items] using h
  | torn t => simp [isTruthy] at h
  | mapping es => simpa [isTruthy, Value.items] using h
  | null | bool | int | float | date | moment => rfl

theorem listed_of_isListing {v : Value} (h : IsListing v) : listed v = .ok v.items := by
  unfold listed
  cases htruthy : v.isTruthy with
  | false => rw [items_of_not_isTruthy htruthy]; rfl
  | true =>
    cases h with
    | empty hempty => rw [hempty] at htruthy; exact absurd htruthy nofun
    | list | string | torn | mapping => rfl

theorem isListing_of_listed {v : Value} {vs : List Value} (h : listed v = .ok vs) :
    IsListing v := by
  unfold listed at h
  split at h
  · cases v with
    | list items => exact .list items
    | string s => exact .string s
    | torn t => exact .torn t
    | mapping es => exact .mapping es
    | null | bool | int | float | date | moment => exact absurd h nofun
  · next hempty => exact .empty (Bool.eq_false_iff.mpr hempty)

theorem listed_eq_ok_iff {v : Value} {vs : List Value} :
    listed v = .ok vs ↔ IsListing v ∧ vs = v.items := by
  constructor
  · intro h
    have hlisting := isListing_of_listed h
    rw [listed_of_isListing hlisting] at h
    exact ⟨hlisting, (Except.ok.inj h).symm⟩
  · rintro ⟨hlisting, rfl⟩
    exact listed_of_isListing hlisting

theorem hasText_of_mem_items {v w : Value} (h : v.hasText = true) (hw : w ∈ v.items) :
    w.hasText = true := by
  have helements := yields_elements h
  cases v with
  | list items => exact helements w hw
  | string s => exact helements w hw
  | torn t => exact helements w hw
  | mapping es => exact helements w hw
  | null | bool | int | float | date | moment => exact absurd hw List.not_mem_nil

theorem mapM_asText {vs : List Value} (h : ∀ v ∈ vs, v.hasText = true) :
    vs.mapM asText = .ok (vs.map text) :=
  mapM_eq_ok fun v hv => if_pos (h v hv)

/-! ### Fields -/

/-- The value of a key, null if there is none. -/
def fieldOf (es : List (Value × Value)) (key : String) : Value := (lookup es key).getD .null

/-- The text of a key that has a default. -/
def textOf (es : List (Value × Value)) (key default : String) : String :=
  ((lookup es key).getD (.string default)).text

/-- The text of a key that may be missing or null. -/
def textOf? (es : List (Value × Value)) (key : String) : Option String :=
  ((lookup es key).bind present?).map text

theorem fieldOf_of_lookup {es : List (Value × Value)} {key : String} {v : Value}
    (h : lookup es key = some v) : fieldOf es key = v := by
  rw [fieldOf, h, Option.getD_some]

theorem lookup_of_fieldOf_ne_null {es : List (Value × Value)} {key : String}
    (h : fieldOf es key ≠ .null) : lookup es key = some (fieldOf es key) := by
  cases hlookup : lookup es key with
  | none => exact absurd (by rw [fieldOf, hlookup, Option.getD_none]) h
  | some v => rw [fieldOf_of_lookup hlookup]

section Mapping

variable {es : List (Value × Value)} (h : (Value.mapping es).hasText = true)
include h

theorem hasText_of_lookup {key : String} {v : Value} (hv : lookup es key = some v) :
    v.hasText = true :=
  yields_field? h key v hv

theorem hasText_fieldOf (key : String) : (fieldOf es key).hasText = true := by
  unfold fieldOf
  cases hv : lookup es key with
  | none => exact hasText_null
  | some v => exact hasText_of_lookup h hv

theorem textD_mapping (key default : String) :
    (Value.mapping es).textD key default = .ok (textOf es key default) := by
  have htext : ((lookup es key).getD (.string default)).hasText = true := by
    cases hv : lookup es key with
    | none => exact hasText_string default
    | some v => exact hasText_of_lookup h hv
  exact if_pos htext

theorem text?_mapping (key : String) : (Value.mapping es).text? key = .ok (textOf? es key) := by
  have hrun : (Value.mapping es).text? key = ((lookup es key).bind present?).mapM asText := rfl
  rw [hrun, textOf?]
  cases hv : (lookup es key).bind present? with
  | none => rfl
  | some v =>
    obtain ⟨w, hw, hpresent⟩ := Option.bind_eq_some_iff.mp hv
    have htext := hasText_of_lookup h hw
    rw [← eq_of_present? hpresent] at htext
    rw [Option.mapM_some, asText, if_pos htext]
    rfl

theorem needText_mapping {key : String} (hkey : (lookup es key).isSome = true) :
    (Value.mapping es).needText key = .ok (fieldOf es key).text := by
  obtain ⟨v, hv⟩ := Option.isSome_iff_exists.mp hkey
  rw [fieldOf_of_lookup hv, needText, need, hv]
  exact if_pos (hasText_of_lookup h hv)

end Mapping

theorem exists_field_of_needText {v : Value} {key text : String} (h : v.needText key = .ok text) :
    ∃ es, v = .mapping es ∧ (lookup es key).isSome = true := by
  obtain ⟨w, hw, -⟩ := bind_eq_ok.mp h
  cases v with
  | mapping es =>
    refine ⟨es, rfl, ?_⟩
    rw [need] at hw
    cases hlookup : lookup es key with
    | none => rw [hlookup] at hw; cases hw
    | some w => rfl
  | null | bool | int | float | string | torn | date | moment | list => cases hw

end OsgiIvy.Value
