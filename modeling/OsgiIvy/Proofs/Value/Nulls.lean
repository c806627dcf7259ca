import OsgiIvy.Proofs.Json.Contents
import OsgiIvy.Proofs.Value.Listings

/-!
# Explicit nulls

What changes if entries are left out whose value is null.  A field reads the same, and so does a
text that may be missing.  Only a text with a default does not: null has a text of its own, which
stands in place of the default (`textOf_withoutNulls_eq_iff`).
-/

namespace OsgiIvy.Value

/-- The entries without those that hold null at one of the keys. -/
def withoutNulls (keys : List String) (es : List (Value × Value)) : List (Value × Value) :=
  es.filter fun e => !(keys.any (fun key => e.1 == .string key) && (present? e.2).isNone)

theorem present?_eq_some_iff {v w : Value} : present? v = some w ↔ v = w ∧ v ≠ .null := by
  cases v with
  | null => exact iff_of_false nofun fun h => h.2 rfl
  | bool | int | float | string | torn | date | moment | list | mapping => simp [present?]

theorem mem_withoutNulls {keys : List String} {es : List (Value × Value)} {e : Value × Value} :
    e ∈ withoutNulls keys es ↔
      e ∈ es ∧ (keys.any (fun key => e.1 == .string key) = true → e.2 ≠ .null) := by
  have hnull : (present? e.2).isNone = true ↔ e.2 = .null := by
    cases e.2 with
    | null => exact iff_of_true rfl rfl
    | bool | int | float | string | torn | date | moment | list | mapping =>
      exact iff_of_false nofun nofun
  rw [withoutNulls, List.mem_filter, Bool.not_eq_true', Bool.and_eq_false_imp, ne_eq, ← hnull,
    Bool.not_eq_true]

section Lookups

variable {es : List (Value × Value)} (h : HasTextKeys es)
include h

theorem HasTextKeys.withoutNulls (keys : List String) : HasTextKeys (withoutNulls keys es) :=
  ⟨fun e he => h.texts e (List.mem_filter.mp he).1,
    h.distinct.sublist (List.filter_sublist.map Prod.fst)⟩

theorem lookup_withoutNulls_of_mem {keys : List String} {key : String} (hkey : key ∈ keys) :
    lookup (Value.withoutNulls keys es) key = (lookup es key).bind present? := by
  have hany : keys.any (fun known => Value.string key == .string known) = true :=
    List.any_eq_true.mpr ⟨key, hkey, by rw [beq_string, beq_self_eq_true]⟩
  ext v
  rw [lookup_eq_some_iff (h.withoutNulls keys), mem_withoutNulls, Option.bind_eq_some_iff]
  constructor
  · rintro ⟨hmem, hpresent⟩
    exact ⟨v, (lookup_eq_some_iff h).mpr hmem, present?_eq_some_iff.mpr ⟨rfl, hpresent hany⟩⟩
  · rintro ⟨w, hw, hpresent⟩
    obtain ⟨rfl, hnull⟩ := present?_eq_some_iff.mp hpresent
    exact ⟨(lookup_eq_some_iff h).mp hw, fun _ => hnull⟩

theorem lookup_withoutNulls_of_not_mem {keys : List String} {key : String} (hkey : key ∉ keys) :
    lookup (Value.withoutNulls keys es) key = lookup es key := by
  have hany : ¬ keys.any (fun known => Value.string key == .string known) = true := by
    rw [List.any_eq_true]
    rintro ⟨known, hknown, hbeq⟩
    rw [beq_string, beq_iff_eq] at hbeq
    exact hkey (hbeq ▸ hknown)
  ext v
  rw [lookup_eq_some_iff (h.withoutNulls keys), mem_withoutNulls, lookup_eq_some_iff h]
  exact and_iff_left fun hyes => absurd hyes hany

theorem bind_lookup_withoutNulls (keys : List String) (key : String) :
    (lookup (Value.withoutNulls keys es) key).bind present? = (lookup es key).bind present? := by
  by_cases hkey : key ∈ keys
  · rw [lookup_withoutNulls_of_mem h hkey]
    cases lookup es key with
    | none => rfl
    | some v => cases v <;> rfl
  · rw [lookup_withoutNulls_of_not_mem h hkey]

theorem fieldOf_withoutNulls (keys : List String) (key : String) :
    fieldOf (Value.withoutNulls keys es) key = fieldOf es key := by
  have hfield : ∀ o : Option Value, o.getD .null = (o.bind present?).getD .null := by
    intro o
    cases o with
    | none => rfl
    | some v => cases v <;> rfl
  rw [fieldOf, fieldOf, hfield, bind_lookup_withoutNulls h, ← hfield]

theorem textOf?_withoutNulls (keys : List String) (key : String) :
    textOf? (Value.withoutNulls keys es) key = textOf? es key := by
  rw [textOf?, textOf?, bind_lookup_withoutNulls h]

/-- Unless the default is the text of null, it makes a difference to leave null out. -/
theorem textOf_withoutNulls_eq_iff {keys : List String} {key default : String} (hkey : key ∈ keys)
    (hdefault : default ≠ Value.null.text) :
    textOf (Value.withoutNulls keys es) key default = textOf es key default ↔
      lookup es key ≠ some .null := by
  rw [textOf, textOf, lookup_withoutNulls_of_mem h hkey]
  cases hv : lookup es key with
  | none => exact iff_of_true rfl nofun
  | some v =>
    cases v with
    | null => exact iff_of_false (fun heq => hdefault heq) (fun hne => hne rfl)
    | bool | int | float | string | torn | date | moment | list | mapping =>
      exact iff_of_true rfl nofun

theorem HasTextKeys.mapValues (f : Value → Value → Value) :
    HasTextKeys (es.map fun e => (e.1, f e.1 e.2)) := by
  have hkeys : (es.map fun e => (e.1, f e.1 e.2)).map Prod.fst = es.map Prod.fst := by
    rw [List.map_map]
    rfl
  refine ⟨fun e he => ?_, hkeys ▸ h.distinct⟩
  obtain ⟨e', he', rfl⟩ := List.mem_map.mp he
  exact h.texts e' he'

/-- Values may be changed in ways that depend on their keys. -/
theorem lookup_mapValues (f : Value → Value → Value) (key : String) :
    lookup (es.map fun e => (e.1, f e.1 e.2)) key = (lookup es key).map (f (.string key)) := by
  ext v
  rw [lookup_eq_some_iff (h.mapValues f), List.mem_map, Option.map_eq_some_iff]
  constructor
  · rintro ⟨e, he, heq⟩
    obtain ⟨hkey, rfl⟩ := Prod.mk.inj heq
    rw [hkey]
    exact ⟨e.2, (lookup_eq_some_iff h).mpr (hkey ▸ he), rfl⟩
  · rintro ⟨w, hw, rfl⟩
    exact ⟨(.string key, w), (lookup_eq_some_iff h).mp hw, rfl⟩

end Lookups

theorem IsJson.withoutNulls {es : List (Value × Value)} (h : IsJson (.mapping es))
    (keys : List String) : IsJson (.mapping (Value.withoutNulls keys es)) :=
  .mapping (h.hasTextKeys.withoutNulls keys) fun _ he => h.of_mem (List.mem_filter.mp he).1

theorem IsJson.fieldOf {es : List (Value × Value)} (h : IsJson (.mapping es)) (key : String) :
    IsJson (fieldOf es key) := by
  unfold Value.fieldOf
  cases hv : lookup es key with
  | none => exact .null
  | some v => exact h.of_lookup hv

theorem IsJson.of_mem_items {v w : Value} (h : IsJson v) (hw : w ∈ v.items) : IsJson w := by
  cases h with
  | list hitems => exact hitems w hw
  | string s =>
    obtain ⟨c, -, rfl⟩ := List.mem_map.mp hw
    exact .string _
  | torn t =>
    obtain ⟨p, -, rfl⟩ := List.mem_map.mp hw
    exact isJson_of_isText (isText_ofPoints [p])
  | mapping hkeys _ =>
    obtain ⟨e, he, rfl⟩ := List.mem_map.mp hw
    exact isJson_of_isText (hkeys.texts e he)
  | null | bool | int | float => exact absurd hw List.not_mem_nil

end OsgiIvy.Value
