import Mathlib.Data.List.Nodup
import OsgiIvy.Proofs.Images
import OsgiIvy.Proofs.Mappings
import OsgiIvy.Value.Fields
import OsgiIvy.Value.Order

/-!
# Objects

Mappings with texts as keys, each text once.  What a look-up finds in them does not depend on the
order of the entries, so a field of an object is read in the same way after `rearrange` has put the
entries of every mapping in some other order (`field?_rearrange_object`).
-/

namespace OsgiIvy.Value

open OsgiIvy.Text

theorem beq_string (a b : String) : (Value.string a == Value.string b) = (a == b) := rfl

theorem string_injective : Function.Injective Value.string := fun _ _ h => Value.string.inj h

/-! ### Texts as keys -/

theorem isText_string (s : String) : (Value.string s).isText = true := rfl

theorem isText_iff {v : Value} : v.isText = true ↔ (∃ s, v = .string s) ∨ ∃ t, v = .torn t := by
  cases v with
  | string s => simp [isText]
  | torn t => simp [isText]
  | null | bool | int | float | date | moment | list | mapping => simp [isText]

theorem isText_ofPoints (ps : List Point) : (ofPoints ps).isText = true := by
  unfold ofPoints
  split <;> rfl

/-- Texts are equal only to themselves, with halves in them or without. -/
theorem beq_texts {v w : Value} (hv : v.isText = true) (hw : w.isText = true) :
    (v == w) = true ↔ v = w := by
  obtain ⟨s, rfl⟩ | ⟨s, rfl⟩ := isText_iff.mp hv <;> obtain ⟨t, rfl⟩ | ⟨t, rfl⟩ := isText_iff.mp hw
  · rw [beq_string, beq_iff_eq, Value.string.injEq]
  · exact iff_of_false Bool.false_ne_true nofun
  · exact iff_of_false Bool.false_ne_true nofun
  · have hbeq : (Value.torn s == Value.torn t) = (s == t) := rfl
    rw [hbeq, beq_iff_eq, Value.torn.injEq]

structure HasTextKeys (es : List (Value × Value)) : Prop where
  texts : ∀ e ∈ es, e.1.isText = true
  distinct : (es.map Prod.fst).Nodup

theorem HasTextKeys.perm {es fs : List (Value × Value)} (h : HasTextKeys es) (hp : fs.Perm es) :
    HasTextKeys fs :=
  ⟨fun e he => h.texts e (hp.mem_iff.mp he), (hp.map Prod.fst).nodup_iff.mpr h.distinct⟩

theorem lookup_eq_some_iff {es : List (Value × Value)} (h : HasTextKeys es) {key : String}
    {v : Value} : lookup es key = some v ↔ (.string key, v) ∈ es := by
  induction es with
  | nil => simp [lookup]
  | cons e es ih =>
    obtain ⟨k, w⟩ := e
    have htext : k.isText = true := h.texts (k, w) List.mem_cons_self
    have hdistinct := List.nodup_cons.mp h.distinct
    have htail := ih ⟨fun e he => h.texts e (List.mem_cons_of_mem _ he), hdistinct.2⟩
    have hbeq := beq_texts (isText_string key) htext
    rw [lookup, List.lookup_cons, List.mem_cons]
    by_cases hkey : Value.string key = k
    · subst hkey
      have hnew : (Value.string key, v) ∉ es := fun hmem =>
        hdistinct.1 (List.mem_map.mpr ⟨_, hmem, rfl⟩)
      simp [hbeq.mpr rfl, hnew, eq_comm]
    · have hother : (Value.string key == k) = false :=
        Bool.eq_false_iff.mpr fun h => hkey (hbeq.mp h)
      simpa [hother, hkey, lookup] using htail

theorem lookup_perm {es fs : List (Value × Value)} (h : HasTextKeys es) (hp : fs.Perm es)
    (key : String) : lookup fs key = lookup es key := by
  ext v
  rw [lookup_eq_some_iff h, lookup_eq_some_iff (h.perm hp), hp.mem_iff]

/-- Entries under different texts are a mapping as they stand. -/
theorem ofList_of_hasTextKeys {es : List (Value × Value)} (h : HasTextKeys es) :
    Assoc.ofList es = ⟨es⟩ := by
  refine Assoc.ofList_of_distinct ((List.pairwise_map.mp h.distinct).imp_of_mem ?_)
  intro e f he hf hne
  have hbeq := beq_texts (h.texts f hf) (h.texts e he)
  exact Bool.eq_false_iff.mpr fun hfe => hne (hbeq.mp hfe).symm

/-! ### Objects -/

/-- The entries of an object. -/
def textEntries (fields : List (String × Value)) : List (Value × Value) :=
  fields.map fun f => (.string f.1, f.2)

theorem object_eq (fields : List (String × Value)) :
    object fields = .mapping (textEntries fields) := rfl

theorem hasTextKeys_textEntries {fields : List (String × Value)}
    (h : (fields.map Prod.fst).Nodup) : HasTextKeys (textEntries fields) := by
  refine ⟨?_, ?_⟩
  · intro e he
    obtain ⟨f, -, rfl⟩ := List.mem_map.mp he
    exact isText_string f.1
  · have hkeys : (textEntries fields).map Prod.fst = (fields.map Prod.fst).map .string := by
      simp [textEntries]
    rw [hkeys]
    exact List.Nodup.map string_injective h

theorem lookup_textEntries (fields : List (String × Value)) (key : String) :
    lookup (textEntries fields) key = fields.lookup key := by
  have himage := Assoc.lookup_image beq_string id key fields
  rw [Option.map_id] at himage
  exact himage

/-! ### Rearranging -/

section Rearranging

variable (order : List (Value × Value) → List (Value × Value))

mutual

/-- The value with the entries of every mapping in it put in order. -/
def rearrange : Value → Value
  | .list items => .list (rearrangeItems items)
  | .mapping entries => .mapping (order (rearrangeEntries entries))
  | v => v

def rearrangeItems : List Value → List Value
  | [] => []
  | v :: rest => rearrange v :: rearrangeItems rest

def rearrangeEntries : List (Value × Value) → List (Value × Value)
  | [] => []
  | (k, v) :: rest => (k, rearrange v) :: rearrangeEntries rest

end

theorem rearrange_bool (b : Bool) : rearrange order (.bool b) = .bool b := by
  simp [rearrange]

theorem rearrange_string (s : String) : rearrange order (.string s) = .string s := by
  simp [rearrange]

theorem rearrange_list (items : List Value) :
    rearrange order (.list items) = .list (items.map (rearrange order)) := by
  have hitems : rearrangeItems order items = items.map (rearrange order) := by
    induction items with
    | nil => simp [rearrangeItems]
    | cons v rest ih => simp [rearrangeItems, ih]
  rw [rearrange, hitems]

theorem rearrange_mapping (es : List (Value × Value)) :
    rearrange order (.mapping es) =
      .mapping (order (es.map fun e => (e.1, rearrange order e.2))) := by
  have hentries : rearrangeEntries order es = es.map fun e => (e.1, rearrange order e.2) := by
    induction es with
    | nil => simp [rearrangeEntries]
    | cons e rest ih => simp [rearrangeEntries, ih]
  rw [rearrange, hentries]

mutual

/-- Nothing changes if entries are left in their order. -/
theorem rearrange_id (v : Value) : rearrange id v = v := by
  cases v with
  | list items => rw [rearrange, rearrangeItems_id items]
  | mapping entries => rw [rearrange, rearrangeEntries_id entries, id]
  | null | bool | int | float | string | torn | date | moment => simp [rearrange]

theorem rearrangeItems_id (items : List Value) : rearrangeItems id items = items := by
  cases items with
  | nil => rw [rearrangeItems]
  | cons v rest => rw [rearrangeItems, rearrange_id v, rearrangeItems_id rest]

theorem rearrangeEntries_id (entries : List (Value × Value)) :
    rearrangeEntries id entries = entries := by
  cases entries with
  | nil => rw [rearrangeEntries]
  | cons e rest =>
    obtain ⟨k, v⟩ := e
    rw [rearrangeEntries, rearrange_id v, rearrangeEntries_id rest]

end

theorem rearrange_object (fields : List (String × Value)) :
    rearrange order (.object fields) =
      .mapping (order (textEntries (fields.map fun f => (f.1, rearrange order f.2)))) := by
  rw [object_eq, rearrange_mapping, textEntries, List.map_map, textEntries, List.map_map]
  rfl

/-! ### Fields of rearranged objects -/

variable {order} (horder : ∀ es, (order es).Perm es) {fields : List (String × Value)}
  (hfields : (fields.map Prod.fst).Nodup)

include horder hfields

theorem lookup_rearranged (key : String) :
    lookup (order (textEntries (fields.map fun f => (f.1, rearrange order f.2)))) key =
      (fields.lookup key).map (rearrange order) := by
  have hkeys : ((fields.map fun f => (f.1, rearrange order f.2)).map Prod.fst).Nodup := by
    simpa [Function.comp_def] using hfields
  rw [lookup_perm (hasTextKeys_textEntries hkeys) (horder _), lookup_textEntries]
  exact Assoc.lookup_image (fun _ _ => rfl) (rearrange order) key fields

theorem field?_rearrange_object (key : String) :
    (rearrange order (.object fields)).field? key =
      .ok ((fields.lookup key).map (rearrange order)) := by
  rw [rearrange_object]
  exact congrArg Except.ok (lookup_rearranged horder hfields key)

end Rearranging

end OsgiIvy.Value
