import OsgiIvy.Proofs.Json.Values
import OsgiIvy.Proofs.Sorting

/-!
# Canonical forms

With the members of each mapping in the order of their keys a plain value has its canonical form.
The JSON text of a value is that of its canonical form, and the form can be read from the text: two
values have one text exactly if they have one form (`write_eq_write_iff`).
-/

namespace OsgiIvy.Json

open Value

/-! ### Members in order -/

section Members

variable {α β : Type}

theorem isOrder_names : IsOrder fun e f : String × α => textLe e.1 f.1 :=
  isOrder_textLe.on Prod.fst

theorem byName_perm (fields : List (String × α)) : (byName fields).Perm fields :=
  sortBy_perm _ fields

theorem byName_byName (fields : List (String × α)) : byName (byName fields) = byName fields :=
  sortBy_sortBy isOrder_names fields

theorem byName_map (g : α → β) (fields : List (String × α)) :
    byName (fields.map fun f => (f.1, g f.2)) = (byName fields).map fun f => (f.1, g f.2) :=
  sortBy_map (fun _ _ => rfl) fields

/-- Members under different names have one order. -/
theorem byName_eq_byName_iff {fields others : List (String × α)}
    (h : (fields.map Prod.fst).Nodup) : byName fields = byName others ↔ fields.Perm others := by
  constructor
  · intro heq
    exact (byName_perm fields).symm.trans (heq ▸ byName_perm others)
  · intro hperm
    refine sortBy_eq_of_perm isOrder_names hperm fun e he f hf hef hfe => ?_
    rw [textLe_iff] at hef hfe
    exact List.inj_on_of_nodup_map h he hf (String.le_antisymm hef hfe)

end Members

/-! ### Texts of canonical forms -/

theorem writeChars_canonical {v : Value} (h : Plain v) (layout : Layout) (depth : Nat) :
    writeChars layout depth (rearrange byKey v) = writeChars layout depth v := by
  induction h generalizing depth with
  | null => simp [rearrange]
  | bool b => rw [rearrange_bool]
  | string s => rw [rearrange_string]
  | @list items hitems ih =>
    rw [rearrange_list, writeChars_list, writeChars_list, List.map_map]
    exact congrArg (enclose layout depth '[' ']')
      (List.map_congr_left fun v hv => ih v hv (depth + 1))
  | @object fields hkeys hfields ih =>
    have hmembers : ∀ f ∈ byName fields, writeMember layout (depth + 1) (f.1, rearrange byKey f.2) =
        writeMember layout (depth + 1) f := by
      intro f hf
      rw [writeMember, writeMember, ih f ((byName_perm fields).mem_iff.mp hf)]
    rw [rearrange_byKey_object, writeChars_object, writeChars_object, byName_map, byName_byName,
      List.map_map]
    exact congrArg (enclose layout depth '\x7b' '\x7d') (List.map_congr_left hmembers)

theorem write_canonical {v : Value} (h : Plain v) (indent : Nat) :
    write indent (rearrange byKey v) = write indent v :=
  congrArg String.ofList (writeChars_canonical h (.indented indent) 0)

/-- Plain values have the same text exactly if they have the same canonical form. -/
theorem write_eq_write_iff {u v : Value} (hu : Plain u) (hv : Plain v) (indent : Nat) :
    write indent u = write indent v ↔ rearrange byKey u = rearrange byKey v := by
  constructor
  · intro h
    have hread := read_write hu indent
    rw [h, read_write hv indent] at hread
    exact (Except.ok.inj hread).symm
  · intro h
    rw [← write_canonical hu, h, write_canonical hv]

/-! ### Equality of canonical forms -/

theorem object_injective : Function.Injective object := by
  intro fields others h
  refine List.map_injective_iff.mpr ?_ (Value.mapping.inj h)
  intro f g hfg
  exact Prod.ext (string_injective (Prod.ext_iff.mp hfg).1) (Prod.ext_iff.mp hfg).2

/-- Objects have one canonical form if their members in canonical form are the same. -/
theorem canonical_object_eq_iff {fields others : List (String × Value)}
    (h : (fields.map Prod.fst).Nodup) :
    rearrange byKey (.object fields) = rearrange byKey (.object others) ↔
      (fields.map fun f => (f.1, rearrange byKey f.2)).Perm
        (others.map fun f => (f.1, rearrange byKey f.2)) := by
  have hkeys : ((fields.map fun f => (f.1, rearrange byKey f.2)).map Prod.fst).Nodup := by
    simpa [Function.comp_def] using h
  rw [rearrange_byKey_object, rearrange_byKey_object, object_injective.eq_iff, ← byName_map,
    ← byName_map, byName_eq_byName_iff hkeys]

theorem Plain.canonical {v : Value} (h : Plain v) : Plain (rearrange byKey v) := by
  induction h with
  | null => simpa [rearrange] using Plain.null
  | bool b =>
    rw [rearrange_bool]
    exact Plain.bool b
  | string s =>
    rw [rearrange_string]
    exact Plain.string s
  | list hitems ih =>
    rw [rearrange_list]
    exact Plain.list (List.forall_mem_map.mpr ih)
  | @object fields hkeys hfields ih =>
    rw [rearrange_byKey_object]
    refine Plain.object ?_
      (List.forall_mem_map.mpr fun f hf => ih f ((byName_perm _).mem_iff.mp hf))
    rw [List.map_map]
    exact ((byName_perm fields).map Prod.fst).nodup_iff.mpr hkeys

end OsgiIvy.Json
