import OsgiIvy.Proofs.Bundle.Descriptions
import OsgiIvy.Proofs.Settings
import OsgiIvy.Proofs.Value.Nulls

/-!
# Descriptions and settings without nulls

Leaving out the nulls at keys that may be missing keeps a description of a bundle a description and
settings settings.  The same is read from what is left, unless a null stands where a text with a
default is wanted: such a null is read as a text (`reads_same_without_nulls_iff`).
-/

namespace OsgiIvy.Bundle

open OsgiIvy.Value

/-! ### Parts -/

def optionalKeys : List String :=
  ["version", "exports", "requirements", "artifacts", "execution_environments", "inner_classpath"]

/-- The keys that may be missing in an export, a requirement or an artifact. -/
def optionalPartKeys : List String :=
  ["version", "uses", "resolution", "uri", "format", "source"]

/-- The keys with lists of exports, requirements or artifacts. -/
def partKeys : List String := ["exports", "requirements", "artifacts"]

def sparsePart : Value → Value
  | .mapping es => .mapping (withoutNulls optionalPartKeys es)
  | v => v

def sparseParts : Value → Value
  | .list items => .list (items.map sparsePart)
  | v => v

/-- Only what stands at the key of a list of parts is looked into. -/
def sparseAt (k v : Value) : Value :=
  if partKeys.any (fun key => k == .string key) then sparseParts v else v

/-- A description without the nulls at keys that may be missing, also in its parts. -/
def sparse (es : List (Value × Value)) : List (Value × Value) :=
  (withoutNulls optionalKeys es).map fun e => (e.1, sparseAt e.1 e.2)

theorem entriesOf_sparsePart (v : Value) :
    entriesOf (sparsePart v) = withoutNulls optionalPartKeys (entriesOf v) := by
  cases v with
  | mapping es => rfl
  | null | bool | int | float | string | torn | date | moment | list => rfl

theorem isJson_sparsePart {v : Value} (h : IsJson v) : IsJson (sparsePart v) := by
  cases v with
  | mapping es => exact h.withoutNulls optionalPartKeys
  | null | bool | int | float | string | torn | date | moment | list => exact h

theorem hasTextKeys_entriesOf {v : Value} (h : IsJson v) : HasTextKeys (entriesOf v) := by
  cases v with
  | mapping es => exact h.hasTextKeys
  | null | bool | int | float | string | torn | date | moment | list =>
    exact ⟨nofun, List.nodup_nil⟩

/-- Only the items of a list are mappings. -/
theorem items_sparseParts {v : Value} (h : IsJson v) :
    (sparseParts v).items = v.items.map sparsePart := by
  have hsame : (∀ w ∈ v.items, w.isText = true) → v.items.map sparsePart = v.items := by
    intro htexts
    refine (List.map_congr_left fun w hw => ?_).trans (List.map_id v.items)
    obtain ⟨s, rfl⟩ | ⟨t, rfl⟩ := isText_iff.mp (htexts w hw) <;> rfl
  cases h with
  | list => rfl
  | string s =>
    refine (hsame fun w hw => ?_).symm
    obtain ⟨c, -, rfl⟩ := List.mem_map.mp hw
    exact isText_string _
  | torn t =>
    refine (hsame fun w hw => ?_).symm
    obtain ⟨p, -, rfl⟩ := List.mem_map.mp hw
    exact isText_ofPoints [p]
  | mapping hkeys _ =>
    refine (hsame fun w hw => ?_).symm
    obtain ⟨e, he, rfl⟩ := List.mem_map.mp hw
    exact hkeys.texts e he
  | null | bool | int | float => rfl

theorem isJson_sparseParts {v : Value} (h : IsJson v) : IsJson (sparseParts v) := by
  cases v with
  | list items =>
    refine .list fun w hw => ?_
    obtain ⟨item, hitem, rfl⟩ := List.mem_map.mp hw
    exact isJson_sparsePart (h.of_mem_items hitem)
  | null | bool | int | float | string | torn | date | moment | mapping => exact h

theorem isListing_sparseParts {v : Value} (h : IsListing v) : IsListing (sparseParts v) := by
  cases v with
  | list items => exact .list _
  | null | bool | int | float | string | torn | date | moment | mapping => exact h

theorem lists_sparseParts {shape : Value → Prop} {v : Value} (hjson : IsJson v)
    (h : Lists shape v) (hshape : ∀ {w}, IsJson w → shape w → shape (sparsePart w)) :
    Lists shape (sparseParts v) := by
  refine ⟨isListing_sparseParts h.1, fun w hw => ?_⟩
  rw [items_sparseParts hjson] at hw
  obtain ⟨item, hitem, rfl⟩ := List.mem_map.mp hw
  exact hshape (hjson.of_mem_items hitem) (h.2 item hitem)

theorem map_items_sparseParts_eq_iff {α : Type} {part : Value → α} {p : Value → Prop} {v : Value}
    (h : IsJson v) (hpart : ∀ {w}, IsJson w → (part (sparsePart w) = part w ↔ p w)) :
    (sparseParts v).items.map part = v.items.map part ↔ ∀ w ∈ v.items, p w := by
  rw [items_sparseParts h, List.map_map, List.map_inj_left]
  exact forall₂_congr fun w hw => hpart (h.of_mem_items hw)

section Part

variable {v : Value} (h : IsJson v)
include h

theorem fieldOf_sparsePart (key : String) :
    fieldOf (entriesOf (sparsePart v)) key = fieldOf (entriesOf v) key := by
  rw [entriesOf_sparsePart, fieldOf_withoutNulls (hasTextKeys_entriesOf h)]

theorem textOf?_sparsePart (key : String) :
    textOf? (entriesOf (sparsePart v)) key = textOf? (entriesOf v) key := by
  rw [entriesOf_sparsePart, textOf?_withoutNulls (hasTextKeys_entriesOf h)]

theorem lookup_sparsePart_of_not_mem {key : String} (hkey : key ∉ optionalPartKeys) :
    lookup (entriesOf (sparsePart v)) key = lookup (entriesOf v) key := by
  rw [entriesOf_sparsePart, lookup_withoutNulls_of_not_mem (hasTextKeys_entriesOf h) hkey]

theorem textOf_sparsePart_eq_iff {key default : String} (hkey : key ∈ optionalPartKeys)
    (hdefault : default ≠ Value.null.text) :
    textOf (entriesOf (sparsePart v)) key default = textOf (entriesOf v) key default ↔
      lookup (entriesOf v) key ≠ some .null := by
  rw [entriesOf_sparsePart, textOf_withoutNulls_eq_iff (hasTextKeys_entriesOf h) hkey hdefault]

theorem isExport_sparsePart (hv : IsExport v) : IsExport (sparsePart v) := by
  obtain ⟨es, hes⟩ := hv.mapping
  refine ⟨⟨withoutNulls optionalPartKeys es, by rw [hes]; rfl⟩, ?_, ?_⟩
  · rw [lookup_sparsePart_of_not_mem h (by decide)]
    exact hv.named
  · rw [fieldOf_sparsePart h]
    exact hv.uses

theorem isRequirement_sparsePart (hv : IsRequirement v) : IsRequirement (sparsePart v) := by
  obtain ⟨es, hes⟩ := hv.mapping
  refine ⟨⟨withoutNulls optionalPartKeys es, by rw [hes]; rfl⟩, ?_, ?_⟩
  · rw [lookup_sparsePart_of_not_mem h (by decide)]
    exact hv.typed
  · rw [lookup_sparsePart_of_not_mem h (by decide)]
    exact hv.named

omit h in
theorem isArtifact_sparsePart (hv : IsArtifact v) : IsArtifact (sparsePart v) := by
  obtain ⟨es, rfl⟩ := hv
  exact ⟨withoutNulls optionalPartKeys es, rfl⟩

theorem exportOf_sparsePart_eq_iff :
    exportOf (sparsePart v) = exportOf v ↔ lookup (entriesOf v) "version" ≠ some .null := by
  have hversion : defaultVersion ≠ Value.null.text := by decide
  rw [← textOf_sparsePart_eq_iff h (by decide) hversion]
  simp [exportOf, fieldOf_sparsePart h]

theorem requirementOf_sparsePart_eq_iff :
    requirementOf (sparsePart v) = requirementOf v ↔
      lookup (entriesOf v) "resolution" ≠ some .null := by
  have hresolution : mandatory ≠ Value.null.text := by decide
  rw [← textOf_sparsePart_eq_iff h (by decide) hresolution]
  simp [requirementOf, fieldOf_sparsePart h, textOf?_sparsePart h]

theorem artifactOf_sparsePart : artifactOf (sparsePart v) = artifactOf v := by
  simp [artifactOf, fieldOf_sparsePart h, textOf?_sparsePart h]

end Part

/-! ### Descriptions -/

/-- No null stands where a text with a default is wanted. -/
structure HasNoNullText (es : List (Value × Value)) : Prop where
  version : lookup es "version" ≠ some .null
  exports : ∀ v ∈ (fieldOf es "exports").items, lookup (entriesOf v) "version" ≠ some .null
  requirements : ∀ v ∈ (fieldOf es "requirements").items,
    lookup (entriesOf v) "resolution" ≠ some .null

section Description

variable {es : List (Value × Value)} (h : IsJson (.mapping es))
include h

theorem lookup_sparse (key : String) :
    lookup (sparse es) key = (lookup (withoutNulls optionalKeys es) key).map fun v =>
      if key ∈ partKeys then sparseParts v else v := by
  have hsparse : sparseAt (.string key) = fun v => if key ∈ partKeys then sparseParts v else v := by
    funext v
    simp only [sparseAt, beq_string, List.any_beq, List.contains_iff_mem]
  rw [← hsparse]
  exact lookup_mapValues (h.hasTextKeys.withoutNulls optionalKeys) sparseAt key

theorem fieldOf_sparse (key : String) :
    fieldOf (sparse es) key =
      if key ∈ partKeys then sparseParts (fieldOf es key) else fieldOf es key := by
  rw [← fieldOf_withoutNulls h.hasTextKeys optionalKeys key, fieldOf, lookup_sparse h, fieldOf]
  cases lookup (withoutNulls optionalKeys es) key with
  | none => simp [sparseParts]
  | some v => rfl

theorem textOf_sparse_of_not_mem {key : String} (hkey : key ∉ partKeys) (default : String) :
    textOf (sparse es) key default = textOf (withoutNulls optionalKeys es) key default := by
  rw [textOf, lookup_sparse h, textOf]
  simp [hkey]

theorem isJson_sparse : IsJson (.mapping (sparse es)) := by
  have hrest := h.withoutNulls optionalKeys
  refine .mapping (hrest.hasTextKeys.mapValues sparseAt) fun e he => ?_
  obtain ⟨e', he', rfl⟩ := List.mem_map.mp he
  unfold sparseAt
  split
  · exact isJson_sparseParts (hrest.of_mem he')
  · exact hrest.of_mem he'

theorem fieldOf_sparse_of_mem (key : String) (hkey : key ∈ partKeys) :
    fieldOf (sparse es) key = sparseParts (fieldOf es key) := by
  rw [fieldOf_sparse h, if_pos hkey]

theorem fieldOf_sparse_of_not_mem (key : String) (hkey : key ∉ partKeys) :
    fieldOf (sparse es) key = fieldOf es key := by
  rw [fieldOf_sparse h, if_neg hkey]

theorem isDescription_sparse (hdescription : IsDescription es) : IsDescription (sparse es) := by
  refine ⟨?_, ?_, ?_, ?_, ?_⟩
  · rw [fieldOf_sparse_of_not_mem h _ (by decide)]
    exact hdescription.named
  · rw [fieldOf_sparse_of_mem h _ (by decide)]
    exact lists_sparseParts (h.fieldOf _) hdescription.exports isExport_sparsePart
  · rw [fieldOf_sparse_of_mem h _ (by decide)]
    exact lists_sparseParts (h.fieldOf _) hdescription.requirements isRequirement_sparsePart
  · rw [fieldOf_sparse_of_mem h _ (by decide)]
    exact lists_sparseParts (h.fieldOf _) hdescription.artifacts fun _ => isArtifact_sparsePart
  · rw [fieldOf_sparse_of_not_mem h _ (by decide)]
    exact hdescription.environments

theorem described_sparse_eq_iff : described (sparse es) = described es ↔ HasNoNullText es := by
  have hversion : textOf (sparse es) "version" defaultVersion = textOf es "version" defaultVersion ↔
      lookup es "version" ≠ some .null := by
    rw [textOf_sparse_of_not_mem h (by decide)]
    exact textOf_withoutNulls_eq_iff h.hasTextKeys (by decide) (by decide)
  have hexports := map_items_sparseParts_eq_iff (h.fieldOf "exports") exportOf_sparsePart_eq_iff
  have hrequirements := map_items_sparseParts_eq_iff (h.fieldOf "requirements")
    requirementOf_sparsePart_eq_iff
  have hartifacts : (sparseParts (fieldOf es "artifacts")).items.map artifactOf =
      (fieldOf es "artifacts").items.map artifactOf :=
    (map_items_sparseParts_eq_iff (h.fieldOf "artifacts")
      fun hw => iff_of_true (artifactOf_sparsePart hw) trivial).mpr fun _ _ => trivial
  have hparts := fieldOf_sparse_of_mem h
  have hsame := fieldOf_sparse_of_not_mem h
  simp only [described, Bundle.mk.injEq, hversion, hartifacts, hexports, hrequirements,
    hparts "exports" (by decide), hparts "requirements" (by decide),
    hparts "artifacts" (by decide), hsame "symbolic_name" (by decide),
    hsame "execution_environments" (by decide), hsame "inner_classpath" (by decide), true_and,
    and_true]
  constructor
  · rintro ⟨hv, he, hr⟩
    exact ⟨hv, he, hr⟩
  · rintro ⟨hv, he, hr⟩
    exact ⟨hv, he, hr⟩

end Description

end OsgiIvy.Bundle

namespace OsgiIvy.Settings

open OsgiIvy.Value

variable {es : List (Value × Value)}

/-! ### Settings -/

/-- Settings without the nulls at their keys, all of which may be missing. -/
def sparse (es : List (Value × Value)) : List (Value × Value) := withoutNulls knownKeys es

theorem isJson_sparse (h : IsJson (.mapping es)) : IsJson (.mapping (sparse es)) :=
  h.withoutNulls knownKeys

theorem hasKnownKeys_sparse (h : HasKnownKeys es) : HasKnownKeys (sparse es) :=
  fun e he => h e (List.mem_filter.mp he).1

theorem hasKnownKeys_of_ofValue (h : IsJson (.mapping es)) {s : Settings}
    (hs : ofValue (.mapping es) = .ok s) : HasKnownKeys es := by
  by_contra hunknown
  obtain ⟨names, hnames⟩ := ofValue_of_not_hasKnownKeys h hunknown
  exact absurd (hnames.symm.trans hs) nofun

/-- The profiles are the same, so only the texts can differ. -/
theorem exists_ofValue_sparse (h : IsJson (.mapping es)) {s : Settings}
    (hs : ofValue (.mapping es) = .ok s) :
    ∃ profiles, s = settingsOf es profiles ∧
      ofValue (.mapping (sparse es)) = .ok (settingsOf (sparse es) profiles) := by
  have hknown := hasKnownKeys_of_ofValue h hs
  rw [ofValue_mapping h hknown] at hs
  obtain ⟨entries, hentries, hs⟩ := bind_eq_ok.mp hs
  obtain ⟨profiles, hprofiles, rfl⟩ := map_eq_ok.mp hs
  refine ⟨profiles, rfl, ?_⟩
  rw [ofValue_mapping (isJson_sparse h) (hasKnownKeys_sparse hknown), sparse,
    fieldOf_withoutNulls h.hasTextKeys, hentries, ok_bind, hprofiles]
  rfl

theorem settingsOf_sparse_eq_iff (h : HasTextKeys es) (profiles : Profiles) :
    settingsOf (sparse es) profiles = settingsOf es profiles ↔
      lookup es "status" ≠ some .null ∧ lookup es "resolve_id_separator" ≠ some .null := by
  have hstatus : Descriptor.defaultStatus ≠ Value.null.text := by decide
  have hseparator : "-" ≠ Value.null.text := by decide
  rw [settingsOf, settingsOf, Settings.mk.injEq, sparse,
    textOf_withoutNulls_eq_iff h (by decide) hstatus,
    textOf_withoutNulls_eq_iff h (by decide) hseparator]
  simp

end OsgiIvy.Settings

namespace OsgiIvy

open OsgiIvy.Value

/-- A bundle and settings can still be read after all nulls at keys that may be missing are left
out, and they are the same exactly if none of these stood where a text with a default is wanted. -/
theorem reads_same_without_nulls_iff {es : List (Value × Value)} (h : IsJson (.mapping es)) :
    (∀ b, Bundle.ofValue (.mapping es) = .ok b →
      ∃ b', Bundle.ofValue (.mapping (Bundle.sparse es)) = .ok b' ∧
        (b' = b ↔ Bundle.HasNoNullText es)) ∧
    ∀ s, Settings.ofValue (.mapping es) = .ok s →
      ∃ s', Settings.ofValue (.mapping (Settings.sparse es)) = .ok s' ∧
        (s' = s ↔ lookup es "status" ≠ some .null ∧
          lookup es "resolve_id_separator" ≠ some .null) := by
  constructor
  · intro b hb
    have hdescription := Bundle.isDescription_of_ofValue hb
    rw [Bundle.ofValue_of_isDescription h.hasText hdescription] at hb
    obtain rfl := Except.ok.inj hb
    have hsparse := Bundle.isDescription_sparse h hdescription
    exact ⟨_, Bundle.ofValue_of_isDescription (Bundle.isJson_sparse h).hasText hsparse,
      Bundle.described_sparse_eq_iff h⟩
  · intro s hs
    obtain ⟨profiles, rfl, hsparse⟩ := Settings.exists_ofValue_sparse h hs
    exact ⟨_, hsparse, Settings.settingsOf_sparse_eq_iff h.hasTextKeys profiles⟩

/-- A description with nulls where none matters. -/
def looseFields : List (String × Value) := [
  ("symbolic_name", .string "app"), ("exports", .null),
  ("requirements", .list [
    .object [("type", .string "bundle"), ("name", .string "lib"), ("version", .null)]])]

/-- Settings with a null where it does not matter. -/
def looseSettings : List (String × Value) := [("status", .string "release"), ("profiles", .null)]

theorem isJson_looseFields : IsJson (.mapping (textEntries looseFields)) := by
  have hrequirement : IsJson (.object
      [("type", .string "bundle"), ("name", .string "lib"), ("version", .null)]) :=
    isJson_object (by decide) (by simp [IsJson.string, IsJson.null])
  refine isJson_object (by decide) ?_
  simp [looseFields, IsJson.string, IsJson.null, IsJson.list, hrequirement]

theorem isJson_looseSettings : IsJson (.mapping (textEntries looseSettings)) :=
  isJson_object (by decide) (by simp [looseSettings, IsJson.string, IsJson.null])

theorem reads_loose_without_nulls :
    (∃ b, Bundle.ofValue (.mapping (textEntries looseFields)) = .ok b ∧
      Bundle.ofValue (.mapping (Bundle.sparse (textEntries looseFields))) = .ok b) ∧
    ∃ s, Settings.ofValue (.mapping (textEntries looseSettings)) = .ok s ∧
      Settings.ofValue (.mapping (Settings.sparse (textEntries looseSettings))) = .ok s := by
  constructor
  · have hread : Bundle.ofValue (.mapping (textEntries looseFields)) =
        .ok (Bundle.described (textEntries looseFields)) := rfl
    have hnone : Bundle.HasNoNullText (textEntries looseFields) := by
      refine ⟨nofun, fun v hv => absurd hv List.not_mem_nil, fun v hv => ?_⟩
      rw [List.mem_singleton.mp hv]
      exact nofun
    obtain ⟨b, hb, hsame⟩ := (reads_same_without_nulls_iff isJson_looseFields).1 _ hread
    exact ⟨_, hread, hb.trans (congrArg Except.ok (hsame.mpr hnone))⟩
  · have hread : Settings.ofValue (.mapping (textEntries looseSettings)) =
        .ok (Settings.settingsOf (textEntries looseSettings) {}) := rfl
    obtain ⟨s, hs, hsame⟩ := (reads_same_without_nulls_iff isJson_looseSettings).2 _ hread
    exact ⟨_, hread, hs.trans (congrArg Except.ok (hsame.mpr ⟨nofun, nofun⟩))⟩

/-- A description with null for its version. -/
def nullVersion : List (String × Value) :=
  [("symbolic_name", .string "com.example.app"), ("version", .null)]

/-- Null for a version or for a separator is read as a text. -/
theorem reads_null_as_text :
    IsJson (.object nullVersion) ∧
    (Bundle.ofValue (.object nullVersion)).map Bundle.version = .ok "None" ∧
    (Bundle.ofValue (.mapping (Bundle.sparse (textEntries nullVersion)))).map Bundle.version =
      .ok "0.0.0" ∧
    IsJson (.object [("resolve_id_separator", .null)]) ∧
    (Settings.ofValue (.object [("resolve_id_separator", .null)])).map
      Settings.resolveIdSeparator = .ok "None" ∧
    (Settings.ofValue (.mapping (Settings.sparse
      (textEntries [("resolve_id_separator", .null)])))).map Settings.resolveIdSeparator =
        .ok "-" := by
  refine ⟨?_, rfl, rfl, ?_, rfl, rfl⟩
  · exact isJson_object (by decide) (by simp [nullVersion, IsJson.string, IsJson.null])
  · exact isJson_object (by decide) (by simp [IsJson.null])

end OsgiIvy
