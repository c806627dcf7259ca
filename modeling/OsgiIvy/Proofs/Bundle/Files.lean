import OsgiIvy.Bundle.OfFile
import OsgiIvy.Proofs.Text.Utf8
import OsgiIvy.Proofs.Value.Readable

/-!
# Loading a bundle from any file

Loading ends with a bundle, with a refusal that says what is wrong with the file, or with a fault
that was not foreseen: octets that are not UTF-8, a part of a description that stands for nothing,
and a number too long to be a text.  `settles_ofEntry_iff` says that there are no others, whatever
reads the descriptions.
-/

namespace OsgiIvy

open OsgiIvy.Text
open Value

/-! ### Descriptions with a text -/

namespace Bundle

section Readers

variable {v : Value} (h : v.hasText = true)
include h

theorem yields_listField (key : String) :
    Yields (listField v key) fun items => ∀ w ∈ items, w.hasText = true := by
  refine (yields_fieldD h key hasText_null).bind fun w hw => ?_
  split
  · exact yields_elements hw
  · nofun

theorem yields_readExport : Yields (readExport v) fun _ => True := by
  refine (yields_needText h _).bind fun _ _ => (yields_textD h _ _).bind fun _ _ => ?_
  refine (yields_listField h _).bind fun uses huses => ?_
  exact (yields_mapM fun w hw => yields_asText (huses w hw)).bind fun _ _ => trivial

theorem yields_readRequirement : Yields (readRequirement v) fun _ => True := by
  refine (yields_needText h _).bind fun _ _ => (yields_needText h _).bind fun _ _ => ?_
  exact (yields_text? h _).bind fun _ _ => (yields_textD h _ _).bind fun _ _ => trivial

theorem yields_readArtifact : Yields (readArtifact v) fun _ => True := by
  refine (yields_text? h _).bind fun _ _ => (yields_text? h _).bind fun _ _ => ?_
  exact (yields_fieldD h _ (hasText_bool false)).bind fun _ _ => trivial

-- The fields in the order in which they are read, each list with its items.
theorem yields_readBody : Yields (readBody v) fun _ => True := by
  refine (yields_needText h _).bind fun _ _ => (yields_textD h _ _).bind fun _ _ => ?_
  refine (yields_listField h _).bind fun exports hexports => ?_
  refine (yields_mapM fun w hw => yields_readExport (hexports w hw)).bind fun _ _ => ?_
  refine (yields_listField h _).bind fun requirements hrequirements => ?_
  refine (yields_mapM fun w hw => yields_readRequirement (hrequirements w hw)).bind fun _ _ => ?_
  refine (yields_listField h _).bind fun artifacts hartifacts => ?_
  refine (yields_mapM fun w hw => yields_readArtifact (hartifacts w hw)).bind fun _ _ => ?_
  refine (yields_listField h _).bind fun environments henvironments => ?_
  refine (yields_mapM fun w hw => yields_asText (henvironments w hw)).bind fun _ _ => ?_
  exact (yields_fieldD h _ (hasText_bool false)).bind fun _ _ => trivial

/-- A description whose numbers all have a text does not fail for want of one. -/
theorem ofValue_ne_unwritable : ofValue v ≠ .error .unwritable := by
  have hbody := (yields_readBody h).ne_badContent
  rw [ofValue]
  cases v.field? "symbolic_name" with
  | error fault => nofun
  | ok name =>
    simp only
    split
    · cases hrun : readBody v with
      | ok b => nofun
      | error fault =>
        rw [hrun] at hbody
        cases fault with
        | badContent => exact absurd rfl hbody
        | missing | noFields | wrongKind => nofun
    · nofun

end Readers

/-- A mapping has fields. -/
theorem ofValue_mapping_ne_notMapping (es : List (Value × Value)) :
    ofValue (.mapping es) ≠ .error .notMapping := by
  rw [ofValue, field?]
  simp only
  split
  · cases readBody (.mapping es) with
    | ok b => nofun
    | error fault => cases fault <;> nofun
  · nofun

end Bundle

namespace BundleSource

/-! ### Refusals -/

/-- A fault that the loader foresees and says of the file; any other breaks the loading off. -/
def Fault.isRefusal : Fault → Bool
  | .file .undecodable => false
  | .yaml (.misfit ..) => false
  | .description .unwritable => false
  | .description .notMapping => false
  | _ => true

/-- Loading ends with a bundle or with a refusal. -/
def Settles (r : Except Fault BundleSource) : Prop :=
  (∃ s, r = .ok s) ∨ ∃ fault, r = .error fault ∧ fault.isRefusal = true

theorem settles_ok (s : BundleSource) : Settles (.ok s) := .inl ⟨s, rfl⟩

theorem settles_error_iff {fault : Fault} :
    Settles (.error fault) ↔ fault.isRefusal = true := by
  constructor
  · rintro (⟨s, h⟩ | ⟨fault, h, hrefusal⟩)
    · exact absurd h nofun
    · rwa [Except.error.inj h]
  · exact fun h => .inr ⟨fault, rfl, h⟩

/-! ### Manifests and descriptions -/

theorem settles_ofManifestText (text : String) : Settles (ofManifestText text) := by
  rw [ofManifestText]
  cases Manifest.parse text with
  | error fault => exact settles_error_iff.mpr rfl
  | ok headers =>
    rw [mapError_ok, ok_bind]
    cases Bundle.ofManifest headers with
    | error fault => exact settles_error_iff.mpr rfl
    | ok b => exact settles_ok _

section Descriptions

variable {read : String → Except Yaml.Fault Value}

/-- Each part of a text has a value, and so has each number of it that is taken as a text. -/
structure IsReadable (read : String → Except Yaml.Fault Value) (text : String) : Prop where
  fits : ∀ cause part, read text ≠ .error (.misfit cause part)
  writable : ∀ es, read text = .ok (.mapping es) →
    Bundle.ofValue (.mapping es) ≠ .error .unwritable

theorem isReadable_of_malformed {text : String} {line : Nat}
    (h : read text = .error (.malformed line)) : IsReadable read text where
  fits cause part := by
    rw [h]
    nofun
  writable es := by
    rw [h]
    nofun

theorem isReadable_iff {text : String} {v : Value} (h : read text = .ok v) :
    IsReadable read text ↔
      ∀ es, v = .mapping es → Bundle.ofValue (.mapping es) ≠ .error .unwritable := by
  constructor
  · rintro hreadable es rfl
    exact hreadable.writable es h
  · intro hwritable
    refine ⟨fun cause part => ?_, fun es hes => ?_⟩
    · rw [h]
      nofun
    · rw [h] at hes
      exact hwritable es (Except.ok.inj hes)

theorem settles_ofMapping_iff (es : List (Value × Value)) :
    Settles (((Bundle.ofValue (.mapping es)).map (⟨·, none⟩)).mapError .description) ↔
      Bundle.ofValue (.mapping es) ≠ .error .unwritable := by
  have hfields := Bundle.ofValue_mapping_ne_notMapping es
  cases hrun : Bundle.ofValue (.mapping es) with
  | ok b => exact ⟨nofun, fun _ => settles_ok _⟩
  | error fault =>
    refine settles_error_iff.trans ?_
    cases fault with
    | notMapping => exact absurd hrun hfields
    | unwritable => exact ⟨nofun, fun h => absurd rfl h⟩
    | noSymbolicName | missing | misshapen => exact ⟨nofun, fun _ => rfl⟩

theorem settles_ofDescriptionText_iff (text : String) :
    Settles (ofDescriptionText read text) ↔ IsReadable read text := by
  rw [ofDescriptionText]
  cases hread : read text with
  | error fault =>
    refine settles_error_iff.trans ?_
    cases fault with
    | malformed line => exact ⟨fun _ => isReadable_of_malformed hread, fun _ => rfl⟩
    | misfit cause part => exact ⟨nofun, fun h => absurd hread (h.fits cause part)⟩
  | ok v =>
    rw [mapError_ok, ok_bind, isReadable_iff hread]
    cases v with
    | mapping es =>
      simp only [Value.mapping.injEq, forall_eq']
      exact settles_ofMapping_iff es
    | null | bool | int | float | string | torn | date | moment | list =>
      exact ⟨nofun, fun _ => settles_error_iff.mpr rfl⟩

end Descriptions

/-! ### Files -/

section Files

variable {read : String → Except Yaml.Fault Value}

theorem exists_decode?_iff {content : Utf8.Octets} :
    (∃ cs, Utf8.encode cs = content) ↔ ∃ cs, Utf8.decode? content = some cs := by
  constructor
  · rintro ⟨cs, rfl⟩
    exact ⟨cs, Utf8.decode?_encode cs⟩
  · rintro ⟨cs, h⟩
    exact ⟨cs, Utf8.encode_of_decode? h⟩

theorem readText_of_decode? {content : Utf8.Octets} {cs : List Char}
    (h : Utf8.decode? content = some cs) :
    (Entry.file content).readText = .ok (String.ofList (readNewlines cs)) := by
  rw [Entry.readText, Entry.readChars, h]
  rfl

theorem ofEntry_of_undecodable (path : Path) {content : Utf8.Octets}
    (h : Utf8.decode? content = none) :
    ofEntryWith read path (.file content) = .error (.file .undecodable) := by
  rw [ofEntryWith, Entry.readText, Entry.readChars, h]
  rfl

theorem settles_of_readText {path : Path} {e : Entry} {text : String} (h : e.readText = .ok text) :
    Settles (ofEntryWith read path e) ↔ (isManifest path = false → IsReadable read text) := by
  rw [ofEntryWith, h, mapError_ok, ok_bind]
  cases isManifest path with
  | true => exact ⟨nofun, fun _ => settles_ofManifestText text⟩
  | false => simpa using settles_ofDescriptionText_iff text

/-- Loading any file, or none, ends with a bundle or a refusal exactly if the file holds UTF-8 and,
unless it is a manifest, each part of its text has a value, whatever reader finds the values. -/
theorem settles_ofEntry_iff (read : String → Except Yaml.Fault Value) (path : Path) (e : Entry) :
    (Settles (ofEntryWith read path e) ↔
      (∀ content, e = .file content → ∃ cs, Utf8.encode cs = content) ∧
        (isManifest path = false → ∀ text, e.readText = .ok text → IsReadable read text)) ∧
    ∀ v : Value, v.hasText = true → Bundle.ofValue v ≠ .error .unwritable := by
  refine ⟨?_, fun v => Bundle.ofValue_ne_unwritable⟩
  cases e with
  | absent | directory =>
    exact ⟨fun _ => ⟨nofun, fun _ _ => nofun⟩, fun _ => settles_error_iff.mpr rfl⟩
  | file content =>
    cases hdecode : Utf8.decode? content with
    | none =>
      rw [ofEntry_of_undecodable path hdecode, settles_error_iff]
      refine ⟨nofun, fun ⟨hencoded, _⟩ => ?_⟩
      obtain ⟨cs, hcs⟩ := exists_decode?_iff.mp (hencoded content rfl)
      exact absurd (hdecode.symm.trans hcs) nofun
    | some cs =>
      have hread := readText_of_decode? hdecode
      rw [settles_of_readText hread]
      constructor
      · intro h
        refine ⟨fun other hother => ?_, fun hmanifest text htext => ?_⟩
        · rw [← Entry.file.inj hother]
          exact exists_decode?_iff.mpr ⟨cs, hdecode⟩
        · rw [← Except.ok.inj (hread.symm.trans htext)]
          exact h hmanifest
      · rintro ⟨-, h⟩ hmanifest
        exact h hmanifest _ hread

end Files

/-- A description of one octet that is not UTF-8 ends loading with neither. -/
theorem not_settles_undecodable :
    ofEntry (.ofString "bundle.yaml") (.file [0xFF]) = .error (.file .undecodable) ∧
      ¬ Settles (ofEntry (.ofString "bundle.yaml") (.file [0xFF])) := by
  have hfails : ofEntry (.ofString "bundle.yaml") (.file [0xFF]) =
      .error (.file .undecodable) := rfl
  refine ⟨hfails, ?_⟩
  rw [hfails, settles_error_iff]
  nofun

end BundleSource

end OsgiIvy
