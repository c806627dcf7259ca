import OsgiIvy.Proofs.Profile.Refusals
import OsgiIvy.Settings

/-!
# Settings from values

A mapping with keys that no setting has is refused, and so are profiles that are no mapping.  Of
the settings themselves any value will do.  What is left is the reading of the profiles, so that
settings settle as these do (`settlesBy_ofValue_iff`).
-/

namespace OsgiIvy.Settings

open OsgiIvy.Value

def HasKnownKeys (es : List (Value × Value)) : Prop :=
  ∀ e ∈ es, ∃ key ∈ knownKeys, e.1 = .string key

/-! ### Keys -/

/-- The keys that no setting has. -/
def unknownKeys (es : List (Value × Value)) : List Value :=
  (es.map Prod.fst).filter fun k => !knownKeys.any fun known => k == .string known

section Keys

variable {es : List (Value × Value)} (h : HasTextKeys es)
include h

theorem unknownKeys_eq_nil_iff : unknownKeys es = [] ↔ HasKnownKeys es := by
  unfold unknownKeys HasKnownKeys
  rw [List.filter_eq_nil_iff, List.forall_mem_map]
  refine forall₂_congr fun e he => ?_
  have hsame : ∀ known, (e.1 == .string known) = true ↔ e.1 = .string known :=
    fun known => beq_texts (h.texts e he) (isText_string known)
  simp [hsame]

theorem isText_of_mem_keys {k : Value} (hk : k ∈ es.map Prod.fst) : k.isText = true := by
  obtain ⟨e, he, rfl⟩ := List.mem_map.mp hk
  exact h.texts e he

theorem mapM_asKey : (es.map Prod.fst).mapM asKey = .ok (es.map Prod.fst) := by
  have hkey : ∀ k ∈ es.map Prod.fst, asKey k = .ok (id k) := by
    intro k hk
    obtain ⟨s, rfl⟩ | ⟨t, rfl⟩ := isText_iff.mp (isText_of_mem_keys h hk) <;> rfl
  rw [mapM_eq_ok hkey, List.map_id]

theorem mapM_keyName : ∃ names, (unknownKeys es).mapM keyName = .ok names := by
  cases hread : (unknownKeys es).mapM keyName with
  | ok names => exact ⟨names, rfl⟩
  | error fault =>
    obtain ⟨before, k, after, hsplit, -, hk⟩ := first_of_mapM_eq_error hread
    have hmem : k ∈ unknownKeys es := hsplit ▸ List.mem_append_right before List.mem_cons_self
    have htext := isText_of_mem_keys h (List.mem_filter.mp hmem).1
    obtain ⟨s, rfl⟩ | ⟨t, rfl⟩ := isText_iff.mp htext <;> exact absurd hk nofun

theorem checkKeys_mapping :
    checkKeys (.mapping es) =
      if (unknownKeys es).isEmpty then pure ()
      else (((unknownKeys es).mapM keyName).mapError .value) >>= fun names =>
        .error (.unknownKeys (.ofList names)) := by
  have hrun : checkKeys (.mapping es) =
      (((es.map Prod.fst).mapM asKey).mapError .value) >>= fun keys =>
        let unknown := keys.filter fun k => !knownKeys.any fun known => k == .string known
        if unknown.isEmpty then pure ()
        else ((unknown.mapM keyName).mapError .value) >>= fun names =>
          .error (.unknownKeys (.ofList names)) := rfl
  rw [hrun, mapM_asKey h]
  rfl

theorem checkKeys_of_hasKnownKeys (hknown : HasKnownKeys es) :
    checkKeys (.mapping es) = .ok () := by
  rw [checkKeys_mapping h, (unknownKeys_eq_nil_iff h).mpr hknown]
  rfl

theorem checkKeys_of_not_hasKnownKeys (hunknown : ¬ HasKnownKeys es) :
    ∃ names, checkKeys (.mapping es) = .error (.unknownKeys names) := by
  obtain ⟨names, hnames⟩ := mapM_keyName h
  have hsome : (unknownKeys es).isEmpty = false :=
    List.isEmpty_eq_false_iff.mpr fun hnil => hunknown ((unknownKeys_eq_nil_iff h).mp hnil)
  rw [checkKeys_mapping h, hsome, hnames]
  exact ⟨.ofList names, rfl⟩

end Keys

/-! ### Profiles -/

/-- The entries of the profiles, none if they are empty in any way. -/
def profileEntries (v : Value) : Except Fault (List (Value × Value)) :=
  match v with
  | .mapping entries => .ok entries
  | other => if other.isTruthy then .error .profilesNotMapping else .ok []

/-- The settings that a mapping with known keys holds. -/
def settingsOf (es : List (Value × Value)) (profiles : Profiles) : Settings where
  status := textOf es "status" Descriptor.defaultStatus
  resolveIdSeparator := textOf es "resolve_id_separator" "-"
  profiles := profiles

variable {es : List (Value × Value)}

theorem profileEntries_of_not_mapping {v : Value} (h : ∀ entries, v ≠ .mapping entries) :
    profileEntries v = if v.isTruthy then .error .profilesNotMapping else .ok [] := by
  cases v with
  | mapping entries => exact absurd rfl (h entries)
  | null | bool | int | float | string | torn | date | moment | list => rfl

theorem liftM_ok {α : Type} (a : α) :
    (liftM (.ok a : Except Value.Fault α) : Except Fault α) = .ok a := rfl

theorem ofValue_mapping (h : IsJson (.mapping es)) (hknown : HasKnownKeys es) :
    ofValue (.mapping es) = profileEntries (fieldOf es "profiles") >>= fun entries =>
      ((Profiles.ofEntries entries).mapError .profiles).map (settingsOf es) := by
  have hkeys := checkKeys_of_hasKnownKeys h.hasTextKeys hknown
  have hprofiles : (Value.mapping es).fieldD "profiles" .null = .ok (fieldOf es "profiles") := rfl
  have hrest : ∀ entries, ((Profiles.ofEntries entries).mapError .profiles >>= fun profiles =>
      pure (settingsOf es profiles)) =
        ((Profiles.ofEntries entries).mapError Fault.profiles).map (settingsOf es) := by
    intro entries
    cases Profiles.ofEntries entries with
    | error fault => rfl
    | ok profiles => rfl
  unfold ofValue
  simp only [hkeys, hprofiles, textD_mapping h.hasText, liftM_ok, ok_bind]
  generalize fieldOf es "profiles" = v
  cases v with
  | mapping entries => exact hrest entries
  | null => exact hrest []
  | bool | int | float | string | torn | date | moment | list =>
    simp only [profileEntries]
    split
    · rfl
    · exact hrest []

theorem ofValue_of_not_hasKnownKeys (h : IsJson (.mapping es)) (hunknown : ¬ HasKnownKeys es) :
    ∃ names, ofValue (.mapping es) = .error (.unknownKeys names) := by
  obtain ⟨names, hnames⟩ := checkKeys_of_not_hasKnownKeys h.hasTextKeys hunknown
  refine ⟨names, ?_⟩
  unfold ofValue
  rw [hnames]
  rfl

/-! ### Refusals -/

/-- A fault that says what is wrong with the settings; any other breaks off. -/
def Fault.isRefusal : Fault → Bool
  | .value _ => false
  | .profiles fault => fault.isRefusal
  | _ => true

theorem settlesBy_profiles_iff {x : Except Profiles.Fault Profiles} {f : Profiles → Settings} :
    SettlesBy Fault.isRefusal ((x.mapError .profiles).map f) ↔
      SettlesBy Profiles.Fault.isRefusal x := by
  cases x with
  | ok profiles => exact iff_of_true (settlesBy_ok _) (settlesBy_ok profiles)
  | error fault =>
    have hleft : SettlesBy Fault.isRefusal (.error (Fault.profiles fault) : Except Fault Settings) ↔
        fault.isRefusal = true := settlesBy_error_iff
    exact hleft.trans settlesBy_error_iff.symm

theorem settlesBy_ofValue_of_mapping (h : IsJson (.mapping es)) (hknown : HasKnownKeys es)
    {entries : List (Value × Value)} (hentries : lookup es "profiles" = some (.mapping entries)) :
    SettlesBy Fault.isRefusal (ofValue (.mapping es)) ↔
      Profiles.FirstMisfitIsNoMapping entries := by
  rw [ofValue_mapping h hknown, fieldOf_of_lookup hentries]
  have hprofiles := Profiles.settlesBy_ofEntries_iff (h.of_lookup hentries).entriesHaveText
  exact settlesBy_profiles_iff.trans hprofiles

theorem settlesBy_ofValue_of_not_mapping (h : IsJson (.mapping es)) (hknown : HasKnownKeys es)
    (hnone : ∀ entries, lookup es "profiles" ≠ some (.mapping entries)) :
    SettlesBy Fault.isRefusal (ofValue (.mapping es)) := by
  have hother : ∀ entries, fieldOf es "profiles" ≠ .mapping entries := by
    intro entries hentries
    have hnull : fieldOf es "profiles" ≠ .null := by
      rw [hentries]
      exact nofun
    exact hnone entries (hentries ▸ lookup_of_fieldOf_ne_null hnull)
  rw [ofValue_mapping h hknown, profileEntries_of_not_mapping hother]
  split
  · exact settlesBy_error_iff.mpr rfl
  · exact settlesBy_ok _

theorem settlesBy_ofValue_iff (h : IsJson (.mapping es)) :
    SettlesBy Fault.isRefusal (ofValue (.mapping es)) ↔
      (HasKnownKeys es → ∀ entries, lookup es "profiles" = some (.mapping entries) →
        Profiles.FirstMisfitIsNoMapping entries) := by
  constructor
  · intro hsettles hknown entries hentries
    exact (settlesBy_ofValue_of_mapping h hknown hentries).mp hsettles
  · intro hfirst
    by_cases hknown : HasKnownKeys es
    · by_cases hmapping : ∃ entries, lookup es "profiles" = some (.mapping entries)
      · obtain ⟨entries, hentries⟩ := hmapping
        exact (settlesBy_ofValue_of_mapping h hknown hentries).mpr (hfirst hknown entries hentries)
      · exact settlesBy_ofValue_of_not_mapping h hknown (not_exists.mp hmapping)
    · obtain ⟨names, hnames⟩ := ofValue_of_not_hasKnownKeys h hknown
      rw [hnames]
      exact settlesBy_error_iff.mpr rfl

/-- Profiles and settings are read from a mapping of JSON, or they are refused, exactly if the first
entry of the profiles that is no declaration is no mapping.  Settings with keys that no setting has
are refused before that. -/
theorem settles_iff (h : IsJson (.mapping es)) :
    (SettlesBy Profiles.Fault.isRefusal (Profiles.ofEntries es) ↔
      Profiles.FirstMisfitIsNoMapping es) ∧
    (SettlesBy Fault.isRefusal (ofValue (.mapping es)) ↔
      (HasKnownKeys es → ∀ entries, lookup es "profiles" = some (.mapping entries) →
        Profiles.FirstMisfitIsNoMapping entries)) :=
  ⟨Profiles.settlesBy_ofEntries_iff h.entriesHaveText, settlesBy_ofValue_iff h⟩

/-- A profile whose packages are a number. -/
def tornProfile : String × Value := ("JavaSE-1.8", .object [("packages", .int 5)])

/-- Settings with some profiles. -/
def settingsWith (profiles : List (String × Value)) : Value :=
  .object [("profiles", .object profiles)]

theorem isJson_tornProfile : IsJson tornProfile.2 :=
  isJson_object (by decide) (List.forall_mem_singleton.mpr (isJson_digit (by decide)))

theorem isJson_settingsWith {profiles : List (String × Value)} (h : IsJson (.object profiles)) :
    IsJson (settingsWith profiles) :=
  isJson_object (List.nodup_singleton "profiles") (List.forall_mem_singleton.mpr h)

/-- A list before the torn profile is refused before the reading breaks off. -/
theorem settles_list_before_torn :
    IsJson (settingsWith [("", .list []), tornProfile]) ∧
    SettlesBy Fault.isRefusal (ofValue (settingsWith [("", .list []), tornProfile])) := by
  have hprofiles : IsJson (.object [("", .list []), tornProfile]) := by
    refine isJson_object (by decide) (List.forall_mem_cons.mpr ⟨.list nofun, ?_⟩)
    exact List.forall_mem_singleton.mpr isJson_tornProfile
  have hlist : ¬ Profiles.IsDeclaration (.list []) := nofun
  refine ⟨isJson_settingsWith hprofiles, ?_⟩
  refine (settles_iff (isJson_settingsWith hprofiles)).2.mpr fun _ entries hentries => ?_
  rw [← Value.mapping.inj (Option.some.inj hentries)]
  exact (Profiles.firstMisfitIsNoMapping_append [] _ nofun hlist).mpr nofun

/-- The torn profile is neither read nor refused, by itself or in settings. -/
theorem not_settles_torn :
    IsJson (.object [tornProfile]) ∧
    ¬ SettlesBy Profiles.Fault.isRefusal (Profiles.ofEntries (textEntries [tornProfile])) ∧
    IsJson (settingsWith [tornProfile]) ∧
    ¬ SettlesBy Fault.isRefusal (ofValue (settingsWith [tornProfile])) := by
  have hprofiles : IsJson (.object [tornProfile]) :=
    isJson_object (by decide) (List.forall_mem_singleton.mpr isJson_tornProfile)
  have hentries : Profiles.ofEntries (textEntries [tornProfile]) =
      .error (.value .wrongKind) := rfl
  have hsettings : ofValue (settingsWith [tornProfile]) =
      .error (.profiles (.value .wrongKind)) := rfl
  rw [hentries, hsettings, settlesBy_error_iff, settlesBy_error_iff]
  exact ⟨hprofiles, nofun, isJson_settingsWith hprofiles, nofun⟩

end OsgiIvy.Settings
