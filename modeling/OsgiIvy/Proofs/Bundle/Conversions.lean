import OsgiIvy.Proofs.Bundle.Parts

/-!
# How conversions end

Three steps of a conversion can fail.  Registering the configurations of every bundle never does.
Locating the artifacts comes before looking up the environments, and neither depends on what the
descriptor holds, so that how a conversion ends is decided by the bundle and its context alone
(`convert_ends`).
-/

namespace OsgiIvy.Bundle

open OsgiIvy.Configuration (defaultName)
open OsgiIvy.Time (Moment)

/-! ### What is wrong with a bundle -/

/-- The artifact has a location, and the location designates none. -/
def IsMislocated (b : Bundle) (base : String) (a : BundleArtifact) : Prop :=
  ∃ uri fault, a.uri = some uri ∧ Artifact.locate b.revision base uri (b.kindOf a) = .error fault

/-- Locations have a base, and an artifact cannot be located. -/
def HasMislocated (b : Bundle) (context : Context) : Prop :=
  ∃ base, context.base = some base ∧ ∃ a ∈ b.artifacts, b.IsMislocated base a

/-- Environments are known, and the bundle requires one that is not. -/
def HasUnknown (b : Bundle) (context : Context) : Prop :=
  ∃ profiles, context.profiles = some profiles ∧ ∃ name ∈ b.environments, profiles.get? name = none

/-- The first required environment that is not known. -/
def IsFirstUnknown (b : Bundle) (context : Context) (name : String) : Prop :=
  ∃ profiles before after, context.profiles = some profiles ∧
    b.environments = before ++ name :: after ∧
    (∀ e ∈ before, (profiles.get? e).isSome) ∧ profiles.get? name = none

/-! ### Locating -/

theorem locate_eq_error_iff {b : Bundle} {base : String} {a : BundleArtifact} :
    (∃ fault, locate b base a = .error fault) ↔ b.IsMislocated base a := by
  rw [locate, IsMislocated]
  cases a.uri with
  | none => simp
  | some uri =>
    cases h : Artifact.locate b.revision base uri (b.kindOf a) with
    | error fault => simp [Except.map, h]
    | ok artifact => simp [Except.map, h]

theorem located_eq_error_iff {b : Bundle} {context : Context} :
    (∃ fault, located b context.base = .error fault) ↔ b.HasMislocated context := by
  rw [HasMislocated]
  cases context.base with
  | none => simp [located]
  | some base =>
    simp only [located, Option.some.injEq, exists_eq_left', ← locate_eq_error_iff]
    constructor
    · rintro ⟨fault, h⟩
      cases hrun : b.artifacts.mapM (locate b base) with
      | error fault' =>
        obtain ⟨before, a, after, hsplit, -, ha⟩ := first_of_mapM_eq_error hrun
        exact ⟨a, hsplit ▸ List.mem_append_right before List.mem_cons_self, fault', ha⟩
      | ok found =>
        rw [hrun, map_ok] at h
        cases h
    · rintro ⟨a, ha, fault, h⟩
      obtain ⟨_, -, fault', -, hrun⟩ := exists_mapM_eq_error ha h
      exact ⟨fault', by rw [hrun]; rfl⟩

/-! ### Environments -/

theorem packagesIn_eq_error_iff {profiles : Profiles} {name : String} {fault : ConversionFault} :
    packagesIn profiles name = .error fault ↔
      profiles.get? name = none ∧ fault = .unknownEnvironment name := by
  rw [packagesIn]
  cases profiles.get? name with
  | none => simp [eq_comm]
  | some packages => simp

theorem packagesIn_eq_ok_iff {profiles : Profiles} {name : String} {packages : NameSet} :
    packagesIn profiles name = .ok packages ↔ profiles.get? name = some packages := by
  rw [packagesIn]
  cases profiles.get? name with
  | none => simp
  | some found => simp

theorem isFirstUnknown_of_error {b : Bundle} {context : Context} {fault : ConversionFault}
    (h : provided b context.profiles = .error fault) :
    ∃ name, fault = .unknownEnvironment name ∧ b.IsFirstUnknown context name := by
  cases hprofiles : context.profiles with
  | none =>
    rw [hprofiles] at h
    exact absurd h nofun
  | some profiles =>
    rw [hprofiles] at h
    obtain ⟨before, name, after, hsplit, hbefore, hname⟩ := first_of_mapM_eq_error h
    obtain ⟨hget, rfl⟩ := packagesIn_eq_error_iff.mp hname
    refine ⟨name, rfl, profiles, before, after, hprofiles, hsplit, ?_, hget⟩
    intro e he
    obtain ⟨packages, hpackages⟩ := hbefore e he
    rw [packagesIn_eq_ok_iff.mp hpackages, Option.isSome_some]

theorem IsFirstUnknown.hasUnknown {b : Bundle} {context : Context} {name : String}
    (h : b.IsFirstUnknown context name) : b.HasUnknown context := by
  obtain ⟨profiles, before, after, hprofiles, hsplit, -, hname⟩ := h
  exact ⟨profiles, hprofiles, name, hsplit ▸ List.mem_append_right before List.mem_cons_self, hname⟩

theorem provided_eq_error_iff {b : Bundle} {context : Context} :
    (∃ fault, provided b context.profiles = .error fault) ↔ b.HasUnknown context := by
  constructor
  · rintro ⟨fault, h⟩
    obtain ⟨name, -, hfirst⟩ := isFirstUnknown_of_error h
    exact hfirst.hasUnknown
  · rintro ⟨profiles, hprofiles, name, hname, hget⟩
    have hfails : packagesIn profiles name = .error (.unknownEnvironment name) :=
      packagesIn_eq_error_iff.mpr ⟨hget, rfl⟩
    obtain ⟨_, -, fault, -, hrun⟩ := exists_mapM_eq_error hname hfails
    exact ⟨fault, by rw [hprofiles]; exact hrun⟩

/-! ### Completing -/

theorem complete_of_mislocated {context : Context} {b : Bundle} {fault : LocationFault}
    (h : located b context.base = .error fault) (d : ModuleDescriptor) :
    complete context b d = .error (.location fault) := by
  rw [complete_eq, h]
  rfl

theorem complete_of_located {context : Context} {b : Bundle} {as : List (Artifact String)}
    (h : located b context.base = .ok as) (d : ModuleDescriptor) :
    complete context b d =
      (provided b context.profiles).map
        (assembled context (addRequirements b (b.exports.foldl addExport d)) as) := by
  rw [complete_eq, h]
  cases provided b context.profiles <;> rfl

/-! ### The date -/

def published (d : ModuleDescriptor) (date : Moment) : ModuleDescriptor :=
  { d with publicationDate := some date }

theorem addExport_published (d : ModuleDescriptor) (date : Moment) (e : Export) :
    addExport (published d date) e = published (addExport d e) date := by
  rw [addExport, addExport, Descriptor.ensureConfiguration_eq, Descriptor.ensureConfiguration_eq]
  rfl

theorem addRequirement_published (d : ModuleDescriptor) (date : Moment) (r : Requirement) :
    addRequirement (published d date) r = published (addRequirement d r) date := by
  rw [addRequirement, addRequirement, Descriptor.ensureConfiguration_eq,
    Descriptor.ensureConfiguration_eq]
  cases r.isPackage <;> rfl

theorem addRequirements_published (b : Bundle) (d : ModuleDescriptor) (date : Moment) :
    addRequirements b (b.exports.foldl addExport (published d date)) =
      published (addRequirements b (b.exports.foldl addExport d)) date := by
  rw [addRequirements, addRequirements,
    List.foldl_hom (published · date) fun d e => addExport_published d date e,
    List.foldl_hom (published · date) fun d r => addRequirement_published d date r]

theorem addAll_published (d : ModuleDescriptor) (date : Moment) (name : String)
    (as : List (Artifact String)) :
    (published d date).addAll name as = published (d.addAll name as) date :=
  List.foldl_hom (published · date) fun _ _ => rfl

/-- The date makes no difference to anything else. -/
theorem complete_published (context : Context) (b : Bundle) (d : ModuleDescriptor)
    (date : Moment) :
    complete context b (published d date) = (complete context b d).map (published · date) := by
  cases hlocated : located b context.base with
  | error fault =>
    rw [complete_of_mislocated hlocated, complete_of_mislocated hlocated]
    rfl
  | ok as =>
    rw [complete_of_located hlocated, complete_of_located hlocated, addRequirements_published]
    cases provided b context.profiles with
    | error fault => rfl
    | ok packages =>
      refine congrArg Except.ok ?_
      rw [assembled, assembled, addAll_published]
      rfl

/-! ### The configurations of every bundle -/

theorem register_baseConfigurations (now : Moment) (b : Bundle) :
    baseConfigurations.foldlM Descriptor.addConfiguration (emptyDescriptor now b) =
      .ok (baseDescriptor now b) := rfl

theorem convert_eq (now : Moment) (context : Context) (b : Bundle) :
    convert now context b = .ok (.ofOutcome (Descriptor.ofBundle now context b)) := by
  rw [convert, register_baseConfigurations]
  rfl

/-- No package takes the name of one of these configurations. -/
theorem addConfiguration_base {now : Moment} {context : Context} {b : Bundle}
    {md : ModuleDescriptor} (h : Descriptor.ofBundle now context b = .ok md)
    {c : Configuration String Bool} (hc : c ∈ baseConfigurations) :
    md.addConfiguration c = .ok md := by
  have hregistered : md.configuration? c.name = some c :=
    configuration?_ofBundle h (mem_configurations_outline.mpr (.inl hc))
  rw [Descriptor.addConfiguration, hregistered]
  exact if_pos (beq_self_eq_true c)

/-! ### Ends -/

theorem ofBundle_published {now : Moment} {context : Context} {b : Bundle} {md : ModuleDescriptor}
    (h : Descriptor.ofBundle now context b = .ok md) (later : Moment) :
    Descriptor.ofBundle later context b = .ok (published md later) := by
  have hbase : baseDescriptor later b = published (baseDescriptor now b) later := rfl
  rw [Descriptor.ofBundle] at h ⊢
  rw [hbase, complete_published, h]
  rfl

/-- The three ways in which a conversion can end, each with what leads to it. -/
theorem ofBundle_cases (now : Moment) (context : Context) (b : Bundle) :
    (b.HasMislocated context ∧
      ∃ fault, Descriptor.ofBundle now context b = .error (.location fault)) ∨
    (¬b.HasMislocated context ∧ ∃ name, b.IsFirstUnknown context name ∧
      Descriptor.ofBundle now context b = .error (.unknownEnvironment name)) ∨
    (¬b.HasMislocated context ∧ ¬b.HasUnknown context ∧
      ∃ md, Descriptor.ofBundle now context b = .ok md) := by
  cases hlocated : located b context.base with
  | error fault =>
    exact .inl ⟨located_eq_error_iff.mp ⟨fault, hlocated⟩, fault,
      complete_of_mislocated hlocated _⟩
  | ok as =>
    have hall : ¬b.HasMislocated context := by
      intro h
      obtain ⟨fault, hfault⟩ := located_eq_error_iff.mpr h
      exact absurd (hlocated.symm.trans hfault) nofun
    have hrun := complete_of_located hlocated (baseDescriptor now b)
    cases hprovided : provided b context.profiles with
    | error fault =>
      obtain ⟨name, rfl, hfirst⟩ := isFirstUnknown_of_error hprovided
      rw [hprovided] at hrun
      exact .inr (.inl ⟨hall, name, hfirst, hrun⟩)
    | ok packages =>
      have hknown : ¬b.HasUnknown context := by
        intro h
        obtain ⟨fault, hfault⟩ := provided_eq_error_iff.mpr h
        exact absurd (hprovided.symm.trans hfault) nofun
      rw [hprovided] at hrun
      exact .inr (.inr ⟨hall, hknown, _, hrun⟩)

/-- Where an environment is required that is not known, there is no descriptor. -/
theorem ofBundle_of_hasUnknown {context : Context} {b : Bundle} (h : b.HasUnknown context)
    (now : Moment) : ∃ fault, Descriptor.ofBundle now context b = .error fault := by
  rcases ofBundle_cases now context b with ⟨-, fault, hrun⟩ | ⟨-, name, -, hrun⟩ | ⟨-, hknown, -⟩
  · exact ⟨_, hrun⟩
  · exact ⟨_, hrun⟩
  · exact absurd h hknown

/-- A conversion always ends: as malformed exactly if an artifact cannot be located; otherwise for
an unknown environment exactly if one is required, and then it names the first; and otherwise with a
descriptor, which but for its date is that of the bundle at any time, and in which the
configurations of every bundle have kept their names. -/
theorem convert_ends (now : Moment) (context : Context) (b : Bundle) :
    ∃ c, convert now context b = .ok c ∧
      (c.status = .malformedLocation ↔ b.HasMislocated context) ∧
      (c.status = .unknownEnvironment ↔ ¬b.HasMislocated context ∧ b.HasUnknown context) ∧
      (c.status = .converted ↔ ¬b.HasMislocated context ∧ ¬b.HasUnknown context) ∧
      (c.status = .unknownEnvironment → ∃ name, b.IsFirstUnknown context name ∧
        c.error = "Execution environment profile " ++ name ++ " not found") ∧
      (c.descriptor.isSome ↔ c.status = .converted) ∧
      ∀ d, c.descriptor = some d →
        (∀ later, Descriptor.ofBundle later context b = .ok (published d later)) ∧
        ∀ registered ∈ baseConfigurations, d.addConfiguration registered = .ok d := by
  refine ⟨_, convert_eq now context b, ?_⟩
  rcases ofBundle_cases now context b with
    ⟨hmislocated, fault, hrun⟩ | ⟨hall, name, hfirst, hrun⟩ | ⟨hall, hknown, md, hrun⟩
  · simp [hrun, Conversion.ofOutcome, ConversionFault.status, hmislocated]
  · have hunknown := hfirst.hasUnknown
    simp only [hrun, Conversion.ofOutcome, ConversionFault.status, hall, hunknown]
    refine ⟨by simp, by simp, by simp, fun _ => ⟨name, hfirst, rfl⟩, by simp, nofun⟩
  · simp only [hrun, Conversion.ofOutcome, hall, hknown]
    refine ⟨by simp, by simp, by simp, nofun, by simp, ?_⟩
    intro d hd
    obtain rfl := Option.some.inj hd
    exact ⟨ofBundle_published hrun, fun c hc => addConfiguration_base hrun hc⟩

end OsgiIvy.Bundle
