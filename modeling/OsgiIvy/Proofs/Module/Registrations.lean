import Mathlib.Data.List.Induction
import OsgiIvy.Proofs.Module.Edited

/-!
# Registrations

Two kinds of edits put configurations forward, and no other edit touches the configurations.  What a
descriptor has registered after any edits is decided by the configurations that were put forward:
each name has the first one of that name, for good (`configurations_edits`).
-/

namespace OsgiIvy.Descriptor

open OsgiIvy.Time (Moment)

variable {d : ModuleDescriptor} {c c' : Configuration String Bool}

/-- The configuration that an edit puts forward. -/
def Edit.putForward? : Edit String Bool → Option (Configuration String Bool)
  | .addConfiguration c => some c
  | .ensureConfiguration c => some c
  | _ => none

/-- The configurations that edits put forward, in order. -/
def putForward (es : List (Edit String Bool)) : List (Configuration String Bool) :=
  es.filterMap Edit.putForward?

/-! ### Clashes -/

theorem addConfiguration_eq_error_iff {clash : Clash String} :
    d.addConfiguration c = .error clash ↔
      (∃ registered, d.configuration? c.name = some registered ∧ registered ≠ c) ∧
        clash = ⟨c.name, d.revision⟩ := by
  rw [addConfiguration]
  cases d.configuration? c.name with
  | none => simp
  | some registered =>
    by_cases h : registered = c
    · simp [h]
    · have hbeq : (registered == c) = false := beq_eq_false_iff_ne.mpr h
      simp only [hbeq, Bool.false_eq_true, if_false, Except.error.injEq, Option.some.injEq,
        exists_eq_left', ne_eq, h, not_false_eq_true, true_and]
      exact eq_comm

theorem clashes_iff : (∃ clash, d.edit (.addConfiguration c) = .error clash) ↔
    ∃ registered, d.configuration? c.name = some registered ∧ registered ≠ c := by
  constructor
  · rintro ⟨clash, h⟩
    exact (addConfiguration_eq_error_iff.mp h).1
  · intro h
    exact ⟨_, addConfiguration_eq_error_iff.mpr ⟨h, rfl⟩⟩

/-! ### Edits -/

theorem edits_cons (d : ModuleDescriptor) (e : Edit String Bool) (es : List (Edit String Bool)) :
    d.edits (e :: es) = (d.edits [e]).edits es := rfl

/-- A clash leaves no trace. -/
theorem edits_of_error {e : Edit String Bool} {clash : Clash String} (h : d.edit e = .error clash)
    (later : List (Edit String Bool)) : d.edits (e :: later) = d.edits later := by
  have hkept : d.edits [e] = d := by
    rw [edits, List.foldl_cons, h]
    rfl
  rw [edits_cons, hkept]

theorem edits_of_ok {e : Edit String Bool} {changed : ModuleDescriptor}
    (h : d.edit e = .ok changed) : d.edits [e] = changed := by
  rw [edits, List.foldl_cons, h]
  rfl

/-- To add a configuration is to ensure it: if they clash, its name is taken. -/
theorem edits_addConfiguration (d : ModuleDescriptor) (c : Configuration String Bool) :
    d.edits [.addConfiguration c] = d.ensureConfiguration c := by
  cases h : d.edit (.addConfiguration c) with
  | error clash =>
    obtain ⟨⟨registered, htaken, -⟩, -⟩ := addConfiguration_eq_error_iff.mp h
    rw [edits_of_error h, ensureConfiguration, if_pos (Option.isSome_of_mem htaken)]
    rfl
  | ok changed => rw [edits_of_ok h, (addConfiguration_eq_ok_iff.mp h).2]

/-- A part of the descriptor that every edit changes by what it tells, if anything. -/
theorem edits_foldl {β γ : Type} {part : ModuleDescriptor → β}
    {told? : Edit String Bool → Option γ} {step : β → γ → β}
    (h : ∀ d e, part (d.edits [e]) = (told? e).toList.foldl step (part d)) (d : ModuleDescriptor)
    (es : List (Edit String Bool)) :
    part (d.edits es) = (es.filterMap told?).foldl step (part d) := by
  induction es generalizing d with
  | nil => rfl
  | cons e es ih =>
    rw [edits_cons, ih, h, ← List.foldl_append]
    refine congrArg (List.foldl step (part d)) ?_
    cases htold : told? e with
    | none => simp [htold]
    | some told => simp [htold]

/-- One edit registers what it puts forward, unless the name is taken. -/
theorem configurations_edit (d : ModuleDescriptor) (e : Edit String Bool) :
    (d.edits [e]).configurations =
      e.putForward?.toList.foldl Configuration.registered d.configurations := by
  cases e with
  | addConfiguration c =>
    rw [edits_addConfiguration, ensureConfiguration_eq]
    rfl
  | ensureConfiguration c =>
    rw [edits_of_ok rfl, ensureConfiguration_eq]
    rfl
  | _ => rfl

theorem configurations_edits_eq (d : ModuleDescriptor) (es : List (Edit String Bool)) :
    (d.edits es).configurations =
      (putForward es).foldl Configuration.registered d.configurations :=
  edits_foldl configurations_edit d es

theorem configuration?_edits (d : ModuleDescriptor) (es : List (Edit String Bool))
    (name : String) : (d.edits es).configuration? name =
      (d.configurations ++ putForward es).find? (·.name == name) := by
  rw [configuration?, configurations_edits_eq, Configuration.find?_foldl_registered]

/-- A name keeps its configuration. -/
theorem configuration?_edits_of_some {name : String} (h : d.configuration? name = some c)
    (es : List (Edit String Bool)) : (d.edits es).configuration? name = some c := by
  have hfirst : d.configurations.find? (·.name == name) = some c := h
  rw [configuration?_edits, List.find?_append, hfirst, Option.some_or]

theorem ensured_of_some (h : d.configuration? c.name = some c') : d.ensured c = c' := by
  rw [ensured, h, Option.getD_some]

theorem configuration?_ensureConfiguration (d : ModuleDescriptor) (c : Configuration String Bool) :
    (d.edits [.ensureConfiguration c]).configuration? c.name = some (d.ensured c) := by
  rw [configuration?_edits, List.find?_append]
  cases h : d.configurations.find? (·.name == c.name) with
  | some registered =>
    have hregistered : d.configuration? c.name = some registered := h
    rw [ensured, hregistered, Option.some_or, Option.getD_some]
  | none =>
    have hnone : d.configuration? c.name = none := h
    rw [ensured, hnone, Option.none_or, Option.getD_none]
    simp [putForward, Edit.putForward?]

/-! ### New descriptors -/

theorem configurationNames_edits_fresh (revision : RevisionId String) (status : String)
    (date : Option Moment) (es : List (Edit String Bool)) :
    ((fresh revision status date).edits es).configurationNames =
      distinct ((putForward es).map Configuration.name) := by
  rw [configurationNames, configurations_edits_eq, Configuration.names_foldl_registered]
  rfl

/-- Whatever edits have been made of a new descriptor, its names are distinct and stand in the order
in which they were first put forward, and each has the configuration that was put forward first,
which no further edits change.  Adding a configuration clashes exactly if its name has another one,
and then leaves no trace; ensuring one gives what is registered. -/
theorem configurations_edits (revision : RevisionId String) (status : String)
    (date : Option Moment) (es : List (Edit String Bool)) :
    let d := (fresh revision status date).edits es
    (d.configurationNames.Nodup ∧
      d.configurationNames = distinct ((putForward es).map Configuration.name)) ∧
    (∀ name, d.configuration? name = (putForward es).find? (·.name == name)) ∧
    (∀ name c, d.configuration? name = some c →
      ∀ later, (d.edits later).configuration? name = some c) ∧
    (∀ c, (∃ clash, d.edit (.addConfiguration c) = .error clash) ↔
      ∃ registered, d.configuration? c.name = some registered ∧ registered ≠ c) ∧
    (∀ c clash, d.edit (.addConfiguration c) = .error clash →
      ∀ later, d.edits (.addConfiguration c :: later) = d.edits later) ∧
    ∀ c, (d.edits [.ensureConfiguration c]).configuration? c.name = some (d.ensured c) ∧
      ∀ registered, d.configuration? c.name = some registered → d.ensured c = registered := by
  intro d
  have hnames := configurationNames_edits_fresh revision status date es
  refine ⟨⟨?_, hnames⟩, ?_, ?_, fun c => clashes_iff, fun c clash h => edits_of_error h, ?_⟩
  · rw [hnames]
    exact nodup_distinct _
  · intro name
    exact configuration?_edits (fresh revision status date) es name
  · intro name c h later
    exact configuration?_edits_of_some h later
  · intro c
    exact ⟨configuration?_ensureConfiguration d c, fun registered h => ensured_of_some h⟩

end OsgiIvy.Descriptor
