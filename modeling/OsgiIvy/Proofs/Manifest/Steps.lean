import OsgiIvy.Proofs.Manifest.Parts
import OsgiIvy.Proofs.Mappings
import OsgiIvy.Proofs.Outcomes

/-!
# Clauses and their steps

Reading a clause gives what the steps of its parts build, and refuses a value behind a parameter
(`addParts_eq_ok_iff`).  The steps of a clause build the clause again (`foldl_add_steps`), so that
parts that say these steps are read as the clause (`addParts_text_steps`).
-/

namespace OsgiIvy.Manifest.Clause

open OsgiIvy.Text

/-- The steps that build the clause, in the order in which they are written. -/
def steps (e : Clause) : List Step :=
  e.values.map .value ++ (e.directives.entries.map (fun d => .directive d.1 d.2) ++
    e.attributes.entries.map fun a => .attribute a.1 a.2)

variable {clause : List Char} {e f : Clause} {s : Step} {ss : List Step}

theorem steps_eq_nil_iff : e.steps = [] ↔ e.values = [] ∧ e.hasParameters = false := by
  simp [steps, hasParameters, Assoc.isEmpty, and_comm]

/-! ### Building -/

/-- Each attribute and each directive of the clause has one argument. -/
def HasMappings (e : Clause) : Prop := e.attributes.IsMapping ∧ e.directives.IsMapping

theorem mem_steps_add {t : Step} (h : t ∈ (e.add s).steps) : t ∈ e.steps ∨ t = s := by
  simp only [steps, List.mem_append, List.mem_map] at h ⊢
  match s with
  | .value text =>
    rcases h with ⟨text', htext, rfl⟩ | hparameter
    · rcases List.mem_append.mp htext with hold | hnew
      · exact .inl (.inl ⟨text', hold, rfl⟩)
      · exact .inr (congrArg Step.value (List.mem_singleton.mp hnew))
    · exact .inl (.inr hparameter)
  | .attribute name argument =>
    rcases h with hvalue | hdirective | ⟨a, ha, rfl⟩
    · exact .inl (.inl hvalue)
    · exact .inl (.inr (.inl hdirective))
    · rcases Assoc.mem_entries_put ha with hold | rfl
      · exact .inl (.inr (.inr ⟨a, hold, rfl⟩))
      · exact .inr rfl
  | .directive name argument =>
    rcases h with hvalue | ⟨d, hd, rfl⟩ | hattribute
    · exact .inl (.inl hvalue)
    · rcases Assoc.mem_entries_put hd with hold | rfl
      · exact .inl (.inr (.inl ⟨d, hold, rfl⟩))
      · exact .inr rfl
    · exact .inl (.inr (.inr hattribute))

theorem mem_steps_foldl_add {t : Step} (h : t ∈ (ss.foldl add e).steps) :
    t ∈ e.steps ∨ t ∈ ss := by
  induction ss generalizing e with
  | nil => exact .inl h
  | cons s ss ih =>
    rcases ih h with hbuilt | hlater
    · rcases mem_steps_add hbuilt with hold | rfl
      · exact .inl hold
      · exact .inr List.mem_cons_self
    · exact .inr (List.mem_cons_of_mem s hlater)

/-! ### What steps add -/

def Step.value? : Step → Option String
  | .value text => some text
  | _ => none

def Step.attribute? : Step → Option (String × String)
  | .attribute name argument => some (name, argument)
  | _ => none

def Step.directive? : Step → Option (String × String)
  | .directive name argument => some (name, argument)
  | _ => none

/-- Steps build the values, the attributes and the directives each on their own. -/
theorem foldl_add (e : Clause) (ss : List Step) : ss.foldl add e =
    ⟨e.values ++ ss.filterMap Step.value?, e.attributes.putAll (ss.filterMap Step.attribute?),
      e.directives.putAll (ss.filterMap Step.directive?)⟩ := by
  induction ss generalizing e with
  | nil => simp [Assoc.putAll]
  | cons s ss ih =>
    rw [List.foldl_cons, ih]
    rcases s with text | ⟨name, argument⟩ | ⟨name, argument⟩
    · simp [add, List.filterMap_cons, Step.value?, Step.attribute?, Step.directive?]
    · rfl
    · rfl

theorem foldl_add_steps (h : e.HasMappings) : e.steps.foldl add empty = e := by
  have hvalues : e.steps.filterMap Step.value? = e.values := by
    simp [steps, List.filterMap_map, Function.comp_def, Step.value?]
  have hattributes : e.steps.filterMap Step.attribute? = e.attributes.entries := by
    simp [steps, List.filterMap_map, Function.comp_def, Step.attribute?]
  have hdirectives : e.steps.filterMap Step.directive? = e.directives.entries := by
    simp [steps, List.filterMap_map, Function.comp_def, Step.directive?]
  rw [foldl_add, hvalues, hattributes, hdirectives]
  exact congrArg₂ (Clause.mk e.values) h.1.ofList_entries h.2.ofList_entries

/-- The clauses that steps build are those with one argument for each name. -/
theorem exists_ofSteps_eq_iff : (∃ ss, ofSteps ss = e) ↔ e.HasMappings := by
  constructor
  · rintro ⟨ss, rfl⟩
    rw [ofSteps, foldl_add]
    exact ⟨Assoc.isMapping_ofList _, Assoc.isMapping_ofList _⟩
  · exact fun h => ⟨e.steps, foldl_add_steps h⟩

/-! ### Reading -/

theorem hasParameters_add :
    (e.add s).hasParameters = true ↔ e.hasParameters = true ∨ s.isValue = false := by
  match s with
  | .value _ => simp [add, hasParameters, Step.isValue]
  | .attribute name argument => simp [add, hasParameters, Step.isValue, Assoc.isEmpty_put]
  | .directive name argument => simp [add, hasParameters, Step.isValue, Assoc.isEmpty_put]

/-- Parts are accepted exactly when each of them says a step and no value stands behind a
parameter. -/
theorem addParts_eq_ok_iff {ps : List (List Char)} : addParts clause e ps = .ok f ↔
    ∃ ss, List.Forall₂ Reads ps ss ∧ (ss.Pairwise fun s t => t.isValue = true → s.isValue = true) ∧
      (e.hasParameters = true → ∀ s ∈ ss, s.isValue = false) ∧ ss.foldl add e = f := by
  induction ps generalizing e with
  | nil => simp [addParts]
  | cons part ps ih =>
    rw [addParts]
    constructor
    · intro h
      split at h
      · next s hstep =>
        obtain ⟨hread, hfirst⟩ := stepOf_eq_ok_iff.mp hstep
        obtain ⟨ss, hreads, horder, hlate, hbuild⟩ := ih.mp h
        refine ⟨s :: ss, .cons hread hreads, List.pairwise_cons.mpr ⟨?_, horder⟩, ?_, hbuild⟩
        · intro t ht hvalue
          by_contra hparameter
          have hparams : (e.add s).hasParameters = true :=
            hasParameters_add.mpr (.inr (by simpa using hparameter))
          exact absurd hvalue (by simp [hlate hparams t ht])
        · intro hparams
          have hnext : (e.add s).hasParameters = true := hasParameters_add.mpr (.inl hparams)
          exact List.forall_mem_cons.mpr ⟨hfirst hparams, hlate hnext⟩
      · exact absurd h nofun
    · rintro ⟨_, hreads, horder, hlate, hbuild⟩
      obtain ⟨s, ss, hread, hrest, rfl⟩ := List.forall₂_cons_left_iff.mp hreads
      obtain ⟨hfirst, hordered⟩ := List.pairwise_cons.mp horder
      have hstep : stepOf clause e.hasParameters part = .ok s :=
        stepOf_eq_ok_iff.mpr ⟨hread, fun hparams => hlate hparams s List.mem_cons_self⟩
      rw [hstep]
      refine ih.mpr ⟨ss, hrest, hordered, fun hparams t ht => ?_, hbuild⟩
      rcases hasParameters_add.mp hparams with hbefore | hparameter
      · exact hlate hbefore t (List.mem_cons_of_mem s ht)
      · by_contra hvalue
        exact absurd (hfirst t ht (by simpa using hvalue)) (by simp [hparameter])

theorem addParts_reads {ps : List (List Char)} (h : addParts clause e ps = .ok f) :
    ∃ ss : List Step, ss.foldl add e = f ∧ ∀ s ∈ ss, ∃ part ∈ ps, Reads part s := by
  obtain ⟨ss, hreads, -, -, hbuild⟩ := addParts_eq_ok_iff.mp h
  exact ⟨ss, hbuild, fun s hs => exists_of_mem_forall₂ hreads hs⟩

/-- Parts that say the steps, in whatever spelling, are accepted, with the values first. -/
theorem addParts_map {spelling : Step → List Char} (hreads : ∀ s ∈ ss, Reads (spelling s) s)
    (horder : ss.Pairwise fun s t => t.isValue = true → s.isValue = true)
    (hlate : e.hasParameters = true → ∀ s ∈ ss, s.isValue = false) :
    addParts clause e (ss.map spelling) = .ok (ss.foldl add e) := by
  have hspelled : List.Forall₂ Reads (ss.map spelling) ss :=
    List.forall₂_map_left_iff.mpr (List.forall₂_same.mpr hreads)
  exact addParts_eq_ok_iff.mpr ⟨ss, hspelled, horder, hlate, rfl⟩

theorem pairwise_steps (e : Clause) :
    e.steps.Pairwise fun s t => t.isValue = true → s.isValue = true := by
  have hparameters : ∀ t ∈ e.directives.entries.map (fun d => Step.directive d.1 d.2) ++
      e.attributes.entries.map (fun a => Step.attribute a.1 a.2), t.isValue = false := by
    intro t ht
    rcases List.mem_append.mp ht with hmem | hmem <;> obtain ⟨_, _, rfl⟩ := List.mem_map.mp hmem <;>
      rfl
  refine List.pairwise_append.mpr ⟨?_, ?_, ?_⟩
  · exact List.pairwise_map.mpr (List.pairwise_of_forall fun _ _ _ => rfl)
  · refine List.pairwise_of_forall_mem_list fun s _ t ht hvalue => ?_
    exact absurd hvalue (by simp [hparameters t ht])
  · intro s _ t ht hvalue
    exact absurd hvalue (by simp [hparameters t ht])

theorem addParts_text_steps (h : e.HasMappings) (hreads : ∀ s ∈ e.steps, Reads s.text s) :
    addParts clause empty (e.steps.map Step.text) = .ok e := by
  have hnone : empty.hasParameters = true → ∀ s ∈ e.steps, s.isValue = false :=
    fun hno => absurd hno (by decide)
  rw [addParts_map hreads (pairwise_steps e) hnone, foldl_add_steps h]

end OsgiIvy.Manifest.Clause
