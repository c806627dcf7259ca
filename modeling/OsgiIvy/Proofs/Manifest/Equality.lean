import OsgiIvy.Proofs.Grouping
import OsgiIvy.Proofs.Manifest.Steps

/-!
# Equal clauses

Clauses are equal if they have as many values and the same ones, and the same argument under each
name (`beq_iff_alike`).  What is built does not depend on the order of the steps, as long as those
that set one name keep theirs (`ofSteps_rearranged`).
-/

namespace OsgiIvy.Manifest.Clause

variable {e f g : Clause} {ss ts : List Step}

/-! ### Equality -/

/-- As many values, the same ones though some may stand oftener, and the same arguments. -/
structure Alike (e f : Clause) : Prop where
  count : e.values.length = f.values.length
  values : ∀ text, text ∈ e.values ↔ text ∈ f.values
  attributes : ∀ name, e.attributes.get? name = f.attributes.get? name
  directives : ∀ name, e.directives.get? name = f.directives.get? name

theorem Alike.refl (e : Clause) : Alike e e :=
  ⟨rfl, fun _ => Iff.rfl, fun _ => rfl, fun _ => rfl⟩

theorem Alike.symm (h : Alike e f) : Alike f e where
  count := h.count.symm
  values text := (h.values text).symm
  attributes name := (h.attributes name).symm
  directives name := (h.directives name).symm

theorem Alike.trans (h : Alike e f) (h' : Alike f g) : Alike e g where
  count := h.count.trans h'.count
  values text := (h.values text).trans (h'.values text)
  attributes name := (h.attributes name).trans (h'.attributes name)
  directives name := (h.directives name).trans (h'.directives name)

theorem beq_iff_alike (he : e.HasMappings) (hf : f.HasMappings) : (e == f) = true ↔ Alike e f := by
  show e.same f = true ↔ _
  have hvalues : (∀ text ∈ e.values, text ∈ f.values) ∧ (∀ text ∈ f.values, text ∈ e.values) ↔
      ∀ text, text ∈ e.values ↔ text ∈ f.values := by
    simp only [iff_def, forall_and]
  simp only [same, Bool.and_eq_true, decide_eq_true_eq, List.all_eq_true, List.contains_iff_mem,
    he.1.same_iff_get? hf.1, he.2.same_iff_get? hf.2, and_assoc]
  constructor
  · rintro ⟨hcount, hinto, honto, hdirectives, hattributes⟩
    exact ⟨hcount, hvalues.mp ⟨hinto, honto⟩, hattributes, hdirectives⟩
  · intro h
    obtain ⟨hinto, honto⟩ := hvalues.mpr h.values
    exact ⟨h.count, hinto, honto, h.directives, h.attributes⟩

theorem equivalence_beq :
    Equivalence fun e f : { e : Clause // e.HasMappings } => (e.1 == f.1) = true where
  refl e := (beq_iff_alike e.2 e.2).mpr (Alike.refl e.1)
  symm {e f} h := (beq_iff_alike f.2 e.2).mpr ((beq_iff_alike e.2 f.2).mp h).symm
  trans {e f g} h h' := (beq_iff_alike e.2 g.2).mpr
    (((beq_iff_alike e.2 f.2).mp h).trans ((beq_iff_alike f.2 g.2).mp h'))

/-! ### The order of the steps -/

def Step.setsAttribute (name : String) : Step → Bool
  | .attribute other _ => other == name
  | _ => false

def Step.setsDirective (name : String) : Step → Bool
  | .directive other _ => other == name
  | _ => false

/-- The steps in another order, in which those that set one attribute, or one directive, stand as
they did. -/
structure Rearranges (ss ts : List Step) : Prop where
  perm : ss.Perm ts
  attributes : ∀ name, ss.filter (Step.setsAttribute name) = ts.filter (Step.setsAttribute name)
  directives : ∀ name, ss.filter (Step.setsDirective name) = ts.filter (Step.setsDirective name)

/-- What is set under a name is told by the steps that set it. -/
theorem rowsOf_filterMap {set? : Step → Option (String × String)} {sets : String → Step → Bool}
    (h : ∀ name s, sets name s = (set? s).any (·.1 == name)) (ss : List Step) (name : String) :
    rowsOf (ss.filterMap set?) name =
      ((ss.filter (sets name)).filterMap set?).map Prod.snd := by
  unfold rowsOf
  refine congrArg (List.map Prod.snd) ?_
  induction ss with
  | nil => rfl
  | cons s ss ih =>
    rw [List.filterMap_cons, List.filter_cons, h name s]
    cases hset : set? s with
    | none => simpa [hset] using ih
    | some p =>
      cases hname : p.1 == name with
      | true => simp [hset, hname, ih]
      | false => simp [hname, ih]

theorem setsAttribute_eq (name : String) (s : Step) :
    s.setsAttribute name = s.attribute?.any (·.1 == name) := by
  cases s <;> rfl

theorem setsDirective_eq (name : String) (s : Step) :
    s.setsDirective name = s.directive?.any (·.1 == name) := by
  cases s <;> rfl

theorem ofSteps_eq (ss : List Step) : ofSteps ss = ⟨ss.filterMap Step.value?,
    .ofList (ss.filterMap Step.attribute?), .ofList (ss.filterMap Step.directive?)⟩ :=
  foldl_add empty ss

theorem Rearranges.alike (h : Rearranges ss ts) : Alike (ofSteps ss) (ofSteps ts) := by
  have hvalues : (ss.filterMap Step.value?).Perm (ts.filterMap Step.value?) :=
    h.perm.filterMap Step.value?
  rw [ofSteps_eq, ofSteps_eq]
  refine ⟨hvalues.length_eq, fun _ => hvalues.mem_iff, fun name => ?_, fun name => ?_⟩
  · rw [Assoc.get?_ofList, Assoc.get?_ofList, rowsOf_filterMap setsAttribute_eq,
      rowsOf_filterMap setsAttribute_eq, h.attributes name]
  · rw [Assoc.get?_ofList, Assoc.get?_ofList, rowsOf_filterMap setsDirective_eq,
      rowsOf_filterMap setsDirective_eq, h.directives name]

/-- Clauses are equal whose steps are the same, those that set one name in the same order.  Equality
is an equivalence on all clauses that can be built, and says that they are alike. -/
theorem ofSteps_rearranged :
    (∀ {ss ts : List Step}, Rearranges ss ts → (ofSteps ss == ofSteps ts) = true) ∧
      (Equivalence fun e f : { e : Clause // e.HasMappings } => (e.1 == f.1) = true) ∧
      ∀ {e f : Clause}, e.HasMappings → f.HasMappings → ((e == f) = true ↔ Alike e f) := by
  refine ⟨?_, equivalence_beq, beq_iff_alike⟩
  intro ss ts h
  have hbuilt (ss : List Step) : (ofSteps ss).HasMappings := exists_ofSteps_eq_iff.mp ⟨ss, rfl⟩
  exact (beq_iff_alike (hbuilt ss) (hbuilt ts)).mpr h.alike

/-- An attribute that is set again, a directive of the same name, and a value that stands twice. -/
def repeating : List Step :=
  [.value "a", .attribute "v" "1", .directive "v" "x", .value "b", .attribute "v" "2", .value "a"]

def repeatingLater : List Step :=
  [.directive "v" "x", .value "b", .value "a", .attribute "v" "1", .value "a", .attribute "v" "2"]

theorem ofSteps_rearranged_repeating :
    Rearranges repeating repeatingLater ∧ (ofSteps repeating == ofSteps repeatingLater) = true ∧
      HasMappings ⟨["a", "b", "b"], ⟨[("v", "2")]⟩, ⟨[("v", "x")]⟩⟩ ∧
      Alike ⟨["a", "b", "b"], ⟨[("v", "2")]⟩, ⟨[("v", "x")]⟩⟩ (ofSteps repeating) := by
  have hrearranged : Rearranges repeating repeatingLater := by
    refine ⟨by decide, fun name => ?_, fun name => ?_⟩
    · simp [repeating, repeatingLater, Step.setsAttribute, List.filter_cons]
    · simp [repeating, repeatingLater, Step.setsDirective, List.filter_cons]
  have hbuilt : (ofSteps repeating).HasMappings := ⟨by decide, by decide⟩
  have hother : HasMappings ⟨["a", "b", "b"], ⟨[("v", "2")]⟩, ⟨[("v", "x")]⟩⟩ :=
    ⟨by decide, by decide⟩
  exact ⟨hrearranged, ofSteps_rearranged.1 hrearranged, hother,
    (ofSteps_rearranged.2.2 hother hbuilt).mp (by decide)⟩

end OsgiIvy.Manifest.Clause
