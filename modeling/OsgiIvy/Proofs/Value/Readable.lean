import OsgiIvy.Proofs.Outcomes
import OsgiIvy.Proofs.Value.Objects

/-!
# Reading values with a text

Only a number of too many digits has no text.  Where there is none in a value, its fields and
elements have texts as well, and reading them as texts does not fail for their content: each reader
yields something with a text, or fails for another reason.
-/

namespace OsgiIvy.Value

/-! ### Steps -/

/-- A step that does not fail for the content of a value, and that gives what has a property. -/
def Yields {α : Type} (x : Except Fault α) (P : α → Prop) : Prop :=
  match x with
  | .ok a => P a
  | .error fault => fault ≠ .badContent

section Steps

variable {α β : Type} {x : Except Fault α} {P : α → Prop} {Q : β → Prop}

theorem Yields.bind {f : α → Except Fault β} (hx : Yields x P) (hf : ∀ a, P a → Yields (f a) Q) :
    Yields (x >>= f) Q := by
  cases x with
  | ok a => exact hf a hx
  | error fault => exact hx

theorem Yields.map {f : α → β} (hx : Yields x P) (hf : ∀ a, P a → Q (f a)) :
    Yields (x.map f) Q := by
  cases x with
  | ok a => exact hf a hx
  | error fault => exact hx

theorem Yields.ne_badContent (hx : Yields x P) : x ≠ .error .badContent := by
  rintro rfl
  exact hx rfl

theorem yields_mapM {step : α → Except Fault β} {as : List α}
    (h : ∀ a ∈ as, Yields (step a) fun _ => True) : Yields (as.mapM step) fun _ => True := by
  cases hrun : as.mapM step with
  | ok bs => trivial
  | error fault =>
    obtain ⟨before, a, after, rfl, -, ha⟩ := first_of_mapM_eq_error hrun
    have hstep := h a (List.mem_append_right before List.mem_cons_self)
    rw [ha] at hstep
    exact hstep

end Steps

/-! ### Parts of values with a text -/

theorem allHaveText_iff (items : List Value) :
    allHaveText items = true ↔ ∀ v ∈ items, v.hasText = true := by
  induction items with
  | nil => simp [allHaveText]
  | cons v rest ih => simp [allHaveText, ih]

theorem entriesHaveText_iff (es : List (Value × Value)) :
    entriesHaveText es = true ↔ ∀ e ∈ es, e.1.hasText = true ∧ e.2.hasText = true := by
  induction es with
  | nil => simp [entriesHaveText]
  | cons e rest ih => simp [entriesHaveText, ih, and_assoc]

theorem exists_mem_of_lookup {es : List (Value × Value)} {key : String} {v : Value}
    (h : lookup es key = some v) : ∃ e ∈ es, e.2 = v := by
  induction es with
  | nil => exact absurd h nofun
  | cons e es ih =>
    rw [lookup, List.lookup_cons] at h
    cases hkey : Value.string key == e.1 with
    | true =>
      rw [hkey] at h
      exact ⟨e, List.mem_cons_self, Option.some.inj h⟩
    | false =>
      rw [hkey] at h
      obtain ⟨f, hf, hv⟩ := ih h
      exact ⟨f, List.mem_cons_of_mem e hf, hv⟩

theorem hasText_null : Value.null.hasText = true := by
  simp [hasText]

theorem hasText_bool (b : Bool) : (Value.bool b).hasText = true := by
  simp [hasText]

theorem hasText_string (s : String) : (Value.string s).hasText = true := by
  simp [hasText]

theorem hasText_of_isText {v : Value} (h : v.isText = true) : v.hasText = true := by
  obtain ⟨s, rfl⟩ | ⟨t, rfl⟩ := isText_iff.mp h
  · exact hasText_string s
  · simp [hasText]

theorem eq_of_present? {v w : Value} (h : v.present? = some w) : w = v := by
  cases v with
  | null => exact absurd h nofun
  | bool | int | float | string | torn | date | moment | list | mapping =>
    exact (Option.some.inj h).symm

/-! ### Readers -/

section Readers

variable {v : Value} (h : v.hasText = true)
include h

theorem yields_asText : Yields v.asText fun _ => True := by
  rw [asText, if_pos h]
  trivial

theorem yields_elements : Yields v.elements fun items => ∀ w ∈ items, w.hasText = true := by
  cases v with
  | list items =>
    rw [hasText] at h
    exact (allHaveText_iff items).mp h
  | mapping es =>
    rw [hasText] at h
    exact List.forall_mem_map.mpr fun e he => ((entriesHaveText_iff es).mp h e he).1
  | string s => exact List.forall_mem_map.mpr fun c _ => hasText_string _
  | torn t => exact List.forall_mem_map.mpr fun p _ => hasText_of_isText (isText_ofPoints [p])
  | null | bool | int | float | date | moment => nofun

theorem yields_field? (key : String) :
    Yields (v.field? key) fun o => ∀ w ∈ o, w.hasText = true := by
  cases v with
  | mapping es =>
    intro w hw
    obtain ⟨e, he, rfl⟩ := exists_mem_of_lookup hw
    rw [hasText] at h
    exact ((entriesHaveText_iff es).mp h e he).2
  | null | bool | int | float | string | torn | date | moment | list => nofun

theorem yields_need (key : String) : Yields (v.need key) fun w => w.hasText = true := by
  have hfield := yields_field? h key
  cases v with
  | mapping es =>
    rw [need]
    cases hlookup : lookup es key with
    | none => nofun
    | some w => exact hfield w hlookup
  | null | bool | int | float | string | torn | date | moment | list => nofun

theorem yields_fieldD (key : String) {default : Value} (hdefault : default.hasText = true) :
    Yields (v.fieldD key default) fun w => w.hasText = true := by
  refine (yields_field? h key).map fun o ho => ?_
  cases o with
  | none => exact hdefault
  | some w => exact ho w rfl

theorem yields_textD (key default : String) : Yields (v.textD key default) fun _ => True :=
  (yields_fieldD h key (hasText_string default)).bind fun _ => yields_asText

theorem yields_needText (key : String) : Yields (v.needText key) fun _ => True :=
  (yields_need h key).bind fun _ => yields_asText

theorem yields_text? (key : String) : Yields (v.text? key) fun _ => True := by
  refine (yields_field? h key).bind fun o ho => ?_
  cases hpresent : o.bind present? with
  | none => trivial
  | some w =>
    obtain ⟨u, hu, hw⟩ := Option.bind_eq_some_iff.mp hpresent
    exact (yields_asText (eq_of_present? hw ▸ ho u hu)).bind fun _ _ => trivial

end Readers

end OsgiIvy.Value
