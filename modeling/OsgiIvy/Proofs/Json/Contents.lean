import Mathlib.Algebra.Group.Nat.Defs
import OsgiIvy.Proofs.Apart
import OsgiIvy.Proofs.Json.Values
import OsgiIvy.Proofs.Value.Readable

/-!
# What JSON holds

Reading JSON never gives a date, a mapping whose keys are not texts or one that has a key twice, and
it gives no whole number of more digits than are read (`isJson_of_read`).  Such values all have a
text.
-/

namespace OsgiIvy.Value

open OsgiIvy.Json OsgiIvy.Text

/-- A value that JSON can hold. -/
inductive IsJson : Value → Prop
  | null : IsJson .null
  | bool (b : Bool) : IsJson (.bool b)
  | int {n : Int} (h : n.natAbs < Nat.pow 10 Json.maxDigits) : IsJson (.int n)
  | float (x : Float) : IsJson (.float x)
  | string (s : String) : IsJson (.string s)
  | torn (t : TornText) : IsJson (.torn t)
  | list {items : List Value} (h : ∀ v ∈ items, IsJson v) : IsJson (.list items)
  | mapping {es : List (Value × Value)} (hkeys : HasTextKeys es) (h : ∀ e ∈ es, IsJson e.2) :
    IsJson (.mapping es)

theorem IsJson.hasText {v : Value} (h : IsJson v) : v.hasText = true := by
  induction h with
  | null => exact hasText_null
  | bool b => exact hasText_bool b
  | int hn =>
    have hlimit : Json.maxDigits = Value.maxDigits := rfl
    rw [hlimit] at hn
    rw [Value.hasText]
    exact decide_eq_true hn
  | float x => simp [Value.hasText]
  | string s => exact hasText_string s
  | torn t => exact hasText_of_isText rfl
  | list _ ih =>
    rw [Value.hasText]
    exact (allHaveText_iff _).mpr ih
  | mapping hkeys _ ih =>
    rw [Value.hasText]
    exact (entriesHaveText_iff _).mpr fun e he => ⟨hasText_of_isText (hkeys.texts e he), ih e he⟩

theorem isJson_of_isText {v : Value} (h : v.isText = true) : IsJson v := by
  obtain ⟨s, rfl⟩ | ⟨t, rfl⟩ := isText_iff.mp h
  · exact .string s
  · exact .torn t

section Mapping

variable {es : List (Value × Value)}

theorem IsJson.hasTextKeys (h : IsJson (.mapping es)) : HasTextKeys es := by
  cases h with
  | mapping hkeys _ => exact hkeys

theorem IsJson.entriesHaveText (h : IsJson (.mapping es)) :
    ∀ e ∈ es, e.1.hasText = true ∧ e.2.hasText = true := by
  have htext := h.hasText
  rw [Value.hasText] at htext
  exact (entriesHaveText_iff es).mp htext

theorem IsJson.of_mem (h : IsJson (.mapping es)) {e : Value × Value} (he : e ∈ es) :
    IsJson e.2 := by
  cases h with
  | mapping _ hvalues => exact hvalues e he

theorem IsJson.of_lookup (h : IsJson (.mapping es)) {key : String} {v : Value}
    (hv : lookup es key = some v) : IsJson v := by
  obtain ⟨e, he, rfl⟩ := exists_mem_of_lookup hv
  exact h.of_mem he

end Mapping

theorem isJson_object {fields : List (String × Value)} (hkeys : (fields.map Prod.fst).Nodup)
    (h : ∀ f ∈ fields, IsJson f.2) : IsJson (.object fields) := by
  refine .mapping (hasTextKeys_textEntries hkeys) fun e he => ?_
  obtain ⟨f, hf, rfl⟩ := List.mem_map.mp he
  exact h f hf

/-! ### Numbers -/

theorem digitValue_le {c : Char} (h : c.isDigit = true) : digitValue c ≤ 9 := by
  have hle : c ≤ '9' := by
    simp only [Char.isDigit, Bool.and_eq_true, decide_eq_true_eq] at h
    exact h.2
  have hbound : c.toNat ≤ 57 := hle
  unfold digitValue
  omega

theorem foldl_digits_lt (n : Nat) {cs : List Char} (h : ∀ c ∈ cs, c.isDigit = true) :
    cs.foldl (fun n c => 10 * n + digitValue c) n < (n + 1) * 10 ^ cs.length := by
  induction cs generalizing n with
  | nil => simp
  | cons c cs ih =>
    have hc := digitValue_le (h c List.mem_cons_self)
    have hcs := ih (10 * n + digitValue c) fun d hd => h d (List.mem_cons_of_mem c hd)
    have hstep : (10 * n + digitValue c + 1) * 10 ^ cs.length ≤
        (n + 1) * 10 ^ (c :: cs).length := by
      rw [List.length_cons, Nat.pow_succ', ← Nat.mul_assoc]
      exact Nat.mul_le_mul_right _ (by omega)
    exact Nat.lt_of_lt_of_le hcs hstep

theorem digitsValue_lt {cs : List Char} (h : ∀ c ∈ cs, c.isDigit = true) :
    digitsValue cs < 10 ^ cs.length := by
  simpa [digitsValue] using foldl_digits_lt 0 h

theorem lt_pow_of_le {n digits limit : Nat} (h : n < 10 ^ digits) (hdigits : digits ≤ limit) :
    n < Nat.pow 10 limit :=
  Nat.lt_of_lt_of_le h (Nat.pow_le_pow_right (Nat.succ_pos 9) hdigits)

theorem isJson_digit {n : Int} (h : n.natAbs < 10) : IsJson (.int n) := by
  have hdigit : n.natAbs < 10 ^ 1 := h
  exact .int (lt_pow_of_le hdigit (by decide))

section Reading

variable {γ : Type} [Glyph γ]

theorem isJson_of_readMagnitude {negative : Bool} {gs rest : List γ} {v : Value}
    (h : readMagnitude negative gs = .ok (v, rest)) : IsJson v := by
  unfold readMagnitude at h
  extract_lets digits whole n at h
  have hwhole : ∀ c ∈ whole, c.isDigit = true := by
    intro c hc
    simp only [whole] at hc
    split at hc
    · rw [List.mem_singleton.mp hc]
      rfl
    · exact Glyph.forall_mem_spanChars Char.isDigit gs c hc
  have hvalue := digitsValue_lt hwhole
  -- With or without an exponent, the number is whole and short enough, or it is a float.
  have hnumber : ∀ (isWhole : Bool) (x : Float) (after : List γ),
      (if isWhole = true then
        if Json.maxDigits < whole.length then Except.error Json.Fault.tooLong
        else .ok (.int (if negative then -n else n), after)
      else .ok (.float x, after)) = .ok (v, rest) → IsJson v := by
    intro isWhole x after h
    split at h
    · split at h
      · cases h
      · next hshort =>
        cases h
        have habs : (if negative then -n else n).natAbs = digitsValue whole := by
          cases negative with
          | true => exact Int.natAbs_neg n
          | false => rfl
        exact .int (habs ▸ lt_pow_of_le hvalue (Nat.le_of_not_lt hshort))
    · cases h
      exact .float x
  split at h
  · cases h
  · split at h
    next fraction after _ =>
    cases exponentPart after with
    | none => exact hnumber _ _ _ h
    | some exponent => exact hnumber _ _ _ h

theorem eq_some_of_orMalformed {α : Type} {o : Option α} {a : α} (h : orMalformed o = .ok a) :
    o = some a := by
  cases o with
  | none => cases h
  | some b => exact congrArg some (Except.ok.inj h)

theorem isText_of_readText {fuel : Nat} {gs rest : List γ} {v : Value}
    (h : readText fuel gs = some (v, rest)) : v.isText = true := by
  obtain ⟨r, -, heq⟩ := Option.map_eq_some_iff.mp h
  rw [← (Prod.mk.inj heq).1]
  exact isText_ofPoints r.1

theorem isJson_of_readScalar {fuel : Nat} {gs rest : List γ} {v : Value}
    (h : readScalar fuel gs = .ok (v, rest)) : IsJson v := by
  unfold readScalar at h
  split at h
  · exact isJson_of_isText (isText_of_readText (eq_some_of_orMalformed h))
  · split at h
    · next r hword =>
      obtain ⟨w, hw, hr⟩ := List.exists_of_findSome?_eq_some hword
      obtain ⟨after, -, rfl⟩ := Option.map_eq_some_iff.mp hr
      cases h
      have hwords : ∀ w ∈ words, IsJson w.2 := by
        simp [words, IsJson.null, IsJson.bool, IsJson.float]
      exact hwords w hw
    · split at h
      · exact isJson_of_readMagnitude h
      · exact isJson_of_readMagnitude h

/-! ### Lists and mappings -/

theorem hasTextKeys_of_apart {es : List (Value × Value)}
    (htexts : ∀ e ∈ es, e.1.isText = true) (h : Apart (es.map Prod.fst)) :
    HasTextKeys es := by
  refine ⟨htexts, List.pairwise_map.mpr ((List.pairwise_map.mp h).imp_of_mem ?_)⟩
  intro e f he hf hne heq
  rw [(beq_texts (htexts f hf) (htexts e he)).mpr heq.symm] at hne
  exact absurd hne nofun

/-- Of members with one name the last counts. -/
theorem isJson_ofEntries {es : List (Value × Value)}
    (h : ∀ e ∈ es, e.1.isText = true ∧ IsJson e.2) : IsJson (ofEntries es) := by
  have hentries :=
    Assoc.forall_mem_ofList (p := fun k : Value => k.isText = true) (q := IsJson) h
  have hkeys := hasTextKeys_of_apart (fun e he => (hentries e he).1) (Assoc.apart_keys_ofList es)
  exact .mapping hkeys fun e he => (hentries e he).2

theorem isText_of_readName {fuel : Nat} {gs rest : List γ} {name : Value}
    (h : readName fuel gs = some (name, rest)) : name.isText = true := by
  unfold readName at h
  split at h
  · obtain ⟨⟨text, behind⟩, htext, h⟩ := Option.bind_eq_some_iff.mp h
    simp only at h
    split at h
    · cases h
      exact isText_of_readText htext
    · cases h
  · cases h

theorem isJson_of_reading (fuel : Nat) :
    (∀ {gs rest : List γ} {v}, readValue fuel gs = .ok (v, rest) → IsJson v) ∧
    (∀ {gs rest : List γ} {vs}, readItems fuel gs = .ok (vs, rest) → ∀ v ∈ vs, IsJson v) ∧
    ∀ {gs rest : List γ} {es}, readMembers fuel gs = .ok (es, rest) →
      ∀ e ∈ es, e.1.isText = true ∧ IsJson e.2 := by
  induction fuel with
  | zero =>
    refine ⟨?_, ?_, ?_⟩
    · intro gs rest v h
      rw [readValue] at h
      cases h
    · intro gs rest vs h
      rw [readItems] at h
      cases h
    · intro gs rest es h
      rw [readMembers] at h
      cases h
  | succ fuel ih =>
    obtain ⟨hvalue, hitems, hmembers⟩ := ih
    refine ⟨?_, ?_, ?_⟩
    · intro gs rest v h
      unfold readValue at h
      simp only at h
      split at h
      · split at h
        · cases h
          exact .list (by simp)
        · obtain ⟨r, hr, heq⟩ := map_eq_ok.mp h
          rw [← (Prod.mk.inj heq).1]
          exact .list (hitems hr)
      · split at h
        · cases h
          exact .mapping ⟨by simp, by simp⟩ (by simp)
        · obtain ⟨r, hr, heq⟩ := map_eq_ok.mp h
          rw [← (Prod.mk.inj heq).1]
          exact isJson_ofEntries (hmembers hr)
      · exact isJson_of_readScalar h
    · intro gs rest vs h
      rw [readItems] at h
      obtain ⟨⟨v, after⟩, hv, h⟩ := bind_eq_ok.mp h
      simp only at h
      split at h
      · cases h
        exact List.forall_mem_singleton.mpr (hvalue hv)
      · obtain ⟨⟨others, after⟩, hothers, h⟩ := bind_eq_ok.mp h
        cases h
        exact List.forall_mem_cons.mpr ⟨hvalue hv, hitems hothers⟩
      · cases h
    · intro gs rest es h
      rw [readMembers] at h
      obtain ⟨⟨name, member⟩, hname, h⟩ := bind_eq_ok.mp h
      obtain ⟨⟨v, after⟩, hv, h⟩ := bind_eq_ok.mp h
      have hfirst := And.intro (isText_of_readName (eq_some_of_orMalformed hname)) (hvalue hv)
      simp only at h
      split at h
      · cases h
        exact List.forall_mem_singleton.mpr hfirst
      · obtain ⟨⟨others, after⟩, hothers, h⟩ := bind_eq_ok.mp h
        cases h
        exact List.forall_mem_cons.mpr ⟨hfirst, hmembers hothers⟩
      · cases h

/-- Whatever is read from JSON is a value that JSON can hold. -/
theorem isJson_of_read {τ : Type} [Script τ γ] {text : τ} {v : Value}
    (h : Json.read text = .ok v) : IsJson v := by
  rw [Json.read] at h
  obtain ⟨⟨w, rest⟩, hw, h⟩ := bind_eq_ok.mp h
  simp only at h
  split at h
  · cases h
    exact (isJson_of_reading _).1 hw
  · cases h

end Reading

end OsgiIvy.Value
