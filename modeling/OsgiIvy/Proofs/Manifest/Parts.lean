import OsgiIvy.Manifest.Clause
import OsgiIvy.Proofs.Manifest.Quotes

/-!
# Parts of a clause

`Reads` is the grammar of a part: what it says is a value, an attribute or a directive.  Reading
follows it (`stepOf_eq_ok_iff`), and a step is never longer than the part that it was read from
(`Reads.length_text_le`).
-/

namespace OsgiIvy.Manifest.Clause

open OsgiIvy.Text

/-- The building step that a part stands for. -/
inductive Reads : List Char → Step → Prop
  | ofValue {part : List Char} (hpart : '=' ∉ part) :
    Reads part (.value (String.ofList (unquote part)))
  | ofAttribute {name argument : List Char} (hname : '=' ∉ name)
    (hcolon : name.getLast? ≠ some ':') (hblank : isBlankText name = false) :
    Reads (name ++ '=' :: argument)
      (.attribute (String.ofList (strip name)) (String.ofList (unquote argument)))
  | ofDirective {name argument : List Char} (hname : '=' ∉ name)
    (hblank : isBlankText name = false) :
    Reads (name ++ ':' :: '=' :: argument)
      (.directive (String.ofList (strip name)) (String.ofList (unquote argument)))

def Step.isValue : Step → Bool
  | .value _ => true
  | _ => false

/-- A step as it is written into a clause. -/
def Step.text : Step → List Char
  | .value text => text.toList
  | .attribute name argument => name.toList ++ '=' :: argument.toList
  | .directive name argument => name.toList ++ ':' :: '=' :: argument.toList

/-! ### Reading follows the grammar -/

theorem ofChars_value {part : List Char} (h : '=' ∉ part) : Part.ofChars part = .value part := by
  simp only [Part.ofChars, dropWhile_ne_of_not_mem h]

theorem ofChars_attribute {name : List Char} (hname : '=' ∉ name)
    (hcolon : name.getLast? ≠ some ':') (argument : List Char) :
    Part.ofChars (name ++ '=' :: argument) = .attribute name argument := by
  simp only [Part.ofChars, dropWhile_ne_append hname, takeWhile_ne_append hname, hcolon, if_false]

theorem append_colon (name argument : List Char) :
    name ++ ':' :: '=' :: argument = (name ++ [':']) ++ '=' :: argument := by
  simp

theorem not_mem_append_colon {name : List Char} (h : '=' ∉ name) : '=' ∉ name ++ [':'] := by
  simp [h]

theorem ofChars_directive {name : List Char} (hname : '=' ∉ name) (argument : List Char) :
    Part.ofChars (name ++ ':' :: '=' :: argument) = .directive name argument := by
  have hcolon := not_mem_append_colon hname
  simp only [Part.ofChars, append_colon, dropWhile_ne_append hcolon, takeWhile_ne_append hcolon]
  simp

/-- The three shapes of a part, by its first equals sign. -/
inductive Shape : List Char → Prop
  | ofValue {part : List Char} (hpart : '=' ∉ part) : Shape part
  | ofAttribute {name argument : List Char} (hname : '=' ∉ name)
    (hcolon : name.getLast? ≠ some ':') : Shape (name ++ '=' :: argument)
  | ofDirective {name argument : List Char} (hname : '=' ∉ name) :
    Shape (name ++ ':' :: '=' :: argument)

theorem shape (part : List Char) : Shape part := by
  by_cases hmem : '=' ∈ part
  · obtain ⟨name, argument, rfl, hname⟩ := List.eq_append_cons_of_mem hmem
    by_cases hcolon : name.getLast? = some ':'
    · obtain ⟨name, rfl⟩ := List.getLast?_eq_some_iff.mp hcolon
      rw [← append_colon]
      exact .ofDirective fun h => hname (List.mem_append_left _ h)
    · exact .ofAttribute hname hcolon
  · exact .ofValue hmem

variable {clause part : List Char} {s t : Step}

theorem stepOf_eq_ok_iff {hasParameters : Bool} : stepOf clause hasParameters part = .ok s ↔
    Reads part s ∧ (hasParameters = true → s.isValue = false) := by
  constructor
  · intro h
    cases shape part with
    | ofValue hpart =>
      rw [stepOf, ofChars_value hpart] at h
      cases hasParameters with
      | true => simp at h
      | false =>
        simp only [Bool.false_eq_true, if_false, Except.ok.injEq] at h
        exact h ▸ ⟨.ofValue hpart, fun hno => Bool.noConfusion hno⟩
    | @ofAttribute name argument hname hcolon =>
      rw [stepOf, ofChars_attribute hname hcolon] at h
      cases hblank : isBlankText name with
      | true => simp [hblank] at h
      | false =>
        simp only [hblank, Bool.false_eq_true, if_false, Except.ok.injEq] at h
        exact h ▸ ⟨.ofAttribute hname hcolon hblank, fun _ => rfl⟩
    | @ofDirective name argument hname =>
      rw [stepOf, ofChars_directive hname] at h
      cases hblank : isBlankText name with
      | true => simp [hblank] at h
      | false =>
        simp only [hblank, Bool.false_eq_true, if_false, Except.ok.injEq] at h
        exact h ▸ ⟨.ofDirective hname hblank, fun _ => rfl⟩
  · rintro ⟨hreads, horder⟩
    cases hreads with
    | ofValue hpart =>
      have hfirst : hasParameters = false := by
        cases hasParameters with
        | true => exact absurd (horder rfl) (by simp [Step.isValue])
        | false => rfl
      simp [stepOf, ofChars_value hpart, hfirst]
    | ofAttribute hname hcolon hblank => simp [stepOf, ofChars_attribute hname hcolon, hblank]
    | ofDirective hname hblank => simp [stepOf, ofChars_directive hname, hblank]

theorem Reads.unique (hs : Reads part s) (ht : Reads part t) : s = t := by
  have hreads : ∀ {u : Step}, Reads part u → stepOf [] false part = .ok u := fun hu =>
    stepOf_eq_ok_iff.mpr ⟨hu, fun hno => Bool.noConfusion hno⟩
  exact Except.ok.inj ((hreads hs).symm.trans (hreads ht))

/-! ### What a step has from its part -/

theorem Reads.length_text_le (h : Reads part s) : s.text.length ≤ part.length := by
  cases h with
  | ofValue hpart =>
    simpa [Step.text] using (unquote_sublist part).length_le
  | @ofAttribute name argument hname hcolon hblank =>
    have h1 := strip_length_le name
    have h2 := (unquote_sublist argument).length_le
    simp only [Step.text, String.toList_ofList, List.length_append, List.length_cons]
    omega
  | @ofDirective name argument hname hblank =>
    have h1 := strip_length_le name
    have h2 := (unquote_sublist argument).length_le
    simp only [Step.text, String.toList_ofList, List.length_append, List.length_cons]
    omega

theorem Reads.quotesBalanced_text (h : Reads part s) :
    quotesBalanced s.text = quotesBalanced part := by
  have hequals : '=' ≠ '"' := by decide
  have hcolon : ':' ≠ '"' := by decide
  cases h with
  | ofValue hpart => rw [Step.text, String.toList_ofList, quotesBalanced_unquote]
  | ofAttribute hname _ hblank =>
    simp only [Step.text, String.toList_ofList, quotesBalanced_append, quotesBalanced_cons hequals,
      quotesBalanced_strip, quotesBalanced_unquote]
  | ofDirective hname hblank =>
    simp only [Step.text, String.toList_ofList, quotesBalanced_append, quotesBalanced_cons hequals,
      quotesBalanced_cons hcolon, quotesBalanced_strip, quotesBalanced_unquote]

/-- A name as reading makes it. -/
def IsName (name : List Char) : Prop := name ≠ [] ∧ IsStripped name ∧ '=' ∉ name

/-- A step as reading makes it. -/
def Step.IsRead : Step → Prop
  | .value text => '=' ∉ text.toList
  | .attribute name _ => IsName name.toList
  | .directive name _ => IsName name.toList

theorem isName_strip {name : List Char} (hname : '=' ∉ name) (hblank : isBlankText name = false) :
    IsName (strip name) := by
  refine ⟨?_, isStripped_strip name, fun h => hname ((strip_sublist name).mem h)⟩
  rw [Ne, strip_eq_nil_iff, hblank]
  exact Bool.false_ne_true

theorem Reads.isRead (h : Reads part s) : s.IsRead := by
  cases h with
  | ofValue hpart =>
    rw [Step.IsRead, String.toList_ofList]
    exact fun h => hpart ((unquote_sublist part).mem h)
  | ofAttribute hname hcolon hblank =>
    rw [Step.IsRead, String.toList_ofList]
    exact isName_strip hname hblank
  | ofDirective hname hblank =>
    rw [Step.IsRead, String.toList_ofList]
    exact isName_strip hname hblank

/-! ### Parts with a given name -/

theorem IsName.isBlankText_false {name : List Char} (h : IsName name) :
    isBlankText name = false :=
  isBlankText_false_of_isStripped h.1 h.2.1

theorem IsName.reads_attribute {name : String} (h : IsName name.toList)
    (hcolon : name.toList.getLast? ≠ some ':') (argument : String) :
    Reads (Step.attribute name argument).text
      (.attribute name (String.ofList (unquote argument.toList))) := by
  have hreads : Reads (name.toList ++ '=' :: argument.toList) _ :=
    .ofAttribute h.2.2 hcolon h.isBlankText_false
  rwa [strip_eq_self_of_isStripped h.2.1, String.ofList_toList] at hreads

theorem IsName.reads_directive {name : String} (h : IsName name.toList) (argument : String) :
    Reads (Step.directive name argument).text
      (.directive name (String.ofList (unquote argument.toList))) := by
  have hreads : Reads (name.toList ++ ':' :: '=' :: argument.toList) _ :=
    .ofDirective h.2.2 h.isBlankText_false
  rwa [strip_eq_self_of_isStripped h.2.1, String.ofList_toList] at hreads

theorem IsName.isStripped_attribute {name argument : String} (h : IsName name.toList)
    (hlast : ∀ c, argument.toList.getLast? = some c → isBlank c = false) :
    IsStripped (Step.attribute name argument).text :=
  isStripped_append_cons h.1 h.2.1 (by decide) hlast

theorem IsName.isStripped_directive {name argument : String} (h : IsName name.toList)
    (hlast : ∀ c, argument.toList.getLast? = some c → isBlank c = false) :
    IsStripped (Step.directive name argument).text := by
  have hcolon : isBlank ':' = false := by decide
  have hname : IsStripped (name.toList ++ [':']) :=
    isStripped_append_cons h.1 h.2.1 hcolon (by simp)
  rw [Step.text, append_colon]
  exact isStripped_append_cons (by simp) hname (by decide) hlast

end OsgiIvy.Manifest.Clause
