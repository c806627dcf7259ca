import OsgiIvy.Proofs.Manifest.Steps

/-!
# The grammar of a clause

Which texts are clauses is said of their parts, the stripped texts between the semicolons that have
an even number of quotation marks before them (`IsClauseText`).  Reading accepts exactly these
texts, and gives the clause that the parts say (`parse_follows_grammar`).
-/

namespace OsgiIvy.Manifest

open OsgiIvy.Text

/-! ### Pieces by what stands before the separators -/

/-- The pieces between those separators that have an even number of quotation marks before them. -/
def piecesOutside (separator : Char) (cs : List Char) : List (List Char) :=
  (cs.zipIdx.splitOnP fun x => x.1 = separator && (cs.take x.2).count '"' % 2 = 0).map
    (·.map Prod.fst)

theorem consFirst_map_fst (c : Char) (i : Nat) {ps : List (List (Char × Nat))} (h : ps ≠ []) :
    consFirst c (ps.map (·.map Prod.fst)) =
      (ps.modifyHead (List.cons (c, i))).map (·.map Prod.fst) := by
  cases ps with
  | nil => exact absurd rfl h
  | cons p ps => rfl

/-- The state of the cutting is the parity of the marks that have been passed. -/
theorem pieces_eq_splitOnP {separator : Char} (hsep : separator ≠ '"') (passed cs : List Char) :
    pieces separator (!quotesBalanced passed) cs =
      ((cs.zipIdx passed.length).splitOnP fun x =>
        x.1 = separator && quotesBalanced ((passed ++ cs).take x.2)).map (·.map Prod.fst) := by
  -- Positions count from the front of the whole text, so what has been passed grows by `c`.
  induction cs generalizing passed with
  | nil => rfl
  | cons c cs ih =>
    have hnext := ih (passed ++ [c])
    have htake : (passed ++ c :: cs).take passed.length = passed := List.take_left
    simp only [List.append_assoc, List.singleton_append, List.length_append,
      List.length_singleton] at hnext
    rw [List.zipIdx_cons, List.splitOnP_cons_eq_if_modifyHead, pieces_cons]
    simp only [htake]
    by_cases hc : c = '"'
    · subst hc
      have hflip : quotesBalanced (passed ++ ['"']) = !quotesBalanced passed := by
        have hmark : quotesBalanced ['"'] = false := rfl
        rw [quotesBalanced_append, hmark, beq_false]
      have hkept : ¬ (decide ('"' = separator) && quotesBalanced passed) = true := by
        simp [hsep.symm]
      rw [hflip] at hnext
      rw [if_pos rfl, if_neg hkept, hnext]
      exact consFirst_map_fst _ _ (List.splitOnP_ne_nil _ _)
    · have hsame : quotesBalanced (passed ++ [c]) = quotesBalanced passed := by
        have hone : quotesBalanced [c] = true := quotesBalanced_cons hc []
        rw [quotesBalanced_append, hone, beq_true]
      rw [hsame] at hnext
      rw [if_neg hc, hnext, Bool.not_not]
      split
      · rfl
      · exact consFirst_map_fst _ _ (List.splitOnP_ne_nil _ _)

theorem pieces_eq_piecesOutside {separator : Char} (hsep : separator ≠ '"') (cs : List Char) :
    pieces separator false cs = piecesOutside separator cs :=
  pieces_eq_splitOnP hsep [] cs

namespace Clause

/-! ### Parts -/

def partsOf (clause : String) : List (List Char) := parts (piecesOutside ';' clause.toList)

def beforeEquals (part : List Char) : List Char := part.takeWhile (· ≠ '=')

def argumentOf (part : List Char) : List Char := (part.dropWhile (· ≠ '=')).drop 1

/-- A colon right before the first equals sign is no part of the name. -/
def nameOf (part : List Char) : List Char :=
  if (beforeEquals part).getLast? = some ':' then (beforeEquals part).dropLast
  else beforeEquals part

def IsDirective (part : List Char) : Prop :=
  '=' ∈ part ∧ (beforeEquals part).getLast? = some ':'

def IsAttribute (part : List Char) : Prop :=
  '=' ∈ part ∧ (beforeEquals part).getLast? ≠ some ':'

instance : DecidablePred IsDirective := fun _ => inferInstanceAs (Decidable (_ ∧ _))

instance : DecidablePred IsAttribute := fun _ => inferInstanceAs (Decidable (_ ∧ _))

/-- The name and the argument of a part with an equals sign. -/
def setting (part : List Char) : String × String :=
  (String.ofList (strip (nameOf part)), String.ofList (unquote (argumentOf part)))

def IsNamed (part : List Char) : Prop := '=' ∈ part → isBlankText (nameOf part) = false

/-- The step that a part says. -/
def Step.ofPart (part : List Char) : Step :=
  if IsDirective part then .directive (setting part).1 (setting part).2
  else if IsAttribute part then .attribute (setting part).1 (setting part).2
  else .value (String.ofList (unquote part))

variable {name argument part : List Char} {s : Step} {ps : List (List Char)} {ss : List Step}

theorem beforeEquals_append (h : '=' ∉ name) (argument : List Char) :
    beforeEquals (name ++ '=' :: argument) = name :=
  takeWhile_ne_append h argument

theorem argumentOf_append (h : '=' ∉ name) (argument : List Char) :
    argumentOf (name ++ '=' :: argument) = argument := by
  rw [argumentOf, dropWhile_ne_append h]
  rfl

theorem nameOf_attribute (h : '=' ∉ name) (hcolon : name.getLast? ≠ some ':')
    (argument : List Char) : nameOf (name ++ '=' :: argument) = name := by
  rw [nameOf, beforeEquals_append h, if_neg hcolon]

theorem nameOf_directive (h : '=' ∉ name) (argument : List Char) :
    nameOf (name ++ ':' :: '=' :: argument) = name := by
  rw [append_colon, nameOf, beforeEquals_append (not_mem_append_colon h)]
  simp

theorem not_isAttribute (h : IsDirective part) : ¬ IsAttribute part := fun h' => h'.2 h.2

theorem ofPart_value (h : '=' ∉ part) :
    Step.ofPart part = .value (String.ofList (unquote part)) := by
  have hdirective : ¬ IsDirective part := fun h' => h h'.1
  have hattribute : ¬ IsAttribute part := fun h' => h h'.1
  rw [Step.ofPart, if_neg hdirective, if_neg hattribute]

theorem ofPart_attribute (h : '=' ∉ name) (hcolon : name.getLast? ≠ some ':')
    (argument : List Char) : Step.ofPart (name ++ '=' :: argument) =
      .attribute (String.ofList (strip name)) (String.ofList (unquote argument)) := by
  have hattribute : IsAttribute (name ++ '=' :: argument) :=
    ⟨by simp, by rwa [beforeEquals_append h]⟩
  have hdirective : ¬ IsDirective (name ++ '=' :: argument) := fun h' =>
    not_isAttribute h' hattribute
  rw [Step.ofPart, if_neg hdirective, if_pos hattribute, setting, nameOf_attribute h hcolon,
    argumentOf_append h]

theorem ofPart_directive (h : '=' ∉ name) (argument : List Char) :
    Step.ofPart (name ++ ':' :: '=' :: argument) =
      .directive (String.ofList (strip name)) (String.ofList (unquote argument)) := by
  have hcolon := not_mem_append_colon h
  have hargument : argumentOf (name ++ ':' :: '=' :: argument) = argument := by
    rw [append_colon, argumentOf_append hcolon]
  have hdirective : IsDirective (name ++ ':' :: '=' :: argument) := by
    rw [append_colon]
    exact ⟨by simp, by rw [beforeEquals_append hcolon]; simp⟩
  rw [Step.ofPart, if_pos hdirective, setting, nameOf_directive h, hargument]

theorem reads_iff : Reads part s ↔ IsNamed part ∧ Step.ofPart part = s := by
  constructor
  · intro h
    cases h with
    | ofValue hpart => exact ⟨fun hmem => absurd hmem hpart, ofPart_value hpart⟩
    | @ofAttribute name argument hname hcolon hblank =>
      refine ⟨fun _ => ?_, ofPart_attribute hname hcolon argument⟩
      rwa [nameOf_attribute hname hcolon]
    | @ofDirective name argument hname hblank =>
      refine ⟨fun _ => ?_, ofPart_directive hname argument⟩
      rwa [nameOf_directive hname]
  · rintro ⟨hnamed, rfl⟩
    cases shape part with
    | ofValue hpart =>
      rw [ofPart_value hpart]
      exact .ofValue hpart
    | @ofAttribute name argument hname hcolon =>
      have hblank := hnamed (by simp)
      rw [nameOf_attribute hname hcolon] at hblank
      rw [ofPart_attribute hname hcolon]
      exact .ofAttribute hname hcolon hblank
    | @ofDirective name argument hname =>
      have hblank := hnamed (by simp)
      rw [nameOf_directive hname] at hblank
      rw [ofPart_directive hname]
      exact .ofDirective hname hblank

theorem forall₂_reads_iff :
    List.Forall₂ Reads ps ss ↔ (∀ part ∈ ps, IsNamed part) ∧ ps.map Step.ofPart = ss := by
  have hreads : Reads = fun part s => IsNamed part ∧ Step.ofPart part = s := by
    funext part s
    exact propext reads_iff
  rw [hreads, List.forall₂_and_left, ← List.forall₂_map_left_iff (R := Eq), List.forall₂_eq_eq_eq]

/-! ### What the parts say -/

theorem mem_iff_isDirective_or_isAttribute :
    '=' ∈ part ↔ IsDirective part ∨ IsAttribute part := by
  by_cases hcolon : (beforeEquals part).getLast? = some ':'
  · simp [IsDirective, IsAttribute, hcolon]
  · simp [IsDirective, IsAttribute, hcolon]

theorem isValue_ofPart : (Step.ofPart part).isValue = true ↔ '=' ∉ part := by
  rw [mem_iff_isDirective_or_isAttribute, Step.ofPart]
  split
  · next hdirective => simp [Step.isValue, hdirective]
  · next hdirective =>
    split
    · next hattribute => simp [Step.isValue, hattribute]
    · next hattribute => simp [Step.isValue, hdirective, hattribute]

theorem filterMap_ofPart {α : Type} {f : Step → Option α} {p : List Char → Bool}
    {g : List Char → α} (h : ∀ part, f (Step.ofPart part) = if p part then some (g part) else none)
    (ps : List (List Char)) : (ps.map Step.ofPart).filterMap f = (ps.filter p).map g := by
  rw [List.filterMap_map, ← List.filterMap_eq_map, List.filterMap_filter]
  exact congrArg (List.filterMap · ps) (funext h)

theorem values_ofPart (ps : List (List Char)) : (ps.map Step.ofPart).filterMap Step.value? =
    (ps.filter ('=' ∉ ·)).map fun part => String.ofList (unquote part) := by
  refine filterMap_ofPart (fun part => ?_) ps
  rw [Step.ofPart]
  split
  · next hdirective => simp [Step.value?, hdirective.1]
  · next hdirective =>
    split
    · next hattribute => simp [Step.value?, hattribute.1]
    · next hattribute =>
      have hvalue : '=' ∉ part := by
        rw [mem_iff_isDirective_or_isAttribute]
        exact not_or.mpr ⟨hdirective, hattribute⟩
      simp [Step.value?, hvalue]

theorem attributes_ofPart (ps : List (List Char)) :
    (ps.map Step.ofPart).filterMap Step.attribute? = (ps.filter IsAttribute).map setting := by
  refine filterMap_ofPart (fun part => ?_) ps
  rw [Step.ofPart]
  split
  · next hdirective => simp [Step.attribute?, not_isAttribute hdirective]
  · split
    · next hattribute => simp [Step.attribute?, hattribute]
    · next hattribute => simp [Step.attribute?, hattribute]

theorem directives_ofPart (ps : List (List Char)) :
    (ps.map Step.ofPart).filterMap Step.directive? = (ps.filter IsDirective).map setting := by
  refine filterMap_ofPart (fun part => ?_) ps
  rw [Step.ofPart]
  split
  · next hdirective => simp [Step.directive?, hdirective]
  · next hdirective => split <;> simp [Step.directive?, hdirective]

/-- The quotation marks pair up, no value stands behind a parameter, and every parameter has a
name. -/
structure IsClauseText (clause : String) : Prop where
  quotes : clause.toList.count '"' % 2 = 0
  order : (partsOf clause).Pairwise fun p q => '=' ∈ p → '=' ∈ q
  named : ∀ part ∈ partsOf clause, IsNamed part

/-- The values are in order.  Attributes and directives stand where their names first occur, with
their last arguments. -/
structure Says (clause : String) (e : Clause) : Prop where
  values : e.values =
    ((partsOf clause).filter ('=' ∉ ·)).map fun part => String.ofList (unquote part)
  attributes : e.attributes.Records (((partsOf clause).filter IsAttribute).map setting)
  directives : e.directives.Records (((partsOf clause).filter IsDirective).map setting)

variable {clause : String} {e : Clause}

theorem says_iff : Says clause e ↔ ofSteps ((partsOf clause).map Step.ofPart) = e := by
  have hbuilt : ofSteps ((partsOf clause).map Step.ofPart) =
      ⟨((partsOf clause).filter ('=' ∉ ·)).map fun part => String.ofList (unquote part),
        .ofList (((partsOf clause).filter IsAttribute).map setting),
        .ofList (((partsOf clause).filter IsDirective).map setting)⟩ := by
    rw [ofSteps, foldl_add, values_ofPart, attributes_ofPart, directives_ofPart]
    rfl
  rw [hbuilt]
  constructor
  · intro h
    rw [← Assoc.records_iff.mp h.attributes, ← Assoc.records_iff.mp h.directives, ← h.values]
  · rintro rfl
    exact ⟨rfl, Assoc.records_ofList _, Assoc.records_ofList _⟩

/-! ### Reading -/

theorem parse_eq_ok_iff : parse clause = .ok e ↔ IsClauseText clause ∧ Says clause e := by
  have hcut : parts (pieces ';' false clause.toList) = partsOf clause :=
    congrArg parts (pieces_eq_piecesOutside (by decide) clause.toList)
  have hnone : empty.hasParameters = true → ∀ s ∈ (partsOf clause).map Step.ofPart,
      s.isValue = false := fun h => absurd h (by decide)
  have horder : ((partsOf clause).map Step.ofPart).Pairwise
      (fun s t => t.isValue = true → s.isValue = true) ↔
        (partsOf clause).Pairwise fun p q => '=' ∈ p → '=' ∈ q := by
    rw [List.pairwise_map]
    simp only [isValue_ofPart, not_imp_not]
  rw [says_iff, parse, parseChars, split_eq]
  by_cases hquotes : quotesBalanced clause.toList = true
  · simp only [hquotes, if_true, hcut, addParts_eq_ok_iff, forall₂_reads_iff]
    constructor
    · rintro ⟨_, ⟨hnamed, rfl⟩, hpairwise, -, hbuild⟩
      exact ⟨⟨of_decide_eq_true hquotes, horder.mp hpairwise, hnamed⟩, hbuild⟩
    · rintro ⟨htext, hbuild⟩
      exact ⟨_, ⟨htext.named, rfl⟩, horder.mpr htext.order, hnone, hbuild⟩
  · have hopen : ¬ IsClauseText clause := fun htext => hquotes (decide_eq_true htext.quotes)
    simp [hquotes, hopen]

/-- Exactly the clause texts are read, as the clauses that they say, and any other text is
refused. -/
theorem parse_follows_grammar (clause : String) :
    ((∃ e, parse clause = .ok e) ↔ IsClauseText clause) ∧
      (∀ e, parse clause = .ok e ↔ IsClauseText clause ∧ Says clause e) ∧
        ((∃ fault, parse clause = .error fault) ↔ ¬ IsClauseText clause) := by
  have haccepts : (∃ e, parse clause = .ok e) ↔ IsClauseText clause := by
    constructor
    · rintro ⟨e, he⟩
      exact (parse_eq_ok_iff.mp he).1
    · exact fun htext => ⟨_, parse_eq_ok_iff.mpr ⟨htext, says_iff.mpr rfl⟩⟩
  refine ⟨haccepts, fun e => parse_eq_ok_iff, ?_⟩
  rw [← haccepts]
  cases parse clause with
  | ok e => simp
  | error fault => simp

example : parse " b ;; a;x:=\"1;2\"; v=3;w=;v = 4" =
    .ok ⟨["b", "a"], ⟨[("v", "4"), ("w", "")]⟩, ⟨[("x", "1;2")]⟩⟩ := by
  rfl

end Clause

end OsgiIvy.Manifest
