import OsgiIvy.Proofs.Manifest.Headers
import OsgiIvy.Proofs.Manifest.Steps

/-!
# Headers with quoted arguments

A header may be written with a comma between its clauses, a semicolon between the parts of a clause
and quotation marks around every argument.  Its clauses are then read back
(`parseHeader_header`, `parseHeader_quotedText`): an argument may hold any separator, as long as it
holds no mark, and values and names are tokens, which no level of reading takes apart.
-/

namespace OsgiIvy.Manifest

open OsgiIvy.Text

/-! ### Tokens -/

/-- A text without blanks at its ends and without the characters that take a header apart. -/
def IsToken (cs : List Char) : Prop :=
  (cs ≠ [] ∧ IsStripped cs) ∧ ',' ∉ cs ∧ ';' ∉ cs ∧ '"' ∉ cs ∧ '=' ∉ cs

instance : DecidablePred IsToken := fun cs =>
  inferInstanceAs (Decidable ((cs ≠ [] ∧ IsStripped cs) ∧ _))

variable {cs ds inner : List Char}

theorem IsToken.isName (h : IsToken cs) : Clause.IsName cs := ⟨h.1.1, h.1.2, h.2.2.2.2⟩

theorem IsToken.not_mem_quote (h : IsToken cs) : '"' ∉ cs := h.2.2.2.1

/-! ### Separators between marks -/

section Whole

variable {separator c : Char}

/-- Between the marks the separators do not count, and outside there are none. -/
theorem isWhole_enclosed (hsep : separator ≠ '"') (h : '"' ∉ inner) :
    IsWhole separator ('"' :: (inner ++ ['"'])) := by
  intro before after heq
  cases before with
  | nil => exact absurd (List.cons.inj heq).1.symm hsep
  | cons b before =>
    obtain ⟨rfl, htail⟩ := List.cons.inj heq
    have hbefore : '"' ∉ before := by
      rcases List.append_eq_append_iff.mp htail with ⟨rest, rfl, hrest⟩ | ⟨rest, rfl, -⟩
      · -- The mark at the end would be the separator.
        cases rest with
        | nil => exact absurd (List.cons.inj hrest).1.symm hsep
        | cons c rest => exact absurd (List.cons.inj hrest).2 (by simp)
      · exact fun hmem => h (List.mem_append_left rest hmem)
    rw [quotesBalanced_quote, quotesBalanced_of_not_mem hbefore]
    rfl

theorem IsWhole.append_cons (hcs : IsWhole separator cs) (hbalanced : quotesBalanced cs = true)
    (hc : c ≠ separator) (hquote : c ≠ '"') (hds : IsWhole separator ds) :
    IsWhole separator (cs ++ c :: ds) := by
  intro before after heq
  rcases List.append_eq_append_iff.mp heq with ⟨rest, rfl, hrest⟩ | ⟨rest, rfl, hrest⟩
  · -- The separator stands behind the first text.
    cases rest with
    | nil => exact absurd (List.cons.inj hrest).1 hc
    | cons d rest =>
      obtain ⟨rfl, rfl⟩ := List.cons.inj hrest
      rw [quotesBalanced_append, hbalanced, quotesBalanced_cons hquote, hds rest after rfl]
      rfl
  · cases rest with
    | nil => exact absurd (List.cons.inj hrest).1.symm hc
    | cons d rest =>
      obtain ⟨rfl, -⟩ := List.cons.inj hrest
      exact hcs before rest rfl

theorem isWhole_intercalate {joint : Char} (hjoint : joint ≠ separator) (hquote : joint ≠ '"')
    {texts : List (List Char)} (hwhole : ∀ text ∈ texts, IsWhole separator text)
    (hbalanced : ∀ text ∈ texts, quotesBalanced text = true) :
    IsWhole separator ([joint].intercalate texts) := by
  induction texts with
  | nil => exact isWhole_of_not_mem List.not_mem_nil
  | cons text texts ih =>
    obtain ⟨htext, htexts⟩ := List.forall_mem_cons.mp hwhole
    obtain ⟨hclosed, hrest⟩ := List.forall_mem_cons.mp hbalanced
    cases texts with
    | nil =>
      rw [List.intercalate_singleton]
      exact htext
    | cons next texts =>
      rw [List.intercalate_cons_cons, List.append_assoc, List.singleton_append]
      exact htext.append_cons hclosed hjoint hquote (ih htexts hrest)

theorem isBlankText_intercalate {joint : Char} {text : List Char} (h : isBlankText text = false)
    (texts : List (List Char)) : isBlankText ([joint].intercalate (text :: texts)) = false := by
  cases texts with
  | nil => rwa [List.intercalate_singleton]
  | cons next texts =>
    rw [isBlankText] at h
    rw [List.intercalate_cons_cons, isBlankText, List.append_assoc, List.all_append, h,
      Bool.false_and]

/-- Whole texts are what the separators between them cut. -/
theorem pieces_intercalate_of_isWhole (hsep : separator ≠ '"') {texts : List (List Char)}
    (hne : texts ≠ []) (hwhole : ∀ text ∈ texts, IsWhole separator text)
    (hbalanced : ∀ text ∈ texts, quotesBalanced text = true) :
    pieces separator false ([separator].intercalate texts) = texts := by
  rw [pieces_intercalate hsep hne hbalanced]
  calc texts.flatMap (pieces separator false)
      = texts.flatMap fun text => [text] :=
        List.flatMap_congr fun text htext => (pieces_eq_self_iff hsep text).mpr (hwhole text htext)
    _ = texts := List.flatMap_singleton' texts

end Whole

namespace Clause

/-! ### Parts with quoted arguments -/

/-- An argument between quotation marks. -/
def enclosed (argument : String) : String := String.ofList ('"' :: (argument.toList ++ ['"']))

theorem toList_enclosed (argument : String) :
    (enclosed argument).toList = '"' :: (argument.toList ++ ['"']) :=
  String.toList_ofList

/-- The step as it is written with quotation marks around its argument. -/
def Step.spelled : Step → List Char
  | .value text => (Step.value text).text
  | .attribute name argument => (Step.attribute name (enclosed argument)).text
  | .directive name argument => (Step.directive name (enclosed argument)).text

/-- A value or a name that is a token, with an argument that holds no quotation mark.  A colon at
the end of its name would make an attribute a directive. -/
def Step.IsWritable : Step → Prop
  | .value text => IsToken text.toList
  | .attribute name argument =>
    (IsToken name.toList ∧ name.toList.getLast? ≠ some ':') ∧ '"' ∉ argument.toList
  | .directive name argument => IsToken name.toList ∧ '"' ∉ argument.toList

instance : DecidablePred Step.IsWritable
  | .value text => inferInstanceAs (Decidable (IsToken text.toList))
  | .attribute _ _ => inferInstanceAs (Decidable ((_ ∧ _) ∧ _))
  | .directive _ _ => inferInstanceAs (Decidable (_ ∧ _))

variable {s : Step} {ss : List Step} {argument : String}

theorem unquote_enclosed (argument : String) :
    String.ofList (unquote (enclosed argument).toList) = argument := by
  have hstripped : IsStripped ('"' :: (argument.toList ++ ['"'])) :=
    ⟨by simp +decide, by simp +decide [getLast?_enclosed]⟩
  rw [toList_enclosed, unquote_of_isEnclosed (strip_eq_self_of_isStripped hstripped),
    String.ofList_toList]

theorem last_enclosed (argument : String) :
    ∀ c, (enclosed argument).toList.getLast? = some c → isBlank c = false := by
  rw [toList_enclosed, getLast?_enclosed]
  rintro c ⟨⟩
  decide

theorem quotesBalanced_enclosed (h : '"' ∉ argument.toList) :
    quotesBalanced (enclosed argument).toList = true := by
  rw [toList_enclosed, quotesBalanced_quote, quotesBalanced_append, quotesBalanced_of_not_mem h]
  rfl

theorem reads_spelled (h : s.IsWritable) : Reads s.spelled s := by
  rcases s with text | ⟨name, argument⟩ | ⟨name, argument⟩
  · have hreads := Reads.ofValue h.2.2.2.2
    rwa [(isBare_of_not_mem h.1.2 h.not_mem_quote).unquote_eq, String.ofList_toList] at hreads
  · have hreads := h.1.1.isName.reads_attribute h.1.2 (enclosed argument)
    rwa [unquote_enclosed] at hreads
  · have hreads := h.1.isName.reads_directive (enclosed argument)
    rwa [unquote_enclosed] at hreads

theorem isStripped_spelled (h : s.IsWritable) : IsStripped s.spelled := by
  rcases s with text | ⟨name, argument⟩ | ⟨name, argument⟩
  · exact h.1.2
  · exact h.1.1.isName.isStripped_attribute (last_enclosed argument)
  · exact h.1.isName.isStripped_directive (last_enclosed argument)

theorem spelled_ne_nil (h : s.IsWritable) : s.spelled ≠ [] := by
  rcases s with text | ⟨name, argument⟩ | ⟨name, argument⟩
  · exact h.1.1
  · simp [Step.spelled, Step.text]
  · simp [Step.spelled, Step.text]

theorem quotesBalanced_spelled (h : s.IsWritable) : quotesBalanced s.spelled = true := by
  have hequals : '=' ≠ '"' := by decide
  have hcolon : ':' ≠ '"' := by decide
  rcases s with text | ⟨name, argument⟩ | ⟨name, argument⟩
  · exact quotesBalanced_of_not_mem h.not_mem_quote
  · rw [Step.spelled, Step.text, quotesBalanced_append, quotesBalanced_cons hequals,
      quotesBalanced_of_not_mem h.1.1.not_mem_quote, quotesBalanced_enclosed h.2, BEq.rfl]
  · rw [Step.spelled, Step.text, quotesBalanced_append, quotesBalanced_cons hcolon,
      quotesBalanced_cons hequals, quotesBalanced_of_not_mem h.1.not_mem_quote,
      quotesBalanced_enclosed h.2, BEq.rfl]

/-- Neither commas nor semicolons cut the part. -/
theorem isWhole_spelled {separator : Char} (hsep : separator = ',' ∨ separator = ';')
    (h : s.IsWritable) : IsWhole separator s.spelled := by
  have htoken : ∀ {cs : List Char}, IsToken cs → separator ∉ cs := by
    intro cs hcs
    rcases hsep with rfl | rfl
    · exact hcs.2.1
    · exact hcs.2.2.1
  have hmark : separator ≠ '"' := by rcases hsep with rfl | rfl <;> decide
  have hequals : '=' ≠ separator := by rcases hsep with rfl | rfl <;> decide
  have hcolon : separator ≠ ':' := by rcases hsep with rfl | rfl <;> decide
  have hargument : ∀ {argument : String}, '"' ∉ argument.toList →
      IsWhole separator (enclosed argument).toList := by
    intro argument hnone
    rw [toList_enclosed]
    exact isWhole_enclosed hmark hnone
  rcases s with text | ⟨name, argument⟩ | ⟨name, argument⟩
  · exact isWhole_of_not_mem (htoken h)
  · exact (isWhole_of_not_mem (htoken h.1.1)).append_cons
      (quotesBalanced_of_not_mem h.1.1.not_mem_quote) hequals (by decide) (hargument h.2)
  · have hname : separator ∉ name.toList ++ [':'] := by simp [htoken h.1, hcolon]
    have hclosed : '"' ∉ name.toList ++ [':'] := by simp [h.1.not_mem_quote]
    rw [Step.spelled, Step.text, append_colon]
    exact (isWhole_of_not_mem hname).append_cons (quotesBalanced_of_not_mem hclosed) hequals
      (by decide) (hargument h.2)

/-! ### Clauses -/

/-- The text of a clause that the steps build. -/
def spelled (ss : List Step) : List Char := [';'].intercalate (ss.map Step.spelled)

/-- Steps of which a clause can be written: there is one, and values stand in front of
parameters. -/
structure AreWritable (ss : List Step) : Prop where
  ne_nil : ss ≠ []
  writable : ∀ s ∈ ss, s.IsWritable
  values : ss.Pairwise fun s t => t.isValue = true → s.isValue = true

/-- A value with parameters. -/
theorem areWritable_value_cons {name : String} (hname : IsToken name.toList)
    (h : ∀ s ∈ ss, s.IsWritable ∧ s.isValue = false) : AreWritable (.value name :: ss) := by
  refine ⟨List.cons_ne_nil _ ss, ?_, ?_⟩
  · exact List.forall_mem_cons.mpr ⟨hname, fun s hs => (h s hs).1⟩
  · refine List.pairwise_cons.mpr ⟨fun _ _ _ => rfl, ?_⟩
    refine List.pairwise_of_forall_mem_list fun s _ t ht hvalue => ?_
    exact absurd hvalue (by simp [(h t ht).2])

theorem AreWritable.quotesBalanced_spelled (h : AreWritable ss) :
    quotesBalanced (spelled ss) = true :=
  quotesBalanced_intercalate (by decide)
    (List.forall_mem_map.mpr fun s hs => Clause.quotesBalanced_spelled (h.writable s hs))

theorem AreWritable.isWhole_spelled (h : AreWritable ss) : IsWhole ',' (spelled ss) :=
  isWhole_intercalate (by decide) (by decide)
    (List.forall_mem_map.mpr fun s hs => Clause.isWhole_spelled (.inl rfl) (h.writable s hs))
    (List.forall_mem_map.mpr fun s hs => Clause.quotesBalanced_spelled (h.writable s hs))

theorem AreWritable.parts_spelled (h : AreWritable ss) :
    parts (pieces ';' false (spelled ss)) = ss.map Step.spelled := by
  have hcut : pieces ';' false (spelled ss) = ss.map Step.spelled :=
    pieces_intercalate_of_isWhole (by decide) (by simpa using h.ne_nil)
      (List.forall_mem_map.mpr fun s hs => Clause.isWhole_spelled (.inr rfl) (h.writable s hs))
      (List.forall_mem_map.mpr fun s hs => Clause.quotesBalanced_spelled (h.writable s hs))
  have hstrip : (ss.map Step.spelled).map strip = ss.map Step.spelled := by
    rw [List.map_map]
    exact List.map_congr_left fun s hs =>
      strip_eq_self_of_isStripped (isStripped_spelled (h.writable s hs))
  rw [parts, hcut, hstrip, List.filter_eq_self]
  intro part hpart
  obtain ⟨s, hs, rfl⟩ := List.mem_map.mp hpart
  simpa using spelled_ne_nil (h.writable s hs)

/-- A clause that is written step by step reads as the clause that the steps build. -/
theorem AreWritable.parseChars_spelled (h : AreWritable ss) :
    parseChars (spelled ss) = .ok (ofSteps ss) := by
  have hnone : empty.hasParameters = true → ∀ s ∈ ss, s.isValue = false :=
    fun hno => absurd hno (by decide)
  rw [parseChars, split_eq, if_pos h.quotesBalanced_spelled]
  simp only [h.parts_spelled]
  exact addParts_map (fun s hs => reads_spelled (h.writable s hs)) h.values hnone

theorem AreWritable.isBlankText_spelled (h : AreWritable ss) :
    isBlankText (spelled ss) = false := by
  obtain ⟨s, rest, rfl⟩ := List.exists_cons_of_ne_nil h.ne_nil
  have hs : s.IsWritable := h.writable s List.mem_cons_self
  have hfirst := isBlankText_false_of_isStripped (spelled_ne_nil hs) (isStripped_spelled hs)
  exact isBlankText_intercalate hfirst (rest.map Step.spelled)

end Clause

/-! ### Headers -/

open Clause (Step AreWritable)

/-- The text of a header whose clauses are built by the given steps. -/
def header (clauses : List (List Step)) : String :=
  String.ofList ([','].intercalate (clauses.map Clause.spelled))

theorem parseClauses_spelled {clauses : List (List Step)} (h : ∀ ss ∈ clauses, AreWritable ss) :
    parseClauses (clauses.map Clause.spelled) = .ok (clauses.map Clause.ofSteps) := by
  have hkept : (clauses.map Clause.spelled).filter (!isBlankText ·) =
      clauses.map Clause.spelled := by
    refine List.filter_eq_self.mpr (List.forall_mem_map.mpr fun ss hss => ?_)
    rw [(h ss hss).isBlankText_spelled, Bool.not_false]
  rw [parseClauses_eq_mapM, hkept]
  exact mapM_map_eq_ok fun ss hss => (h ss hss).parseChars_spelled

/-- The clauses of a header with quoted arguments are read back. -/
theorem parseHeader_header {clauses : List (List Step)} (h : ∀ ss ∈ clauses, AreWritable ss) :
    parseHeader (header clauses) = .ok (clauses.map Clause.ofSteps) := by
  rw [parseHeader_eq, header, String.toList_ofList]
  cases clauses with
  | nil => rfl
  | cons ss rest =>
    have hbalanced : ∀ text ∈ (ss :: rest).map Clause.spelled, quotesBalanced text = true :=
      List.forall_mem_map.mpr fun ss hss => (h ss hss).quotesBalanced_spelled
    have hcut : pieces ',' false ([','].intercalate ((ss :: rest).map Clause.spelled)) =
        (ss :: rest).map Clause.spelled :=
      pieces_intercalate_of_isWhole (by decide) (by simp)
        (List.forall_mem_map.mpr fun ss hss => (h ss hss).isWhole_spelled) hbalanced
    rw [if_pos (quotesBalanced_intercalate (by decide) hbalanced), hcut, parseClauses_spelled h]

/-! ### Clauses as they are built -/

namespace Clause

/-- Values, directives and attributes with semicolons between them, and quotation marks around
every argument. -/
def quotedText (e : Clause) : String :=
  ";".intercalate (e.values ++ e.directives.entries.map (fun d => d.1 ++ ":=" ++ enclosed d.2) ++
    e.attributes.entries.map (fun a => a.1 ++ "=" ++ enclosed a.2))

/-- A clause with a value or a parameter, whose values and names are tokens and whose arguments
hold no quotation mark. -/
structure IsWritable (e : Clause) : Prop where
  hasMappings : e.HasMappings
  nonempty : e.values ≠ [] ∨ e.hasParameters = true
  writable : ∀ s ∈ e.steps, s.IsWritable

theorem toList_quotedText (e : Clause) : e.quotedText.toList = spelled e.steps := by
  simp [quotedText, spelled, steps, String.toList_intercalate, Function.comp_def, Step.spelled,
    Step.text]

theorem IsWritable.areWritable {e : Clause} (h : e.IsWritable) : AreWritable e.steps := by
  refine ⟨fun hnone => ?_, h.writable, pairwise_steps e⟩
  have hempty : e.values = [] ∧ e.hasParameters = false := steps_eq_nil_iff.mp hnone
  rcases h.nonempty with hvalues | hparameters
  · exact hvalues hempty.1
  · exact absurd hparameters (by simp [hempty.2])

end Clause

theorem header_steps (es : List Clause) :
    header (es.map Clause.steps) = ",".intercalate (es.map Clause.quotedText) := by
  have htexts : (es.map Clause.steps).map Clause.spelled =
      (es.map Clause.quotedText).map String.toList := by
    rw [List.map_map, List.map_map]
    exact List.map_congr_left fun e _ => (Clause.toList_quotedText e).symm
  have hcomma : ",".toList = [','] := rfl
  rw [header, htexts, ← String.toList_inj, String.toList_ofList, String.toList_intercalate, hcomma]

/-- Clauses that are written with quotation marks are read back, their texts in order. -/
theorem parseHeader_quotedText {es : List Clause} (h : ∀ e ∈ es, e.IsWritable) :
    parseHeader (",".intercalate (es.map Clause.quotedText)) = .ok es := by
  have hwritable : ∀ ss ∈ es.map Clause.steps, AreWritable ss :=
    List.forall_mem_map.mpr fun e he => (h e he).areWritable
  have hbuilt : (es.map Clause.steps).map Clause.ofSteps = es := by
    rw [List.map_map]
    calc es.map (Clause.ofSteps ∘ Clause.steps)
        = es.map id := List.map_congr_left fun e he => Clause.foldl_add_steps (h e he).hasMappings
      _ = es := List.map_id es
  rw [← header_steps, parseHeader_header hwritable, hbuilt]

/-- Arguments with separators, signs that would make directives, and blanks at their ends. -/
def separated : List Clause :=
  [⟨["a", "b"], ⟨[("note", " x,y;z:=1 "), ("empty", "")]⟩, ⟨[("uses", "p,q")]⟩⟩,
    ⟨[], ⟨[("v", "=")]⟩, {}⟩, ⟨["c:"], {}, {}⟩]

theorem parseHeader_quotedText_separated : (∀ e ∈ separated, e.IsWritable) ∧
    ",".intercalate (separated.map Clause.quotedText) =
      "a;b;uses:=\"p,q\";note=\" x,y;z:=1 \";empty=\"\",v=\"=\",c:" ∧
    parseHeader (",".intercalate (separated.map Clause.quotedText)) = .ok separated := by
  have hwritable : ∀ e ∈ separated, e.IsWritable := by
    intro e he
    have hmappings : ∀ e ∈ separated, e.attributes.IsMapping ∧ e.directives.IsMapping := by decide
    have hnonempty : ∀ e ∈ separated, e.values ≠ [] ∨ e.hasParameters = true := by decide
    have hsteps : ∀ e ∈ separated, ∀ s ∈ e.steps, s.IsWritable := by decide
    exact ⟨hmappings e he, hnonempty e he, hsteps e he⟩
  exact ⟨hwritable, rfl, parseHeader_quotedText hwritable⟩

end OsgiIvy.Manifest
