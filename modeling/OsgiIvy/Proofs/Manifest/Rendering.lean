import Mathlib.Data.Finset.Max
import OsgiIvy.Proofs.Manifest.Steps

/-!
# Rendered clauses

Rendering writes the values, directives and attributes of a clause as they are, with semicolons
between them and without quotation marks.  What reading took away before is not put back: marks
around a text, and with them the blanks at its ends and the semicolons inside it.  So a rendered
clause reads as itself exactly when every step that builds it reads as itself (`IsPlain`), which is
`parse_render_iff`.

Where the texts of a clause hold neither marks nor semicolons, nothing has to be put back
(`parse_render_of_isClear`).

That a clause with some other step reads as another one has a single reason.  What is read from the
text of such a step is lighter than the step, whether it is cut or not (`Reads.plain_or_lighter`).
The heaviest of these steps would have to be read from a heavier one.
-/

namespace OsgiIvy.Manifest.Clause

open OsgiIvy.Text

theorem toList_render (e : Clause) :
    e.render.toList = [';'].intercalate (e.steps.map Step.text) := by
  simp [render, steps, String.toList_intercalate, Function.comp_def, Step.text]

/-! ### Steps that read as themselves -/

/-- No text of the step is taken apart when it is read, as long as the step is not cut: a value and
an argument are bare, and the name of an attribute does not make it a directive. -/
def Step.IsBareStep : Step → Prop
  | .value text => text ≠ "" ∧ IsBare text.toList
  | .attribute name argument => name.toList.getLast? ≠ some ':' ∧ IsBare argument.toList
  | .directive _ argument => IsBare argument.toList

/-- Every semicolon in the text of the step stands between quotation marks, and the step is bare. -/
def Step.IsPlain (s : Step) : Prop := IsWhole ';' s.text ∧ s.IsBareStep

instance : DecidablePred Step.IsBareStep
  | .value text => inferInstanceAs (Decidable (text ≠ "" ∧ IsBare text.toList))
  | .attribute name argument =>
    inferInstanceAs (Decidable (name.toList.getLast? ≠ some ':' ∧ IsBare argument.toList))
  | .directive _ argument => inferInstanceAs (Decidable (IsBare argument.toList))

instance (s : Step) : Decidable s.IsPlain :=
  have : Decidable (IsWhole ';' s.text) :=
    decidable_of_iff _ (pieces_eq_self_iff (by decide) s.text)
  inferInstanceAs (Decidable (_ ∧ _))

variable {s t : Step}

theorem reads_text (hread : s.IsRead) (hbare : s.IsBareStep) : Reads s.text s := by
  rcases s with text | ⟨name, argument⟩ | ⟨name, argument⟩
  · have h := Reads.ofValue hread
    rwa [hbare.2.unquote_eq, String.ofList_toList] at h
  · have h := hread.reads_attribute hbare.1 argument
    rwa [hbare.2.unquote_eq, String.ofList_toList] at h
  · have h := hread.reads_directive argument
    rwa [IsBare.unquote_eq hbare, String.ofList_toList] at h

theorem text_ne_nil (hbare : s.IsBareStep) : s.text ≠ [] := by
  rcases s with text | ⟨name, argument⟩ | ⟨name, argument⟩
  · simpa [Step.text] using hbare.1
  · simp [Step.text]
  · simp [Step.text]

theorem isStripped_text (hread : s.IsRead) (hbare : s.IsBareStep) : IsStripped s.text := by
  rcases s with text | ⟨name, argument⟩ | ⟨name, argument⟩
  · exact hbare.2.1
  · exact hread.isStripped_attribute hbare.2.1.2
  · exact hread.isStripped_directive hbare.1.2

theorem parts_text (hread : s.IsRead) (hplain : s.IsPlain) :
    parts (pieces ';' false s.text) = [s.text] := by
  have hwhole : pieces ';' false s.text = [s.text] :=
    (pieces_eq_self_iff (by decide) s.text).mpr hplain.1
  have hstrip : strip s.text = s.text :=
    strip_eq_self_of_isStripped (isStripped_text hread hplain.2)
  simp [parts, hwhole, hstrip, text_ne_nil hplain.2]

/-! ### Steps that read as others -/

/-- Twice the length of the text, and one more for an attribute, which may be read as a directive of
the same text. -/
def Step.weight (s : Step) : Nat :=
  match s with
  | .attribute _ _ => 2 * s.text.length + 1
  | _ => 2 * s.text.length

theorem le_weight (s : Step) : 2 * s.text.length ≤ s.weight := by
  match s with
  | .value _ => exact Nat.le_refl _
  | .attribute _ _ => exact Nat.le_succ _
  | .directive _ _ => exact Nat.le_refl _

theorem weight_le (s : Step) : s.weight ≤ 2 * s.text.length + 1 := by
  match s with
  | .value _ => exact Nat.le_succ _
  | .attribute _ _ => exact Nat.le_refl _
  | .directive _ _ => exact Nat.le_succ _

/-- A colon at the end of the name makes the text that of a directive. -/
theorem Reads.weight_of_colon {name argument : List Char} (h : Reads (name ++ '=' :: argument) s)
    (hname : '=' ∉ name) (hcolon : name.getLast? = some ':') : s.weight = 2 * s.text.length := by
  generalize hpart : name ++ '=' :: argument = part at h
  cases h with
  | ofValue _ => rfl
  | ofAttribute hname' hcolon' _ =>
    have htake := congrArg (List.takeWhile (· ≠ '=')) hpart
    rw [takeWhile_ne_append hname, takeWhile_ne_append hname'] at htake
    exact absurd (htake ▸ hcolon) hcolon'
  | ofDirective _ _ => rfl

/-- A step that is read from a text as long as its own shows that no text was taken apart, or it is
a directive that is read from an attribute. -/
theorem Reads.bare_or_lighter (h : Reads t.text s) (hread : t.IsRead) (hne : t.text ≠ [])
    (hlength : s.text.length = t.text.length) : t.IsBareStep ∨ s.weight < t.weight := by
  rcases t with text | ⟨name, argument⟩ | ⟨name, argument⟩
  · obtain rfl := h.unique (.ofValue hread)
    have hkept : (unquote text.toList).length = text.toList.length := by
      simpa [Step.text] using hlength
    refine .inl ⟨?_, (isBare_of_length_unquote hkept).1⟩
    rintro rfl
    exact hne rfl
  · by_cases hcolon : name.toList.getLast? = some ':'
    · have hweight := h.weight_of_colon hread.2.2 hcolon
      rw [hlength] at hweight
      exact .inr (hweight ▸ Nat.lt_succ_self _)
    · obtain rfl := h.unique (hread.reads_attribute hcolon argument)
      have hkept : (unquote argument.toList).length = argument.toList.length := by
        simpa [Step.text] using hlength
      exact .inl ⟨hcolon, (isBare_of_length_unquote hkept).1⟩
  · obtain rfl := h.unique (hread.reads_directive argument)
    have hkept : (unquote argument.toList).length = argument.toList.length := by
      simpa [Step.text] using hlength
    exact .inl (isBare_of_length_unquote hkept).1

/-- What is read from the text of a step is the step, when it is plain, and lighter than the step,
when it is not. -/
theorem Reads.plain_or_lighter {part : List Char} (h : Reads part s) (hread : t.IsRead)
    (hpart : part ∈ parts (pieces ';' false t.text)) :
    (t.IsPlain ∧ s = t) ∨ (¬ t.IsPlain ∧ s.weight < t.weight) := by
  by_cases hplain : t.IsPlain
  · rw [parts_text hread hplain, List.mem_singleton] at hpart
    exact .inl ⟨hplain, (hpart ▸ h).unique (reads_text hread hplain.2)⟩
  · refine .inr ⟨hplain, ?_⟩
    obtain ⟨hmem, hnonempty⟩ := List.mem_filter.mp hpart
    obtain ⟨piece, hpiece, rfl⟩ := List.mem_map.mp hmem
    have hs := weight_le s
    have ht := le_weight t
    have hsp := h.length_text_le
    have hstrip := strip_length_le piece
    by_cases hwhole : pieces ';' false t.text = [t.text]
    · -- The text is not cut, so that it has to be a blank or a mark that was taken away.
      rw [hwhole, List.mem_singleton] at hpiece
      subst hpiece
      by_contra hheavy
      have hlength : s.text.length = t.text.length := by omega
      have hself : strip t.text = t.text :=
        (strip_sublist t.text).eq_of_length (by omega)
      rw [hself] at h hnonempty
      have hne : t.text ≠ [] := by simpa using hnonempty
      rcases h.bare_or_lighter hread hne hlength with hbare | hlighter
      · exact hplain ⟨(pieces_eq_self_iff (by decide) t.text).mp hwhole, hbare⟩
      · exact hheavy hlighter
    · have hshort := length_lt_of_mem_pieces hwhole hpiece
      omega

/-! ### Clauses that read as themselves -/

/-- A clause as reading makes it. -/
structure IsRead (e : Clause) : Prop where
  hasMappings : e.HasMappings
  isRead : ∀ s ∈ e.steps, s.IsRead
  quotesBalanced : ∀ s ∈ e.steps, quotesBalanced s.text = true

variable {clause : String} {e f : Clause}

theorem quotesBalanced_of_mem_parts {cs part : List Char} (h : quotesBalanced cs = true)
    (hpart : part ∈ parts (pieces ';' false cs)) : quotesBalanced part = true := by
  obtain ⟨piece, hpiece, rfl⟩ := List.mem_map.mp (List.mem_filter.mp hpart).1
  rw [quotesBalanced_strip]
  exact quotesBalanced_of_mem_pieces h hpiece

theorem isRead_of_parse (h : parse clause = .ok e) : e.IsRead := by
  rw [parse, parseChars, split_eq] at h
  by_cases hquotes : quotesBalanced clause.toList = true
  · simp only [hquotes, if_true] at h
    obtain ⟨ss, rfl, hreads⟩ := addParts_reads h
    have hmem : ∀ s ∈ (ss.foldl add empty).steps, s ∈ ss := fun s hs =>
      (mem_steps_foldl_add hs).resolve_left List.not_mem_nil
    refine ⟨exists_ofSteps_eq_iff.mp ⟨ss, rfl⟩, ?_, ?_⟩
    · intro s hs
      obtain ⟨part, -, hpart⟩ := hreads s (hmem s hs)
      exact hpart.isRead
    · intro s hs
      obtain ⟨part, hmem, hpart⟩ := hreads s (hmem s hs)
      rw [hpart.quotesBalanced_text]
      exact quotesBalanced_of_mem_parts hquotes hmem
  · simp [hquotes] at h

theorem same_self (h : e.HasMappings) : e.same e = true := by
  simp [same, h.1.same_self, h.2.same_self]

theorem mem_steps_of_same (h : f.HasMappings) (hsame : f.same e = true) {s : Step}
    (hs : s ∈ e.steps) : s ∈ f.steps := by
  simp only [same, Bool.and_eq_true, List.all_eq_true, List.contains_iff_mem] at hsame
  obtain ⟨⟨⟨_, hvalues⟩, hdirectives⟩, hattributes⟩ := hsame
  simp only [steps, List.mem_append, List.mem_map] at hs ⊢
  rcases hs with ⟨text, htext, rfl⟩ | ⟨d, hd, rfl⟩ | ⟨a, ha, rfl⟩
  · exact .inl ⟨text, hvalues text htext, rfl⟩
  · exact .inr (.inl ⟨d, (h.2.perm_of_same hdirectives).mem_iff.mpr hd, rfl⟩)
  · exact .inr (.inr ⟨a, (h.1.perm_of_same hattributes).mem_iff.mpr ha, rfl⟩)

/-- The parts of a rendered clause are the parts of the texts of its steps. -/
theorem parse_render (h : e.IsRead) : parse e.render =
    addParts e.render.toList empty (e.steps.flatMap fun s => parts (pieces ';' false s.text)) := by
  have hsep : ';' ≠ '"' := by decide
  have hbalanced : ∀ text ∈ e.steps.map Step.text, quotesBalanced text = true :=
    List.forall_mem_map.mpr h.quotesBalanced
  have hrender : quotesBalanced e.render.toList = true := by
    rw [toList_render]
    exact quotesBalanced_intercalate hsep hbalanced
  have hparts : parts (pieces ';' false e.render.toList) =
      e.steps.flatMap fun s => parts (pieces ';' false s.text) := by
    rw [toList_render]
    cases hsteps : e.steps with
    | nil => rfl
    | cons s ss =>
      rw [← hsteps, pieces_intercalate hsep (by simp [hsteps]) hbalanced]
      simp only [parts, List.flatMap_map, List.map_flatMap, List.filter_flatMap]
  rw [parse, parseChars, split_eq, if_pos hrender]
  simp only [hparts]

theorem parse_render_of_isPlain (h : e.IsRead) (hplain : ∀ s ∈ e.steps, s.IsPlain) :
    parse e.render = .ok e := by
  have hparts : (e.steps.flatMap fun s => parts (pieces ';' false s.text)) =
      e.steps.map Step.text := by
    rw [List.map_eq_flatMap]
    exact List.flatMap_congr fun s hs => parts_text (h.isRead s hs) (hplain s hs)
  rw [parse_render h, hparts]
  exact addParts_text_steps h.hasMappings fun s hs => reads_text (h.isRead s hs) (hplain s hs).2

theorem isPlain_of_same (h : e.IsRead) (hparse : parse e.render = .ok f)
    (hsame : f.same e = true) : ∀ s ∈ e.steps, s.IsPlain := by
  rw [parse_render h] at hparse
  obtain ⟨ss, rfl, hreads⟩ := addParts_reads hparse
  have hmappings := exists_ofSteps_eq_iff.mp ⟨ss, rfl⟩
  -- Each step of the clause was read back from one of its steps, which may be another one.
  have hsource : ∀ s ∈ e.steps, s.IsPlain ∨ ∃ t ∈ e.steps, ¬ t.IsPlain ∧ s.weight < t.weight := by
    intro s hs
    have hmem := mem_steps_of_same hmappings hsame hs
    obtain ⟨part, hpart, hread⟩ :=
      hreads s ((mem_steps_foldl_add hmem).resolve_left List.not_mem_nil)
    obtain ⟨t, ht, hpart⟩ := List.mem_flatMap.mp hpart
    rcases hread.plain_or_lighter (h.isRead t ht) hpart with ⟨hplain, rfl⟩ | hlighter
    · exact .inl hplain
    · exact .inr ⟨t, ht, hlighter⟩
  classical
  by_contra hsome
  obtain ⟨s, hs, hnot⟩ : ∃ s ∈ e.steps, ¬ s.IsPlain := by simpa using hsome
  obtain ⟨heaviest, hmem, hmax⟩ := (e.steps.toFinset.filter fun s => ¬ s.IsPlain).exists_max_image
    Step.weight ⟨s, by simp [hs, hnot]⟩
  simp only [Finset.mem_filter, List.mem_toFinset] at hmem hmax
  obtain ⟨t, ht, hnot', hweight⟩ := (hsource heaviest hmem.1).resolve_left hmem.2
  exact absurd (hmax t ⟨ht, hnot'⟩) (Nat.not_le.mpr hweight)

/-- A rendered clause that reads as the same clause reads as the clause itself, and that is when
reading takes no text in it apart. -/
theorem parse_render_iff (h : parse clause = .ok e) :
    ((∃ f, parse e.render = .ok f ∧ f.same e = true) ↔ parse e.render = .ok e) ∧
      (parse e.render = .ok e ↔ ∀ s ∈ e.steps, s.IsPlain) := by
  have hread := isRead_of_parse h
  have hself : parse e.render = .ok e → ∃ f, parse e.render = .ok f ∧ f.same e = true :=
    fun hparse => ⟨e, hparse, same_self hread.hasMappings⟩
  have hplain : (∃ f, parse e.render = .ok f ∧ f.same e = true) → ∀ s ∈ e.steps, s.IsPlain := by
    rintro ⟨f, hparse, hsame⟩
    exact isPlain_of_same hread hparse hsame
  have hback := parse_render_of_isPlain hread
  exact ⟨⟨fun hsame => hback (hplain hsame), hself⟩,
    ⟨fun hparse => hplain (hself hparse), hback⟩⟩

def marked : Clause :=
  ⟨["org.a"], ⟨[("note", "b\"c;d\"e"), ("version", "[1,2)")]⟩, ⟨[("resolution", "optional")]⟩⟩

/-- The marks inside the note are kept, and those around the version were not needed. -/
theorem parse_render_marked :
    parse ("org.a;note=b\"c;d\"e;version=\"[1,2)\";resolution" ++ ":=optional") = .ok marked ∧
      parse marked.render = .ok marked := by
  have hparse : parse ("org.a;note=b\"c;d\"e;version=\"[1,2)\";resolution" ++ ":=optional") =
    .ok marked := rfl
  exact ⟨hparse, (parse_render_iff hparse).2.mpr (by decide)⟩

/-- A semicolon that stood between marks cuts the rendered clause. -/
theorem parse_render_cut :
    parse "a;note=\"x;y\"" = .ok ⟨["a"], ⟨[("note", "x;y")]⟩, {}⟩ ∧
      parse (render ⟨["a"], ⟨[("note", "x;y")]⟩, {}⟩) =
        .error (.lateValue "y" "a;note=x;y") :=
  ⟨rfl, rfl⟩

/-! ### Clauses without marks and semicolons -/

/-- A value or a name that rendering and reading leave as it is. -/
def IsWord (cs : List Char) : Prop :=
  (cs ≠ [] ∧ IsStripped cs) ∧ ';' ∉ cs ∧ '"' ∉ cs ∧ '=' ∉ cs

/-- An argument that rendering and reading leave as it is; it may be empty or hold equals signs. -/
def IsLoose (cs : List Char) : Prop := IsStripped cs ∧ ';' ∉ cs ∧ '"' ∉ cs

def Step.IsClear : Step → Prop
  | .value text => IsWord text.toList
  | .attribute name argument =>
    (IsWord name.toList ∧ name.toList.getLast? ≠ some ':') ∧ IsLoose argument.toList
  | .directive name argument => IsWord name.toList ∧ IsLoose argument.toList

instance : DecidablePred IsWord := fun cs =>
  inferInstanceAs (Decidable ((cs ≠ [] ∧ IsStripped cs) ∧ _))

instance : DecidablePred IsLoose := fun cs => inferInstanceAs (Decidable (IsStripped cs ∧ _))

instance : DecidablePred Step.IsClear
  | .value text => inferInstanceAs (Decidable (IsWord text.toList))
  | .attribute _ _ => inferInstanceAs (Decidable ((_ ∧ _) ∧ _))
  | .directive _ _ => inferInstanceAs (Decidable (_ ∧ _))

theorem IsWord.isName {cs : List Char} (h : IsWord cs) : IsName cs := ⟨h.1.1, h.1.2, h.2.2.2⟩

theorem IsLoose.isBare {cs : List Char} (h : IsLoose cs) : IsBare cs :=
  isBare_of_not_mem h.1 h.2.2

theorem Step.IsClear.isRead (h : s.IsClear) : s.IsRead := by
  rcases s with text | ⟨name, argument⟩ | ⟨name, argument⟩
  · exact h.2.2.2
  · exact h.1.1.isName
  · exact h.1.isName

theorem Step.IsClear.isBareStep (h : s.IsClear) : s.IsBareStep := by
  rcases s with text | ⟨name, argument⟩ | ⟨name, argument⟩
  · refine ⟨?_, isBare_of_not_mem h.1.2 h.2.2.1⟩
    rintro rfl
    exact h.1.1 rfl
  · exact ⟨h.1.2, h.2.isBare⟩
  · exact h.2.isBare

theorem Step.IsClear.not_mem_text {c : Char} (hc : c = ';' ∨ c = '"') (h : s.IsClear) :
    c ∉ s.text := by
  have hequals : c ≠ '=' := by rcases hc with rfl | rfl <;> decide
  have hcolon : c ≠ ':' := by rcases hc with rfl | rfl <;> decide
  have hword : ∀ {cs : List Char}, IsWord cs → c ∉ cs := by
    intro cs hcs
    rcases hc with rfl | rfl
    · exact hcs.2.1
    · exact hcs.2.2.1
  have hloose : ∀ {cs : List Char}, IsLoose cs → c ∉ cs := by
    intro cs hcs
    rcases hc with rfl | rfl
    · exact hcs.2.1
    · exact hcs.2.2
  rcases s with text | ⟨name, argument⟩ | ⟨name, argument⟩
  · exact hword h
  · simp [Step.text, hequals, hword h.1.1, hloose h.2]
  · simp [Step.text, hequals, hcolon, hword h.1, hloose h.2]

/-- A clause whose texts hold neither marks nor semicolons is read back as it was rendered. -/
theorem parse_render_of_isClear (hmappings : e.HasMappings) (hclear : ∀ s ∈ e.steps, s.IsClear) :
    parse e.render = .ok e := by
  have hread : e.IsRead := by
    refine ⟨hmappings, fun s hs => (hclear s hs).isRead, fun s hs => ?_⟩
    exact quotesBalanced_of_not_mem ((hclear s hs).not_mem_text (.inr rfl))
  refine parse_render_of_isPlain hread fun s hs => ⟨?_, (hclear s hs).isBareStep⟩
  exact isWhole_of_not_mem ((hclear s hs).not_mem_text (.inl rfl))

def ranged : Clause :=
  ⟨["a,b", "c:"], ⟨[("range", "x:=[1,2)=y"), ("note", "")]⟩, ⟨[("d:", "=")]⟩⟩

/-- Equals signs and colons inside the arguments, and an argument that is empty. -/
theorem parse_render_of_isClear_ranged :
    (ranged.HasMappings ∧ ∀ s ∈ ranged.steps, s.IsClear) ∧
      ranged.render = "a,b;c:;d::==;range=x:=[1,2)=y;note=" ∧ parse ranged.render = .ok ranged := by
  have hmappings : ranged.HasMappings := ⟨by decide, by decide⟩
  have hclear : ∀ s ∈ ranged.steps, s.IsClear := by decide
  exact ⟨⟨hmappings, hclear⟩, rfl, parse_render_of_isClear hmappings hclear⟩

end OsgiIvy.Manifest.Clause
