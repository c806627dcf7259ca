import OsgiIvy.Manifest.Clause
import OsgiIvy.Proofs.Manifest.Quotes
import OsgiIvy.Proofs.Outcomes

/-!
# Headers and their clauses

Cutting a header at its commas leaves every clause with marks that pair up, so that a mark that is
left open is found in the header as a whole and never in one of its clauses.  Two headers with a
comma between them are therefore read one after the other (`parseHeader_comma`).
-/

namespace OsgiIvy.Manifest

open OsgiIvy.Text

/-! ### Clauses one by one -/

/-- Clauses that are blank are passed over, and the first that is malformed ends the reading. -/
theorem parseClauses_eq_mapM (clauses : List (List Char)) :
    parseClauses clauses = (clauses.filter (!isBlankText ·)).mapM Clause.parseChars := by
  induction clauses with
  | nil => rfl
  | cons clause clauses ih =>
    rw [parseClauses, List.filter_cons]
    cases hblank : isBlankText clause with
    | true => exact ih
    | false =>
      simp only [Bool.not_false, Bool.false_eq_true, if_false, if_true, List.mapM_cons, ih]
      cases Clause.parseChars clause with
      | error fault => rfl
      | ok e =>
        cases (clauses.filter (!isBlankText ·)).mapM Clause.parseChars with
        | error fault => rfl
        | ok es => rfl

theorem parseClauses_append (clauses more : List (List Char)) :
    parseClauses (clauses ++ more) = do
      let es ← parseClauses clauses
      let fs ← parseClauses more
      return es ++ fs := by
  simp only [parseClauses_eq_mapM, List.filter_append, List.mapM_append]

/-- A blank header is one blank clause. -/
theorem parseHeader_eq (header : String) : parseHeader header =
    if quotesBalanced header.toList then parseClauses (pieces ',' false header.toList)
    else .error (.openQuote header) := by
  by_cases hblank : isBlankText header.toList = true
  · have hnone : ∀ c, isBlank c = false → c ∉ header.toList := by
      intro c hc hmem
      rw [List.all_eq_true.mp hblank c hmem] at hc
      exact Bool.noConfusion hc
    have hone : pieces ',' false header.toList = [header.toList] :=
      (pieces_eq_self_iff (by decide) _).mpr (isWhole_of_not_mem (hnone ',' (by decide)))
    have hquotes : quotesBalanced header.toList = true :=
      quotesBalanced_of_not_mem (hnone '"' (by decide))
    simp only [parseHeader, parseClauses, hone, hquotes, hblank, if_true]
  · by_cases hquotes : quotesBalanced header.toList = true
    · simp [parseHeader, split_eq, hblank, hquotes]
    · simp [parseHeader, split_eq, hblank, hquotes]

theorem parseHeader_append_comma {a b : String} (ha : quotesBalanced a.toList = true)
    (hb : quotesBalanced b.toList = true) :
    parseHeader (a ++ "," ++ b) = do
      let es ← parseHeader a
      let fs ← parseHeader b
      return es ++ fs := by
  have htext : (a ++ "," ++ b).toList = a.toList ++ ',' :: b.toList := by simp
  have hquotes : quotesBalanced (a.toList ++ ',' :: b.toList) = true := by
    rw [quotesBalanced_append, quotesBalanced_cons (by decide), ha, hb, BEq.rfl]
  have hcut : pieces ',' false (a.toList ++ ',' :: b.toList) =
      pieces ',' false a.toList ++ pieces ',' false b.toList :=
    pieces_append (by decide) ha b.toList
  rw [parseHeader_eq, parseHeader_eq, parseHeader_eq, htext, if_pos hquotes, if_pos ha, if_pos hb,
    hcut, parseClauses_append]

theorem parseClauses_append_blank (clauses : List (List Char)) {blank : List Char}
    (h : isBlankText blank = true) : parseClauses (clauses ++ [blank]) = parseClauses clauses := by
  rw [parseClauses_eq_mapM, parseClauses_eq_mapM, List.filter_append]
  simp [h]

/-- Clauses whose marks pair up are cut out one by one, whatever follows them. -/
theorem parseHeader_intercalate_append {texts more : List String}
    (h : ∀ text ∈ texts, quotesBalanced text.toList = true) :
    parseHeader (",".intercalate (texts ++ more)) =
      if quotesBalanced (",".intercalate more).toList then
        parseClauses (texts.flatMap (fun text => pieces ',' false text.toList) ++
          pieces ',' false (",".intercalate more).toList)
      else .error (.openQuote (",".intercalate (texts ++ more))) := by
  have hcomma : ",".toList = [','] := rfl
  have htexts : ∀ text ∈ texts.map String.toList, quotesBalanced text = true :=
    List.forall_mem_map.mpr h
  rw [parseHeader_eq, String.toList_intercalate, String.toList_intercalate, hcomma,
    List.map_append, quotesBalanced_intercalate_append (by decide) htexts]
  split
  · by_cases hmore : more = []
    · subst hmore
      have hblank : pieces ',' false ([','].intercalate ([].map String.toList)) = [[]] := rfl
      rw [hblank, parseClauses_append_blank _ rfl, List.map_nil, List.append_nil]
      by_cases hnil : texts = []
      · subst hnil
        rfl
      · rw [pieces_intercalate (by decide) (by simpa using hnil) htexts, List.flatMap_map]
    · rw [pieces_intercalate_append (by decide) (by simpa using hmore) htexts, List.flatMap_map]
  · rfl

/-! ### Marks that are left open -/

theorem stepOf_ne_openQuote {clause part : List Char} {hasParameters : Bool} {text : String} :
    Clause.stepOf clause hasParameters part ≠ .error (.openQuote text) := by
  unfold Clause.stepOf
  split <;> split <;> simp

theorem addParts_ne_openQuote {clause : List Char} {e : Clause} {ps : List (List Char)}
    {text : String} : Clause.addParts clause e ps ≠ .error (.openQuote text) := by
  induction ps generalizing e with
  | nil => simp [Clause.addParts]
  | cons part ps ih =>
    rw [Clause.addParts]
    split
    · exact ih
    · next fault hfault =>
      intro h
      rw [Except.error.inj h] at hfault
      exact stepOf_ne_openQuote hfault

theorem not_quotesBalanced_iff {cs : List Char} :
    ¬ quotesBalanced cs = true ↔ cs.count '"' % 2 = 1 := by
  simp [quotesBalanced]

theorem parseChars_eq_openQuote_iff {cs : List Char} {text : String} :
    Clause.parseChars cs = .error (.openQuote text) ↔
      cs.count '"' % 2 = 1 ∧ text = String.ofList cs := by
  rw [← not_quotesBalanced_iff, Clause.parseChars, split_eq]
  by_cases hquotes : quotesBalanced cs = true
  · simp [hquotes, addParts_ne_openQuote]
  · simp [hquotes, eq_comm]

theorem parseClauses_ne_openQuote {clauses : List (List Char)}
    (h : ∀ clause ∈ clauses, quotesBalanced clause = true) {text : String} :
    parseClauses clauses ≠ .error (.openQuote text) := by
  intro herror
  rw [parseClauses_eq_mapM] at herror
  obtain ⟨before, clause, after, hclauses, -, hfault⟩ := first_of_mapM_eq_error herror
  have hmem : clause ∈ clauses.filter (!isBlankText ·) := by simp [hclauses]
  have hodd := (parseChars_eq_openQuote_iff.mp hfault).1
  exact not_quotesBalanced_iff.mpr hodd (h clause (List.mem_filter.mp hmem).1)

/-- The fault quotes the whole header. -/
theorem parseHeader_eq_openQuote_iff {header text : String} :
    parseHeader header = .error (.openQuote text) ↔
      header.toList.count '"' % 2 = 1 ∧ text = header := by
  rw [← not_quotesBalanced_iff, parseHeader_eq]
  by_cases hquotes : quotesBalanced header.toList = true
  · have hclauses : parseClauses (pieces ',' false header.toList) ≠ .error (.openQuote text) :=
      parseClauses_ne_openQuote fun clause hclause => quotesBalanced_of_mem_pieces hquotes hclause
    simp [hquotes, hclauses]
  · simp [hquotes, eq_comm]

theorem split_of_mem_split {cs clause : List Char} {clauses : List (List Char)}
    (h : split ',' cs = .ok clauses) (hclause : clause ∈ clauses) :
    ∃ ps, split ';' clause = .ok ps := by
  rw [split_eq] at h
  split at h
  · next hquotes =>
    rw [← Except.ok.inj h] at hclause
    have hbalanced := quotesBalanced_of_mem_pieces hquotes hclause
    exact ⟨_, by rw [split_eq, if_pos hbalanced]⟩
  · exact absurd h nofun

/-! ### Headers with a comma between them -/

/-- Headers whose marks pair up are read one after the other.  A mark is left open exactly where
the header has an odd number of them, and never in a clause that the commas cut out. -/
theorem parseHeader_comma {a b : String} (ha : a.toList.count '"' % 2 = 0)
    (hb : b.toList.count '"' % 2 = 0) :
    (∀ es, parseHeader (a ++ "," ++ b) = .ok es ↔
        ∃ fs gs, parseHeader a = .ok fs ∧ parseHeader b = .ok gs ∧ fs ++ gs = es) ∧
      (∀ fault, parseHeader (a ++ "," ++ b) = .error fault ↔
        parseHeader a = .error fault ∨
          ∃ fs, parseHeader a = .ok fs ∧ parseHeader b = .error fault) ∧
        ∀ header : String,
          (∀ text, parseHeader header = .error (.openQuote text) ↔
            header.toList.count '"' % 2 = 1 ∧ text = header) ∧
          ∀ clauses, split ',' header.toList = .ok clauses →
            ∀ clause ∈ clauses, ∃ ps, split ';' clause = .ok ps := by
  have happend := parseHeader_append_comma (decide_eq_true ha) (decide_eq_true hb)
  refine ⟨fun es => ?_, fun fault => ?_, fun header => ⟨fun text => ?_, fun clauses h => ?_⟩⟩
  · simp [happend, bind_eq_ok, pure_eq_ok]
  · simp [happend, bind_eq_error, pure_eq_ok]
  · exact parseHeader_eq_openQuote_iff
  · exact fun clause hclause => split_of_mem_split h hclause

/-- The comma inside the marks does not cut, and the second header fails in its second clause. -/
theorem parseHeader_comma_late :
    ("a;v=\"x,y\"".toList.count '"' % 2 = 0 ∧ " ,b;w=1;c".toList.count '"' % 2 = 0) ∧
      parseHeader ("a;v=\"x,y\"" ++ "," ++ " ,b;w=1;c") = .error (.lateValue "c" "b;w=1;c") := by
  have ha : "a;v=\"x,y\"".toList.count '"' % 2 = 0 := by decide
  have hb : " ,b;w=1;c".toList.count '"' % 2 = 0 := by decide
  exact ⟨⟨ha, hb⟩, ((parseHeader_comma ha hb).2.1 _).mpr (.inr ⟨_, rfl, rfl⟩)⟩

end OsgiIvy.Manifest
