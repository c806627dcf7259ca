import OsgiIvy.Manifest.Section
import OsgiIvy.Proofs.Mappings
import OsgiIvy.Proofs.Text.Blanks
import OsgiIvy.Proofs.Text.Lines
import OsgiIvy.Proofs.Text.Pieces

/-!
# Folded headers

The value of a header may be folded: its first chunk stands on the line of the header, and each
further chunk on a line of its own behind one space.  Reading joins the chunks again, but it takes
the blanks from the end of the first line before it does so, and it takes a line of blanks for the
end of the section (`parse_folded`).  So a header can be folded anywhere but behind a blank of its
first chunk, and around no chunk of blanks (`parse_folded_eq_iff`).
-/

namespace OsgiIvy.Manifest

open OsgiIvy.Text

/-- A name that a header can be written with. -/
structure IsHeaderName (name : List Char) : Prop where
  ne_nil : name ≠ []
  stripped : IsStripped name
  no_colon : ':' ∉ name
  oneLine : IsOneLine name

/-- A value as reading gives it. -/
structure IsHeaderValue (value : List Char) : Prop where
  ne_nil : value ≠ []
  stripped : IsStripped value
  oneLine : IsOneLine value

def headerLine (name value : List Char) : List Char := name ++ ':' :: ' ' :: value

/-- A manifest with one header, whose value is folded. -/
def folded (name first : List Char) (more : List (List Char)) : String :=
  String.ofList (writeLines (headerLine name first :: more.map (' ' :: ·)))

/-! ### Lines -/

theorem ofChars_header {name : List Char} (h : IsHeaderName name) (value : List Char) :
    Line.ofChars (name ++ ':' :: value) = .header name (strip value) := by
  have hname : isBlankText name = false := isBlankText_false_of_isStripped h.ne_nil h.stripped
  have hline : isBlankText (name ++ ':' :: value) = false := by
    rw [isBlankText] at hname ⊢
    rw [List.all_append, hname, Bool.false_and]
  have hcut : (name ++ ':' :: value).takeWhile (· ≠ ':') = name :=
    takeWhile_ne_append h.no_colon _
  have hrest : (name ++ ':' :: value).dropWhile (· ≠ ':') = ':' :: value :=
    dropWhile_ne_append h.no_colon _
  have hempty : name.isEmpty = false := by simp [h.ne_nil]
  -- The name does not begin with a space, as it has no blanks at its ends.
  have hhead : ∀ chunk, name ++ ':' :: value ≠ ' ' :: chunk := by
    have hspace : isBlank ' ' = true := by decide
    intro chunk heq
    obtain ⟨c, cs, rfl⟩ := List.exists_cons_of_ne_nil h.ne_nil
    have hc : isBlank c = false := h.stripped.1 c rfl
    rw [List.cons_append, List.cons.injEq] at heq
    rw [heq.1, hspace] at hc
    exact Bool.noConfusion hc
  rw [Line.ofChars, hline, if_neg Bool.false_ne_true]
  · simp only [hcut, hrest, strip_eq_self_of_isStripped h.stripped, hempty, Bool.false_eq_true,
      if_false]
  · exact hhead

theorem ofChars_continuation (chunk : List Char) : Line.ofChars (' ' :: chunk) =
    if isBlankText chunk then .blank else .continuation chunk := by
  have hspace : isBlankText (' ' :: chunk) = isBlankText chunk := by
    rw [isBlankText, List.all_cons, isBlankText]
    exact Bool.true_and _
  rw [Line.ofChars, hspace]

theorem ofChars_blank {line : List Char} (h : isBlankText line = true) :
    Line.ofChars line = .blank := if_pos h

/-! ### Reading the lines -/

section Reading

variable (n : Nat) (headers : Headers) (last : Option String)

theorem readSection_header {name : List Char} (h : IsHeaderName name) (value : List Char)
    (rest : List (List Char)) : readSection n headers last ((name ++ ':' :: value) :: rest) =
      readSection (n + 1) (headers.put (String.ofList name) (String.ofList (strip value)))
        (some (String.ofList name)) rest := by
  rw [readSection, ofChars_header h]

/-- Chunks that are not blank go on with the value of the header above them. -/
theorem readSection_continuations (name value : String) {chunks : List (List Char)}
    (h : ∀ chunk ∈ chunks, isBlankText chunk = false) (rest : List (List Char)) :
    readSection n (headers.put name value) (some name) (chunks.map (' ' :: ·) ++ rest) =
      readSection (n + chunks.length)
        (headers.put name (value ++ String.ofList chunks.flatten)) (some name) rest := by
  induction chunks generalizing n value with
  | nil => simp
  | cons chunk chunks ih =>
    obtain ⟨hchunk, hchunks⟩ := List.forall_mem_cons.mp h
    have hjoined : (headers.put name value).alter name
        (fun old => old.getD "" ++ String.ofList chunk) =
          headers.put name (value ++ String.ofList chunk) :=
      congrArg Assoc.mk (Assoc.alterEntries_alterEntries name _ _ headers.entries)
    have hcount : n + (chunk :: chunks).length = n + 1 + chunks.length := by
      rw [List.length_cons]
      omega
    rw [List.map_cons, List.cons_append, readSection, ofChars_continuation, hchunk,
      if_neg Bool.false_ne_true]
    simp only [hjoined]
    rw [ih (n + 1) _ hchunks, hcount, List.flatten_cons, String.ofList_append,
      String.append_assoc]

variable {headers}

/-- Behind a header a blank line ends the section. -/
theorem readSection_blank (h : headers.isEmpty = false) {line : List Char}
    (hline : isBlankText line = true) (rest : List (List Char)) :
    readSection n headers last (line :: rest) = .ok headers := by
  rw [readSection, ofChars_blank hline, h]
  rfl

end Reading

theorem parse_folded {name first : List Char} {more : List (List Char)} (hname : IsHeaderName name)
    (hfirst : ∀ c, first.head? = some c → isBlank c = false)
    (hlines : ∀ chunk ∈ first :: more, IsOneLine chunk) :
    parse (folded name first more) = .ok ⟨[(String.ofList name, String.ofList (stripEnd first ++
      (more.takeWhile fun chunk => !isBlankText chunk).flatten))]⟩ := by
  have hspace : isLineEnd ' ' = false := by decide
  have hcolon : isLineEnd ':' = false := by decide
  obtain ⟨hone, hmore⟩ := List.forall_mem_cons.mp hlines
  have hall : ∀ l ∈ headerLine name first :: more.map (' ' :: ·), IsOneLine l := by
    refine List.forall_mem_cons.mpr ⟨?_, ?_⟩
    · exact hname.oneLine.append ((hone.cons hspace).cons hcolon)
    · intro l hl
      obtain ⟨chunk, hchunk, rfl⟩ := List.mem_map.mp hl
      exact (hmore chunk hchunk).cons hspace
  have hvalue : strip (' ' :: first) = stripEnd first := by
    rw [strip_cons_of_blank (by decide), strip, (stripStart_eq_self_iff first).mpr hfirst]
  -- The chunks up to the first of blanks go on with the value.
  let filled : List Char → Bool := fun chunk => !isBlankText chunk
  have hfilled : ∀ chunk ∈ more.takeWhile filled, isBlankText chunk = false := by
    intro chunk hchunk
    simpa [filled] using List.mem_takeWhile_imp hchunk
  have hcut : more.map (' ' :: ·) =
      (more.takeWhile filled).map (' ' :: ·) ++ (more.dropWhile filled).map (' ' :: ·) := by
    rw [← List.map_append, List.takeWhile_append_dropWhile]
  rw [parse, folded, String.toList_ofList, parseChars, lines_writeLines hall, headerLine,
    readSection_header 1 _ _ hname, hvalue, hcut, readSection_continuations _ _ _ _ hfilled,
    ← String.ofList_append]
  cases hrest : more.dropWhile filled with
  | nil => rfl
  | cons chunk rest =>
    have hhead := List.head?_dropWhile_not filled more
    have hblank : isBlankText (' ' :: chunk) = true := by
      rw [hrest] at hhead
      simpa [filled, isBlankText, show isBlank ' ' = true from rfl] using hhead
    rw [List.map_cons]
    exact readSection_blank _ _ rfl hblank _

/-! ### Folding -/

/-- Nothing is lost exactly when the first chunk has no blanks at its end and no further chunk is
passed over. -/
theorem stripEnd_append_flatten_eq_iff {first : List Char} {more : List (List Char)}
    (hne : ∀ chunk ∈ more, chunk ≠ []) (p : List Char → Bool) :
    stripEnd first ++ (more.takeWhile p).flatten = first ++ more.flatten ↔
      stripEnd first = first ∧ ∀ chunk ∈ more, p chunk = true := by
  constructor
  · intro h
    obtain ⟨blanks, -, hblanks⟩ := stripEnd_append_blanks first
    have hmore : (more.takeWhile p).flatten ++ (more.dropWhile p).flatten = more.flatten := by
      rw [← List.flatten_append, List.takeWhile_append_dropWhile]
    have hlength := congrArg List.length h
    rw [← hmore] at hlength
    have hfirst := congrArg List.length hblanks
    simp only [List.length_append] at hlength hfirst
    have hnone : blanks = [] := List.eq_nil_of_length_eq_zero (by omega)
    have hdropped : (more.dropWhile p).flatten = [] :=
      List.eq_nil_of_length_eq_zero (by omega)
    refine ⟨by rw [hnone, List.append_nil] at hblanks; exact hblanks, ?_⟩
    rw [← List.dropWhile_eq_nil_iff, List.eq_nil_iff_forall_not_mem]
    intro chunk hchunk
    have hmem : chunk ∈ more := (List.dropWhile_sublist p).mem hchunk
    exact hne chunk hmem (List.flatten_eq_nil_iff.mp hdropped chunk hchunk)
  · rintro ⟨hfirst, hmore⟩
    rw [hfirst, List.takeWhile_eq_self_iff.mpr hmore]

/-- A header reads as its value where it is not folded.  Folded it reads as the same value exactly
when the first chunk does not end with a blank and no further chunk consists of blanks. -/
theorem parse_folded_eq_iff {name value first : List Char} {more : List (List Char)}
    (hname : IsHeaderName name) (hvalue : IsHeaderValue value)
    (hcut : (first :: more).flatten = value) (hchunks : ∀ chunk ∈ first :: more, chunk ≠ []) :
    parse (folded name value []) = .ok ⟨[(String.ofList name, String.ofList value)]⟩ ∧
      (parse (folded name first more) = parse (folded name value []) ↔
        (∀ c, first.getLast? = some c → isBlank c = false) ∧
          ∀ chunk ∈ more, isBlankText chunk = false) := by
  obtain ⟨hne, hmore⟩ := List.forall_mem_cons.mp hchunks
  have hunfolded : parse (folded name value []) =
      .ok ⟨[(String.ofList name, String.ofList value)]⟩ := by
    have hone : ∀ chunk ∈ [value], IsOneLine chunk := by
      intro chunk hchunk
      exact List.mem_singleton.mp hchunk ▸ hvalue.oneLine
    have hend : stripEnd value = value := (stripEnd_eq_self_iff value).mpr hvalue.stripped.2
    rw [parse_folded hname hvalue.stripped.1 hone, hend]
    simp
  have hfirst : ∀ c, first.head? = some c → isBlank c = false := by
    intro c hc
    refine hvalue.stripped.1 c ?_
    rw [← hcut, List.flatten_cons, List.head?_append_of_ne_nil _ hne]
    exact hc
  have hlines : ∀ chunk ∈ first :: more, IsOneLine chunk := by
    intro chunk hchunk c hc
    exact hvalue.oneLine c (hcut ▸ List.mem_flatten.mpr ⟨chunk, hchunk, hc⟩)
  have hfolded := parse_folded hname hfirst hlines
  refine ⟨hunfolded, ?_⟩
  rw [hunfolded, hfolded, ← hcut, List.flatten_cons]
  simp only [Except.ok.injEq, Assoc.mk.injEq, List.cons.injEq, Prod.mk.injEq, and_true, true_and,
    String.ofList_inj]
  rw [stripEnd_append_flatten_eq_iff hmore, stripEnd_eq_self_iff]
  simp only [Bool.not_eq_true']

/-- Folded inside a word and in front of a blank. -/
theorem parse_folded_eq_packages :
    IsHeaderName "Import-Package".toList ∧ IsHeaderValue "org.example.api, org.b".toList ∧
      parse (folded "Import-Package".toList "org.exa".toList
          ["mple.api,".toList, " org.b".toList]) =
        parse (folded "Import-Package".toList "org.example.api, org.b".toList []) := by
  have hname : IsHeaderName "Import-Package".toList :=
    ⟨by decide, (strip_eq_self_iff _).mp (by decide), by decide, by decide⟩
  have hvalue : IsHeaderValue "org.example.api, org.b".toList :=
    ⟨by decide, (strip_eq_self_iff _).mp (by decide), by decide⟩
  refine ⟨hname, hvalue, ?_⟩
  refine (parse_folded_eq_iff hname hvalue (by decide) (by decide)).2.mpr ⟨?_, by decide⟩
  intro c hc
  have hlast : c = 'a' := (Option.some.inj hc).symm
  rw [hlast]
  decide

/-- Behind a blank of the first chunk the blank is lost, and behind a chunk of blanks all the
rest. -/
theorem parse_folded_blanks :
    parse (folded "N".toList "a b".toList []) = .ok ⟨[("N", "a b")]⟩ ∧
      parse (folded "N".toList "a ".toList ["b".toList]) = .ok ⟨[("N", "ab")]⟩ ∧
      parse (folded "N".toList "a".toList [" ".toList, "b".toList]) = .ok ⟨[("N", "a")]⟩ := by
  decide

end OsgiIvy.Manifest
