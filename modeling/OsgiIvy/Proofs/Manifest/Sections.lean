import OsgiIvy.Proofs.Manifest.Folding

/-!
# Sections of a manifest

A section is written header by header: the name, a colon and the first chunk of the value on one
line, and each further chunk behind a space on a line of its own.  Reading goes on from header to
header (`readSection_headers`), so that each name stands where it first occurs, with the value of
its last header (`parse_section`).  Blank lines in front of the section make no difference, nor does
anything behind the blank line that ends it.
-/

namespace OsgiIvy.Manifest

open OsgiIvy.Text

/-- A header as it is written into a section. -/
structure WrittenHeader where
  name : List Char
  first : List Char
  more : List (List Char)

namespace WrittenHeader

/-- The name is one that a header can have, each chunk stands on one line, and a chunk that goes on
with the value is not blank. -/
structure IsWritable (h : WrittenHeader) : Prop where
  name : IsHeaderName h.name
  first : IsOneLine h.first
  more : ∀ chunk ∈ h.more, IsOneLine chunk ∧ isBlankText chunk = false

def lines (h : WrittenHeader) : List (List Char) :=
  (h.name ++ ':' :: h.first) :: h.more.map (' ' :: ·)

/-- The value is the stripped first chunk with the others behind it as they are. -/
def entry (h : WrittenHeader) : String × String :=
  (String.ofList h.name, String.ofList (strip h.first ++ h.more.flatten))

variable {h : WrittenHeader}

theorem IsWritable.isOneLine_of_mem (hw : h.IsWritable) : ∀ line ∈ h.lines, IsOneLine line := by
  refine List.forall_mem_cons.mpr ⟨?_, List.forall_mem_map.mpr fun chunk hchunk => ?_⟩
  · exact hw.name.oneLine.append (hw.first.cons (by decide))
  · exact (hw.more chunk hchunk).1.cons (by decide)

theorem ne_nil_of_mem_lines : ∀ line ∈ h.lines, line ≠ [] := by
  refine List.forall_mem_cons.mpr ⟨by simp, List.forall_mem_map.mpr fun chunk _ => ?_⟩
  exact List.cons_ne_nil ' ' chunk

end WrittenHeader

open WrittenHeader (IsWritable)

/-! ### Reading header by header -/

variable {h : WrittenHeader} {hs : List WrittenHeader}

theorem readSection_writtenHeader (n : Nat) (headers : Headers) (last : Option String)
    (hw : h.IsWritable) (rest : List (List Char)) :
    readSection n headers last (h.lines ++ rest) =
      readSection (n + h.lines.length) (headers.put h.entry.1 h.entry.2) (some h.entry.1) rest := by
  have hmore : ∀ chunk ∈ h.more, isBlankText chunk = false := fun chunk hchunk =>
    (hw.more chunk hchunk).2
  have hcount : n + h.lines.length = n + 1 + h.more.length := by
    rw [WrittenHeader.lines, List.length_cons, List.length_map]
    omega
  rw [hcount, WrittenHeader.lines, List.cons_append, readSection_header n headers last hw.name,
    readSection_continuations _ _ _ _ hmore, ← String.ofList_append]
  rfl

/-- The headers of a section are written into the mapping one after the other. -/
theorem readSection_headers (n : Nat) (headers : Headers) (last : Option String)
    (hw : ∀ h ∈ hs, IsWritable h) (rest : List (List Char)) :
    ∃ n' last', readSection n headers last (hs.flatMap WrittenHeader.lines ++ rest) =
      readSection n' (headers.putAll (hs.map WrittenHeader.entry)) last' rest := by
  induction hs generalizing n headers last with
  | nil => exact ⟨n, last, rfl⟩
  | cons h hs ih =>
    obtain ⟨hfirst, hrest⟩ := List.forall_mem_cons.mp hw
    rw [List.flatMap_cons, List.append_assoc, readSection_writtenHeader n headers last hfirst]
    exact ih _ _ _ hrest

/-! ### Blank lines -/

def IsBlankLine (line : List Char) : Prop := isBlankText line = true ∧ IsOneLine line

/-- Nothing, or a blank line and anything behind it. -/
def EndsSection (tail : List (List Char)) : Prop :=
  tail = [] ∨ ∃ blank later, tail = blank :: later ∧ IsBlankLine blank

theorem readSection_blanks (n : Nat) {blanks : List (List Char)}
    (hblanks : ∀ line ∈ blanks, isBlankText line = true) (rest : List (List Char)) :
    readSection n {} none (blanks ++ rest) = readSection (n + blanks.length) {} none rest := by
  induction blanks generalizing n with
  | nil => rfl
  | cons blank blanks ih =>
    obtain ⟨hblank, hrest⟩ := List.forall_mem_cons.mp hblanks
    have hcount : n + (blank :: blanks).length = n + 1 + blanks.length := by
      rw [List.length_cons]
      omega
    have hempty : (∅ : Headers).isEmpty = true := rfl
    rw [List.cons_append, readSection, ofChars_blank hblank]
    simp only [hempty, if_true]
    rw [ih (n + 1) hrest, hcount]

/-! ### Whole texts -/

/-- The text of a section after some blank lines and before some other lines, with a terminator
between any two lines.  An empty last line is a terminator at the end. -/
def sectionText (t : Terminator) (blanks : List (List Char)) (hs : List WrittenHeader)
    (tail : List (List Char)) : String :=
  String.ofList (t.chars.intercalate (blanks ++ hs.flatMap WrittenHeader.lines ++ tail))

/-- What ends a section is a blank line, whatever the lines of the text behind it are. -/
theorem lines_blank_intercalate (t : Terminator) {blank : List Char} (h : IsOneLine blank)
    (later : List (List Char)) : lines (t.chars.intercalate (blank :: later)) = [] ∨
      ∃ more, lines (t.chars.intercalate (blank :: later)) = blank :: more := by
  cases later with
  | nil =>
    rw [List.intercalate_singleton]
    by_cases hnil : blank = []
    · exact .inl (hnil ▸ rfl)
    · exact .inr ⟨[], lines_of_isOneLine h hnil⟩
  | cons line later =>
    obtain ⟨more, hmore⟩ :=
      exists_lines_chars_append t (t.chars.intercalate (line :: later))
    rw [List.intercalate_cons_cons, List.append_assoc]
    exact .inr ⟨more, lines_append_of_lines h hmore⟩

theorem lines_section (t : Terminator) {ls tail : List (List Char)}
    (hone : ∀ line ∈ ls, IsOneLine line) (hlast : ∀ line, ls.getLast? = some line → line ≠ [])
    (htail : EndsSection tail) : ∃ rest, lines (t.chars.intercalate (ls ++ tail)) = ls ++ rest ∧
      (rest = [] ∨ ∃ blank later, rest = blank :: later ∧ isBlankText blank = true) := by
  rcases htail with rfl | ⟨blank, later, rfl, hblank, hline⟩
  · refine ⟨[], ?_, .inl rfl⟩
    rw [List.append_nil, lines_intercalate t hone hlast]
  · refine ⟨_, lines_intercalate_append t hone hline, ?_⟩
    exact (lines_blank_intercalate t hline later).imp_right fun ⟨more, hmore⟩ =>
      ⟨blank, more, hmore, hblank⟩

/-- A section is read whatever ends its lines: each name stands where it first occurs, with the
value of its last header. -/
theorem parse_section {t : Terminator} {blanks : List (List Char)} {hs : List WrittenHeader}
    {tail : List (List Char)} (hblanks : ∀ line ∈ blanks, IsBlankLine line) (hne : hs ≠ [])
    (hw : ∀ h ∈ hs, h.IsWritable) (htail : EndsSection tail) :
    ∃ headers, parse (sectionText t blanks hs tail) = .ok headers ∧
      headers.Records (hs.map WrittenHeader.entry) := by
  have hone : ∀ line ∈ blanks ++ hs.flatMap WrittenHeader.lines, IsOneLine line := by
    refine List.forall_mem_append.mpr ⟨fun line hline => (hblanks line hline).2, ?_⟩
    exact List.forall_mem_flatMap.mpr fun h hh => (hw h hh).isOneLine_of_mem
  obtain ⟨h, hh⟩ := List.exists_mem_of_ne_nil hs hne
  have hlast : ∀ line, (blanks ++ hs.flatMap WrittenHeader.lines).getLast? = some line →
      line ≠ [] := by
    have hwritten : hs.flatMap WrittenHeader.lines ≠ [] :=
      List.ne_nil_of_mem (List.mem_flatMap.mpr ⟨h, hh, List.mem_cons_self⟩)
    intro line hline
    rw [List.getLast?_append_of_ne_nil _ hwritten] at hline
    obtain ⟨h', -, hmem⟩ := List.mem_flatMap.mp (List.mem_of_getLast? hline)
    exact WrittenHeader.ne_nil_of_mem_lines line hmem
  obtain ⟨rest, hlines, hrest⟩ := lines_section t hone hlast htail
  obtain ⟨n, last, hread⟩ := readSection_headers (1 + blanks.length) {} none hw rest
  have hfilled : (Assoc.ofList (hs.map WrittenHeader.entry)).isEmpty = false := by
    have hname : h.entry.1 ∈ ((∅ : Headers).putAll (hs.map WrittenHeader.entry)).keys :=
      Assoc.mem_keys_putAll.mpr (.inr (List.mem_map_of_mem (List.mem_map_of_mem hh)))
    obtain ⟨e, he, -⟩ := List.mem_map.mp hname
    exact List.isEmpty_eq_false_iff_exists_mem.mpr ⟨e, he⟩
  refine ⟨.ofList (hs.map WrittenHeader.entry), ?_, Assoc.records_ofList _⟩
  rw [parse, sectionText, String.toList_ofList, parseChars, hlines, List.append_assoc,
    readSection_blanks 1 (fun line hline => (hblanks line hline).1), hread]
  rcases hrest with rfl | ⟨blank, later, rfl, hblank⟩
  · rfl
  · exact readSection_blank n last hfilled hblank later

/-- Chunks that begin and end with blanks, a header without a first chunk, and a name that occurs
again. -/
def repeating : List WrittenHeader :=
  [⟨"A".toList, " 1 ".toList, ["x ".toList, " y".toList]⟩, ⟨"B".toList, [], ["b".toList]⟩,
    ⟨"A".toList, "2 ".toList, ["z ".toList]⟩]

theorem parse_section_repeating : (∀ h ∈ repeating, h.IsWritable) ∧
    sectionText .carriageReturn [[], " \t".toList] repeating [[], "\nno header".toList] =
      "\r \t\rA: 1 \r x \r  y\rB:\r b\rA:2 \r z \r\r\nno header" ∧
    parse (sectionText .carriageReturn [[], " \t".toList] repeating [[], "\nno header".toList]) =
      .ok ⟨[("A", "2z "), ("B", "b")]⟩ := by
  have hblanks : ∀ line ∈ [[], " \t".toList], IsBlankLine line := by
    unfold IsBlankLine
    decide
  have hnames : ∀ h ∈ repeating, IsHeaderName h.name := by
    have hone (c : Char) (hc : c = 'A' ∨ c = 'B') : IsHeaderName [c] := by
      rcases hc with rfl | rfl
      · exact ⟨by decide, (strip_eq_self_iff _).mp (by decide), by decide, by decide⟩
      · exact ⟨by decide, (strip_eq_self_iff _).mp (by decide), by decide, by decide⟩
    simp only [repeating, List.forall_mem_cons]
    exact ⟨hone 'A' (.inl rfl), hone 'B' (.inr rfl), hone 'A' (.inl rfl), by simp⟩
  have hfirst : ∀ h ∈ repeating, IsOneLine h.first := by decide
  have hmore : ∀ h ∈ repeating, ∀ chunk ∈ h.more,
      IsOneLine chunk ∧ isBlankText chunk = false := by decide
  have hw : ∀ h ∈ repeating, h.IsWritable := fun h hh => ⟨hnames h hh, hfirst h hh, hmore h hh⟩
  have htail : EndsSection [[], "\nno header".toList] :=
    .inr ⟨[], _, rfl, by decide, by decide⟩
  obtain ⟨headers, hread, hrecords⟩ :=
    parse_section (t := .carriageReturn) hblanks (by decide) hw htail
  rw [Assoc.records_iff.mp hrecords] at hread
  exact ⟨hw, rfl, hread⟩

end OsgiIvy.Manifest
