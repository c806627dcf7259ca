import Mathlib.Data.List.Basic
import OsgiIvy.Text.Lines

/-!
# Lines put together

A text is cut into the lines that it was written from.  It does not matter to them whether the line
ends are read as those of a file first (`lines_readNewlines`).
-/

namespace OsgiIvy.Text

/-- No line ends inside the text. -/
def IsOneLine (cs : List Char) : Prop := ∀ c ∈ cs, isLineEnd c = false

instance (cs : List Char) : Decidable (IsOneLine cs) :=
  decidable_of_iff (cs.all (fun c => !isLineEnd c) = true) (by simp [IsOneLine])

theorem IsOneLine.append {cs ds : List Char} (hc : IsOneLine cs) (hd : IsOneLine ds) :
    IsOneLine (cs ++ ds) := by
  intro c hmem
  rcases List.mem_append.mp hmem with h | h
  · exact hc c h
  · exact hd c h

theorem IsOneLine.cons {c : Char} {cs : List Char} (hc : isLineEnd c = false)
    (h : IsOneLine cs) : IsOneLine (c :: cs) :=
  List.forall_mem_cons.mpr ⟨hc, h⟩

/-! ### The first line -/

theorem lines_cons_of_ne {c : Char} (h : c ≠ '\r') (cs : List Char) :
    lines (c :: cs) = if isLineEnd c then [] :: lines cs else consFirst c (lines cs) := by
  rw [lines]
  exact fun rest heq => absurd heq h

theorem lines_cons {c : Char} (hc : isLineEnd c = false) (cs : List Char) :
    lines (c :: cs) = consFirst c (lines cs) := by
  have hreturn : c ≠ '\r' := by
    rintro rfl
    exact absurd hc (by decide)
  rw [lines_cons_of_ne hreturn, hc, if_neg Bool.false_ne_true]

theorem lines_append_of_lines {line text : List Char} {later : List (List Char)}
    (h : IsOneLine line) (htext : lines text = [] :: later) :
    lines (line ++ text) = line :: later := by
  induction line with
  | nil => exact htext
  | cons c cs ih =>
    obtain ⟨hc, hcs⟩ := List.forall_mem_cons.mp h
    rw [List.cons_append, lines_cons hc, ih hcs]
    rfl

theorem lines_of_isOneLine {line : List Char} (h : IsOneLine line) (hne : line ≠ []) :
    lines line = [line] := by
  induction line with
  | nil => exact absurd rfl hne
  | cons c cs ih =>
    obtain ⟨hc, hcs⟩ := List.forall_mem_cons.mp h
    rw [lines_cons hc]
    by_cases hnil : cs = []
    · rw [hnil]
      rfl
    · rw [ih hcs hnil]
      rfl

/-! ### Terminators -/

/-- What ends the lines of a text. -/
inductive Terminator
  | lineFeed
  | returnLineFeed
  | carriageReturn
deriving DecidableEq, Repr

def Terminator.chars : Terminator → List Char
  | .lineFeed => ['\n']
  | .returnLineFeed => ['\r', '\n']
  | .carriageReturn => ['\r']

theorem lines_lineFeed (rest : List Char) : lines ('\n' :: rest) = [] :: lines rest := by
  have hfeed : isLineEnd '\n' = true := by decide
  simp [lines, hfeed]

theorem lines_carriageReturn {rest : List Char} (h : rest.head? ≠ some '\n') :
    lines ('\r' :: rest) = [] :: lines rest := by
  have hreturn : isLineEnd '\r' = true := by decide
  rw [lines, hreturn, if_pos rfl]
  rintro more - rfl
  exact h rfl

/-- A carriage return and a line feed behind it are one terminator. -/
theorem lines_chars_append (t : Terminator) {rest : List Char}
    (h : t = .carriageReturn → rest.head? ≠ some '\n') :
    lines (t.chars ++ rest) = [] :: lines rest := by
  cases t with
  | lineFeed => exact lines_lineFeed rest
  | returnLineFeed => simp [Terminator.chars, lines]
  | carriageReturn => exact lines_carriageReturn (h rfl)

/-- A file's line ends cut a text where its own do. -/
theorem lines_readNewlines (cs : List Char) : lines (readNewlines cs) = lines cs := by
  fun_induction readNewlines cs with
  | case1 => rfl
  | case2 rest ih => rw [lines_lineFeed, ih, lines]
  | case3 c rest hpair ih =>
    by_cases hreturn : c = '\r'
    · subst hreturn
      have hhead : rest.head? ≠ some '\n' := by
        intro hhead
        obtain ⟨more, rfl⟩ := List.head?_eq_some_iff.mp hhead
        exact hpair more rfl rfl
      rw [if_pos rfl, lines_lineFeed, ih, lines_carriageReturn hhead]
    · rw [if_neg hreturn, lines_cons_of_ne hreturn, lines_cons_of_ne hreturn, ih]

/-- Whatever follows a terminator, a line ends there. -/
theorem exists_lines_chars_append (t : Terminator) (rest : List Char) :
    ∃ later, lines (t.chars ++ rest) = [] :: later := by
  by_cases h : t = .carriageReturn ∧ rest.head? = some '\n'
  · obtain ⟨rfl, hhead⟩ := h
    obtain ⟨rest, rfl⟩ := List.head?_eq_some_iff.mp hhead
    exact ⟨lines rest, by simp [Terminator.chars, lines]⟩
  · exact ⟨lines rest, lines_chars_append t fun ht hhead => h ⟨ht, hhead⟩⟩

/-! ### Lines with terminators between them -/

theorem head?_intercalate_chars {t : Terminator} {line : List Char} (h : IsOneLine line)
    (more : List (List Char)) (ht : t = .carriageReturn) :
    (t.chars.intercalate (line :: more)).head? ≠ some '\n' := by
  subst ht
  cases line with
  | nil => cases more <;> simp [Terminator.chars, List.intercalate_cons_cons]
  | cons c cs =>
    have hc : c ≠ '\n' := by
      rintro rfl
      exact absurd (h '\n' List.mem_cons_self) (by decide)
    cases more <;> simp [List.intercalate_cons_cons, hc]

theorem lines_intercalate_append (t : Terminator) {ls more : List (List Char)} {line : List Char}
    (hls : ∀ l ∈ ls, IsOneLine l) (hline : IsOneLine line) :
    lines (t.chars.intercalate (ls ++ line :: more)) =
      ls ++ lines (t.chars.intercalate (line :: more)) := by
  induction ls with
  | nil => rfl
  | cons l ls ih =>
    obtain ⟨hl, hrest⟩ := List.forall_mem_cons.mp hls
    obtain ⟨next, rest, hnext, hone⟩ :
        ∃ next rest, ls ++ line :: more = next :: rest ∧ IsOneLine next := by
      cases ls with
      | nil => exact ⟨line, more, rfl, hline⟩
      | cons l' ls => exact ⟨l', ls ++ line :: more, rfl, hrest l' List.mem_cons_self⟩
    have htail : lines (t.chars ++ t.chars.intercalate (ls ++ line :: more)) =
        [] :: lines (t.chars.intercalate (ls ++ line :: more)) := by
      refine lines_chars_append t ?_
      rw [hnext]
      exact head?_intercalate_chars hone rest
    rw [List.cons_append, hnext, List.intercalate_cons_cons, ← hnext, List.append_assoc,
      lines_append_of_lines hl htail, ih hrest, List.cons_append]

/-- The last line is one only if it is not empty. -/
theorem lines_intercalate (t : Terminator) {ls : List (List Char)} (hls : ∀ l ∈ ls, IsOneLine l)
    (hlast : ∀ l, ls.getLast? = some l → l ≠ []) : lines (t.chars.intercalate ls) = ls := by
  rcases List.eq_nil_or_concat' ls with rfl | ⟨front, last, rfl⟩
  · rfl
  · obtain ⟨hfront, hone⟩ := List.forall_mem_append.mp hls
    have hline : IsOneLine last := hone last List.mem_cons_self
    have hne : last ≠ [] := hlast last List.getLast?_concat
    rw [lines_intercalate_append t hfront hline, List.intercalate_singleton,
      lines_of_isOneLine hline hne]

/-- Lines with a line feed after each. -/
def writeLines (ls : List (List Char)) : List Char := ls.flatMap fun l => l ++ ['\n']

theorem lines_append {line : List Char} (h : IsOneLine line) (rest : List Char) :
    lines (line ++ '\n' :: rest) = line :: lines rest :=
  lines_append_of_lines h (lines_lineFeed rest)

theorem lines_writeLines {ls : List (List Char)} (h : ∀ l ∈ ls, IsOneLine l) :
    lines (writeLines ls) = ls := by
  induction ls with
  | nil => rfl
  | cons l ls ih =>
    obtain ⟨hl, hls⟩ := List.forall_mem_cons.mp h
    have hsplit : writeLines (l :: ls) = l ++ '\n' :: writeLines ls := by
      simp [writeLines]
    rw [hsplit, lines_append hl, ih hls]

end OsgiIvy.Text
