import Mathlib.Data.List.TakeWhile
import OsgiIvy.Text.Pieces

/-!
# Pieces put together

A text is cut exactly where it was joined, as long as no piece holds the separator.
-/

namespace OsgiIvy.Text

variable {separator : Char}

/-! ### The first separator -/

theorem takeWhile_ne_of_not_mem {cs : List Char} (h : separator ∉ cs) :
    cs.takeWhile (· ≠ separator) = cs :=
  List.takeWhile_eq_self_iff.mpr fun _ hc => decide_eq_true (ne_of_mem_of_not_mem hc h)

theorem dropWhile_ne_of_not_mem {cs : List Char} (h : separator ∉ cs) :
    cs.dropWhile (· ≠ separator) = [] :=
  List.dropWhile_eq_nil_iff.mpr fun _ hc => decide_eq_true (ne_of_mem_of_not_mem hc h)

theorem takeWhile_ne_append {piece : List Char} (h : separator ∉ piece) (rest : List Char) :
    (piece ++ separator :: rest).takeWhile (· ≠ separator) = piece := by
  rw [List.takeWhile_append_of_pos fun c hc => decide_eq_true (ne_of_mem_of_not_mem hc h)]
  simp

theorem dropWhile_ne_append {piece : List Char} (h : separator ∉ piece) (rest : List Char) :
    (piece ++ separator :: rest).dropWhile (· ≠ separator) = separator :: rest := by
  rw [List.dropWhile_append_of_pos fun c hc => decide_eq_true (ne_of_mem_of_not_mem hc h)]
  simp

/-! ### Every separator -/

theorem cutAt_of_not_mem {piece : List Char} (h : separator ∉ piece) :
    cutAt separator piece = [piece] := by
  induction piece with
  | nil => rfl
  | cons c cs ih =>
    have hc : c ≠ separator := ne_of_mem_of_not_mem List.mem_cons_self h
    have hcs : separator ∉ cs := fun hmem => h (List.mem_cons_of_mem c hmem)
    rw [cutAt, if_neg hc, ih hcs]
    rfl

theorem cutAt_append {piece : List Char} (h : separator ∉ piece) (rest : List Char) :
    cutAt separator (piece ++ separator :: rest) = piece :: cutAt separator rest := by
  induction piece with
  | nil =>
    rw [List.nil_append, cutAt, if_pos rfl]
  | cons c cs ih =>
    have hc : c ≠ separator := ne_of_mem_of_not_mem List.mem_cons_self h
    have hcs : separator ∉ cs := fun hmem => h (List.mem_cons_of_mem c hmem)
    rw [List.cons_append, cutAt, if_neg hc, ih hcs]
    rfl

theorem length_cutAt (separator : Char) (cs : List Char) :
    (cutAt separator cs).length = cs.count separator + 1 := by
  induction cs with
  | nil => rfl
  | cons c cs ih =>
    rw [cutAt]
    split
    · next hc => rw [List.length_cons, ih, hc, List.count_cons_self]
    · next hc =>
      obtain ⟨p, ps, hcut⟩ := List.exists_cons_of_ne_nil (cutAt_ne_nil separator cs)
      rw [List.count_cons_of_ne hc, ← ih, hcut, consFirst, List.length_cons, List.length_cons]

theorem not_mem_of_mem_cutAt {piece cs : List Char} (h : piece ∈ cutAt separator cs) :
    separator ∉ piece := by
  induction cs generalizing piece with
  | nil => simp_all [cutAt]
  | cons c cs ih =>
    rw [cutAt] at h
    split at h
    · rcases List.mem_cons.mp h with rfl | h
      · exact List.not_mem_nil
      · exact ih h
    · next hc =>
      obtain ⟨p, ps, hcut⟩ := List.exists_cons_of_ne_nil (cutAt_ne_nil separator cs)
      rw [hcut] at h ih
      rcases List.mem_cons.mp h with rfl | h
      · exact List.not_mem_cons_of_ne_of_not_mem (Ne.symm hc) (ih List.mem_cons_self)
      · exact ih (List.mem_cons_of_mem p h)

theorem cutAt_eq_pair_iff {cs first second : List Char} :
    cutAt separator cs = [first, second] ↔
      separator ∉ first ∧ separator ∉ second ∧ cs = first ++ separator :: second := by
  constructor
  · intro h
    have hfirst : first ∈ cutAt separator cs := h ▸ List.mem_cons_self
    have hsecond : second ∈ cutAt separator cs := h ▸ List.mem_cons_of_mem _ List.mem_cons_self
    have hjoined := intercalate_cutAt separator cs
    rw [h, List.intercalate_cons_cons, List.intercalate_singleton, List.append_assoc,
      List.singleton_append] at hjoined
    exact ⟨not_mem_of_mem_cutAt hfirst, not_mem_of_mem_cutAt hsecond, hjoined.symm⟩
  · rintro ⟨hfirst, hsecond, rfl⟩
    rw [cutAt_append hfirst, cutAt_of_not_mem hsecond]

theorem cutAt_intercalate {pieces : List (List Char)} (hne : pieces ≠ [])
    (h : ∀ piece ∈ pieces, separator ∉ piece) :
    cutAt separator ([separator].intercalate pieces) = pieces := by
  induction pieces with
  | nil => exact absurd rfl hne
  | cons p ps ih =>
    have hp : separator ∉ p := h p List.mem_cons_self
    cases ps with
    | nil =>
      rw [List.intercalate_singleton]
      exact cutAt_of_not_mem hp
    | cons q qs =>
      have htail := ih (List.cons_ne_nil q qs) fun piece hpiece =>
        h piece (List.mem_cons_of_mem p hpiece)
      rw [List.intercalate_cons_cons, List.append_assoc, List.singleton_append, cutAt_append hp,
        htail]

theorem mem_intercalate {c : Char} {pieces : List (List Char)}
    (h : c ∈ [separator].intercalate pieces) : c = separator ∨ ∃ piece ∈ pieces, c ∈ piece := by
  induction pieces with
  | nil => exact absurd h List.not_mem_nil
  | cons p ps ih =>
    cases ps with
    | nil =>
      rw [List.intercalate_singleton] at h
      exact .inr ⟨p, List.mem_cons_self, h⟩
    | cons q qs =>
      rw [List.intercalate_cons_cons, List.append_assoc, List.singleton_append] at h
      rcases List.mem_append.mp h with hp | hrest
      · exact .inr ⟨p, List.mem_cons_self, hp⟩
      rcases List.mem_cons.mp hrest with rfl | htail
      · exact .inl rfl
      rcases ih htail with hc | ⟨piece, hpiece, hc⟩
      · exact .inl hc
      · exact .inr ⟨piece, List.mem_cons_of_mem p hpiece, hc⟩

theorem mem_intercalate_of_mem {c : Char} {piece : List Char} {pieces : List (List Char)}
    (hpiece : piece ∈ pieces) (h : c ∈ piece) : c ∈ [separator].intercalate pieces := by
  induction pieces with
  | nil => exact absurd hpiece List.not_mem_nil
  | cons p ps ih =>
    cases ps with
    | nil =>
      rw [List.intercalate_singleton]
      exact List.mem_singleton.mp hpiece ▸ h
    | cons q qs =>
      rw [List.intercalate_cons_cons, List.append_assoc, List.singleton_append]
      rcases List.mem_cons.mp hpiece with rfl | hrest
      · exact List.mem_append_left _ h
      · exact List.mem_append_right p (List.mem_cons_of_mem separator (ih hrest))

theorem mem_of_mem_cutAt {c : Char} {piece cs : List Char} (hpiece : piece ∈ cutAt separator cs)
    (h : c ∈ piece) : c ∈ cs := by
  rw [← intercalate_cutAt separator cs]
  exact mem_intercalate_of_mem hpiece h

end OsgiIvy.Text
