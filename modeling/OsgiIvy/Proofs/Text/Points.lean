import Mathlib.Data.List.Basic
import OsgiIvy.Text.Pieces
import OsgiIvy.Text.Point

/-!
# Texts of points

What holds of texts whatever their members are.  `Keeps` is said of a change of members that leaves
characters as they are: the words of a text, and the pieces between its separators, are then where
they were.
-/

namespace OsgiIvy.Text

theorem Point.ofString_text {ps : List Point} (h : ps.any Point.isHalf = false) :
    Point.ofString (Point.text ps) = ps := by
  rw [Point.ofString, Point.text, String.toList_ofList, List.map_map]
  refine (List.map_congr_left fun p hp => ?_).trans (List.map_id ps)
  cases p with
  | char c => rfl
  | half n => exact absurd (List.any_eq_false.mp h _ hp) (by simp [Point.isHalf])

namespace Glyph

theorem map_shown_chars (cs : List Char) : cs.map shown = cs := List.map_id cs

theorem map_ofChar_chars (cs : List Char) : (cs.map ofChar : List Char) = cs := List.map_id cs

variable {γ δ : Type} [Glyph γ] [Glyph δ]

/-! ### Characters -/

theorem shown_ofChar (c : Char) : shown (ofChar c : γ) = c := by
  rw [shown, point_ofChar]
  rfl

/-- A member is a character, or it is a half. -/
theorem ofChar_or_isHalf (g : γ) : (∃ c, g = ofChar c) ∨ (point g).isHalf = true := by
  cases h : point g with
  | char c => exact .inl ⟨c, point_injective (h.trans (point_ofChar c).symm)⟩
  | half n => exact .inr rfl

theorem exists_half {g : γ} (h : (point g).isHalf = true) : ∃ n, point g = .half n := by
  cases hg : point g with
  | char c =>
    rw [hg] at h
    exact absurd h nofun
  | half n => exact ⟨n, rfl⟩

theorem shown_of_isHalf {g : γ} (h : (point g).isHalf = true) : shown g = '\uFFFD' := by
  obtain ⟨n, hn⟩ := exists_half h
  rw [shown, hn]
  rfl

theorem eq_ofChar_iff {g : γ} {c : Char} (hc : c ≠ '\uFFFD') : g = ofChar c ↔ shown g = c := by
  constructor
  · rintro rfl
    exact shown_ofChar c
  · intro h
    rcases ofChar_or_isHalf g with ⟨d, rfl⟩ | hhalf
    · rw [← h, shown_ofChar]
    · exact absurd (h.symm.trans (shown_of_isHalf hhalf)) hc

/-! ### Words -/

theorem map_point_eq_iff {gs : List γ} {word : String} :
    gs.map point = Point.ofString word ↔ gs = word.toList.map ofChar := by
  have hword : Point.ofString word = (word.toList.map ofChar : List γ).map point := by
    rw [List.map_map]
    exact List.map_congr_left fun c _ => (point_ofChar c).symm
  have hinjective : Function.Injective (point : γ → Point) := fun _ _ => point_injective
  rw [hword]
  exact (List.map_injective_iff.mpr hinjective).eq_iff

theorem after?_eq_some_iff {word : String} {gs more : List γ} :
    after? word gs = some more ↔ gs = word.toList.map ofChar ++ more := by
  rw [after?, Option.ite_none_right_eq_some, map_point_eq_iff, Option.some.injEq]
  constructor
  · rintro ⟨htake, rfl⟩
    rw [← htake, List.take_append_drop]
  · rintro rfl
    simp [← String.length_toList]

/-! ### Changes of halves -/

/-- A change of members that keeps characters and makes of a half another half or the replacement
character. -/
structure Keeps (f : γ → δ) : Prop where
  ofChar : ∀ c, f (ofChar c) = ofChar c
  half : ∀ g, (point g).isHalf = true → shown (f g) = '\uFFFD'

theorem keeps_shown : Keeps Point.shown where
  ofChar _ := rfl
  half g h := by
    cases g with
    | char c => exact absurd h nofun
    | half n => rfl

theorem keeps_char : Keeps Point.char where
  ofChar _ := rfl
  half _ h := absurd h nofun

namespace Keeps

variable {f : γ → δ} (hf : Keeps f)
include hf

theorem shown (g : γ) : Glyph.shown (f g) = Glyph.shown g := by
  rcases ofChar_or_isHalf g with ⟨c, rfl⟩ | h
  · rw [hf.ofChar, shown_ofChar, shown_ofChar]
  · rw [hf.half g h, shown_of_isHalf h]

theorem eq_ofChar_iff {g : γ} {c : Char} (hc : c ≠ '\uFFFD') :
    f g = Glyph.ofChar c ↔ g = Glyph.ofChar c := by
  rw [Glyph.eq_ofChar_iff hc, Glyph.eq_ofChar_iff hc, hf.shown]

theorem map_shown (gs : List γ) : (gs.map f).map Glyph.shown = gs.map Glyph.shown := by
  rw [List.map_map]
  exact List.map_congr_left fun g _ => hf.shown g

theorem map_ofChar (cs : List Char) :
    (cs.map Glyph.ofChar : List γ).map f = cs.map Glyph.ofChar := by
  rw [List.map_map]
  exact List.map_congr_left fun c _ => hf.ofChar c

theorem map_eq_iff {cs : List Char} (hcs : '\uFFFD' ∉ cs) {gs : List γ} :
    gs.map f = cs.map Glyph.ofChar ↔ gs = cs.map Glyph.ofChar := by
  induction cs generalizing gs with
  | nil => simp
  | cons c cs ih =>
    obtain ⟨hc, hcs⟩ := List.ne_and_not_mem_of_not_mem_cons hcs
    cases gs with
    | nil => simp
    | cons g gs =>
      simp only [List.map_cons, List.cons.injEq]
      exact and_congr (hf.eq_ofChar_iff hc.symm) (ih hcs)

theorem after? {word : String} (hword : '\uFFFD' ∉ word.toList) (gs : List γ) :
    Glyph.after? word (gs.map f) = (Glyph.after? word gs).map (List.map f) := by
  ext more
  rw [after?_eq_some_iff, Option.map_eq_some_iff]
  constructor
  · intro h
    obtain ⟨front, rest, rfl, hfront, hrest⟩ := List.map_eq_append_iff.mp h
    rw [hf.map_eq_iff hword] at hfront
    exact ⟨rest, after?_eq_some_iff.mpr (hfront ▸ rfl), hrest⟩
  · rintro ⟨rest, hrest, rfl⟩
    rw [after?_eq_some_iff.mp hrest, List.map_append, hf.map_ofChar]

/-! ### Pieces -/

variable [DecidableEq γ] [DecidableEq δ] {separator : Char} (hseparator : separator ≠ '\uFFFD')
include hseparator

theorem takeWhile_ne (gs : List γ) :
    (gs.map f).takeWhile (· ≠ Glyph.ofChar separator) =
      (gs.takeWhile (· ≠ Glyph.ofChar separator)).map f := by
  rw [List.takeWhile_map]
  simp only [Function.comp_def, ne_eq, hf.eq_ofChar_iff hseparator]

theorem dropWhile_ne (gs : List γ) :
    (gs.map f).dropWhile (· ≠ Glyph.ofChar separator) =
      (gs.dropWhile (· ≠ Glyph.ofChar separator)).map f := by
  rw [List.dropWhile_map]
  simp only [Function.comp_def, ne_eq, hf.eq_ofChar_iff hseparator]

theorem cutAt (gs : List γ) :
    Text.cutAt (Glyph.ofChar separator) (gs.map f) =
      (Text.cutAt (Glyph.ofChar separator) gs).map (List.map f) := by
  induction gs with
  | nil => rfl
  | cons g gs ih =>
    rw [List.map_cons, Text.cutAt, Text.cutAt, ih]
    simp only [hf.eq_ofChar_iff hseparator]
    split
    · rfl
    · cases Text.cutAt (Glyph.ofChar separator) gs <;> rfl

end Keeps

end Glyph

end OsgiIvy.Text
