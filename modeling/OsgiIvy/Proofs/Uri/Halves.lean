import OsgiIvy.Proofs.Text.Points
import OsgiIvy.Uri.Basic

/-!
# URIs with halves of characters

No delimiter is a half, and what is asked of a half where a URI is cut is asked of the replacement
character.  So a change of halves leaves the parts of a URI where they are (`ofChars?_map`).
-/

namespace OsgiIvy.Uri

open OsgiIvy.Text
open Glyph (Keeps after? ofChar shown)

variable {γ δ : Type}

/-- The URI with other members in its texts. -/
def map (f : γ → δ) (u : Uri γ) : Uri δ :=
  ⟨u.scheme, u.authority.map f, u.path.map f, u.query.map f, u.fragment.map f⟩

variable [Glyph γ] [Glyph δ] {f : γ → δ} (hf : Keeps f)
include hf

theorem clean_map (gs : List γ) : clean (gs.map f) = (clean gs).map f := by
  rw [clean, clean, List.dropWhile_map, List.filter_map]
  simp only [Function.comp_def, hf.shown]

theorem splitAuthority_map (gs : List γ) :
    splitAuthority (gs.map f) = (splitAuthority gs).map (List.map f) (List.map f) := by
  rw [splitAuthority, splitAuthority, hf.after? (by decide)]
  cases after? "//" gs with
  | none => rfl
  | some rest =>
    dsimp only [Option.map_some, Prod.map]
    rw [List.takeWhile_map, List.dropWhile_map]
    simp only [Function.comp_def, hf.shown]

variable [DecidableEq γ] [DecidableEq δ]

theorem splitAtFirst_map {separator : Char} (hseparator : separator ≠ '\uFFFD') (gs : List γ) :
    splitAtFirst (ofChar separator) (gs.map f) =
      (splitAtFirst (ofChar separator) gs).map (List.map f) (List.map f) := by
  rw [splitAtFirst, splitAtFirst, hf.takeWhile_ne hseparator, hf.dropWhile_ne hseparator,
    ← List.map_drop]
  rfl

theorem splitScheme_map (gs : List γ) :
    splitScheme (gs.map f) = (splitScheme gs).map id (List.map f) := by
  rw [splitScheme, splitScheme, hf.takeWhile_ne (by decide), hf.dropWhile_ne (by decide)]
  cases gs.dropWhile (· ≠ ofChar ':') with
  | nil => rfl
  | cons colon rest =>
    cases gs.takeWhile (· ≠ ofChar ':') with
    | nil => rfl
    | cons g name =>
      simp only [List.map_cons, List.all_cons, List.all_map, List.map_map, Function.comp_def,
        hf.shown]
      split <;> rfl

/-- The parts of a URI with other halves are those of the URI, with other halves. -/
theorem ofChars?_map (gs : List γ) : ofChars? (gs.map f) = (ofChars? gs).map (map f) := by
  have hhash : '#' ≠ '\uFFFD' := by decide
  have hquestion : '?' ≠ '\uFFFD' := by decide
  simp only [ofChars?, clean_map hf, splitScheme_map hf, splitAuthority_map hf,
    splitAtFirst_map hf hhash, splitAtFirst_map hf hquestion, Prod.map, hf.map_shown]
  split <;> rfl

end OsgiIvy.Uri
