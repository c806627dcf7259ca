/-!
# Pieces of a text

Cutting a text at every separator.  `intercalate_cutAt` says that nothing is lost: putting the
separators back gives the text.
-/

namespace OsgiIvy.Text

variable {α : Type}

/-- Puts a character in front of the first piece. -/
def consFirst (c : α) : List (List α) → List (List α)
  | [] => [[c]]
  | piece :: pieces => (c :: piece) :: pieces

theorem consFirst_ne_nil (c : α) (pieces : List (List α)) : consFirst c pieces ≠ [] := by
  cases pieces <;> simp [consFirst]

theorem intercalate_consFirst (separator c : α) {pieces : List (List α)} (h : pieces ≠ []) :
    [separator].intercalate (consFirst c pieces) = c :: [separator].intercalate pieces := by
  cases pieces with
  | nil => exact absurd rfl h
  | cons p ps => cases ps <;> simp [consFirst, List.intercalate]

theorem intercalate_nil_cons (separator : α) {pieces : List (List α)} (h : pieces ≠ []) :
    [separator].intercalate ([] :: pieces) = separator :: [separator].intercalate pieces := by
  cases pieces with
  | nil => exact absurd rfl h
  | cons p ps => simp [List.intercalate]

variable [DecidableEq α]

/-- A text cut at every separator; the empty text is one empty piece. -/
def cutAt (separator : α) : List α → List (List α)
  | [] => [[]]
  | c :: cs => if c = separator then [] :: cutAt separator cs else consFirst c (cutAt separator cs)

theorem cutAt_ne_nil (separator : α) (cs : List α) : cutAt separator cs ≠ [] := by
  cases cs with
  | nil => simp [cutAt]
  | cons c cs =>
    simp only [cutAt]
    split
    · simp
    · exact consFirst_ne_nil _ _

theorem intercalate_cutAt (separator : α) (cs : List α) :
    [separator].intercalate (cutAt separator cs) = cs := by
  induction cs with
  | nil => rfl
  | cons c cs ih =>
    have hne := cutAt_ne_nil separator cs
    simp only [cutAt]
    split
    · next h => rw [intercalate_nil_cons _ hne, ih, h]
    · rw [intercalate_consFirst _ _ hne, ih]

end OsgiIvy.Text
