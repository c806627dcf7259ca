import OsgiIvy.Manifest.Fault
import OsgiIvy.Text.Blank
import OsgiIvy.Text.Pieces

/-!
# Quoted arguments

Separators between quotation marks do not separate.  `cut` goes through a text and keeps in mind
whether it stands between two marks; `split` refuses a text that ends there.  Nothing is lost in the
pieces (`intercalate_pieces`), and a text ends between two marks exactly if it has an odd number of
them (`split_eq_error_iff`).
-/

namespace OsgiIvy.Manifest

open OsgiIvy.Text

/-! ### Cutting -/

/-- The pieces between the separators outside quotation marks, and whether the text ends between two
of them; `inside` says whether it begins there. -/
def cut (separator : Char) : Bool → List Char → List (List Char) × Bool
  | inside, [] => ([[]], inside)
  | inside, c :: cs =>
    if c = '"' then
      let (texts, quoted) := cut separator (!inside) cs
      (consFirst c texts, quoted)
    else
      let (texts, quoted) := cut separator inside cs
      (if c = separator && !inside then [] :: texts else consFirst c texts, quoted)

def pieces (separator : Char) (inside : Bool) (cs : List Char) : List (List Char) :=
  (cut separator inside cs).1

def endsInside (separator : Char) (inside : Bool) (cs : List Char) : Bool :=
  (cut separator inside cs).2

/-- The pieces of a text that does not end between two quotation marks. -/
def split (separator : Char) (cs : List Char) : Except Fault (List (List Char)) :=
  let (texts, quoted) := cut separator false cs
  if quoted then .error (.openQuote (String.ofList cs)) else .ok texts

/-! ### Pieces -/

theorem pieces_cons (separator : Char) (inside : Bool) (c : Char) (cs : List Char) :
    pieces separator inside (c :: cs) =
      if c = '"' then consFirst c (pieces separator (!inside) cs)
      else if c = separator && !inside then [] :: pieces separator inside cs
      else consFirst c (pieces separator inside cs) := by
  simp only [pieces, cut]
  split <;> rfl

theorem pieces_ne_nil (separator : Char) (inside : Bool) (cs : List Char) :
    pieces separator inside cs ≠ [] := by
  cases cs with
  | nil => exact List.cons_ne_nil [] []
  | cons c cs =>
    rw [pieces_cons]
    split
    · exact consFirst_ne_nil _ _
    · split
      · exact List.cons_ne_nil [] _
      · exact consFirst_ne_nil _ _

/-- Putting the separators back gives the text. -/
theorem intercalate_pieces (separator : Char) (inside : Bool) (cs : List Char) :
    [separator].intercalate (pieces separator inside cs) = cs := by
  induction cs generalizing inside with
  | nil => rfl
  | cons c cs ih =>
    rw [pieces_cons]
    split
    · rw [intercalate_consFirst _ _ (pieces_ne_nil _ _ _), ih]
    · split
      · next h =>
        simp only [Bool.and_eq_true, decide_eq_true_eq] at h
        rw [intercalate_nil_cons _ (pieces_ne_nil _ _ _), ih, h.1]
      · rw [intercalate_consFirst _ _ (pieces_ne_nil _ _ _), ih]

/-! ### Marks that pair up -/

/-- The quotation marks pair up. -/
def quotesBalanced (cs : List Char) : Bool := cs.count '"' % 2 = 0

theorem quotesBalanced_quote (cs : List Char) :
    quotesBalanced ('"' :: cs) = !quotesBalanced cs := by
  simp only [quotesBalanced, List.count_cons_self]
  rcases Nat.mod_two_eq_zero_or_one (cs.count '"') with h | h
  · have hnext : (cs.count '"' + 1) % 2 = 1 := by omega
    simp [h, hnext]
  · have hnext : (cs.count '"' + 1) % 2 = 0 := by omega
    simp [h, hnext]

theorem quotesBalanced_cons {c : Char} (hc : c ≠ '"') (cs : List Char) :
    quotesBalanced (c :: cs) = quotesBalanced cs := by
  rw [quotesBalanced, List.count_cons_of_ne hc, quotesBalanced]

theorem endsInside_cons (separator : Char) (inside : Bool) (c : Char) (cs : List Char) :
    endsInside separator inside (c :: cs) =
      endsInside separator (if c = '"' then !inside else inside) cs := by
  simp only [endsInside, cut]
  split <;> rfl

/-- Every mark opens or closes, whatever separates: a text ends on the side it begins on exactly if
its marks pair up. -/
theorem endsInside_eq (separator : Char) (inside : Bool) (cs : List Char) :
    endsInside separator inside cs = (inside == quotesBalanced cs) := by
  induction cs generalizing inside with
  | nil => exact (beq_true inside).symm
  | cons c cs ih =>
    rw [endsInside_cons, ih]
    by_cases hc : c = '"'
    · subst hc
      rw [if_pos rfl, quotesBalanced_quote]
      cases inside <;> cases quotesBalanced cs <;> rfl
    · rw [if_neg hc, quotesBalanced_cons hc]

theorem split_eq (separator : Char) (cs : List Char) :
    split separator cs =
      if quotesBalanced cs then .ok (pieces separator false cs)
      else .error (.openQuote (String.ofList cs)) := by
  have hends := endsInside_eq separator false cs
  have hsplit : split separator cs = if endsInside separator false cs then
      .error (.openQuote (String.ofList cs)) else .ok (pieces separator false cs) := rfl
  rw [hsplit, hends]
  cases quotesBalanced cs <;> rfl

/-- A text is refused exactly when it has an odd number of quotation marks. -/
theorem split_eq_error_iff (separator : Char) (cs : List Char) :
    (∃ fault, split separator cs = .error fault) ↔ cs.count '"' % 2 = 1 := by
  rw [split_eq]
  by_cases h : cs.count '"' % 2 = 0
  · simp [quotesBalanced, h]
  · have hodd : cs.count '"' % 2 = 1 := by omega
    simp [quotesBalanced, hodd]

/-! ### Arguments -/

/-- An argument without the blanks around it and without the quotation marks around those. -/
def unquote (cs : List Char) : List Char :=
  let inner := strip cs
  if 2 ≤ inner.length && inner.head? = some '"' && inner.getLast? = some '"' then
    (inner.drop 1).dropLast
  else inner

end OsgiIvy.Manifest
