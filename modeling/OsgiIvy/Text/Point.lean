/-!
# Code points

Characters beyond the first plane have two halves in units of sixteen bits, and a text from outside
can hold halves that make up no character, or two that would make up one and stand apart.  A `Point`
is a character or such a half, and a `TornText` is a text with halves in it.  Readers that take both
kinds of texts are written once: `Glyph` says what the members of a text are, and `Script` what its
members are.
-/

namespace OsgiIvy.Text

/-! ### Points -/

inductive Point
  | char (c : Char)
  /-- A half by its number among all halves; the first 0x400 begin a character. -/
  | half (n : Fin 0x800)
deriving DecidableEq, Repr

namespace Point

/-- The first of the numbers that stand for halves. -/
def firstHalf : Nat := 0xD800

def toNat : Point → Nat
  | .char c => c.toNat
  | .half n => firstHalf + n

/-- The point with a number. -/
def ofNat (n : Nat) : Point :=
  if firstHalf ≤ n ∧ n < firstHalf + 0x800 then .half (Fin.ofNat 0x800 (n - firstHalf))
  else .char (Char.ofNat n)

def isHalf : Point → Bool
  | .char _ => false
  | .half _ => true

/-- What stands for the point where only characters can stand. -/
def shown : Point → Char
  | .char c => c
  | .half _ => '\uFFFD'

/-- The points of a text of characters. -/
def ofString (s : String) : List Point := s.toList.map .char

/-- The text of characters that stands for some points. -/
def text (ps : List Point) : String := String.ofList (ps.map shown)

theorem any_isHalf_ofString (s : String) : (ofString s).any isHalf = false := by
  simp [ofString, isHalf]

theorem text_ofString (s : String) : text (ofString s) = s := by
  have hshown : shown ∘ Point.char = id := rfl
  rw [text, ofString, List.map_map, hshown, List.map_id, String.ofList_toList]

/-- Points stand in the order of their numbers, and texts of them like words in a dictionary. -/
def listLe : List Point → List Point → Bool
  | [], _ => true
  | _ :: _, [] => false
  | p :: ps, q :: qs => p.toNat < q.toNat || (p.toNat == q.toNat && listLe ps qs)

end Point

/-- A text that holds a half. -/
structure TornText where
  points : List Point
  torn : points.any Point.isHalf = true
deriving DecidableEq, Repr

/-! ### Members of texts -/

/-- The members of a text: characters, or points. -/
class Glyph (γ : Type) where
  point : γ → Point
  ofChar : Char → γ
  point_ofChar : ∀ c, point (ofChar c) = .char c
  point_injective : ∀ {g h : γ}, point g = point h → g = h

instance : Glyph Char where
  point := .char
  ofChar c := c
  point_ofChar _ := rfl
  point_injective := Point.char.inj

instance : Glyph Point where
  point p := p
  ofChar := .char
  point_ofChar _ := rfl
  point_injective h := h

/-- A text with members of one type. -/
class Script (τ : Type) (γ : outParam Type) where
  glyphs : τ → List γ
  ofGlyphs : List γ → τ
  glyphs_ofGlyphs : ∀ gs, glyphs (ofGlyphs gs) = gs

instance : Script String Char where
  glyphs := String.toList
  ofGlyphs := String.ofList
  glyphs_ofGlyphs _ := String.toList_ofList

instance : Script (List Point) Point where
  glyphs ps := ps
  ofGlyphs ps := ps
  glyphs_ofGlyphs _ := rfl

theorem Script.glyphs_string (s : String) : Script.glyphs s = s.toList := rfl

theorem Script.ofGlyphs_string (cs : List Char) : (Script.ofGlyphs cs : String) = .ofList cs := rfl

namespace Glyph

variable {γ : Type} [Glyph γ]

/-- The member as a character, the replacement character for a half. -/
def shown (g : γ) : Char := (point g).shown

/-- A member that is a character with some property. -/
def satisfies (p : Char → Bool) (g : γ) : Bool :=
  match point g with
  | .char c => p c
  | .half _ => false

/-- The character that a text begins with, and what follows it. -/
def next? : List γ → Option (Char × List γ)
  | [] => none
  | g :: gs =>
    match point g with
    | .char c => some (c, gs)
    | .half _ => none

/-- The characters with some property that a text begins with, and what follows them. -/
def spanChars (p : Char → Bool) : List γ → List Char × List γ
  | [] => ([], [])
  | g :: gs =>
    match point g with
    | .char c => if p c then (c :: (spanChars p gs).1, (spanChars p gs).2) else ([], g :: gs)
    | .half _ => ([], g :: gs)

/-- What follows a word that a text begins with. -/
def after? (word : String) (gs : List γ) : Option (List γ) :=
  if (gs.take word.length).map point = Point.ofString word then some (gs.drop word.length) else none

theorem point_char (c : Char) : point c = .char c := rfl

@[simp]
theorem shown_char (c : Char) : shown c = c := rfl

@[simp]
theorem ofChar_char (c : Char) : (ofChar c : Char) = c := rfl

theorem satisfies_char (p : Char → Bool) : satisfies (γ := Char) p = p := rfl

theorem next?_char (c : Char) (cs : List Char) : next? (c :: cs) = some (c, cs) := rfl

theorem forall_mem_spanChars (p : Char → Bool) (gs : List γ) :
    ∀ c ∈ (spanChars p gs).1, p c = true := by
  induction gs with
  | nil => exact nofun
  | cons g gs ih =>
    rw [spanChars]
    split
    · split
      · next hc => exact List.forall_mem_cons.mpr ⟨hc, ih⟩
      · exact nofun
    · exact nofun

end Glyph

end OsgiIvy.Text
