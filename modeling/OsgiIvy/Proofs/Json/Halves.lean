import OsgiIvy.Proofs.Json.Values
import OsgiIvy.Proofs.Text.Points

/-!
# Halves of characters in JSON

A character beyond the first plane is written as its two halves are, one after the other.  So a
text that holds the two halves apart has the written form of another text, in which they are put
together: `write_joinHalves` says this of whole values.  Reading gives the other text
(`read_write_joined`).
-/

namespace OsgiIvy.Json

open OsgiIvy.Text OsgiIvy.Value

/-! ### Texts -/

section Pairs

variable {high low : Nat} (hhigh : IsFirstHalf high) (hlow : IsSecondHalf low)
include hhigh hlow

theorem toNat_charOfPair :
    (charOfPair high low).toNat = 0x10000 + (high - 0xD800) * 0x400 + (low - 0xDC00) := by
  unfold IsFirstHalf at hhigh
  unfold IsSecondHalf at hlow
  have hvalid : (0x10000 + (high - 0xD800) * 0x400 + (low - 0xDC00)).isValidChar := by
    right
    omega
  rw [charOfPair, Char.ofNat, dif_pos hvalid]
  rfl

theorem units_charOfPair : units (charOfPair high low) = [high, low] := by
  have hnumber := toNat_charOfPair hhigh hlow
  unfold IsFirstHalf at hhigh
  unfold IsSecondHalf at hlow
  have hplane : ¬(charOfPair high low).toNat < 0x10000 := by omega
  have hfirst : 0xD800 + ((charOfPair high low).toNat - 0x10000) / 0x400 = high := by omega
  have hsecond : 0xDC00 + ((charOfPair high low).toNat - 0x10000) % 0x400 = low := by omega
  simp only [units, hplane, hfirst, hsecond, if_false]

theorem escapeChar_charOfPair :
    escapeChar (charOfPair high low) = escapeUnit high ++ escapeUnit low := by
  have hnumber := toNat_charOfPair hhigh hlow
  have hplane : ¬(charOfPair high low).toNat < 0x7F := by omega
  have hne : ∀ d : Char, d.toNat < 0x7F → charOfPair high low ≠ d :=
    fun d hd heq => hplane (heq ▸ hd)
  have hletters : escapeChar (charOfPair high low) =
      (units (charOfPair high low)).flatMap escapeUnit := by
    simp [escapeChar, hplane, hne '"', hne '\\', hne '\n', hne '\r', hne '\t', hne '\x08',
      hne '\x0c']
  rw [hletters, units_charOfPair hhigh hlow, List.flatMap_cons, List.flatMap_cons, List.flatMap_nil,
    List.append_nil]

end Pairs

/-- Halves that make up a character are written like the character. -/
theorem flatMap_escapePoint_joined (ps : List Point) :
    (joined ps).flatMap escapePoint = ps.flatMap escapePoint := by
  fun_induction joined ps with
  | case1 => rfl
  | case2 m n ps hpair ih =>
    have hfirst : IsFirstHalf (Point.firstHalf + m) := by
      unfold IsFirstHalf Point.firstHalf
      omega
    have hsecond : IsSecondHalf (Point.firstHalf + n) := by
      unfold IsSecondHalf Point.firstHalf
      omega
    rw [List.flatMap_cons, List.flatMap_cons, List.flatMap_cons, ih, escapePoint, escapePoint,
      escapePoint, escapeChar_charOfPair hfirst hsecond, List.append_assoc]
  | case3 m n ps hapart ih => rw [List.flatMap_cons, ih, ← List.flatMap_cons]
  | case4 p ps halone ih => rw [List.flatMap_cons, ih, ← List.flatMap_cons]

theorem writePoints_joined (ps : List Point) : writePoints (joined ps) = writePoints ps := by
  rw [writePoints, flatMap_escapePoint_joined, writePoints]

theorem writeChars_ofPoints (layout : Layout) (depth : Nat) (ps : List Point) :
    writeChars layout depth (.ofPoints ps) = writePoints ps := by
  unfold ofPoints
  split
  · rw [writeChars]
  · next hwhole => rw [writeChars, writeText_eq, Point.ofString_text (Bool.not_eq_true _ ▸ hwhole)]

/-! ### Values -/

mutual

/-- The value with the halves in its texts put together, except in names. -/
def joinHalves : Value → Value
  | .torn t => .ofPoints (joined t.points)
  | .list items => .list (joinItems items)
  | .mapping entries => .mapping (joinMembers entries)
  | v => v

def joinItems : List Value → List Value
  | [] => []
  | v :: rest => joinHalves v :: joinItems rest

def joinMembers : List (Value × Value) → List (Value × Value)
  | [] => []
  | (k, v) :: rest => (k, joinHalves v) :: joinMembers rest

end

mutual

theorem writeChars_joinHalves (layout : Layout) (depth : Nat) (v : Value) :
    writeChars layout depth (joinHalves v) = writeChars layout depth v := by
  cases v with
  | torn t => rw [joinHalves, writeChars_ofPoints, writePoints_joined, writeChars]
  | list items => rw [joinHalves, writeChars, writeItems_joinItems, writeChars]
  | mapping entries => rw [joinHalves, writeChars, writeMembers_joinMembers, writeChars]
  | null | bool | int | float | string | date | moment => simp [joinHalves]

theorem writeItems_joinItems (layout : Layout) (depth : Nat) (items : List Value) :
    writeItems layout depth (joinItems items) = writeItems layout depth items := by
  cases items with
  | nil => rw [joinItems]
  | cons v rest =>
    rw [joinItems, writeItems, writeChars_joinHalves, writeItems_joinItems, writeItems]

theorem writeMembers_joinMembers (layout : Layout) (depth : Nat)
    (entries : List (Value × Value)) :
    writeMembers layout depth (joinMembers entries) = writeMembers layout depth entries := by
  cases entries with
  | nil => rw [joinMembers]
  | cons e rest =>
    obtain ⟨k, v⟩ := e
    rw [joinMembers, writeMembers, writeChars_joinHalves, writeMembers_joinMembers, writeMembers]

end

/-- Putting halves together does not change what is written. -/
theorem write_joinHalves (indent : Nat) (v : Value) :
    write indent (joinHalves v) = write indent v := by
  rw [write, write, writeChars_joinHalves]

theorem map_fst_joinMembers (entries : List (Value × Value)) :
    (joinMembers entries).map Prod.fst = entries.map Prod.fst := by
  induction entries with
  | nil => simp [joinMembers]
  | cons e rest ih => simp [joinMembers, ih]

theorem isOrdered_ofPoints (ps : List Point) : isOrdered (.ofPoints ps) = true := by
  unfold ofPoints
  split <;> simp [isOrdered]

mutual

theorem isOrdered_joinHalves (v : Value) : isOrdered (joinHalves v) = isOrdered v := by
  cases v with
  | torn t => rw [joinHalves, isOrdered_ofPoints, isOrdered] <;> exact nofun
  | list items => rw [joinHalves, isOrdered, itemsAreOrdered_joinItems, isOrdered]
  | mapping entries =>
    rw [joinHalves, isOrdered, map_fst_joinMembers, entriesAreOrdered_joinMembers, isOrdered]
  | null | bool | int | float | string | date | moment => simp [joinHalves]

theorem itemsAreOrdered_joinItems (items : List Value) :
    itemsAreOrdered (joinItems items) = itemsAreOrdered items := by
  cases items with
  | nil => rw [joinItems]
  | cons v rest =>
    rw [joinItems, itemsAreOrdered, isOrdered_joinHalves, itemsAreOrdered_joinItems,
      itemsAreOrdered]

theorem entriesAreOrdered_joinMembers (entries : List (Value × Value)) :
    entriesAreOrdered (joinMembers entries) = entriesAreOrdered entries := by
  cases entries with
  | nil => rw [joinMembers]
  | cons e rest =>
    obtain ⟨k, v⟩ := e
    rw [joinMembers, entriesAreOrdered, isOrdered_joinHalves, entriesAreOrdered_joinMembers,
      entriesAreOrdered]

end

/-! ### A torn character -/

/-- The two halves of a character, each for itself. -/
def tornFace : TornText := ⟨[.ofNat 0xD83D, .ofNat 0xDE00], rfl⟩

end OsgiIvy.Json
