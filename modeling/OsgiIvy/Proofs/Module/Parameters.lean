import Mathlib.Data.List.Basic
import OsgiIvy.Module.IvyUri
import OsgiIvy.Proofs.Text.Percent
import OsgiIvy.Proofs.Text.Pieces
import OsgiIvy.Proofs.Text.Points

/-!
# Parameters of a query

A query is read piece by piece: an empty piece is skipped, a parameter sets one part of the artifact
(`readParameters_of_gives`), and any other piece is refused (`readParameters_of_misread`).  A query
whose pieces are all empty or parameters gives each key the last value it has
(`readParameters_eq_ok_iff`); in any other query the first piece that is neither decides
(`readParameters_eq_error_iff`).
-/

namespace OsgiIvy.IvyUri

open OsgiIvy.Text
open Glyph (map_ofChar_chars ofChar_char)

/-! ### Keys -/

theorem Key.unreserved_name (k : Key) : k.name.toList.all Percent.isUnreserved = true := by
  cases k <;> rfl

theorem Key.not_mem_name (k : Key) : '=' ∉ k.name.toList := fun h =>
  absurd (List.all_eq_true.mp k.unreserved_name '=' h) (by decide)

theorem Key.ofName?_name (k : Key) : Key.ofName? k.name.toList = some k := by
  cases k <;> rfl

theorem Key.name_injective {j k : Key} (h : j.name.toList = k.name.toList) : j = k := by
  have hj := j.ofName?_name
  rw [h, Key.ofName?_name] at hj
  exact (Option.some.inj hj).symm

theorem Key.ofName?_eq_none {name : List Char} (h : ∀ k : Key, name ≠ k.name.toList) :
    Key.ofName? name = none := by
  rw [Key.ofName?, List.find?_eq_none]
  intro k _ hk
  rw [decide_eq_true_eq, map_ofChar_chars] at hk
  exact h k hk.symm

theorem Key.get?_set (j k : Key) (a : Artifact String) (value : String) :
    k.get? (j.set a value) = if k = j then some value else k.get? a := by
  cases j <;> cases k <;> rfl

/-! ### Escaped texts -/

theorem unescape_chars (cs : List Char) : (unescape cs : String) = .ofList (Percent.decode cs) := by
  rw [unescape, Percent.decodeGlyphs_chars, Script.ofGlyphs_string]

/-! ### One piece -/

/-- A piece gives a value to a key: the value is not empty, and the equals sign between the two is
the only one. -/
structure Gives (piece : List Char) (k : Key) (value : List Char) : Prop where
  text : piece = k.name.toList ++ '=' :: value
  single : piece.count '=' = 1
  nonempty : value ≠ []

def IsParameter (piece : List Char) : Prop := ∃ k value, Gives piece k value

/-- What is wrong with a piece that is no parameter. -/
inductive Misread (uri : String) : List Char → Fault → Prop
  | count {piece : List Char} (h : piece.count '=' ≠ 1) : Misread uri piece (.malformedQuery uri)
  | valueless {key : List Char} (h : '=' ∉ key) :
    Misread uri (key ++ ['=']) (.malformedQuery uri)
  | unknown {key value : List Char} (hkey : '=' ∉ key) (hvalue : '=' ∉ value) (hne : value ≠ [])
    (h : ∀ k : Key, key ≠ k.name.toList) :
    Misread uri (key ++ '=' :: value) (.unknownParameter (String.ofList key) uri)

theorem gives_iff {piece value : List Char} {k : Key} :
    Gives piece k value ↔ cutAt '=' piece = [k.name.toList, value] ∧ value ≠ [] := by
  rw [cutAt_eq_pair_iff]
  constructor
  · rintro ⟨rfl, hsingle, hne⟩
    rw [List.count_append, List.count_cons_self, List.count_eq_zero.mpr k.not_mem_name] at hsingle
    have hvalue : '=' ∉ value := List.count_eq_zero.mp (by omega)
    exact ⟨⟨k.not_mem_name, hvalue, rfl⟩, hne⟩
  · rintro ⟨⟨hkey, hvalue, rfl⟩, hne⟩
    refine ⟨rfl, ?_, hne⟩
    rw [List.count_append, List.count_cons_self, List.count_eq_zero.mpr hkey,
      List.count_eq_zero.mpr hvalue]

theorem isParameter_or_misread (uri : String) (piece : List Char) :
    IsParameter piece ∨ ∃ fault, Misread uri piece fault := by
  by_cases hcount : piece.count '=' = 1
  · obtain ⟨key, value, hcut⟩ := List.length_eq_two.mp ((length_cutAt '=' piece).trans (by omega))
    obtain ⟨hkey, hvalue, rfl⟩ := cutAt_eq_pair_iff.mp hcut
    by_cases hne : value = []
    · subst hne
      exact .inr ⟨_, .valueless hkey⟩
    by_cases hknown : ∃ k : Key, key = k.name.toList
    · obtain ⟨k, rfl⟩ := hknown
      exact .inl ⟨k, value, gives_iff.mpr ⟨hcut, hne⟩⟩
    · exact .inr ⟨_, .unknown hkey hvalue hne (not_exists.mp hknown)⟩
  · exact .inr ⟨_, .count hcount⟩

section Steps

variable {uri : String} {piece : List Char}

theorem readParameters_nil_cons (a : Artifact String) (rest : List (List Char)) :
    readParameters uri a ([] :: rest) = readParameters uri a rest := rfl

theorem readParameters_of_gives {k : Key} {value : List Char} (h : Gives piece k value)
    (a : Artifact String) (rest : List (List Char)) :
    readParameters uri a (piece :: rest) =
      readParameters uri (k.set a (unescape value)) rest := by
  obtain ⟨hcut, hne⟩ := gives_iff.mp h
  have hpiece : piece.isEmpty = false := by
    rw [h.text]
    simp
  have hvalue : value.isEmpty = false := List.isEmpty_eq_false_iff.mpr hne
  rw [readParameters, hpiece, ofChar_char, hcut]
  simp only [hvalue, Key.ofName?_name, Bool.false_eq_true, if_false]

theorem readParameters_of_misread {fault : Fault} (hne : piece ≠ []) (h : Misread uri piece fault)
    (a : Artifact String) (rest : List (List Char)) :
    readParameters uri a (piece :: rest) = .error fault := by
  rw [readParameters, if_neg (by simpa using hne), ofChar_char]
  cases h with
  | count h =>
    split
    · next key value hcut =>
      have hlength := length_cutAt '=' piece
      rw [hcut] at hlength
      exact absurd (Nat.succ.inj hlength).symm h
    · rfl
  | valueless h =>
    rw [cutAt_append h]
    rfl
  | unknown hkey hvalue hvalue_ne h =>
    rw [cutAt_append hkey, cutAt_of_not_mem hvalue]
    have hvalue_ne := List.isEmpty_eq_false_iff.mpr hvalue_ne
    simp only [hvalue_ne, Key.ofName?_eq_none h, Script.ofGlyphs_string, Bool.false_eq_true,
      if_false]

end Steps

/-! ### What a query says -/

/-- The value that a piece has for a key: what stands behind the key and its equals sign. -/
def valueUnder (k : Key) (piece : List Char) : Option (List Char) :=
  let (key, value) := Uri.splitAtFirst '=' piece
  if key = k.name.toList then some value else none

/-- The last value of a key, unescaped. -/
def lastValue (k : Key) (pieces : List (List Char)) : Option String :=
  ((pieces.filterMap (valueUnder k)).getLast?).map unescape

theorem valueUnder_nil (k : Key) : valueUnder k [] = none := by
  cases k <;> rfl

theorem Gives.valueUnder {piece value : List Char} {j : Key} (h : Gives piece j value) (k : Key) :
    valueUnder k piece = if k = j then some value else none := by
  have hsplit : Uri.splitAtFirst '=' piece = (j.name.toList, value) := by
    rw [h.text, Uri.splitAtFirst, takeWhile_ne_append j.not_mem_name,
      dropWhile_ne_append j.not_mem_name]
    rfl
  have hkey : j.name.toList = k.name.toList ↔ k = j :=
    ⟨fun h => (Key.name_injective h).symm, fun h => h ▸ rfl⟩
  simp only [IvyUri.valueUnder, hsplit, hkey]

theorem lastValue_cons (k : Key) (piece : List Char) (pieces : List (List Char)) :
    lastValue k (piece :: pieces) =
      (lastValue k pieces).or ((valueUnder k piece).map unescape) := by
  unfold lastValue
  rw [List.filterMap_cons]
  cases valueUnder k piece with
  | none => simp
  | some value =>
    cases hlast : (pieces.filterMap (valueUnder k)).getLast? <;> simp [List.getLast?_cons, hlast]

/-! ### Whole queries -/

def AreParameters (pieces : List (List Char)) : Prop :=
  ∀ piece ∈ pieces, piece ≠ [] → IsParameter piece

/-- The fault of the first piece that is neither empty nor a parameter. -/
def FirstMisread (uri : String) (pieces : List (List Char)) (fault : Fault) : Prop :=
  ∃ before piece after, pieces = before ++ piece :: after ∧ AreParameters before ∧ piece ≠ [] ∧
    Misread uri piece fault

/-- Two artifacts that differ at most in the parts that stand in a query. -/
structure SameOutside {τ : Type} (a b : Artifact τ) : Prop where
  module : a.revision.moduleId = b.revision.moduleId
  url : a.url = b.url
  extra : a.extra = b.extra

theorem Key.sameOutside_set (k : Key) (a : Artifact String) (value : String) :
    SameOutside (k.set a value) a := by
  cases k <;> exact ⟨rfl, rfl, rfl⟩

theorem SameOutside.eq {τ : Type} {a b : Artifact τ} (h : SameOutside a b)
    (hparts : ∀ k : Key, k.get? a = k.get? b) : a = b := by
  obtain ⟨⟨organisation, name, branch, rev⟩, art, type, ext, url, extra⟩ := a
  obtain ⟨⟨organisation', name', branch', rev'⟩, art', type', ext', url', extra'⟩ := b
  have hmodule := h.module
  have hurl := h.url
  have hextra := h.extra
  have hbranch := hparts .branch
  have hrev := hparts .rev
  have htype := hparts .type
  have hart := hparts .art
  have hext := hparts .ext
  simp only [RevisionId.moduleId, ModuleId.mk.injEq, Key.get?] at *
  simp [*]

theorem readParameters_of_parameters (uri : String) {pieces : List (List Char)}
    (h : AreParameters pieces) (a : Artifact String) :
    ∃ b, readParameters uri a pieces = .ok b ∧ SameOutside b a ∧
      ∀ k : Key, k.get? b = (lastValue k pieces).or (k.get? a) := by
  induction pieces generalizing a with
  | nil => exact ⟨a, rfl, ⟨rfl, rfl, rfl⟩, fun k => rfl⟩
  | cons piece pieces ih =>
    have hrest : AreParameters pieces := fun p hp => h p (List.mem_cons_of_mem piece hp)
    by_cases hempty : piece = []
    · obtain ⟨b, hb, hsame, hparts⟩ := ih hrest a
      refine ⟨b, ?_, hsame, fun k => ?_⟩
      · rw [hempty, readParameters_nil_cons, hb]
      · rw [hparts, lastValue_cons, hempty, valueUnder_nil, Option.map_none, Option.or_none]
    · obtain ⟨j, value, hgives⟩ := h piece List.mem_cons_self hempty
      obtain ⟨b, hb, hsame, hparts⟩ := ih hrest (j.set a (unescape value))
      have hset := j.sameOutside_set a (unescape value)
      refine ⟨b, ?_, ⟨hsame.module.trans hset.module, hsame.url.trans hset.url,
        hsame.extra.trans hset.extra⟩, fun k => ?_⟩
      · rw [readParameters_of_gives hgives, hb]
      · rw [hparts, lastValue_cons, hgives.valueUnder, Key.get?_set, Option.or_assoc]
        split <;> simp

theorem readParameters_of_firstMisread {uri : String} {pieces : List (List Char)} {fault : Fault}
    (h : FirstMisread uri pieces fault) (a : Artifact String) :
    readParameters uri a pieces = .error fault := by
  obtain ⟨before, piece, after, rfl, hbefore, hne, hmisread⟩ := h
  induction before generalizing a with
  | nil => exact readParameters_of_misread hne hmisread a after
  | cons p before ih =>
    have hrest : AreParameters before := fun q hq => hbefore q (List.mem_cons_of_mem p hq)
    rw [List.cons_append]
    by_cases hp : p = []
    · rw [hp, readParameters_nil_cons, ih a hrest]
    · obtain ⟨k, value, hgives⟩ := hbefore p List.mem_cons_self hp
      rw [readParameters_of_gives hgives, ih _ hrest]

theorem areParameters_or_firstMisread (uri : String) (pieces : List (List Char)) :
    AreParameters pieces ∨ ∃ fault, FirstMisread uri pieces fault := by
  induction pieces with
  | nil => exact .inl nofun
  | cons piece pieces ih =>
    by_cases hgood : piece ≠ [] → IsParameter piece
    · rcases ih with hall | ⟨fault, before, p, after, rfl, hbefore, hp⟩
      · exact .inl (List.forall_mem_cons.mpr ⟨hgood, hall⟩)
      · exact .inr ⟨fault, piece :: before, p, after, rfl,
          List.forall_mem_cons.mpr ⟨hgood, hbefore⟩, hp⟩
    · obtain ⟨hne, hbad⟩ := Classical.not_imp.mp hgood
      obtain ⟨fault, hfault⟩ := (isParameter_or_misread uri piece).resolve_left hbad
      exact .inr ⟨fault, [], piece, pieces, rfl, nofun, hne, hfault⟩

theorem readParameters_eq_ok_iff {uri : String} {pieces : List (List Char)}
    {a b : Artifact String} :
    readParameters uri a pieces = .ok b ↔ AreParameters pieces ∧ SameOutside b a ∧
      ∀ k : Key, k.get? b = (lastValue k pieces).or (k.get? a) := by
  constructor
  · intro h
    rcases areParameters_or_firstMisread uri pieces with hall | ⟨fault, hfirst⟩
    · obtain ⟨c, hc, hsame, hparts⟩ := readParameters_of_parameters uri hall a
      obtain rfl : c = b := Except.ok.inj (hc.symm.trans h)
      exact ⟨hall, hsame, hparts⟩
    · rw [readParameters_of_firstMisread hfirst] at h
      exact absurd h nofun
  · rintro ⟨hall, hsame, hparts⟩
    obtain ⟨c, hc, hsame', hparts'⟩ := readParameters_of_parameters uri hall a
    have hcb : SameOutside c b := ⟨hsame'.module.trans hsame.module.symm,
      hsame'.url.trans hsame.url.symm, hsame'.extra.trans hsame.extra.symm⟩
    rw [hc, hcb.eq fun k => (hparts' k).trans (hparts k).symm]

theorem readParameters_eq_error_iff {uri : String} {pieces : List (List Char)}
    {a : Artifact String} {fault : Fault} :
    readParameters uri a pieces = .error fault ↔ FirstMisread uri pieces fault := by
  refine ⟨fun h => ?_, fun h => readParameters_of_firstMisread h a⟩
  rcases areParameters_or_firstMisread uri pieces with hall | ⟨other, hfirst⟩
  · obtain ⟨b, hb, -⟩ := readParameters_of_parameters uri hall a
    rw [hb] at h
    exact absurd h nofun
  · have hother := readParameters_of_firstMisread hfirst a
    rw [h] at hother
    exact Except.error.inj hother ▸ hfirst

end OsgiIvy.IvyUri
