import Mathlib
import OsgiIvy.Proofs.Text.Percent
import OsgiIvy.Proofs.Text.Pieces
import OsgiIvy.Proofs.Text.Points
import OsgiIvy.Uri.Basic

/-!
# Written URIs read again

A scheme is found again as it was written, for no character of it is dropped and it holds no colon
(`clean_append_of_isScheme`, `splitScheme_append`).  An authority is found again as well.  But a URI
without one whose path begins with two slashes is written as if the text behind them were its
authority: it can be read again exactly if that text is one (`ofChars?_render`).
-/

namespace OsgiIvy.Uri

open OsgiIvy.Text
open Glyph (after?_eq_some_iff map_shown_chars ofChar_char)

/-! ### Dropped characters -/

/-- The characters that are not dropped wherever they stand. -/
def isKept (c : Char) : Bool := c ≠ '\t' && c ≠ '\r' && c ≠ '\n'

def AllKept (cs : List Char) : Prop := ∀ c ∈ cs, isKept c = true

theorem clean_eq (cs : List Char) :
    clean cs = (cs.dropWhile fun c => c.toNat ≤ 0x20).filter isKept := rfl

theorem allKept_clean (cs : List Char) : AllKept (clean cs) := fun _ hc =>
  (List.mem_filter.mp hc).2

/-- What is dropped in front of a colon does not depend on what stands behind it. -/
theorem clean_append_colon (cs rest : List Char) :
    clean (cs ++ ':' :: rest) = clean cs ++ ':' :: rest.filter isKept := by
  have hdrop : (cs ++ ':' :: rest).dropWhile (fun c => c.toNat ≤ 0x20) =
      cs.dropWhile (fun c => c.toNat ≤ 0x20) ++ ':' :: rest := by
    rw [List.dropWhile_append]
    split
    · next h =>
      rw [List.isEmpty_iff.mp h]
      rfl
    · rfl
  rw [clean_eq, hdrop, List.filter_append, ← clean_eq]
  rfl

theorem not_mem_clean {c : Char} {cs : List Char} (h : c ∉ cs) : c ∉ clean cs := fun hc =>
  h ((List.dropWhile_sublist _).subset (List.mem_filter.mp hc).1)

/-! ### Schemes -/

/-- A letter, then letters, digits and `+-.`. -/
def isScheme (name : List Char) : Bool := name.head?.any Char.isAlpha && name.all isSchemeChar

theorem toNat_lt_of_isSchemeChar {c : Char} (h : isSchemeChar c = true) : c.toNat < 0x80 := by
  simp only [isSchemeChar, Bool.or_eq_true, decide_eq_true_eq] at h
  rcases h with ((h | rfl) | rfl) | rfl
  · have hunreserved : Percent.isUnreserved c = true := by simp [Percent.isUnreserved, h]
    exact (Percent.unreserved_bounds hunreserved).1
  all_goals decide

/-- What holds of the ASCII characters of schemes holds of all of them. -/
theorem schemeChar_forall {P : Char → Prop}
    (h : ∀ n < 0x80, isSchemeChar (Char.ofNat n) = true → P (Char.ofNat n)) {c : Char}
    (hc : isSchemeChar c = true) : P c := by
  have hp := h c.toNat (toNat_lt_of_isSchemeChar hc)
  rw [Char.ofNat_toNat] at hp
  exact hp hc

section SchemeChars

variable {c : Char} (h : isSchemeChar c = true)
include h

theorem lt_toNat_of_isSchemeChar : 0x20 < c.toNat :=
  schemeChar_forall (P := fun c => 0x20 < c.toNat) (by decide) h

theorem ne_colon_of_isSchemeChar : c ≠ ':' :=
  schemeChar_forall (P := fun c => c ≠ ':') (by decide) h

theorem isKept_of_isSchemeChar : isKept c = true :=
  schemeChar_forall (P := fun c => isKept c = true) (by decide) h

theorem isSchemeChar_toLower : isSchemeChar c.toLower = true :=
  schemeChar_forall (P := fun c => isSchemeChar c.toLower = true) (by decide) h

end SchemeChars

section Schemes

variable {name : List Char}

theorem isSchemeChar_of_mem (h : isScheme name = true) {c : Char} (hc : c ∈ name) :
    isSchemeChar c = true :=
  List.all_eq_true.mp (Bool.and_eq_true_iff.mp h).2 c hc

theorem not_mem_of_isScheme (h : isScheme name = true) : ':' ∉ name := fun hc =>
  ne_colon_of_isSchemeChar (isSchemeChar_of_mem h hc) rfl

theorem clean_append_of_isScheme (h : isScheme name = true) (rest : List Char) :
    clean (name ++ rest) = name ++ rest.filter isKept := by
  have hfirst : (name ++ rest).dropWhile (fun c => c.toNat ≤ 0x20) = name ++ rest := by
    cases name with
    | nil => exact absurd h (by decide)
    | cons c name =>
      have hc := lt_toNat_of_isSchemeChar (isSchemeChar_of_mem h List.mem_cons_self)
      rw [List.cons_append, List.dropWhile_cons_of_neg (by simpa using hc)]
  have hkept : name.filter isKept = name := List.filter_eq_self.mpr fun c hc =>
    isKept_of_isSchemeChar (isSchemeChar_of_mem h hc)
  rw [clean_eq, hfirst, List.filter_append, hkept]

theorem clean_of_isScheme (h : isScheme name = true) : clean name = name := by
  have hclean := clean_append_of_isScheme h []
  simpa using hclean

theorem splitScheme_of_not_mem {cs : List Char} (h : ':' ∉ cs) : splitScheme cs = ([], cs) := by
  rw [splitScheme]
  simp only [ofChar_char, dropWhile_ne_of_not_mem h]

theorem splitScheme_append (h : ':' ∉ name) (rest : List Char) :
    splitScheme (name ++ ':' :: rest) =
      if isScheme name then (name.map Char.toLower, rest) else ([], name ++ ':' :: rest) := by
  rw [splitScheme]
  simp only [ofChar_char, takeWhile_ne_append h, dropWhile_ne_append h]
  cases name with
  | nil => rfl
  | cons c name => simp [isScheme]

/-- The scheme of a text is what is left of the text in front of its first colon. -/
theorem splitScheme_clean (h : ':' ∉ name) (rest : List Char) :
    (splitScheme (clean (name ++ ':' :: rest))).1 =
      if isScheme (clean name) then (clean name).map Char.toLower else [] := by
  rw [clean_append_colon, splitScheme_append (not_mem_clean h)]
  split <;> rfl

theorem isScheme_map_toLower (h : isScheme name = true) :
    isScheme (name.map Char.toLower) = true := by
  have hfirst : (name.map Char.toLower).head?.any Char.isAlpha = true := by
    cases name with
    | nil => exact absurd h (by decide)
    | cons c name => exact c.isAlpha_toLower_eq_isAlpha.trans (Bool.and_eq_true_iff.mp h).1
  have hall : (name.map Char.toLower).all isSchemeChar = true := by
    rw [List.all_map, List.all_eq_true]
    exact fun c hc => isSchemeChar_toLower (isSchemeChar_of_mem h hc)
  rw [isScheme, hfirst, hall, Bool.and_self]

theorem map_toLower_map_toLower (name : List Char) :
    (name.map Char.toLower).map Char.toLower = name.map Char.toLower := by
  rw [List.map_map]
  exact List.map_congr_left fun c _ => c.toLower_toLower_eq_toLower

/-- The scheme of a text, in lower case, or none. -/
def IsFoundScheme (scheme : List Char) : Prop :=
  scheme = [] ∨ isScheme scheme = true ∧ scheme.map Char.toLower = scheme

end Schemes

theorem isFoundScheme_splitScheme (cs : List Char) : IsFoundScheme (splitScheme cs).1 := by
  by_cases hcolon : ':' ∈ cs
  · obtain ⟨name, rest, rfl, hname⟩ := List.eq_append_cons_of_mem hcolon
    rw [splitScheme_append hname]
    split
    · next h => exact .inr ⟨isScheme_map_toLower h, map_toLower_map_toLower _⟩
    · exact .inl rfl
  · rw [splitScheme_of_not_mem hcolon]
    exact .inl rfl

/-! ### Parts -/

theorem splitScheme_snd_subset (cs : List Char) : (splitScheme cs).2 ⊆ cs := by
  by_cases hcolon : ':' ∈ cs
  · obtain ⟨name, rest, rfl, hname⟩ := List.eq_append_cons_of_mem hcolon
    rw [splitScheme_append hname]
    split
    · exact fun c hc => List.mem_append_right name (List.mem_cons_of_mem ':' hc)
    · exact fun c hc => hc
  · rw [splitScheme_of_not_mem hcolon]
    exact fun c hc => hc

theorem splitAuthority_subset (cs : List Char) :
    (splitAuthority cs).1 ⊆ cs ∧ (splitAuthority cs).2 ⊆ cs := by
  unfold splitAuthority
  split
  · next rest hrest =>
    obtain rfl := after?_eq_some_iff.mp hrest
    have hrest := List.subset_append_right "//".toList rest
    exact ⟨fun c hc => hrest ((List.takeWhile_sublist _).subset hc),
      fun c hc => hrest ((List.dropWhile_sublist _).subset hc)⟩
  · exact ⟨List.nil_subset cs, fun c hc => hc⟩

theorem splitAtFirst_subset (separator : Char) (cs : List Char) :
    (splitAtFirst separator cs).1 ⊆ cs ∧ (splitAtFirst separator cs).2 ⊆ cs :=
  ⟨(List.takeWhile_sublist _).subset,
    ((List.drop_sublist 1 _).trans (List.dropWhile_sublist _)).subset⟩

theorem not_endsAuthority_of_mem {c : Char} {cs : List Char} (h : c ∈ (splitAuthority cs).1) :
    endsAuthority c = false := by
  unfold splitAuthority at h
  split at h
  · have hc := List.mem_takeWhile_imp h
    simpa using hc
  · exact absurd h List.not_mem_nil

/-- What is known of the parts that a text was split into. -/
structure IsSplit (u : Uri) : Prop where
  scheme : IsFoundScheme u.scheme
  readable : isAuthority u.authority = true
  closed : ∀ c ∈ u.authority, endsAuthority c = false
  authority : AllKept u.authority
  path : AllKept u.path
  query : AllKept u.query
  fragment : AllKept u.fragment

/-- All parts at once. -/
theorem ofChars?_eq (cs : List Char) :
    ofChars? cs =
      let rest := (splitScheme (clean cs)).2
      let hierarchy := (splitAtFirst '#' (splitAuthority rest).2).1
      if isAuthority (splitAuthority rest).1 then
        some ⟨(splitScheme (clean cs)).1, (splitAuthority rest).1,
          (splitAtFirst '?' hierarchy).1, (splitAtFirst '?' hierarchy).2,
          (splitAtFirst '#' (splitAuthority rest).2).2⟩
      else none := by
  rw [ofChars?]
  simp only [map_shown_chars]
  rfl

theorem scheme_of_ofChars? {cs : List Char} {u : Uri} (h : ofChars? cs = some u) :
    u.scheme = (splitScheme (clean cs)).1 := by
  rw [ofChars?_eq, Option.ite_none_right_eq_some] at h
  rw [← Option.some.inj h.2]

theorem isSplit_of_ofChars? {cs : List Char} {u : Uri} (h : ofChars? cs = some u) :
    IsSplit u := by
  rw [ofChars?_eq, Option.ite_none_right_eq_some] at h
  obtain ⟨hreadable, hu⟩ := h
  obtain rfl := Option.some.inj hu
  have hrest : AllKept (splitScheme (clean cs)).2 := fun c hc =>
    allKept_clean cs c (splitScheme_snd_subset (clean cs) hc)
  generalize (splitScheme (clean cs)).2 = rest at hreadable hrest ⊢
  obtain ⟨hauthority, hbehind⟩ := splitAuthority_subset rest
  obtain ⟨hhierarchy, hfragment⟩ := splitAtFirst_subset '#' (splitAuthority rest).2
  obtain ⟨hpath, hquery⟩ := splitAtFirst_subset '?' (splitAtFirst '#' (splitAuthority rest).2).1
  exact ⟨isFoundScheme_splitScheme (clean cs), hreadable, fun c hc => not_endsAuthority_of_mem hc,
    fun c hc => hrest c (hauthority hc),
    fun c hc => hrest c (hbehind (hhierarchy (hpath hc))),
    fun c hc => hrest c (hbehind (hhierarchy (hquery hc))),
    fun c hc => hrest c (hbehind (hfragment hc))⟩

/-! ### Written form -/

/-- A path as it stands behind an authority. -/
def rooted (path : List Char) : List Char :=
  if path.isEmpty || path.head? = some '/' then path else '/' :: path

/-- The query and the fragment, as they are written. -/
def suffix (u : Uri) : List Char :=
  (if u.query.isEmpty then [] else '?' :: u.query) ++
    if u.fragment.isEmpty then [] else '#' :: u.fragment

/-- What is written between the two slashes behind the scheme and the query. -/
def behindSlashes (u : Uri) : List Char :=
  match u.authority, u.path with
  | [], '/' :: '/' :: path => path
  | authority, path => authority ++ rooted path

/-- The authority that is found in the written form: without an authority, two slashes at the
beginning of the path are taken for those in front of one. -/
def writtenAuthority (u : Uri) : List Char :=
  match u.authority, u.path with
  | [], '/' :: '/' :: path => path.takeWhile (!endsAuthority ·)
  | authority, _ => authority

/-- The written form can be read. -/
def readsAgain (u : Uri) : Bool := isAuthority u.writtenAuthority

theorem takeWhile_append_of_ends {rest : List Char}
    (h : ∀ c, rest.head? = some c → endsAuthority c = true) (cs : List Char) :
    (cs ++ rest).takeWhile (!endsAuthority ·) = cs.takeWhile (!endsAuthority ·) := by
  induction cs with
  | nil =>
    cases rest with
    | nil => rfl
    | cons c rest => simp [h c rfl]
  | cons c cs ih =>
    rw [List.cons_append, List.takeWhile_cons, List.takeWhile_cons, ih]

theorem ends_suffix {u : Uri} {c : Char} (h : (suffix u).head? = some c) :
    endsAuthority c = true := by
  unfold suffix at h
  cases hquery : u.query <;> cases hfragment : u.fragment <;> simp [hquery, hfragment] at h
  all_goals
    subst h
    rfl

theorem ends_rooted_append_suffix {u : Uri} {path : List Char} {c : Char}
    (h : (rooted path ++ suffix u).head? = some c) : endsAuthority c = true := by
  cases path with
  | nil => exact ends_suffix h
  | cons d path =>
    by_cases hd : d = '/'
    · simp only [rooted, hd, List.head?_cons, decide_true, Bool.or_true, if_true,
        List.cons_append, Option.some.injEq] at h
      exact h ▸ rfl
    · simp only [rooted, hd, List.isEmpty_cons, List.head?_cons, Option.some.injEq,
        decide_false, Bool.or_self, Bool.false_eq_true, if_false, List.cons_append] at h
      exact h ▸ rfl

/-- Without an authority, either the path begins with two slashes or it is written behind them. -/
theorem behindSlashes_cases (u : Uri) :
    (∃ path, u.authority = [] ∧ u.path = '/' :: '/' :: path ∧ behindSlashes u = path ∧
        writtenAuthority u = path.takeWhile (!endsAuthority ·)) ∨
      (u.authority = [] → ['/', '/'].isPrefixOf u.path = false) ∧
        behindSlashes u = u.authority ++ rooted u.path ∧ writtenAuthority u = u.authority := by
  unfold behindSlashes writtenAuthority
  split
  · next path hauthority hpath => exact .inl ⟨path, hauthority, hpath, rfl, rfl⟩
  · next hother =>
    refine .inr ⟨fun hauthority => ?_, rfl, rfl⟩
    rw [Bool.eq_false_iff]
    intro hdoubled
    obtain ⟨path, hpath⟩ := List.isPrefixOf_iff_prefix.mp hdoubled
    exact hother path hauthority hpath.symm

section Rendered

variable {u : Uri}

theorem render_eq [Schemes] (hscheme : u.scheme ≠ []) (h : usesAuthority u.scheme = true) :
    u.render = u.scheme ++ ':' :: '/' :: '/' :: (behindSlashes u ++ suffix u) := by
  have hnonempty : u.scheme.isEmpty = false := List.isEmpty_eq_false_iff.mpr hscheme
  rcases behindSlashes_cases u with ⟨path, hauthority, hpath, hbehind, -⟩ | ⟨hdoubled, hbehind, -⟩
  · rw [hbehind]
    simp [render, hnonempty, h, hauthority, hpath, suffix]
  · have hslashes : (!u.authority.isEmpty || !(['/', '/'].isPrefixOf u.path)) = true := by
      by_cases hauthority : u.authority = []
      · simp [hdoubled hauthority]
      · simp [hauthority]
    rw [hbehind]
    simp [render, hnonempty, h, hslashes, suffix, rooted]

theorem takeWhile_behindSlashes (h : ∀ c ∈ u.authority, endsAuthority c = false) :
    (behindSlashes u ++ suffix u).takeWhile (!endsAuthority ·) = writtenAuthority u := by
  rcases behindSlashes_cases u with ⟨path, -, -, hbehind, hwritten⟩ | ⟨-, hbehind, hwritten⟩
  · rw [hbehind, hwritten, takeWhile_append_of_ends fun c => ends_suffix]
  · rw [hbehind, hwritten, List.append_assoc,
      takeWhile_append_of_ends fun c => ends_rooted_append_suffix, List.takeWhile_eq_self_iff]
    exact fun c hc => by simp [h c hc]

theorem allKept_append {cs ds : List Char} (hcs : AllKept cs) (hds : AllKept ds) :
    AllKept (cs ++ ds) := fun c hc => (List.mem_append.mp hc).elim (hcs c) (hds c)

theorem allKept_rooted {path : List Char} (h : AllKept path) : AllKept (rooted path) := by
  unfold rooted
  split
  · exact h
  · exact List.forall_mem_cons.mpr ⟨rfl, h⟩

theorem allKept_suffix (h : IsSplit u) : AllKept (suffix u) := by
  refine allKept_append ?_ ?_
  · split
    · exact nofun
    · exact List.forall_mem_cons.mpr ⟨rfl, h.query⟩
  · split
    · exact nofun
    · exact List.forall_mem_cons.mpr ⟨rfl, h.fragment⟩

theorem allKept_behindSlashes (h : IsSplit u) : AllKept (behindSlashes u) := by
  rcases behindSlashes_cases u with ⟨path, -, hpath, hbehind, -⟩ | ⟨-, hbehind, -⟩
  · rw [hbehind]
    intro c hc
    exact h.path c (hpath ▸ List.mem_cons_of_mem '/' (List.mem_cons_of_mem '/' hc))
  · rw [hbehind]
    exact allKept_append h.authority (allKept_rooted h.path)

/-- A written URI has the scheme that was written, and can be read exactly if the authority that is
found in it can. -/
theorem ofChars?_render [Schemes] (hscheme : u.scheme ≠ []) (huses : usesAuthority u.scheme = true)
    (h : IsSplit u) : ∃ v, v.scheme = u.scheme ∧
      ofChars? u.render = if u.readsAgain then some v else none := by
  obtain ⟨hvalid, hlower⟩ := h.scheme.resolve_left hscheme
  have hrender := render_eq hscheme huses
  have hkept : AllKept (':' :: '/' :: '/' :: (behindSlashes u ++ suffix u)) := by
    have hrest := allKept_append (allKept_behindSlashes h) (allKept_suffix h)
    simpa [AllKept, isKept] using hrest
  have hclean : clean u.render = u.render := by
    rw [hrender, clean_append_of_isScheme hvalid, List.filter_eq_self.mpr hkept]
  have hsplit : splitScheme u.render =
      (u.scheme, '/' :: '/' :: (behindSlashes u ++ suffix u)) := by
    rw [hrender, splitScheme_append (not_mem_of_isScheme hvalid), if_pos hvalid, hlower]
  have hauthority : (splitAuthority ('/' :: '/' :: (behindSlashes u ++ suffix u))).1 =
      writtenAuthority u := takeWhile_behindSlashes h.closed
  rw [ofChars?_eq, hclean, hsplit]
  simp only [hauthority]
  refine ⟨_, ?_, rfl⟩
  rfl

/-- An authority that was written is found again. -/
theorem readsAgain_of_authority (h : IsSplit u) (hauthority : u.authority ≠ []) :
    u.readsAgain = true := by
  rcases behindSlashes_cases u with ⟨path, hnone, -, -, -⟩ | ⟨-, -, hwritten⟩
  · exact absurd hnone hauthority
  · rw [readsAgain, hwritten]
    exact h.readable

end Rendered

end OsgiIvy.Uri
