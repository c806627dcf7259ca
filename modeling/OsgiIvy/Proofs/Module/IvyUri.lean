import OsgiIvy.Module.Location
import OsgiIvy.Proofs.Module.Parameters

/-!
# Ivy URIs read back

An encoded reference holds no character that another part of a URI could begin with, so it splits
into the parts it was put together from (`ofChars?_encodeChars`).  Its parameters are read one after
the other, and each sets the part it was written from (`readParameters_parameters`).

An artifact that lacks a part is told from one whose part is the empty text: nothing is written of
the first, and a key without a value of the second.  The reader takes no such key, so that an
artifact with an empty part has a reference which refers to nothing (`decode_reference_iff`).
-/

namespace OsgiIvy.IvyUri

open OsgiIvy.Text
open Glyph (after? after?_eq_some_iff ofChar_char)

/-! ### Escaped texts -/

theorem unescape_escape (s : String) : unescape (escape s) = s := by
  rw [unescape_chars, escape, Percent.decode_encode, String.ofList_toList]

theorem escape_ne_nil {s : String} (h : s ≠ "") : escape s ≠ [] := by
  intro hnil
  have hs := unescape_escape s
  rw [hnil] at hs
  exact h hs.symm

theorem not_mem_escape {c : Char} (h : Percent.isUnreserved c = false) (hpercent : c ≠ '%')
    (s : String) : c ∉ escape s :=
  Percent.not_mem_encode h hpercent s.toList

/-! ### The characters of a reference -/

def pathChars (a : Artifact String) : List Char :=
  '/' :: (escape a.revision.organisation ++ '/' :: escape a.revision.name)

def queryChars (a : Artifact String) : List Char :=
  ['&'].intercalate (Key.all.filterMap (parameter? a))

theorem encodeChars_eq (a : Artifact String) :
    encodeChars a = "ivy://".toList ++ (pathChars a ++ '?' :: queryChars a) := by
  have hscheme : "ivy:///".toList = "ivy://".toList ++ ['/'] := rfl
  unfold encodeChars pathChars queryChars
  simp only [hscheme, List.append_assoc, List.cons_append, List.nil_append]

theorem mem_pathChars {a : Artifact String} {c : Char} (h : c ∈ pathChars a) :
    Percent.isUnreserved c = true ∨ c = '%' ∨ c = '/' := by
  rcases List.mem_cons.mp h with rfl | h
  · exact .inr (.inr rfl)
  rcases List.mem_append.mp h with h | h
  · exact (Percent.unreserved_of_mem_encode h).imp_right .inl
  rcases List.mem_cons.mp h with rfl | h
  · exact .inr (.inr rfl)
  · exact (Percent.unreserved_of_mem_encode h).imp_right .inl

theorem mem_parameter {a : Artifact String} {k : Key} {p : List Char} (h : parameter? a k = some p)
    {c : Char} (hc : c ∈ p) : Percent.isUnreserved c = true ∨ c = '%' ∨ c = '=' := by
  obtain ⟨v, -, rfl⟩ := Option.map_eq_some_iff.mp h
  rcases List.mem_append.mp hc with hname | hvalue
  · exact .inl (List.all_eq_true.mp k.unreserved_name c hname)
  rcases List.mem_cons.mp hvalue with rfl | hvalue
  · exact .inr (.inr rfl)
  · exact (Percent.unreserved_of_mem_encode hvalue).imp_right .inl

theorem mem_queryChars {a : Artifact String} {c : Char} (h : c ∈ queryChars a) :
    Percent.isUnreserved c = true ∨ c = '%' ∨ c = '=' ∨ c = '&' := by
  rcases mem_intercalate h with rfl | ⟨p, hp, hc⟩
  · exact .inr (.inr (.inr rfl))
  obtain ⟨k, -, hk⟩ := List.mem_filterMap.mp hp
  rcases mem_parameter hk hc with hc | hc | hc
  · exact .inl hc
  · exact .inr (.inl hc)
  · exact .inr (.inr (.inl hc))

theorem mem_encodeChars {a : Artifact String} {c : Char} (h : c ∈ encodeChars a) :
    Percent.isUnreserved c = true ∨ c ∈ ['%', '=', '&', '/', '?', ':'] := by
  rw [encodeChars_eq] at h
  rcases List.mem_append.mp h with h | h
  · have hscheme : "ivy://".toList = ['i', 'v', 'y', ':', '/', '/'] := rfl
    simp only [hscheme, List.mem_cons, List.not_mem_nil, or_false] at h
    rcases h with rfl | rfl | rfl | rfl | rfl | rfl <;> simp [Percent.isUnreserved]
  rcases List.mem_append.mp h with h | h
  · rcases mem_pathChars h with hc | rfl | rfl
    · exact .inl hc
    all_goals exact .inr (by decide)
  rcases List.mem_cons.mp h with rfl | h
  · exact .inr (by decide)
  rcases mem_queryChars h with hc | rfl | rfl | rfl
  · exact .inl hc
  all_goals exact .inr (by decide)

/-! ### The parts of a reference -/

/-- Nothing is cut from a reference: it has neither line ends nor tabs, and no blank in front. -/
theorem clean_encodeChars (a : Artifact String) : Uri.clean (encodeChars a) = encodeChars a := by
  have hfirst : (encodeChars a).dropWhile (fun c => (Glyph.shown c).toNat ≤ 0x20) =
      encodeChars a := by
    simp [encodeChars_eq]
  rw [Uri.clean, hfirst, List.filter_eq_self]
  intro c hc
  simp only [Bool.and_eq_true, decide_eq_true_eq]
  refine ⟨⟨?_, ?_⟩, ?_⟩ <;> rintro (rfl : c = _)
  all_goals exact absurd (mem_encodeChars hc) (by decide)

/-- A reference has the parts that it was put together from. -/
theorem ofChars?_encodeChars (a : Artifact String) :
    Uri.ofChars? (encodeChars a) = some ⟨"ivy".toList, [], pathChars a, queryChars a, []⟩ := by
  have hscheme : Uri.splitScheme (encodeChars a) =
      ("ivy".toList, '/' :: '/' :: (pathChars a ++ '?' :: queryChars a)) := by
    simp [encodeChars_eq, Uri.splitScheme, Uri.isSchemeChar]
  have hauthority : Uri.splitAuthority ('/' :: '/' :: (pathChars a ++ '?' :: queryChars a)) =
      ([], pathChars a ++ '?' :: queryChars a) := by
    have hslashes : after? "//" ('/' :: '/' :: (pathChars a ++ '?' :: queryChars a)) =
        some (pathChars a ++ '?' :: queryChars a) := after?_eq_some_iff.mpr rfl
    rw [Uri.splitAuthority, hslashes]
    simp [pathChars, Uri.endsAuthority]
  have hfragment : '#' ∉ pathChars a ++ '?' :: queryChars a := by
    intro h
    have hmem : '#' ∈ encodeChars a := by
      rw [encodeChars_eq]
      exact List.mem_append_right _ h
    exact absurd (mem_encodeChars hmem) (by decide)
  have hquery : '?' ∉ pathChars a := fun h => absurd (mem_pathChars h) (by decide)
  rw [Uri.ofChars?, clean_encodeChars, hscheme]
  simp only [hauthority, ofChar_char, Uri.splitAtFirst, takeWhile_ne_of_not_mem hfragment,
    dropWhile_ne_of_not_mem hfragment, takeWhile_ne_append hquery, dropWhile_ne_append hquery]
  rfl

/-! ### Parameters -/

/-- Gives an artifact the part that another one has under a key. -/
def Key.carry (a b : Artifact String) (k : Key) : Artifact String :=
  (k.get? a).elim b fun value => k.set b value

/-- The parts in the query are all that an artifact has besides its module, place and extra
attributes. -/
theorem foldl_carry (a : Artifact String) :
    Key.all.foldl (Key.carry a) (bare a.revision.organisation a.revision.name) =
      { a with url := none, extra := {} } := by
  obtain ⟨⟨organisation, name, branch, rev⟩, art, type, ext, url, extra⟩ := a
  cases branch <;> cases rev <;> cases type <;> cases art <;> cases ext <;> rfl

theorem gives_parameter (k : Key) {v : String} (hv : v ≠ "") :
    Gives (k.name.toList ++ '=' :: escape v) k (escape v) := by
  have hvalue : '=' ∉ escape v := not_mem_escape (by decide) (by decide) v
  exact gives_iff.mpr ⟨cutAt_eq_pair_iff.mpr ⟨k.not_mem_name, hvalue, rfl⟩, escape_ne_nil hv⟩

theorem readParameters_cons {uri v : String} (b : Artifact String) (k : Key) (hv : v ≠ "")
    (rest : List (List Char)) :
    readParameters uri b ((k.name.toList ++ '=' :: escape v) :: rest) =
      readParameters uri (k.set b v) rest := by
  rw [readParameters_of_gives (gives_parameter k hv), unescape_escape]

/-- A key with nothing after it is refused, whatever follows. -/
theorem readParameters_cons_empty {uri : String} (b : Artifact String) (k : Key)
    (rest : List (List Char)) :
    readParameters uri b ((k.name.toList ++ '=' :: escape "") :: rest) =
      .error (.malformedQuery uri) :=
  readParameters_of_misread (by simp) (.valueless k.not_mem_name) b rest

theorem parameter?_of_some {a : Artifact String} {k : Key} {v : String} (h : k.get? a = some v) :
    parameter? a k = some (k.name.toList ++ '=' :: escape v) := by
  rw [parameter?, h, Option.map_some]

theorem readParameters_parameters (a : Artifact String) (uri : String) (ks : List Key)
    (b : Artifact String) :
    readParameters uri b (ks.filterMap (parameter? a)) =
      if ∀ k ∈ ks, k.get? a ≠ some "" then .ok (ks.foldl (Key.carry a) b)
      else .error (.malformedQuery uri) := by
  induction ks generalizing b with
  | nil => rfl
  | cons k ks ih =>
    cases hk : k.get? a with
    | none =>
      have hskip : parameter? a k = none := by rw [parameter?, hk, Option.map_none]
      have hcarry : k.carry a b = b := by rw [Key.carry, hk, Option.elim_none]
      have hrest : (∀ j ∈ k :: ks, j.get? a ≠ some "") ↔ ∀ j ∈ ks, j.get? a ≠ some "" := by
        simp [hk]
      rw [List.filterMap_cons_none hskip, ih, List.foldl_cons, hcarry]
      simp only [hrest]
    | some v =>
      rw [List.filterMap_cons_some (parameter?_of_some hk)]
      by_cases hv : v = ""
      · have hrefused : ¬∀ j ∈ k :: ks, j.get? a ≠ some "" := fun h =>
          h k List.mem_cons_self (hv ▸ hk)
        rw [hv, readParameters_cons_empty, if_neg hrefused]
      · have hcarry : k.carry a b = k.set b v := by rw [Key.carry, hk, Option.elim_some]
        have hrest : (∀ j ∈ k :: ks, j.get? a ≠ some "") ↔ ∀ j ∈ ks, j.get? a ≠ some "" := by
          simp [hk, hv]
        rw [readParameters_cons b k hv, ih, List.foldl_cons, hcarry]
        simp only [hrest]

/-- An empty query is one empty parameter, which is skipped. -/
theorem readParameters_cutAt {pieces : List (List Char)} (h : ∀ piece ∈ pieces, '&' ∉ piece)
    (uri : String) (b : Artifact String) :
    readParameters uri b (cutAt '&' (['&'].intercalate pieces)) = readParameters uri b pieces := by
  by_cases hne : pieces = []
  · rw [hne]
    rfl
  · rw [cutAt_intercalate hne h]

/-! ### References -/

theorem isIvyUri_encode (a : Artifact String) : isIvyUri (encode a) = true := by
  simp [isIvyUri, encode, encodeChars_eq]

theorem decode_of_path {uri : String} {parts : Uri} {organisation name : List Char}
    (hparts : Uri.ofChars? uri.toList = some parts)
    (hpath : parts.path = '/' :: (organisation ++ '/' :: name)) (hslash : '/' ∉ organisation) :
    decode uri = readParameters uri (bare (unescape organisation) (unescape name))
      (cutAt '&' parts.query) := by
  have hrest : after? "/" parts.path = some (organisation ++ '/' :: name) :=
    after?_eq_some_iff.mpr hpath
  rw [decode, Script.glyphs_string, hparts]
  simp only [hrest, ofChar_char, takeWhile_ne_append hslash, dropWhile_ne_append hslash]

theorem decode_encode_reads (a : Artifact String) :
    decode (encode a) = readParameters (encode a)
      (bare a.revision.organisation a.revision.name) (Key.all.filterMap (parameter? a)) := by
  have hslash : '/' ∉ escape a.revision.organisation := not_mem_escape (by decide) (by decide) _
  have hand : ∀ piece ∈ Key.all.filterMap (parameter? a), '&' ∉ piece := by
    intro piece hpiece hmem
    obtain ⟨k, -, hk⟩ := List.mem_filterMap.mp hpiece
    exact absurd (mem_parameter hk hmem) (by decide)
  have hparts : Uri.ofChars? (encode a).toList =
      some ⟨"ivy".toList, [], pathChars a, queryChars a, []⟩ := by
    rw [encode, String.toList_ofList, ofChars?_encodeChars]
  rw [← readParameters_cutAt hand, decode_of_path hparts rfl hslash, unescape_escape,
    unescape_escape]
  rfl

theorem Key.forall_mem_all {P : Key → Prop} : (∀ k ∈ all, P k) ↔ ∀ k, P k := by
  constructor
  · intro h k
    exact h k (by cases k <;> decide)
  · exact fun h k _ => h k

theorem decode_encode_eq {a : Artifact String} (h : ∀ k : Key, k.get? a ≠ some "") :
    decode (encode a) = .ok { a with url := none, extra := {} } := by
  rw [decode_encode_reads, readParameters_parameters, if_pos (Key.forall_mem_all.mpr h),
    foldl_carry]

/-- An artifact whose parts in the query are not empty is what its reference reads as, whatever the
texts are made of, and what a location that is this reference designates, whoever owns it. -/
theorem locate_reference (a : Artifact String) (h : ∀ k : Key, k.get? a ≠ some "") :
    isIvyUri (encode a) = true ∧
      decode (encode a) = .ok { a with url := none, extra := {} } ∧
      ∀ owner base kind,
        Artifact.locate owner base (encode a) kind = .ok { a with url := none, extra := {} } := by
  have huri := isIvyUri_encode a
  have hdecode := decode_encode_eq h
  refine ⟨huri, hdecode, fun owner base kind => ?_⟩
  rw [Artifact.locate, if_pos huri, hdecode]
  rfl

/-- No organisation, reserved characters, percent signs that begin no octet, and characters of more
than one octet. -/
def awkward : Artifact String :=
  { revision := ⟨"", "a/b?c#d", some "50%&=", none⟩
    name := some "%41 ;:@"
    type := none
    ext := some "é😀"
    url := some "file:///a.jar"
    extra := .ofList [("packaging", "bundle")] }

theorem locate_reference_awkward :
    (∀ k : Key, k.get? awkward ≠ some "") ∧
      isIvyUri (encode awkward) = true ∧
      decode (encode awkward) = .ok { awkward with url := none, extra := {} } ∧
      ∀ owner base kind, Artifact.locate owner base (encode awkward) kind =
        .ok { awkward with url := none, extra := {} } := by
  have hparts : ∀ k : Key, k.get? awkward ≠ some "" := by
    intro k
    cases k <;> decide
  exact ⟨hparts, locate_reference awkward hparts⟩

/-! ### Empty parts -/

/-- The reference to an artifact can be read exactly if no part in its query is the empty text; then
it reads as the artifact, and otherwise its query is malformed. -/
theorem decode_reference_iff (a : Artifact String) :
    ((∃ b, decode (encode a) = .ok b) ↔ ∀ k : Key, k.get? a ≠ some "") ∧
      decode (encode a) = if ∀ k ∈ Key.all, k.get? a ≠ some "" then
        .ok { a with url := none, extra := {} } else .error (.malformedQuery (encode a)) := by
  have hread : decode (encode a) = if ∀ k ∈ Key.all, k.get? a ≠ some "" then
      .ok { a with url := none, extra := {} } else .error (.malformedQuery (encode a)) := by
    rw [decode_encode_reads, readParameters_parameters, foldl_carry]
  refine ⟨Iff.trans ?_ Key.forall_mem_all, hread⟩
  rw [hread]
  split
  · next h => exact ⟨fun _ => h, fun _ => ⟨_, rfl⟩⟩
  · next h => exact ⟨fun ⟨_, hb⟩ => absurd hb nofun, fun hall => absurd hall h⟩

/-- An artifact on a branch that has no name. -/
def unnamedBranch : Artifact String := Key.branch.set (bare "org" "mod") ""

theorem decode_reference_unnamedBranch :
    encode unnamedBranch = "ivy:///org/mod?branch=" ∧
      decode (encode unnamedBranch) = .error (.malformedQuery "ivy:///org/mod?branch=") ∧
      ¬∃ b, decode (encode unnamedBranch) = .ok b := by
  have huri : encode unnamedBranch = "ivy:///org/mod?branch=" := by decide
  have hrefused : decode (encode unnamedBranch) =
      .error (.malformedQuery "ivy:///org/mod?branch=") := by
    rw [huri]
    rfl
  refine ⟨huri, hrefused, ?_⟩
  rw [hrefused]
  rintro ⟨b, hb⟩
  cases hb

end OsgiIvy.IvyUri
