import OsgiIvy.Proofs.Module.IvyUri
import OsgiIvy.Proofs.Outcomes

/-!
# References to artifacts

`RefersTo` says which artifact the parts of a URI refer to, and `IsRefused` what is wrong with a URI
that refers to none (`decode_reads_iff`).

However a URI is spelled, the artifact that is read has no empty part in its query: values are not
empty when they are cut out, and unescaping leaves something of each.  So it is read again from the
URI that is written for it (`decode_encode_of_decode`).
-/

namespace OsgiIvy.IvyUri

open OsgiIvy.Text
open Glyph (after? after?_eq_some_iff ofChar_char)

/-! ### Readable URIs -/

/-- A path that begins with a slash and has a second one, and a query of parameters. -/
structure IsReference (parts : Uri) : Prop where
  path : ∃ rest, parts.path = '/' :: rest ∧ '/' ∈ rest
  query : AreParameters (cutAt '&' parts.query)

/-- The organisation stands between the first two slashes of the path, the name behind them, and
each part in the query is the last value of its key. -/
structure RefersTo (parts : Uri) (a : Artifact String) : Prop where
  query : AreParameters (cutAt '&' parts.query)
  path : ∃ organisation name, parts.path = '/' :: (organisation ++ '/' :: name) ∧
    '/' ∉ organisation ∧ SameOutside a (bare (unescape organisation) (unescape name))
  values : ∀ k : Key, k.get? a = lastValue k (cutAt '&' parts.query)

/-- What is wrong with the parts of a URI, or with a text that has none. -/
inductive IsRefused (uri : String) : Option Uri → Fault → Prop
  | unreadable : IsRefused uri none (.unreadable uri)
  | relativePath {parts : Uri} (h : parts.path.head? ≠ some '/') :
    IsRefused uri (some parts) (.relativePath uri)
  | noOrganisation {parts : Uri} {rest : List Char} (hpath : parts.path = '/' :: rest)
    (h : '/' ∉ rest) : IsRefused uri (some parts) (.noOrganisation uri)
  | query {parts : Uri} {rest : List Char} {fault : Fault} (hpath : parts.path = '/' :: rest)
    (hslash : '/' ∈ rest) (h : FirstMisread uri (cutAt '&' parts.query) fault) :
    IsRefused uri (some parts) fault

section Paths

variable {uri : String} {parts : Uri}

theorem decode_of_relativePath (hparts : Uri.ofChars? uri.toList = some parts)
    (h : parts.path.head? ≠ some '/') : decode uri = .error (.relativePath uri) := by
  rw [decode, Script.glyphs_string, hparts]
  dsimp only
  split
  · next path hpath =>
    rw [after?_eq_some_iff.mp hpath] at h
    exact absurd rfl h
  · rfl

theorem decode_of_noOrganisation {rest : List Char} (hparts : Uri.ofChars? uri.toList = some parts)
    (hpath : parts.path = '/' :: rest) (h : '/' ∉ rest) :
    decode uri = .error (.noOrganisation uri) := by
  have hrest : after? "/" parts.path = some rest := after?_eq_some_iff.mpr hpath
  rw [decode, Script.glyphs_string, hparts]
  simp only [hrest, ofChar_char, dropWhile_ne_of_not_mem h]

theorem Key.get?_bare (organisation name : String) (k : Key) :
    k.get? (bare organisation name) = none := by
  cases k <;> rfl

theorem decode_of_refersTo {a : Artifact String} (hparts : Uri.ofChars? uri.toList = some parts)
    (h : RefersTo parts a) : decode uri = .ok a := by
  obtain ⟨organisation, name, hpath, hslash, hsame⟩ := h.path
  rw [decode_of_path hparts hpath hslash, readParameters_eq_ok_iff]
  refine ⟨h.query, hsame, fun k => ?_⟩
  rw [h.values k, Key.get?_bare, Option.or_none]

theorem IsReference.exists_refersTo (h : IsReference parts) : ∃ a, RefersTo parts a := by
  obtain ⟨rest, hpath, hmem⟩ := h.path
  obtain ⟨organisation, name, rfl, hslash⟩ := List.eq_append_cons_of_mem hmem
  obtain ⟨a, -, hsame, hvalues⟩ := readParameters_of_parameters "" h.query
    (bare (unescape organisation) (unescape name))
  refine ⟨a, h.query, ⟨organisation, name, hpath, hslash, hsame⟩, fun k => ?_⟩
  rw [hvalues k, Key.get?_bare, Option.or_none]

theorem decode_of_isRefused {fault : Fault} (h : IsRefused uri (Uri.ofChars? uri.toList) fault) :
    decode uri = .error fault := by
  generalize hparts : Uri.ofChars? uri.toList = read at h
  cases h with
  | unreadable => rw [decode, Script.glyphs_string, hparts]
  | relativePath h => exact decode_of_relativePath hparts h
  | noOrganisation hpath h => exact decode_of_noOrganisation hparts hpath h
  | query hpath hmem h =>
    obtain ⟨organisation, name, rfl, hslash⟩ := List.eq_append_cons_of_mem hmem
    rw [decode_of_path hparts hpath hslash, readParameters_of_firstMisread h]

end Paths

theorem isReference_or_isRefused (uri : String) :
    (∃ parts, Uri.ofChars? uri.toList = some parts ∧ IsReference parts) ∨
      ∃ fault, IsRefused uri (Uri.ofChars? uri.toList) fault := by
  cases hparts : Uri.ofChars? uri.toList with
  | none => exact .inr ⟨_, .unreadable⟩
  | some parts =>
    by_cases habsolute : parts.path.head? = some '/'
    · obtain ⟨rest, hpath⟩ := List.head?_eq_some_iff.mp habsolute
      by_cases hslash : '/' ∈ rest
      · rcases areParameters_or_firstMisread uri (cutAt '&' parts.query) with hall | ⟨fault, h⟩
        · exact .inl ⟨parts, rfl, ⟨rest, hpath, hslash⟩, hall⟩
        · exact .inr ⟨fault, .query hpath hslash h⟩
      · exact .inr ⟨_, .noOrganisation hpath hslash⟩
    · exact .inr ⟨_, .relativePath habsolute⟩

theorem decode_eq_ok_iff {uri : String} {a : Artifact String} :
    decode uri = .ok a ↔
      ∃ parts, Uri.ofChars? uri.toList = some parts ∧ RefersTo parts a := by
  refine ⟨fun h => ?_, fun ⟨_, hparts, ha⟩ => decode_of_refersTo hparts ha⟩
  rcases isReference_or_isRefused uri with ⟨parts, hparts, hreference⟩ | ⟨fault, hrefused⟩
  · obtain ⟨b, hb⟩ := hreference.exists_refersTo
    have hdecode := decode_of_refersTo hparts hb
    obtain rfl : b = a := Except.ok.inj (hdecode.symm.trans h)
    exact ⟨parts, hparts, hb⟩
  · rw [decode_of_isRefused hrefused] at h
    exact absurd h nofun

theorem decode_eq_error_iff {uri : String} {fault : Fault} :
    decode uri = .error fault ↔ IsRefused uri (Uri.ofChars? uri.toList) fault := by
  refine ⟨fun h => ?_, decode_of_isRefused⟩
  rcases isReference_or_isRefused uri with ⟨parts, hparts, hreference⟩ | ⟨other, hrefused⟩
  · obtain ⟨a, ha⟩ := hreference.exists_refersTo
    rw [decode_of_refersTo hparts ha] at h
    exact absurd h nofun
  · have hother := decode_of_isRefused hrefused
    rw [h] at hother
    exact Except.error.inj hother ▸ hrefused

/-- A URI is read exactly if its parts form a reference, and then as the artifact that they refer
to; any other text is refused for what is wrong with it. -/
theorem decode_reads_iff (uri : String) :
    ((∃ a, decode uri = .ok a) ↔
        ∃ parts, Uri.ofChars? uri.toList = some parts ∧ IsReference parts) ∧
      (∀ a, decode uri = .ok a ↔
        ∃ parts, Uri.ofChars? uri.toList = some parts ∧ RefersTo parts a) ∧
      ∀ fault, decode uri = .error fault ↔
        IsRefused uri (Uri.ofChars? uri.toList) fault := by
  refine ⟨⟨fun ⟨a, h⟩ => ?_, fun ⟨parts, hparts, h⟩ => ?_⟩, fun a => decode_eq_ok_iff,
    fun fault => decode_eq_error_iff⟩
  · refine (isReference_or_isRefused uri).resolve_right fun ⟨fault, hrefused⟩ => ?_
    rw [decode_of_isRefused hrefused] at h
    exact absurd h nofun
  · obtain ⟨a, ha⟩ := h.exists_refersTo
    exact ⟨a, decode_of_refersTo hparts ha⟩

/-! ### Written anew -/

theorem valueUnder_ne_nil {piece value : List Char} {k : Key} (h : IsParameter piece)
    (hvalue : valueUnder k piece = some value) : value ≠ [] := by
  obtain ⟨j, v, hgives⟩ := h
  rw [hgives.valueUnder, Option.ite_none_right_eq_some] at hvalue
  exact Option.some.inj hvalue.2 ▸ hgives.nonempty

theorem lastValue_ne_empty {pieces : List (List Char)} (h : AreParameters pieces) (k : Key) :
    lastValue k pieces ≠ some "" := by
  intro hlast
  obtain ⟨value, hvalue, hempty⟩ := Option.map_eq_some_iff.mp hlast
  obtain ⟨piece, hpiece, hunder⟩ := List.mem_filterMap.mp (List.mem_of_getLast? hvalue)
  have hne : piece ≠ [] := by
    rintro rfl
    rw [valueUnder_nil] at hunder
    exact absurd hunder nofun
  have hvalue_ne := valueUnder_ne_nil (h piece hpiece hne) hunder
  have hdecoded := congrArg String.toList hempty
  rw [unescape_chars, String.toList_ofList] at hdecoded
  exact Percent.decode_ne_nil hvalue_ne hdecoded

theorem extra_decode {uri : String} {a : Artifact String} (h : decode uri = .ok a) :
    a.extra = {} := by
  obtain ⟨parts, -, hrefers⟩ := decode_eq_ok_iff.mp h
  obtain ⟨organisation, name, -, -, hsame⟩ := hrefers.path
  exact hsame.extra

theorem url_decode {uri : String} {a : Artifact String} (h : decode uri = .ok a) :
    a.url = none := by
  obtain ⟨parts, -, hrefers⟩ := decode_eq_ok_iff.mp h
  obtain ⟨organisation, name, -, -, hsame⟩ := hrefers.path
  exact hsame.url

theorem get?_decode_ne_empty {uri : String} {a : Artifact String} (h : decode uri = .ok a)
    (k : Key) : k.get? a ≠ some "" := by
  obtain ⟨parts, -, hrefers⟩ := decode_eq_ok_iff.mp h
  rw [hrefers.values k]
  exact lastValue_ne_empty hrefers.query k

theorem decode_encode_of_decode {uri : String} {a : Artifact String} (h : decode uri = .ok a) :
    decode (encode a) = .ok a := by
  rw [decode_encode_eq (get?_decode_ne_empty h), ← url_decode h, ← extra_decode h]

end OsgiIvy.IvyUri
