import OsgiIvy.Proofs.Outcomes
import OsgiIvy.Proofs.Uri.Joined
import OsgiIvy.Module.Location

/-!
# Located artifacts

A location is told to be an `ivy:` URI by the text in front of its first colon, while its scheme is
found behind the blanks that it begins with and without its tabs and line ends.  The two agree
exactly on the locations of which nothing is dropped in front of the colon (`isIvyUri_iff_scheme`).

A location without a scheme is joined to the base.  Whether that gives a URI with a scheme does not
depend on the base being absolute, but on its scheme having relative URIs (`locate_relative_iff`).
-/

namespace OsgiIvy

open OsgiIvy.Text

/-! ### Schemes of locations -/

namespace IvyUri

/-- What stands for `ivy` in any case is a scheme. -/
theorem isScheme_of_ivy {name : List Char} (h : name.map Char.toLower = "ivy".toList) :
    Uri.isScheme name = true := by
  have halpha : ∀ c ∈ name, c.isAlpha = true := by
    intro c hc
    have hlower : c.toLower ∈ "ivy".toList := h ▸ List.mem_map_of_mem hc
    have hletters : "ivy".toList.all Char.isAlpha = true := by decide
    exact c.isAlpha_toLower_eq_isAlpha ▸ List.all_eq_true.mp hletters _ hlower
  cases name with
  | nil => exact absurd h (by decide)
  | cons c name =>
    have hfirst := halpha c List.mem_cons_self
    have hall : (c :: name).all Uri.isSchemeChar = true := List.all_eq_true.mpr fun d hd => by
      simp [Uri.isSchemeChar, Char.isAlphanum, halpha d hd]
    rw [Uri.isScheme, hall, Bool.and_true]
    exact hfirst

/-- The text in front of the first colon. -/
def front (uri : String) : List Char := uri.toList.takeWhile (· ≠ ':')

theorem isIvyUri_iff {uri : String} :
    isIvyUri uri = true ↔ ':' ∈ uri.toList ∧ (front uri).map Char.toLower = "ivy".toList := by
  simp [isIvyUri, front]

theorem isIvyUri_iff_of_parts {uri : String} {parts : Uri}
    (h : Uri.ofChars? uri.toList = some parts) :
    isIvyUri uri = true ↔
      parts.scheme = "ivy".toList ∧ Uri.clean (front uri) = front uri := by
  rw [isIvyUri_iff, Uri.scheme_of_ofChars? h]
  by_cases hcolon : ':' ∈ uri.toList
  · obtain ⟨name, rest, huri, hname⟩ := List.eq_append_cons_of_mem hcolon
    have hfront : front uri = name := by rw [front, huri, takeWhile_ne_append hname]
    have hscheme := Uri.splitScheme_clean hname rest
    rw [← huri] at hscheme
    rw [hfront, hscheme]
    constructor
    · rintro ⟨-, hivy⟩
      have hvalid := isScheme_of_ivy hivy
      rw [Uri.clean_of_isScheme hvalid, if_pos hvalid]
      exact ⟨hivy, rfl⟩
    · rintro ⟨hivy, hclean⟩
      rw [hclean] at hivy
      split at hivy
      · exact ⟨hcolon, hivy⟩
      · exact absurd hivy (by decide)
  · have hnone : (Uri.splitScheme (Uri.clean uri.toList)).1 = [] := by
      rw [Uri.splitScheme_of_not_mem (Uri.not_mem_clean hcolon)]
    rw [hnone]
    constructor
    · rintro ⟨hmem, -⟩
      exact absurd hmem hcolon
    · rintro ⟨hivy, -⟩
      exact absurd hivy (by decide)

end IvyUri

/-! ### Places -/

/-- The artifact of a module that is the file at a place. -/
def Artifact.file (owner : RevisionId String) (kind : FileKind) (url : String) : Artifact String :=
  let extra := match kind.packaging with
    | some packaging => .ofList [("packaging", packaging)]
    | none => {}
  ⟨owner, some owner.name, some kind.type, some kind.ext, some url, extra⟩

def schemeOf? (url : String) : Option (List Char) := (Uri.ofChars? url.toList).map (·.scheme)

section Places

variable [Uri.Schemes] {base uri : String} {parts : Uri}

theorem locate_of_isIvyUri (h : IvyUri.isIvyUri uri = true) (owner : RevisionId String)
    (kind : FileKind) :
    Artifact.locate owner base uri kind = (IvyUri.decode uri).mapError .ivy :=
  if_pos h

theorem locate_of_not_isIvyUri (h : ¬IvyUri.isIvyUri uri = true) (owner : RevisionId String)
    (kind : FileKind) :
    Artifact.locate owner base uri kind =
      (absoluteUri base uri).map (Artifact.file owner kind) := by
  rw [Artifact.locate, if_neg h]
  cases absoluteUri base uri <;> rfl

theorem absoluteUri_of_scheme (hparts : Uri.ofChars? uri.toList = some parts)
    (h : parts.scheme ≠ []) : absoluteUri base uri = .ok uri := by
  have hscheme : parts.scheme.isEmpty = false := List.isEmpty_eq_false_iff.mpr h
  unfold absoluteUri
  simp only [hparts, hscheme, Bool.false_eq_true, if_false, ok_bind]

section Joined

variable {place : List Char} (hparts : Uri.ofChars? uri.toList = some parts)
  (hscheme : parts.scheme = []) (hjoin : Uri.join base.toList uri.toList = some place)
include hparts hscheme hjoin

theorem absoluteUri_of_unreadable (h : Uri.ofChars? place = none) :
    absoluteUri base uri = .error (.unreadable (String.ofList place)) := by
  have hempty : parts.scheme.isEmpty = true := List.isEmpty_iff.mpr hscheme
  unfold absoluteUri
  simp only [hparts, hempty, hjoin, if_true, ok_bind, String.toList_ofList, h]

/-- What was joined is read again, to see whether it has a scheme now. -/
theorem absoluteUri_of_readable {p : Uri} (h : Uri.ofChars? place = some p) :
    absoluteUri base uri =
      if p.scheme.isEmpty then .error (.notAbsolute (String.ofList place) base)
      else .ok (String.ofList place) := by
  have hempty : parts.scheme.isEmpty = true := List.isEmpty_iff.mpr hscheme
  unfold absoluteUri
  simp only [hparts, hempty, hjoin, if_true, ok_bind, String.toList_ofList, h]

end Joined

end Places

/-! ### Locations with the scheme `ivy` -/

/-- A location is taken for an `ivy:` URI exactly if its scheme is `ivy` and nothing is dropped in
front of its colon.  If its scheme is `ivy` and something is dropped, it becomes a file. -/
theorem isIvyUri_iff_scheme {uri : String} {parts : Uri}
    (h : Uri.ofChars? uri.toList = some parts) :
    (IvyUri.isIvyUri uri = true ↔
        parts.scheme = "ivy".toList ∧ Uri.clean (IvyUri.front uri) = IvyUri.front uri) ∧
      (parts.scheme = "ivy".toList → ∀ owner base kind,
        Artifact.locate owner base uri kind =
          if Uri.clean (IvyUri.front uri) = IvyUri.front uri then
            (IvyUri.decode uri).mapError .ivy
          else .ok (Artifact.file owner kind uri)) := by
  have hiff := IvyUri.isIvyUri_iff_of_parts h
  refine ⟨hiff, fun hscheme owner base kind => ?_⟩
  split
  · next hclean => exact locate_of_isIvyUri (hiff.mpr ⟨hscheme, hclean⟩) owner kind
  · next hclean =>
    have hne : parts.scheme ≠ [] := by
      rw [hscheme]
      decide
    rw [locate_of_not_isIvyUri (fun huri => hclean (hiff.mp huri).2), absoluteUri_of_scheme h hne]
    rfl

/-- A line end inside the scheme. -/
def brokenReference : String := "IV\nY://host/org/mod?rev=1"

def brokenReferenceParts : Uri :=
  ⟨"ivy".toList, "host".toList, "/org/mod".toList, "rev=1".toList, []⟩

theorem isIvyUri_iff_scheme_broken :
    Uri.ofChars? brokenReference.toList = some brokenReferenceParts ∧
      (IvyUri.isIvyUri brokenReference = true ↔ brokenReferenceParts.scheme = "ivy".toList ∧
        Uri.clean (IvyUri.front brokenReference) = IvyUri.front brokenReference) ∧
      (brokenReferenceParts.scheme = "ivy".toList → ∀ owner base kind,
        Artifact.locate owner base brokenReference kind =
          if Uri.clean (IvyUri.front brokenReference) = IvyUri.front brokenReference then
            (IvyUri.decode brokenReference).mapError .ivy
          else .ok (Artifact.file owner kind brokenReference)) := by
  have hparts : Uri.ofChars? brokenReference.toList = some brokenReferenceParts := by decide +kernel
  exact ⟨hparts, isIvyUri_iff_scheme hparts⟩

/-- An indented reference has the scheme `ivy` and can be read, but as a location it is a file. -/
theorem file_of_indented_reference :
    schemeOf? " ivy:///org/mod" = some "ivy".toList ∧
      IvyUri.isIvyUri " ivy:///org/mod" = false ∧
      IvyUri.decode " ivy:///org/mod" = .ok (IvyUri.bare "org" "mod") ∧
      ∀ owner base kind, Artifact.locate owner base " ivy:///org/mod" kind =
        .ok (Artifact.file owner kind " ivy:///org/mod") := by
  have hparts : Uri.ofChars? " ivy:///org/mod".toList =
      some ⟨"ivy".toList, [], "/org/mod".toList, [], []⟩ := by decide +kernel
  refine ⟨by rw [schemeOf?, hparts]; rfl, by decide +kernel, by decide +kernel, ?_⟩
  intro owner base kind
  rw [locate_of_not_isIvyUri (by decide +kernel), absoluteUri_of_scheme hparts (by decide)]
  rfl

/-! ### Locations without a scheme -/

section Relative

variable [Uri.Schemes] {base uri : String} {b r : Uri}

omit [Uri.Schemes] in
theorem not_isIvyUri_of_relative (hr : Uri.ofChars? uri.toList = some r)
    (hrelative : r.scheme = []) : ¬IvyUri.isIvyUri uri = true := by
  intro huri
  have hscheme := ((IvyUri.isIvyUri_iff_of_parts hr).mp huri).1
  rw [hrelative] at hscheme
  exact absurd hscheme (by decide)

variable (hb : Uri.ofChars? base.toList = some b) (hr : Uri.ofChars? uri.toList = some r)
  (habsolute : b.scheme ≠ []) (hrelative : r.scheme = [])
include hb habsolute

omit [Uri.Schemes] in
theorem toList_base_ne_nil : base.toList ≠ [] := by
  intro hnil
  rw [hnil] at hb
  exact habsolute (Uri.scheme_of_ofChars? hb)

include hr hrelative

theorem absoluteUri_empty (h : uri = "") : absoluteUri base uri = .ok base := by
  have hbase : base.toList.isEmpty = false :=
    List.isEmpty_eq_false_iff.mpr (toList_base_ne_nil hb habsolute)
  have hscheme : b.scheme.isEmpty = false := List.isEmpty_eq_false_iff.mpr habsolute
  have hjoin : Uri.join base.toList uri.toList = some base.toList := by
    rw [h, Uri.join, hbase]
    rfl
  rw [absoluteUri_of_readable hr hrelative hjoin hb]
  simp only [hscheme, Bool.false_eq_true, if_false, String.ofList_toList]

section Nonempty

variable (hne : uri ≠ "")
include hne

theorem join_of_relative : Uri.join base.toList uri.toList =
    some (if Uri.usesRelative b.scheme then (Uri.joined b r).render else uri.toList) :=
  Uri.join_eq hb hr (toList_base_ne_nil hb habsolute) (by simpa using hne) hrelative

/-- A scheme without relative URIs: the location stays as it is. -/
theorem absoluteUri_of_not_usesRelative (h : Uri.usesRelative b.scheme = false) :
    absoluteUri base uri = .error (.notAbsolute uri base) := by
  have hjoin := join_of_relative hb hr habsolute hrelative hne
  rw [h, if_neg Bool.false_ne_true] at hjoin
  rw [absoluteUri_of_readable hr hrelative hjoin hr]
  simp only [hrelative, List.isEmpty_nil, if_true, String.ofList_toList]

theorem absoluteUri_of_usesRelative (h : Uri.usesRelative b.scheme = true) :
    absoluteUri base uri =
      if (Uri.joined b r).readsAgain then .ok (String.ofList (Uri.joined b r).render)
      else .error (.unreadable (String.ofList (Uri.joined b r).render)) := by
  have hjoin := join_of_relative hb hr habsolute hrelative hne
  rw [if_pos h] at hjoin
  obtain ⟨v, hv, hread⟩ := Uri.ofChars?_render_joined (Uri.isSplit_of_ofChars? hb)
    (Uri.isSplit_of_ofChars? hr) habsolute h
  have hscheme : v.scheme.isEmpty = false := by
    rw [hv]
    exact List.isEmpty_eq_false_iff.mpr habsolute
  split
  · next hreads =>
    rw [if_pos hreads] at hread
    rw [absoluteUri_of_readable hr hrelative hjoin hread]
    simp only [hscheme, Bool.false_eq_true, if_false]
  · next hreads =>
    rw [if_neg hreads] at hread
    exact absoluteUri_of_unreadable hr hrelative hjoin hread

end Nonempty

theorem absoluteUri_relative :
    absoluteUri base uri =
      if uri = "" then .ok base
      else if Uri.usesRelative b.scheme then
        if (Uri.joined b r).readsAgain then .ok (String.ofList (Uri.joined b r).render)
        else .error (.unreadable (String.ofList (Uri.joined b r).render))
      else .error (.notAbsolute uri base) := by
  by_cases hempty : uri = ""
  · rw [absoluteUri_empty hb hr habsolute hrelative hempty, if_pos hempty]
  · rw [if_neg hempty]
    cases huses : Uri.usesRelative b.scheme with
    | false => exact absoluteUri_of_not_usesRelative hb hr habsolute hrelative hempty huses
    | true => exact absoluteUri_of_usesRelative hb hr habsolute hrelative hempty huses

theorem schemeOf?_of_absoluteUri {url : String} (h : absoluteUri base uri = .ok url) :
    schemeOf? url = some b.scheme := by
  rw [absoluteUri_relative hb hr habsolute hrelative] at h
  split_ifs at h with hempty huses hreads
  · rw [schemeOf?, ← Except.ok.inj h, hb, Option.map_some]
  · obtain ⟨v, hv, hread⟩ := Uri.ofChars?_render_joined (Uri.isSplit_of_ofChars? hb)
      (Uri.isSplit_of_ofChars? hr) habsolute huses
    rw [schemeOf?, ← Except.ok.inj h, String.toList_ofList, hread, if_pos hreads,
      Option.map_some, hv]

/-- Seen from a base with a scheme, a location without one becomes a file at a place with the scheme
of the base, unless the location is not empty and either the scheme of the base has no relative
URIs, and the base is said not to be absolute, or the joined text cannot be read, for which neither
the base nor the location may have an authority. -/
theorem locate_relative_iff (owner : RevisionId String) (kind : FileKind) :
    ((∃ a, Artifact.locate owner base uri kind = .ok a) ↔
        uri = "" ∨ Uri.usesRelative b.scheme = true ∧ (Uri.joined b r).readsAgain = true) ∧
      (∀ a, Artifact.locate owner base uri kind = .ok a →
        ∃ url, a = Artifact.file owner kind url ∧ schemeOf? url = some b.scheme) ∧
      (∀ fault, Artifact.locate owner base uri kind = .error fault ↔ uri ≠ "" ∧
        (Uri.usesRelative b.scheme = false ∧ fault = .notAbsolute uri base ∨
          Uri.usesRelative b.scheme = true ∧ (Uri.joined b r).readsAgain = false ∧
            fault = .unreadable (String.ofList (Uri.joined b r).render))) ∧
      (b.authority ≠ [] ∨ r.authority ≠ [] → (Uri.joined b r).readsAgain = true) := by
  have hivy := not_isIvyUri_of_relative hr hrelative
  refine ⟨?_, fun a ha => ?_, fun fault => ?_,
    Uri.readsAgain_joined (Uri.isSplit_of_ofChars? hb) (Uri.isSplit_of_ofChars? hr)⟩
  · rw [locate_of_not_isIvyUri hivy, absoluteUri_relative hb hr habsolute hrelative]
    split_ifs with hempty huses hreads
    · simp [map_ok, hempty]
    · simp [map_ok, huses, hreads]
    · simp [map_error, hempty, hreads]
    · simp [map_error, hempty, huses]
  · rw [locate_of_not_isIvyUri hivy] at ha
    obtain ⟨url, hurl, rfl⟩ := map_eq_ok.mp ha
    exact ⟨url, rfl, schemeOf?_of_absoluteUri hb hr habsolute hrelative hurl⟩
  · rw [locate_of_not_isIvyUri hivy, absoluteUri_relative hb hr habsolute hrelative]
    split_ifs with hempty huses hreads
    · simp [map_ok, hempty]
    · simp [map_ok, huses, hreads]
    · simp [map_error, hempty, huses, hreads, eq_comm (a := fault)]
    · simp [map_error, hempty, huses, eq_comm (a := fault)]

end Relative

/-- A base without an authority, and a path that begins with two slashes when joined to it. -/
def localBase : Uri := ⟨"file".toList, [], "/d/e;p".toList, [], []⟩

def doubledPath : Uri := ⟨[], [], "/.//h/a.jar".toList, [], []⟩

theorem locate_relative_iff_doubled :
    Uri.ofChars? "FILE:/d/e;p".toList = some localBase ∧
      Uri.ofChars? "/.//h/a.jar".toList = some doubledPath ∧
      localBase.scheme ≠ [] ∧ doubledPath.scheme = [] ∧
      String.ofList (Uri.joined localBase doubledPath).render = "file://h/a.jar" ∧
      ∀ owner kind,
        ((∃ a, Artifact.locate owner "FILE:/d/e;p" "/.//h/a.jar" kind = .ok a) ↔
            "/.//h/a.jar" = "" ∨ Uri.usesRelative localBase.scheme = true ∧
              (Uri.joined localBase doubledPath).readsAgain = true) ∧
          (∀ a, Artifact.locate owner "FILE:/d/e;p" "/.//h/a.jar" kind = .ok a →
            ∃ url, a = Artifact.file owner kind url ∧ schemeOf? url = some localBase.scheme) ∧
          (∀ fault, Artifact.locate owner "FILE:/d/e;p" "/.//h/a.jar" kind = .error fault ↔
            "/.//h/a.jar" ≠ "" ∧ (Uri.usesRelative localBase.scheme = false ∧
                fault = .notAbsolute "/.//h/a.jar" "FILE:/d/e;p" ∨
              Uri.usesRelative localBase.scheme = true ∧
                (Uri.joined localBase doubledPath).readsAgain = false ∧
                fault = .unreadable (String.ofList (Uri.joined localBase doubledPath).render))) ∧
          (localBase.authority ≠ [] ∨ doubledPath.authority ≠ [] →
            (Uri.joined localBase doubledPath).readsAgain = true) := by
  have hbase : Uri.ofChars? "FILE:/d/e;p".toList = some localBase := by decide +kernel
  have huri : Uri.ofChars? "/.//h/a.jar".toList = some doubledPath := by decide +kernel
  have hscheme : localBase.scheme ≠ [] := by decide
  exact ⟨hbase, huri, hscheme, rfl, by decide +kernel,
    locate_relative_iff hbase huri hscheme rfl⟩

/-- A base with the scheme `s3` is absolute, and yet it is said not to be. -/
theorem notAbsolute_bucket :
    schemeOf? "s3://bucket/repo/" = some "s3".toList ∧ schemeOf? "a.jar" = some [] ∧
      Uri.join "s3://bucket/repo/".toList "a.jar".toList = some "a.jar".toList ∧
      (∀ owner kind, Artifact.locate owner "s3://bucket/repo/" "a.jar" kind =
        .error (.notAbsolute "a.jar" "s3://bucket/repo/")) ∧
      (LocationFault.notAbsolute "a.jar" "s3://bucket/repo/").message =
        "Unable to make the uri into the url: a.jar " ++
          "(base 's3://bucket/repo/' is not absolute)" := by
  have hbase : Uri.ofChars? "s3://bucket/repo/".toList =
      some ⟨"s3".toList, "bucket".toList, "/repo/".toList, [], []⟩ := by decide +kernel
  have huri : Uri.ofChars? "a.jar".toList = some ⟨[], [], "a.jar".toList, [], []⟩ := by
    decide +kernel
  have hscheme : schemeOf? "s3://bucket/repo/" = some "s3".toList := by
    rw [schemeOf?, hbase, Option.map_some]
  have hnone : schemeOf? "a.jar" = some [] := by rw [schemeOf?, huri, Option.map_some]
  refine ⟨hscheme, hnone, by decide +kernel, fun owner kind => ?_, by decide +kernel⟩
  rw [locate_of_not_isIvyUri (by decide +kernel),
    absoluteUri_of_not_usesRelative hbase huri (by decide) rfl (by decide) (by decide +kernel)]
  rfl

end OsgiIvy
