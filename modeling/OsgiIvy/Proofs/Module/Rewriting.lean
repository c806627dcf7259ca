import OsgiIvy.Proofs.Module.References
import OsgiIvy.Proofs.Uri.Halves

/-!
# References written anew

A URI is read alike whatever its halves of characters are: reading commutes with every change of
halves (`decode_map`), so that what holds of URIs of characters is carried to all texts.  A URI
whose artifact can be written is read as that artifact again, and settles when it is written anew
(`rewritten_settles`).  A half that is read cannot be written (`not_rewritten_torn`).
-/

namespace OsgiIvy.IvyUri

open OsgiIvy.Text
open Glyph (Keeps after? keeps_char keeps_shown ofChar)

/-! ### Other halves -/

section Changes

variable {τ σ γ δ : Type}

def Fault.map (g : τ → σ) : Fault τ → Fault σ
  | .unreadable uri => .unreadable (g uri)
  | .relativePath uri => .relativePath (g uri)
  | .noOrganisation uri => .noOrganisation (g uri)
  | .malformedQuery uri => .malformedQuery (g uri)
  | .unknownParameter key uri => .unknownParameter (g key) (g uri)

/-- What is read, with every text replaced. -/
def mapRead (g : τ → σ) (read : Except (Fault τ) (Artifact τ)) : Except (Fault σ) (Artifact σ) :=
  (read.map (Artifact.map g)).mapError (Fault.map g)

theorem Key.get?_map (g : τ → σ) (a : Artifact τ) (k : Key) :
    k.get? (a.map g) = (k.get? a).map g := by
  cases k <;> rfl

theorem Key.set_map (g : τ → σ) (a : Artifact τ) (value : τ) (k : Key) :
    k.set (a.map g) (g value) = (k.set a value).map g := by
  cases k <;> rfl

variable [Script τ γ] [Script σ δ]

theorem mapRead_eq_ok {g : τ → σ} {read : Except (Fault τ) (Artifact τ)} {b : Artifact σ} :
    mapRead g read = .ok b ↔ ∃ a, read = .ok a ∧ a.map g = b := by
  rw [mapRead, mapError_eq_ok, map_eq_ok]

theorem writtenTexts_map (g : τ → σ) (a : Artifact τ) :
    writtenTexts (a.map g) = (writtenTexts a).map g := by
  rw [writtenTexts, writtenTexts, List.map_cons, List.map_cons, List.map_filterMap]
  simp only [Key.get?_map]
  rfl

/-- A text with other members. -/
def change (f : γ → δ) (text : τ) : σ := Script.ofGlyphs ((Script.glyphs text).map f)

theorem change_ofGlyphs (f : γ → δ) (gs : List γ) :
    change f (Script.ofGlyphs gs : τ) = (Script.ofGlyphs (gs.map f) : σ) := by
  rw [change, Script.glyphs_ofGlyphs]

variable [Glyph γ] [Glyph δ] {f : γ → δ} (hf : Keeps f)
include hf

theorem unescape_map (gs : List γ) :
    (unescape (gs.map f) : σ) = change f (unescape gs : τ) := by
  rw [unescape, unescape, Percent.decodeGlyphs_map hf, change_ofGlyphs]

theorem bare_map (organisation name : List γ) :
    (bare (unescape (organisation.map f)) (unescape (name.map f)) : Artifact σ) =
      (bare (unescape organisation) (unescape name) : Artifact τ).map (change f) := by
  rw [unescape_map (τ := τ) hf, unescape_map (τ := τ) hf]
  rfl

variable [DecidableEq γ] [DecidableEq δ]

theorem Key.ofName?_map (name : List γ) : ofName? (name.map f) = ofName? name := by
  have hkey (k : Key) : '\uFFFD' ∉ k.name.toList := by cases k <;> decide
  unfold ofName?
  congr 1
  funext k
  rw [decide_eq_decide, eq_comm, hf.map_eq_iff (hkey k), eq_comm]

theorem readParameters_map (uri : τ) (a : Artifact τ) (pieces : List (List γ)) :
    readParameters (change f uri : σ) (a.map (change f)) (pieces.map (List.map f)) =
      mapRead (change f) (readParameters uri a pieces) := by
  induction pieces generalizing a with
  | nil => rfl
  | cons piece pieces ih =>
    rw [List.map_cons, readParameters, readParameters, List.isEmpty_map, hf.cutAt (by decide)]
    split
    · exact ih a
    · rcases cutAt (ofChar '=') piece with _ | ⟨key, _ | ⟨value, _ | ⟨third, more⟩⟩⟩
      · rfl
      · rfl
      · -- A key and a value, the one form that is read.
        simp only [List.map_cons, List.map_nil, List.isEmpty_map, Key.ofName?_map hf]
        split
        · rfl
        · cases Key.ofName? key with
          | none =>
            dsimp only
            rw [← change_ofGlyphs (τ := τ)]
            rfl
          | some k =>
            dsimp only
            rw [unescape_map (τ := τ) hf, Key.set_map, ih]
      · rfl

/-- A URI with other halves is read as the same artifact or refused for the same fault, with other
halves. -/
theorem decode_map (uri : τ) :
    decode (change f uri : σ) = mapRead (change f) (decode uri) := by
  rw [decode, decode, change, Script.glyphs_ofGlyphs, Uri.ofChars?_map hf]
  cases Uri.ofChars? (Script.glyphs uri) with
  | none => rfl
  | some parts =>
    dsimp only [Option.map_some, Uri.map]
    rw [hf.after? (by decide)]
    cases after? "/" parts.path with
    | none => rfl
    | some path =>
      dsimp only [Option.map_some]
      rw [hf.dropWhile_ne (by decide), hf.takeWhile_ne (by decide), hf.cutAt (by decide)]
      cases path.dropWhile (· ≠ ofChar '/') with
      | nil => rfl
      | cons slash name =>
        simp only [List.map_cons, bare_map (τ := τ) hf]
        exact readParameters_map hf uri _ _

end Changes

theorem decode_text (uri : List Point) :
    decode (Point.text uri) = mapRead Point.text (decode uri) :=
  decode_map keeps_shown uri

theorem decode_ofString (uri : String) :
    decode (Point.ofString uri) = mapRead Point.ofString (decode uri) :=
  decode_map keeps_char uri

/-! ### What can be written -/

variable {a : Artifact (List Point)}

theorem mem_writtenTexts {text : List Point} {k : Key} (h : k.get? a = some text) :
    text ∈ writtenTexts a :=
  List.mem_cons_of_mem _ (List.mem_cons_of_mem _
    (List.mem_filterMap.mpr ⟨k, by cases k <;> decide, h⟩))

theorem encode?_eq_some_iff {written : String} :
    encode? a = some written ↔
      (∀ text ∈ writtenTexts a, text.any Point.isHalf = false) ∧
        encode (a.map Point.text) = written := by
  have hwhole : (∀ text ∈ writtenTexts a, text.any Point.isHalf = false) ↔
      ¬(writtenTexts a).any (·.any Point.isHalf) = true := by
    simp only [Bool.not_eq_true, List.any_eq_false]
  rw [hwhole, encode?, Option.ite_none_left_eq_some, Option.some.injEq]

/-- An artifact whose texts all stand in its reference and hold no halves is made of characters. -/
theorem map_ofString_text (hurl : a.url = none) (hextra : a.extra = {})
    (h : ∀ text ∈ writtenTexts a, text.any Point.isHalf = false) :
    (a.map Point.text).map Point.ofString = a := by
  refine SameOutside.eq ⟨?_, ?_, ?_⟩ fun k => ?_
  · exact congrArg₂ ModuleId.mk (Point.ofString_text (h _ (by simp [writtenTexts])))
      (Point.ofString_text (h _ (by simp [writtenTexts])))
  · rw [hurl, Artifact.map, Artifact.map, hurl]
    rfl
  · rw [hextra, Artifact.map, Artifact.map, hextra]
    rfl
  · rw [Key.get?_map, Key.get?_map]
    cases hk : k.get? a with
    | none => rfl
    | some text =>
      have htext := Point.ofString_text (h text (mem_writtenTexts hk))
      rw [Option.map_some, Option.map_some, htext]

/-! ### What is read -/

section Read

variable {uri : List Point} (h : decode uri = .ok a)
include h

theorem decode_text_of_decode : decode (Point.text uri) = .ok (a.map Point.text) := by
  rw [decode_text, h]
  rfl

theorem url_decode_points : a.url = none :=
  Option.map_eq_none_iff.mp (url_decode (decode_text_of_decode h))

theorem extra_decode_points : a.extra = {} := by
  have hentries := congrArg Assoc.entries (extra_decode (decode_text_of_decode h))
  exact congrArg Assoc.mk (List.map_eq_nil_iff.mp hentries)

/-- What is written for an artifact that was read is read as that artifact. -/
theorem decode_of_encode? {written : String} (hwritten : encode? a = some written) :
    decode (Point.ofString written) = .ok a := by
  obtain ⟨hwhole, rfl⟩ := encode?_eq_some_iff.mp hwritten
  rw [decode_ofString, decode_encode_of_decode (decode_text_of_decode h)]
  exact congrArg Except.ok (map_ofString_text (url_decode_points h) (extra_decode_points h) hwhole)

/-- A URI without halves refers to nothing that holds one. -/
theorem exists_encode? (huri : uri.any Point.isHalf = false) :
    ∃ written, encode? a = some written := by
  have hread := decode_ofString (Point.text uri)
  rw [Point.ofString_text huri, h, eq_comm, mapRead_eq_ok] at hread
  obtain ⟨b, -, rfl⟩ := hread
  refine ⟨_, encode?_eq_some_iff.mpr ⟨fun text htext => ?_, rfl⟩⟩
  rw [writtenTexts_map] at htext
  obtain ⟨s, -, rfl⟩ := List.mem_map.mp htext
  exact Point.any_isHalf_ofString s

end Read

/-- The reference to what a URI refers to, if it can be written. -/
def rewritten (uri : List Point) : Except (Fault (List Point)) (Option String) :=
  (decode uri).map encode?

/-- A URI is written anew unless a half is read from it, and so always if it holds none.  What is
written is read as the same artifact and is not changed by writing it anew again, so that two URIs
are written alike exactly if they refer to one artifact. -/
theorem rewritten_settles {uri : List Point} {a : Artifact (List Point)} (h : decode uri = .ok a) :
    rewritten uri = .ok (encode? a) ∧
      ((∃ written, encode? a = some written) ↔
        ∀ text ∈ writtenTexts a, text.any Point.isHalf = false) ∧
      (uri.any Point.isHalf = false → ∃ written, encode? a = some written) ∧
      ∀ written, encode? a = some written →
        decode (Point.ofString written) = .ok a ∧
        rewritten (Point.ofString written) = .ok (some written) ∧
        ∀ other, rewritten other = .ok (some written) ↔ decode other = .ok a := by
  refine ⟨by rw [rewritten, h, map_ok], by simp [encode?_eq_some_iff], exists_encode? h,
    fun written hwritten => ?_⟩
  have hagain := decode_of_encode? h hwritten
  refine ⟨hagain, by rw [rewritten, hagain, map_ok, hwritten], fun other => ?_⟩
  constructor
  · intro hother
    obtain ⟨b, hb, hencode⟩ := map_eq_ok.mp hother
    have hbagain := decode_of_encode? hb hencode
    rw [hagain] at hbagain
    rw [hb, Except.ok.inj hbagain]
  · intro hother
    rw [rewritten, hother, map_ok, hwritten]

/-- Another scheme, escapes for no character, for nothing reserved and for nothing at all, a slash
in the name, parameters that are empty, repeated and out of order, and a half behind them. -/
def unruly : List Point :=
  Point.ofString "HTTP://me@host/%6Frg%FF/a/%zz?ext=x&&rev=1&branch=%26&rev=%C3%A9%3D%#end" ++
    [.ofNat 0xD800]

def unrulyTarget : Artifact (List Point) :=
  Artifact.map Point.ofString
    ⟨⟨"org\uFFFD", "a/%zz", some "&", some "é=%"⟩, none, none, some "x", none, {}⟩

theorem rewritten_settles_unruly :
    decode unruly = .ok unrulyTarget ∧
      encode? unrulyTarget =
        some "ivy:///org%EF%BF%BD/a%2F%25zz?branch=%26&rev=%C3%A9%3D%25&ext=x" ∧
      rewritten unruly = .ok (encode? unrulyTarget) ∧
      ∀ written, encode? unrulyTarget = some written →
        decode (Point.ofString written) = .ok unrulyTarget ∧
        rewritten (Point.ofString written) = .ok (some written) ∧
        ∀ other, rewritten other = .ok (some written) ↔ decode other = .ok unrulyTarget := by
  have hread : decode unruly = .ok unrulyTarget := by decide +kernel
  obtain ⟨hrewritten, -, -, hsettles⟩ := rewritten_settles hread
  exact ⟨hread, by decide +kernel, hrewritten, hsettles⟩

/-- A URI whose name is a half of a character. -/
def torn : List Point := Point.ofString "ivy:///a/" ++ [.ofNat 0xD800]

/-- What is read from a URI need not be something that a URI can be written for. -/
theorem not_rewritten_torn :
    decode torn = .ok (bare (Point.ofString "a") [.ofNat 0xD800]) ∧
      rewritten torn = .ok none ∧
      ¬∃ written, rewritten torn = .ok (some written) := by
  have hread : decode torn = .ok (bare (Point.ofString "a") [.ofNat 0xD800]) := by decide +kernel
  have hwritten : rewritten torn = .ok none := by
    rw [rewritten, hread]
    rfl
  refine ⟨hread, hwritten, ?_⟩
  rw [hwritten]
  rintro ⟨_, h⟩
  cases h

end OsgiIvy.IvyUri
