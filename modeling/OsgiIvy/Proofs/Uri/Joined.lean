import OsgiIvy.Proofs.Uri.Rendered
import OsgiIvy.Uri.Join

/-!
# Relative URIs joined

A URI without a scheme, joined to a base whose scheme has relative URIs, gives the URI `joined`,
which has the scheme of the base.  Where the scheme of the base has none, the URI stays as it is
(`join_eq`).
-/

namespace OsgiIvy.Uri

open OsgiIvy.Text

/-! ### Paths -/

theorem allKept_intercalate {segments : List (List Char)} (h : ∀ s ∈ segments, AllKept s) :
    AllKept (['/'].intercalate segments) := by
  intro c hc
  rcases mem_intercalate hc with rfl | ⟨s, hs, hcs⟩
  · rfl
  · exact h s hs c hcs

theorem allKept_cutAt {path : List Char} (h : AllKept path) :
    ∀ s ∈ cutAt '/' path, AllKept s := fun _ hs c hc => h c (mem_of_mem_cutAt hs hc)

theorem allKept_splitAtFirst {cs : List Char} (h : AllKept cs) (separator : Char) :
    AllKept (splitAtFirst separator cs).1 ∧ AllKept (splitAtFirst separator cs).2 := by
  obtain ⟨hfirst, hsecond⟩ := splitAtFirst_subset separator cs
  exact ⟨fun c hc => h c (hfirst hc), fun c hc => h c (hsecond hc)⟩

theorem mem_foldl_addSegment {segments resolved : List (List Char)} {s : List Char}
    (h : s ∈ segments.foldl addSegment resolved) : s ∈ resolved ∨ s ∈ segments := by
  induction segments generalizing resolved with
  | nil => exact .inl h
  | cons t segments ih =>
    rcases ih h with hs | hs
    · unfold addSegment at hs
      split_ifs at hs
      · exact .inl (List.mem_of_mem_drop hs)
      · exact .inl hs
      · rcases List.mem_cons.mp hs with rfl | hs
        · exact .inr List.mem_cons_self
        · exact .inl hs
    · exact .inr (List.mem_cons_of_mem t hs)

theorem mem_resolveSegments {segments : List (List Char)} {s : List Char}
    (h : s ∈ resolveSegments segments) : s = [] ∨ s ∈ segments := by
  have hresolved : ∀ t ∈ (segments.foldl addSegment []).reverse, t ∈ segments := fun t ht =>
    (mem_foldl_addSegment (List.mem_reverse.mp ht)).resolve_left List.not_mem_nil
  unfold resolveSegments at h
  dsimp only at h
  split at h
  · rcases List.mem_append.mp h with hs | hs
    · exact .inr (hresolved s hs)
    · exact .inl (List.mem_singleton.mp hs)
  · exact .inr (hresolved s h)

theorem dropInnerEmpty_subset (segments : List (List Char)) :
    dropInnerEmpty segments ⊆ segments := by
  unfold dropInnerEmpty
  split
  · exact fun s hs => hs
  · intro s hs
    rcases List.mem_append.mp hs with hs | hs
    · rcases List.mem_append.mp hs with hs | hs
      · exact List.mem_of_mem_take hs
      · exact List.mem_of_mem_drop (List.dropLast_subset _ (List.mem_filter.mp hs).1)
    · exact List.mem_of_mem_drop hs

theorem directory_subset (path : List Char) : directory path ⊆ cutAt '/' path := by
  unfold directory
  dsimp only
  split
  · exact fun s hs => hs
  · exact List.dropLast_subset _

theorem allKept_joinPath {base path : List Char} (hbase : AllKept base) (hpath : AllKept path) :
    AllKept (joinPath base path) := by
  have hsegments : ∀ s ∈ (if path.head? = some '/' then cutAt '/' path
      else dropInnerEmpty (directory base ++ cutAt '/' path)), AllKept s := by
    intro s hs
    split at hs
    · exact allKept_cutAt hpath s hs
    · rcases List.mem_append.mp (dropInnerEmpty_subset _ hs) with hs | hs
      · exact allKept_cutAt hbase s (directory_subset base hs)
      · exact allKept_cutAt hpath s hs
  unfold joinPath
  generalize (if path.head? = some '/' then cutAt '/' path
    else dropInnerEmpty (directory base ++ cutAt '/' path)) = segments at hsegments ⊢
  have hjoined : AllKept (['/'].intercalate (resolveSegments segments)) := by
    refine allKept_intercalate fun s hs => ?_
    rcases mem_resolveSegments hs with rfl | hs
    · exact nofun
    · exact hsegments s hs
  dsimp only
  split
  · exact List.forall_mem_cons.mpr ⟨rfl, nofun⟩
  · exact hjoined

/-! ### Parameters -/

/-- The URI with the parameters back in its path. -/
def Reference.toUri (r : Reference) : Uri :=
  { r.uri with path := r.uri.path ++ if r.parameters.isEmpty then [] else ';' :: r.parameters }

theorem Reference.render_eq [Schemes] (r : Reference) : r.render = r.toUri.render := rfl

theorem allKept_splitParameters {path : List Char} (h : AllKept path) :
    AllKept (splitParameters path).1 ∧ AllKept (splitParameters path).2 := by
  have hlast : AllKept ((cutAt '/' path).getLast?.getD []) := by
    cases hlast : (cutAt '/' path).getLast? with
    | none => exact nofun
    | some s => exact allKept_cutAt h s (List.mem_of_getLast? hlast)
  obtain ⟨hname, hparameters⟩ := allKept_splitAtFirst hlast ';'
  refine ⟨allKept_intercalate fun s hs => ?_, hparameters⟩
  rcases List.mem_append.mp hs with hs | hs
  · exact allKept_cutAt h s (List.dropLast_subset _ hs)
  · exact List.mem_singleton.mp hs ▸ hname

theorem Reference.frame_ofUri [Schemes] (u : Uri) :
    (ofUri u).uri.scheme = u.scheme ∧ (ofUri u).uri.authority = u.authority := by
  unfold ofUri
  split <;> exact ⟨rfl, rfl⟩

/-- What is known of the parts of a text if the parameters are taken out. -/
structure Reference.IsSplit (r : Reference) : Prop where
  uri : r.uri.IsSplit
  parameters : AllKept r.parameters

theorem Reference.isSplit_ofUri [Schemes] {u : Uri} (h : u.IsSplit) : (ofUri u).IsSplit := by
  unfold ofUri
  split
  · obtain ⟨hpath, hparameters⟩ := allKept_splitParameters h.path
    exact ⟨{ h with path := hpath }, hparameters⟩
  · exact ⟨h, nofun⟩

theorem Reference.IsSplit.toUri {r : Reference} (h : r.IsSplit) : r.toUri.IsSplit := by
  refine { h.uri with path := allKept_append h.uri.path ?_ }
  split
  · exact nofun
  · exact List.forall_mem_cons.mpr ⟨rfl, h.parameters⟩

/-! ### Joining -/

/-- A reference without an authority, joined to a base: the authority is that of the base, and so is
the path if the reference has none. -/
def Reference.onto (base r : Reference) : Reference :=
  let uri := { r.uri with authority := base.uri.authority }
  if r.uri.path.isEmpty && r.parameters.isEmpty then
    let query := if r.uri.query.isEmpty then base.uri.query else r.uri.query
    ⟨{ uri with path := base.uri.path, query := query }, base.parameters⟩
  else ⟨{ uri with path := joinPath base.uri.path r.uri.path }, r.parameters⟩

theorem Reference.frame_onto (base r : Reference) :
    (base.onto r).uri.scheme = r.uri.scheme ∧
      (base.onto r).uri.authority = base.uri.authority := by
  unfold onto
  dsimp only
  split <;> exact ⟨rfl, rfl⟩

theorem Reference.isSplit_onto {base r : Reference} (hbase : base.IsSplit) (hr : r.IsSplit) :
    (base.onto r).IsSplit := by
  have huri : Uri.IsSplit { r.uri with authority := base.uri.authority } :=
    { hr.uri with
      readable := hbase.uri.readable
      closed := hbase.uri.closed
      authority := hbase.uri.authority }
  have hquery : AllKept (if r.uri.query.isEmpty then base.uri.query else r.uri.query) := by
    split
    · exact hbase.uri.query
    · exact hr.uri.query
  unfold onto
  dsimp only
  split
  · exact ⟨{ huri with path := hbase.uri.path, query := hquery }, hbase.parameters⟩
  · exact ⟨{ huri with path := allKept_joinPath hbase.uri.path hr.uri.path }, hr.parameters⟩

variable [Schemes]

/-- The URI that one without a scheme stands for, seen from a base whose scheme has relative
URIs. -/
def joined (b r : Uri) : Uri :=
  let ref := Reference.ofUri { r with scheme := b.scheme }
  if r.authority.isEmpty then ((Reference.ofUri b).onto ref).toUri else ref.toUri

theorem scheme_joined (b r : Uri) : (joined b r).scheme = b.scheme := by
  have href := (Reference.frame_ofUri { r with scheme := b.scheme }).1
  unfold joined
  split
  · exact (Reference.frame_onto _ _).1.trans href
  · exact href

/-- The authority is that of the relative URI, if it has one, and else that of the base. -/
theorem authority_joined (b r : Uri) :
    (joined b r).authority = if r.authority.isEmpty then b.authority else r.authority := by
  unfold joined
  split
  · exact (Reference.frame_onto _ _).2.trans (Reference.frame_ofUri b).2
  · exact (Reference.frame_ofUri { r with scheme := b.scheme }).2

theorem isSplit_joined {b r : Uri} (hb : b.IsSplit) (hr : r.IsSplit) : (joined b r).IsSplit := by
  have hscheme : IsSplit { r with scheme := b.scheme } := { hr with scheme := hb.scheme }
  have href := Reference.isSplit_ofUri hscheme
  unfold joined
  split
  · exact (Reference.isSplit_onto (Reference.isSplit_ofUri hb) href).toUri
  · exact href.toUri

theorem ofChars?_render_joined {b r : Uri} (hb : b.IsSplit) (hr : r.IsSplit)
    (hscheme : b.scheme ≠ []) (huses : usesRelative b.scheme = true) : ∃ v, v.scheme = b.scheme ∧
      ofChars? (joined b r).render = if (joined b r).readsAgain then some v else none := by
  have hjoined := scheme_joined b r
  have hread := ofChars?_render (u := joined b r) (hjoined ▸ hscheme)
    (hjoined ▸ usesAuthority_of_usesRelative huses) (isSplit_joined hb hr)
  rw [hjoined] at hread
  exact hread

/-- Where the base or the relative URI has an authority, the joined one has it, and can be read. -/
theorem readsAgain_joined {b r : Uri} (hb : b.IsSplit) (hr : r.IsSplit)
    (h : b.authority ≠ [] ∨ r.authority ≠ []) : (joined b r).readsAgain = true := by
  refine readsAgain_of_authority (isSplit_joined hb hr) ?_
  rw [authority_joined]
  split
  · next hnone => exact h.resolve_right (not_not.mpr (List.isEmpty_iff.mp hnone))
  · next hsome => exact fun hnil => hsome (List.isEmpty_iff.mpr hnil)

theorem join_eq {base reference : List Char} {b r : Uri} (hb : ofChars? base = some b)
    (hr : ofChars? reference = some r) (hbase : base ≠ []) (hreference : reference ≠ [])
    (hscheme : r.scheme = []) :
    join base reference =
      some (if usesRelative b.scheme then (joined b r).render else reference) := by
  have hbase : base.isEmpty = false := List.isEmpty_eq_false_iff.mpr hbase
  have hreference : reference.isEmpty = false := List.isEmpty_eq_false_iff.mpr hreference
  have hscheme : (if r.scheme.isEmpty then b.scheme else r.scheme) = b.scheme := by
    rw [hscheme]
    rfl
  have hscheme_b := (Reference.frame_ofUri b).1
  have hauthority_r := (Reference.frame_ofUri { r with scheme := b.scheme }).2
  rw [join, hbase, hreference, hb, hr, joined]
  simp only [Bool.false_eq_true, if_false, Option.bind_eq_bind, Option.bind_some, hscheme]
  generalize Reference.ofUri { r with scheme := b.scheme } = ref at hauthority_r ⊢
  generalize Reference.ofUri b = origin at hscheme_b ⊢
  have hauthority : ref.uri.authority = r.authority := hauthority_r
  cases huses : usesRelative b.scheme with
  | false => simp
  | true =>
    simp only [hscheme_b, hauthority, usesAuthority_of_usesRelative huses]
    cases hnone : r.authority.isEmpty with
    | false => simp [Reference.render_eq]
    | true =>
      unfold Reference.onto
      cases hempty : ref.uri.path.isEmpty && ref.parameters.isEmpty <;>
        simp [Reference.render_eq]

end OsgiIvy.Uri
