import OsgiIvy.Proofs.Manifest.Quoting

/-!
# Cuts outside quotation marks

Cutting a text leaves pieces that are cut no further (`pieces_of_mem_pieces`), and texts that are
cut no further come back from the text that they make up with separators between them.  So there is
one way to cut a text whose marks pair up, and none to cut any other (`split_cuts_uniquely`).
-/

namespace OsgiIvy.Manifest

open OsgiIvy.Text

variable {separator : Char} {cs piece : List Char} {texts : List (List Char)}

/-! ### Pieces are cut no further -/

theorem exists_pieces (separator : Char) (inside : Bool) (cs : List Char) :
    ∃ p ps, pieces separator inside cs = p :: ps ∧ pieces separator inside p = [p] ∧
      ∀ q ∈ ps, pieces separator false q = [q] := by
  -- The first piece begins where the text does, every other behind a separator that was outside.
  induction cs generalizing inside with
  | nil => exact ⟨[], [], rfl, rfl, fun q hq => absurd hq List.not_mem_nil⟩
  | cons c cs ih =>
    rw [pieces_cons]
    by_cases hc : c = '"'
    · subst hc
      obtain ⟨p, ps, hcut, hp, hps⟩ := ih (!inside)
      refine ⟨'"' :: p, ps, ?_, ?_, hps⟩
      · rw [if_pos rfl, hcut, consFirst]
      · rw [pieces_cons, if_pos rfl, hp, consFirst]
    · obtain ⟨p, ps, hcut, hp, hps⟩ := ih inside
      rw [if_neg hc, hcut]
      by_cases hcuts : (c = separator && !inside) = true
      · have hinside : inside = false := by simpa using (Bool.and_eq_true_iff.mp hcuts).2
        subst hinside
        exact ⟨[], p :: ps, if_pos hcuts, rfl, List.forall_mem_cons.mpr ⟨hp, hps⟩⟩
      · refine ⟨c :: p, ps, if_neg hcuts, ?_, hps⟩
        rw [pieces_cons, if_neg hc, if_neg hcuts, hp, consFirst]

theorem pieces_of_mem_pieces (h : piece ∈ pieces separator false cs) :
    pieces separator false piece = [piece] := by
  obtain ⟨p, ps, hcut, hp, hps⟩ := exists_pieces separator false cs
  rw [hcut] at h
  rcases List.mem_cons.mp h with rfl | hmem
  · exact hp
  · exact hps piece hmem

theorem isWhole_of_mem_pieces (hsep : separator ≠ '"') (h : piece ∈ pieces separator false cs) :
    IsWhole separator piece :=
  (pieces_eq_self_iff hsep piece).mp (pieces_of_mem_pieces h)

/-! ### The only cut -/

/-- Some texts that make up a text with separators between them, each of them with an even number
of marks and without a separator outside its marks. -/
structure IsCut (separator : Char) (cs : List Char) (texts : List (List Char)) : Prop where
  ne_nil : texts ≠ []
  joined : [separator].intercalate texts = cs
  even : ∀ text ∈ texts, text.count '"' % 2 = 0
  whole : ∀ text ∈ texts, IsWhole separator text

theorem isCut_pieces (hsep : separator ≠ '"') (h : quotesBalanced cs = true) :
    IsCut separator cs (pieces separator false cs) where
  ne_nil := pieces_ne_nil separator false cs
  joined := intercalate_pieces separator false cs
  even _ htext := of_decide_eq_true (quotesBalanced_of_mem_pieces h htext)
  whole _ htext := isWhole_of_mem_pieces hsep htext

theorem IsCut.eq_pieces (hsep : separator ≠ '"') (h : IsCut separator cs texts) :
    texts = pieces separator false cs := by
  have hbalanced : ∀ text ∈ texts, quotesBalanced text = true := fun text htext =>
    decide_eq_true (h.even text htext)
  rw [← h.joined, pieces_intercalate_of_isWhole hsep h.ne_nil h.whole hbalanced]

theorem split_eq_error (h : cs.count '"' % 2 = 1) :
    split separator cs = .error (.openQuote (String.ofList cs)) := by
  rw [split_eq, if_neg (not_quotesBalanced_iff.mpr h)]

/-- A text is refused exactly if it has an odd number of marks, by a fault that quotes it.  Any
other text is cut, and there is no other cut of it. -/
theorem split_cuts_uniquely (hsep : separator ≠ '"') (cs : List Char) :
    (∀ fault, split separator cs = .error fault ↔
        cs.count '"' % 2 = 1 ∧ fault = .openQuote (String.ofList cs)) ∧
      (cs.count '"' % 2 = 0 → ∃ texts, split separator cs = .ok texts ∧
        IsCut separator cs texts ∧ ∀ others, IsCut separator cs others → others = texts) := by
  have heven (h : cs.count '"' % 2 = 0) : split separator cs = .ok (pieces separator false cs) := by
    have hbalanced : quotesBalanced cs = true := decide_eq_true h
    rw [split_eq, if_pos hbalanced]
  refine ⟨fun fault => ⟨fun h => ?_, ?_⟩, fun h => ?_⟩
  · have hodd : cs.count '"' % 2 = 1 := (split_eq_error_iff separator cs).mp ⟨fault, h⟩
    rw [split_eq_error hodd] at h
    exact ⟨hodd, (Except.error.inj h).symm⟩
  · rintro ⟨hodd, rfl⟩
    exact split_eq_error hodd
  · have hcut : IsCut separator cs (pieces separator false cs) :=
      isCut_pieces hsep (decide_eq_true h)
    exact ⟨_, heven h, hcut, fun _ hothers => hothers.eq_pieces hsep⟩

/-- A comma between marks does not cut, and one at the end of a text leaves an empty piece. -/
theorem split_cuts_uniquely_quoted :
    (',' ≠ '"' ∧ "a,\"b,c\";d,".toList.count '"' % 2 = 0) ∧
      ∀ texts, IsCut ',' "a,\"b,c\";d,".toList texts ↔
        texts = ["a".toList, "\"b,c\";d".toList, []] := by
  have hsep : ',' ≠ '"' := by decide
  have heven : "a,\"b,c\";d,".toList.count '"' % 2 = 0 := by decide
  obtain ⟨cut, hsplit, hcut, honly⟩ := (split_cuts_uniquely hsep _).2 heven
  have heq : ["a".toList, "\"b,c\";d".toList, []] = cut := Except.ok.inj hsplit
  rw [heq]
  exact ⟨⟨hsep, heven⟩, fun texts => ⟨honly texts, fun h => h ▸ hcut⟩⟩

end OsgiIvy.Manifest
