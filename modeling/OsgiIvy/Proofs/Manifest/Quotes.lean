import OsgiIvy.Manifest.Quotes
import OsgiIvy.Proofs.Text.Blanks
import OsgiIvy.Proofs.Text.Pieces

/-!
# Texts that are cut outside quotation marks

Where the marks of each text pair up, texts with separators between them are cut one by one
(`pieces_intercalate`).  A text is one piece exactly when each of its separators stands between
marks (`pieces_eq_self_iff`), and the pieces of any other are shorter than it.
-/

namespace OsgiIvy.Manifest

open OsgiIvy.Text

/-! ### Marks that pair up -/

theorem quotesBalanced_of_not_mem {cs : List Char} (h : '"' ∉ cs) : quotesBalanced cs = true := by
  rw [quotesBalanced, List.count_eq_zero.mpr h]
  rfl

theorem quotesBalanced_append (cs ds : List Char) :
    quotesBalanced (cs ++ ds) = (quotesBalanced cs == quotesBalanced ds) := by
  induction cs with
  | nil =>
    have hnil : quotesBalanced [] = true := rfl
    rw [List.nil_append, hnil, Bool.true_beq]
  | cons c cs ih =>
    rw [List.cons_append]
    by_cases hc : c = '"'
    · subst hc
      rw [quotesBalanced_quote, quotesBalanced_quote, ih]
      cases quotesBalanced cs <;> cases quotesBalanced ds <;> rfl
    · rw [quotesBalanced_cons hc, quotesBalanced_cons hc, ih]

theorem quotesBalanced_intercalate_append {separator : Char} (hsep : separator ≠ '"')
    {texts more : List (List Char)} (h : ∀ text ∈ texts, quotesBalanced text = true) :
    quotesBalanced ([separator].intercalate (texts ++ more)) =
      quotesBalanced ([separator].intercalate more) := by
  induction texts with
  | nil => rfl
  | cons text texts ih =>
    obtain ⟨htext, htexts⟩ := List.forall_mem_cons.mp h
    rw [List.cons_append, ← ih htexts]
    cases texts ++ more with
    | nil => rw [List.intercalate_singleton, htext]; rfl
    | cons next rest =>
      rw [List.intercalate_cons_cons, List.append_assoc, List.singleton_append,
        quotesBalanced_append, quotesBalanced_cons hsep, htext, Bool.true_beq]

theorem quotesBalanced_intercalate {separator : Char} (hsep : separator ≠ '"')
    {texts : List (List Char)} (h : ∀ text ∈ texts, quotesBalanced text = true) :
    quotesBalanced ([separator].intercalate texts) = true := by
  rw [← List.append_nil texts, quotesBalanced_intercalate_append hsep h]
  rfl

/-- Stripping takes no marks. -/
theorem quotesBalanced_strip (cs : List Char) : quotesBalanced (strip cs) = quotesBalanced cs := by
  rw [quotesBalanced, count_strip (by decide), quotesBalanced]

/-! ### Pieces -/

section Pieces

variable {separator : Char}

theorem consFirst_append (c : Char) {ps : List (List Char)} (h : ps ≠ []) (qs : List (List Char)) :
    consFirst c (ps ++ qs) = consFirst c ps ++ qs := by
  cases ps with
  | nil => exact absurd rfl h
  | cons p ps => rfl

theorem pieces_append (hsep : separator ≠ '"') {inside : Bool} {cs : List Char}
    (h : quotesBalanced cs = !inside) (rest : List Char) :
    pieces separator inside (cs ++ separator :: rest) =
      pieces separator inside cs ++ pieces separator false rest := by
  -- Behind the text the marks are closed, so that the separator there is one that cuts.
  induction cs generalizing inside with
  | nil =>
    have hinside : inside = false := by simpa [quotesBalanced] using h
    simp [pieces, cut, hinside, hsep]
  | cons c cs ih =>
    rw [List.cons_append, pieces_cons, pieces_cons]
    by_cases hc : c = '"'
    · subst hc
      rw [quotesBalanced_quote] at h
      have hrest : quotesBalanced cs = !(!inside) := by rw [← h, Bool.not_not]
      rw [if_pos rfl, if_pos rfl, ih hrest, consFirst_append _ (pieces_ne_nil _ _ _)]
    · rw [quotesBalanced_cons hc] at h
      rw [if_neg hc, if_neg hc, ih h]
      split
      · rfl
      · rw [consFirst_append _ (pieces_ne_nil _ _ _)]

/-- Texts whose marks pair up are cut one by one, whatever follows them. -/
theorem pieces_intercalate_append (hsep : separator ≠ '"') {texts more : List (List Char)}
    (hmore : more ≠ []) (h : ∀ text ∈ texts, quotesBalanced text = true) :
    pieces separator false ([separator].intercalate (texts ++ more)) =
      texts.flatMap (pieces separator false) ++
        pieces separator false ([separator].intercalate more) := by
  induction texts with
  | nil => rfl
  | cons text texts ih =>
    obtain ⟨htext, htexts⟩ := List.forall_mem_cons.mp h
    obtain ⟨next, rest, hnext⟩ :=
      List.exists_cons_of_ne_nil (List.append_ne_nil_of_right_ne_nil texts hmore)
    rw [List.cons_append, hnext, List.intercalate_cons_cons, List.append_assoc,
      List.singleton_append, pieces_append hsep htext, ← hnext, ih htexts, List.flatMap_cons,
      List.append_assoc]

theorem pieces_intercalate (hsep : separator ≠ '"') {texts : List (List Char)} (hne : texts ≠ [])
    (h : ∀ text ∈ texts, quotesBalanced text = true) :
    pieces separator false ([separator].intercalate texts) =
      texts.flatMap (pieces separator false) := by
  obtain ⟨front, last, rfl⟩ : ∃ front last, texts = front ++ [last] :=
    ⟨_, _, (List.dropLast_concat_getLast hne).symm⟩
  have hfront : ∀ text ∈ front, quotesBalanced text = true := fun text htext =>
    h text (List.mem_append_left _ htext)
  rw [pieces_intercalate_append hsep (List.cons_ne_nil last []) hfront,
    List.intercalate_singleton, List.flatMap_append, List.flatMap_singleton]

theorem pieces_balanced (separator : Char) {inside : Bool} {cs : List Char}
    (h : quotesBalanced cs = !inside) : ∃ p ps, pieces separator inside cs = p :: ps ∧
      quotesBalanced p = !inside ∧ ∀ q ∈ ps, quotesBalanced q = true := by
  induction cs generalizing inside with
  | nil => exact ⟨[], [], rfl, h, fun q hq => absurd hq List.not_mem_nil⟩
  | cons c cs ih =>
    rw [pieces_cons]
    by_cases hc : c = '"'
    · subst hc
      rw [quotesBalanced_quote] at h
      have hrest : quotesBalanced cs = !(!inside) := by rw [← h, Bool.not_not]
      obtain ⟨p, ps, hcut, hp, hps⟩ := ih hrest
      refine ⟨'"' :: p, ps, ?_, ?_, hps⟩
      · rw [if_pos rfl, hcut, consFirst]
      · rw [quotesBalanced_quote, hp, Bool.not_not]
    · rw [quotesBalanced_cons hc] at h
      obtain ⟨p, ps, hcut, hp, hps⟩ := ih h
      rw [if_neg hc, hcut]
      split
      · next hcuts =>
        have hinside : inside = false := by simpa using (Bool.and_eq_true_iff.mp hcuts).2
        subst hinside
        refine ⟨[], p :: ps, rfl, rfl, ?_⟩
        intro q hq
        rcases List.mem_cons.mp hq with rfl | hmem
        · exact hp
        · exact hps q hmem
      · refine ⟨c :: p, ps, rfl, ?_, hps⟩
        rw [quotesBalanced_cons hc, hp]

theorem quotesBalanced_of_mem_pieces {cs piece : List Char}
    (h : quotesBalanced cs = true) (hpiece : piece ∈ pieces separator false cs) :
    quotesBalanced piece = true := by
  have hout : quotesBalanced cs = !false := h
  obtain ⟨p, ps, hcut, hp, hps⟩ := pieces_balanced separator hout
  rw [hcut] at hpiece
  rcases List.mem_cons.mp hpiece with rfl | hmem
  · exact hp
  · exact hps piece hmem

/-! ### Texts that are one piece -/

/-- The separators of the text stand between quotation marks. -/
def IsWhole (separator : Char) (cs : List Char) : Prop :=
  ∀ before after, cs = before ++ separator :: after → quotesBalanced before = false

theorem isWhole_of_not_mem {cs : List Char} (h : separator ∉ cs) : IsWhole separator cs := by
  rintro before after rfl
  exact absurd (List.mem_append_right before List.mem_cons_self) h

theorem consFirst_eq_singleton_iff {c : Char} {ps : List (List Char)} (hps : ps ≠ [])
    {cs : List Char} : consFirst c ps = [c :: cs] ↔ ps = [cs] := by
  cases ps with
  | nil => exact absurd rfl hps
  | cons p ps => simp [consFirst]

theorem pieces_eq_singleton_iff (hsep : separator ≠ '"') (inside : Bool) (cs : List Char) :
    pieces separator inside cs = [cs] ↔
      ∀ before after, cs = before ++ separator :: after → quotesBalanced before = inside := by
  induction cs generalizing inside with
  | nil => simp [pieces, cut]
  | cons c cs ih =>
    -- A separator of the rest has one character more before it.
    have hshift : (∀ before after, c :: cs = before ++ separator :: after →
        quotesBalanced before = inside) ↔ (c = separator → inside = true) ∧
          ∀ before after, cs = before ++ separator :: after →
            quotesBalanced (c :: before) = inside := by
      constructor
      · intro h
        refine ⟨fun hc => (h [] cs (by rw [hc, List.nil_append])).symm, ?_⟩
        intro before after heq
        exact h (c :: before) after (by rw [heq, List.cons_append])
      · rintro ⟨hfirst, hrest⟩ before after heq
        cases before with
        | nil => exact (hfirst (List.cons.inj heq).1).symm
        | cons b before =>
          obtain ⟨rfl, htail⟩ := List.cons.inj heq
          exact hrest before after htail
    rw [pieces_cons, hshift]
    by_cases hc : c = '"'
    · subst hc
      have hflip : ∀ before, quotesBalanced ('"' :: before) = inside ↔
          quotesBalanced before = !inside := by
        intro before
        rw [quotesBalanced_quote, Bool.not_eq_eq_eq_not]
      simp only [if_true, consFirst_eq_singleton_iff (pieces_ne_nil _ _ _), ih, hflip]
      exact ⟨fun h => ⟨fun heq => absurd heq.symm hsep, h⟩, fun h => h.2⟩
    · simp only [hc, if_false, quotesBalanced_cons hc]
      split
      · next hcuts =>
        obtain ⟨heq, hinside⟩ := Bool.and_eq_true_iff.mp hcuts
        have hsame : c = separator := of_decide_eq_true heq
        have hout : inside = false := by simpa using hinside
        constructor
        · intro h
          exact absurd (List.cons.inj h).1 (List.cons_ne_nil c cs).symm
        · intro h
          exact absurd (h.1 hsame) (by simp [hout])
      · next hcuts =>
        rw [consFirst_eq_singleton_iff (pieces_ne_nil _ _ _), ih]
        refine ⟨fun h => ⟨fun hsame => ?_, h⟩, fun h => h.2⟩
        simpa [hsame] using hcuts

theorem pieces_eq_self_iff (hsep : separator ≠ '"') (cs : List Char) :
    pieces separator false cs = [cs] ↔ IsWhole separator cs :=
  pieces_eq_singleton_iff hsep false cs

theorem length_le_of_mem (separator : Char) {ps : List (List Char)} {piece : List Char}
    (h : piece ∈ ps) : piece.length ≤ ([separator].intercalate ps).length := by
  induction ps with
  | nil => exact absurd h List.not_mem_nil
  | cons p ps ih =>
    cases ps with
    | nil =>
      rw [List.intercalate_singleton, List.mem_singleton.mp h]
    | cons q qs =>
      rw [List.intercalate_cons_cons, List.length_append, List.length_append]
      rcases List.mem_cons.mp h with rfl | hrest
      · omega
      · have := ih hrest
        omega

/-- The pieces of a text that is cut are shorter than the text. -/
theorem length_lt_of_mem_pieces {cs piece : List Char} (hcut : pieces separator false cs ≠ [cs])
    (h : piece ∈ pieces separator false cs) : piece.length < cs.length := by
  have hjoin := intercalate_pieces separator false cs
  cases hp : pieces separator false cs with
  | nil => exact absurd hp (pieces_ne_nil _ _ _)
  | cons p ps =>
    rw [hp] at h hjoin hcut
    cases ps with
    | nil =>
      rw [List.intercalate_singleton] at hjoin
      exact absurd (by rw [hjoin]) hcut
    | cons q qs =>
      have hlength := congrArg List.length hjoin
      rw [List.intercalate_cons_cons, List.length_append, List.length_append,
        List.length_singleton] at hlength
      rcases List.mem_cons.mp h with rfl | hrest
      · omega
      · have := length_le_of_mem separator hrest
        omega

end Pieces

/-! ### Arguments -/

/-- A text with quotation marks around it. -/
def IsEnclosed (cs : List Char) : Prop :=
  2 ≤ cs.length ∧ cs.head? = some '"' ∧ cs.getLast? = some '"'

/-- A text that reading takes as it is: without blanks at its ends and marks around it. -/
def IsBare (cs : List Char) : Prop := IsStripped cs ∧ ¬ IsEnclosed cs

theorem isBare_of_not_mem {cs : List Char} (hcs : IsStripped cs) (h : '"' ∉ cs) : IsBare cs :=
  ⟨hcs, fun henclosed => h (List.mem_of_mem_head? henclosed.2.1)⟩

theorem getLast?_enclosed (inner : List Char) : ('"' :: (inner ++ ['"'])).getLast? = some '"' := by
  rw [← List.cons_append, List.getLast?_append, List.getLast?_singleton, Option.some_or]

theorem isEnclosed_iff (cs : List Char) :
    IsEnclosed cs ↔ ∃ inner, cs = '"' :: (inner ++ ['"']) := by
  constructor
  · rintro ⟨hlength, hhead, hlast⟩
    obtain ⟨front, rfl⟩ := List.getLast?_eq_some_iff.mp hlast
    cases front with
    | nil => simp at hlength
    | cons c inner =>
      have hc : c = '"' := by simpa using hhead
      exact ⟨inner, by rw [hc, List.cons_append]⟩
  · rintro ⟨inner, rfl⟩
    exact ⟨by simp, rfl, getLast?_enclosed inner⟩

theorem unquote_of_isEnclosed {cs inner : List Char} (h : strip cs = '"' :: (inner ++ ['"'])) :
    unquote cs = inner := by
  simp [unquote, h, getLast?_enclosed]

theorem unquote_of_not_isEnclosed {cs : List Char} (h : ¬ IsEnclosed (strip cs)) :
    unquote cs = strip cs := by
  have hcond : ¬ (decide (2 ≤ (strip cs).length) && decide ((strip cs).head? = some '"') &&
      decide ((strip cs).getLast? = some '"')) = true := by
    simpa [IsEnclosed, and_assoc] using h
  rw [unquote]
  exact if_neg hcond

theorem unquote_sublist (cs : List Char) : (unquote cs).Sublist cs := by
  refine List.Sublist.trans ?_ (strip_sublist cs)
  by_cases h : IsEnclosed (strip cs)
  · obtain ⟨inner, hinner⟩ := (isEnclosed_iff _).mp h
    rw [unquote_of_isEnclosed hinner, hinner]
    exact (List.sublist_append_left inner ['"']).trans (List.sublist_cons_self '"' _)
  · have hstrip := unquote_of_not_isEnclosed h
    exact hstrip ▸ List.Sublist.refl (strip cs)

/-- Reading takes exactly the bare arguments as they are, and shortens the others. -/
theorem isBare_of_length_unquote {cs : List Char} (h : (unquote cs).length = cs.length) :
    IsBare cs ∧ unquote cs = cs := by
  have hstrip := strip_length_le cs
  have hopen : ¬ IsEnclosed (strip cs) := by
    intro henclosed
    obtain ⟨inner, hinner⟩ := (isEnclosed_iff _).mp henclosed
    rw [unquote_of_isEnclosed hinner] at h
    rw [hinner, List.length_cons, List.length_append] at hstrip
    omega
  have heq : unquote cs = strip cs := unquote_of_not_isEnclosed hopen
  have hself : strip cs = cs := (strip_sublist cs).eq_of_length (by rw [← heq, h])
  rw [hself] at hopen heq
  exact ⟨⟨(strip_eq_self_iff cs).mp hself, hopen⟩, heq⟩

theorem IsBare.unquote_eq {cs : List Char} (h : IsBare cs) : unquote cs = cs := by
  have hself := strip_eq_self_of_isStripped h.1
  have hopen : ¬ IsEnclosed (strip cs) := by rw [hself]; exact h.2
  rw [unquote_of_not_isEnclosed hopen, hself]

theorem unquote_eq_self_iff (cs : List Char) : unquote cs = cs ↔ IsBare cs :=
  ⟨fun h => (isBare_of_length_unquote (congrArg List.length h)).1, IsBare.unquote_eq⟩

instance (cs : List Char) : Decidable (IsBare cs) := decidable_of_iff _ (unquote_eq_self_iff cs)

/-- The two marks around an argument are a pair. -/
theorem quotesBalanced_unquote (cs : List Char) :
    quotesBalanced (unquote cs) = quotesBalanced cs := by
  rw [← quotesBalanced_strip cs]
  by_cases h : IsEnclosed (strip cs)
  · obtain ⟨inner, hinner⟩ := (isEnclosed_iff _).mp h
    have hmark : quotesBalanced ['"'] = false := rfl
    rw [unquote_of_isEnclosed hinner, hinner, quotesBalanced_quote, quotesBalanced_append, hmark,
      beq_false, Bool.not_not]
  · rw [unquote_of_not_isEnclosed h]

end OsgiIvy.Manifest
