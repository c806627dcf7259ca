import OsgiIvy.Proofs.Json.Texts
import OsgiIvy.Proofs.Value.Objects

/-!
# Values in JSON

Values without numbers are read back from what is written, except that the members of a mapping
stand in the order of their keys afterwards (`read_write`).  A reader leaves what follows a value
alone, and the length of a written value is fuel enough to read it.
-/

namespace OsgiIvy.Json

open OsgiIvy.Text OsgiIvy.Value
open Glyph (next? next?_char satisfies_char)

/-! ### Plain values -/

/-- Values of texts, truth values, lists and mappings with texts as keys. -/
inductive Plain : Value → Prop
  | null : Plain .null
  | bool (b : Bool) : Plain (.bool b)
  | string (s : String) : Plain (.string s)
  | list {items : List Value} (h : ∀ v ∈ items, Plain v) : Plain (.list items)
  | object {fields : List (String × Value)} (hkeys : (fields.map Prod.fst).Nodup)
      (h : ∀ f ∈ fields, Plain f.2) : Plain (.object fields)

/-- Entries in the order of their keys. -/
def byKey (es : List (Value × Value)) : List (Value × Value) :=
  sortBy (fun e f => keyLe e.1 f.1) es

theorem byKey_perm (es : List (Value × Value)) : (byKey es).Perm es := sortBy_perm _ es

/-- Members in the order of their names. -/
def byName {α : Type} (fields : List (String × α)) : List (String × α) :=
  sortBy (fun e f => textLe e.1 f.1) fields

theorem insertSorted_map {α β : Type} {le : α → α → Bool} {le' : β → β → Bool} {f : α → β}
    (h : ∀ a b, le' (f a) (f b) = le a b) (a : α) (as : List α) :
    insertSorted le' (f a) (as.map f) = (insertSorted le a as).map f := by
  induction as with
  | nil => rfl
  | cons b rest ih =>
    rw [List.map_cons, insertSorted, insertSorted, h]
    cases le a b with
    | true => rfl
    | false => exact congrArg (f b :: ·) ih

theorem sortBy_map {α β : Type} {le : α → α → Bool} {le' : β → β → Bool} {f : α → β}
    (h : ∀ a b, le' (f a) (f b) = le a b) (as : List α) :
    sortBy le' (as.map f) = (sortBy le as).map f := by
  induction as with
  | nil => rfl
  | cons a rest ih =>
    simp only [sortBy, List.map_cons, List.foldr_cons] at ih ⊢
    rw [ih, insertSorted_map h]

theorem rearrange_byKey_object (fields : List (String × Value)) :
    rearrange byKey (.object fields) =
      .object ((byName fields).map fun f => (f.1, rearrange byKey f.2)) := by
  have hsorted : byKey (textEntries (fields.map fun f => (f.1, rearrange byKey f.2))) =
      textEntries ((byName fields).map fun f => (f.1, rearrange byKey f.2)) := by
    simp only [textEntries, List.map_map]
    exact sortBy_map (fun _ _ => rfl) fields
  rw [rearrange_object, hsorted]
  rfl

/-! ### Blanks -/

theorem skipSpace_append {blanks : List Char} (hblanks : ∀ c ∈ blanks, isSpace c = true)
    {c : Char} (hc : isSpace c = false) (rest : List Char) :
    skipSpace (blanks ++ c :: rest) = c :: rest := by
  rw [skipSpace, satisfies_char, List.dropWhile_append_of_pos hblanks,
    List.dropWhile_cons_of_neg (by simp [hc])]

theorem skipSpace_cons {c : Char} (hc : isSpace c = false) (rest : List Char) :
    skipSpace (c :: rest) = c :: rest :=
  skipSpace_append (fun _ h => absurd h List.not_mem_nil) hc rest

/-- A layout whose line breaks are blanks, with no more than blanks about a comma or colon. -/
structure Layout.IsReadable (layout : Layout) : Prop where
  lineBreak : ∀ depth, ∀ c ∈ layout.lineBreak depth, isSpace c = true
  separator : ∃ blanks, layout.separator = ',' :: blanks ∧ ∀ c ∈ blanks, isSpace c = true
  colon : ∃ blanks, layout.colon = ':' :: blanks ∧ ∀ c ∈ blanks, isSpace c = true

theorem isReadable_indented (width : Nat) : (Layout.indented width).IsReadable := by
  refine ⟨?_, ⟨[], rfl, by simp⟩, ⟨[' '], rfl, by simp [isSpace]⟩⟩
  intro depth c hc
  rcases List.mem_cons.mp hc with rfl | hc
  · rfl
  · rw [List.eq_of_mem_replicate hc]
    rfl

/-! ### Written forms -/

theorem writeItems_eq (layout : Layout) (depth : Nat) (items : List Value) :
    writeItems layout depth items = items.map (writeChars layout depth) := by
  induction items with
  | nil => simp [writeItems]
  | cons v rest ih => simp [writeItems, ih]

theorem writeChars_list (layout : Layout) (depth : Nat) (items : List Value) :
    writeChars layout depth (.list items) =
      enclose layout depth '[' ']' (items.map (writeChars layout (depth + 1))) := by
  rw [writeChars, writeItems_eq]

/-- A member as it is written. -/
def writeMember (layout : Layout) (depth : Nat) (f : String × Value) : List Char :=
  writeText f.1 ++ layout.colon ++ writeChars layout depth f.2

theorem writeMembers_eq (layout : Layout) (depth : Nat) (es : List (Value × Value)) :
    writeMembers layout depth es = es.map fun e => (e.1, writeChars layout depth e.2) := by
  induction es with
  | nil => simp [writeMembers]
  | cons e rest ih => simp [writeMembers, ih]

theorem writeChars_object (layout : Layout) (depth : Nat) (fields : List (String × Value)) :
    writeChars layout depth (.object fields) =
      enclose layout depth '\x7b' '\x7d'
        ((byName fields).map (writeMember layout (depth + 1))) := by
  have hsorted : sortBy memberLe (writeMembers layout (depth + 1) (textEntries fields)) =
      (byName fields).map fun f => (.string f.1, writeChars layout (depth + 1) f.2) := by
    rw [writeMembers_eq, textEntries, List.map_map]
    exact sortBy_map (fun _ _ => rfl) fields
  rw [object_eq, writeChars, hsorted, List.map_map]
  rfl

/-! ### First characters -/

/-- A text that begins with something other than a blank or a closing mark. -/
def Begins (cs : List Char) : Prop :=
  ∃ c rest, cs = c :: rest ∧ isSpace c = false ∧ c ≠ ']' ∧ c ≠ '\x7d'

theorem Begins.append {cs : List Char} (h : Begins cs) (rest : List Char) :
    Begins (cs ++ rest) := by
  obtain ⟨c, cs, rfl, hspace, hclosing⟩ := h
  exact ⟨c, cs ++ rest, rfl, hspace, hclosing⟩

theorem Begins.intercalate {p : List Char} (h : Begins p) (separator : List Char)
    (ps : List (List Char)) : Begins (separator.intercalate (p :: ps)) := by
  cases ps with
  | nil => rwa [List.intercalate_singleton]
  | cons q qs =>
    rw [List.intercalate_cons_cons, List.append_assoc]
    exact h.append _

theorem skipSpace_begins {blanks cs : List Char} (hblanks : ∀ c ∈ blanks, isSpace c = true)
    (h : Begins cs) : skipSpace (blanks ++ cs) = cs := by
  obtain ⟨c, cs, rfl, hspace, -⟩ := h
  exact skipSpace_append hblanks hspace cs

theorem begins_enclose (layout : Layout) (depth : Nat) {opening closing : Char}
    (hspace : isSpace opening = false) (hclosing : opening ≠ ']' ∧ opening ≠ '\x7d')
    (items : List (List Char)) :
    Begins (enclose layout depth opening closing items) := by
  unfold enclose
  split
  · exact ⟨opening, _, rfl, hspace, hclosing⟩
  · exact ⟨opening, _, rfl, hspace, hclosing⟩

theorem begins_writeChars {v : Value} (h : Plain v) (layout : Layout) (depth : Nat) :
    Begins (writeChars layout depth v) := by
  cases h with
  | null => exact ⟨'n', "ull".toList, by simp [writeChars], rfl, by decide⟩
  | bool b =>
    cases b with
    | true => exact ⟨'t', "rue".toList, by simp [writeChars], rfl, by decide⟩
    | false => exact ⟨'f', "alse".toList, by simp [writeChars], rfl, by decide⟩
  | string s =>
    rw [writeChars]
    exact ⟨'"', _, rfl, rfl, by decide⟩
  | list =>
    rw [writeChars_list]
    exact begins_enclose layout depth rfl (by decide) _
  | object =>
    rw [writeChars_object]
    exact begins_enclose layout depth rfl (by decide) _

theorem begins_writeMember (layout : Layout) (depth : Nat) (f : String × Value) :
    Begins (writeMember layout depth f) :=
  ⟨'"', _, rfl, rfl, by decide⟩

/-! ### Reading back -/

/-- What is written for a value is read as the value, and what follows it is left. -/
def ReadsBack (layout : Layout) (v : Value) : Prop :=
  ∀ depth fuel rest, (writeChars layout depth v).length < fuel →
    readValue fuel (writeChars layout depth v ++ rest) = .ok (rearrange byKey v, rest)

theorem readsBack_string (layout : Layout) (s : String) : ReadsBack layout (.string s) := by
  intro depth fuel rest hfuel
  obtain ⟨fuel, rfl⟩ : ∃ n, fuel = n + 1 := ⟨fuel - 1, by omega⟩
  rw [writeChars] at hfuel ⊢
  obtain ⟨cs, hwritten, hread⟩ := readText_writeText (Nat.le_of_lt_succ hfuel) rest
  have htext : readValue (fuel + 1) ('"' :: cs) = orMalformed (readText fuel cs) := rfl
  rw [hwritten, rearrange_string, htext, hread]
  rfl

theorem readsBack_null (layout : Layout) : ReadsBack layout .null := by
  intro depth fuel rest hfuel
  obtain ⟨fuel, rfl⟩ : ∃ n, fuel = n + 1 := ⟨fuel - 1, by omega⟩
  have hsame : rearrange byKey .null = .null := by simp [rearrange]
  rw [writeChars, hsame]
  rfl

theorem readsBack_bool (layout : Layout) (b : Bool) : ReadsBack layout (.bool b) := by
  intro depth fuel rest hfuel
  obtain ⟨fuel, rfl⟩ : ∃ n, fuel = n + 1 := ⟨fuel - 1, by omega⟩
  rw [writeChars, rearrange_bool]
  cases b <;> rfl

/-! ### Series -/

/-- How a reader of many things up to a closing mark goes on from the reader of one. -/
structure Series {β : Type} (closing : Char)
    (one : Nat → List Char → Except Fault (β × List Char))
    (many : Nat → List Char → Except Fault (List β × List Char)) : Prop where
  last : ∀ {fuel cs rest after b}, one fuel cs = .ok (b, rest) →
    skipSpace rest = closing :: after → many (fuel + 1) cs = .ok ([b], after)
  more : ∀ {fuel cs rest others after b bs}, one fuel cs = .ok (b, rest) →
    skipSpace rest = ',' :: others → many fuel (skipSpace others) = .ok (bs, after) →
    many (fuel + 1) cs = .ok (b :: bs, after)

theorem series_items : Series ']' readValue readItems := by
  constructor
  · intro fuel cs rest after v hv hrest
    simp [readItems, hv, hrest, next?_char, bind, Except.bind, pure, Except.pure]
  · intro fuel cs rest others after v vs hv hrest hvs
    simp [readItems, hv, hrest, hvs, next?_char, bind, Except.bind, pure, Except.pure]

/-- A name and its member. -/
def readMember (fuel : Nat) (cs : List Char) : Except Fault ((Value × Value) × List Char) := do
  let (name, rest) ← orMalformed (readName fuel cs)
  let (v, rest) ← readValue fuel rest
  pure ((name, v), rest)

theorem readMember_eq_ok {fuel : Nat} {cs rest : List Char} {f : Value × Value}
    (h : readMember fuel cs = .ok (f, rest)) :
    ∃ name member, readName fuel cs = some (name, member) ∧
      readValue fuel member = .ok (f.2, rest) ∧ f.1 = name := by
  cases hname : readName fuel cs with
  | none => simp [readMember, hname, orMalformed, bind, Except.bind] at h
  | some r =>
    cases hv : readValue fuel r.2 with
    | error fault => simp [readMember, hname, hv, orMalformed, bind, Except.bind] at h
    | ok w =>
      simp only [readMember, hname, hv, orMalformed, bind, Except.bind, pure, Except.pure,
        Except.ok.injEq, Prod.mk.injEq] at h
      refine ⟨r.1, r.2, rfl, ?_, ?_⟩
      · rw [hv, ← h.1, ← h.2]
      · rw [← h.1]

theorem series_members : Series '\x7d' readMember readMembers := by
  constructor
  · intro fuel cs rest after f hf hrest
    obtain ⟨name, member, hname, hv, hkey⟩ := readMember_eq_ok hf
    obtain ⟨k, v⟩ := f
    simp only at hkey hv
    simp [readMembers, hname, hv, hkey, orMalformed, hrest, next?_char, bind, Except.bind, pure,
      Except.pure]
  · intro fuel cs rest others after f fs hf hrest hfs
    obtain ⟨name, member, hname, hv, hkey⟩ := readMember_eq_ok hf
    obtain ⟨k, v⟩ := f
    simp only at hkey hv
    simp [readMembers, hname, hv, hkey, orMalformed, hrest, hfs, next?_char, bind, Except.bind,
      pure, Except.pure]

section Written

variable {α β : Type} {closing : Char} {one : Nat → List Char → Except Fault (β × List Char)}
  {many : Nat → List Char → Except Fault (List β × List Char)} {written : α → List Char}
  {result : α → β}

/-- Things are read back one after the other, up to the closing mark behind blanks. -/
theorem Series.read_intercalate (hseries : Series closing one many)
    (hclosing : isSpace closing = false) {blanks ending : List Char}
    (hblanks : ∀ c ∈ blanks, isSpace c = true) (hending : ∀ c ∈ ending, isSpace c = true)
    (rest : List Char) {a : α} {as : List α} (hbegins : ∀ b ∈ a :: as, Begins (written b))
    (hone : ∀ b ∈ a :: as, ∀ fuel rest, (written b).length < fuel →
      one fuel (written b ++ rest) = .ok (result b, rest)) (fuel : Nat)
    (hfuel : ((',' :: blanks).intercalate ((a :: as).map written)).length < fuel) :
    many (fuel + 1) ((',' :: blanks).intercalate ((a :: as).map written) ++
      (ending ++ closing :: rest)) = .ok ((a :: as).map result, rest) := by
  -- Behind the first thing stand blanks and the closing mark, or a comma and what follows.
  induction as generalizing a fuel with
  | nil =>
    simp only [List.map_cons, List.map_nil, List.intercalate_singleton] at hfuel ⊢
    have ha := hone a List.mem_cons_self fuel (ending ++ closing :: rest) hfuel
    exact hseries.last ha (skipSpace_append hending hclosing rest)
  | cons b as ih =>
    obtain ⟨later, hlater⟩ : ∃ cs, cs = (',' :: blanks).intercalate ((b :: as).map written) :=
      ⟨_, rfl⟩
    have hwritten : (',' :: blanks).intercalate ((a :: b :: as).map written) =
        written a ++ ',' :: (blanks ++ later) := by
      rw [List.map_cons, List.map_cons, List.intercalate_cons_cons, ← List.map_cons, ← hlater,
        List.append_assoc, List.cons_append]
    rw [hwritten] at hfuel ⊢
    simp only [List.length_append, List.length_cons] at hfuel
    obtain ⟨fuel, rfl⟩ : ∃ n, fuel = n + 1 := ⟨fuel - 1, by omega⟩
    have ha := hone a List.mem_cons_self (fuel + 1)
      (',' :: (blanks ++ (later ++ (ending ++ closing :: rest)))) (by omega)
    have hlaterBegins : Begins (later ++ (ending ++ closing :: rest)) := by
      rw [hlater, List.map_cons]
      exact ((hbegins b (List.mem_cons_of_mem a List.mem_cons_self)).intercalate _ _).append _
    have hrest := ih (fun c hc => hbegins c (List.mem_cons_of_mem a hc))
      (fun c hc => hone c (List.mem_cons_of_mem a hc)) fuel (by rw [← hlater]; omega)
    rw [← hlater, ← skipSpace_begins hblanks hlaterBegins] at hrest
    rw [List.append_assoc, List.cons_append, List.append_assoc]
    exact hseries.more ha (skipSpace_cons rfl _) hrest

/-- What stands between an opening and a closing mark is read back behind the line break. -/
theorem Series.read_enclose (hseries : Series closing one many)
    (hclosing : isSpace closing = false) {layout : Layout} (hlayout : layout.IsReadable)
    (depth : Nat) (opening : Char) (rest : List Char) {as : List α} (hne : as ≠ [])
    (hbegins : ∀ a ∈ as, Begins (written a))
    (hone : ∀ a ∈ as, ∀ fuel rest, (written a).length < fuel →
      one fuel (written a ++ rest) = .ok (result a, rest)) {fuel : Nat}
    (hfuel : (enclose layout depth opening closing (as.map written)).length ≤ fuel) :
    ∃ cs, Begins cs ∧
      enclose layout depth opening closing (as.map written) ++ rest =
        opening :: (layout.lineBreak (depth + 1) ++ cs) ∧
      many fuel cs = .ok (as.map result, rest) := by
  obtain ⟨a, as, rfl⟩ := List.exists_cons_of_ne_nil hne
  obtain ⟨blanks, hseparator, hblanks⟩ := hlayout.separator
  obtain ⟨joined, hjoined⟩ : ∃ cs,
      cs = (',' :: (blanks ++ layout.lineBreak (depth + 1))).intercalate ((a :: as).map written) :=
    ⟨_, rfl⟩
  have henclose : enclose layout depth opening closing ((a :: as).map written) =
      opening ::
        (layout.lineBreak (depth + 1) ++ (joined ++ (layout.lineBreak depth ++ [closing]))) := by
    rw [hjoined, enclose, hseparator]
    simp
  rw [henclose] at hfuel ⊢
  simp only [List.length_append, List.length_cons] at hfuel
  obtain ⟨fuel, rfl⟩ : ∃ n, fuel = n + 1 := ⟨fuel - 1, by omega⟩
  have hinner : ∀ c ∈ blanks ++ layout.lineBreak (depth + 1), isSpace c = true := fun c hc =>
    (List.mem_append.mp hc).elim (hblanks c) (hlayout.lineBreak (depth + 1) c)
  have hread := hseries.read_intercalate hclosing hinner (hlayout.lineBreak depth) rest hbegins hone
    fuel (by rw [← hjoined]; omega)
  rw [← hjoined] at hread
  refine ⟨_, ?_, ?_, hread⟩
  · rw [hjoined, List.map_cons]
    exact ((hbegins a List.mem_cons_self).intercalate _ _).append _
  · simp only [List.cons_append, List.append_assoc, List.nil_append]

end Written

/-! ### Lists and mappings -/

theorem readsBack_list {layout : Layout} (hlayout : layout.IsReadable) {items : List Value}
    (hplain : ∀ v ∈ items, Plain v) (hitems : ∀ v ∈ items, ReadsBack layout v) :
    ReadsBack layout (.list items) := by
  intro depth fuel rest hfuel
  obtain ⟨fuel, rfl⟩ : ∃ n, fuel = n + 1 := ⟨fuel - 1, by omega⟩
  rw [writeChars_list] at hfuel ⊢
  rw [rearrange_list]
  by_cases hne : items = []
  · rw [hne]
    rfl
  · obtain ⟨cs, hbegins, hwritten, hread⟩ := series_items.read_enclose rfl hlayout depth '['
      rest hne (fun v hv => begins_writeChars (hplain v hv) layout (depth + 1))
      (fun v hv => hitems v hv (depth + 1)) (Nat.le_of_lt_succ hfuel)
    have hskip := skipSpace_begins (hlayout.lineBreak (depth + 1)) hbegins
    obtain ⟨c, cs, rfl, -, hclosing, -⟩ := hbegins
    rw [hwritten]
    simp [readValue, next?_char, hskip, hclosing, hread, Except.map]

theorem readName_written {layout : Layout} (hlayout : layout.IsReadable) (fuel : Nat)
    (name : String) (hfuel : (writeText name).length ≤ fuel) {cs : List Char} (h : Begins cs) :
    readName fuel (writeText name ++ (layout.colon ++ cs)) = some (.string name, cs) := by
  obtain ⟨blanks, hcolon, hblanks⟩ := hlayout.colon
  obtain ⟨text, hwritten, hread⟩ := readText_writeText hfuel (layout.colon ++ cs)
  have hskip : skipSpace (layout.colon ++ cs) = ':' :: (blanks ++ cs) := by
    rw [hcolon, List.cons_append]
    exact skipSpace_cons rfl _
  have hmember := skipSpace_begins hblanks h
  rw [hwritten]
  simp [readName, next?_char, hread, hskip, hmember]

theorem readMember_written {layout : Layout} (hlayout : layout.IsReadable) {depth : Nat}
    {f : String × Value} (hplain : Plain f.2) (hf : ReadsBack layout f.2) (fuel : Nat)
    (rest : List Char) (hfuel : (writeMember layout depth f).length < fuel) :
    readMember fuel (writeMember layout depth f ++ rest) =
      .ok ((.string f.1, rearrange byKey f.2), rest) := by
  simp only [writeMember, List.length_append] at hfuel
  have hbegins := (begins_writeChars hplain layout depth).append rest
  have hname := readName_written hlayout fuel f.1 (by omega) hbegins
  have hvalue := hf depth fuel rest (by omega)
  rw [writeMember, List.append_assoc, List.append_assoc, readMember, hname]
  simp [orMalformed, hvalue, bind, Except.bind, pure, Except.pure]

theorem readsBack_object {layout : Layout} (hlayout : layout.IsReadable)
    {fields : List (String × Value)} (hkeys : (fields.map Prod.fst).Nodup)
    (hplain : ∀ f ∈ fields, Plain f.2) (hfields : ∀ f ∈ fields, ReadsBack layout f.2) :
    ReadsBack layout (.object fields) := by
  intro depth fuel rest hfuel
  obtain ⟨fuel, rfl⟩ : ∃ n, fuel = n + 1 := ⟨fuel - 1, by omega⟩
  have hperm : (byName fields).Perm fields := sortBy_perm _ fields
  rw [writeChars_object] at hfuel ⊢
  rw [rearrange_byKey_object]
  by_cases hne : byName fields = []
  · rw [hne]
    rfl
  · obtain ⟨cs, hbegins, hwritten, hread⟩ := series_members.read_enclose rfl hlayout depth '\x7b'
      rest hne (fun f _ => begins_writeMember layout (depth + 1) f)
      (fun f hf => readMember_written hlayout (hplain f (hperm.mem_iff.mp hf))
        (hfields f (hperm.mem_iff.mp hf))) (Nat.le_of_lt_succ hfuel)
    have hskip := skipSpace_begins (hlayout.lineBreak (depth + 1)) hbegins
    have hdistinct : HasTextKeys
        ((byName fields).map fun f => (Value.string f.1, rearrange byKey f.2)) := by
      have hnames :
          (((byName fields).map fun f => (f.1, rearrange byKey f.2)).map Prod.fst).Nodup := by
        rw [List.map_map]
        exact (hperm.map Prod.fst).nodup_iff.mpr hkeys
      simpa [textEntries, Function.comp_def] using hasTextKeys_textEntries hnames
    obtain ⟨c, cs, rfl, -, -, hclosing⟩ := hbegins
    rw [hwritten]
    simp [readValue, next?_char, hskip, hclosing, hread, Except.map, ofEntries, object,
      ofList_of_hasTextKeys hdistinct, Function.comp_def]

/-! ### Values -/

theorem Plain.readsBack {v : Value} (h : Plain v) {layout : Layout} (hlayout : layout.IsReadable) :
    ReadsBack layout v := by
  induction h with
  | null => exact readsBack_null layout
  | bool b => exact readsBack_bool layout b
  | string s => exact readsBack_string layout s
  | list hitems ih => exact readsBack_list hlayout hitems ih
  | object hkeys hfields ih => exact readsBack_object hlayout hkeys hfields ih

/-- The text of a value is read as the value with its members in the order of their keys. -/
theorem read_write {v : Value} (h : Plain v) (indent : Nat) :
    read (write indent v) = .ok (rearrange byKey v) := by
  have hbegins := begins_writeChars h (.indented indent) 0
  have hskip := skipSpace_begins (fun _ h => absurd h List.not_mem_nil) hbegins
  have hread := h.readsBack (isReadable_indented indent) 0
    ((writeChars (.indented indent) 0 v).length + 1) [] (Nat.lt_succ_self _)
  rw [List.append_nil] at hread
  rw [List.nil_append] at hskip
  rw [read, write, Script.glyphs_string, String.toList_ofList, hskip]
  simp [hread, skipSpace, bind, Except.bind, pure, Except.pure]

/-! ### Order -/

theorem itemsAreOrdered_iff (items : List Value) :
    itemsAreOrdered items = true ↔ ∀ v ∈ items, isOrdered v = true := by
  induction items with
  | nil => simp [itemsAreOrdered]
  | cons v rest ih => simp [itemsAreOrdered, ih]

theorem entriesAreOrdered_iff (es : List (Value × Value)) :
    entriesAreOrdered es = true ↔ ∀ e ∈ es, isOrdered e.2 = true := by
  induction es with
  | nil => simp [entriesAreOrdered]
  | cons e rest ih => simp [entriesAreOrdered, ih]

theorem Plain.isOrdered {v : Value} (h : Plain v) : isOrdered v = true := by
  induction h with
  | null => simp [Json.isOrdered]
  | bool b => simp [Json.isOrdered]
  | string s => simp [Json.isOrdered]
  | list hitems ih => rwa [Json.isOrdered, itemsAreOrdered_iff]
  | @object fields hkeys hfields ih =>
    have hnames : (textEntries fields).map Prod.fst = (fields.map Prod.fst).map .string := by
      simp [textEntries]
    have hentries : ∀ e ∈ textEntries fields, Json.isOrdered e.2 = true := by
      intro e he
      obtain ⟨f, hf, rfl⟩ := List.mem_map.mp he
      exact ih f hf
    rw [object_eq, Json.isOrdered, hnames, haveOrder_texts, Bool.true_and, entriesAreOrdered_iff]
    exact hentries

end OsgiIvy.Json
