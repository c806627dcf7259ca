import Mathlib.Data.List.Induction
import Mathlib.Data.List.Nodup
import Mathlib.Data.List.Perm.Subperm
import OsgiIvy.Assoc
import OsgiIvy.Distinct

/-!
# Mappings

Every operation keeps each key of a mapping once: `IsMapping`.  Given that, a look-up finds the
value of every entry (`IsMapping.get?_of_mem`), and a mapping is the same as itself.

Keys stay where they were first written, with the value that was written last (`records_iff`).  So
writing the same pairs again leaves the mapping as it is (`putAll_putAll`), and adding keys only
where they are new leaves what was there in front of them (`entries_foldl_putNew`).
-/

namespace OsgiIvy

theorem not_mem_of_nodup_append {α : Type} {as bs : List α} {a : α} (h : (as ++ a :: bs).Nodup) :
    a ∉ as := fun ha =>
  (List.nodup_cons.mp (List.nodup_middle.mp h)).1 (List.mem_append_left bs ha)

namespace Assoc

variable {κ ν : Type}

/-- Each key stands once. -/
def IsMapping (m : Assoc κ ν) : Prop := m.keys.Nodup

instance [DecidableEq κ] (m : Assoc κ ν) : Decidable m.IsMapping :=
  inferInstanceAs (Decidable m.keys.Nodup)

theorem same_eq [BEq κ] [BEq ν] (m n : Assoc κ ν) : m.same n =
    (m.size == n.size && m.entries.all fun e => (n.get? e.1).any (e.2 == ·)) := by
  refine congrArg ((m.size == n.size) && m.entries.all ·) (funext fun e => ?_)
  cases n.get? e.1 <;> rfl

theorem isMapping_empty : (∅ : Assoc κ ν).IsMapping := List.nodup_nil

variable [BEq κ]

/-! ### New keys -/

/-- A new key is added at the end. -/
theorem alterEntries_of_new {k : κ} {es : List (κ × ν)} (h : ∀ e ∈ es, (k == e.1) = false)
    (f : Option ν → ν) : alterEntries k f es = es ++ [(k, f none)] := by
  induction es with
  | nil => rfl
  | cons e es ih =>
    have hk := h e List.mem_cons_self
    have hes := ih fun e' he' => h e' (List.mem_cons_of_mem e he')
    simp only [alterEntries, hk, Bool.false_eq_true, if_false, hes, List.cons_append]

theorem keys_alterEntries_eq_addNew (k : κ) (f : Option ν → ν) (es : List (κ × ν)) :
    (alterEntries k f es).map Prod.fst = addNew (es.map Prod.fst) k := by
  induction es with
  | nil => rfl
  | cons e es ih =>
    rw [alterEntries, List.map_cons, addNew, List.contains_cons]
    cases hk : k == e.1 with
    | true => rfl
    | false =>
      rw [addNew] at ih
      simp only [Bool.false_eq_true, if_false, List.map_cons, ih, Bool.false_or]
      split <;> rfl

theorem isEmpty_put (m : Assoc κ ν) (k : κ) (v : ν) : (m.put k v).isEmpty = false := by
  obtain ⟨es⟩ := m
  cases es with
  | nil => rfl
  | cons e es =>
    have hcons : alterEntries k (fun _ => v) (e :: es) ≠ [] := by
      rw [alterEntries]
      split <;> simp
    exact List.isEmpty_eq_false_iff.mpr hcons

/-- Pairs whose keys are all different stand as they were written. -/
theorem entries_foldl_put {m : Assoc κ ν} {ps : List (κ × ν)}
    (h : (m.entries ++ ps).Pairwise fun e f => (f.1 == e.1) = false) :
    (ps.foldl (fun m p => m.put p.1 p.2) m).entries = m.entries ++ ps := by
  induction ps generalizing m with
  | nil => simp
  | cons p ps ih =>
    have hnew : ∀ e ∈ m.entries, (p.1 == e.1) = false := fun e he =>
      (List.pairwise_append.mp h).2.2 e he p List.mem_cons_self
    have hput : (m.put p.1 p.2).entries = m.entries ++ [p] := alterEntries_of_new hnew _
    rw [List.foldl_cons, ih (by simpa [hput] using h), hput, List.append_assoc,
      List.singleton_append]

theorem ofList_of_distinct {ps : List (κ × ν)}
    (h : ps.Pairwise fun e f => (f.1 == e.1) = false) : ofList ps = ⟨ps⟩ :=
  congrArg Assoc.mk (entries_foldl_put (m := (empty : Assoc κ ν)) h)

variable [LawfulBEq κ]

theorem lookup_of_not_mem {es : List (κ × ν)} {k : κ} (h : k ∉ es.map Prod.fst) :
    es.lookup k = none := by
  apply List.lookup_eq_none_iff.mpr
  intro e he
  rw [bne_iff_ne]
  exact fun hk => h (hk ▸ List.mem_map_of_mem he)

theorem exists_lookup_of_mem {es : List (κ × ν)} {k : κ} (h : k ∈ es.map Prod.fst) :
    ∃ v, es.lookup k = some v := by
  cases hfound : es.lookup k with
  | some v => exact ⟨v, rfl⟩
  | none =>
    obtain ⟨e, he, hk⟩ := List.mem_map.mp h
    have hne := List.lookup_eq_none_iff.mp hfound e he
    simp [hk] at hne

theorem IsMapping.get?_of_mem {m : Assoc κ ν} (h : m.IsMapping) {e : κ × ν} (he : e ∈ m.entries) :
    m.get? e.1 = some e.2 := by
  obtain ⟨es⟩ := m
  simp only [get?] at he ⊢
  induction es with
  | nil => exact absurd he List.not_mem_nil
  | cons f es ih =>
    obtain ⟨hnew, hrest⟩ := List.nodup_cons.mp h
    rw [List.lookup_cons]
    rcases List.mem_cons.mp he with rfl | hmem
    · rw [beq_self_eq_true]
    · have hbeq : (e.1 == f.1) = false :=
        beq_eq_false_iff_ne.mpr fun hkey => hnew (List.mem_map.mpr ⟨e, hmem, hkey⟩)
      rw [hbeq]
      exact ih hrest hmem

theorem IsMapping.same_self [BEq ν] [ReflBEq ν] {m : Assoc κ ν} (h : m.IsMapping) :
    m.same m = true := by
  rw [same_eq, beq_self_eq_true, Bool.true_and, List.all_eq_true]
  intro e he
  rw [h.get?_of_mem he, Option.any_some, beq_self_eq_true]

theorem mem_of_get? {m : Assoc κ ν} {k : κ} {v : ν} (h : m.get? k = some v) :
    (k, v) ∈ m.entries := by
  obtain ⟨es⟩ := m
  simp only [get?] at h ⊢
  induction es with
  | nil => exact absurd h nofun
  | cons e es ih =>
    rw [List.lookup_cons] at h
    by_cases hk : k = e.1
    · rw [beq_iff_eq.mpr hk] at h
      rw [hk, ← Option.some.inj h]
      exact List.mem_cons_self
    · rw [beq_eq_false_iff_ne.mpr hk] at h
      exact List.mem_cons_of_mem e (ih h)

theorem same_trans [BEq ν] [LawfulBEq ν] {l m n : Assoc κ ν} (hlm : l.same m = true)
    (hmn : m.same n = true) : l.same n = true := by
  rw [same_eq, Bool.and_eq_true, List.all_eq_true, beq_iff_eq] at hlm hmn ⊢
  refine ⟨hlm.1.trans hmn.1, fun e he => ?_⟩
  have hany := hlm.2 e he
  cases hv : m.get? e.1 with
  | none => exact absurd hany (by simp [hv])
  | some v =>
    rw [hv, Option.any_some, beq_iff_eq] at hany
    rw [hany]
    exact hmn.2 (e.1, v) (mem_of_get? hv)

theorem IsMapping.ofList_entries {m : Assoc κ ν} (h : m.IsMapping) : ofList m.entries = m := by
  refine ofList_of_distinct (List.Pairwise.imp ?_ (List.pairwise_map.mp h))
  intro e f hne
  exact beq_eq_false_iff_ne.mpr hne.symm

/-- The same mapping has the same entries, in some order. -/
theorem IsMapping.perm_of_same [BEq ν] [LawfulBEq ν] {m n : Assoc κ ν} (h : m.IsMapping)
    (hsame : m.same n = true) : m.entries.Perm n.entries := by
  rw [same_eq, Bool.and_eq_true, List.all_eq_true, beq_iff_eq] at hsame
  have hmem : m.entries ⊆ n.entries := by
    intro e he
    have hany := hsame.2 e he
    cases hv : n.get? e.1 with
    | none => exact absurd hany (by simp [hv])
    | some v =>
      rw [hv, Option.any_some, beq_iff_eq] at hany
      exact mem_of_get? (hany ▸ hv)
  have hnodup : m.entries.Nodup := List.Nodup.of_map Prod.fst h
  exact (List.subperm_of_subset hnodup hmem).perm_of_length_le (Nat.le_of_eq hsame.1.symm)

omit [BEq κ] [LawfulBEq κ] in
theorem IsMapping.perm {m n : Assoc κ ν} (h : m.IsMapping) (hperm : n.entries.Perm m.entries) :
    n.IsMapping :=
  (hperm.map Prod.fst).nodup_iff.mpr h

/-- The order of the entries makes no difference to what is found. -/
theorem IsMapping.get?_perm {m n : Assoc κ ν} (h : m.IsMapping) (hperm : n.entries.Perm m.entries)
    (k : κ) : n.get? k = m.get? k := by
  by_cases hk : k ∈ m.keys
  · obtain ⟨v, hv⟩ := exists_lookup_of_mem hk
    have hmem : (k, v) ∈ n.entries := hperm.mem_iff.mpr (mem_of_get? hv)
    exact ((h.perm hperm).get?_of_mem hmem).trans hv.symm
  · have hk' : k ∉ n.keys := mt (hperm.map Prod.fst).mem_iff.mp hk
    exact (lookup_of_not_mem hk').trans (lookup_of_not_mem hk).symm

theorem IsMapping.same_of_perm [BEq ν] [ReflBEq ν] {m n : Assoc κ ν} (h : n.IsMapping)
    (hperm : m.entries.Perm n.entries) : m.same n = true := by
  rw [same_eq, Bool.and_eq_true, List.all_eq_true]
  refine ⟨beq_iff_eq.mpr hperm.length_eq, fun e he => ?_⟩
  rw [h.get?_of_mem (hperm.mem_iff.mp he), Option.any_some, beq_self_eq_true]

theorem IsMapping.mem_entries_iff {m : Assoc κ ν} (h : m.IsMapping) {e : κ × ν} :
    e ∈ m.entries ↔ m.get? e.1 = some e.2 :=
  ⟨h.get?_of_mem, mem_of_get?⟩

theorem IsMapping.perm_iff_get? {m n : Assoc κ ν} (hm : m.IsMapping) (hn : n.IsMapping) :
    m.entries.Perm n.entries ↔ ∀ k, m.get? k = n.get? k := by
  constructor
  · exact hn.get?_perm
  · intro h
    have hnodup : ∀ {l : Assoc κ ν}, l.IsMapping → l.entries.Nodup := List.Nodup.of_map Prod.fst
    rw [List.perm_ext_iff_of_nodup (hnodup hm) (hnodup hn)]
    intro e
    rw [hm.mem_entries_iff, hn.mem_entries_iff, h]

/-- Mappings are the same exactly if each key has one value in both. -/
theorem IsMapping.same_iff_get? [BEq ν] [LawfulBEq ν] {m n : Assoc κ ν} (hm : m.IsMapping)
    (hn : n.IsMapping) : m.same n = true ↔ ∀ k, m.get? k = n.get? k := by
  rw [← hm.perm_iff_get? hn]
  exact ⟨hm.perm_of_same, hn.same_of_perm⟩

/-! ### Writing -/

theorem alterEntries_of_not_mem {k : κ} {es : List (κ × ν)} (h : k ∉ es.map Prod.fst)
    (f : Option ν → ν) : alterEntries k f es = es ++ [(k, f none)] := by
  refine alterEntries_of_new (fun e he => ?_) f
  have hne : k ≠ e.1 := fun hk => h (hk ▸ List.mem_map_of_mem he)
  simpa using hne

/-- The key that was added last is changed where it stands. -/
theorem alterEntries_append_self {k : κ} {es : List (κ × ν)} (h : k ∉ es.map Prod.fst)
    (f : Option ν → ν) (v : ν) : alterEntries k f (es ++ [(k, v)]) = es ++ [(k, f (some v))] := by
  induction es with
  | nil => simp [alterEntries]
  | cons e es ih =>
    obtain ⟨k', w⟩ := e
    simp only [List.map_cons, List.mem_cons, not_or] at h
    have hk : (k == k') = false := by simpa using h.1
    simp only [List.cons_append, alterEntries, hk, Bool.false_eq_true, if_false, ih h.2]

/-- An entry after a change is an old one, or that of the key with its old value changed. -/
theorem mem_alterEntries {k : κ} {f : Option ν → ν} {es : List (κ × ν)} {e : κ × ν}
    (h : e ∈ alterEntries k f es) :
    e ∈ es ∨ e = (k, f none) ∨ ∃ v, (k, v) ∈ es ∧ e = (k, f (some v)) := by
  induction es with
  | nil => exact .inr (.inl (by simpa [alterEntries] using h))
  | cons e' es ih =>
    obtain ⟨k', v⟩ := e'
    by_cases hk : k = k'
    · subst hk
      simp only [alterEntries, BEq.rfl, if_true, List.mem_cons] at h
      rcases h with h | h
      · exact .inr (.inr ⟨v, List.mem_cons_self .., h⟩)
      · exact .inl (List.mem_cons_of_mem _ h)
    · have hk' : (k == k') = false := by simpa using hk
      simp only [alterEntries, hk', Bool.false_eq_true, if_false, List.mem_cons] at h
      rcases h with h | h
      · exact .inl (h ▸ List.mem_cons_self ..)
      · rcases ih h with h | h | ⟨w, hw, h⟩
        · exact .inl (List.mem_cons_of_mem _ h)
        · exact .inr (.inl h)
        · exact .inr (.inr ⟨w, List.mem_cons_of_mem _ hw, h⟩)

theorem mem_entries_put {m : Assoc κ ν} {k : κ} {v : ν} {e : κ × ν}
    (h : e ∈ (m.put k v).entries) : e ∈ m.entries ∨ e = (k, v) := by
  rcases mem_alterEntries h with hold | hnew | ⟨_, _, hnew⟩
  · exact .inl hold
  · exact .inr hnew
  · exact .inr hnew

theorem IsMapping.alter {m : Assoc κ ν} (h : m.IsMapping) (k : κ) (f : Option ν → ν) :
    (m.alter k f).IsMapping := by
  rw [IsMapping, keys_alter]
  split
  · exact h
  · next hk =>
    refine List.nodup_append.mpr ⟨h, List.pairwise_singleton _ k, ?_⟩
    intro a ha b hb hab
    rw [List.mem_singleton] at hb
    exact hk (hb ▸ hab ▸ ha)

theorem IsMapping.put {m : Assoc κ ν} (h : m.IsMapping) (k : κ) (v : ν) : (m.put k v).IsMapping :=
  h.alter k _

theorem isMapping_foldl_put {m : Assoc κ ν} (h : m.IsMapping) (ps : List (κ × ν)) :
    (ps.foldl (fun m p => m.put p.1 p.2) m).IsMapping := by
  induction ps generalizing m with
  | nil => exact h
  | cons p ps ih => exact ih (h.put p.1 p.2)

theorem isMapping_ofList (ps : List (κ × ν)) : (ofList ps).IsMapping :=
  isMapping_foldl_put isMapping_empty ps

/-! ### Writing again -/

theorem alterEntries_alterEntries (k : κ) (f g : Option ν → ν) (es : List (κ × ν)) :
    alterEntries k f (alterEntries k g es) = alterEntries k (fun old => f (some (g old))) es := by
  induction es with
  | nil => simp [alterEntries]
  | cons e es ih =>
    obtain ⟨k', v⟩ := e
    by_cases hk : k = k'
    · subst hk
      simp [alterEntries]
    · have hk' : (k == k') = false := by simpa using hk
      simp [alterEntries, hk', ih]

/-- Where one of two keys is there already, it does not matter which of them is changed first. -/
theorem alterEntries_comm {j k : κ} (hne : k ≠ j) {es : List (κ × ν)} (hj : j ∈ es.map Prod.fst)
    (f g : Option ν → ν) :
    alterEntries j g (alterEntries k f es) = alterEntries k f (alterEntries j g es) := by
  induction es with
  | nil => exact absurd hj List.not_mem_nil
  | cons e es ih =>
    obtain ⟨k', v⟩ := e
    by_cases hk : k = k'
    · subst hk
      have hjk : (j == k) = false := by simpa using Ne.symm hne
      simp [alterEntries, hjk]
    · have hk' : (k == k') = false := by simpa using hk
      by_cases hjk : j = k'
      · subst hjk
        simp [alterEntries, hk']
      · have hj' : (j == k') = false := by simpa using hjk
        have hmem : j ∈ es.map Prod.fst := (List.mem_cons.mp hj).resolve_left hjk
        simp [alterEntries, hk', hj', ih hmem]

theorem put_put (m : Assoc κ ν) (k : κ) (v w : ν) : (m.put k v).put k w = m.put k w :=
  congrArg Assoc.mk (alterEntries_alterEntries k _ _ m.entries)

theorem put_comm {m : Assoc κ ν} {j k : κ} (hne : k ≠ j) (hj : j ∈ m.keys) (v w : ν) :
    (m.put k v).put j w = (m.put j w).put k v :=
  congrArg Assoc.mk (alterEntries_comm hne hj _ _)

/-- All pairs, written one after the other. -/
def putAll (m : Assoc κ ν) (ps : List (κ × ν)) : Assoc κ ν :=
  ps.foldl (fun m p => m.put p.1 p.2) m

theorem mem_keys_put {m : Assoc κ ν} {j k : κ} {v : ν} :
    j ∈ (m.put k v).keys ↔ j ∈ m.keys ∨ j = k := by
  rw [keys_put]
  split
  · next hk => exact ⟨.inl, fun h => h.elim id fun hjk => hjk ▸ hk⟩
  · rw [List.mem_append, List.mem_singleton]

theorem mem_keys_putAll {m : Assoc κ ν} {j : κ} {ps : List (κ × ν)} :
    j ∈ (m.putAll ps).keys ↔ j ∈ m.keys ∨ j ∈ ps.map Prod.fst := by
  induction ps generalizing m with
  | nil => simp [putAll]
  | cons p ps ih =>
    have hstep : m.putAll (p :: ps) = (m.put p.1 p.2).putAll ps := rfl
    rw [hstep, ih, mem_keys_put, List.map_cons, List.mem_cons, or_assoc]

/-- A value that is overwritten after other writings to keys that are there makes no difference. -/
theorem put_putAll_put {m : Assoc κ ν} {ps : List (κ × ν)} (hkeys : ∀ p ∈ ps, p.1 ∈ m.keys) (k : κ)
    (v w : ν) : ((m.put k v).putAll ps).put k w = (m.putAll ps).put k w := by
  induction ps generalizing m v with
  | nil => exact put_put m k v w
  | cons p ps ih =>
    have hp : p.1 ∈ m.keys := hkeys p List.mem_cons_self
    have hps : ∀ q ∈ ps, q.1 ∈ (m.put p.1 p.2).keys := fun q hq =>
      mem_keys_put.mpr (.inl (hkeys q (List.mem_cons_of_mem p hq)))
    have hstep (m : Assoc κ ν) : m.putAll (p :: ps) = (m.put p.1 p.2).putAll ps := rfl
    rw [hstep, hstep]
    by_cases hk : k = p.1
    · rw [hk, put_put]
    · rw [put_comm hk hp, ih hps]

/-- Writing the same pairs once more changes nothing: neither values nor the order of the keys. -/
theorem putAll_putAll (m : Assoc κ ν) (ps : List (κ × ν)) :
    (m.putAll ps).putAll ps = m.putAll ps := by
  induction ps using List.reverseRecOn with
  | nil => rfl
  | append_singleton ps p ih =>
    have hlast (m : Assoc κ ν) : m.putAll (ps ++ [p]) = (m.putAll ps).put p.1 p.2 := by
      rw [putAll, List.foldl_append]
      rfl
    have hkeys : ∀ q ∈ ps, q.1 ∈ (m.putAll ps).keys := fun q hq =>
      mem_keys_putAll.mpr (.inr (List.mem_map_of_mem hq))
    rw [hlast, hlast, put_putAll_put hkeys, ih]

/-! ### What is written last -/

omit [LawfulBEq κ] in
theorem keys_putAll (m : Assoc κ ν) (ps : List (κ × ν)) :
    (m.putAll ps).keys = (ps.map Prod.fst).foldl addNew m.keys := by
  induction ps generalizing m with
  | nil => rfl
  | cons p ps ih =>
    have hput : (m.put p.1 p.2).keys = addNew m.keys p.1 :=
      keys_alterEntries_eq_addNew p.1 _ m.entries
    have hstep : m.putAll (p :: ps) = (m.put p.1 p.2).putAll ps := rfl
    rw [hstep, ih, hput, List.map_cons, List.foldl_cons]

/-- The last value that is written is found. -/
theorem get?_putAll (m : Assoc κ ν) (ps : List (κ × ν)) (k : κ) :
    (m.putAll ps).get? k = (ps.reverse.lookup k).or (m.get? k) := by
  induction ps generalizing m with
  | nil => rfl
  | cons p ps ih =>
    have hstep : m.putAll (p :: ps) = (m.put p.1 p.2).putAll ps := rfl
    have hput : (m.put p.1 p.2).get? k = ([p].lookup k).or (m.get? k) := by
      obtain ⟨j, v⟩ := p
      by_cases hk : k = j
      · have hfound : [(j, v)].lookup j = some v := List.lookup_cons_self
        rw [hk, get?_put_self, hfound, Option.some_or]
      · have hnone : [(j, v)].lookup k = none := lookup_of_not_mem (by simpa using hk)
        rw [get?_put_of_ne m hk, hnone, Option.none_or]
    rw [hstep, ih, hput, List.reverse_cons, List.lookup_append, Option.or_assoc]

theorem IsMapping.ext {m n : Assoc κ ν} (hm : m.IsMapping) (hn : n.IsMapping)
    (hkeys : m.keys = n.keys) (hvalues : ∀ k, m.get? k = n.get? k) : m = n := by
  have hentries : ∀ {l : Assoc κ ν}, l.IsMapping →
      l.entries.map (fun e => (e.1, some e.2)) = l.keys.map fun k => (k, l.get? k) := by
    intro l hl
    rw [keys, List.map_map]
    exact List.map_congr_left fun e he => congrArg (Prod.mk e.1) (hl.get?_of_mem he).symm
  have hpaired : m.entries.map (fun e => (e.1, some e.2)) =
      n.entries.map fun e => (e.1, some e.2) := by
    rw [hentries hm, hentries hn, hkeys]
    exact List.map_congr_left fun k _ => congrArg (Prod.mk k) (hvalues k)
  have hinjective : Function.Injective fun e : κ × ν => (e.1, some e.2) := by
    intro e f h
    obtain ⟨hkey, hvalue⟩ := Prod.mk.inj h
    exact Prod.ext hkey (Option.some.inj hvalue)
  exact congrArg Assoc.mk (List.map_injective_iff.mpr hinjective hpaired)

/-- Each key that is written stands where it is first written, with the value that is written
last. -/
structure Records (m : Assoc κ ν) (ps : List (κ × ν)) : Prop where
  keys : m.keys = distinct (ps.map Prod.fst)
  get? : ∀ k, m.get? k = ps.reverse.lookup k

theorem records_ofList (ps : List (κ × ν)) : (ofList ps).Records ps := by
  have hall : ofList ps = (∅ : Assoc κ ν).putAll ps := rfl
  have hnone (k : κ) : (∅ : Assoc κ ν).get? k = none := rfl
  refine ⟨?_, fun k => ?_⟩
  · rw [hall, keys_putAll]
    rfl
  · rw [hall, get?_putAll, hnone, Option.or_none]

theorem records_iff {m : Assoc κ ν} {ps : List (κ × ν)} : m.Records ps ↔ m = ofList ps := by
  constructor
  · intro h
    have hwritten := records_ofList ps
    have hmapping : m.IsMapping := by
      rw [IsMapping, h.keys]
      exact nodup_distinct _
    exact hmapping.ext (isMapping_ofList ps) (h.keys.trans hwritten.keys.symm) fun k =>
      (h.get? k).trans (hwritten.get? k).symm
  · rintro rfl
    exact records_ofList ps

/-! ### Writing what is new -/

theorem putNew_of_mem {m : Assoc κ ν} {k : κ} (h : k ∈ m.keys) (v : ν) : m.putNew k v = m := by
  obtain ⟨es⟩ := m
  refine congrArg Assoc.mk ?_
  rw [keys] at h
  induction es with
  | nil => exact absurd h List.not_mem_nil
  | cons e es ih =>
    obtain ⟨k', w⟩ := e
    by_cases hk : k = k'
    · subst hk
      simp [alterEntries]
    · have hk' : (k == k') = false := by simpa using hk
      have hmem : k ∈ es.map Prod.fst := (List.mem_cons.mp h).resolve_left hk
      simp only [alterEntries, hk', Bool.false_eq_true, if_false, ih hmem]

theorem foldl_putNew_of_subset {m : Assoc κ ν} {ks : List κ} (h : ks ⊆ m.keys) (v : ν) :
    ks.foldl (fun m k => m.putNew k v) m = m := by
  induction ks with
  | nil => rfl
  | cons k ks ih =>
    obtain ⟨hk, hks⟩ := List.cons_subset.mp h
    rw [List.foldl_cons, putNew_of_mem hk, ih hks]

theorem entries_putNew_of_not_mem {m : Assoc κ ν} {k : κ} (h : k ∉ m.keys) (v : ν) :
    (m.putNew k v).entries = m.entries ++ [(k, v)] :=
  alterEntries_of_not_mem h _

/-- Keys that are new are added once each, in the order in which they first come up; what is there
stays as it is. -/
theorem entries_foldl_putNew (m : Assoc κ ν) (v : ν) (ks : List κ) :
    (ks.foldl (fun m k => m.putNew k v) m).entries =
      m.entries ++ (distinct (ks.filter (!m.keys.contains ·))).map (·, v) := by
  induction ks using List.reverseRecOn with
  | nil => simp [distinct]
  | append_singleton ks k ih =>
    let new := distinct (ks.filter (!m.keys.contains ·))
    let before := ks.foldl (fun m k => m.putNew k v) m
    have hkeys : before.keys = m.keys ++ new := by
      rw [keys, ih, List.map_append, List.map_map]
      exact congrArg (m.keys ++ ·) (List.map_id new)
    have hstep : (ks ++ [k]).foldl (fun m k => m.putNew k v) m = before.putNew k v := by
      rw [List.foldl_append]
      rfl
    rw [hstep, List.filter_append, List.filter_singleton]
    by_cases hold : k ∈ m.keys
    · have hmem : k ∈ before.keys := hkeys ▸ List.mem_append_left new hold
      rw [putNew_of_mem hmem, ih]
      simp [hold]
    · have hlast : distinct (ks.filter (!m.keys.contains ·) ++ [k]) = addNew new k :=
        List.foldl_append
      have hfilter : (!m.keys.contains k) = true := by simp [hold]
      rw [hfilter, Bool.cond_true, hlast]
      by_cases hnew : k ∈ new
      · have hmem : k ∈ before.keys := hkeys ▸ List.mem_append_right m.keys hnew
        rw [putNew_of_mem hmem, ih, addNew_of_mem hnew]
      · have hnone : k ∉ before.keys := by
          rw [hkeys, List.mem_append]
          exact not_or.mpr ⟨hold, hnew⟩
        rw [entries_putNew_of_not_mem hnone, ih, addNew_of_not_mem hnew, List.map_append,
          List.append_assoc]
        rfl

/-! ### Tables -/

section Tables

variable {ks : List κ} {k : κ}

theorem alterEntries_table_of_mem (hnodup : ks.Nodup) (hk : k ∈ ks) (f : κ → ν)
    (g : Option ν → ν) : alterEntries k g (ks.map fun j => (j, f j)) =
      ks.map fun j => (j, if j == k then g (some (f k)) else f j) := by
  induction ks with
  | nil => exact absurd hk List.not_mem_nil
  | cons j ks ih =>
    obtain ⟨hnew, hrest⟩ := List.nodup_cons.mp hnodup
    rw [List.map_cons, List.map_cons, alterEntries]
    by_cases hj : j = k
    · subst hj
      have hsame : ∀ i ∈ ks, (i, f i) = (i, if i == j then g (some (f j)) else f i) := by
        intro i hi
        have hne : (i == j) = false := beq_eq_false_iff_ne.mpr (ne_of_mem_of_not_mem hi hnew)
        rw [hne, if_neg Bool.false_ne_true]
      rw [beq_self_eq_true, if_pos rfl, if_pos rfl, List.map_congr_left hsame]
    · have hmem : k ∈ ks := (List.mem_cons.mp hk).resolve_left (Ne.symm hj)
      have hjk : (j == k) = false := beq_eq_false_iff_ne.mpr hj
      have hkj : (k == j) = false := beq_eq_false_iff_ne.mpr (Ne.symm hj)
      rw [hjk, hkj, if_neg Bool.false_ne_true, if_neg Bool.false_ne_true, ih hrest hmem]

/-- A table of a function over distinct keys, with the value of one key changed.  A key that is new
has the default. -/
theorem alterEntries_table {f : κ → ν} {default : ν} (hnodup : ks.Nodup)
    (hnew : k ∉ ks → f k = default) (g : ν → ν) :
    alterEntries k (fun old => g (old.getD default)) (ks.map fun j => (j, f j)) =
      (addNew ks k).map fun j => (j, if j == k then g (f k) else f j) := by
  by_cases hk : k ∈ ks
  · rw [addNew_of_mem hk, alterEntries_table_of_mem hnodup hk, Option.getD_some]
  · have hkeys : (ks.map fun j => (j, f j)).map Prod.fst = ks := by
      rw [List.map_map]
      exact List.map_id ks
    have hsame : ∀ j ∈ ks, (j, f j) = (j, if j == k then g (f k) else f j) := by
      intro j hj
      have hne : (j == k) = false := beq_eq_false_iff_ne.mpr (ne_of_mem_of_not_mem hj hk)
      rw [hne, if_neg Bool.false_ne_true]
    rw [alterEntries_of_not_mem (by rwa [hkeys]), Option.getD_none, addNew_of_not_mem hk,
      List.map_append, List.map_congr_left hsame, ← hnew hk]
    simp

end Tables

end Assoc

end OsgiIvy
