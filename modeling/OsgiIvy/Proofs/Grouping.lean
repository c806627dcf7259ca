import OsgiIvy.Proofs.Mappings

/-!
# Pairs by their keys

Writing pairs into a mapping that collects what each key is given makes a table: each key stands
where it first occurs, with what its pairs make one after the other (`entries_foldl_alter`), or with
what the last of them holds where each replaces the one before it (`Assoc.get?_ofList`).  Going
through the groups one after the other is going through all pairs in another order
(`flatMap_rowsOf_perm`).
-/

namespace OsgiIvy

/-! ### Groups -/

/-- The members of a list, group by group, when every member is of one of the groups. -/
theorem flatMap_filter_perm {α κ : Type} [DecidableEq κ] {key : α → κ} {ks : List κ}
    (hnodup : ks.Nodup) {as : List α} (hkeys : ∀ a ∈ as, key a ∈ ks) :
    (ks.flatMap fun k => as.filter (key · == k)).Perm as := by
  induction ks generalizing as with
  | nil =>
    have hnil : as = [] := List.eq_nil_iff_forall_not_mem.mpr fun a ha =>
      List.not_mem_nil (hkeys a ha)
    rw [hnil]
    exact List.Perm.refl _
  | cons k ks ih =>
    obtain ⟨hnew, hrest⟩ := List.nodup_cons.mp hnodup
    -- The groups of the other keys are groups of the members that are left.
    let others := as.filter fun a => !(key a == k)
    have hothers : ∀ a ∈ others, key a ∈ ks := by
      intro a ha
      obtain ⟨hmem, hne⟩ := List.mem_filter.mp ha
      exact (List.mem_cons.mp (hkeys a hmem)).resolve_left (by simpa using hne)
    have hgroups : (ks.flatMap fun j => as.filter (key · == j)) =
        ks.flatMap fun j => others.filter (key · == j) := by
      refine List.flatMap_congr fun j hj => ?_
      rw [List.filter_filter]
      refine List.filter_congr fun a _ => ?_
      by_cases ha : key a = j
      · have hne : j ≠ k := ne_of_mem_of_not_mem hj hnew
        simp [ha, hne]
      · simp [ha]
    rw [List.flatMap_cons, hgroups]
    exact (List.Perm.append_left _ (ih hrest hothers)).trans (List.filter_append_perm _ as)

/-! ### Rows -/

variable {κ ν ω : Type} [DecidableEq κ]

/-- What the pairs with a key hold, in order. -/
def rowsOf (ps : List (κ × ν)) (k : κ) : List ν := (ps.filter (·.1 == k)).map Prod.snd

theorem rowsOf_append (ps : List (κ × ν)) (p : κ × ν) (k : κ) :
    rowsOf (ps ++ [p]) k = if k == p.1 then rowsOf ps p.1 ++ [p.2] else rowsOf ps k := by
  by_cases h : k = p.1
  · subst h
    simp [rowsOf]
  · have hne : (p.1 == k) = false := beq_eq_false_iff_ne.mpr (Ne.symm h)
    simp [rowsOf, h, hne]

theorem rowsOf_of_not_mem {ps : List (κ × ν)} {k : κ} (h : k ∉ ps.map Prod.fst) :
    rowsOf ps k = [] := by
  have hnone : ps.filter (·.1 == k) = [] := by
    rw [List.filter_eq_nil_iff]
    intro p hp heq
    exact h (eq_of_beq heq ▸ List.mem_map_of_mem hp)
  rw [rowsOf, hnone]
  rfl

/-- What first occurs earlier among the rows of a key was written earlier. -/
theorem idxOf_lt_of_rowsOf [DecidableEq ν] {ps : List (κ × ν)} {k : κ} {v w : ν}
    (h : (rowsOf ps k).idxOf v < (rowsOf ps k).idxOf w) : ps.idxOf (k, v) < ps.idxOf (k, w) := by
  -- A pair in front shifts both places among all pairs, and those among the rows if it has the key.
  induction ps with
  | nil => exact absurd h (Nat.lt_irrefl 0)
  | cons p ps ih =>
    obtain ⟨j, x⟩ := p
    by_cases hj : j = k
    · subst hj
      have hrows : rowsOf ((j, x) :: ps) j = x :: rowsOf ps j := by simp [rowsOf]
      rw [hrows] at h
      by_cases hw : x = w
      · subst hw
        rw [List.idxOf_cons_self] at h
        exact absurd h (Nat.not_lt_zero _)
      · rw [List.idxOf_cons_ne _ fun heq => hw (Prod.mk.inj heq).2]
        by_cases hv : x = v
        · rw [hv, List.idxOf_cons_self]
          exact Nat.succ_pos _
        · rw [List.idxOf_cons_ne _ hv, List.idxOf_cons_ne _ hw] at h
          rw [List.idxOf_cons_ne _ fun heq => hv (Prod.mk.inj heq).2]
          exact Nat.succ_lt_succ (ih (Nat.lt_of_succ_lt_succ h))
    · have hrows : rowsOf ((j, x) :: ps) k = rowsOf ps k := by simp [rowsOf, hj]
      rw [hrows] at h
      rw [List.idxOf_cons_ne _ fun heq => hj (Prod.mk.inj heq).1,
        List.idxOf_cons_ne _ fun heq => hj (Prod.mk.inj heq).1]
      exact Nat.succ_lt_succ (ih h)

theorem flatMap_rowsOf_perm (ps : List (κ × ν)) :
    ((distinct (ps.map Prod.fst)).flatMap (rowsOf ps)).Perm (ps.map Prod.snd) := by
  have hgroups : ((distinct (ps.map Prod.fst)).flatMap fun k => ps.filter (·.1 == k)).Perm ps :=
    flatMap_filter_perm (nodup_distinct _) fun p hp => mem_distinct.mpr (List.mem_map_of_mem hp)
  have hrows : (distinct (ps.map Prod.fst)).flatMap (rowsOf ps) =
      ((distinct (ps.map Prod.fst)).flatMap fun k => ps.filter (·.1 == k)).map Prod.snd := by
    rw [List.map_flatMap]
    rfl
  rw [hrows]
  exact hgroups.map Prod.snd

/-- The value that is written last is that of the last row. -/
theorem Assoc.get?_ofList (ps : List (κ × ν)) (k : κ) :
    (ofList ps).get? k = (rowsOf ps k).getLast? := by
  rw [(records_ofList ps).get?]
  induction ps using List.reverseRecOn with
  | nil => rfl
  | append_singleton ps p ih =>
    rw [List.reverse_append, List.reverse_singleton, List.singleton_append, List.lookup_cons,
      rowsOf_append]
    cases k == p.1 with
    | true => rw [if_pos rfl, List.getLast?_concat]
    | false => rw [if_neg Bool.false_ne_true, ih]

/-- The value of a key that is written pair by pair is what its rows make. -/
theorem entries_foldl_alter (f : ω → ν → ω) (start : ω) (ps : List (κ × ν)) :
    (ps.foldl (fun m p => m.alter p.1 fun old => f (old.getD start) p.2)
        (∅ : Assoc κ ω)).entries =
      (distinct (ps.map Prod.fst)).map fun k => (k, (rowsOf ps k).foldl f start) := by
  induction ps using List.reverseRecOn with
  | nil => rfl
  | append_singleton ps p ih =>
    have hkeys : distinct ((ps ++ [p]).map Prod.fst) =
        addNew (distinct (ps.map Prod.fst)) p.1 := by
      rw [List.map_append]
      exact distinct_append_singleton _ p.1
    have hnew : p.1 ∉ distinct (ps.map Prod.fst) → (rowsOf ps p.1).foldl f start = start := by
      intro hnot
      rw [rowsOf_of_not_mem fun hmem => hnot (mem_distinct.mpr hmem)]
      rfl
    rw [List.foldl_append, List.foldl_cons, List.foldl_nil, Assoc.alter, ih,
      Assoc.alterEntries_table (nodup_distinct _) hnew fun made => f made p.2, hkeys]
    refine List.map_congr_left fun k _ => ?_
    rw [rowsOf_append]
    split
    · rw [List.foldl_append, List.foldl_cons, List.foldl_nil]
    · rfl

end OsgiIvy
