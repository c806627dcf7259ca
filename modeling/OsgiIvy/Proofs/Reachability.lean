import OsgiIvy.Module.Extending

/-!
# What a walk sees

A walk sees exactly what can be reached: `mem_reachedFrom`.  The invariant is that everything seen
or waiting can be reached and that the edges of what was seen lead to what is seen or waiting.  A
walk needs no fuel to end (`walks_reachedFrom`): the stack and the edges of the places not yet seen
never exceed what it is given.
-/

namespace OsgiIvy

variable {α : Type} {next : α → List α}

/-! ### Following edges -/

theorem Reaches.trans {a b c : α} (hab : Reaches next a b) (hbc : Reaches next b c) :
    Reaches next a c := by
  induction hbc with
  | refl => exact hab
  | step _ hc ih => exact .step ih hc

/-- A path may also be made longer at its start. -/
theorem Reaches.head {a b c : α} (hb : b ∈ next a) (hbc : Reaches next b c) : Reaches next a c :=
  (Reaches.step (.refl a) hb).trans hbc

/-- What edges do not lead out of is not left. -/
theorem Reaches.mem_of_closed {P : α → Prop} {a c : α} (hclosed : ∀ b, P b → ∀ c ∈ next b, P c)
    (ha : P a) (hac : Reaches next a c) : P c := by
  induction hac with
  | refl => exact ha
  | step _ hc ih => exact hclosed _ ih _ hc

/-! ### The invariant -/

/-- What holds of the places seen and of those on the stack while a walk goes on. -/
structure WalkInvariant (next : α → List α) (start : α) (seen stack : List α) : Prop where
  start_met : start ∈ seen ∨ start ∈ stack
  reached : ∀ a, a ∈ seen ∨ a ∈ stack → Reaches next start a
  closed : ∀ a ∈ seen, ∀ c ∈ next a, c ∈ seen ∨ c ∈ stack

namespace WalkInvariant

variable {start a : α} {seen stack : List α}

theorem initial (start : α) : WalkInvariant next start [] [start] where
  start_met := .inr (List.mem_singleton_self start)
  reached b hb := by
    have h : b = start := by simpa using hb
    rw [h]
    exact .refl start
  closed b hb := absurd hb List.not_mem_nil

/-- A place that was seen before is dropped. -/
theorem skip (h : WalkInvariant next start seen (a :: stack)) (ha : a ∈ seen) :
    WalkInvariant next start seen stack := by
  have move {b : α} (hb : b ∈ seen ∨ b ∈ a :: stack) : b ∈ seen ∨ b ∈ stack := by
    rcases hb with hb | hb
    · exact .inl hb
    · rcases List.mem_cons.mp hb with rfl | hb
      · exact .inl ha
      · exact .inr hb
  exact
    { start_met := move h.start_met
      reached := fun b hb => h.reached b (hb.imp id (List.mem_cons_of_mem a))
      closed := fun b hb c hc => move (h.closed b hb c hc) }

/-- A new place is seen, and its edges wait on the stack. -/
theorem visit (h : WalkInvariant next start seen (a :: stack)) :
    WalkInvariant next start (seen ++ [a]) ((next a).reverse ++ stack) := by
  have ha : Reaches next start a := h.reached a (.inr (List.mem_cons_self ..))
  have move {b : α} (hb : b ∈ seen ∨ b ∈ a :: stack) :
      b ∈ seen ++ [a] ∨ b ∈ (next a).reverse ++ stack := by
    rcases hb with hb | hb
    · exact .inl (List.mem_append_left _ hb)
    · rcases List.mem_cons.mp hb with rfl | hb
      · exact .inl (List.mem_append_right _ (List.mem_singleton_self b))
      · exact .inr (List.mem_append_right _ hb)
  refine ⟨move h.start_met, ?_, ?_⟩
  · rintro b (hb | hb)
    · rcases List.mem_append.mp hb with hb | hb
      · exact h.reached b (.inl hb)
      · exact List.mem_singleton.mp hb ▸ ha
    · rcases List.mem_append.mp hb with hb | hb
      · exact .step ha (List.mem_reverse.mp hb)
      · exact h.reached b (.inr (List.mem_cons_of_mem a hb))
  · intro b hb c hc
    rcases List.mem_append.mp hb with hb | hb
    · exact move (h.closed b hb c hc)
    · rw [List.mem_singleton.mp hb] at hc
      exact .inr (List.mem_append_left _ (List.mem_reverse.mpr hc))

/-- When nothing waits any more, what was seen is what can be reached. -/
theorem mem_iff (h : WalkInvariant next start seen []) (c : α) :
    c ∈ seen ↔ Reaches next start c := by
  have settled {b : α} (hb : b ∈ seen ∨ b ∈ ([] : List α)) : b ∈ seen :=
    hb.resolve_right List.not_mem_nil
  constructor
  · intro hc
    exact h.reached c (.inl hc)
  · intro hc
    exact Reaches.mem_of_closed (fun b hb c hc => settled (h.closed b hb c hc))
      (settled h.start_met) hc

end WalkInvariant

/-! ### Walks without fuel -/

/-- The loop behind a walk, which ends when nothing waits any more: what is seen in the end, given
what was seen before and what waits. -/
inductive Walks (next : α → List α) : List α → List α → List α → Prop
  | done (seen : List α) : Walks next seen [] seen
  | skip {seen stack result : List α} {a : α} (ha : a ∈ seen)
    (hrest : Walks next seen stack result) : Walks next seen (a :: stack) result
  | visit {seen stack result : List α} {a : α} (ha : a ∉ seen)
    (hrest : Walks next (seen ++ [a]) ((next a).reverse ++ stack) result) :
    Walks next seen (a :: stack) result

theorem Walks.invariant {start : α} {seen stack result : List α}
    (hwalks : Walks next seen stack result) (h : WalkInvariant next start seen stack) :
    WalkInvariant next start result [] := by
  induction hwalks with
  | done => exact h
  | skip ha _ ih => exact ih (h.skip ha)
  | visit _ _ ih => exact ih h.visit

/-- What is seen in the end is settled by where the loop begins. -/
theorem Walks.unique {seen stack result other : List α} (h : Walks next seen stack result)
    (hother : Walks next seen stack other) : other = result := by
  induction h with
  | done =>
    cases hother
    rfl
  | skip ha _ ih =>
    cases hother with
    | skip _ hrest => exact ih hrest
    | visit hnew _ => exact absurd ha hnew
  | visit hnew _ ih =>
    cases hother with
    | skip ha _ => exact absurd ha hnew
    | visit _ hrest => exact ih hrest

theorem Walks.nodup {seen stack result : List α} (h : Walks next seen stack result)
    (hseen : seen.Nodup) : result.Nodup := by
  induction h with
  | done => exact hseen
  | skip _ _ ih => exact ih hseen
  | @visit seen _ _ a ha _ ih =>
    apply ih
    refine List.nodup_append.mpr ⟨hseen, List.pairwise_singleton _ a, ?_⟩
    intro b hb c hc hbc
    rw [List.mem_singleton] at hc
    exact ha (hc ▸ hbc ▸ hb)

/-! ### Edges still to be followed -/

theorem foldl_edgeCount (next : α → List α) (places : List α) (n : Nat) :
    places.foldl (fun n place => n + (next place).length) n = n + edgeCount next places := by
  induction places generalizing n with
  | nil => rfl
  | cons place places ih =>
    rw [edgeCount, List.foldl_cons, List.foldl_cons, ih, ih]
    omega

theorem edgeCount_cons (place : α) (places : List α) :
    edgeCount next (place :: places) = (next place).length + edgeCount next places := by
  rw [edgeCount, List.foldl_cons, foldl_edgeCount]
  omega

variable [BEq α]

/-- The edges of the places that were not seen yet. -/
def pendingEdges (next : α → List α) (places seen : List α) : Nat :=
  edgeCount next (places.filter (!seen.contains ·))

theorem pendingEdges_nil (places : List α) :
    pendingEdges next places [] = edgeCount next places := by
  rw [pendingEdges, List.filter_eq_self.mpr]
  intro place _
  rfl

variable [LawfulBEq α]

theorem pendingEdges_append_le (places seen : List α) (a : α) :
    pendingEdges next places (seen ++ [a]) ≤ pendingEdges next places seen := by
  induction places with
  | nil => simp [pendingEdges]
  | cons place places ih =>
    simp only [pendingEdges, List.filter_cons] at ih ⊢
    by_cases hseen : place ∈ seen
    · simpa [hseen] using ih
    · by_cases ha : place = a
      · simp only [List.contains_eq_mem, List.mem_append, ha, List.mem_singleton, or_true,
          decide_true, Bool.not_true, Bool.false_eq_true, if_false]
        simp only [ha] at hseen
        simp only [hseen, decide_false, Bool.not_false, if_true, edgeCount_cons]
        simp only [List.contains_eq_mem] at ih
        omega
      · simp only [List.contains_eq_mem, List.mem_append, List.mem_singleton, hseen, ha, or_self,
          decide_false, Bool.not_false, if_true, edgeCount_cons]
        simp only [List.contains_eq_mem, List.mem_append, List.mem_singleton] at ih
        omega

/-- Seeing a place for the first time takes its edges off the account. -/
theorem pendingEdges_visit {places seen : List α} {a : α} (ha : a ∈ places) (hseen : a ∉ seen) :
    (next a).length + pendingEdges next places (seen ++ [a]) ≤ pendingEdges next places seen := by
  induction places with
  | nil => exact absurd ha List.not_mem_nil
  | cons place places ih =>
    by_cases hp : place = a
    · have hle : pendingEdges next places (seen ++ [a]) ≤ pendingEdges next places seen :=
        pendingEdges_append_le places seen a
      simp only [pendingEdges] at hle ⊢
      simp only [List.filter_cons, hp, List.contains_eq_mem, hseen, List.mem_append,
        List.mem_singleton, or_true, decide_true, decide_false, Bool.not_true, Bool.not_false,
        Bool.false_eq_true, if_false, if_true, edgeCount_cons] at hle ⊢
      omega
    · have hmem : a ∈ places := by
        rcases List.mem_cons.mp ha with h | h
        · exact absurd h.symm hp
        · exact h
      have hrest := ih hmem
      simp only [pendingEdges, List.filter_cons, List.contains_eq_mem, List.mem_append,
        List.mem_singleton, hp, or_false] at hrest ⊢
      split
      · simp only [edgeCount_cons]
        omega
      · exact hrest

theorem pendingEdges_visit_le {places seen : List α} (hplaces : ∀ a, next a ≠ [] → a ∈ places)
    {a : α} (hseen : a ∉ seen) :
    (next a).length + pendingEdges next places (seen ++ [a]) ≤ pendingEdges next places seen := by
  by_cases hnone : next a = []
  · have hle : pendingEdges next places (seen ++ [a]) ≤ pendingEdges next places seen :=
      pendingEdges_append_le places seen a
    simpa [hnone] using hle
  · exact pendingEdges_visit (hplaces a hnone) hseen

/-! ### The walk -/

/-- With enough fuel a walk goes on until nothing waits any more. -/
theorem walks_walk {places : List α} (hplaces : ∀ a, next a ≠ [] → a ∈ places)
    (fuel : Nat) (seen stack : List α)
    (hfuel : stack.length + pendingEdges next places seen ≤ fuel) :
    Walks next seen stack (walk next fuel seen stack) := by
  -- Each step costs one; the edges of a place seen for the first time pay for what they put up.
  induction fuel generalizing seen stack with
  | zero =>
    have hstack : stack = [] := List.length_eq_zero_iff.mp (by omega)
    subst hstack
    exact .done seen
  | succ fuel ih =>
    cases stack with
    | nil => exact .done seen
    | cons a stack =>
      simp only [List.length_cons] at hfuel
      by_cases ha : a ∈ seen
      · have hskip : walk next (fuel + 1) seen (a :: stack) = walk next fuel seen stack := by
          simp [walk, ha]
        rw [hskip]
        exact .skip ha (ih seen stack (by omega))
      · have hvisit : walk next (fuel + 1) seen (a :: stack) =
            walk next fuel (seen ++ [a]) ((next a).reverse ++ stack) := by
          simp [walk, ha]
        have hpaid := pendingEdges_visit_le hplaces ha
        rw [hvisit]
        refine .visit ha (ih _ _ ?_)
        simp only [List.length_append, List.length_reverse]
        omega

/-- The fuel lasts from any start. -/
theorem walks_reachedFrom {places : List α} (hplaces : ∀ a, next a ≠ [] → a ∈ places) (start : α) :
    Walks next [] [start] (reachedFrom next places start) := by
  refine walks_walk hplaces _ [] [start] ?_
  rw [pendingEdges_nil, List.length_singleton]
  omega

/-- A walk sees exactly what can be reached from its start. -/
theorem mem_reachedFrom {places : List α} (hplaces : ∀ a, next a ≠ [] → a ∈ places)
    (start c : α) : c ∈ reachedFrom next places start ↔ Reaches next start c :=
  ((walks_reachedFrom hplaces start).invariant (.initial start)).mem_iff c

/-! ### Extending configurations -/

namespace Descriptor

variable {τ φ : Type} [BEq τ] [LawfulBEq τ]

theorem mem_extendersOf {d : Descriptor τ φ} {parent name : τ} :
    name ∈ d.extendersOf parent ↔ ∃ c ∈ d.configurations, c.name = name ∧ parent ∈ c.parents := by
  simp only [extendersOf, List.mem_flatMap, List.mem_map, List.mem_filter, beq_iff_eq]
  constructor
  · rintro ⟨c, hc, p, ⟨hp, rfl⟩, rfl⟩
    exact ⟨c, hc, rfl, hp⟩
  · rintro ⟨c, hc, rfl, hp⟩
    exact ⟨c, hc, parent, ⟨hp, rfl⟩, rfl⟩

theorem mem_extendedNames_of_extendersOf {d : Descriptor τ φ} {parent : τ}
    (h : d.extendersOf parent ≠ []) : parent ∈ d.extendedNames := by
  obtain ⟨name, hname⟩ := List.exists_mem_of_ne_nil _ h
  obtain ⟨c, hc, -, hp⟩ := mem_extendersOf.mp hname
  exact List.mem_flatMap.mpr ⟨c, hc, hp⟩

/-- The configurations that extend a given one are those from which it can be reached. -/
theorem mem_extendingConfigurations {d : Descriptor τ φ} {extended name : τ} :
    name ∈ d.extendingConfigurations extended ↔ Reaches d.extendersOf extended name :=
  mem_reachedFrom (fun _ => mem_extendedNames_of_extendersOf) extended name

end Descriptor

end OsgiIvy
