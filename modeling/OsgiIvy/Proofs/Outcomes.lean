import Mathlib.Data.List.Forall2

/-!
# Outcomes of steps that may fail

What a chain of steps that succeeds says of its single steps.
-/

namespace OsgiIvy

variable {ε α β : Type}

theorem ok_bind (a : α) (f : α → Except ε β) : (Except.ok a >>= f) = f a := rfl

theorem pure_eq_ok (a : α) : (pure a : Except ε α) = .ok a := rfl

theorem bind_eq_ok {x : Except ε α} {f : α → Except ε β} {b : β} :
    (x >>= f) = .ok b ↔ ∃ a, x = .ok a ∧ f a = .ok b := by
  cases x with
  | error e => simp [bind, Except.bind]
  | ok a => simp [bind, Except.bind]

theorem bind_eq_error {x : Except ε α} {f : α → Except ε β} {e : ε} :
    (x >>= f) = .error e ↔ x = .error e ∨ ∃ a, x = .ok a ∧ f a = .error e := by
  cases x with
  | error e' => simp [bind, Except.bind]
  | ok a => simp [bind, Except.bind]

theorem exists_eq_error_iff {x : Except ε α} : (∃ e, x = .error e) ↔ ∀ a, x ≠ .ok a := by
  cases x with
  | error e => simp
  | ok a => simp

theorem map_eq_ok {x : Except ε α} {f : α → β} {b : β} :
    x.map f = .ok b ↔ ∃ a, x = .ok a ∧ f a = b := by
  cases x with
  | error e => simp [Except.map]
  | ok a => simp [Except.map]

theorem map_ok (a : α) (f : α → β) : (Except.ok a : Except ε α).map f = .ok (f a) := rfl

theorem map_error (e : ε) (f : α → β) : (Except.error e : Except ε α).map f = .error e := rfl

theorem mapError_ok {δ : Type} (a : α) (f : ε → δ) : (Except.ok a).mapError f = .ok a := rfl

theorem mapError_eq_ok {δ : Type} {x : Except ε α} {f : ε → δ} {a : α} :
    x.mapError f = .ok a ↔ x = .ok a := by
  cases x with
  | error e =>
    have hfails : (Except.error e : Except ε α).mapError f = .error (f e) := rfl
    simp [hfails]
  | ok b => rw [mapError_ok, Except.ok.injEq, Except.ok.injEq]

/-- What the steps that succeed preserve holds after a run that succeeds. -/
theorem foldlM_preserves {P : β → Prop} {step : β → α → Except ε β}
    (hstep : ∀ b a c, P b → step b a = .ok c → P c) {as : List α} {b c : β} (hb : P b)
    (h : as.foldlM step b = .ok c) : P c := by
  induction as generalizing b with
  | nil => exact Except.ok.inj h ▸ hb
  | cons a as ih =>
    rw [List.foldlM_cons] at h
    obtain ⟨next, hnext, hrest⟩ := bind_eq_ok.mp h
    exact ih (hstep b a next hb hnext) hrest

/-- A step that succeeds everywhere in a list gives all its results. -/
theorem mapM_eq_ok {step : α → Except ε β} {g : α → β} {as : List α}
    (h : ∀ a ∈ as, step a = .ok (g a)) : as.mapM step = .ok (as.map g) := by
  induction as with
  | nil => rfl
  | cons a as ih =>
    rw [List.mapM_cons, h a List.mem_cons_self, ok_bind,
      ih fun b hb => h b (List.mem_cons_of_mem a hb)]
    rfl

theorem mapM_map_eq_ok {γ : Type} {step : β → Except ε γ} {f : α → β} {g : α → γ} {as : List α}
    (h : ∀ a ∈ as, step (f a) = .ok (g a)) : (as.map f).mapM step = .ok (as.map g) := by
  rw [List.mapM_map]
  exact mapM_eq_ok h

/-- Where a step fails somewhere in a list, one of the failures is that of the list. -/
theorem exists_mapM_eq_error {step : α → Except ε β} {as : List α} {a : α} (ha : a ∈ as) {e : ε}
    (h : step a = .error e) : ∃ b ∈ as, ∃ e', step b = .error e' ∧ as.mapM step = .error e' := by
  induction as with
  | nil => exact absurd ha List.not_mem_nil
  | cons b as ih =>
    cases hb : step b with
    | error e' => exact ⟨b, List.mem_cons_self, e', hb, by rw [List.mapM_cons, hb]; rfl⟩
    | ok result =>
      have hmem : a ∈ as := by
        rcases List.mem_cons.mp ha with rfl | hmem
        · exact absurd (h.symm.trans hb) nofun
        · exact hmem
      obtain ⟨c, hc, e', hstep, hrest⟩ := ih hmem
      refine ⟨c, List.mem_cons_of_mem b hc, e', hstep, ?_⟩
      rw [List.mapM_cons, hb, ok_bind, hrest]
      rfl

/-- Where a run fails, it fails as the first step that does. -/
theorem first_of_mapM_eq_error {step : α → Except ε β} {as : List α} {e : ε}
    (h : as.mapM step = .error e) : ∃ before a after, as = before ++ a :: after ∧
      (∀ b ∈ before, ∃ result, step b = .ok result) ∧ step a = .error e := by
  induction as with
  | nil => exact absurd h nofun
  | cons c as ih =>
    rw [List.mapM_cons] at h
    cases hc : step c with
    | error e' =>
      rw [hc] at h
      have he : e' = e := Except.error.inj h
      exact ⟨[], c, as, rfl, fun b hb => absurd hb List.not_mem_nil, he ▸ hc⟩
    | ok result =>
      rw [hc, ok_bind] at h
      have hrest : as.mapM step = .error e := by
        cases hrest : as.mapM step with
        | error e' =>
          rw [hrest] at h
          exact h
        | ok results =>
          rw [hrest] at h
          exact absurd h nofun
      obtain ⟨before, a, after, rfl, hbefore, ha⟩ := ih hrest
      exact ⟨c :: before, a, after, rfl, List.forall_mem_cons.mpr ⟨⟨result, hc⟩, hbefore⟩, ha⟩

/-- All steps of a run that succeeds do. -/
theorem ok_of_mem_of_mapM {step : α → Except ε β} {as : List α} {bs : List β}
    (h : as.mapM step = .ok bs) {a : α} (ha : a ∈ as) : ∃ b, step a = .ok b := by
  cases hstep : step a with
  | ok b => exact ⟨b, rfl⟩
  | error e =>
    obtain ⟨_, _, e', _, hrun⟩ := exists_mapM_eq_error ha hstep
    exact absurd (h.symm.trans hrun) nofun

/-- The results of a run stand in the order of its steps. -/
theorem forall₂_of_mapM {step : α → Except ε β} {as : List α} {bs : List β}
    (h : as.mapM step = .ok bs) : List.Forall₂ (fun a b => step a = .ok b) as bs := by
  induction as generalizing bs with
  | nil =>
    rw [← Except.ok.inj h]
    exact .nil
  | cons a as ih =>
    rw [List.mapM_cons] at h
    obtain ⟨first, hfirst, h⟩ := bind_eq_ok.mp h
    obtain ⟨rest, hrest, h⟩ := bind_eq_ok.mp h
    rw [← Except.ok.inj h]
    exact .cons hfirst (ih hrest)

/-- Steps that succeed on what is related to a list give the results for that list. -/
theorem mapM_of_forall₂ {γ : Type} {R : α → γ → Prop} {step : α → Except ε β} {f : γ → β}
    (hstep : ∀ a c, R a c → step a = .ok (f c)) {as : List α} {cs : List γ}
    (h : List.Forall₂ R as cs) : as.mapM step = .ok (cs.map f) := by
  induction h with
  | nil => rfl
  | cons hfirst _ ih =>
    rw [List.mapM_cons, hstep _ _ hfirst, ok_bind, ih]
    rfl

theorem exists_of_mem_forall₂ {R : α → β → Prop} {as : List α} {bs : List β}
    (h : List.Forall₂ R as bs) {b : β} (hb : b ∈ bs) : ∃ a ∈ as, R a b := by
  induction h with
  | nil => exact absurd hb List.not_mem_nil
  | cons hab _ ih =>
    rcases List.mem_cons.mp hb with rfl | hb
    · exact ⟨_, List.mem_cons_self, hab⟩
    · obtain ⟨a, ha, hrest⟩ := ih hb
      exact ⟨a, List.mem_cons_of_mem _ ha, hrest⟩

/-- Each result of a run is that of one of its steps. -/
theorem exists_of_mem_mapM {step : α → Except ε β} {as : List α} {bs : List β}
    (h : as.mapM step = .ok bs) {b : β} (hb : b ∈ bs) : ∃ a ∈ as, step a = .ok b :=
  exists_of_mem_forall₂ (forall₂_of_mapM h) hb

/-- Steps that only store what is read do as well when all is read before any is stored. -/
theorem foldlM_eq_mapM {γ : Type} {step : β → α → Except ε β} {read : α → Except ε γ}
    {store : β → γ → β} (h : ∀ b a, step b a = (read a).map (store b)) (as : List α) (b : β) :
    as.foldlM step b = (as.mapM read).map (·.foldl store b) := by
  induction as generalizing b with
  | nil => rfl
  | cons a as ih =>
    rw [List.foldlM_cons, List.mapM_cons, h]
    cases read a with
    | error e => rfl
    | ok c =>
      rw [map_ok, ok_bind, ok_bind, ih]
      cases as.mapM read with
      | error e => rfl
      | ok cs => rfl

/-! ### Foreseen faults -/

/-- A run that succeeds, or that fails with a fault which is foreseen. -/
def SettlesBy (foreseen : ε → Bool) (x : Except ε α) : Prop :=
  (∃ a, x = .ok a) ∨ ∃ e, x = .error e ∧ foreseen e = true

variable {foreseen : ε → Bool}

theorem settlesBy_ok (a : α) : SettlesBy foreseen (Except.ok a : Except ε α) := .inl ⟨a, rfl⟩

theorem settlesBy_error_iff {e : ε} :
    SettlesBy foreseen (Except.error e : Except ε α) ↔ foreseen e = true := by
  constructor
  · rintro (⟨a, h⟩ | ⟨e', h, hforeseen⟩)
    · exact absurd h nofun
    · rwa [Except.error.inj h]
  · exact fun h => .inr ⟨e, rfl, h⟩

end OsgiIvy
