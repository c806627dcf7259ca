import Mathlib.Data.List.Induction
import OsgiIvy.Module.Descriptor
import OsgiIvy.Proofs.Mappings

/-!
# Artifacts of configurations

Binding artifacts configuration by configuration gives the configurations that have any, each with
its artifacts, in that order (`foldl_addAll`).  A descriptor whose artifacts are already bound
in the order of its configurations is what it was before (`bindings_eq_entries`).
-/

namespace OsgiIvy.Descriptor

variable {τ φ : Type} [BEq τ]

/-- Binds artifacts to a configuration. -/
def addAll (d : Descriptor τ φ) (name : τ) (as : List (Artifact τ)) : Descriptor τ φ :=
  as.foldl (fun d a => d.addArtifact name a) d

/-- Nothing but artifacts is changed. -/
theorem addAll_frame (d : Descriptor τ φ) (name : τ) (as : List (Artifact τ)) :
    d.addAll name as = { d with artifacts := (d.addAll name as).artifacts } := by
  induction as generalizing d with
  | nil => rfl
  | cons a as ih => exact ih (d.addArtifact name a)

omit [BEq τ] in
/-- The entry of a configuration, if it has any artifacts. -/
def binding (name : τ) (as : List (Artifact τ)) : List (τ × List (Artifact τ)) :=
  if as.isEmpty then [] else [(name, as)]

/-- The entries of the given configurations. -/
def bindings (d : Descriptor τ φ) (names : List τ) : List (τ × List (Artifact τ)) :=
  names.flatMap fun name => binding name (d.artifactsOf name)

omit [BEq τ] in
theorem keys_binding_sublist (name : τ) (as : List (Artifact τ)) :
    ((binding name as).map Prod.fst).Sublist [name] := by
  cases as with
  | nil => exact List.nil_sublist _
  | cons a as => exact List.Sublist.refl _

theorem keys_bindings_sublist (d : Descriptor τ φ) (names : List τ) :
    ((d.bindings names).map Prod.fst).Sublist names := by
  induction names with
  | nil => exact List.Sublist.refl []
  | cons name names ih =>
    rw [bindings, List.flatMap_cons, List.map_append]
    exact (keys_binding_sublist name _).append ih

omit [BEq τ] in
theorem mem_binding {name : τ} {as : List (Artifact τ)} {e : τ × List (Artifact τ)} :
    e ∈ binding name as ↔ e = (name, as) ∧ as ≠ [] := by
  cases as with
  | nil => simp [binding]
  | cons a as => simp [binding]

theorem mem_bindings {d : Descriptor τ φ} {names : List τ} {e : τ × List (Artifact τ)}
    (h : e ∈ d.bindings names) : e.2 = d.artifactsOf e.1 ∧ e.2 ≠ [] := by
  obtain ⟨name, -, he⟩ := List.mem_flatMap.mp h
  obtain ⟨rfl, hne⟩ := mem_binding.mp he
  exact ⟨rfl, hne⟩

variable [LawfulBEq τ]

theorem mem_entries_of_artifactsOf {d : Descriptor τ φ} {name : τ} (h : d.artifactsOf name ≠ []) :
    (name, d.artifactsOf name) ∈ d.artifacts.entries := by
  cases hget : d.artifacts.get? name with
  | none =>
    rw [artifactsOf, Assoc.getD, hget] at h
    exact absurd rfl h
  | some as =>
    rw [artifactsOf, Assoc.getD, hget]
    exact Assoc.mem_of_get? hget

theorem exists_mem_entries_of_mem_artifactsOf {d : Descriptor τ φ} {name : τ} {a : Artifact τ}
    (h : a ∈ d.artifactsOf name) : ∃ e ∈ d.artifacts.entries, a ∈ e.2 :=
  ⟨_, mem_entries_of_artifactsOf (List.ne_nil_of_mem h), h⟩

theorem artifactsOf_addArtifact (d : Descriptor τ φ) (k name : τ) (a : Artifact τ) :
    (d.addArtifact k a).artifactsOf name =
      d.artifactsOf name ++ if k == name then [a] else [] := by
  unfold artifactsOf addArtifact Assoc.getD
  by_cases h : k = name
  · subst h
    simp [Assoc.get?_alter_self]
  · have hne : (k == name) = false := beq_eq_false_iff_ne.mpr h
    rw [Assoc.get?_alter_of_ne _ (Ne.symm h), hne]
    simp

theorem artifactsOf_addAll (d : Descriptor τ φ) (k name : τ) (as : List (Artifact τ)) :
    (d.addAll k as).artifactsOf name = d.artifactsOf name ++ if k == name then as else [] := by
  induction as generalizing d with
  | nil => simp [addAll]
  | cons a as ih =>
    show ((d.addArtifact k a).addAll k as).artifactsOf name = _
    rw [ih, artifactsOf_addArtifact, List.append_assoc]
    cases k == name with
    | true => rfl
    | false => rfl

theorem addAll_of_new {d : Descriptor τ φ} {name : τ} (hnew : name ∉ d.artifacts.keys)
    (as : List (Artifact τ)) :
    d.addAll name as = { d with artifacts := ⟨d.artifacts.entries ++ binding name as⟩ } := by
  -- From the last artifact backwards: the entry of the configuration stands at the end.
  induction as using List.reverseRecOn with
  | nil => simp [addAll, binding]
  | append_singleton as a ih =>
    have hlast : d.addAll name (as ++ [a]) = (d.addAll name as).addArtifact name a := by
      simp [addAll]
    rw [hlast, ih]
    by_cases has : as = []
    · subst has
      simp only [binding, addArtifact, Assoc.alter, List.isEmpty_nil, if_true, List.append_nil]
      rw [Assoc.alterEntries_of_not_mem hnew]
      rfl
    · have hbound : binding name as = [(name, as)] := by simp [binding, has]
      simp only [hbound, addArtifact, Assoc.alter]
      rw [Assoc.alterEntries_append_self hnew]
      simp [binding]

omit [BEq τ] [LawfulBEq τ] in
/-- After a configuration has been bound, those that are left are still new. -/
theorem nodup_keys_binding {es : List (τ × List (Artifact τ))} {name : τ} {names : List τ}
    (h : (es.map Prod.fst ++ name :: names).Nodup) (as : List (Artifact τ)) :
    ((es ++ binding name as).map Prod.fst ++ names).Nodup := by
  rw [List.map_append, List.append_assoc]
  exact ((List.Sublist.refl _).append ((keys_binding_sublist name as).append (.refl names))).nodup h

theorem foldl_addAll (source : Descriptor τ φ) {d : Descriptor τ φ} {names : List τ}
    (h : (d.artifacts.keys ++ names).Nodup) :
    names.foldl (fun d name => d.addAll name (source.artifactsOf name)) d =
      { d with artifacts := ⟨d.artifacts.entries ++ source.bindings names⟩ } := by
  induction names generalizing d with
  | nil => simp [bindings]
  | cons name names ih =>
    have hnew : name ∉ d.artifacts.keys := not_mem_of_nodup_append h
    have hbindings : source.bindings (name :: names) =
        binding name (source.artifactsOf name) ++ source.bindings names := List.flatMap_cons
    rw [List.foldl_cons, addAll_of_new hnew, hbindings, ← List.append_assoc]
    exact ih (nodup_keys_binding h _)

theorem flatMap_binding_lookup {es : List (τ × List (Artifact τ))} {names : List τ}
    (hkeys : (es.map Prod.fst).Sublist names) (hnames : names.Nodup) (hne : ∀ e ∈ es, e.2 ≠ []) :
    (names.flatMap fun name => binding name ((es.lookup name).getD [])) = es := by
  induction names generalizing es with
  | nil =>
    have hnil : es = [] := List.map_eq_nil_iff.mp (List.sublist_nil.mp hkeys)
    rw [hnil]
    rfl
  | cons name names ih =>
    obtain ⟨hname, hrest⟩ := List.nodup_cons.mp hnames
    rw [List.flatMap_cons]
    cases es with
    | nil =>
      rw [@ih [] (List.nil_sublist names) hrest hne]
      rfl
    | cons e es =>
      rcases List.sublist_cons_iff.mp hkeys with hskip | ⟨keys, heq, hsub⟩
      · -- The configuration has no artifacts.
        have hlookup : (e :: es).lookup name = none :=
          Assoc.lookup_of_not_mem fun hkey => hname (hskip.subset hkey)
        rw [hlookup, ih hskip hrest hne]
        rfl
      · -- The configuration is the first one that has any.
        obtain ⟨k, as⟩ := e
        obtain ⟨rfl, rfl⟩ := List.cons.inj heq
        have hothers : (names.flatMap fun other =>
            binding other ((((k, as) :: es).lookup other).getD [])) =
            names.flatMap fun other => binding other ((es.lookup other).getD []) := by
          refine congrArg List.flatten (List.map_congr_left fun other hother => ?_)
          have hbeq : (other == k) = false :=
            beq_eq_false_iff_ne.mpr fun hkey => hname (hkey ▸ hother)
          rw [List.lookup_cons, hbeq]
        have has : as ≠ [] := hne (k, as) List.mem_cons_self
        rw [hothers, ih hsub hrest fun f hf => hne f (List.mem_cons_of_mem _ hf)]
        simp [binding, has]

/-- Each of the configurations has the artifacts in its entry, and none without an entry. -/
theorem lookup_bindings (d : Descriptor τ φ) {names : List τ} {name : τ} (h : name ∈ names) :
    ((d.bindings names).lookup name).getD [] = d.artifactsOf name := by
  cases hlookup : (d.bindings names).lookup name with
  | some as =>
    obtain ⟨before, after, hentries, -⟩ := List.lookup_eq_some_iff.mp hlookup
    have hmem : (name, as) ∈ d.bindings names := by
      rw [hentries]
      exact List.mem_append_right before List.mem_cons_self
    exact (mem_bindings hmem).1
  | none =>
    by_contra hne
    have hmem : (name, d.artifactsOf name) ∈ d.bindings names :=
      List.mem_flatMap.mpr ⟨name, h, mem_binding.mpr ⟨rfl, Ne.symm hne⟩⟩
    have hother := List.lookup_eq_none_iff.mp hlookup _ hmem
    rw [bne_self_eq_false] at hother
    exact Bool.false_ne_true hother

/-- Artifacts that are bound in the order of the configurations. -/
theorem bindings_eq_entries {d : Descriptor τ φ} {names : List τ} (hnames : names.Nodup)
    (hkeys : d.artifacts.keys.Sublist names) (hne : ∀ e ∈ d.artifacts.entries, e.2 ≠ []) :
    d.bindings names = d.artifacts.entries :=
  flatMap_binding_lookup hkeys hnames hne

end OsgiIvy.Descriptor
