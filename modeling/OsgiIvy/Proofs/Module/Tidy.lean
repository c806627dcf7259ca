import OsgiIvy.Proofs.Module.Snapshot

/-!
# Tidy descriptors

Reading checks little of what a snapshot holds.  Still each configuration, each key of a mapping and
each route of an edge is there once in what is read, as in every descriptor, whatever stands in the
text places (`isTidy_of_ofValue`).
-/

namespace OsgiIvy

open Value

/-! ### Descriptors -/

namespace Descriptor

variable {τ φ : Type} [BEq τ]

/-- Configurations, keys and routes are apart. -/
structure IsTidy (d : Descriptor τ φ) : Prop where
  configurations : d.configurationNames.Pairwise fun a b => (a == b) = false
  namespaces : Apart d.namespaces.keys
  attributes : ∀ e ∈ d.artifacts.entries, ∀ a ∈ e.2, Apart a.extra.keys
  routes : ∀ e ∈ d.dependencies, e.HasApartRoutes

theorem IsTidy.addConfiguration [BEq φ] {d d' : Descriptor τ φ} {c : Configuration τ φ}
    (h : d.IsTidy) (hrun : d.addConfiguration c = .ok d') : d'.IsTidy := by
  rw [Descriptor.addConfiguration] at hrun
  cases hfind : d.configuration? c.name with
  | none =>
    rw [hfind] at hrun
    rw [← Except.ok.inj hrun]
    refine { h with configurations := ?_ }
    rw [configurationNames, List.map_append, List.map_singleton]
    refine List.pairwise_append.mpr ⟨h.configurations, List.pairwise_singleton _ _, ?_⟩
    intro name hname other hother
    obtain ⟨registered, hregistered, rfl⟩ := List.mem_map.mp hname
    rw [List.mem_singleton.mp hother]
    exact Bool.eq_false_iff.mpr (List.find?_eq_none.mp hfind registered hregistered)
  | some registered =>
    rw [hfind] at hrun
    simp only at hrun
    split at hrun
    · exact Except.ok.inj hrun ▸ h
    · cases hrun

theorem IsTidy.addArtifact {d : Descriptor τ φ} (h : d.IsTidy) (name : τ) {a : Artifact τ}
    (ha : Apart a.extra.keys) : (d.addArtifact name a).IsTidy := by
  refine { h with attributes := ?_ }
  refine Assoc.forall_mem_alterEntries (fun as : List (Artifact τ) => ∀ b ∈ as, Apart b.extra.keys)
    ?_ ?_ h.attributes
  · exact List.forall_mem_singleton.mpr ha
  · intro as has
    exact List.forall_mem_append.mpr ⟨has, List.forall_mem_singleton.mpr ha⟩

end Descriptor

namespace Snapshot

/-! ### Reading -/

theorem apart_keys_of_readAttributes {v : Value} {m : Assoc Value Value}
    (h : readAttributes v = .ok m) : Apart m.keys := by
  cases v with
  | mapping es =>
    rw [← Except.ok.inj h]
    exact Assoc.apart_keys_ofList es
  | null | bool | int | float | string | torn | date | moment | list =>
    obtain ⟨_, -, h⟩ := bind_eq_ok.mp h
    obtain ⟨pairs, -, h⟩ := bind_eq_ok.mp h
    rw [← Except.ok.inj h]
    exact Assoc.apart_keys_ofList pairs

theorem apart_keys_of_readArtifact {v : Value} {a : Artifact Value} (h : readArtifact v = .ok a) :
    Apart a.extra.keys := by
  simp only [readArtifact, bind_eq_ok] at h
  obtain ⟨_, -, _, -, _, -, _, -, _, -, _, -, _, -, extra, hextra, h⟩ := h
  rw [← Except.ok.inj h]
  exact apart_keys_of_readAttributes hextra

theorem hasApartRoutes_of_readDependency {v : Value} {d : Dependency Value Value}
    (h : readDependency v = .ok d) : d.HasApartRoutes := by
  simp only [readDependency, bind_eq_ok] at h
  obtain ⟨_, -, _, -, _, -, _, -, _, -, _, -, routes, -, h⟩ := h
  refine foldlM_preserves ?_ (Dependency.hasApartRoutes_of_no_routes rfl) h
  intro d route d' hd hstep
  obtain ⟨⟨master, target⟩, -, hstep⟩ := bind_eq_ok.mp hstep
  obtain ⟨key, -, hstep⟩ := bind_eq_ok.mp hstep
  rw [← Except.ok.inj hstep]
  exact hd.addRoute key target

theorem liftM_eq_ok {α : Type} {x : Except Value.Fault α} {a : α} :
    (liftM x : Except Snapshot.Fault α) = .ok a ↔ x = .ok a := mapError_eq_ok

theorem isTidy_of_readConfigurationEntry {d d' : Unchecked} {v : Value} (h : d.IsTidy)
    (hread : readConfigurationEntry d v = .ok d') : d'.IsTidy := by
  simp only [readConfigurationEntry, bind_eq_ok, liftM_eq_ok, mapError_eq_ok] at hread
  obtain ⟨c, -, registered, hregistered, _, -, items, -, hread⟩ := hread
  refine foldlM_preserves ?_ (h.addConfiguration hregistered) hread
  intro d item d' hd hstep
  obtain ⟨a, ha, hstep⟩ := bind_eq_ok.mp hstep
  rw [← Except.ok.inj hstep]
  exact hd.addArtifact c.name (apart_keys_of_readArtifact (liftM_eq_ok.mp ha))

theorem isTidy_of_readHead {v : Value} {d : Unchecked} (h : readHead v = .ok d) : d.IsTidy := by
  simp only [readHead, bind_eq_ok] at h
  obtain ⟨_, -, _, -, _, -, _, -, _, -, _, -, _, -, _, -, namespaces, -, _, -, _, -, _, -, h⟩ := h
  rw [← Except.ok.inj h]
  exact ⟨List.Pairwise.nil, Assoc.apart_keys_ofList namespaces,
    fun _ he => absurd he List.not_mem_nil, fun _ he => absurd he List.not_mem_nil⟩

/-- Whatever a snapshot holds, what is read from it is tidy. -/
theorem isTidy_of_ofValue {v : Value} {d : Unchecked} (h : ofValue v = .ok d) : d.IsTidy := by
  simp only [ofValue, bind_eq_ok, liftM_eq_ok] at h
  obtain ⟨front, hfront, _, -, registered, hregistered, _, -, edges, hedges, _, -, _, -, h⟩ := h
  -- The configurations are registered one by one; what is read after them replaces the edges.
  have htidy : registered.IsTidy :=
    foldlM_preserves (fun _ _ _ => isTidy_of_readConfigurationEntry) (isTidy_of_readHead hfront)
      hregistered
  rw [← Except.ok.inj h]
  refine { htidy with routes := fun e he => ?_ }
  obtain ⟨item, -, hitem⟩ := exists_of_mem_mapM hedges he
  exact hasApartRoutes_of_readDependency hitem

/-! ### Stored descriptors -/

theorem apart_keys_of_stored {m : Assoc String String} (h : Apart (m.stored id).keys) :
    Apart m.keys := by
  have hkeys : (m.stored id).keys = m.keys.map .string := by
    simp [Assoc.keys, Assoc.stored]
  rw [hkeys] at h
  exact h.of_map beq_string

theorem hasApartRoutes_of_stored {d : Dependency String Bool} (h : d.stored.HasApartRoutes) :
    d.HasApartRoutes := by
  have hmem : ∀ e ∈ d.routes.entries,
      (Value.string e.1, e.2.map Value.string) ∈ d.stored.routes.entries :=
    fun e he => List.mem_map.mpr ⟨e, he, rfl⟩
  refine ⟨?_, fun e he => ?_, fun e he => ?_⟩
  · have hmasters : d.stored.masters = d.masters.map .string := by
      simp [Dependency.masters, Assoc.keys, Dependency.stored]
    have hapart := h.masters
    rw [hmasters] at hapart
    exact hapart.of_map beq_string
  · exact List.map_eq_nil_iff.not.mp (h.routed _ (hmem e he))
  · exact (h.targets _ (hmem e he)).of_map beq_string

/-- What is stored as a tidy descriptor is tidy. -/
theorem isTidy_of_stored {d : ModuleDescriptor} (h : (d.stored id).IsTidy) : d.IsTidy where
  configurations := by
    have hnames : (d.stored id).configurationNames = d.configurationNames.map .string := by
      simp [Descriptor.configurationNames, Descriptor.stored, Configuration.stored]
    have hconfigurations := h.configurations
    rw [hnames] at hconfigurations
    exact (List.pairwise_map.mp hconfigurations).imp fun hab => (beq_string _ _).symm.trans hab
  namespaces := apart_keys_of_stored h.namespaces
  attributes e he a ha :=
    apart_keys_of_stored (h.attributes _ (List.mem_map.mpr ⟨e, he, rfl⟩) _
      (List.mem_map_of_mem ha))
  routes e he := hasApartRoutes_of_stored (h.routes _ (List.mem_map_of_mem he))

end Snapshot

end OsgiIvy
