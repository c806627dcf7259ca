import OsgiIvy.Proofs.Bundle.Edges
import OsgiIvy.Proofs.Reachability

/-!
# Configurations that take part in an edge

A configuration takes part in an edge if it extends a master of the edge.  For the descriptor of a
bundle this says what the encoding of packages is for (`TakesPart`): whoever depends on the use of a
package gets what is mandatory, and of what is optional only the packages that the package comes to
use.
-/

namespace OsgiIvy

open OsgiIvy.Time (Moment)
open OsgiIvy.Configuration (defaultName optionalName transitiveOptionalName useName)

/-- A configuration that extends one of the configurations that an edge is routed from. -/
def Descriptor.Activates (md : ModuleDescriptor) (name : String)
    (d : Dependency String Bool) : Prop :=
  ∃ master ∈ d.masters, name ∈ md.extendingConfigurations master

namespace Bundle

variable {now : Moment} {b : Bundle} {md : ModuleDescriptor}

/-! ### Extending -/

/-- What extends what, once for all: the optional configurations the next one each, and the use of
a package the default configuration and the use of what the package uses. -/
theorem mem_extendersOf_iff (hmd : md.configurations = (outline now b).configurations)
    {parent name : String} :
    name ∈ md.extendersOf parent ↔
      (name = optionalName ∧ parent = defaultName) ∨
      (name = transitiveOptionalName ∧ parent = optionalName) ∨
      ∃ p, b.Mentions p ∧ name = useName p ∧
        (parent = defaultName ∨ ∃ q ∈ b.usesOf p, parent = useName q) := by
  rw [Descriptor.mem_extendersOf, hmd]
  constructor
  · rintro ⟨c, hc, rfl, hparent⟩
    rcases mem_configurations_outline.mp hc with hc | ⟨p, hp, rfl⟩
    · simp only [baseConfigurations, List.mem_cons, List.not_mem_nil, or_false] at hc
      rcases hc with rfl | rfl | rfl
      · exact absurd hparent List.not_mem_nil
      · exact .inl ⟨rfl, List.mem_singleton.mp hparent⟩
      · exact .inr (.inl ⟨rfl, List.mem_singleton.mp hparent⟩)
    · exact .inr (.inr ⟨p, hp, rfl, mem_parents_forUse.mp hparent⟩)
  · rintro (⟨rfl, rfl⟩ | ⟨rfl, rfl⟩ | ⟨p, hp, rfl, hparent⟩)
    · refine ⟨Configuration.forOptional, ?_, rfl, List.mem_singleton_self _⟩
      exact mem_configurations_outline.mpr (.inl (by simp [baseConfigurations]))
    · refine ⟨Configuration.forTransitiveOptional, ?_, rfl, List.mem_singleton_self _⟩
      exact mem_configurations_outline.mpr (.inl (by simp [baseConfigurations]))
    · refine ⟨_, mem_configurations_outline.mpr (.inr ⟨p, hp, rfl⟩), rfl, ?_⟩
      exact mem_parents_forUse.mpr hparent

theorem reaches_defaultName_iff (hmd : md.configurations = (outline now b).configurations)
    {start : String} : Reaches md.extendersOf start defaultName ↔ start = defaultName := by
  constructor
  · intro h
    cases h with
    | refl => rfl
    | step _ hlast =>
      rcases (mem_extendersOf_iff hmd).mp hlast with ⟨h, -⟩ | ⟨h, -⟩ | ⟨p, -, h, -⟩
      · exact absurd h (by decide)
      · exact absurd h (by decide)
      · exact absurd h.symm (useName_ne_defaultName p)
  · rintro rfl
    exact .refl _

/-- Nothing but the optional configurations extends the optional configurations. -/
theorem optional_closed (hmd : md.configurations = (outline now b).configurations)
    {start name : String} (hstart : start = optionalName ∨ start = transitiveOptionalName)
    (h : Reaches md.extendersOf start name) :
    name = optionalName ∨ name = transitiveOptionalName := by
  refine Reaches.mem_of_closed (P := fun c => c = optionalName ∨ c = transitiveOptionalName)
    ?_ hstart h
  intro parent hparent c hc
  rcases (mem_extendersOf_iff hmd).mp hc with ⟨h, -⟩ | ⟨h, -⟩ | ⟨p, -, -, hfrom⟩
  · exact .inl h
  · exact .inr h
  · exfalso
    rcases hfrom with rfl | ⟨q, -, rfl⟩
    · exact absurd hparent (by decide)
    · refine useName_not_mem_base q ?_
      rcases hparent with h | h
      · exact h ▸ by decide
      · exact h ▸ by decide

theorem reaches_optionalName (hmd : md.configurations = (outline now b).configurations) :
    Reaches md.extendersOf defaultName optionalName :=
  .step (.refl _) ((mem_extendersOf_iff hmd).mpr (.inl ⟨rfl, rfl⟩))

theorem reaches_transitiveOptionalName
    (hmd : md.configurations = (outline now b).configurations) :
    Reaches md.extendersOf defaultName transitiveOptionalName :=
  .step (reaches_optionalName hmd) ((mem_extendersOf_iff hmd).mpr (.inr (.inl ⟨rfl, rfl⟩)))

theorem reaches_useName (hmd : md.configurations = (outline now b).configurations) {p : String}
    (hp : b.Mentions p) : Reaches md.extendersOf defaultName (useName p) :=
  .step (.refl _) ((mem_extendersOf_iff hmd).mpr (.inr (.inr ⟨p, hp, rfl, .inl rfl⟩)))

/-- Extending the use of a package is coming to use the package: paths of one graph are paths of
the other, the other way round. -/
theorem reaches_useName_iff (hmd : md.configurations = (outline now b).configurations)
    {p q : String} : Reaches md.extendersOf (useName q) (useName p) ↔ Reaches b.usesOf p q := by
  constructor
  · intro h
    -- The induction is on the path of configurations, for whatever package its end stands for.
    generalize hname : useName p = name at h
    induction h generalizing p with
    | refl => exact useName_inj.mp hname ▸ .refl p
    | @step parent _ hpath hlast ih =>
      rcases (mem_extendersOf_iff hmd).mp hlast with ⟨h, -⟩ | ⟨h, -⟩ | ⟨p', -, h, hfrom⟩
      · exact absurd (hname.trans h ▸ by decide) (useName_not_mem_base p)
      · exact absurd (hname.trans h ▸ by decide) (useName_not_mem_base p)
      · have hp : p = p' := useName_inj.mp (hname.trans h)
        subst hp
        rcases hfrom with hdefault | ⟨q', hq', huse⟩
        · subst hdefault
          exact absurd ((reaches_defaultName_iff hmd).mp hpath) (useName_ne_defaultName q)
        · exact Reaches.head hq' (ih huse.symm)
  · intro h
    induction h with
    | refl => exact .refl _
    | step _ hlast ih =>
      refine Reaches.head ((mem_extendersOf_iff hmd).mpr (.inr (.inr ?_))) ih
      exact ⟨_, mentions_of_mem_usesOf hlast, rfl, .inr ⟨_, hlast, rfl⟩⟩

/-! ### Taking part -/

theorem activates_dependencyOf_iff {r : Requirement} {name : String} :
    md.Activates name (dependencyOf r) ↔
      r.type = packageType ∧ Reaches md.extendersOf (useName r.name) name ∨
      r.resolution ≠ optional ∧ Reaches md.extendersOf defaultName name ∨
      r.resolution = optional ∧ (Reaches md.extendersOf optionalName name ∨
        Reaches md.extendersOf transitiveOptionalName name) := by
  simp only [Descriptor.Activates, mem_masters_dependencyOf, Descriptor.mem_extendingConfigurations]
  constructor
  · rintro ⟨master, ⟨htype, rfl⟩ | ⟨hres, rfl⟩ | ⟨hres, rfl | rfl⟩, h⟩
    · exact .inl ⟨htype, h⟩
    · exact .inr (.inl ⟨hres, h⟩)
    · exact .inr (.inr ⟨hres, .inl h⟩)
    · exact .inr (.inr ⟨hres, .inr h⟩)
  · rintro (⟨htype, h⟩ | ⟨hres, h⟩ | ⟨hres, h | h⟩)
    · exact ⟨_, .inl ⟨htype, rfl⟩, h⟩
    · exact ⟨_, .inr (.inl ⟨hres, rfl⟩), h⟩
    · exact ⟨_, .inr (.inr ⟨hres, .inl rfl⟩), h⟩
    · exact ⟨_, .inr (.inr ⟨hres, .inr rfl⟩), h⟩

/-- The configurations that take part in the edge of a requirement. -/
structure TakesPart (b : Bundle) (md : ModuleDescriptor) (r : Requirement)
    (d : Dependency String Bool) : Prop where
  default_iff : md.Activates defaultName d ↔ r.resolution ≠ optional
  optional_always : md.Activates optionalName d
  transitiveOptional_always : md.Activates transitiveOptionalName d
  use_iff : ∀ p, b.Mentions p → (md.Activates (useName p) d ↔
    r.resolution ≠ optional ∨ r.type = packageType ∧ Reaches b.usesOf p r.name)

theorem takesPart_dependencyOf (hmd : md.configurations = (outline now b).configurations)
    (r : Requirement) : TakesPart b md r (dependencyOf r) := by
  have hbefore {start : String} (h : start ≠ defaultName) :
      ¬Reaches md.extendersOf start defaultName := fun hr => h ((reaches_defaultName_iff hmd).mp hr)
  refine ⟨?_, ?_, ?_, ?_⟩
  · rw [activates_dependencyOf_iff]
    constructor
    · rintro (⟨-, h⟩ | ⟨hres, -⟩ | ⟨-, h | h⟩)
      · exact absurd h (hbefore (useName_ne_defaultName r.name))
      · exact hres
      · exact absurd h (hbefore (by decide))
      · exact absurd h (hbefore (by decide))
    · intro hres
      exact .inr (.inl ⟨hres, .refl _⟩)
  · rw [activates_dependencyOf_iff]
    by_cases hres : r.resolution = optional
    · exact .inr (.inr ⟨hres, .inl (.refl _)⟩)
    · exact .inr (.inl ⟨hres, reaches_optionalName hmd⟩)
  · rw [activates_dependencyOf_iff]
    by_cases hres : r.resolution = optional
    · exact .inr (.inr ⟨hres, .inr (.refl _)⟩)
    · exact .inr (.inl ⟨hres, reaches_transitiveOptionalName hmd⟩)
  · intro p hp
    rw [activates_dependencyOf_iff, reaches_useName_iff hmd]
    constructor
    · rintro (⟨htype, h⟩ | ⟨hres, -⟩ | ⟨-, h⟩)
      · exact .inr ⟨htype, h⟩
      · exact .inl hres
      · exfalso
        have hended : useName p = optionalName ∨ useName p = transitiveOptionalName := by
          rcases h with h | h
          · exact optional_closed hmd (.inl rfl) h
          · exact optional_closed hmd (.inr rfl) h
        rcases hended with h | h
        · exact absurd (h ▸ by decide) (useName_not_mem_base p)
        · exact absurd (h ▸ by decide) (useName_not_mem_base p)
    · rintro (hres | ⟨htype, h⟩)
      · exact .inr (.inl ⟨hres, reaches_useName hmd hp⟩)
      · exact .inl ⟨htype, h⟩

/-- Alone, a bundle always has a descriptor; and whatever it is seen together with, these are the
configurations that take part in its edges. -/
theorem ofBundle_activates (now : Moment) (b : Bundle) :
    (∃ md, Descriptor.ofBundle now ⟨none, none, none⟩ b = .ok md) ∧
      ∀ context md, Descriptor.ofBundle now context b = .ok md →
        List.Forall₂ (TakesPart b md) (b.requirements.filter fun r => decide (b.NeedsEdge r))
          md.dependencies := by
  refine ⟨⟨outline now b, ofBundle_alone now b⟩, ?_⟩
  intro context md h
  obtain ⟨hconfigurations, hdependencies⟩ := configurations_and_dependencies_ofBundle h
  rw [hdependencies, dependencies_outline, filter_isExternal, List.forall₂_map_right_iff]
  exact List.forall₂_same.mpr fun r _ => takesPart_dependencyOf hconfigurations r

/-- A bundle whose exports use each other in a circle, one of them twice exported, with an optional
and a mandatory requirement of the same package outside. -/
def circular : Bundle where
  symbolicName := "circular"
  version := "1.0.0"
  exports := [⟨"a", "1.0", ⟨["b"]⟩⟩, ⟨"b", "1.0", ⟨["a", "c"]⟩⟩, ⟨"a", "2.0", ⟨["d"]⟩⟩]
  requirements := [⟨packageType, "c", none, optional⟩, ⟨packageType, "a", none, mandatory⟩,
    ⟨packageType, "c", some "[1,2)", mandatory⟩, ⟨environmentType, "JavaSE-17", none, mandatory⟩,
    ⟨packageType, "d", none, optional⟩]
  artifacts := []
  environments := []
  hasInnerClasspath := false

theorem ofBundle_activates_circular :
    ∃ md, Descriptor.ofBundle ⟨⟨2024, 1, 2⟩, 3, 4, 5, 0, some .utc⟩ ⟨none, none, none⟩ circular =
        .ok md ∧
      List.Forall₂ (TakesPart circular md)
        [⟨packageType, "c", none, optional⟩, ⟨packageType, "c", some "[1,2)", mandatory⟩,
          ⟨packageType, "d", none, optional⟩]
        md.dependencies := by
  refine ⟨_, ofBundle_alone _ circular, ?_⟩
  have hneeded : circular.requirements.filter (fun r => decide (circular.NeedsEdge r)) =
      [⟨packageType, "c", none, optional⟩, ⟨packageType, "c", some "[1,2)", mandatory⟩,
        ⟨packageType, "d", none, optional⟩] := by decide
  rw [← hneeded]
  exact (ofBundle_activates _ circular).2 _ _ (ofBundle_alone _ circular)

end Bundle

end OsgiIvy
