import Mathlib.Logic.Relation
import OsgiIvy.Proofs.Reachability

/-!
# Configurations that come to extend another

Whether a configuration takes over what another one holds is a matter of steps from a registered
configuration to one that it extends, whatever circles the steps make and whether or not they end at
a registered one.  The walk from a name sees exactly the configurations from which steps lead to it
(`extendingConfigurations_walks`).
-/

namespace OsgiIvy.Descriptor

open Relation

variable {d : ModuleDescriptor} {name parent start : String}

/-- A step of extending: a configuration is registered under the name and extends the parent, which
need not be registered. -/
def Extends (d : ModuleDescriptor) (name parent : String) : Prop :=
  ∃ c ∈ d.configurations, c.name = name ∧ parent ∈ c.parents

theorem Extends.registered (h : d.Extends name parent) : name ∈ d.configurationNames := by
  obtain ⟨c, hc, rfl, -⟩ := h
  exact List.mem_map_of_mem hc

theorem mem_extendersOf_iff_extends : name ∈ d.extendersOf parent ↔ d.Extends name parent :=
  mem_extendersOf

/-- Every configuration on the way to another one is registered, the first one included. -/
theorem registered_of_transGen (h : TransGen d.Extends name start) :
    name ∈ d.configurationNames := by
  obtain ⟨_, hfirst, -⟩ := TransGen.head'_iff.mp h
  exact hfirst.registered

/-- Paths of the walk are those of extending, the other way round. -/
theorem reaches_extendersOf_iff :
    Reaches d.extendersOf start name ↔ ReflTransGen d.Extends name start := by
  constructor
  · intro h
    induction h with
    | refl => exact .refl
    | step _ hlast ih => exact .head (mem_extendersOf_iff_extends.mp hlast) ih
  · intro h
    induction h using ReflTransGen.head_induction_on with
    | refl => exact .refl start
    | head hfirst _ ih => exact .step ih (mem_extendersOf_iff_extends.mpr hfirst)

/-- The walk ends of itself, whatever extends what, and sees each name once: the one that it starts
from, and those of the registered configurations from which one or more steps of extending lead
there. -/
theorem extendingConfigurations_walks (d : ModuleDescriptor) (start : String) :
    (∀ seen, Walks d.extendersOf [] [start] seen ↔ seen = d.extendingConfigurations start) ∧
      (d.extendingConfigurations start).Nodup ∧
      ∀ name, name ∈ d.extendingConfigurations start ↔
        name = start ∨ name ∈ d.configurationNames ∧ TransGen d.Extends name start := by
  have hwalks : Walks d.extendersOf [] [start] (d.extendingConfigurations start) :=
    walks_reachedFrom (fun _ => mem_extendedNames_of_extendersOf) start
  refine ⟨?_, hwalks.nodup List.nodup_nil, ?_⟩
  · intro seen
    constructor
    · exact hwalks.unique
    · rintro rfl
      exact hwalks
  · intro name
    rw [mem_extendingConfigurations, reaches_extendersOf_iff, reflTransGen_iff_eq_or_transGen,
      eq_comm]
    refine or_congr Iff.rfl ?_
    exact ⟨fun h => ⟨registered_of_transGen h, h⟩, And.right⟩

/-- Two configurations that extend each other, one of them itself as well, and a third that extends
one of them and one that is not there. -/
example :
    let named (name : String) (parents : List String) : Configuration String Bool :=
      { Configuration.named name with parents := parents }
    let d : ModuleDescriptor :=
      { (Descriptor.empty ⟨"org", "app", none, none⟩ "" : ModuleDescriptor) with
        configurations := [named "a" ["b", "a"], named "b" ["a"], named "c" ["b", "lost"]] }
    d.extendingConfigurations "a" = ["a", "b", "c"] ∧
      d.extendingConfigurations "lost" = ["lost", "c"] := by
  decide

end OsgiIvy.Descriptor
