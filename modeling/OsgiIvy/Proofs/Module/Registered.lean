import OsgiIvy.Module.Descriptor

/-!
# Registered configurations

A configuration is registered unless its name is taken.  After any number of registrations a name
leads to the first configuration of that name (`find?_foldl_registered`), names are distinct, and so
a configuration is listed exactly if its name leads to it (`mem_iff_find?`).
-/

namespace OsgiIvy

namespace Configuration

variable {τ φ : Type} [BEq τ]

/-- Configurations with another one, unless its name is taken. -/
def registered (cs : List (Configuration τ φ)) (c : Configuration τ φ) :
    List (Configuration τ φ) :=
  if (cs.find? (·.name == c.name)).isSome then cs else cs ++ [c]

variable [LawfulBEq τ]

theorem find?_registered (cs : List (Configuration τ φ)) (c : Configuration τ φ) (name : τ) :
    (registered cs c).find? (·.name == name) = (cs ++ [c]).find? (·.name == name) := by
  rw [registered]
  split
  · next htaken =>
    rw [List.find?_append]
    by_cases hname : c.name = name
    · subst hname
      obtain ⟨first, hfirst⟩ := Option.isSome_iff_exists.mp htaken
      simp [hfirst]
    · have hother : (c.name == name) = false := by simpa using hname
      simp [hother]
  · rfl

theorem find?_foldl_registered (cs ds : List (Configuration τ φ)) (name : τ) :
    (ds.foldl registered cs).find? (·.name == name) = (cs ++ ds).find? (·.name == name) := by
  induction ds generalizing cs with
  | nil => rw [List.foldl_nil, List.append_nil]
  | cons d ds ih =>
    rw [List.foldl_cons, ih, List.find?_append, find?_registered, ← List.find?_append,
      List.append_assoc, List.singleton_append]

theorem names_registered (cs : List (Configuration τ φ)) (c : Configuration τ φ) :
    (registered cs c).map name = addNew (cs.map name) c.name := by
  have htaken : (cs.find? (·.name == c.name)).isSome = (cs.map name).contains c.name := by
    rw [Bool.eq_iff_iff, List.find?_isSome]
    simp
  rw [registered, addNew, htaken]
  split
  · rfl
  · rw [List.map_append, List.map_singleton]

theorem names_foldl_registered (cs ds : List (Configuration τ φ)) :
    (ds.foldl registered cs).map name = (ds.map name).foldl addNew (cs.map name) := by
  induction ds generalizing cs with
  | nil => rfl
  | cons d ds ih => rw [List.foldl_cons, ih, names_registered, List.map_cons, List.foldl_cons]

theorem mem_iff_find? {cs : List (Configuration τ φ)} (h : (cs.map name).Nodup)
    {c : Configuration τ φ} : c ∈ cs ↔ cs.find? (·.name == c.name) = some c := by
  constructor
  · intro hc
    induction cs with
    | nil => exact absurd hc List.not_mem_nil
    | cons d cs ih =>
      rw [List.map_cons, List.nodup_cons] at h
      rcases List.mem_cons.mp hc with rfl | hc
      · simp
      · have hne : (d.name == c.name) = false := by
          simpa using fun heq : d.name = c.name => h.1 (heq ▸ List.mem_map_of_mem hc)
        rw [List.find?_cons, hne]
        exact ih h.2 hc
  · exact List.mem_of_find?_eq_some

end Configuration

namespace Descriptor

variable {τ φ : Type} [BEq τ]

theorem ensureConfiguration_eq (d : Descriptor τ φ) (c : Configuration τ φ) :
    d.ensureConfiguration c =
      { d with configurations := Configuration.registered d.configurations c } := by
  rw [ensureConfiguration, Configuration.registered, configuration?]
  split
  · rfl
  · rfl

end Descriptor

end OsgiIvy
