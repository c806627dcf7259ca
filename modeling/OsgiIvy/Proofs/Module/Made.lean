import OsgiIvy.Proofs.Module.Edited
import OsgiIvy.Proofs.Module.Tidy

/-!
# Descriptors that were made

A descriptor is new or was read from a snapshot, and has been edited since: `Descriptor.IsMade`.
Such a descriptor has each configuration, key and route once, whatever its date is
(`isProper_undated`).
-/

namespace OsgiIvy

open OsgiIvy.Time (Moment)

namespace Descriptor

/-- A descriptor that has not been edited: a new one, or one of texts and truth values that was
read. -/
inductive IsOrigin : ModuleDescriptor → Prop
  | fresh (revision : RevisionId String) (status : String) (date : Option Moment) :
    IsOrigin (Descriptor.fresh revision status date)
  | read {v : Value} {d : ModuleDescriptor} (h : Snapshot.ofValue v = .ok (d.stored id)) :
    IsOrigin d

/-- What a sequence of edits makes of a new descriptor or of one that was read.  The date may have
been set to any other. -/
def IsMade (d : ModuleDescriptor) : Prop :=
  ∃ origin es date, IsOrigin origin ∧ (∀ e ∈ es, Edit.IsProper e) ∧
    { origin.edits es with publicationDate := date } = d

theorem IsOrigin.isMade_edits {origin : ModuleDescriptor} (h : origin.IsOrigin)
    {es : List (Edit String Bool)} (hes : ∀ e ∈ es, e.IsProper) : (origin.edits es).IsMade :=
  ⟨origin, es, (origin.edits es).publicationDate, h, hes, rfl⟩

end Descriptor

namespace Snapshot

open Descriptor (Edit)

variable {d : ModuleDescriptor}

/-! ### The date -/

/-- The date makes no difference to an edit. -/
theorem edit_undated (d : ModuleDescriptor) (e : Edit String Bool) :
    (undated d).edit e = (d.edit e).map undated := by
  cases e with
  | addConfiguration c =>
    show (undated d).addConfiguration c = (d.addConfiguration c).map undated
    have hsame : (undated d).configuration? c.name = d.configuration? c.name := rfl
    rw [Descriptor.addConfiguration, Descriptor.addConfiguration, hsame]
    cases d.configuration? c.name with
    | none => rfl
    | some registered =>
      simp only
      split <;> rfl
  | ensureConfiguration c =>
    refine congrArg Except.ok ?_
    rw [Descriptor.ensureConfiguration_eq, Descriptor.ensureConfiguration_eq]
    rfl
  | addArtifact | addDependency | addRoute | addExcludeRule | restrictRule | addExtraInfo
  | addNamespace | setStatus | setDescription | setHomePage => rfl

theorem edits_undated (d : ModuleDescriptor) (es : List (Edit String Bool)) :
    (undated d).edits es = undated (d.edits es) := by
  refine List.foldl_hom undated fun d e => ?_
  rw [edit_undated]
  cases d.edit e <;> rfl

theorem isProper_of_isTidy (h : d.IsTidy) : IsProper (undated d) where
  configurations := h.configurations.imp fun hab => beq_eq_false_iff_ne.mp hab
  namespaces := apart_iff_nodup.mp h.namespaces
  attributes e he a ha := apart_iff_nodup.mp (h.attributes e he a ha)
  routes e he := Dependency.hasApartRoutes_iff.mp (h.routes e he)
  date := nofun

theorem isProper_of_isOrigin (h : d.IsOrigin) : IsProper (undated d) := by
  cases h with
  | fresh revision status date => exact isProper_fresh revision status nofun
  | read h => exact isProper_of_isTidy (isTidy_of_stored (isTidy_of_ofValue h))

theorem isProper_undated (h : d.IsMade) : IsProper (undated d) := by
  obtain ⟨origin, es, date, horigin, hes, rfl⟩ := h
  have hproper := (isProper_of_isOrigin horigin).edits hes
  rw [edits_undated] at hproper
  exact hproper

end Snapshot

end OsgiIvy
