import OsgiIvy.Proofs.Report.Snapshots

/-!
# Fixing again

A fixed descriptor is what it would be fixed to.  A new report on it, which is given what the old
report was given (`again`), takes configurations and edges from where the old one took them, and
finds in the descriptor the status, the information and the artifacts that were put there.  So it
gives the same descriptor, published later: `fixed_again`.
-/

namespace OsgiIvy

open OsgiIvy.Time (Moment)

namespace Report

variable {r : Report String Bool}

/-! ### Recording -/

/-- A report that differs from another one in what its configuration reports hold only. -/
def FilledFrom (base r : Report String Bool) : Prop := ∃ parts, r = { base with parts := parts }

theorem FilledFrom.dispatch {base : Report String Bool} (h : FilledFrom base r) (n : Nat) :
    FilledFrom base (r.dispatch n) := by
  apply List.foldlRecOn (motive := FilledFrom base) _ _ h
  rintro _ ⟨parts, rfl⟩ part -
  exact ⟨_, rfl⟩

/-- Nothing but dependencies, artifacts and configuration reports is recorded. -/
theorem setDependencies_frame (r : Report String Bool) (nodes : List Nat)
    (filter : Artifact String → Bool) : ∃ parts artifacts, r.setDependencies nodes filter =
      { r with dependencies := nodes, parts := parts, artifacts := artifacts } := by
  let usable := nodes.filter fun n => (r.findings.node n).isUsable
  let artifacts := usable.flatMap fun n => (r.findings.node n).selected filter
  have hfilled : FilledFrom { r with dependencies := nodes, artifacts := artifacts }
      (r.setDependencies nodes filter) := by
    apply List.foldlRecOn (motive := FilledFrom _) _ _ ⟨r.parts, rfl⟩
    exact fun s hs n _ => hs.dispatch n
  obtain ⟨parts, hparts⟩ := hfilled
  exact ⟨parts, artifacts, hparts⟩

theorem foldl_register (r : Report String Bool) (es : List (String × Nat)) :
    es.foldl (fun r e => r.register e.1 e.2) r =
      { r with registered := es.foldl (fun m e => m.put e.1 e.2) r.registered } := by
  induction es generalizing r with
  | nil => rfl
  | cons e es ih =>
    rw [List.foldl_cons, ih]
    rfl

/-- A new report on a descriptor that is given the configuration reports of another report, in the
same order, and its dependencies. -/
def again (r : Report String Bool) (d : ModuleDescriptor) (resolveId : Option String)
    (separator : String) (filter : Artifact String → Bool) : Report String Bool :=
  let fresh := { Report.empty d resolveId separator r.findings with parts := r.parts }
  (r.registered.entries.foldl (fun s e => s.register e.1 e.2) fresh).setDependencies
    r.dependencies filter

/-- What a fixed descriptor is made of is the same in both reports, but for the descriptor. -/
structure SameRun (r s : Report String Bool) : Prop where
  findings : s.findings = r.findings
  registered : s.registered = r.registered
  dependencies : s.dependencies = r.dependencies

section Again

variable (d : ModuleDescriptor) (resolveId : Option String) (separator : String)
  (filter : Artifact String → Bool)

theorem descriptor_again : (r.again d resolveId separator filter).descriptor = d := by
  obtain ⟨parts, artifacts, hframe⟩ := setDependencies_frame _ r.dependencies filter
  rw [again, hframe, foldl_register]
  rfl

theorem sameRun_again (h : r.registered.IsMapping) :
    SameRun r (r.again d resolveId separator filter) := by
  obtain ⟨parts, artifacts, hframe⟩ := setDependencies_frame _ r.dependencies filter
  have hregistered : r.registered.entries.foldl (fun m e => m.put e.1 e.2) {} = r.registered :=
    h.ofList_entries
  rw [again, hframe, foldl_register]
  exact ⟨rfl, hregistered, rfl⟩

end Again

/-! ### Fixing -/

/-- The status of a fixed descriptor: a module without one has that of the settings. -/
def fixedStatus (settings : Settings) (status : String) : String :=
  if status = "" then settings.status else status

theorem fixedStatus_fixedStatus (settings : Settings) (status : String) :
    fixedStatus settings (fixedStatus settings status) = fixedStatus settings status := by
  unfold fixedStatus
  by_cases h : status = ""
  · simp only [h, if_true, ite_self]
  · simp only [h, if_false]

theorem fixed_eq (h : r.registered.IsMapping) (now : Moment) (settings : Settings)
    (keep : List (ModuleId String)) : r.fixed now settings keep =
      { revision := r.descriptor.revision
        status := fixedStatus settings r.descriptor.status
        publicationDate := some now
        description := r.descriptor.description
        homePage := r.descriptor.homePage
        extraInfos := r.descriptor.extraInfos
        namespaces := r.descriptor.namespaces
        dependencies := r.dependencies.filterMap fun n => fixedEdge? keep (r.findings.node n)
        excludeRules := []
        configurations := plainConfigurations r.registered.keys
        artifacts := ⟨r.descriptor.bindings r.registered.keys⟩ } := by
  have hstatus : (if Field.isEmpty r.descriptor.status then Field.ofText settings.status
      else r.descriptor.status) = fixedStatus settings r.descriptor.status := by
    simp only [fixedStatus, Field.isEmpty, Field.ofText, beq_iff_eq]
  have hartifacts := artifacts_fixed h now settings keep
  rw [fixed, bindArtifacts_frame] at hartifacts ⊢
  simp only [Descriptor.empty, hstatus] at hartifacts ⊢
  congr 1
  exact congrArg Assoc.mk hartifacts

/-- A fixed descriptor has, for each of its configurations, the artifacts that the module has. -/
theorem bindings_fixed (h : r.registered.IsMapping) (now : Moment) (settings : Settings)
    (keep : List (ModuleId String)) :
    (r.fixed now settings keep).bindings r.registered.keys =
      r.descriptor.bindings r.registered.keys := by
  apply List.flatMap_congr
  intro name hname
  have hfound : (r.fixed now settings keep).artifactsOf name = r.descriptor.artifactsOf name := by
    rw [Descriptor.artifactsOf, Assoc.getD, Assoc.get?, artifacts_fixed h]
    exact r.descriptor.lookup_bindings hname
  rw [hfound]

/-- Fixing a fixed descriptor again makes no difference but to its date. -/
theorem fixed_again (h : r.registered.IsMapping) (now later : Moment) (settings : Settings)
    (keep : List (ModuleId String)) (resolveId : Option String) (separator : String)
    (filter : Artifact String → Bool) :
    (r.again (r.fixed now settings keep) resolveId separator filter).fixed later settings keep =
      { r.fixed now settings keep with publicationDate := some later } := by
  obtain ⟨hfindings, hregistered, hdependencies⟩ :=
    sameRun_again (r.fixed now settings keep) resolveId separator filter h
  have hmapping : (r.again (r.fixed now settings keep) resolveId separator
      filter).registered.IsMapping := hregistered ▸ h
  have hstatus : fixedStatus settings (r.fixed now settings keep).status =
      (r.fixed now settings keep).status := by
    rw [fixed_eq h]
    exact fixedStatus_fixedStatus settings r.descriptor.status
  rw [fixed_eq hmapping, descriptor_again, hfindings, hregistered, hdependencies, hstatus,
    bindings_fixed h, fixed_eq h]

/-- The contested dependency of a module that has no status of its own. -/
def unstated : Report String Bool :=
  { contestedReport with descriptor := { contestedReport.descriptor with status := "" } }

theorem fixed_again_unstated :
    ∃ once : ModuleDescriptor,
      once = unstated.fixed ⟨⟨2024, 1, 2⟩, 3, 4, 5, 0, some .utc⟩ { status := "release" }
        [⟨"org", "log"⟩] ∧
      unstated.registered.IsMapping ∧ once.status = "release" ∧ once.artifacts.keys = ["test"] ∧
      (unstated.again once none "-" fun _ => true).fixed ⟨⟨2024, 1, 3⟩, 4, 5, 6, 0, some .utc⟩
          { status := "release" } [⟨"org", "log"⟩] =
        { once with publicationDate := some ⟨⟨2024, 1, 3⟩, 4, 5, 6, 0, some .utc⟩ } := by
  have hmapping : unstated.registered.IsMapping := isProper_contestedReport.registered
  refine ⟨_, rfl, hmapping, rfl, rfl, ?_⟩
  exact fixed_again hmapping _ _ _ _ _ _ _

end Report

end OsgiIvy
