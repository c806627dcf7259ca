import Mathlib.Data.List.Perm.Basic
import OsgiIvy.Proofs.Repetitions
import OsgiIvy.Report.Basic

/-!
# Lines about problems

A report lists each unresolved node and each failed download once, whatever the number of its parts
that list it.  The lines about them are written part by part, so that a node or download which is
listed twice has two lines: `allProblems_once_iff`.  Whether there is an error at all can be seen
from the parts, from the lists of the whole and from the lines alike: `hasError_views`.
-/

namespace OsgiIvy.Report

variable (r : Report String Bool)

/-! ### What the parts list -/

/-- The unresolved nodes, part by part. -/
def listedUnresolved : List Nat := r.registeredParts.flatMap (·.unresolved r.findings)

/-- The failed downloads, part by part. -/
def listedFailed : List Nat := r.registeredParts.flatMap (·.failed r.findings)

theorem unresolved_eq_distinct : r.unresolved = distinct r.listedUnresolved := rfl

/-- It makes no difference whether merged artifacts are left out of the parts or of the whole. -/
theorem failed_eq_distinct : r.failed = distinct r.listedFailed := by
  have hparts : ∀ cs : List (ConfigurationReport String),
      (cs.flatMap fun c => c.artifactReports r.findings (some .failed) true).filter
          (fun d => !(r.findings.download d).artifact.isMerged) =
        cs.flatMap (·.failed r.findings) := by
    intro cs
    rw [List.filter_flatMap]
    rfl
  rw [failed, ConfigurationReport.withoutMerged, artifactReports, filter_distinct, hparts,
    listedFailed]

/-! ### Lines -/

/-- One line for each of the nodes and one for each of the downloads. -/
def linesAbout (nodes downloads : List Nat) : List String :=
  nodes.map (fun n => unresolvedMessage (r.findings.node n)) ++
    downloads.map fun d => failureMessage (r.findings.download d)

theorem length_linesAbout (nodes downloads : List Nat) :
    (r.linesAbout nodes downloads).length = nodes.length + downloads.length := by
  rw [linesAbout, List.length_append, List.length_map, List.length_map]

theorem flatMap_partMessages_perm :
    (r.registeredParts.flatMap (partMessages r.findings)).Perm
      (r.linesAbout r.listedUnresolved r.listedFailed) := by
  rw [linesAbout, listedUnresolved, listedFailed, List.map_flatMap, List.map_flatMap]
  exact (List.flatMap_append_perm r.registeredParts _ _).symm

/-- The explicit problems and then, in some order, the given lines. -/
def ListsProblems (lines : List String) : Prop :=
  ∃ rest, r.allProblems = r.problems ++ rest ∧ rest.Perm lines

theorem listsProblems_linesAbout :
    r.ListsProblems (r.linesAbout r.listedUnresolved r.listedFailed) :=
  ⟨_, rfl, r.flatMap_partMessages_perm⟩

theorem ListsProblems.length_eq {r : Report String Bool} {lines : List String}
    (h : r.ListsProblems lines) : r.allProblems.length = r.problems.length + lines.length := by
  obtain ⟨rest, hall, hperm⟩ := h
  rw [hall, List.length_append, hperm.length_eq]

theorem length_allProblems_eq_iff :
    r.allProblems.length = r.problems.length + r.unresolved.length + r.failed.length ↔
      r.listedUnresolved.Nodup ∧ r.listedFailed.Nodup := by
  have hunresolved := (distinct_sublist r.listedUnresolved).length_le
  have hfailed := (distinct_sublist r.listedFailed).length_le
  rw [r.listsProblems_linesAbout.length_eq, length_linesAbout, unresolved_eq_distinct,
    failed_eq_distinct, ← length_distinct_eq_iff, ← length_distinct_eq_iff]
  omega

/-- All problems are the explicit ones and a line for each time that a part lists an unresolved node
or a failed download.  They are one line for each such node and download exactly if none is listed
twice, and only then do they number as many. -/
theorem allProblems_once_iff (r : Report String Bool) :
    r.ListsProblems (r.linesAbout r.listedUnresolved r.listedFailed) ∧
    (r.ListsProblems (r.linesAbout r.unresolved r.failed) ↔
      r.listedUnresolved.Nodup ∧ r.listedFailed.Nodup) ∧
    (r.allProblems.length = r.problems.length + r.unresolved.length + r.failed.length ↔
      r.listedUnresolved.Nodup ∧ r.listedFailed.Nodup) := by
  refine ⟨r.listsProblems_linesAbout, ⟨?_, ?_⟩, r.length_allProblems_eq_iff⟩
  · intro h
    rw [← r.length_allProblems_eq_iff, h.length_eq, length_linesAbout, Nat.add_assoc]
  · rintro ⟨hunresolved, hfailed⟩
    rw [unresolved_eq_distinct, failed_eq_distinct, distinct_of_nodup hunresolved,
      distinct_of_nodup hfailed]
    exact r.listsProblems_linesAbout

/-- A node that was not resolved, reached through two configurations. -/
def twiceUnresolved : Report String Bool :=
  let app : ModuleDescriptor := Descriptor.empty ⟨"org", "app", none, some "1"⟩ "integration"
  let util : Node String :=
    { Node.bare ⟨"org", "util", none, some "3.0"⟩ with
      roots := ["default", "optional"], problem := "not found" }
  let jar : Artifact String := ⟨util.resolved, some "util", some "jar", some "jar", none, {}⟩
  let parts := ((Report.empty app none "-" ⟨fun _ => util, fun _ => ⟨jar, .present⟩⟩).addPart
    "default").addPart "optional"
  ((parts.register "default" 0).register "optional" 1).setDependencies [0] fun _ => true

theorem allProblems_twiceUnresolved :
    twiceUnresolved.unresolved = [0] ∧ twiceUnresolved.failed = [] ∧
      twiceUnresolved.problems = [] ∧
      twiceUnresolved.allProblems =
        ["unresolved dependency: org#util;3.0: not found",
          "unresolved dependency: org#util;3.0: not found"] ∧
      twiceUnresolved.allProblems.length ≠ twiceUnresolved.problems.length +
        twiceUnresolved.unresolved.length + twiceUnresolved.failed.length := by
  decide

/-! ### Errors -/

/-- A report has an error exactly if one of its parts lists a node or a download. -/
theorem hasError_iff_listed :
    r.hasError = true ↔ r.listedUnresolved ≠ [] ∨ r.listedFailed ≠ [] := by
  have hlisted : ∀ list : ConfigurationReport String → List Nat,
      r.registeredParts.flatMap list ≠ [] ↔ ∃ c ∈ r.registeredParts, list c ≠ [] := by
    intro list
    simp [List.flatMap_eq_nil_iff]
  rw [listedUnresolved, listedFailed, hlisted, hlisted, ← exists_or, hasError, List.any_eq_true]
  refine exists_congr fun c => ?_
  rw [← and_or_left]
  refine and_congr_right fun _ => ?_
  simp [ConfigurationReport.hasError]

/-- There are more problems than the explicit ones exactly if a part lists a node or a download. -/
theorem length_problems_lt_iff_listed : r.problems.length < r.allProblems.length ↔
    r.listedUnresolved ≠ [] ∨ r.listedFailed ≠ [] := by
  rw [r.listsProblems_linesAbout.length_eq, length_linesAbout, ← List.length_pos_iff,
    ← List.length_pos_iff]
  omega

/-- A report has an error exactly if it has an unresolved node or a failed download, and exactly if
there are problems besides the explicit ones.  Its failed downloads are those of its parts, part by
part, each where it is first listed. -/
theorem hasError_views (r : Report String Bool) :
    (r.hasError = true ↔ r.unresolved ≠ [] ∨ r.failed ≠ []) ∧
    (r.hasError = true ↔ r.problems.length < r.allProblems.length) ∧
    r.failed = distinct (r.registeredParts.flatMap (·.failed r.findings)) := by
  refine ⟨?_, ?_, r.failed_eq_distinct⟩
  · rw [r.hasError_iff_listed, unresolved_eq_distinct, failed_eq_distinct,
      distinct_eq_nil_iff.ne, distinct_eq_nil_iff.ne]
  · rw [r.hasError_iff_listed, r.length_problems_lt_iff_listed]

end OsgiIvy.Report
