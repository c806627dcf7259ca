import Mathlib.Data.List.Induction
import OsgiIvy.Proofs.Mappings
import OsgiIvy.Report.Configuration

/-!
# What a configuration report records

A configuration report is filled step by step, while nodes may be evicted and downloads end.  What
it records depends on the steps alone: its nodes stand in the order in which they were first
reached, each with its downloads in the order of recording (`downloads_ofHistory`).

Without what was evicted, the downloads are those of artifacts whose module revision no evicted node
was resolved to.  That need not be the downloads of the nodes that were not evicted:
`artifactReports_ofHistory` says when it is.
-/

namespace OsgiIvy

namespace ConfigurationReport

/-! ### Steps -/

/-- The node that a step adds. -/
def Step.subject : Step → Nat
  | .node n => n
  | .download n _ => n

def Step.downloadUnder (n : Nat) : Step → Option Nat
  | .node _ => none
  | .download m d => if m = n then some d else none

/-- The nodes of the steps, each once. -/
def reached (steps : List Step) : List Nat := distinct (steps.map Step.subject)

def downloadsUnder (n : Nat) (steps : List Step) : List Nat :=
  steps.filterMap (Step.downloadUnder n)

/-- The downloads of the steps with the nodes they were recorded under, node by node. -/
def recorded (steps : List Step) : List (Nat × Nat) :=
  (reached steps).flatMap fun n => (downloadsUnder n steps).map (n, ·)

theorem reached_append (steps : List Step) (s : Step) :
    reached (steps ++ [s]) = addNew (reached steps) s.subject := by
  rw [reached, List.map_append, distinct, List.foldl_append]
  rfl

theorem nodup_reached (steps : List Step) : (reached steps).Nodup := nodup_distinct _

theorem downloadsUnder_append (n : Nat) (steps : List Step) (s : Step) :
    downloadsUnder n (steps ++ [s]) = downloadsUnder n steps ++ (s.downloadUnder n).toList := by
  rw [downloadsUnder, List.filterMap_append]
  cases h : s.downloadUnder n with
  | none => simp [downloadsUnder, h]
  | some d => simp [downloadsUnder, h]

theorem downloadsUnder_of_not_reached {n : Nat} {steps : List Step} (h : n ∉ reached steps) :
    downloadsUnder n steps = [] := by
  rw [downloadsUnder, List.filterMap_eq_nil_iff]
  intro s hs
  have hne : s.subject ≠ n := by
    rintro rfl
    exact h (mem_distinct.mpr (List.mem_map_of_mem hs))
  cases s with
  | node m => rfl
  | download m d => exact if_neg hne

/-! ### Filling -/

/-- The table of downloads that the steps make. -/
def table (steps : List Step) : List (Nat × List Nat) :=
  (reached steps).map fun n => (n, downloadsUnder n steps)

theorem flatMap_table (steps : List Step) :
    (table steps).flatMap Prod.snd = (recorded steps).map Prod.snd := by
  rw [table, recorded, List.flatMap_map, List.map_flatMap]
  refine congrArg (List.flatMap · (reached steps)) (funext fun n => ?_)
  rw [List.map_map]
  exact (List.map_id _).symm

section Filling

variable {τ : Type} [BEq τ]

theorem downloads_addNode {r : ConfigurationReport τ} {steps : List Step}
    (h : r.downloads.entries = table steps) (x : Findings τ) (n : Nat) :
    (r.addNode x n).downloads.entries =
      (addNew (reached steps) n).map fun j => (j, downloadsUnder j steps) := by
  have hentries : (r.addNode x n).downloads.entries =
      Assoc.alterEntries n (fun old => old.getD []) r.downloads.entries := rfl
  have htable := Assoc.alterEntries_table (k := n) (f := fun j => downloadsUnder j steps)
    (nodup_reached steps) downloadsUnder_of_not_reached id
  rw [hentries, h]
  refine htable.trans (List.map_congr_left fun j _ => ?_)
  by_cases hj : j = n
  · simp [hj]
  · simp [hj]

/-- A step adds its node and its download to the table, whatever the nodes are like at the time. -/
theorem downloads_add {r : ConfigurationReport τ} {steps : List Step}
    (h : r.downloads.entries = table steps) (x : Findings τ) (s : Step) :
    (r.add x s).downloads.entries = table (steps ++ [s]) := by
  rw [table, reached_append]
  cases s with
  | node n =>
    refine (downloads_addNode h x n).trans (List.map_congr_left fun j _ => ?_)
    rw [downloadsUnder_append]
    exact congrArg (Prod.mk j) (List.append_nil _).symm
  | download n d =>
    have hentries : (r.add x (.download n d)).downloads.entries =
        Assoc.alterEntries n (fun old => old.getD [] ++ [d])
          (r.addNode x n).downloads.entries := rfl
    have hmem : n ∈ addNew (reached steps) n := mem_addNew.mpr (.inr rfl)
    have hnodup := nodup_addNew (nodup_reached steps) n
    rw [hentries, downloads_addNode h x n, Assoc.alterEntries_table_of_mem hnodup hmem]
    refine List.map_congr_left fun j _ => ?_
    rw [downloadsUnder_append]
    by_cases hj : j = n
    · simp [hj, Step.downloadUnder]
    · simp [hj, Step.downloadUnder, Ne.symm hj]

/-- The report on a configuration that steps fill, each with the nodes as they are at the time. -/
def ofHistory (configuration : τ) (history : List (Findings τ × Step)) : ConfigurationReport τ :=
  history.foldl (fun r s => r.add s.1 s.2) (empty configuration)

theorem ofSteps_eq_ofHistory (x : Findings τ) (configuration : τ) (steps : List Step) :
    ofSteps x configuration steps = ofHistory configuration (steps.map (x, ·)) := by
  rw [ofSteps, ofHistory, List.foldl_map]

variable (configuration : τ) (history : List (Findings τ × Step))

theorem downloads_ofHistory :
    (ofHistory configuration history).downloads.entries = table (history.map Prod.snd) := by
  induction history using List.reverseRecOn with
  | nil => rfl
  | append_singleton history s ih =>
    rw [ofHistory, List.foldl_append, List.map_append]
    exact downloads_add ih s.1 s.2

theorem nodes_ofHistory :
    (ofHistory configuration history).nodes = reached (history.map Prod.snd) := by
  rw [nodes, Assoc.keys, downloads_ofHistory, table, List.map_map]
  exact List.map_id _

theorem configuration_ofHistory :
    (ofHistory configuration history).configuration = configuration := by
  refine List.foldlRecOn (motive := fun r : ConfigurationReport τ =>
    r.configuration = configuration) _ _ rfl ?_
  rintro r hr ⟨x, s⟩ -
  cases s with
  | node n => exact hr
  | download n d => exact hr

end Filling

/-! ### Leaving out what was evicted -/

/-- A choice of pairs that goes by their second parts leaves the same second parts as another choice
exactly when it is the same choice. -/
theorem map_filter_eq_map_filter_iff {α β : Type} [DecidableEq β] {ps : List (α × β)}
    {p q : α × β → Bool} (hp : ∀ e ∈ ps, ∀ f ∈ ps, e.2 = f.2 → p e = p f) :
    (ps.filter p).map Prod.snd = (ps.filter q).map Prod.snd ↔ ∀ e ∈ ps, p e = q e := by
  constructor
  · intro h e he
    -- Among the pairs with the second part of `e` the first choice takes all or none, and the
    -- second as many.
    let like := ps.filter fun f => f.2 = e.2
    have hlike : ∀ f ∈ like, p f = p e := by
      intro f hf
      obtain ⟨hfps, hfe⟩ := List.mem_filter.mp hf
      exact hp f hfps e he (of_decide_eq_true hfe)
    have hmem : e ∈ like := List.mem_filter.mpr ⟨he, decide_eq_true rfl⟩
    have hlength : (like.filter p).length = (like.filter q).length := by
      have hcount := congrArg (fun bs => (bs.filter fun b => decide (b = e.2)).length) h
      simp only [List.filter_map, List.length_map, List.filter_filter, Function.comp_apply]
        at hcount
      simpa only [like, List.filter_filter, Bool.and_comm] using hcount
    cases hpe : p e with
    | true =>
      have hall : like.filter p = like :=
        List.filter_eq_self.mpr fun f hf => (hlike f hf).trans hpe
      rw [hall] at hlength
      exact (List.length_filter_eq_length_iff.mp hlength.symm e hmem).symm
    | false =>
      have hnone : like.filter p = [] :=
        List.filter_eq_nil_iff.mpr fun f hf => by simp [hlike f hf, hpe]
      rw [hnone, List.length_nil] at hlength
      have hempty := List.eq_nil_of_length_eq_zero hlength.symm
      simpa using (List.filter_eq_nil_iff.mp hempty e hmem)
  · intro h
    rw [List.filter_congr h]

section Evicted

variable (x : Findings String)

/-- The downloads with a status that are not passed over, with the nodes that they were recorded
under. -/
def keptUnless (passed : Nat × Nat → Bool) (status : Option DownloadStatus) (steps : List Step) :
    List Nat :=
  ((recorded steps).filter fun p =>
    (status.all fun s => (x.download p.2).status == s) && !passed p).map Prod.snd

/-- The download was recorded under a node that was evicted in the configuration. -/
def isUnderEvicted (configuration : String) (p : Nat × Nat) : Bool :=
  (x.node p.1).isEvicted configuration

/-- The download is of an artifact of a revision to which a node was resolved that was evicted in
the configuration. -/
def isOfEvictedRevision (configuration : String) (steps : List Step) (p : Nat × Nat) : Bool :=
  (reached steps).any fun n =>
    (x.node n).isEvicted configuration && (x.download p.2).artifact.revision == (x.node n).resolved

theorem isOfEvicted_ofHistory (configuration : String) (history : List (Findings String × Step))
    (p : Nat × Nat) : (ofHistory configuration history).isOfEvicted x p.2 =
      isOfEvictedRevision x configuration (history.map Prod.snd) p := by
  rw [isOfEvicted, evicted, nodes_ofHistory, configuration_ofHistory, List.contains_eq_any_beq,
    List.any_map, List.any_filter, isOfEvictedRevision]
  rfl

theorem artifactReports_withoutEvicted (configuration : String)
    (history : List (Findings String × Step)) (status : Option DownloadStatus) :
    (ofHistory configuration history).artifactReports x status false =
      keptUnless x (isOfEvictedRevision x configuration (history.map Prod.snd)) status
        (history.map Prod.snd) := by
  rw [artifactReports, downloads_ofHistory, flatMap_table, List.filter_map, keptUnless]
  refine congrArg (List.map Prod.snd) (List.filter_congr fun p _ => ?_)
  rw [Function.comp_apply, Bool.false_or, isOfEvicted_ofHistory]

end Evicted

/-- Without what was evicted, the downloads are those, in order, whose artifacts are not of a
revision to which an evicted node was resolved.  They are the downloads of the nodes that were not
evicted, for every status, exactly when each download under an evicted node is of such a revision
and no other is. -/
theorem artifactReports_ofHistory (configuration : String)
    (history : List (Findings String × Step)) (x : Findings String) :
    (∀ status, (ofHistory configuration history).artifactReports x status false =
        keptUnless x (isOfEvictedRevision x configuration (history.map Prod.snd)) status
          (history.map Prod.snd)) ∧
      ((∀ status, (ofHistory configuration history).artifactReports x status false =
          keptUnless x (isUnderEvicted x configuration) status (history.map Prod.snd)) ↔
        ∀ p ∈ recorded (history.map Prod.snd), isUnderEvicted x configuration p =
          isOfEvictedRevision x configuration (history.map Prod.snd) p) := by
  have hkept := artifactReports_withoutEvicted x configuration history
  refine ⟨hkept, ?_, ?_⟩
  · intro h p hp
    have hall := (hkept none).symm.trans (h none)
    have hchoice := (map_filter_eq_map_filter_iff ?_).mp hall p hp
    · simpa using hchoice.symm
    · intro e _ f _ hef
      simp only [isOfEvictedRevision, hef]
  · intro h status
    rw [hkept, keptUnless, keptUnless]
    refine congrArg (List.map Prod.snd) (List.filter_congr fun p hp => ?_)
    rw [h p hp]

/-- Two requests that were resolved to one revision, the first of which was evicted, and a download
of an artifact of that revision. -/
def overlapping : Findings String :=
  let revision : RevisionId String := ⟨"org", "lib", none, some "1"⟩
  let ranged : Node String :=
    { Node.bare ⟨"org", "lib", none, some "[1,2)"⟩ with
      resolved := revision, roots := ["default"], evictedIn := ["default"] }
  let exact : Node String := { Node.bare revision with roots := ["default"] }
  ⟨fun n => if n = 0 then ranged else exact,
    fun _ => ⟨⟨revision, some "lib", some "jar", some "jar", none, {}⟩, .present⟩⟩

theorem artifactReports_overlapping :
    (ofSteps overlapping "default" [.node 0, .download 1 0]).artifactReports overlapping none
        false = [] ∧
      keptUnless overlapping (isUnderEvicted overlapping "default") none
        [.node 0, .download 1 0] = [0] := by
  decide

end ConfigurationReport

end OsgiIvy
