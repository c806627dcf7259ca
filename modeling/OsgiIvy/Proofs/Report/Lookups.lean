import OsgiIvy.Proofs.Grouping
import OsgiIvy.Proofs.Report.Recorded

/-!
# Looking up what was recorded

A configuration report finds a node by the revisions that it had when it was last added, and lists
its downloads under the node itself.  The two never part: a node that is found is listed, so that a
look-up of downloads always has an answer (`lookups_ofHistory`).
-/

namespace OsgiIvy

namespace ConfigurationReport

variable {τ : Type}

/-- The download that a step records. -/
def Step.download? : Step → Option Nat
  | .node _ => none
  | .download _ d => some d

/-- The node that a step adds has a revision at the time, requested or chosen. -/
def isFoundBy [BEq τ] (m : RevisionId τ) (s : Findings τ × Step) : Bool :=
  (s.1.node s.2.subject).requested == m || (s.1.node s.2.subject).resolved == m

/-- The node of the last step that added one with the revision. -/
def lastAdded [BEq τ] (history : List (Findings τ × Step)) (m : RevisionId τ) : Option Nat :=
  (history.reverse.find? (isFoundBy m)).map fun s => s.2.subject

/-! ### Nodes -/

section Nodes

variable [BEq τ] [LawfulBEq τ] (configuration : τ) (history : List (Findings τ × Step))

omit [LawfulBEq τ] in
theorem byRevision_add (x : Findings τ) (r : ConfigurationReport τ) (s : Step) :
    (r.add x s).byRevision =
      (r.byRevision.put (x.node s.subject).requested s.subject).put
        (x.node s.subject).resolved s.subject := by
  cases s with
  | node n => rfl
  | download n d => rfl

theorem node?_add (x : Findings τ) (r : ConfigurationReport τ) (s : Step) (m : RevisionId τ) :
    (r.add x s).node? m = if isFoundBy m (x, s) then some s.subject else r.node? m := by
  rw [node?, byRevision_add, isFoundBy]
  by_cases hresolved : (x.node s.subject).resolved = m
  · rw [hresolved, Assoc.get?_put_self]
    simp
  · rw [Assoc.get?_put_of_ne _ (Ne.symm hresolved)]
    by_cases hrequested : (x.node s.subject).requested = m
    · rw [hrequested, Assoc.get?_put_self]
      simp
    · rw [Assoc.get?_put_of_ne _ (Ne.symm hrequested)]
      simp [hresolved, hrequested, node?]

theorem node?_ofHistory (m : RevisionId τ) :
    (ofHistory configuration history).node? m = lastAdded history m := by
  induction history using List.reverseRecOn with
  | nil => rfl
  | append_singleton history s ih =>
    have hlast : ofHistory configuration (history ++ [s]) =
        (ofHistory configuration history).add s.1 s.2 := by
      rw [ofHistory, List.foldl_append]
      rfl
    rw [hlast, node?_add, ih, lastAdded, lastAdded, List.reverse_append, List.reverse_singleton,
      List.singleton_append, List.find?_cons]
    cases isFoundBy m s with
    | true => rfl
    | false => rfl

omit [LawfulBEq τ] in
theorem mem_reached_of_lastAdded {m : RevisionId τ} {n : Nat}
    (h : lastAdded history m = some n) : n ∈ reached (history.map Prod.snd) := by
  obtain ⟨s, hs, rfl⟩ := Option.map_eq_some_iff.mp h
  have hmem : s ∈ history := List.mem_reverse.mp (List.mem_of_find?_eq_some hs)
  exact mem_distinct.mpr (List.mem_map_of_mem (List.mem_map_of_mem hmem))

end Nodes

/-! ### Downloads -/

section Downloads

variable [BEq τ] (configuration : τ) (history : List (Findings τ × Step))

theorem get?_downloads_ofHistory {n : Nat} (h : n ∈ reached (history.map Prod.snd)) :
    (ofHistory configuration history).downloads.get? n =
      some (downloadsUnder n (history.map Prod.snd)) := by
  have hmapping : (ofHistory configuration history).downloads.IsMapping := by
    have hkeys := nodes_ofHistory configuration history
    rw [nodes] at hkeys
    rw [Assoc.IsMapping, hkeys]
    exact nodup_reached _
  have hentry : (n, downloadsUnder n (history.map Prod.snd)) ∈
      (ofHistory configuration history).downloads.entries := by
    rw [downloads_ofHistory]
    exact List.mem_map_of_mem h
  exact hmapping.get?_of_mem hentry

theorem artifactReports_all (x : Findings τ) :
    (ofHistory configuration history).artifactReports x none true =
      (ofHistory configuration history).nodes.flatMap
        (downloadsUnder · (history.map Prod.snd)) := by
  rw [artifactReports, downloads_ofHistory, nodes_ofHistory, table, List.flatMap_map]
  exact List.filter_eq_self.mpr fun _ _ => rfl

end Downloads

theorem downloadsUnder_eq (n : Nat) (steps : List Step) :
    downloadsUnder n steps = (steps.filter (·.subject == n)).filterMap Step.download? := by
  rw [downloadsUnder, List.filterMap_filter]
  refine List.filterMap_congr fun s _ => ?_
  cases s with
  | node m => simp [Step.downloadUnder, Step.download?]
  | download m d => simp [Step.downloadUnder, Step.download?, Step.subject]

/-- Node by node, the downloads are those of all steps. -/
theorem flatMap_downloadsUnder_perm (steps : List Step) :
    ((reached steps).flatMap (downloadsUnder · steps)).Perm (steps.filterMap Step.download?) := by
  have hgroups : ((reached steps).flatMap fun n => steps.filter (·.subject == n)).Perm steps :=
    flatMap_filter_perm (nodup_reached steps) fun s hs =>
      mem_distinct.mpr (List.mem_map_of_mem hs)
  have hdownloads : (reached steps).flatMap (downloadsUnder · steps) =
      ((reached steps).flatMap fun n => steps.filter (·.subject == n)).filterMap
        Step.download? := by
    rw [List.filterMap_flatMap]
    exact List.flatMap_congr fun n _ => downloadsUnder_eq n steps
  rw [hdownloads]
  exact hgroups.filterMap _

/-- However a configuration report was filled, its nodes stand once each in the order in which they
were first added; a revision leads to the node that was last added with it, whose downloads are
always to be had, in the order of recording; and the downloads of the report are those of its nodes,
each as often as it was recorded. -/
theorem lookups_ofHistory (configuration : String) (history : List (Findings String × Step))
    (x : Findings String) :
    let r := ofHistory configuration history
    let steps := history.map Prod.snd
    (r.nodes.Nodup ∧ r.nodes = distinct (steps.map Step.subject)) ∧
    (∀ m, r.node? m = lastAdded history m) ∧
    (∀ m, r.downloadsOf? m = some (match lastAdded history m with
      | some n => downloadsUnder n steps
      | none => [])) ∧
    r.artifactReports x none true = r.nodes.flatMap (downloadsUnder · steps) ∧
    ∀ d, (r.artifactReports x none true).count d = steps.countP (·.download? == some d) := by
  intro r steps
  have hnodes : r.nodes = reached steps := nodes_ofHistory configuration history
  have hall : r.artifactReports x none true = r.nodes.flatMap (downloadsUnder · steps) :=
    artifactReports_all configuration history x
  refine ⟨⟨?_, hnodes⟩, node?_ofHistory configuration history, ?_, hall, ?_⟩
  · rw [hnodes]
    exact nodup_reached steps
  · intro m
    rw [downloadsOf?, node?_ofHistory]
    cases hfound : lastAdded history m with
    | none => rfl
    | some n =>
      exact get?_downloads_ofHistory configuration history
        (mem_reached_of_lastAdded history hfound)
  · intro d
    rw [hall, hnodes, (flatMap_downloadsUnder_perm steps).count_eq, List.count_filterMap]

end ConfigurationReport

end OsgiIvy
