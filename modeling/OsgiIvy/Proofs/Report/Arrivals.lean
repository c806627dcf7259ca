import OsgiIvy.Proofs.Report.Lookups
import OsgiIvy.Report.Basic

/-!
# Nodes that arrive

Recording dependencies is one pass over the nodes, which puts each of them into the configuration
reports that its roots lead to.  What a configuration report is given in the pass are the nodes of
the list that it is registered for, one after the other (`setDependencies_eq`), however many roots
of a node lead to it.  Adding nodes that are there already changes nothing, not even what is found
by a revision: that is settled by the last writing, and a second pass writes the same again
(`setDependencies_records`).
-/

namespace OsgiIvy

namespace ConfigurationReport

variable {x : Findings String} {c : ConfigurationReport String}

/-! ### Adding nodes -/

/-- All nodes, added one after the other. -/
def addNodes (x : Findings String) (c : ConfigurationReport String) (ns : List Nat) :
    ConfigurationReport String :=
  ns.foldl (addNode x) c

theorem addNodes_append (ns ms : List Nat) :
    c.addNodes x (ns ++ ms) = (c.addNodes x ns).addNodes x ms :=
  List.foldl_append

/-- The revisions of the nodes, each with its node, in the order in which they are written. -/
def revisionsOf (x : Findings String) (ns : List Nat) : List (RevisionId String × Nat) :=
  ns.flatMap fun n => [((x.node n).requested, n), ((x.node n).resolved, n)]

theorem addNodes_eq (ns : List Nat) : c.addNodes x ns =
    { c with
      byRevision := c.byRevision.putAll (revisionsOf x ns)
      downloads := ns.foldl (fun m n => m.putNew n []) c.downloads } := by
  induction ns generalizing c with
  | nil => rfl
  | cons n ns ih => exact ih

/-- The nodes that are not there yet, each once. -/
def newNodes (c : ConfigurationReport String) (ns : List Nat) : List Nat :=
  distinct (ns.filter fun n => decide (n ∉ c.nodes))

theorem downloads_addNodes (ns : List Nat) :
    (c.addNodes x ns).downloads.entries =
      c.downloads.entries ++ (c.newNodes ns).map fun n => (n, []) := by
  have hfilter : (ns.filter fun n => decide (n ∉ c.nodes)) =
      ns.filter (!c.downloads.keys.contains ·) := by
    refine List.filter_congr fun n _ => ?_
    rw [nodes, List.contains_eq_mem, decide_not]
  rw [addNodes_eq, Assoc.entries_foldl_putNew, newNodes, hfilter]

theorem nodes_addNodes (ns : List Nat) : (c.addNodes x ns).nodes = c.nodes ++ c.newNodes ns := by
  rw [nodes, Assoc.keys, downloads_addNodes, List.map_append, List.map_map]
  exact congrArg (c.nodes ++ ·) (List.map_id _)

theorem nodup_nodes_addNodes (ns : List Nat) (h : c.nodes.Nodup) :
    (c.addNodes x ns).nodes.Nodup := by
  rw [nodes_addNodes]
  refine List.nodup_append.mpr ⟨h, nodup_distinct _, ?_⟩
  intro n hold n' hnew heq
  subst heq
  have hnone := (List.mem_filter.mp (mem_distinct.mp hnew)).2
  exact of_decide_eq_true hnone hold

theorem subset_nodes_addNodes (ns : List Nat) : ns ⊆ (c.addNodes x ns).nodes := by
  intro n hn
  rw [nodes_addNodes]
  by_cases hold : n ∈ c.nodes
  · exact List.mem_append_left _ hold
  · have hnew : n ∈ ns.filter fun n => decide (n ∉ c.nodes) :=
      List.mem_filter.mpr ⟨hn, decide_eq_true hold⟩
    exact List.mem_append_right _ (mem_distinct.mpr hnew)

/-- Nodes that were added are there, and their revisions are written as they were before. -/
theorem addNodes_addNodes (ns : List Nat) :
    (c.addNodes x ns).addNodes x ns = c.addNodes x ns := by
  have hrevisions : (c.addNodes x ns).byRevision.putAll (revisionsOf x ns) =
      (c.addNodes x ns).byRevision := by
    rw [addNodes_eq]
    exact Assoc.putAll_putAll _ _
  have hdownloads : ns.foldl (fun m n => m.putNew n []) (c.addNodes x ns).downloads =
      (c.addNodes x ns).downloads :=
    Assoc.foldl_putNew_of_subset (subset_nodes_addNodes ns) []
  conv => lhs; rw [addNodes_eq]
  rw [hrevisions, hdownloads]

theorem addNode_addNode (n : Nat) : (c.addNode x n).addNode x n = c.addNode x n :=
  addNodes_addNodes [n]

/-- What is found is the last node that was added with the revision. -/
theorem node?_addNodes (ns : List Nat) (m : RevisionId String) :
    (c.addNodes x ns).node? m =
      (ns.reverse.find? fun n => isFoundBy m (x, .node n)).or (c.node? m) := by
  induction ns using List.reverseRecOn with
  | nil => rfl
  | append_singleton ns n ih =>
    have hstep : c.addNodes x (ns ++ [n]) = (c.addNodes x ns).add x (.node n) := List.foldl_append
    rw [hstep, node?_add, ih, List.reverse_append, List.reverse_singleton, List.singleton_append,
      List.find?_cons]
    cases isFoundBy m (x, .node n) with
    | true => rfl
    | false => rfl

theorem get?_downloads_addNodes_of_mem {ns : List Nat} {n : Nat} (h : n ∈ c.nodes) :
    (c.addNodes x ns).downloads.get? n = c.downloads.get? n := by
  obtain ⟨ds, hds⟩ := Assoc.exists_lookup_of_mem h
  rw [Assoc.get?, Assoc.get?, downloads_addNodes, List.lookup_append, hds, Option.some_or]

theorem get?_downloads_addNodes_of_new {ns : List Nat} {n : Nat} (h : n ∈ c.newNodes ns) :
    (c.addNodes x ns).downloads.get? n = some [] := by
  have hnew : n ∉ c.nodes :=
    of_decide_eq_true (List.mem_filter.mp (mem_distinct.mp h)).2
  rw [Assoc.get?, downloads_addNodes, List.lookup_append, Assoc.lookup_of_not_mem hnew,
    Option.none_or]
  exact List.lookup_graph (fun _ => []) h

end ConfigurationReport

theorem mapIdx_id {α : Type} {f : Nat → α → α} (hf : ∀ i a, f i a = a) (as : List α) :
    as.mapIdx f = as := by
  apply List.ext_getElem?
  intro i
  rw [List.getElem?_mapIdx, funext (hf i)]
  exact Option.map_id'

/-- Something that makes no difference when it is done again, done at each of some places. -/
theorem foldl_modify_eq_mapIdx {α : Type} {f : α → α} (hf : ∀ a, f (f a) = f a) (places : List Nat)
    (as : List α) : places.foldl (fun as i => as.modify i f) as =
      as.mapIdx fun i a => if i ∈ places then f a else a := by
  induction places generalizing as with
  | nil => exact (mapIdx_id (fun _ _ => if_neg List.not_mem_nil) as).symm
  | cons place places ih =>
    rw [List.foldl_cons, ih]
    apply List.ext_getElem?
    intro i
    rw [List.getElem?_mapIdx, List.getElem?_mapIdx, List.getElem?_modify, Option.map_eq_map,
      Option.map_map]
    refine congrArg (Option.map · as[i]?) (funext fun a => ?_)
    rw [Function.comp_apply]
    by_cases hi : place = i
    · subst hi
      simp [hf]
    · simp [hi, Ne.symm hi]

namespace Report

variable {r : Report String Bool}

/-! ### One pass over the nodes -/

/-- A root of the node leads to the configuration report. -/
def Involves (r : Report String Bool) (part n : Nat) : Prop :=
  ∃ root ∈ (r.findings.node n).roots, r.registered.get? root = some part

instance (r : Report String Bool) (part n : Nat) : Decidable (r.Involves part n) :=
  inferInstanceAs (Decidable (∃ _ ∈ _, _))

theorem mem_partsOf {part n : Nat} : part ∈ r.partsOf (r.findings.node n) ↔ r.Involves part n :=
  List.mem_filterMap

/-- The nodes of a list that a configuration report is given. -/
def nodesFor (r : Report String Bool) (part : Nat) (nodes : List Nat) : List Nat :=
  nodes.filter fun n => decide (r.Involves part n)

/-- The configuration reports, each with the nodes of a list that it is given. -/
def handOut (r : Report String Bool) (nodes : List Nat) (cs : List (ConfigurationReport String)) :
    List (ConfigurationReport String) :=
  cs.mapIdx fun part c => c.addNodes r.findings (r.nodesFor part nodes)

theorem handOut_append (ns ms : List Nat) (cs : List (ConfigurationReport String)) :
    r.handOut (ns ++ ms) cs = r.handOut ms (r.handOut ns cs) := by
  simp only [handOut, List.mapIdx_mapIdx, nodesFor, List.filter_append,
    ConfigurationReport.addNodes_append, Function.comp_def]

theorem handOut_handOut (nodes : List Nat) (cs : List (ConfigurationReport String)) :
    r.handOut nodes (r.handOut nodes cs) = r.handOut nodes cs := by
  simp only [handOut, List.mapIdx_mapIdx, Function.comp_def, ConfigurationReport.addNodes_addNodes]

theorem foldl_fill (r : Report String Bool) (n : Nat) (places : List Nat) :
    places.foldl (fun r part => r.fill part (.node n)) r =
      { r with
        parts := places.foldl (fun cs i => cs.modify i (·.addNode r.findings n)) r.parts } := by
  induction places generalizing r with
  | nil => rfl
  | cons part places ih => exact ih (r.fill part (.node n))

theorem dispatch_eq (r : Report String Bool) (n : Nat) :
    r.dispatch n = { r with parts := r.handOut [n] r.parts } := by
  have hgiven : ∀ part (c : ConfigurationReport String),
      (if part ∈ r.partsOf (r.findings.node n) then c.addNode r.findings n else c) =
        c.addNodes r.findings (r.nodesFor part [n]) := by
    intro part c
    rw [nodesFor, List.filter_singleton]
    by_cases h : r.Involves part n
    · rw [if_pos (mem_partsOf.mpr h), decide_eq_true h]
      rfl
    · rw [if_neg (mt mem_partsOf.mp h), decide_eq_false h]
      rfl
  rw [dispatch, foldl_fill, foldl_modify_eq_mapIdx fun _ => ConfigurationReport.addNode_addNode n]
  simp only [hgiven, handOut]

theorem foldl_dispatch (r : Report String Bool) (nodes : List Nat) :
    nodes.foldl dispatch r = { r with parts := r.handOut nodes r.parts } := by
  induction nodes generalizing r with
  | nil =>
    have hnone : r.handOut [] r.parts = r.parts := mapIdx_id (fun _ _ => rfl) r.parts
    rw [hnone]
    rfl
  | cons n nodes ih =>
    -- Which nodes a report is given depends on roots and registrations only, and these stay as they
    -- are meanwhile, so that the reports can be given all nodes in one go.
    have hboth : r.handOut (n :: nodes) r.parts = r.handOut nodes (r.handOut [n] r.parts) :=
      handOut_append [n] nodes r.parts
    rw [List.foldl_cons, ih, dispatch_eq, hboth]
    rfl

theorem setDependencies_eq (r : Report String Bool) (nodes : List Nat)
    (filter : Artifact String → Bool) : r.setDependencies nodes filter =
      { r with
        dependencies := nodes
        artifacts := (nodes.filter fun n => (r.findings.node n).isUsable).flatMap fun n =>
          (r.findings.node n).selected filter
        parts := r.handOut nodes r.parts } :=
  foldl_dispatch _ nodes

/-! ### What a pass records -/

/-- What a configuration report holds after a pass. -/
structure Receives (r : Report String Bool) (given : List Nat) (part : Nat)
    (c c' : ConfigurationReport String) : Prop where
  configuration : c'.configuration = c.configuration
  nodes : c'.nodes =
    c.nodes ++ distinct (given.filter fun n => decide (n ∉ c.nodes ∧ r.Involves part n))
  once : c.nodes.Nodup → c'.nodes.Nodup
  kept : ∀ n ∈ c.nodes, c'.downloads.get? n = c.downloads.get? n
  fresh : ∀ n ∈ c'.nodes, n ∉ c.nodes → c'.downloads.get? n = some []
  found : ∀ m, c'.node? m = (given.reverse.find? fun n => decide (r.Involves part n ∧
    ConfigurationReport.isFoundBy m (r.findings, .node n))).or (c.node? m)

theorem newNodes_nodesFor (nodes : List Nat) (part : Nat) (c : ConfigurationReport String) :
    c.newNodes (r.nodesFor part nodes) =
      distinct (nodes.filter fun n => decide (n ∉ c.nodes ∧ r.Involves part n)) := by
  rw [ConfigurationReport.newNodes, nodesFor, List.filter_filter]
  simp only [Bool.decide_and]

theorem receives_addNodes (r : Report String Bool) (nodes : List Nat) (part : Nat)
    (c : ConfigurationReport String) :
    r.Receives nodes part c (c.addNodes r.findings (r.nodesFor part nodes)) where
  configuration := by rw [ConfigurationReport.addNodes_eq]
  nodes := by rw [ConfigurationReport.nodes_addNodes, newNodes_nodesFor]
  once := ConfigurationReport.nodup_nodes_addNodes _
  kept := fun _ hn => ConfigurationReport.get?_downloads_addNodes_of_mem hn
  fresh := by
    intro n hn hnew
    rw [ConfigurationReport.nodes_addNodes] at hn
    exact ConfigurationReport.get?_downloads_addNodes_of_new
      ((List.mem_append.mp hn).resolve_left hnew)
  found := by
    intro m
    rw [ConfigurationReport.node?_addNodes, nodesFor, ← List.filter_reverse, List.find?_filter]
    simp only [decide_eq_true_eq]

theorem setDependencies_setDependencies (r : Report String Bool) (nodes : List Nat)
    (filter : Artifact String → Bool) :
    (r.setDependencies nodes filter).setDependencies nodes filter =
      r.setDependencies nodes filter := by
  have htwice : (r.setDependencies nodes filter).setDependencies nodes filter =
      { r.setDependencies nodes filter with
        parts := r.handOut nodes (r.handOut nodes r.parts) } := by
    rw [setDependencies_eq, setDependencies_eq]
    rfl
  rw [htwice, handOut_handOut, setDependencies_eq]

/-- Every configuration report lists its earlier nodes with their downloads, and after them, in the
order of the list and once each, the nodes that were not there and have a root that leads to it,
without downloads; a revision leads to the last of the nodes with such a root that has it, or to
where it led before.  The artifacts are those that the filter selects from the nodes that are
neither evicted everywhere nor in error; nothing else is changed; and a second pass over the same
nodes changes nothing at all. -/
theorem setDependencies_records (r : Report String Bool) (nodes : List Nat)
    (filter : Artifact String → Bool) :
    let s := r.setDependencies nodes filter
    (s.parts.length = r.parts.length ∧ ∀ part c, r.parts[part]? = some c →
      ∃ c', s.parts[part]? = some c' ∧ r.Receives nodes part c c') ∧
    s.artifacts = (nodes.filter fun n => !(r.findings.node n).isCompletelyEvicted &&
      !(r.findings.node n).hasProblem).flatMap
        (fun n => (r.findings.node n).artifacts.filter filter) ∧
    s = { r with dependencies := nodes, artifacts := s.artifacts, parts := s.parts } ∧
    s.setDependencies nodes filter = s := by
  intro s
  have hs : s = _ := setDependencies_eq r nodes filter
  refine ⟨⟨?_, ?_⟩, ?_, ?_, setDependencies_setDependencies r nodes filter⟩
  · rw [hs]
    exact List.length_mapIdx
  · intro part c hc
    refine ⟨_, ?_, receives_addNodes r nodes part c⟩
    rw [hs, handOut, List.getElem?_mapIdx, hc, Option.map_some]
  · rw [hs]
    rfl
  · rw [hs]

end Report

end OsgiIvy
