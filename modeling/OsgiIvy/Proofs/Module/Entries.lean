import OsgiIvy.Proofs.Module.Registrations

/-!
# Several entries for one configuration

A snapshot may have any number of entries for a configuration, next to each other or apart.  They
have to agree on the configuration, defaults included; the first of them registers it, and each adds
its artifacts.  A snapshot is refused exactly if two of its entries do not agree
(`ofValue_registers`).
-/

namespace OsgiIvy

/-- Configurations of one name that are not the same. -/
def Configuration.Conflicts (c c' : Configuration String Bool) : Prop :=
  c.name = c'.name ∧ (c.visibility ≠ c'.visibility ∨ c.description ≠ c'.description ∨
    c.parents ≠ c'.parents ∨ c.transitive ≠ c'.transitive ∨ c.deprecated ≠ c'.deprecated)

instance (c c' : Configuration String Bool) : Decidable (c.Conflicts c') :=
  inferInstanceAs (Decidable (_ ∧ _))

theorem Configuration.conflicts_iff {c c' : Configuration String Bool} :
    c.Conflicts c' ↔ c.name = c'.name ∧ c ≠ c' := by
  refine and_congr_right fun hname => ?_
  obtain ⟨name, visibility, description, parents, transitive, deprecated⟩ := c
  obtain ⟨name', visibility', description', parents', transitive', deprecated'⟩ := c'
  obtain rfl : name = name' := hname
  simp only [ne_eq, Configuration.mk.injEq, true_and, not_and_or]

namespace Snapshot

open Descriptor

variable {d : ModuleDescriptor} {e : Registration} {entries : List Registration}

/-! ### One entry -/

/-- What becomes of a descriptor once the configuration of an entry is there. -/
def registered (d : ModuleDescriptor) (e : Registration) : ModuleDescriptor :=
  (d.ensureConfiguration e.configuration).addAll e.configuration.name e.artifacts

theorem configurations_registered (d : ModuleDescriptor) (e : Registration) :
    (registered d e).configurations =
      Configuration.registered d.configurations e.configuration := by
  rw [registered, addAll_frame, ensureConfiguration_eq]

theorem artifactsOf_registered (d : ModuleDescriptor) (e : Registration) (name : String) :
    (registered d e).artifactsOf name =
      d.artifactsOf name ++ if e.configuration.name == name then e.artifacts else [] := by
  rw [registered, artifactsOf_addAll, ensureConfiguration_eq]
  rfl

/-- An entry is accepted exactly if its configuration answers to its name. -/
theorem register_eq_ok_iff {next : ModuleDescriptor} :
    register d e = .ok next ↔ d.ensured e.configuration = e.configuration ∧
      next = registered d e := by
  rw [register, map_eq_ok]
  simp only [addConfiguration_eq_ok_iff, and_assoc]
  constructor
  · rintro ⟨added, hagrees, rfl, rfl⟩
    exact ⟨hagrees, rfl⟩
  · rintro ⟨hagrees, rfl⟩
    exact ⟨_, hagrees, rfl, rfl⟩

/-! ### All entries -/

theorem configurations_foldl_registered (d : ModuleDescriptor) (entries : List Registration) :
    (entries.foldl registered d).configurations =
      (entries.map Registration.configuration).foldl Configuration.registered d.configurations := by
  induction entries generalizing d with
  | nil => rfl
  | cons e entries ih =>
    rw [List.foldl_cons, ih, configurations_registered]
    rfl

theorem configuration?_foldl_registered (d : ModuleDescriptor) (entries : List Registration)
    (name : String) : (entries.foldl registered d).configuration? name =
      (d.configurations ++ entries.map Registration.configuration).find? (·.name == name) := by
  rw [configuration?, configurations_foldl_registered, Configuration.find?_foldl_registered]

theorem artifactsOf_foldl_registered (d : ModuleDescriptor) (entries : List Registration)
    (name : String) : (entries.foldl registered d).artifactsOf name = d.artifactsOf name ++
      (entries.filter (·.configuration.name == name)).flatMap Registration.artifacts := by
  induction entries generalizing d with
  | nil => simp
  | cons e entries ih =>
    rw [List.foldl_cons, ih, artifactsOf_registered, List.append_assoc, List.filter_cons]
    cases e.configuration.name == name with
    | true => rfl
    | false => rfl

/-- The name of an entry leads to what was registered when the entry was met. -/
theorem configuration?_foldl_registered_cons (d : ModuleDescriptor) (e : Registration)
    (entries : List Registration) : ((e :: entries).foldl registered d).configuration?
      e.configuration.name = some (d.ensured e.configuration) := by
  rw [configuration?_foldl_registered, List.find?_append, ensured, configuration?]
  cases d.configurations.find? (·.name == e.configuration.name) with
  | none => simp
  | some taken => rfl

/-- Entries are accepted exactly if each finds its own configuration under its name in the end. -/
theorem foldlM_register_eq_ok_iff {read : ModuleDescriptor} :
    entries.foldlM register d = .ok read ↔
      (∀ e ∈ entries, (entries.foldl registered d).configuration? e.configuration.name =
        some e.configuration) ∧ read = entries.foldl registered d := by
  induction entries generalizing d with
  | nil => simp [pure_eq_ok, eq_comm]
  | cons e entries ih =>
    rw [List.foldlM_cons, bind_eq_ok, List.forall_mem_cons,
      configuration?_foldl_registered_cons, Option.some.injEq, List.foldl_cons, and_assoc]
    constructor
    · rintro ⟨next, hnext, hrest⟩
      obtain ⟨hagrees, rfl⟩ := register_eq_ok_iff.mp hnext
      exact ⟨hagrees, ih.mp hrest⟩
    · rintro ⟨hagrees, hrest⟩
      exact ⟨_, register_eq_ok_iff.mpr ⟨hagrees, rfl⟩, ih.mpr hrest⟩

/-- From a descriptor without configurations, that is the case exactly if no two conflict. -/
theorem finds_own_iff (entries : List Registration) (h : d.configurations = []) :
    (∀ e ∈ entries, (entries.foldl registered d).configuration? e.configuration.name =
        some e.configuration) ↔
      ∀ e ∈ entries, ∀ f ∈ entries, ¬ e.configuration.Conflicts f.configuration := by
  constructor
  · intro hown e he f hf hconflict
    obtain ⟨hname, hne⟩ := Configuration.conflicts_iff.mp hconflict
    have hfirst := hown e he
    rw [hname, hown f hf, Option.some.injEq] at hfirst
    exact hne hfirst.symm
  · intro hagree e he
    rw [configuration?_foldl_registered, h, List.nil_append]
    cases hfirst : (entries.map Registration.configuration).find?
        (·.name == e.configuration.name) with
    | none =>
      have hother := List.find?_eq_none.mp hfirst _ (List.mem_map_of_mem he)
      exact absurd (beq_self_eq_true _) hother
    | some c =>
      obtain ⟨f, hf, rfl⟩ := List.mem_map.mp (List.mem_of_find?_eq_some hfirst)
      have hname : (f.configuration.name == e.configuration.name) = true :=
        List.find?_some (p := fun c : Configuration String Bool =>
          c.name == e.configuration.name) hfirst
      by_contra hne
      refine hagree f hf e he (Configuration.conflicts_iff.mpr ⟨eq_of_beq hname, fun heq => ?_⟩)
      exact hne (congrArg some heq)

/-! ### Snapshots -/

/-- A well-typed snapshot is refused exactly if two of its entries have the same name and differ in
anything else that makes a configuration.  Otherwise it is read, each name is registered at the
place of its first entry, and its artifacts are those of all its entries, in their order. -/
theorem ofValue_registers {v : Value} {told : ModuleDescriptor} (h : Tells id v told entries) :
    ((∃ clash, ofValue v = .error (.clash clash)) ↔
      ∃ e ∈ entries, ∃ f ∈ entries, e.configuration.Conflicts f.configuration) ∧
    ((∀ e ∈ entries, ∀ f ∈ entries, ¬ e.configuration.Conflicts f.configuration) →
      ∃ read : ModuleDescriptor, ofValue v = .ok (read.stored id) ∧
        read.configurationNames = distinct (entries.map (·.configuration.name)) ∧
        (∀ e ∈ entries, read.configuration? e.configuration.name = some e.configuration) ∧
        ∀ name, read.artifactsOf name =
          (entries.filter (·.configuration.name == name)).flatMap Registration.artifacts) := by
  have hread := h.read id_perm
  have hagree := finds_own_iff entries (d := head told) rfl
  constructor
  · constructor
    · rintro ⟨clash, hclash⟩
      by_contra hnone
      push Not at hnone
      have hrun := foldlM_register_eq_ok_iff.mpr ⟨hagree.mpr hnone, rfl⟩
      rw [hread, hrun] at hclash
      exact absurd hclash nofun
    · rintro ⟨e, he, f, hf, hconflict⟩
      cases hrun : entries.foldlM register (head told) with
      | error clash => exact ⟨clash.stored, by rw [hread, hrun]; rfl⟩
      | ok read =>
        have hown := (foldlM_register_eq_ok_iff.mp hrun).1
        exact absurd hconflict (hagree.mp hown e he f hf)
  · intro hnone
    have hown := hagree.mpr hnone
    have hrun := foldlM_register_eq_ok_iff.mpr ⟨hown, rfl⟩
    refine ⟨withEdges (entries.foldl registered (head told)) told, ?_, ?_, hown, ?_⟩
    · rw [hread, hrun]
      rfl
    · have hnames :=
        Configuration.names_foldl_registered [] (entries.map Registration.configuration)
      rw [List.map_map] at hnames
      show (entries.foldl registered (head told)).configurations.map _ = _
      rw [configurations_foldl_registered]
      exact hnames
    · intro name
      exact artifactsOf_foldl_registered (head told) entries name

/-- Two entries for one configuration: one that leaves everything to defaults, and one that spells
out what it is and how it is seen. -/
def entriesTwice (visibility : Visibility) : List Registration :=
  [⟨.named "run", [archive "jar"]⟩, ⟨.named "api", []⟩,
    ⟨{ Configuration.named "run" with visibility := visibility }, [archive "source"]⟩]

def snapshotTwice (visibility : Visibility) : Value :=
  .object [("module", ofRevision (⟨"org", "app", none, none⟩ : RevisionId String)),
    ("configurations", .list [
      .object [("name", .string "run"), ("artifacts", .list [ofArtifact (archive "jar")])],
      .object [("name", .string "api"), ("deprecated", .null)],
      .object [("name", .string "run"), ("visibility", .string visibility.name),
        ("description", .string ""), ("extends", .list []), ("transitive", .bool true),
        ("artifacts", .list [ofArtifact (archive "source")])]])]

theorem tells_snapshotTwice (visibility : Visibility) :
    Tells id (snapshotTwice visibility) (Descriptor.empty ⟨"org", "app", none, none⟩ "integration")
      (entriesTwice visibility) := by
  have hmodule := tellsRevision_ofRevision id_perm ⟨"org", "app", none, none⟩
  have hartifact := fun type => tellsArtifact_ofArtifact id_perm (isMapping_archive type)
  simp only [Value.rearrange_id] at hmodule hartifact
  refine ⟨?_, ⟨_, rfl, ?_⟩, ⟨[], rfl, .nil⟩, ⟨[], rfl, .nil⟩⟩
  · exact ⟨⟨_, rfl, hmodule⟩, rfl, ⟨.null, rfl, rfl⟩, rfl, rfl, ⟨rfl, List.nodup_nil⟩, rfl⟩
  · refine .cons ⟨⟨rfl, rfl, rfl, rfl, rfl, rfl⟩, _, rfl, ?_⟩
      (.cons ⟨⟨rfl, rfl, rfl, rfl, rfl, rfl⟩, _, rfl, .nil⟩
        (.cons ⟨⟨rfl, rfl, rfl, rfl, rfl, rfl⟩, _, rfl, ?_⟩ .nil))
    · exact .cons (hartifact "jar") .nil
    · exact .cons (hartifact "source") .nil

theorem ofValue_registers_twice :
    (∃ read : ModuleDescriptor, ofValue (snapshotTwice .shared) = .ok (read.stored id) ∧
      read.configurationNames = ["run", "api"] ∧
      read.artifactsOf "run" = [archive "jar", archive "source"]) ∧
    ∃ clash, ofValue (snapshotTwice .internal) = .error (.clash clash) := by
  constructor
  · obtain ⟨read, hread, hnames, -, hartifacts⟩ :=
      (ofValue_registers (tells_snapshotTwice .shared)).2 (by decide)
    exact ⟨read, hread, hnames.trans (by decide), hartifacts "run"⟩
  · refine (ofValue_registers (tells_snapshotTwice .internal)).1.mpr ?_
    decide

end Snapshot

end OsgiIvy
