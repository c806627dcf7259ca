import OsgiIvy.Proofs.Bundle.Edges
import OsgiIvy.Proofs.NameSets
import OsgiIvy.Proofs.Repetitions

/-!
# Configurations of a bundle

The configurations of a bundle stand where their names first come up: those that every bundle has,
then those for the packages that it exports, then those for the packages that it gets from outside
(`configurationNames_outline`).  The first export of a package settles what the configuration for
its use extends, and which version of the package is on record (`ofBundle_configurations`).
-/

namespace OsgiIvy.Bundle

open OsgiIvy.Time (Moment)
open OsgiIvy.Configuration (defaultName useName)

variable {now : Moment} {context : Context} {b : Bundle} {md : ModuleDescriptor}

/-! ### Names -/

/-- A requirement of a package that the bundle does not export. -/
def Imports (b : Bundle) (r : Requirement) : Prop :=
  r.type = packageType ∧ ¬∃ e ∈ b.exports, e.name = r.name

instance (b : Bundle) (r : Requirement) : Decidable (b.Imports r) :=
  inferInstanceAs (Decidable (_ ∧ ¬_))

theorem imports_iff {r : Requirement} :
    b.Imports r ↔ r.isPackage = true ∧ isExternal b.exportedNames r = true := by
  have hother : packageType ≠ environmentType := by decide
  rw [isExternal_iff, NeedsEdge, Requirement.isPackage, decide_eq_true_iff, Imports]
  constructor
  · rintro ⟨htype, hnot⟩
    exact ⟨htype, htype ▸ hother, fun hboth => hnot hboth.2⟩
  · rintro ⟨htype, -, hnot⟩
    exact ⟨htype, fun hexported => hnot ⟨htype, hexported⟩⟩

theorem filter_imports (b : Bundle) :
    (b.requirements.filter (isExternal b.exportedNames)).filter Requirement.isPackage =
      b.requirements.filter fun r => decide (b.Imports r) := by
  rw [List.filter_filter]
  apply List.filter_congr
  intro r _
  rw [Bool.eq_iff_iff, Bool.and_eq_true, decide_eq_true_iff, imports_iff]

theorem names_useConfigurations (b : Bundle) :
    b.useConfigurations.map Configuration.name =
      (b.exports.map fun e => useName e.name) ++
        (b.requirements.filter fun r => decide (b.Imports r)).map fun r => useName r.name := by
  rw [useConfigurations, filter_imports, List.map_append, List.map_map, List.map_map]
  rfl

theorem configurationNames_outline (now : Moment) (b : Bundle) :
    (outline now b).configurationNames =
      distinct (b.configurationNames ++
        (b.requirements.filter fun r => decide (b.Imports r)).map fun r => useName r.name) := by
  have hbase : (baseConfigurations.map Configuration.name).foldl addNew [] =
      baseConfigurations.map Configuration.name := by decide
  have hnames : b.configurationNames = baseConfigurations.map Configuration.name ++
      b.exports.map fun e => useName e.name := rfl
  rw [Descriptor.configurationNames, configurations_outline, Configuration.names_foldl_registered,
    names_useConfigurations, hnames, distinct, List.foldl_append, List.foldl_append,
    List.foldl_append, hbase]

theorem mem_configurationNames_iff (h : Descriptor.ofBundle now context b = .ok md)
    {name : String} :
    name ∈ md.configurationNames ↔
      name ∈ baseConfigurations.map Configuration.name ∨ ∃ p, b.Mentions p ∧ name = useName p := by
  rw [configurationNames_ofBundle h, Descriptor.configurationNames, List.mem_map, List.mem_map]
  constructor
  · rintro ⟨c, hc, rfl⟩
    rcases mem_configurations_outline.mp hc with hbase | ⟨p, hp, rfl⟩
    · exact .inl ⟨c, hbase, rfl⟩
    · exact .inr ⟨p, hp, rfl⟩
  · rintro (⟨c, hbase, rfl⟩ | ⟨p, hp, rfl⟩)
    · exact ⟨c, mem_configurations_outline.mpr (.inl hbase), rfl⟩
    · exact ⟨_, mem_configurations_outline.mpr (.inr ⟨p, hp, rfl⟩), rfl⟩

theorem useName_mem_configurationNames_iff (h : Descriptor.ofBundle now context b = .ok md)
    {p : String} : useName p ∈ md.configurationNames ↔ b.Mentions p := by
  rw [mem_configurationNames_iff h]
  constructor
  · rintro (hbase | ⟨q, hq, hname⟩)
    · exact absurd hbase (useName_not_mem_base p)
    · rw [useName_inj.mp hname]
      exact hq
  · exact fun hp => .inr ⟨p, hp, rfl⟩

/-! ### Versions on record -/

theorem extraInfos_foldl_addExport (d : ModuleDescriptor) (es : List Export) :
    (es.foldl addExport d).extraInfos =
      d.extraInfos ++ es.map fun e => (exportInfoName e.name, e.version) := by
  induction es generalizing d with
  | nil => rw [List.foldl_nil, List.map_nil, List.append_nil]
  | cons e es ih =>
    have hadded : (addExport d e).extraInfos =
        d.extraInfos ++ [(exportInfoName e.name, e.version)] := by
      rw [addExport, Descriptor.ensureConfiguration_eq]
      rfl
    rw [List.foldl_cons, ih, hadded, List.append_assoc, List.singleton_append, List.map_cons]

theorem extraInfos_foldl_addRequirement (d : ModuleDescriptor) (rs : List Requirement) :
    (rs.foldl addRequirement d).extraInfos = d.extraInfos := by
  induction rs generalizing d with
  | nil => rfl
  | cons r rs ih =>
    have hkept : (addRequirement d r).extraInfos = d.extraInfos := by
      rw [addRequirement, Descriptor.ensureConfiguration_eq]
      cases r.isPackage <;> rfl
    rw [List.foldl_cons, ih, hkept]

theorem extraInfos_outline (now : Moment) (b : Bundle) :
    (outline now b).extraInfos = b.exports.map fun e => (exportInfoName e.name, e.version) := by
  rw [outline, addRequirements, extraInfos_foldl_addRequirement, extraInfos_foldl_addExport]
  rfl

theorem extraInfos_ofBundle (h : Descriptor.ofBundle now context b = .ok md) :
    md.extraInfos = (b.exports.map fun e => (exportInfoName e.name, e.version)) ++
      context.headers.getD [] := by
  obtain ⟨as, packages, -, -, rfl⟩ := ofBundle_eq_ok h
  rw [assembled, excluding, Descriptor.addAll_frame, ← extraInfos_outline now b]

theorem exportInfoName_beq (p q : String) : (exportInfoName p == exportInfoName q) = (p == q) := by
  rw [Bool.eq_iff_iff, beq_iff_eq, beq_iff_eq, exportInfoName, exportInfoName,
    String.append_right_inj]

/-- The first export of a package is found under the name of its information. -/
theorem lookup_exportInfos (es : List Export) (p : String) :
    (es.map fun e => (exportInfoName e.name, e.version)).lookup (exportInfoName p) =
      (es.find? (·.name == p)).map Export.version := by
  induction es with
  | nil => rfl
  | cons e es ih =>
    rw [List.map_cons, List.lookup_cons, exportInfoName_beq, List.find?_cons]
    by_cases hp : p = e.name
    · subst hp
      rw [beq_self_eq_true]
      rfl
    · have hfirst : (p == e.name) = false := beq_eq_false_iff_ne.mpr hp
      have hsecond : (e.name == p) = false := beq_eq_false_iff_ne.mpr (Ne.symm hp)
      rw [hfirst, hsecond]
      exact ih

theorem extraInfo?_ofBundle (h : Descriptor.ofBundle now context b = .ok md) {p : String}
    {e : Export} (hfirst : b.exports.find? (·.name == p) = some e) :
    md.extraInfo? (exportInfoName p) = some e.version := by
  have hfound := lookup_exportInfos b.exports p
  rw [hfirst, Option.map_some] at hfound
  rw [Descriptor.extraInfo?, extraInfos_ofBundle h, List.lookup_append, hfound, Option.some_or]

/-! ### Configurations of packages -/

theorem configuration?_useName (h : Descriptor.ofBundle now context b = .ok md) {p : String}
    (hp : b.Mentions p) :
    md.configuration? (useName p) = some (Configuration.forUse p (b.usesOf p)) :=
  configuration?_ofBundle h (mem_configurations_outline.mpr (.inr ⟨p, hp, rfl⟩))

/-- What the first export of a package settles: the version on record, and what the configuration
for the use of the package extends, which is the use of each package that the export uses, in order,
and then the default configuration. -/
structure IsSettledBy (md : ModuleDescriptor) (p : String) (e : Export) : Prop where
  version : md.extraInfo? ("_osgi_export_" ++ p) = some e.version
  configuration : ∃ c, md.configuration? (useName p) = some c ∧
    c.parents = e.uses.toList.map useName ++ [defaultName]
  ascending : ∀ uses, e.uses = .ofList uses →
    e.uses.toList.Pairwise (· < ·) ∧ ∀ use, use ∈ e.uses.toList ↔ use ∈ uses

theorem isSettledBy_first (h : Descriptor.ofBundle now context b = .ok md) {p : String} {e : Export}
    (hfirst : b.exports.find? (·.name == p) = some e) : IsSettledBy md p e := by
  have hmentions := mentions_of_find? hfirst
  refine ⟨extraInfo?_ofBundle h hfirst, ⟨_, configuration?_useName h hmentions, ?_⟩, ?_⟩
  · rw [usesOf_of_find? hfirst]
    rfl
  · intro uses huses
    rw [huses]
    exact ⟨NameSet.pairwise_ofList uses, fun _ => NameSet.mem_ofList⟩

/-- Alone, a bundle always has a descriptor; and whatever it is seen together with, its
configurations stand where their names first come up, and each package has the configuration that
its first export settles, or, if it is only required, one that extends the default configuration. -/
theorem ofBundle_configurations (now : Moment) (b : Bundle) :
    (∃ md, Descriptor.ofBundle now ⟨none, none, none⟩ b = .ok md) ∧
      ∀ context md, Descriptor.ofBundle now context b = .ok md →
        md.configurationNames = distinct (b.configurationNames ++
          (b.requirements.filter fun r => decide (b.Imports r)).map fun r => useName r.name) ∧
        (∀ p e, b.exports.find? (·.name == p) = some e → IsSettledBy md p e) ∧
        ∀ r ∈ b.requirements, b.Imports r → ∃ c, md.configuration? (useName r.name) = some c ∧
          c.parents = [defaultName] := by
  refine ⟨⟨outline now b, ofBundle_alone now b⟩, ?_⟩
  intro context md h
  refine ⟨?_, fun p e hfirst => isSettledBy_first h hfirst, ?_⟩
  · rw [configurationNames_ofBundle h, configurationNames_outline]
  · rintro r hr ⟨htype, hnone⟩
    refine ⟨_, configuration?_useName h (.inr ⟨r, hr, htype, rfl⟩), ?_⟩
    rw [usesOf_of_not_exported hnone]
    rfl

/-- A bundle that exports a package twice and requires one of its own packages. -/
def layered : Bundle where
  symbolicName := "layered"
  version := "1.0.0"
  exports := [⟨"api", "1.1", .ofList ["log", "api.spi"]⟩, ⟨"api.spi", "1.0", .ofList []⟩,
    ⟨"api", "1.0", .ofList ["xml"]⟩]
  requirements := [⟨packageType, "log", none, optional⟩, ⟨packageType, "api", none, mandatory⟩,
    ⟨environmentType, "JavaSE-1.8", none, mandatory⟩,
    ⟨packageType, "log", some "[1,2)", mandatory⟩]
  artifacts := [⟨some "layered.jar", none, false⟩]
  environments := ["JavaSE-1.8"]
  hasInnerClasspath := false

theorem ofBundle_configurations_layered :
    ∃ md, Descriptor.ofBundle ⟨⟨2024, 1, 2⟩, 3, 4, 5, 0, some .utc⟩
        ⟨none, some [("_osgi_export_api", "9")], none⟩ layered = .ok md ∧
      md.configurationNames = ["default", "optional", "transitive-optional", "use_api",
        "use_api.spi", "use_log"] ∧
      IsSettledBy md "api" ⟨"api", "1.1", .ofList ["log", "api.spi"]⟩ ∧
      ∃ c, md.configuration? "use_log" = some c ∧ c.parents = ["default"] := by
  have hmd : ∃ md, Descriptor.ofBundle ⟨⟨2024, 1, 2⟩, 3, 4, 5, 0, some .utc⟩
      ⟨none, some [("_osgi_export_api", "9")], none⟩ layered = .ok md := ⟨_, rfl⟩
  obtain ⟨md, hmd⟩ := hmd
  obtain ⟨hnames, hexported, himported⟩ := (ofBundle_configurations _ layered).2 _ md hmd
  refine ⟨md, hmd, hnames.trans (by decide), hexported "api" _ rfl, ?_⟩
  exact himported ⟨packageType, "log", none, optional⟩ (by decide) (by decide)

end OsgiIvy.Bundle
