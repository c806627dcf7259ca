import OsgiIvy.Module.Descriptor
import OsgiIvy.Screen.Layout
import OsgiIvy.Screen.Markup

/-!
# Display

What is shown on the screen: titles, rows of tables and plain lines.  Texts in tables are markup, in
which names of emoji are replaced; escaped, they are shown as they are otherwise.
-/

namespace OsgiIvy.CommandLine

inductive Line
  | title (text : String)
  | row (cells : List String)
  | plain (text : String)
deriving DecidableEq, Repr

namespace Line

def draw : Line → String
  | .title text => text
  | .row cells => "│ " ++ " │ ".intercalate cells ++ " │"
  | .plain text => text

end Line

namespace Display

/-- What is seen of a text in a table. -/
def cell (s : String) : List Char := Screen.visible (Screen.escape s.toList)

/-- A table under its title; the first row holds the names of the columns. -/
def table (title : String) (rows : List (List (List Char))) : List Line :=
  .title title :: (Screen.tableRows rows).map .row

/-- A frame with a title around a text in bold letters. -/
def frame (title text : String) : List Line :=
  let inner := "[bold]".toList ++ Screen.escape text.toList ++ "[/bold]".toList
  .title title :: (Screen.frameRows (Screen.visible inner)).map .row

def counted (n : Nat) (things : String) : String := toString n ++ " " ++ things

def configurationRow (d : ModuleDescriptor) (c : Configuration String Bool) : List (List Char) :=
  let parents := ", ".intercalate c.parents
  [cell c.name, if parents = "" then ['-'] else cell parents,
    (toString (d.artifactsOf c.name).length).toList]

def dependencyRow (e : Dependency String Bool) : List (List Char) :=
  [cell e.revision.text, cell (", ".intercalate (e.mappings.map fun m => m.1 ++ "->" ++ m.2))]

/-- The configurations and dependencies of a descriptor. -/
def summary (d : ModuleDescriptor) : List Line :=
  frame "Module Descriptor" d.revision.text ++
  table "Configurations"
    (["Name", "Extends", "Artifacts"].map String.toList ::
      d.configurations.map (configurationRow d)) ++
  (if d.dependencies.isEmpty then [.plain "No dependencies."]
    else table "Dependencies"
      (["Module", "Configuration Mapping"].map String.toList ::
        d.dependencies.map dependencyRow)) ++
  [.plain (" | ".intercalate [
    counted d.configurations.length "configurations",
    counted d.dependencies.length "dependencies",
    counted d.allArtifacts.length "artifacts",
    counted d.excludeRules.length "exclude rules"])]

/-- The parts of an artifact that its URI has, with their names. -/
def artifactFields (a : Artifact String) : List (String × Option String) :=
  [("organisation", some a.revision.organisation), ("name", some a.revision.name),
    ("branch", a.revision.branch), ("revision", a.revision.revision), ("type", a.type),
    ("artifact", a.name), ("ext", a.ext)]

def artifactTable (a : Artifact String) : List Line :=
  table "Ivy Artifact" (["Field", "Value"].map String.toList ::
    (artifactFields a).map fun f => [f.1.toList, (f.2.map cell).getD ['-']])

/-- The parts of an artifact as JSON values. -/
def artifactObject (a : Artifact String) : Value :=
  .object ((artifactFields a).map fun f => (f.1, Field.optionValue f.2))

end Display

end OsgiIvy.CommandLine
