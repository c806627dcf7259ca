import OsgiIvy.Assoc
import OsgiIvy.Sorted
import OsgiIvy.Text.Blank
import OsgiIvy.Text.Lines
import OsgiIvy.Text.Quoted
import OsgiIvy.Time.Moment
import OsgiIvy.Value.Text
import OsgiIvy.Value.Order
import OsgiIvy.Json.Printer
import OsgiIvy.Json.Reader
import OsgiIvy.Manifest.Clause
import OsgiIvy.Manifest.Section
import OsgiIvy.Bundle.OfManifest
import OsgiIvy.Uri.Join
import OsgiIvy.Module.Location
import OsgiIvy.Module.Snapshot
import OsgiIvy.Settings
import OsgiIvy.Bundle.OfValue
import OsgiIvy.Bundle.Descriptor
import OsgiIvy.Module.Extending
import OsgiIvy.Report.Fixed
import OsgiIvy.Yaml.Cursor
import OsgiIvy.Yaml.PlainText
import OsgiIvy.Yaml.QuotedText
import OsgiIvy.Yaml.BlockText
import OsgiIvy.Yaml.Property
import OsgiIvy.Yaml.Directive
import OsgiIvy.Yaml.Draft
import OsgiIvy.Yaml.Token
import OsgiIvy.Yaml.Number
import OsgiIvy.Yaml.PlainValue
import OsgiIvy.Yaml.Kind
import OsgiIvy.Yaml.Node
import OsgiIvy.Yaml.Document
import OsgiIvy.Yaml.Reader
import OsgiIvy.Bundle.OfFile
import OsgiIvy.Files.Configuration
import OsgiIvy.Screen.Markup
import OsgiIvy.Screen.Emoji
import OsgiIvy.Screen.Width
import OsgiIvy.Screen.Codes
import OsgiIvy.Screen.Layout
import OsgiIvy.CommandLine.Run
import OsgiIvy.Main
import OsgiIvy.Proofs.Reachability
import OsgiIvy.Proofs.Mappings
import OsgiIvy.Proofs.Outcomes
import OsgiIvy.Proofs.NameSets
import OsgiIvy.Proofs.Profile.Inheritance
import OsgiIvy.Proofs.Profile.Reading
import OsgiIvy.Proofs.Module.Routes
import OsgiIvy.Proofs.Module.Registered
import OsgiIvy.Proofs.Bundle.Parts
import OsgiIvy.Proofs.Bundle.Edges
import OsgiIvy.Proofs.Bundle.Activation
import OsgiIvy.Proofs.Text.Utf8
import OsgiIvy.Proofs.Text.Points
import OsgiIvy.Proofs.Text.Percent
import OsgiIvy.Proofs.Text.Pieces
import OsgiIvy.Proofs.Module.Parameters
import OsgiIvy.Proofs.Module.IvyUri
import OsgiIvy.Proofs.Module.References
import OsgiIvy.Proofs.Uri.Halves
import OsgiIvy.Proofs.Module.Rewriting
import OsgiIvy.Proofs.Uri.Rendered
import OsgiIvy.Proofs.Uri.Joined
import OsgiIvy.Proofs.Module.Location
import OsgiIvy.Proofs.Value.Objects
import OsgiIvy.Proofs.Json.Texts
import OsgiIvy.Proofs.Json.Values
import OsgiIvy.Proofs.Json.Halves
import OsgiIvy.Proofs.Images
import OsgiIvy.Proofs.Module.Stored
import OsgiIvy.Proofs.Module.Bindings
import OsgiIvy.Proofs.Module.Told
import OsgiIvy.Proofs.Module.Snapshot
import OsgiIvy.Proofs.Module.SnapshotJson
import OsgiIvy.Proofs.Module.Edited
import OsgiIvy.Proofs.Bundle.Snapshots
import OsgiIvy.Proofs.Report.Snapshots
import OsgiIvy.Proofs.Report.Evictions
import OsgiIvy.Proofs.Report.Declared
import OsgiIvy.Proofs.Report.Recorded
import OsgiIvy.Proofs.Text.Blanks
import OsgiIvy.Proofs.Text.Lines
import OsgiIvy.Proofs.Manifest.Folding
import OsgiIvy.Proofs.Manifest.Quotes
import OsgiIvy.Proofs.Manifest.Parts
import OsgiIvy.Proofs.Manifest.Steps
import OsgiIvy.Proofs.Manifest.Equality
import OsgiIvy.Proofs.Manifest.Quoting
import OsgiIvy.Proofs.Manifest.Cuts
import OsgiIvy.Proofs.Bundle.Manifests
import OsgiIvy.Proofs.Manifest.Rendering
import OsgiIvy.Proofs.Manifest.Headers
import OsgiIvy.Proofs.Manifest.Grammar
import OsgiIvy.Proofs.Repetitions
import OsgiIvy.Proofs.Module.Registrations
import OsgiIvy.Proofs.Module.Entries
import OsgiIvy.Proofs.Report.Lookups
import OsgiIvy.Proofs.Report.Problems
import OsgiIvy.Proofs.Bundle.Conversions
import OsgiIvy.Proofs.Apart
import OsgiIvy.Proofs.Module.Tidy
import OsgiIvy.Proofs.Module.Made
import OsgiIvy.Proofs.Sorting
import OsgiIvy.Proofs.Json.Canonical
import OsgiIvy.Proofs.Module.Agreement
import OsgiIvy.Proofs.Module.Reread
import OsgiIvy.Proofs.Bundle.Files
import OsgiIvy.Proofs.Json.Contents
import OsgiIvy.Proofs.Value.Listings
import OsgiIvy.Proofs.Bundle.Descriptions
import OsgiIvy.Proofs.Profile.Refusals
import OsgiIvy.Proofs.Settings
import OsgiIvy.Proofs.Nulls
import OsgiIvy.Proofs.Module.Groups
import OsgiIvy.Proofs.Report.Edges
import OsgiIvy.Proofs.Report.Refixing
import OsgiIvy.Proofs.Bundle.Configurations
import OsgiIvy.Proofs.Bundle.Exclusions
import OsgiIvy.Proofs.Bundle.References
import OsgiIvy.Proofs.Module.Extending
import OsgiIvy.Proofs.Report.Arrivals
import OsgiIvy.Proofs.Bundle.Reordering
import OsgiIvy.Proofs.Manifest.Files
import OsgiIvy.Proofs.Manifest.Sections
import OsgiIvy.Proofs.Manifest.Sharing
import OsgiIvy.Proofs.Manifest.Paths
import OsgiIvy.Proofs.Bundle.Headers
import OsgiIvy.Proofs.Bundle.Sharing
import OsgiIvy.Proofs.Bundle.Names
import OsgiIvy.Proofs.Grouping
import OsgiIvy.Proofs.Occurrences
import OsgiIvy.Proofs.Module.FirstBindings
import OsgiIvy.Proofs.Module.Hashes
