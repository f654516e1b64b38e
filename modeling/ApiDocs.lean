import ApiDocs.Calendar
import ApiDocs.Command.Arguments
import ApiDocs.Command.Basic
import ApiDocs.Command.Run
import ApiDocs.Decimal.Binary64
import ApiDocs.Decimal.Shortest
import ApiDocs.Document.Basic
import ApiDocs.Document.Defect
import ApiDocs.Document.File
import ApiDocs.Document.Reading
import ApiDocs.FileSystem.Access
import ApiDocs.FileSystem.Basic
import ApiDocs.FileSystem.Location
import ApiDocs.Json.Basic
import ApiDocs.Json.Reader
import ApiDocs.Keyed
import ApiDocs.Log
import ApiDocs.Main
import ApiDocs.Navigation.Basic
import ApiDocs.Navigation.Compile
import ApiDocs.Navigation.Sidebar
import ApiDocs.Navigation.Uniqueness
import ApiDocs.Output.Documents
import ApiDocs.Output.Emit
import ApiDocs.Output.Generated
import ApiDocs.Output.SavedSidebar
import ApiDocs.Page.Link
import ApiDocs.Page.Markup
import ApiDocs.Page.Render
import ApiDocs.Page.Section
import ApiDocs.Record
import ApiDocs.Reference
import ApiDocs.Settings
import ApiDocs.Slug.Registry
import ApiDocs.Slug.Words
import ApiDocs.Text.Base64
import ApiDocs.Text.Basic
import ApiDocs.Text.Blank
import ApiDocs.Text.Case
import ApiDocs.Text.DecimalDigit
import ApiDocs.Text.Decomposition
import ApiDocs.Text.Digits
import ApiDocs.Text.File
import ApiDocs.Text.Printable
import ApiDocs.Text.Quoted
import ApiDocs.Text.Styling
import ApiDocs.Value.Basic
import ApiDocs.Value.Json
import ApiDocs.Value.Order
import ApiDocs.Value.Text
import ApiDocs.Yaml.Block
import ApiDocs.Yaml.Character
import ApiDocs.Yaml.Content
import ApiDocs.Yaml.Conversion
import ApiDocs.Yaml.Cursor
import ApiDocs.Yaml.Fault
import ApiDocs.Yaml.Merge
import ApiDocs.Yaml.Node
import ApiDocs.Yaml.Pen
import ApiDocs.Yaml.Reading
import ApiDocs.Yaml.Resolution
import ApiDocs.Yaml.Style
import ApiDocs.Yaml.Token.Basic
import ApiDocs.Yaml.Token.Stream
import ApiDocs.Yaml.Token.Text
import ApiDocs.Proofs.FileSystem.Lookup
import ApiDocs.Proofs.FileSystem.Program
import ApiDocs.Proofs.FileSystem.Walk
import ApiDocs.Proofs.Navigation.Clashes
import ApiDocs.Proofs.Navigation.Arrangement
import ApiDocs.Proofs.Navigation.Grouping
import ApiDocs.Proofs.Navigation.Growth
import ApiDocs.Proofs.Outcome
import ApiDocs.Proofs.Slug.Assignment
import ApiDocs.Proofs.Slug.Shape
import ApiDocs.Proofs.Output.Frame
import ApiDocs.Proofs.Output.Cleaning
import ApiDocs.Proofs.Output.Writing
import ApiDocs.Proofs.Output.Builds
import ApiDocs.Proofs.Json.Strings
import ApiDocs.Proofs.Json.Layout
import ApiDocs.Proofs.Json.RoundTrip
import ApiDocs.Proofs.Navigation.SavedSidebar
import ApiDocs.Proofs.Yaml.Strokes
import ApiDocs.Proofs.Yaml.Scalars
import ApiDocs.Proofs.Yaml.Mappings
import ApiDocs.Proofs.Document.Methods
import ApiDocs.Proofs.Document.Shape
import ApiDocs.Proofs.Document.Acceptance
import ApiDocs.Proofs.Document.Verdict
import ApiDocs.Proofs.Page.FrontMatter
import ApiDocs.Proofs.Output.Documents
import ApiDocs.Proofs.Output.Checking
import ApiDocs.Proofs.Output.PageFiles
import ApiDocs.Proofs.Output.SidebarFile
import ApiDocs.Proofs.Document.Refusals
import ApiDocs.Proofs.Output.Faults
import ApiDocs.Proofs.Command.Effects
import ApiDocs.Proofs.Navigation.Prefixes
import ApiDocs.Proofs.Output.Prefixes
import ApiDocs.Proofs.Navigation.SidebarModule
import ApiDocs.Proofs.Command.Printing
import ApiDocs.Proofs.Slug.Requests
import ApiDocs.Proofs.Slug.Boundaries
import ApiDocs.Proofs.Slug.Projection
import ApiDocs.Proofs.Navigation.Labels
import ApiDocs.Proofs.Slug.Expression
import ApiDocs.Proofs.Text.Marks
import ApiDocs.Proofs.Text.Normalization
import ApiDocs.Proofs.Slug.Ascii
import ApiDocs.Proofs.Slug.Punctuation
import ApiDocs.Proofs.Slug.Accents
import ApiDocs.Proofs.Decimal.Normal
import ApiDocs.Proofs.Decimal.Rounding
import ApiDocs.Proofs.Value.Keys
import ApiDocs.Proofs.Yaml.Numbers
import ApiDocs.Proofs.Document.Operations
import ApiDocs.Proofs.Keyed.Repeated
import ApiDocs.Proofs.Document.Parameters
import ApiDocs.Proofs.Document.Dialects
import ApiDocs.Proofs.Text.Splitting
import ApiDocs.Proofs.Text.Escapes
import ApiDocs.Proofs.Page.Markup
import ApiDocs.Proofs.Page.Tables
import ApiDocs.Proofs.Text.Digits
import ApiDocs.Proofs.Json.Atoms
import ApiDocs.Proofs.Json.Lines
import ApiDocs.Proofs.Value.Json
import ApiDocs.Proofs.Page.Schemas
import ApiDocs.Proofs.Settings.Fields
import ApiDocs.Proofs.Settings.Loading
import ApiDocs.Proofs.Settings.Precedence
import ApiDocs.Proofs.Command.Loading
import ApiDocs.Proofs.Page.Links
