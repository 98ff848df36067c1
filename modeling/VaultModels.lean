import VaultModels.Code.Layout
import VaultModels.Command.Arguments
import VaultModels.Command.Error
import VaultModels.Command.KindName
import VaultModels.Command.Run
import VaultModels.Files.FileSystem
import VaultModels.Files.Tree
import VaultModels.Guid
import VaultModels.Json.Codec
import VaultModels.Json.Fault
import VaultModels.Json.Number
import VaultModels.Json.Skip
import VaultModels.Json.Text
import VaultModels.Main
import VaultModels.Model.Accessor
import VaultModels.Model.Artifact
import VaultModels.Model.ClassFile
import VaultModels.Model.Enumeration
import VaultModels.Model.Options
import VaultModels.Model.Refusal
import VaultModels.Model.TypeBase
import VaultModels.Model.Wrapper
import VaultModels.Model.WrapperText
import VaultModels.Name
import VaultModels.Name.Scope
import VaultModels.Path
import VaultModels.Project.Disk
import VaultModels.Project.Plan
import VaultModels.Project.Rendering
import VaultModels.Project.WriteError
import VaultModels.Project.Writer
import VaultModels.Proofs.Model.Emission
import VaultModels.Proofs.Model.FilePath
import VaultModels.Proofs.Model.Outages
import VaultModels.Proofs.Name.Identifier
import VaultModels.Proofs.Path.Order
import VaultModels.Proofs.Path.Segments
import VaultModels.Proofs.Project.Applying
import VaultModels.Proofs.Project.Files
import VaultModels.Proofs.Project.Generating
import VaultModels.Proofs.Project.HandEdits
import VaultModels.Proofs.Project.Outages
import VaultModels.Proofs.Project.PlanCall
import VaultModels.Proofs.Project.Planning
import VaultModels.Proofs.Project.Regeneration
import VaultModels.Proofs.Project.Walk
import VaultModels.Proofs.Resolution.ById
import VaultModels.Proofs.Session.Outages
import VaultModels.Proofs.Session.Over
import VaultModels.Proofs.Session.Paths
import VaultModels.Proofs.Session.Remembered
import VaultModels.Resolution.Error
import VaultModels.Resolution.Identifier
import VaultModels.Resolution.IdentifierCodec
import VaultModels.Resolution.Lookup
import VaultModels.Resolution.ObjectReference
import VaultModels.Resolution.Reference
import VaultModels.Resolution.TextForm
import VaultModels.RunError
import VaultModels.Schema.Backend
import VaultModels.Schema.Codecs
import VaultModels.Schema.Element
import VaultModels.Schema.Error
import VaultModels.Schema.Kind
import VaultModels.Schema.Query
import VaultModels.Schema.Snapshot
import VaultModels.Schema.ValueKind
import VaultModels.Session
import VaultModels.Settings.Basic
import VaultModels.Settings.Error
import VaultModels.Settings.File
import VaultModels.SystemError
import VaultModels.Text.Blank
import VaultModels.Text.CaseFold
import VaultModels.Text.Decimal
import VaultModels.Text.DocComment
import VaultModels.Text.Double
import VaultModels.Text.GeneralCategory
import VaultModels.Text.Literal
import VaultModels.Toml.Document
import VaultModels.Toml.Number
import VaultModels.Toml.Scalar
import VaultModels.Toml.Text
import VaultModels.Toml.Value
import VaultModels.Proofs.Model.Faults
import VaultModels.Proofs.Model.Inventory
import VaultModels.Proofs.Project.Rendering
import VaultModels.Proofs.Project.Dangling
import VaultModels.Proofs.Code.Printing
import VaultModels.Proofs.Model.Headers
import VaultModels.Proofs.Model.Namesakes
import VaultModels.Proofs.Project.References
import VaultModels.Proofs.Project.Pairs
import VaultModels.Proofs.Model.Subjects
import VaultModels.Proofs.Session.Heard
import VaultModels.Proofs.Project.DeclaredOnce
import VaultModels.Proofs.Project.Duplicates
import VaultModels.Proofs.Project.Confinement
import VaultModels.Proofs.Text.Blank
import VaultModels.Proofs.Text.CaseFold
import VaultModels.Proofs.Text.Decimal
import VaultModels.Proofs.Text.Literal
import VaultModels.Proofs.Guid.Canonical
import VaultModels.Proofs.Resolution.Lookup
import VaultModels.Proofs.Resolution.PropertyReference
import VaultModels.Proofs.Resolution.Attempt
import VaultModels.Proofs.Schema.FetchOnce
import VaultModels.Proofs.Resolution.AliasText
import VaultModels.Proofs.Resolution.Remembering
import VaultModels.Proofs.Session.Ends
import VaultModels.Proofs.Resolution.Asking
import VaultModels.Proofs.Resolution.Lifecycle
import VaultModels.Proofs.Resolution.Memoising
import VaultModels.Proofs.Json.Text
import VaultModels.Proofs.Json.Number
import VaultModels.Proofs.Json.Codec
import VaultModels.Proofs.Json.Object
import VaultModels.Proofs.Schema.RoundTrip
import VaultModels.Proofs.Resolution.Form
import VaultModels.Proofs.Name.Scope
import VaultModels.Proofs.Model.Members
import VaultModels.Proofs.Name.Format
import VaultModels.Proofs.Name.Search
import VaultModels.Proofs.Name.History
import VaultModels.Proofs.Model.MemberNames
import VaultModels.Proofs.Guid.Value
import VaultModels.Proofs.Resolution.StoredGuid
import VaultModels.Proofs.Text.Terminators
import VaultModels.Proofs.Code.SourceLines
import VaultModels.Proofs.Model.SourceText
import VaultModels.Proofs.Project.SourceLines
import VaultModels.Proofs.Resolution.PaddedText
import VaultModels.Proofs.Resolution.SourceId
import VaultModels.Proofs.Session.Trace
import VaultModels.Proofs.Resolution.Calls
import VaultModels.Proofs.Session.InStep
import VaultModels.Proofs.Resolution.Rereading
import VaultModels.Proofs.Text.Numeral
import VaultModels.Proofs.Resolution.ObjectText
import VaultModels.Proofs.Text.DocComment
import VaultModels.Proofs.Model.CodeLines
import VaultModels.Proofs.Model.EnumText
import VaultModels.Proofs.Model.Appending
import VaultModels.Proofs.Project.StalePlans
import VaultModels.Proofs.Project.Looking
import VaultModels.Proofs.Model.AddedClass
import VaultModels.Proofs.Project.AddedClass
import VaultModels.Proofs.Model.LineEndings
import VaultModels.Proofs.Project.LineEndings
import VaultModels.Proofs.Path.Steps
import VaultModels.Proofs.Files.Tree
import VaultModels.Proofs.Files.Growth
import VaultModels.Proofs.Project.DryRun
import VaultModels.Proofs.Code.Nesting
import VaultModels.Proofs.Project.Nesting
import VaultModels.Proofs.Guid.Forms
import VaultModels.Proofs.Model.Skipped
