import ContentModels.Log
import ContentModels.Main
import ContentModels.Store.Memory
import ContentModels.Watch
import ContentModels.Proofs.Plan.Merging
import ContentModels.Proofs.Plan.OneType
import ContentModels.Proofs.Plan.AllTypes
import ContentModels.Proofs.Plan.Linearisation
import ContentModels.Proofs.Plan.Accounting
import ContentModels.Proofs.Plan.References
import ContentModels.Proofs.Plan.Accessors
import ContentModels.Proofs.Plan.Lookup
import ContentModels.Proofs.Plan.Extension
import ContentModels.Proofs.Plan.Order
import ContentModels.Proofs.Path
import ContentModels.Proofs.Text.Words
import ContentModels.Proofs.Naming.Identifiers
import ContentModels.Proofs.Naming.FileNames
import ContentModels.Proofs.Source.Quoting
import ContentModels.Proofs.Rendering.Lines
import ContentModels.Proofs.Rendering.Renaming
import ContentModels.Proofs.Rendering.Modules
import ContentModels.Proofs.Rendering.Exports
import ContentModels.Proofs.Rendering.Members
import ContentModels.Proofs.Run.Transcript
import ContentModels.Proofs.Store.Memory
import ContentModels.Proofs.Run.Phases
import ContentModels.Proofs.Run.Execution
import ContentModels.Proofs.Run.Repeat
import ContentModels.Proofs.FileTree.Frame
import ContentModels.Proofs.FileTree.Walk
import ContentModels.Proofs.FileTree.Access
import ContentModels.Proofs.Glob.Listing
import ContentModels.Proofs.Disk.Calls
import ContentModels.Proofs.Disk.Steps
import ContentModels.Proofs.Disk.Dry
import ContentModels.Proofs.Disk.Settled
import ContentModels.Proofs.Disk.Preview
import ContentModels.Proofs.Validation
import ContentModels.Proofs.Disk.UpToDate
import ContentModels.Proofs.Verdict
import ContentModels.Proofs.Run.Preview
import ContentModels.Proofs.Run.Kept
import ContentModels.Proofs.Status.Persistence
import ContentModels.Proofs.Status.History
import ContentModels.Proofs.Run.Interleaving
import ContentModels.Proofs.Run.Tenure
import ContentModels.Proofs.FileTree.Spelling
import ContentModels.Proofs.Disk.Machine
import ContentModels.Proofs.Disk.Exclusion
import ContentModels.Proofs.Disk.Guards
import ContentModels.Proofs.Sorted.Part
import ContentModels.Proofs.Run.Beside
import ContentModels.Proofs.Command.Steps
import ContentModels.Proofs.Command.Traces
import ContentModels.Proofs.Json.Reading
import ContentModels.Proofs.Json.Layout
import ContentModels.Proofs.Schema.Documents
import ContentModels.Proofs.Run.Artifact
import ContentModels.Proofs.Source.Lexing
import ContentModels.Proofs.HandFile.Merging
import ContentModels.Proofs.HandFile.Suppression
import ContentModels.Proofs.Plan.Suppression
import ContentModels.Proofs.Plan.Collisions
import ContentModels.Proofs.Run.Coupling
import ContentModels.Proofs.Run.Unreadable
import ContentModels.Proofs.Disk.Unreadable
import ContentModels.Proofs.Source.Masking
import ContentModels.Proofs.Rendering.Confinement
import ContentModels.Proofs.HandFile.Imports
import ContentModels.Proofs.Rendering.Imports
import ContentModels.Proofs.Plan.Settling
import ContentModels.Proofs.Plan.Composing
import ContentModels.Proofs.Plan.Cycles
import ContentModels.Proofs.Plan.Disagreement
import ContentModels.Proofs.Plan.ValueTypes
import ContentModels.Proofs.Plan.Warnings
import ContentModels.Proofs.HandFile.Union
import ContentModels.Proofs.Plan.Merged
import ContentModels.Proofs.Source.Agree
import ContentModels.Proofs.Source.Agree.Types
import ContentModels.Proofs.Source.Agree.Expressions
import ContentModels.Proofs.Source.Agree.Items
import ContentModels.Proofs.Source.Running
import ContentModels.Proofs.HandFile.Markers
import ContentModels.Proofs.HandFile.Refusal
import ContentModels.Proofs.Source.Appending
import ContentModels.Proofs.Source.Appending.Tokens
import ContentModels.Proofs.Source.Chunks
import ContentModels.Proofs.Source.Reads.Lists
import ContentModels.Proofs.Source.Reads.Uses
import ContentModels.Proofs.Rendering.SelfImports
import ContentModels.Proofs.Rendering.ReadBack.Model
import ContentModels.Proofs.Disk.Acquiring
import ContentModels.Proofs.FileTree.Canonical
import ContentModels.Proofs.Watch
