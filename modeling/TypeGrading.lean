import TypeGrading.Cache
import TypeGrading.Command.Arguments
import TypeGrading.Command.Failure
import TypeGrading.Command.Libraries
import TypeGrading.Command.Process
import TypeGrading.Command.Run
import TypeGrading.Compare
import TypeGrading.Compare.Descriptors
import TypeGrading.Config.Basic
import TypeGrading.Config.Loading
import TypeGrading.Config.Reader
import TypeGrading.Descriptor.Error
import TypeGrading.Descriptor.Reader
import TypeGrading.Dialogue
import TypeGrading.Divergence
import TypeGrading.Event
import TypeGrading.Files.Canonical
import TypeGrading.Files.FileSystem
import TypeGrading.Files.Path
import TypeGrading.Files.Volume
import TypeGrading.Grade
import TypeGrading.Hierarchy
import TypeGrading.Log.Filter
import TypeGrading.Log.Format
import TypeGrading.Log.Record
import TypeGrading.Pattern.Engine
import TypeGrading.Pattern.Expr
import TypeGrading.Pattern.Meaning
import TypeGrading.Pattern.NamePattern
import TypeGrading.Pattern.Reader
import TypeGrading.Pattern.Reader.Brackets
import TypeGrading.Pattern.Reader.Escape
import TypeGrading.Pattern.Reader.Operators
import TypeGrading.Pattern.Regex
import TypeGrading.Pattern.Standard
import TypeGrading.Relation
import TypeGrading.Table
import TypeGrading.Text.Blank
import TypeGrading.Text.Hex
import TypeGrading.Text.Json
import TypeGrading.Text.Quoted
import TypeGrading.Tree.Arena
import TypeGrading.Tree.Build
import TypeGrading.Tree.Node
import TypeGrading.Tree.TypeExpr
import TypeGrading.Unicode.CaseFolding
import TypeGrading.Unicode.CaseFolding.Table
import TypeGrading.Unicode.Category
import TypeGrading.Unicode.Category.Table
import TypeGrading.Unicode.Names
import TypeGrading.Unicode.Property
import TypeGrading.Unicode.Property.Table
import TypeGrading.Unicode.Ranges
import TypeGrading.Unicode.Script
import TypeGrading.Unicode.Script.Table
import TypeGrading.Proofs.Cache.History
import TypeGrading.Proofs.Cache.Sharing
import TypeGrading.Proofs.Command.Agreement
import TypeGrading.Proofs.Compare.Differences
import TypeGrading.Proofs.Compare.Explanation
import TypeGrading.Proofs.Compare.Grading
import TypeGrading.Proofs.Compare.Identity
import TypeGrading.Proofs.Compare.Layout
import TypeGrading.Proofs.Compare.Levels
import TypeGrading.Proofs.Compare.Mirror
import TypeGrading.Proofs.Compare.Order
import TypeGrading.Proofs.Compare.Questions
import TypeGrading.Proofs.Config.Chains
import TypeGrading.Proofs.Config.Entries
import TypeGrading.Proofs.Descriptor.Acceptance
import TypeGrading.Proofs.Descriptor.Appending
import TypeGrading.Proofs.Descriptor.Atomicity
import TypeGrading.Proofs.Descriptor.Calls
import TypeGrading.Proofs.Descriptor.Causes
import TypeGrading.Proofs.Descriptor.Closing
import TypeGrading.Proofs.Descriptor.Cursor
import TypeGrading.Proofs.Descriptor.Descending
import TypeGrading.Proofs.Descriptor.Edits
import TypeGrading.Proofs.Descriptor.Grafting
import TypeGrading.Proofs.Descriptor.Grammar
import TypeGrading.Proofs.Descriptor.Positions
import TypeGrading.Proofs.Descriptor.Printing
import TypeGrading.Proofs.Descriptor.Reading
import TypeGrading.Proofs.Descriptor.Refusal
import TypeGrading.Proofs.Descriptor.RoundTrip
import TypeGrading.Proofs.Descriptor.Steps
import TypeGrading.Proofs.Descriptor.Stopping
import TypeGrading.Proofs.Descriptor.Undoing
import TypeGrading.Proofs.Descriptor.Viability
import TypeGrading.Proofs.Hierarchy.Climbing
import TypeGrading.Proofs.Hierarchy.Closure
import TypeGrading.Proofs.Hierarchy.Cycles
import TypeGrading.Proofs.Hierarchy.Descent
import TypeGrading.Proofs.Hierarchy.Edits
import TypeGrading.Proofs.Hierarchy.Order
import TypeGrading.Proofs.Hierarchy.Recording
import TypeGrading.Proofs.Hierarchy.Searching
import TypeGrading.Proofs.Hierarchy.Swapping
import TypeGrading.Proofs.Hierarchy.Writing
import TypeGrading.Proofs.Pattern.Anchoring
import TypeGrading.Proofs.Pattern.Bracketing
import TypeGrading.Proofs.Pattern.Consuming
import TypeGrading.Proofs.Pattern.Escaping
import TypeGrading.Proofs.Pattern.Manual
import TypeGrading.Proofs.Pattern.Matching
import TypeGrading.Proofs.Pattern.Nesting
import TypeGrading.Proofs.Pattern.Standard
import TypeGrading.Proofs.Pattern.WholeNames
import TypeGrading.Proofs.Recursion
import TypeGrading.Proofs.Text.Bytes
import TypeGrading.Proofs.Text.Json
import TypeGrading.Proofs.Text.Trimming
import TypeGrading.Proofs.Tree.Depths
import TypeGrading.Proofs.Tree.Expressions
import TypeGrading.Proofs.Tree.Forgetting
import TypeGrading.Proofs.Tree.Growing
import TypeGrading.Proofs.Tree.Links
import TypeGrading.Proofs.Tree.Paths
import TypeGrading.Proofs.Tree.Placing
import TypeGrading.Proofs.Tree.Preorder
import TypeGrading.Proofs.Tree.WellFormed
