import Shapesmith.Binary64
import Shapesmith.Bisect
import Shapesmith.Builder.Artifact
import Shapesmith.Builder.Generate
import Shapesmith.CommandLine.Arguments
import Shapesmith.CommandLine.Disk
import Shapesmith.CommandLine.Glob
import Shapesmith.CommandLine.Path
import Shapesmith.CommandLine.Run
import Shapesmith.Compilation
import Shapesmith.Constraint.Acceptance
import Shapesmith.Constraint.Check
import Shapesmith.Constraint.Reach
import Shapesmith.Constraint.Violation
import Shapesmith.Evaluate
import Shapesmith.Failure
import Shapesmith.Graph
import Shapesmith.Json.Basic
import Shapesmith.Json.Fault
import Shapesmith.Json.Print
import Shapesmith.Json.Read
import Shapesmith.Json.Record
import Shapesmith.Main
import Shapesmith.Model.Assemble
import Shapesmith.Model.Basic
import Shapesmith.Model.Document
import Shapesmith.Model.Prelude
import Shapesmith.Pattern.Basic
import Shapesmith.Pattern.Class
import Shapesmith.Pattern.Compile
import Shapesmith.Pattern.Fault
import Shapesmith.Pattern.Machine
import Shapesmith.Pattern.Parse
import Shapesmith.Pattern.Simplify
import Shapesmith.Pattern.Tree
import Shapesmith.Placeholder
import Shapesmith.Power
import Shapesmith.Proofs.Binary64.Rounding
import Shapesmith.Proofs.Builder.Build
import Shapesmith.Proofs.Builder.Clashes
import Shapesmith.Proofs.Builder.Compiled
import Shapesmith.Proofs.Builder.Coverage
import Shapesmith.Proofs.Builder.Direct
import Shapesmith.Proofs.Builder.Ends
import Shapesmith.Proofs.Builder.Expressed
import Shapesmith.Proofs.Builder.Fields
import Shapesmith.Proofs.Builder.Infallible
import Shapesmith.Proofs.Builder.Located
import Shapesmith.Proofs.Builder.Modes
import Shapesmith.Proofs.Builder.Naming
import Shapesmith.Proofs.Builder.Order
import Shapesmith.Proofs.Builder.Payloads
import Shapesmith.Proofs.Builder.Presence
import Shapesmith.Proofs.Builder.References
import Shapesmith.Proofs.Builder.Reordered
import Shapesmith.Proofs.Builder.Results
import Shapesmith.Proofs.Builder.Shared
import Shapesmith.Proofs.Builder.Surface
import Shapesmith.Proofs.Constraint.Accepted
import Shapesmith.Proofs.Constraint.Breaks
import Shapesmith.Proofs.Constraint.Exact
import Shapesmith.Proofs.Constraint.Faults
import Shapesmith.Proofs.Constraint.Patterns
import Shapesmith.Proofs.Constraint.Ranges
import Shapesmith.Proofs.Constraint.Reach
import Shapesmith.Proofs.Evaluation.AcceptedDefault
import Shapesmith.Proofs.Evaluation.Again
import Shapesmith.Proofs.Evaluation.Becomes
import Shapesmith.Proofs.Evaluation.Bound
import Shapesmith.Proofs.Evaluation.Clean
import Shapesmith.Proofs.Evaluation.Completed
import Shapesmith.Proofs.Evaluation.Defaults
import Shapesmith.Proofs.Evaluation.Located
import Shapesmith.Proofs.Evaluation.Parts
import Shapesmith.Proofs.Evaluation.Position
import Shapesmith.Proofs.Evaluation.Reordered
import Shapesmith.Proofs.Evaluation.Report
import Shapesmith.Proofs.Evaluation.Slots
import Shapesmith.Proofs.Evaluation.Verdict
import Shapesmith.Proofs.Graph.DepthFirst
import Shapesmith.Proofs.Graph.Preorder
import Shapesmith.Proofs.Graph.Reachable
import Shapesmith.Proofs.Json.Distinct
import Shapesmith.Proofs.Json.Same
import Shapesmith.Proofs.Json.Subtrees
import Shapesmith.Proofs.Model.Assembled
import Shapesmith.Proofs.Model.Boxing
import Shapesmith.Proofs.Model.Declared
import Shapesmith.Proofs.Model.Integrity
import Shapesmith.Proofs.Model.Merging
import Shapesmith.Proofs.Model.Order
import Shapesmith.Proofs.Model.Same
import Shapesmith.Proofs.Model.Shared
import Shapesmith.Proofs.Model.Traversal
import Shapesmith.Proofs.Model.Walk
import Shapesmith.Proofs.Pattern.Classes
import Shapesmith.Proofs.Protocol.Exception
import Shapesmith.Proofs.Protocol.Resolution
import Shapesmith.Proofs.Sequence.Agreement
import Shapesmith.Proofs.Sequence.Concur
import Shapesmith.Proofs.Sequence.Places
import Shapesmith.Proofs.Sequence.Success
import Shapesmith.Proofs.Settings.RoundTrip
import Shapesmith.Proofs.ShapeId.Containers
import Shapesmith.Proofs.ShapeId.Spelling
import Shapesmith.Proofs.Symbol.Expression
import Shapesmith.Proofs.Symbol.Finite
import Shapesmith.Proofs.Symbol.Nesting
import Shapesmith.Proofs.Symbol.Shared
import Shapesmith.Proofs.Symbol.Stages
import Shapesmith.Proofs.Symbol.Surface
import Shapesmith.Proofs.Symbol.Total
import Shapesmith.Proofs.Symbol.Unambiguous
import Shapesmith.Proofs.Symbol.Uniform
import Shapesmith.Proofs.Symbol.VariantNames
import Shapesmith.Proofs.Symbol.Variants
import Shapesmith.Proofs.Symbol.WellNamed
import Shapesmith.Proofs.Table.Keys
import Shapesmith.Proofs.Text.Bytes
import Shapesmith.Proofs.Text.Pointer
import Shapesmith.Protocol.Basic
import Shapesmith.Protocol.Registry
import Shapesmith.Sequence
import Shapesmith.Settings
import Shapesmith.Shape
import Shapesmith.ShapeId
import Shapesmith.Symbol.Basic
import Shapesmith.Symbol.CodeType
import Shapesmith.Symbol.Constrained
import Shapesmith.Symbol.Naming
import Shapesmith.Symbol.Plain
import Shapesmith.Symbol.Rows
import Shapesmith.Symbol.Violations
import Shapesmith.Table
import Shapesmith.Text.Quoted
import Shapesmith.Text.Words
import Shapesmith.Trait
import Shapesmith.Unicode.AgeRuns
import Shapesmith.Unicode.BreakRuns
import Shapesmith.Unicode.Case
import Shapesmith.Unicode.CaseRuns
import Shapesmith.Unicode.Category
import Shapesmith.Unicode.CategoryRuns
import Shapesmith.Unicode.PropertyRuns
import Shapesmith.Unicode.ScriptRuns
