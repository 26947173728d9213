import Hydration.Calendar.Basic
import Hydration.Calendar.Format
import Hydration.Calendar.Parse
import Hydration.Command.Arguments
import Hydration.Command.Convert
import Hydration.Command.Documents
import Hydration.Command.Perform
import Hydration.Command.Run
import Hydration.Command.Target
import Hydration.Decimal.Shortest
import Hydration.Document.Basic
import Hydration.Document.Reader
import Hydration.Files.Pattern
import Hydration.Files.Search
import Hydration.Files.Tree
import Hydration.Files.Workspace
import Hydration.Filter.Access
import Hydration.Filter.Arithmetic
import Hydration.Filter.Basic
import Hydration.Filter.Order
import Hydration.Filter.Outputs
import Hydration.Filter.Reader
import Hydration.Filter.Run
import Hydration.Filter.Token
import Hydration.Json.Basic
import Hydration.Json.Number
import Hydration.Json.Path
import Hydration.Json.Pointer
import Hydration.Json.Printer
import Hydration.Json.Scan
import Hydration.Json.Token
import Hydration.Main
import Hydration.Naming.Assignment
import Hydration.Naming.Policy
import Hydration.Naming.Registry
import Hydration.Naming.Written
import Hydration.OrderedMap
import Hydration.Outline.Plan
import Hydration.Outline.TextUnit
import Hydration.Plan.Basic
import Hydration.Plan.Builder
import Hydration.Plan.Cycles
import Hydration.Plan.Written
import Hydration.Proofs.Calendar.Digits
import Hydration.Proofs.Calendar.RoundTrip
import Hydration.Proofs.Command.Accounts
import Hydration.Proofs.Command.Sources
import Hydration.Proofs.Document.Expression
import Hydration.Proofs.Document.Graph
import Hydration.Proofs.Document.Lowering
import Hydration.Proofs.Document.Passes
import Hydration.Proofs.Document.Reading
import Hydration.Proofs.Document.WellFounded
import Hydration.Proofs.Json.Compact
import Hydration.Proofs.Json.Edits
import Hydration.Proofs.Json.Keys
import Hydration.Proofs.Json.Pointer
import Hydration.Proofs.Naming.Attempts
import Hydration.Proofs.Naming.Distinct
import Hydration.Proofs.Naming.InTurn
import Hydration.Proofs.Naming.Isolation
import Hydration.Proofs.Naming.LeftToRight
import Hydration.Proofs.Naming.Legal
import Hydration.Proofs.Naming.Order
import Hydration.Proofs.Naming.Picked
import Hydration.Proofs.Naming.Plain
import Hydration.Proofs.Naming.Registration
import Hydration.Proofs.Naming.Resolution
import Hydration.Proofs.Naming.Room
import Hydration.Proofs.Naming.Stages
import Hydration.Proofs.Outline.History
import Hydration.Proofs.Outline.Layout
import Hydration.Proofs.Outline.Lines
import Hydration.Proofs.Outline.Units
import Hydration.Proofs.Plan.Build
import Hydration.Proofs.Plan.CycleSearch
import Hydration.Proofs.Plan.Cycles
import Hydration.Proofs.Plan.Faithful
import Hydration.Proofs.Plan.Mirror
import Hydration.Proofs.Plan.Order
import Hydration.Proofs.Plan.Reach
import Hydration.Proofs.Plan.Relaxed
import Hydration.Proofs.Plan.Reordered
import Hydration.Proofs.Plan.Resembles
import Hydration.Proofs.Plan.Routing
import Hydration.Proofs.Plan.Rules
import Hydration.Proofs.Plan.Step
import Hydration.Proofs.Plan.Traced
import Hydration.Proofs.Plan.Unique
import Hydration.Proofs.Plan.Walk
import Hydration.Proofs.Structure
import Hydration.Proofs.Text.CaseMapping
import Hydration.Proofs.Text.Lines
import Hydration.Proofs.Text.Opening
import Hydration.Proofs.Transform.Canonical
import Hydration.Proofs.TypeGraph
import Hydration.Proofs.TypeGraph.History
import Hydration.Proofs.TypeGraph.Sound
import Hydration.Proofs.Typed.Alike
import Hydration.Proofs.Typed.Canonical
import Hydration.Proofs.Typed.Conformance
import Hydration.Proofs.Typed.Content
import Hydration.Proofs.Typed.Edits
import Hydration.Proofs.Typed.Equations
import Hydration.Proofs.Typed.Faults
import Hydration.Proofs.Typed.Frames
import Hydration.Proofs.Typed.HardCycles
import Hydration.Proofs.Typed.Inhabitants
import Hydration.Proofs.Typed.NormalForm
import Hydration.Proofs.Typed.Nullability
import Hydration.Proofs.Typed.Places
import Hydration.Proofs.Typed.Precedence
import Hydration.Proofs.Typed.Presence
import Hydration.Proofs.Typed.Readable
import Hydration.Proofs.Typed.Reads
import Hydration.Proofs.Typed.Rearranged
import Hydration.Proofs.Typed.Relaxed
import Hydration.Proofs.Typed.RoundTrip
import Hydration.Proofs.Typed.Shadowing
import Hydration.Proofs.Typed.Visits
import Hydration.Proofs.Typed.WellTyped
import Hydration.Proofs.Typed.Writes
import Hydration.Proofs.Typed.Written
import Hydration.Text.Alphabetic
import Hydration.Text.Blank
import Hydration.Text.Casing
import Hydration.Text.CharRange
import Hydration.Text.LetterCase
import Hydration.Text.Lines
import Hydration.Text.Printable
import Hydration.Text.Quoted
import Hydration.Transform.Kind
import Hydration.Transform.Value
import Hydration.TypeGraph.Basic
import Hydration.TypeGraph.Builder
import Hydration.TypeGraph.Shape
import Hydration.Typed.Dehydrate
import Hydration.Typed.Error
import Hydration.Typed.Hydrate
import Hydration.Typed.Value
