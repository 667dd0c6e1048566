import Conductor.Agent.Model
import Conductor.Context.Forest
import Conductor.Main
import Conductor.Selection
import Conductor.Proofs.Process.Safety
import Conductor.Proofs.Store.Contents
import Conductor.Proofs.Act
import Conductor.Proofs.Store.Operations
import Conductor.Proofs.World.Trail
import Conductor.Proofs.World.Requests
import Conductor.Proofs.Run.Flow
import Conductor.Proofs.World.Failures
import Conductor.Proofs.Run.Frame
import Conductor.Proofs.World.Life
import Conductor.Proofs.Engine.Lifecycle
import Conductor.Proofs.Engine.Operations
import Conductor.Proofs.Template.Dependence
import Conductor.Proofs.Template.Grammar
import Conductor.Proofs.Validation.Accepted
import Conductor.Proofs.Engine.Course
import Conductor.Proofs.Engine.Acceptance
import Conductor.Proofs.Context
import Conductor.Proofs.World.Records
import Conductor.Proofs.Run.Visibility
import Conductor.Proofs.Engine.Visibility
import Conductor.Proofs.Engine.Breakdown
import Conductor.Proofs.World.Later
import Conductor.Proofs.Run.Growth
import Conductor.Proofs.Process.Ownership
import Conductor.Proofs.World.Shares
import Conductor.Proofs.Run.Shares
import Conductor.Proofs.Run.Trace
import Conductor.Proofs.Run.Account
import Conductor.Proofs.Store.Look
import Conductor.Proofs.Engine.Calm
import Conductor.Proofs.Engine.Flight
import Conductor.Proofs.Engine.Stop
import Conductor.Proofs.Engine.Trace
import Conductor.Proofs.Number.Zero
import Conductor.Proofs.Ledger
import Conductor.Proofs.Workflow.Written
import Conductor.Proofs.Store.Rows
import Conductor.Proofs.Store.Mirror
import Conductor.Proofs.World.Mirror
import Conductor.Proofs.Engine.Cancellation
import Conductor.Proofs.Process.Mirror
import Conductor.Proofs.Run.Mirror
import Conductor.Proofs.Engine.Mirror
import Conductor.Proofs.Engine.Interchange
import Conductor.Proofs.Run.Bodies
import Conductor.Proofs.Engine.Returned
import Conductor.Proofs.Run.Fate
import Conductor.Proofs.Engine.Fate
import Conductor.Proofs.Ledger.Totals
import Conductor.Proofs.World.History
import Conductor.Proofs.Run.Bill
import Conductor.Proofs.Engine.Bill
import Conductor.Proofs.Output
import Conductor.Proofs.Run.Results
import Conductor.Proofs.Engine.Results
import Conductor.Proofs.Process.Course
import Conductor.Proofs.Run.Course
import Conductor.Proofs.Run.Story
import Conductor.Proofs.Run.Isolation
import Conductor.Proofs.Template.References
import Conductor.Proofs.Validation.Order
import Conductor.Proofs.Validation.Search
import Conductor.Proofs.Validation.Circle
import Conductor.Proofs.Validation.Specification
import Conductor.Proofs.Store.Shelf
import Conductor.Proofs.World.Stride
import Conductor.Proofs.World.Paths
import Conductor.Proofs.Run.Paths
import Conductor.Proofs.Engine.Paths
import Conductor.Proofs.Engine.Apart
import Conductor.Proofs.Engine.Uses
import Conductor.Proofs.Engine.Shapes
import Conductor.Proofs.Workflow.Finite
import Conductor.Proofs.Store.Workflows
import Conductor.Proofs.Engine.Stored
import Conductor.Proofs.Expression.Token
import Conductor.Proofs.Expression.Spelling
import Conductor.Proofs.Expression.Derivation
import Conductor.Proofs.Expression.Parse
import Conductor.Proofs.Expression.Refusal
import Conductor.Proofs.Expression.Literal
import Conductor.Proofs.Expression.Written
import Conductor.Proofs.Template.Joined
import Conductor.Proofs.Validation.Raw
import Conductor.Proofs.Context.View
import Conductor.Proofs.Context.Forest
import Conductor.Proofs.Run.Join
import Conductor.Proofs.Store.Edits
import Conductor.Proofs.Store.Rejection
import Conductor.Proofs.Store.CompareAndSet
import Conductor.Proofs.Expression.Predicate
import Conductor.Proofs.Template.Predicate
import Conductor.Proofs.Run.Aggregate
import Conductor.Proofs.Engine.Estimate
import Conductor.Proofs.Number.Value
import Conductor.Proofs.Number.Exact
import Conductor.Proofs.Json.Equality
import Conductor.Proofs.Json.Order
import Conductor.Proofs.Backoff
import Conductor.Proofs.Agent.Retry
import Conductor.Proofs.Expression.Halt
import Conductor.Proofs.Template.Halt
import Conductor.Proofs.Config
import Conductor.Proofs.Selection
import Conductor.Proofs.Engine.Cost
