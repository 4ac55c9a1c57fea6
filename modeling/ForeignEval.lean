import ForeignEval.Loading
import ForeignEval.Main
import ForeignEval.Sample.Json
import ForeignEval.Workspace.Run
import ForeignEval.Proofs.Cache.View
import ForeignEval.Proofs.Cache.History
import ForeignEval.Proofs.Batch.Plan
import ForeignEval.Proofs.Session.Frame
import ForeignEval.Proofs.Batch.Answer
import ForeignEval.Proofs.Pool.Jobs
import ForeignEval.Proofs.Foreign.RowWise
import ForeignEval.Proofs.Session.Healthy
import ForeignEval.Proofs.Batch.Memo
import ForeignEval.Proofs.Pool.Simulation
import ForeignEval.Proofs.Cache.Faithful
import ForeignEval.Proofs.Session.Computing
import ForeignEval.Proofs.Pool.Sound
import ForeignEval.Proofs.Workspace.Coherence
import ForeignEval.Proofs.Foreign.Stage
import ForeignEval.Proofs.Session.Progress
import ForeignEval.Proofs.Session.Lifecycle
import ForeignEval.Proofs.Session.Custody
import ForeignEval.Proofs.Pool.Custody
import ForeignEval.Proofs.Pool.Failure
import ForeignEval.Proofs.Workspace.Quiet
import ForeignEval.Proofs.Workspace.Custody
import ForeignEval.Proofs.Workspace.Contract
import ForeignEval.Proofs.Workspace.Names
import ForeignEval.Proofs.Foreign.Growth
import ForeignEval.Proofs.Registry.Catalog
import ForeignEval.Proofs.Registry.Loading
import ForeignEval.Proofs.Registry.Owners
import ForeignEval.Proofs.Pool.Growth
import ForeignEval.Proofs.Workspace.Calls
import ForeignEval.Proofs.Workspace.Housing
import ForeignEval.Proofs.Workspace.Lifetime
import ForeignEval.Proofs.Cache.Learning
import ForeignEval.Proofs.Pool.Learning
import ForeignEval.Proofs.Workspace.Recall
import ForeignEval.Proofs.Workspace.Memory
import ForeignEval.Proofs.Foreign.Evaluates
import ForeignEval.Proofs.Session.Evaluating
import ForeignEval.Proofs.Batch.Repeats
import ForeignEval.Proofs.Pool.Evaluating
import ForeignEval.Proofs.Command.Engine
import ForeignEval.Proofs.Json.Lines
import ForeignEval.Proofs.Command.Evaluation
import ForeignEval.Proofs.Command.Failure
import ForeignEval.Proofs.Command.Release
import ForeignEval.Proofs.Batch.Fold
import ForeignEval.Proofs.Pool.Tally
import ForeignEval.Proofs.Workspace.Counters
import ForeignEval.Proofs.Workspace.Disabled
import ForeignEval.Proofs.Pool.Shape
import ForeignEval.Proofs.Pool.Attempts
import ForeignEval.Proofs.Pool.Unwinding
import ForeignEval.Proofs.Workspace.Bystanders
import ForeignEval.Proofs.Workspace.Books
import ForeignEval.Proofs.Workspace.Ownership
import ForeignEval.Proofs.Registry.Retrying
import ForeignEval.Proofs.Registry.Searching
import ForeignEval.Proofs.Files.Walks
import ForeignEval.Proofs.Registry.Obstacles
import ForeignEval.Proofs.Text.Decimal
import ForeignEval.Proofs.Json.Written
import ForeignEval.Proofs.Json.Objects
import ForeignEval.Proofs.Config.Choices
import ForeignEval.Proofs.Tables
import ForeignEval.Proofs.Config.Members
import ForeignEval.Proofs.Config.Agreement
import ForeignEval.Proofs.Config.Fields
import ForeignEval.Proofs.Config.Workers
import ForeignEval.Proofs.Json.Samples
import ForeignEval.Proofs.Foreign.Info
import ForeignEval.Proofs.Cache.Merging
import ForeignEval.Proofs.Sample.Pieces
import ForeignEval.Proofs.Pool.Covering
import ForeignEval.Proofs.Sample.Storage
import ForeignEval.Proofs.Json.Typed
import ForeignEval.Proofs.Batch.Appending
import ForeignEval.Proofs.Sample.Shapes
import ForeignEval.Proofs.Foreign.Resolution
import ForeignEval.Proofs.Workspace.Building
import ForeignEval.Proofs.Cache.Eviction
import ForeignEval.Proofs.Foreign.Symbols
