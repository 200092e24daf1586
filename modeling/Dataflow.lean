import Dataflow.Chat
import Dataflow.Command.Basic
import Dataflow.Command.Options
import Dataflow.Command.Run
import Dataflow.Double.Basic
import Dataflow.Double.Shortest
import Dataflow.Execution
import Dataflow.Failure
import Dataflow.Files
import Dataflow.Generation.Generate
import Dataflow.Generation.Plan
import Dataflow.Graph.Basic
import Dataflow.Graph.Diff
import Dataflow.Graph.Json
import Dataflow.Graph.Tidy
import Dataflow.Graph.Traversal
import Dataflow.Http
import Dataflow.Json.Reader
import Dataflow.Json.Value
import Dataflow.Json.Writer
import Dataflow.Main
import Dataflow.Manifest.Basic
import Dataflow.Manifest.Builtin
import Dataflow.Manifest.Json
import Dataflow.Manifest.Summary
import Dataflow.Planning.Payload
import Dataflow.Planning.Prompt
import Dataflow.Proofs.Chat.Usage
import Dataflow.Proofs.Command.Fix
import Dataflow.Proofs.Execution.Ending
import Dataflow.Proofs.Execution.Inputs
import Dataflow.Proofs.Execution.Rearranged
import Dataflow.Proofs.Execution.Registry
import Dataflow.Proofs.Execution.Run
import Dataflow.Proofs.Execution.Slots
import Dataflow.Proofs.Files
import Dataflow.Proofs.Generation.Calls
import Dataflow.Proofs.Generation.Families
import Dataflow.Proofs.Generation.Outcome
import Dataflow.Proofs.Generation.Protocol
import Dataflow.Proofs.Generation.Repair
import Dataflow.Proofs.Generation.Result
import Dataflow.Proofs.Generation.Search
import Dataflow.Proofs.Generation.Tally
import Dataflow.Proofs.Graph.Chain
import Dataflow.Proofs.Graph.Changes
import Dataflow.Proofs.Graph.Counts
import Dataflow.Proofs.Graph.Diff
import Dataflow.Proofs.Graph.Layers
import Dataflow.Proofs.Graph.Link
import Dataflow.Proofs.Graph.Order
import Dataflow.Proofs.Graph.Reach
import Dataflow.Proofs.Graph.RoundTrip
import Dataflow.Proofs.Graph.Sorted
import Dataflow.Proofs.Graph.Sweep
import Dataflow.Proofs.Graph.Tidy
import Dataflow.Proofs.Graph.TidyForm
import Dataflow.Proofs.Json.Equality
import Dataflow.Proofs.Json.Numerals
import Dataflow.Proofs.Json.Reader
import Dataflow.Proofs.Json.Records
import Dataflow.Proofs.Json.Sorted
import Dataflow.Proofs.Json.Tokens
import Dataflow.Proofs.Json.Written
import Dataflow.Proofs.Lists
import Dataflow.Proofs.Manifest.RoundTrip
import Dataflow.Proofs.Planning.Aliases
import Dataflow.Proofs.Planning.Braces
import Dataflow.Proofs.Planning.Embedded
import Dataflow.Proofs.Planning.Heuristic
import Dataflow.Proofs.Planning.Payload
import Dataflow.Proofs.Planning.Prompt
import Dataflow.Proofs.Planning.Spans
import Dataflow.Proofs.Provider.Masked
import Dataflow.Proofs.Table
import Dataflow.Proofs.Text
import Dataflow.Proofs.Validation.Chain
import Dataflow.Proofs.Validation.Codes
import Dataflow.Proofs.Validation.Connected
import Dataflow.Proofs.Validation.Marks
import Dataflow.Proofs.Validation.Placeholders
import Dataflow.Proofs.Validation.Rules
import Dataflow.Proofs.Validation.Sinks
import Dataflow.Proofs.Validation.Tidy
import Dataflow.Proofs.Validation.WellFormed
import Dataflow.Provider.Basic
import Dataflow.Provider.Exchange
import Dataflow.Table
import Dataflow.Text.Basic
import Dataflow.Text.Quoted
import Dataflow.Validation.Issue
import Dataflow.Validation.Report
