import TemporalNetwork.Coercion
import TemporalNetwork.Coercion.Field
import TemporalNetwork.Coercion.Number
import TemporalNetwork.CommandLine.Address
import TemporalNetwork.CommandLine.Arguments
import TemporalNetwork.CommandLine.Destination
import TemporalNetwork.CommandLine.Flag
import TemporalNetwork.CommandLine.Host
import TemporalNetwork.CommandLine.Machine
import TemporalNetwork.CommandLine.Number
import TemporalNetwork.CommandLine.Run
import TemporalNetwork.CommandLine.Usage
import TemporalNetwork.CommandLine.WebRequest
import TemporalNetwork.Config
import TemporalNetwork.Decimal
import TemporalNetwork.Digest.Sha512
import TemporalNetwork.Double
import TemporalNetwork.Double.Reading
import TemporalNetwork.Double.Shortest
import TemporalNetwork.Draws.Source
import TemporalNetwork.Draws.Twister
import TemporalNetwork.Encoding.Narrow
import TemporalNetwork.Encoding.Punycode
import TemporalNetwork.Encoding.Utf8
import TemporalNetwork.Generation.Allocator
import TemporalNetwork.Generation.Event
import TemporalNetwork.Generation.IdStream
import TemporalNetwork.Generation.Probability
import TemporalNetwork.Generation.Registry
import TemporalNetwork.Generation.Run
import TemporalNetwork.Generation.Successors
import TemporalNetwork.GraphFile
import TemporalNetwork.GraphFile.Reading
import TemporalNetwork.GraphFile.Writing
import TemporalNetwork.Json
import TemporalNetwork.Json.Conversion
import TemporalNetwork.Json.Parser
import TemporalNetwork.Json.Printer
import TemporalNetwork.Log
import TemporalNetwork.Main
import TemporalNetwork.NodeId
import TemporalNetwork.Proofs.CommandLine.Opening
import TemporalNetwork.Proofs.CommandLine.Options
import TemporalNetwork.Proofs.CommandLine.Orders
import TemporalNetwork.Proofs.CommandLine.Staged
import TemporalNetwork.Proofs.CommandLine.Stages
import TemporalNetwork.Proofs.Config
import TemporalNetwork.Proofs.Decimal
import TemporalNetwork.Proofs.Draws.Stream
import TemporalNetwork.Proofs.Encoding.Ascii
import TemporalNetwork.Proofs.Generation.Allocation
import TemporalNetwork.Proofs.Generation.AppendOnly
import TemporalNetwork.Proofs.Generation.Configured
import TemporalNetwork.Proofs.Generation.Continuation
import TemporalNetwork.Proofs.Generation.EdgePhase
import TemporalNetwork.Proofs.Generation.FailurePolicy
import TemporalNetwork.Proofs.Generation.Growth
import TemporalNetwork.Proofs.Generation.Insertions
import TemporalNetwork.Proofs.Generation.Law
import TemporalNetwork.Proofs.Generation.Monotone
import TemporalNetwork.Proofs.Generation.NodePhase
import TemporalNetwork.Proofs.Generation.Positions
import TemporalNetwork.Proofs.Generation.Probability
import TemporalNetwork.Proofs.Generation.Sampling
import TemporalNetwork.Proofs.Generation.Splitting
import TemporalNetwork.Proofs.Generation.Views
import TemporalNetwork.Proofs.GraphFile.Acceptance
import TemporalNetwork.Proofs.GraphFile.Document
import TemporalNetwork.Proofs.GraphFile.Format
import TemporalNetwork.Proofs.GraphFile.Grouped
import TemporalNetwork.Proofs.GraphFile.Portable
import TemporalNetwork.Proofs.GraphFile.Replay
import TemporalNetwork.Proofs.GraphFile.RoundTrip
import TemporalNetwork.Proofs.GraphFile.Writable
import TemporalNetwork.Proofs.Json.Nesting
import TemporalNetwork.Proofs.Json.Numbers
import TemporalNetwork.Proofs.Json.RoundTrip
import TemporalNetwork.Proofs.Json.Strings
import TemporalNetwork.Proofs.Reachable
import TemporalNetwork.Proofs.Store.Batch
import TemporalNetwork.Proofs.Store.CallLog
import TemporalNetwork.Proofs.Store.Clock
import TemporalNetwork.Proofs.Store.Guard
import TemporalNetwork.Proofs.Store.Insertion
import TemporalNetwork.Proofs.Store.Ledger
import TemporalNetwork.Proofs.Store.Lookup
import TemporalNetwork.Proofs.Store.Replay
import TemporalNetwork.Proofs.Store.WellFormed
import TemporalNetwork.Proofs.Workspace
import TemporalNetwork.Seed
import TemporalNetwork.Seed.Hex
import TemporalNetwork.Session
import TemporalNetwork.Store
import TemporalNetwork.Store.Csv
import TemporalNetwork.Store.Guard
import TemporalNetwork.Store.Properties
import TemporalNetwork.Store.Query
import TemporalNetwork.Store.Table
import TemporalNetwork.Store.Update
import TemporalNetwork.Summary
import TemporalNetwork.Summary.Reading
import TemporalNetwork.Text.Blank
import TemporalNetwork.Text.Digit
import TemporalNetwork.Text.Printable
import TemporalNetwork.Text.Quoted
import TemporalNetwork.Text.Split
import TemporalNetwork.Text.UpperCase
import TemporalNetwork.Value
import TemporalNetwork.Value.Key
import TemporalNetwork.Value.Text
import TemporalNetwork.Workspace
import TemporalNetwork.Workspace.Path
import TemporalNetwork.Proofs.Store.Refusal
import TemporalNetwork.Proofs.Generation.EdgeBound
import TemporalNetwork.Proofs.Generation.Succession
import TemporalNetwork.Proofs.Generation.Freshness
import TemporalNetwork.Proofs.Json.Brackets
import TemporalNetwork.Proofs.GraphFile.Tables
import TemporalNetwork.Proofs.GraphFile.Truncation
import TemporalNetwork.Proofs.Generation.Accounting
import TemporalNetwork.Proofs.CommandLine.Trace
import TemporalNetwork.Proofs.Store.Listing
import TemporalNetwork.Proofs.Seed.Forms
import TemporalNetwork.Proofs.Seed.HexText
import TemporalNetwork.Proofs.Generation.SeedText
import TemporalNetwork.Proofs.Generation.Arguments
import TemporalNetwork.Proofs.Generation.Search
