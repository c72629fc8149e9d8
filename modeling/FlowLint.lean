import FlowLint.Main
import FlowLint.Proofs.Check.Blocks
import FlowLint.Proofs.Check.Faults
import FlowLint.Proofs.Check.Gate
import FlowLint.Proofs.Check.Nulls
import FlowLint.Proofs.Check.Renaming
import FlowLint.Proofs.Check.Spelling
import FlowLint.Proofs.Check.Thresholds
import FlowLint.Proofs.File.Batch
import FlowLint.Proofs.File.Loading
import FlowLint.Proofs.Graph.Reading
import FlowLint.Proofs.Plan.Lines
import FlowLint.Proofs.Wiring.Cleaning
import FlowLint.Proofs.Wiring.Reordering
import FlowLint.Proofs.Wiring.Streaming
import FlowLint.Proofs.Wiring.Insertion
import FlowLint.Proofs.Pool.Parallel
import FlowLint.Proofs.Settings.Loading
import FlowLint.Proofs.Console.Reading
import FlowLint.Proofs.File.Paths
import FlowLint.Proofs.Command.ExitCode
import FlowLint.Proofs.Plan.Topological
import FlowLint.Proofs.Plan.Names
import FlowLint.Proofs.Check.Limits
import FlowLint.Proofs.Check.Placeholders
import FlowLint.Proofs.Check.RequestUrls
import FlowLint.Proofs.Json.Placeholders
import FlowLint.Proofs.Check.Languages
import FlowLint.Proofs.Check.RequestMethods
import FlowLint.Proofs.Check.RequestBodies
import FlowLint.Proofs.Check.Schemas
import FlowLint.Proofs.Check.Lookups
import FlowLint.Proofs.Check.Options
import FlowLint.Proofs.Text.Stripping
