import QuantumBlocks.Backend.Basic
import QuantumBlocks.Backend.Error
import QuantumBlocks.Backend.Job
import QuantumBlocks.Chart.Glyph
import QuantumBlocks.Chart.Layout
import QuantumBlocks.Chart.Lettering
import QuantumBlocks.Chart.Picture
import QuantumBlocks.Chart.Png
import QuantumBlocks.Chart.Raster
import QuantumBlocks.Circuit.Basic
import QuantumBlocks.Circuit.Gate
import QuantumBlocks.Circuit.Instruction
import QuantumBlocks.Circuit.Wire
import QuantumBlocks.Counts.Basic
import QuantumBlocks.Counts.Summary
import QuantumBlocks.Execution
import QuantumBlocks.Histogram.Basic
import QuantumBlocks.Histogram.Reading
import QuantumBlocks.Json.Decoder
import QuantumBlocks.Json.Fault
import QuantumBlocks.Json.Printer
import QuantumBlocks.Json.Record
import QuantumBlocks.Json.Skip
import QuantumBlocks.Json.Token
import QuantumBlocks.Json.Value
import QuantumBlocks.Main
import QuantumBlocks.Number.Binary64
import QuantumBlocks.Number.Decimal
import QuantumBlocks.Number.Places
import QuantumBlocks.Number.Rounding
import QuantumBlocks.Number.Shortest
import QuantumBlocks.Program.Block
import QuantumBlocks.Program.Compilation
import QuantumBlocks.Program.Limits
import QuantumBlocks.Proofs.Backend.Lifecycle
import QuantumBlocks.Proofs.Chart.Axis
import QuantumBlocks.Proofs.Chart.Bars
import QuantumBlocks.Proofs.Chart.Columns
import QuantumBlocks.Proofs.Chart.Headroom
import QuantumBlocks.Proofs.Chart.InWords
import QuantumBlocks.Proofs.Chart.Pixels
import QuantumBlocks.Proofs.Chart.TextBox
import QuantumBlocks.Proofs.Chart.Ticks
import QuantumBlocks.Proofs.Circuit.Operands
import QuantumBlocks.Proofs.Circuit.Refusals
import QuantumBlocks.Proofs.Circuit.WellFormed
import QuantumBlocks.Proofs.Counts.Canonical
import QuantumBlocks.Proofs.Counts.Ranking
import QuantumBlocks.Proofs.Counts.Tally
import QuantumBlocks.Proofs.Counts.Total
import QuantumBlocks.Proofs.Execution.Calls
import QuantumBlocks.Proofs.Execution.Charting
import QuantumBlocks.Proofs.Execution.Interleaving
import QuantumBlocks.Proofs.Execution.OnSimulator
import QuantumBlocks.Proofs.Execution.Outcome
import QuantumBlocks.Proofs.Execution.Polling
import QuantumBlocks.Proofs.Execution.Stages
import QuantumBlocks.Proofs.Histogram.Encodings
import QuantumBlocks.Proofs.Histogram.Grammar
import QuantumBlocks.Proofs.Histogram.Greatest
import QuantumBlocks.Proofs.Histogram.OrderedMap
import QuantumBlocks.Proofs.Histogram.Pieces
import QuantumBlocks.Proofs.Histogram.Serialized
import QuantumBlocks.Proofs.Histogram.Splitting
import QuantumBlocks.Proofs.Histogram.Summary
import QuantumBlocks.Proofs.Json.Consumed
import QuantumBlocks.Proofs.Json.Members
import QuantumBlocks.Proofs.Json.Numerals
import QuantumBlocks.Proofs.Json.Spelling
import QuantumBlocks.Proofs.Json.Straight
import QuantumBlocks.Proofs.Json.Tokens
import QuantumBlocks.Proofs.Number.Digits
import QuantumBlocks.Proofs.Number.Magnitudes
import QuantumBlocks.Proofs.Number.Spellings
import QuantumBlocks.Proofs.Number.Words
import QuantumBlocks.Proofs.Program.Arguments
import QuantumBlocks.Proofs.Program.Faults
import QuantumBlocks.Proofs.Program.Meaning
import QuantumBlocks.Proofs.Program.OnTheWire
import QuantumBlocks.Proofs.Program.WithinLimits
import QuantumBlocks.Proofs.Service.Gate
import QuantumBlocks.Proofs.Simulator.Amplitudes
import QuantumBlocks.Proofs.Simulator.InBounds
import QuantumBlocks.Proofs.Simulator.Kernels
import QuantumBlocks.Proofs.Simulator.Keys
import QuantumBlocks.Proofs.Simulator.MoreShots
import QuantumBlocks.Proofs.Simulator.Permutations
import QuantumBlocks.Proofs.Simulator.Protocol
import QuantumBlocks.Proofs.Simulator.Reading
import QuantumBlocks.Proofs.Simulator.Reproducible
import QuantumBlocks.Proofs.Simulator.Seeds
import QuantumBlocks.Proofs.Simulator.Store
import QuantumBlocks.Proofs.Simulator.Unshared
import QuantumBlocks.Proofs.Steps
import QuantumBlocks.Proofs.Text.ByteOrder
import QuantumBlocks.Proofs.Text.Runs
import QuantumBlocks.Service.Address
import QuantumBlocks.Service.Http
import QuantumBlocks.Service.MediaType
import QuantumBlocks.Service.Message
import QuantumBlocks.Service.Options
import QuantumBlocks.Service.Router
import QuantumBlocks.Service.Wire
import QuantumBlocks.Simulator.Generator
import QuantumBlocks.Simulator.Run
import QuantumBlocks.Simulator.Statevector
import QuantumBlocks.Simulator.Store
import QuantumBlocks.Text.Base64
import QuantumBlocks.Text.Blank
import QuantumBlocks.Text.Digit
import QuantumBlocks.Text.Hidden
import QuantumBlocks.Text.Quoted
import QuantumBlocks.Text.Timestamp
