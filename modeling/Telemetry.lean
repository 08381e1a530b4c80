import Telemetry.Cardinality.KeyHash
import Telemetry.Registry
import Telemetry.Settings.Document
import Telemetry.Proofs.Answers
import Telemetry.Proofs.Binary64.Order
import Telemetry.Proofs.Binary64.Place
import Telemetry.Proofs.Binary64.Rounding
import Telemetry.Proofs.Binary64.Arithmetic
import Telemetry.Proofs.Binary64.Quotient
import Telemetry.Proofs.Binary64.Overflow
import Telemetry.Proofs.Binary64.Monotone
import Telemetry.Proofs.Binary64.Numeric
import Telemetry.Proofs.Decimal.Nearest
import Telemetry.Proofs.Decimal.Shortest
import Telemetry.Proofs.Toml.Character
import Telemetry.Proofs.Toml.Positional
import Telemetry.Proofs.Toml.Number
import Telemetry.Proofs.Toml.Quoted
import Telemetry.Proofs.Toml.Reader
import Telemetry.Proofs.Toml.Table
import Telemetry.Proofs.Toml.Codec
import Telemetry.Proofs.PagedHeap.Queue
import Telemetry.Proofs.PagedHeap.History
import Telemetry.Proofs.PagedHeap.Pages
import Telemetry.Proofs.PagedHeap.Resizing
import Telemetry.Proofs.Quantile.Arena
import Telemetry.Proofs.Quantile.Growth
import Telemetry.Proofs.Quantile.Invariant
import Telemetry.Proofs.Quantile.Changes
import Telemetry.Proofs.Quantile.Sweeps
import Telemetry.Proofs.Quantile.Settling
import Telemetry.Proofs.Quantile.Run
import Telemetry.Proofs.Quantile.Accuracy
import Telemetry.Proofs.Quantile.Conservation
import Telemetry.Proofs.Quantile.Extremes
import Telemetry.Proofs.Quantile.Checked
import Telemetry.Proofs.Quantile.Safety
import Telemetry.Proofs.Quantile.Query
import Telemetry.Proofs.Quantile.Budget
import Telemetry.Proofs.Quantile.Sequence
import Telemetry.Proofs.Quantile.Recycling
import Telemetry.Proofs.Quantile.Uncompressed
import Telemetry.Proofs.Cardinality.Packing
import Telemetry.Proofs.Cardinality.Ranks
import Telemetry.Proofs.Cardinality.Stream
import Telemetry.Proofs.Cardinality.Union
import Telemetry.Proofs.Cardinality.Writes
import Telemetry.Proofs.Aggregate.DistinctCount
import Telemetry.Proofs.Aggregate.Durations
import Telemetry.Proofs.Aggregate.Visibility
import Telemetry.Proofs.Aggregate.Agreement
import Telemetry.Proofs.Aggregate.Variance
import Telemetry.Proofs.Histogram.Edges
import Telemetry.Proofs.Histogram.Cover
import Telemetry.Proofs.Histogram.Counting
import Telemetry.Proofs.Registry.Requests
import Telemetry.Proofs.Registry.Acceptance
import Telemetry.Proofs.Registry.Independence
import Telemetry.Proofs.Registry.Choice
import Telemetry.Proofs.Settings.RoundTrip
