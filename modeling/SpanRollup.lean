import SpanRollup.Log.Logger
import SpanRollup.Payload.Outbox
import SpanRollup.Rotation.Run
import SpanRollup.Settings.Environment
import SpanRollup.Proofs.Msgpack.Reads
import SpanRollup.Proofs.Msgpack.Value
import SpanRollup.Proofs.Msgpack.Steady
import SpanRollup.Proofs.Sketch.ReadBack
import SpanRollup.Proofs.Sketch.Room
import SpanRollup.Proofs.Digest.Formed
import SpanRollup.Proofs.Digest.ReadBack
import SpanRollup.Proofs.Payload.Encoding
import SpanRollup.Proofs.Payload.Calls
import SpanRollup.Proofs.Payload.Draft
import SpanRollup.Proofs.Payload.Assembly
import SpanRollup.Proofs.Payload.ReadBack
import SpanRollup.Proofs.Health
import SpanRollup.Proofs.Series.Accounting
import SpanRollup.Proofs.Series.Capacity
import SpanRollup.Proofs.Payload.Hits
import SpanRollup.Proofs.Rotation.Closing
import SpanRollup.Proofs.Rotation.Books
import SpanRollup.Proofs.Rotation.Steps
import SpanRollup.Proofs.Rotation.Conservation
import SpanRollup.Proofs.Rotation.Traffic
import SpanRollup.Proofs.Number.Order
import SpanRollup.Proofs.Number.Rounding
import SpanRollup.Proofs.Sketch.KeyRange
import SpanRollup.Proofs.Sketch.KeyValue
import SpanRollup.Proofs.Sketch.Rank
import SpanRollup.Proofs.Sketch.Counts
import SpanRollup.Proofs.Sketch.Layout
import SpanRollup.Proofs.Sketch.Merging
import SpanRollup.Proofs.Sketch.Content
import SpanRollup.Proofs.Digest.Taken
import SpanRollup.Proofs.Digest.Merging
import SpanRollup.Proofs.Digest.History
import SpanRollup.Proofs.Digest.Received
import SpanRollup.Proofs.Digest.Recorded
import SpanRollup.Proofs.Digest.Intact
import SpanRollup.Proofs.Digest.InnerQuantile
import SpanRollup.Proofs.Digest.Accepted
import SpanRollup.Proofs.Digest.Size
import SpanRollup.Proofs.Digest.Extent
import SpanRollup.Proofs.Series.Totals
import SpanRollup.Proofs.Series.Order
import SpanRollup.Proofs.Payload.Endings
import SpanRollup.Proofs.Payload.WholeBucket
import SpanRollup.Proofs.Payload.Replacement
import SpanRollup.Proofs.Series.CatchAll
import SpanRollup.Proofs.Series.Atomicity
import SpanRollup.Proofs.Msgpack.Stream
import SpanRollup.Proofs.Payload.Stream
import SpanRollup.Proofs.Payload.Shortest
import SpanRollup.Proofs.Payload.SingleByteText
import SpanRollup.Proofs.Digest.LegalResolution
