import Transcript.Main
import Transcript.Program.Scenario
import Transcript.Proofs.Delivery.Transport
import Transcript.Proofs.Layout.Greedy
import Transcript.Proofs.Program.Outcome
import Transcript.Proofs.Segment.Color
import Transcript.Proofs.Segment.Idempotence
import Transcript.Proofs.Segment.Partition
import Transcript.Proofs.Segment.PassThrough
import Transcript.Proofs.Segment.Pointwise
import Transcript.Proofs.Segment.Results
import Transcript.Proofs.Segment.Seam
import Transcript.Proofs.Segment.Widening
import Transcript.Proofs.Segment.Widths
import Transcript.Proofs.Segment.Window
import Transcript.Proofs.Segment.Words
import Transcript.Proofs.Settings.Columns
import Transcript.Proofs.Settings.Discovery
import Transcript.Proofs.Settings.Json
import Transcript.Proofs.Settings.Lookup
import Transcript.Proofs.Settings.Markers
import Transcript.Proofs.StatusLine.Alignment
import Transcript.Proofs.StatusLine.NormalForm
import Transcript.Proofs.StatusLine.Overflow
import Transcript.Proofs.Stream.Indicators
import Transcript.Proofs.Stream.Lookahead
