import Exemplar.Exchange
import Exemplar.Main
import Exemplar.Toolchain.Scripted
import Exemplar.Proofs.Course
import Exemplar.Proofs.Segments
import Exemplar.Proofs.ReportText
import Exemplar.Proofs.Paths
import Exemplar.Proofs.Walk
import Exemplar.Proofs.Batch
import Exemplar.Proofs.Leaves
import Exemplar.Proofs.Agreement
import Exemplar.Proofs.Lockstep
import Exemplar.Proofs.Locality
import Exemplar.Proofs.Order
import Exemplar.Proofs.Containment
import Exemplar.Proofs.Staleness
import Exemplar.Proofs.Fixtures
import Exemplar.Proofs.Builds
import Exemplar.Proofs.Exchange
import Exemplar.Proofs.Selection
import Exemplar.Proofs.Truncation
import Exemplar.Proofs.Frame
import Exemplar.Proofs.Blanks
import Exemplar.Proofs.Comparison
import Exemplar.Proofs.Settings
import Exemplar.Proofs.Utf8
import Exemplar.Proofs.Resolution
import Exemplar.Proofs.Discovery
import Exemplar.Proofs.Reading
import Exemplar.Proofs.Separation
import Exemplar.Proofs.Words
import Exemplar.Proofs.Lossy
import Exemplar.Proofs.Capture
import Exemplar.Proofs.Telling
import Exemplar.Proofs.Messages
