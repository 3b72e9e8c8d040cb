import PageStream.Main
import PageStream.Proofs.Applying
import PageStream.Proofs.Streaming
import PageStream.Proofs.ContainerHeader
import PageStream.Proofs.Opening
import PageStream.Proofs.Plan
import PageStream.Proofs.Runs
import PageStream.Proofs.Stages
import PageStream.Proofs.Grammar
import PageStream.Proofs.Images
import PageStream.Proofs.LastWrite
import PageStream.Proofs.Indexing
import PageStream.Proofs.Verdict
import PageStream.Proofs.Reading
import PageStream.Proofs.Relaying
import PageStream.Proofs.Serving
import PageStream.Proofs.Conservation
import PageStream.Proofs.Coupling
import PageStream.Proofs.Injection
import PageStream.Proofs.FirstBad
import PageStream.Proofs.Detection
import PageStream.Proofs.Encoding
import PageStream.Proofs.Painting
import PageStream.Proofs.Layouts
import PageStream.Proofs.History
import PageStream.Proofs.Reordering
import PageStream.Proofs.Regressions
import PageStream.Proofs.Gathering
import PageStream.Proofs.Directories
import PageStream.Proofs.Inspecting
import PageStream.Proofs.Commands
import PageStream.Proofs.Policies
import PageStream.Proofs.Spelling
import PageStream.Proofs.Recoding
import PageStream.Proofs.Asking
import PageStream.Proofs.Counting
import PageStream.Proofs.Accounting
import PageStream.Proofs.Checked
import PageStream.Proofs.Bounds
import PageStream.Proofs.Recognition
import PageStream.Proofs.Collecting
import PageStream.Proofs.Alignment
import PageStream.Proofs.Attempts
import PageStream.Proofs.Breaking
import PageStream.Proofs.PageWords
import PageStream.Proofs.Observing
import PageStream.Proofs.Rewrites
import PageStream.Proofs.Searching
import PageStream.Proofs.Mirroring
import PageStream.Proofs.Repeating
import PageStream.Proofs.Wording
import PageStream.Proofs.Layering
import PageStream.Proofs.Dividing
