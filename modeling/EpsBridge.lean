import EpsBridge.Cli.Run
import EpsBridge.Eps.Inspect
import EpsBridge.Error.Record
import EpsBridge.Export.Batch
import EpsBridge.Export.Preview
import EpsBridge.Foreign
import EpsBridge.Host
import EpsBridge.Json.Reader
import EpsBridge.Json.Writer
import EpsBridge.Main
import EpsBridge.Threads
import EpsBridge.Proofs.Engine.Capture
import EpsBridge.Proofs.Trace
import EpsBridge.Proofs.Engine.Course
import EpsBridge.Proofs.Engine.Settled
import EpsBridge.Proofs.Engine.Teardown
import EpsBridge.Proofs.FileStore.Target
import EpsBridge.Proofs.FileStore.Change
import EpsBridge.Proofs.Engine.Confined
import EpsBridge.Proofs.Request
import EpsBridge.Proofs.Export.AllOrNothing
import EpsBridge.Proofs.Text.Lines
import EpsBridge.Proofs.Bridge.Measurement
import EpsBridge.Proofs.Request.Options
import EpsBridge.Proofs.Threads.Execution
import EpsBridge.Proofs.Engine.Exclusive
import EpsBridge.Proofs.Threads.OnHost
import EpsBridge.Proofs.Export.Batch
import EpsBridge.Proofs.Export.NoOverwrite
import EpsBridge.Proofs.Export.InputsKept
import EpsBridge.Proofs.Cli.InputKept
import EpsBridge.Proofs.Eps.Header
import EpsBridge.Proofs.BoundingBox
import EpsBridge.Proofs.Eps.Inspect
import EpsBridge.Proofs.Library.Mirror
import EpsBridge.Proofs.Library.Protocol
import EpsBridge.Foreign.Call
import EpsBridge.Proofs.Foreign.Answer
import EpsBridge.Proofs.Foreign.Standing
import EpsBridge.Proofs.Foreign.Boundary
import EpsBridge.Proofs.Foreign.Progress
import EpsBridge.Proofs.Foreign.Refinement
import EpsBridge.Proofs.Foreign.OnHost
import EpsBridge.Proofs.Foreign.Slot
import EpsBridge.Proofs.Export.Naming
import EpsBridge.Proofs.FileStore.Directories
import EpsBridge.Proofs.Library.Linker
import EpsBridge.Library.Session
import EpsBridge.Proofs.Library.Candidates
import EpsBridge.Proofs.Library.Search
import EpsBridge.Proofs.Library.NamedLibrary
import EpsBridge.Proofs.Cli.Records
import EpsBridge.Proofs.Eps.Delivery
import EpsBridge.Proofs.Eps.LineEnding
import EpsBridge.Proofs.Eps.BoxLine
import EpsBridge.Proofs.Eps.Repetition
import EpsBridge.Proofs.Request.Layout
import EpsBridge.Proofs.Export.Preview
import EpsBridge.Proofs.Foreign.Arguments
import EpsBridge.Proofs.Revision
import EpsBridge.Proofs.Text.Pattern
import EpsBridge.Proofs.BoundingBox.Search
