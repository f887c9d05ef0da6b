import ClipRelay.Artifact.Download
import ClipRelay.Artifact.Name
import ClipRelay.Clip.Cache
import ClipRelay.Clip.CacheName
import ClipRelay.Clip.Command
import ClipRelay.Clip.Encoder
import ClipRelay.Clip.Fault
import ClipRelay.Clip.FrameRate
import ClipRelay.Clip.Tools
import ClipRelay.Digest.Sha256
import ClipRelay.Disk
import ClipRelay.ErrorCode
import ClipRelay.Event
import ClipRelay.Excerpt
import ClipRelay.Http.Fault
import ClipRelay.Http.Network
import ClipRelay.JobStatus
import ClipRelay.Json.Basic
import ClipRelay.Json.Numeral
import ClipRelay.Json.Printer
import ClipRelay.Json.Reader
import ClipRelay.Number.Decimal
import ClipRelay.Number.Double
import ClipRelay.Number.Rounding
import ClipRelay.Path
import ClipRelay.Proofs.Artifact.Confinement
import ClipRelay.Proofs.Artifact.Files
import ClipRelay.Proofs.Artifact.Loaders
import ClipRelay.Proofs.Artifact.Moves
import ClipRelay.Proofs.Artifact.Names
import ClipRelay.Proofs.Artifact.Once
import ClipRelay.Proofs.Artifact.Ownership
import ClipRelay.Proofs.Artifact.Races
import ClipRelay.Proofs.Artifact.Routes
import ClipRelay.Proofs.Artifact.Steps
import ClipRelay.Proofs.Artifact.Wholeness
import ClipRelay.Proofs.Clip.Cache
import ClipRelay.Proofs.Clip.Failures
import ClipRelay.Proofs.Clip.Keys
import ClipRelay.Proofs.Clip.Moves
import ClipRelay.Proofs.Clip.Names
import ClipRelay.Proofs.Clip.Races
import ClipRelay.Proofs.Clip.Windows
import ClipRelay.Proofs.Disk.Changes
import ClipRelay.Proofs.Disk.Directories
import ClipRelay.Proofs.Disk.Filed
import ClipRelay.Proofs.Disk.Names
import ClipRelay.Proofs.Disk.Replacement
import ClipRelay.Proofs.Disk.Standing
import ClipRelay.Proofs.Disk.Ways
import ClipRelay.Proofs.Json.Grammar
import ClipRelay.Proofs.Json.Numbers
import ClipRelay.Proofs.Json.Printable
import ClipRelay.Proofs.Json.Records
import ClipRelay.Proofs.Json.Sequences
import ClipRelay.Proofs.Json.Texts
import ClipRelay.Proofs.Json.Values
import ClipRelay.Proofs.Number.Finite
import ClipRelay.Proofs.Number.Fixed
import ClipRelay.Proofs.Number.Nearest
import ClipRelay.Proofs.Number.Percent
import ClipRelay.Proofs.Relay.Deadline
import ClipRelay.Proofs.Relay.Decision
import ClipRelay.Proofs.Relay.Ends
import ClipRelay.Proofs.Relay.Lines
import ClipRelay.Proofs.Relay.Outbound
import ClipRelay.Proofs.Relay.Passage
import ClipRelay.Proofs.Relay.Segments
import ClipRelay.Proofs.Relay.Stream
import ClipRelay.Proofs.Service.Answers
import ClipRelay.Proofs.Service.Details
import ClipRelay.Proofs.Service.Preparation
import ClipRelay.Proofs.Service.Refusals
import ClipRelay.Proofs.Text.Bytes
import ClipRelay.Proofs.Text.Case
import ClipRelay.Proofs.Text.Excerpt
import ClipRelay.Proofs.Text.Normal
import ClipRelay.Proofs.Text.Split
import ClipRelay.Proofs.Text.Trim
import ClipRelay.Proofs.Text.Utf8
import ClipRelay.Proofs.Url.Authority
import ClipRelay.Proofs.Url.Below
import ClipRelay.Proofs.Url.Paths
import ClipRelay.Proofs.Wire.Bodies
import ClipRelay.Proofs.Worker.Canonical
import ClipRelay.Proofs.Worker.Course
import ClipRelay.Proofs.Worker.Faults
import ClipRelay.Proofs.Worker.Hearing
import ClipRelay.Proofs.Worker.Limits
import ClipRelay.Proofs.Worker.Locations
import ClipRelay.Proofs.Worker.PlainId
import ClipRelay.Proofs.Worker.Policy
import ClipRelay.Proofs.Worker.Readers
import ClipRelay.Proofs.Worker.Requests
import ClipRelay.Proofs.Worker.Schemes
import ClipRelay.Proofs.Worker.SingleLook
import ClipRelay.Proofs.Worker.Snapshots
import ClipRelay.Proofs.Worker.Stop
import ClipRelay.Proofs.Worker.Targets
import ClipRelay.Proofs.Worker.Tracking
import ClipRelay.Proofs.Worker.Verdicts
import ClipRelay.Proofs.Worker.WarningPages
import ClipRelay.Relay.Bridge
import ClipRelay.Relay.Lines
import ClipRelay.Relay.Run
import ClipRelay.Service.Answer
import ClipRelay.Service.Cors
import ClipRelay.Service.Jobs
import ClipRelay.Service.MediaType
import ClipRelay.Service.Route
import ClipRelay.Service.Settings
import ClipRelay.Snapshot
import ClipRelay.Text.Blank
import ClipRelay.Text.Case
import ClipRelay.Text.CaseTable
import ClipRelay.Text.Normal
import ClipRelay.Text.NormalTable
import ClipRelay.Text.RunTable
import ClipRelay.Text.Search
import ClipRelay.Text.Utf8
import ClipRelay.TrimWindow
import ClipRelay.Url.Basic
import ClipRelay.Url.Domain
import ClipRelay.Url.Host
import ClipRelay.Url.LabelTable
import ClipRelay.Url.MappingTable
import ClipRelay.Url.Percent
import ClipRelay.Url.Punycode
import ClipRelay.Wire.Answers
import ClipRelay.Wire.Codec
import ClipRelay.Wire.Requests
import ClipRelay.Worker.Client
import ClipRelay.Worker.Endpoint
import ClipRelay.Worker.Fault
import ClipRelay.Worker.Follow
import ClipRelay.Worker.Payload
import ClipRelay.Worker.Progress
import ClipRelay.Worker.Settings
import ClipRelay.Worker.Submission
import ClipRelay.Worker.WarningPage
import ClipRelay.World
