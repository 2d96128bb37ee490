import Courier.AccessToken
import Courier.Api.Credential
import Courier.Api.Endpoint
import Courier.Api.Route
import Courier.Binary
import Courier.Calendar.Date
import Courier.Calendar.Instant
import Courier.Channel
import Courier.Delivery
import Courier.Dispatch
import Courier.EnvironmentFile
import Courier.Error
import Courier.FailureLog
import Courier.FailureRecord
import Courier.Guard
import Courier.Http.Address
import Courier.Http.DomainName
import Courier.Http.Host
import Courier.Http.MediaType
import Courier.Http.Message
import Courier.Http.Percent
import Courier.Http.Status
import Courier.Http.Url
import Courier.Http.UrlPath
import Courier.Json.Numeral
import Courier.Json.Quoted
import Courier.Json.Reading
import Courier.Json.Shape
import Courier.Json.Skip
import Courier.Json.Token
import Courier.Json.Tree
import Courier.Json.Wire
import Courier.Keyed
import Courier.Memory.Cache
import Courier.Memory.Queues
import Courier.Memory.Records
import Courier.Memory.Registers
import Courier.Memory.Stores
import Courier.Named
import Courier.Notification
import Courier.Plan
import Courier.Platform
import Courier.Proofs.Admission
import Courier.Proofs.AmountText
import Courier.Proofs.Blanks
import Courier.Proofs.Braiding
import Courier.Proofs.Calendar.Days
import Courier.Proofs.Calendar.Following
import Courier.Proofs.Calendar.InstantText
import Courier.Proofs.ChannelRegister
import Courier.Proofs.Circulation
import Courier.Proofs.Decimals
import Courier.Proofs.Deliveries
import Courier.Proofs.Desk
import Courier.Proofs.EnvironmentLines
import Courier.Proofs.EverySpelling
import Courier.Proofs.Exchange
import Courier.Proofs.Forking
import Courier.Proofs.GuardedTraffic
import Courier.Proofs.HandoffProgress
import Courier.Proofs.Happenings
import Courier.Proofs.JoinedLookups
import Courier.Proofs.Json.Beginnings
import Courier.Proofs.Json.Extending
import Courier.Proofs.Json.Numbers
import Courier.Proofs.Json.Rows
import Courier.Proofs.Json.Shapes
import Courier.Proofs.Json.Skipping
import Courier.Proofs.Json.Spelling
import Courier.Proofs.Json.Taking
import Courier.Proofs.Json.Texts
import Courier.Proofs.Json.Trees
import Courier.Proofs.Keyspace
import Courier.Proofs.LastNamed
import Courier.Proofs.LeavingCallers
import Courier.Proofs.Lookups
import Courier.Proofs.MarkerHistory
import Courier.Proofs.MomentText
import Courier.Proofs.PostedText
import Courier.Proofs.PresentedToken
import Courier.Proofs.Recipients
import Courier.Proofs.RetryChain
import Courier.Proofs.RetryGate
import Courier.Proofs.SeparateNames
import Courier.Proofs.ServedAlone
import Courier.Proofs.SettingsRead
import Courier.Proofs.SharedServer
import Courier.Proofs.Shutdown
import Courier.Proofs.SubmissionEndings
import Courier.Proofs.SubmissionPaths
import Courier.Proofs.SuppressionWindow
import Courier.Proofs.TargetKinds
import Courier.Proofs.TokenHolders
import Courier.Proofs.TokenRoutes
import Courier.Proofs.Traffic
import Courier.Proofs.TruthfulStatus
import Courier.Proofs.Unfolding
import Courier.Proofs.UsableTargets
import Courier.Proofs.WholePayloads
import Courier.Proofs.WireRoundTrip
import Courier.Proofs.Workbench
import Courier.Redis.Command
import Courier.Redis.Keyspace
import Courier.Redis.Server
import Courier.Registration
import Courier.Rehearsal.Clock
import Courier.Rehearsal.Session
import Courier.Rehearsal.Shift
import Courier.Rehearsal.Turn
import Courier.Rehearsal.World
import Courier.Resolution
import Courier.Sentence
import Courier.Service
import Courier.Settings
import Courier.Submission
import Courier.Target
import Courier.Text.Base64
import Courier.Text.Blank
import Courier.Text.Decimal
import Courier.Text.Normal
import Courier.Text.Octets
import Courier.Text.Punycode
import Courier.Text.Shortest
import Courier.Text.Unicode.Alphanumeric
import Courier.Text.Unicode.Canonical
import Courier.Text.Unicode.Coded
import Courier.Text.Unicode.Folding
import Courier.Text.Unicode.Joining
import Courier.Worker
