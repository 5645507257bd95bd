import PriceRelay.Activity.Basic
import PriceRelay.Activity.Beside
import PriceRelay.Activity.Run
import PriceRelay.Adapter.Abi
import PriceRelay.Adapter.Contract
import PriceRelay.Adapter.Deployed
import PriceRelay.Adapter.Kind
import PriceRelay.Auction.Agreement
import PriceRelay.Auction.Client
import PriceRelay.Auction.Failure
import PriceRelay.Auction.Lane
import PriceRelay.Auction.Request
import PriceRelay.Bytes.Basic
import PriceRelay.Bytes.Hex
import PriceRelay.Bytes.Utf8
import PriceRelay.Calendar.Instant
import PriceRelay.Calendar.Moment
import PriceRelay.Chain.Endpoint
import PriceRelay.Chain.Fees
import PriceRelay.Chain.Gas
import PriceRelay.Chain.Inclusion
import PriceRelay.Chain.Nonce
import PriceRelay.Chain.Providers
import PriceRelay.Chain.Rlp
import PriceRelay.Chain.Rpc
import PriceRelay.Chain.Sender
import PriceRelay.Chain.SignedTransaction
import PriceRelay.Chain.Update
import PriceRelay.Condition.Check
import PriceRelay.Condition.Cron
import PriceRelay.Condition.Deviation
import PriceRelay.Condition.Time
import PriceRelay.Config.Basic
import PriceRelay.Config.Document
import PriceRelay.Config.Error
import PriceRelay.Config.Loading
import PriceRelay.Config.Placeholder
import PriceRelay.Config.Reader
import PriceRelay.Config.Validation
import PriceRelay.Contract
import PriceRelay.Cron.Expression
import PriceRelay.Cron.Schedule
import PriceRelay.Cron.Search
import PriceRelay.Crypto.Checksum
import PriceRelay.Crypto.Keccak
import PriceRelay.Crypto.Secp256k1
import PriceRelay.Crypto.Sha256
import PriceRelay.Decision.Basic
import PriceRelay.Decision.Engine
import PriceRelay.Decision.PastPackages
import PriceRelay.Decision.Widening
import PriceRelay.Delivery.Manager
import PriceRelay.Delivery.Outcome
import PriceRelay.Delivery.Settings
import PriceRelay.Failure
import PriceRelay.FeedMap
import PriceRelay.FeedSlot
import PriceRelay.Gateway
import PriceRelay.Health
import PriceRelay.Iteration.Fetch
import PriceRelay.Iteration.Loop
import PriceRelay.Iteration.Relayer
import PriceRelay.Json.Basic
import PriceRelay.Json.Document
import PriceRelay.Json.Reader
import PriceRelay.Number.Binary
import PriceRelay.Number.Read
import PriceRelay.Number.Shortest
import PriceRelay.Number.Text
import PriceRelay.Package
import PriceRelay.PackageJson
import PriceRelay.PackageSet
import PriceRelay.Payload
import PriceRelay.Rehearsal.Node
import PriceRelay.Rehearsal.Partner
import PriceRelay.Rehearsal.Report
import PriceRelay.Rehearsal.Script
import PriceRelay.Rehearsal.Stage
import PriceRelay.Rehearsal.Timeline
import PriceRelay.Request
import PriceRelay.Text.Cased
import PriceRelay.Text.CodeRanges
import PriceRelay.Text.CodeRules
import PriceRelay.Text.Composition
import PriceRelay.Text.Composition.Table
import PriceRelay.Text.Direction
import PriceRelay.Text.Duration
import PriceRelay.Text.Hidden
import PriceRelay.Text.Joining
import PriceRelay.Text.JsonText
import PriceRelay.Text.LowerCase
import PriceRelay.Text.Marks
import PriceRelay.Text.Quoted
import PriceRelay.Text.Space
import PriceRelay.Toml.Basic
import PriceRelay.Toml.Reader
import PriceRelay.Toml.Scalar
import PriceRelay.Trigger
import PriceRelay.Web.Basic
import PriceRelay.Web.Domain
import PriceRelay.Web.Domain.Label
import PriceRelay.Web.Domain.Mapping
import PriceRelay.Web.Domain.Punycode
import PriceRelay.Web.NumericHost
import PriceRelay.Web.Status
import PriceRelay.Web.Url
import PriceRelay.World
import PriceRelay.Proofs.Activity.Alone
import PriceRelay.Proofs.Activity.AnyOf
import PriceRelay.Proofs.Activity.History
import PriceRelay.Proofs.Activity.InTime
import PriceRelay.Proofs.Activity.Limits
import PriceRelay.Proofs.Activity.Observed
import PriceRelay.Proofs.Activity.Races
import PriceRelay.Proofs.Activity.Reaching
import PriceRelay.Proofs.Activity.Services
import PriceRelay.Proofs.Activity.Sharing
import PriceRelay.Proofs.Activity.SideBySide
import PriceRelay.Proofs.Activity.Uses
import PriceRelay.Proofs.Activity.Yields
import PriceRelay.Proofs.Adapter.Answers
import PriceRelay.Proofs.Adapter.StoredState
import PriceRelay.Proofs.Adapter.UpdateCalls
import PriceRelay.Proofs.Auction.Acceptance
import PriceRelay.Proofs.Auction.Agreement
import PriceRelay.Proofs.Auction.FirstWin
import PriceRelay.Proofs.Auction.SignedMessage
import PriceRelay.Proofs.Auction.Verification
import PriceRelay.Proofs.Bytes.Hex
import PriceRelay.Proofs.Bytes.Utf8
import PriceRelay.Proofs.Bytes.Written
import PriceRelay.Proofs.Calendar.Moment
import PriceRelay.Proofs.Chain.Broadcast
import PriceRelay.Proofs.Chain.Errands
import PriceRelay.Proofs.Chain.Fallback
import PriceRelay.Proofs.Chain.FeeOrder
import PriceRelay.Proofs.Chain.GasCap
import PriceRelay.Proofs.Chain.Inclusion
import PriceRelay.Proofs.Chain.KeptPrices
import PriceRelay.Proofs.Chain.Nonces
import PriceRelay.Proofs.Chain.Polling
import PriceRelay.Proofs.Chain.Rlp
import PriceRelay.Proofs.Condition.Cron
import PriceRelay.Proofs.Condition.Deviation
import PriceRelay.Proofs.Condition.Disjointness
import PriceRelay.Proofs.Config.Accepted
import PriceRelay.Proofs.Config.Expansion
import PriceRelay.Proofs.Config.Rules
import PriceRelay.Proofs.Config.Slots
import PriceRelay.Proofs.Cron.Search
import PriceRelay.Proofs.Decision.Backup
import PriceRelay.Proofs.Decision.Closure
import PriceRelay.Proofs.Decision.Firing
import PriceRelay.Proofs.Decision.Idempotence
import PriceRelay.Proofs.Decision.MoreTriggers
import PriceRelay.Proofs.Decision.PastChecks
import PriceRelay.Proofs.Decision.Recorded
import PriceRelay.Proofs.Decision.Saturation
import PriceRelay.Proofs.Decision.Selection
import PriceRelay.Proofs.Decision.SharedPackages
import PriceRelay.Proofs.Decision.Widening
import PriceRelay.Proofs.Decision.Written
import PriceRelay.Proofs.Delivery.Attempts
import PriceRelay.Proofs.Delivery.Origins
import PriceRelay.Proofs.Delivery.Outcome
import PriceRelay.Proofs.Delivery.Turns
import PriceRelay.Proofs.Iteration.BatchTimestamp
import PriceRelay.Proofs.Iteration.Course
import PriceRelay.Proofs.Iteration.Notifications
import PriceRelay.Proofs.Iteration.OneBlock
import PriceRelay.Proofs.Iteration.Outcomes
import PriceRelay.Proofs.Iteration.Questions
import PriceRelay.Proofs.Iteration.RebuiltCalls
import PriceRelay.Proofs.Iteration.RecordedFeeds
import PriceRelay.Proofs.Iteration.Rehearsed
import PriceRelay.Proofs.Iteration.Service
import PriceRelay.Proofs.Iteration.Silence
import PriceRelay.Proofs.Iteration.Skipped
import PriceRelay.Proofs.Lists
import PriceRelay.Proofs.Number.Infinity
import PriceRelay.Proofs.Number.Nearest
import PriceRelay.Proofs.Number.Order
import PriceRelay.Proofs.Number.Packing
import PriceRelay.Proofs.Number.Products
import PriceRelay.Proofs.Number.Rounding
import PriceRelay.Proofs.Number.Unsigned
import PriceRelay.Proofs.Packages.ByFeed
import PriceRelay.Proofs.Packages.FirstSigners
import PriceRelay.Proofs.Packages.Lookup
import PriceRelay.Proofs.Packages.Needed
import PriceRelay.Proofs.Packages.Order
import PriceRelay.Proofs.Packages.Repeats
import PriceRelay.Proofs.Packages.Selection
import PriceRelay.Proofs.Packages.Threshold
import PriceRelay.Proofs.Packages.VisitingOrder
import PriceRelay.Proofs.Payload.Reading
import PriceRelay.Proofs.Payload.RoundTrip
import PriceRelay.Proofs.Successes
