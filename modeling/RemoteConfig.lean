import RemoteConfig.Cancellation
import RemoteConfig.Candidate
import RemoteConfig.CommandLine.Files
import RemoteConfig.CommandLine.Invocation
import RemoteConfig.CommandLine.Run
import RemoteConfig.CommandLine.Usage
import RemoteConfig.Discovery
import RemoteConfig.Duration
import RemoteConfig.Environment
import RemoteConfig.Environment.Document
import RemoteConfig.Environment.Reader
import RemoteConfig.Failure
import RemoteConfig.Http
import RemoteConfig.Json.Grammar
import RemoteConfig.Json.Reader
import RemoteConfig.Json.Scan
import RemoteConfig.Json.Value
import RemoteConfig.Main
import RemoteConfig.Metrics
import RemoteConfig.Number.Decimal
import RemoteConfig.Number.Double
import RemoteConfig.Number.Radix
import RemoteConfig.Number.Shortest
import RemoteConfig.Options
import RemoteConfig.Options.Document
import RemoteConfig.Options.Issue
import RemoteConfig.Options.Pairs
import RemoteConfig.Options.Slot
import RemoteConfig.Options.Source
import RemoteConfig.Options.Validation
import RemoteConfig.Proofs.Candidate
import RemoteConfig.Proofs.Candidate.Parts
import RemoteConfig.Proofs.CommandLine.Secrets
import RemoteConfig.Proofs.Duration
import RemoteConfig.Proofs.Environment.Document
import RemoteConfig.Proofs.Environment.NestedValues
import RemoteConfig.Proofs.Http
import RemoteConfig.Proofs.Http.Precedence
import RemoteConfig.Proofs.Json.Normal
import RemoteConfig.Proofs.Json.Reader
import RemoteConfig.Proofs.Json.Render
import RemoteConfig.Proofs.Json.Scan
import RemoteConfig.Proofs.Json.Written
import RemoteConfig.Proofs.Number.Numeral
import RemoteConfig.Proofs.Number.Order
import RemoteConfig.Proofs.Number.Rounding
import RemoteConfig.Proofs.Number.Shortest
import RemoteConfig.Proofs.Number.Sign
import RemoteConfig.Proofs.Options.Overlay
import RemoteConfig.Proofs.Options.Spelling
import RemoteConfig.Proofs.Options.Validation
import RemoteConfig.Proofs.Provider.Accepted
import RemoteConfig.Proofs.Provider.Callers
import RemoteConfig.Proofs.Provider.Cancellation
import RemoteConfig.Proofs.Provider.Content
import RemoteConfig.Proofs.Provider.Counters
import RemoteConfig.Proofs.Provider.Disabled
import RemoteConfig.Proofs.Provider.FailFast
import RemoteConfig.Proofs.Provider.FetchMark
import RemoteConfig.Proofs.Provider.Headers
import RemoteConfig.Proofs.Provider.Health
import RemoteConfig.Proofs.Provider.LastFetch
import RemoteConfig.Proofs.Provider.OwnOptions
import RemoteConfig.Proofs.Provider.Plan
import RemoteConfig.Proofs.Provider.Polling
import RemoteConfig.Proofs.Provider.Secrets
import RemoteConfig.Proofs.Provider.Stopping
import RemoteConfig.Proofs.Provider.StoppingSteps
import RemoteConfig.Proofs.Provider.Timeline
import RemoteConfig.Proofs.Provider.Turns
import RemoteConfig.Proofs.Provider.WalkedLists
import RemoteConfig.Proofs.Retry.Backoff
import RemoteConfig.Proofs.Retry.Bounds
import RemoteConfig.Proofs.Retry.Course
import RemoteConfig.Proofs.Retry.Growth
import RemoteConfig.Proofs.Snapshot.Children
import RemoteConfig.Proofs.Snapshot.Content
import RemoteConfig.Proofs.Snapshot.Descent
import RemoteConfig.Proofs.Snapshot.Difference
import RemoteConfig.Proofs.Snapshot.Iteration
import RemoteConfig.Proofs.Snapshot.Precedence
import RemoteConfig.Proofs.Snapshot.Tree
import RemoteConfig.Proofs.Store.Shared
import RemoteConfig.Proofs.Store.Tokens
import RemoteConfig.Proofs.Text.CommaList
import RemoteConfig.Proofs.Url.Password
import RemoteConfig.Proofs.Walk.Authorization
import RemoteConfig.Proofs.Walk.Disclosure
import RemoteConfig.Proofs.Walk.Transcript
import RemoteConfig.Proofs.Walk.Verdict
import RemoteConfig.Provider
import RemoteConfig.Provider.Callers
import RemoteConfig.Provider.Health
import RemoteConfig.Provider.Overlap
import RemoteConfig.Provider.Plan
import RemoteConfig.Provider.Stopping
import RemoteConfig.Retry
import RemoteConfig.Retry.Scripted
import RemoteConfig.Servers.Scripted
import RemoteConfig.Session
import RemoteConfig.Snapshot
import RemoteConfig.Store
import RemoteConfig.Store.Shared
import RemoteConfig.Store.Watched
import RemoteConfig.Text.Base64
import RemoteConfig.Text.Blank
import RemoteConfig.Text.Charset
import RemoteConfig.Text.CharsetTable
import RemoteConfig.Text.EditDistance
import RemoteConfig.Text.Fold
import RemoteConfig.Text.Quoted
import RemoteConfig.Text.Split
import RemoteConfig.Text.Utf8
import RemoteConfig.TextMap
import RemoteConfig.Url.Basic
import RemoteConfig.Url.Domain
import RemoteConfig.Url.Domain.Direction
import RemoteConfig.Url.Domain.Joining
import RemoteConfig.Url.Domain.Mapping
import RemoteConfig.Url.Host
import RemoteConfig.Url.Path
import RemoteConfig.Url.Percent
import RemoteConfig.Url.Punycode
import RemoteConfig.Url.Reader
import RemoteConfig.Walk
import RemoteConfig.Yaml.Node
import RemoteConfig.Yaml.Placed
import RemoteConfig.Yaml.Reading
import RemoteConfig.Yaml.Scalar
import RemoteConfig.Yaml.Tag
import RemoteConfig.Yaml.Token
