import SignIn.Account
import SignIn.Account.File
import SignIn.Activity
import SignIn.Activity.Board
import SignIn.Activity.Control
import SignIn.Activity.TokenTree
import SignIn.Activity.Waiter
import SignIn.Attempt
import SignIn.Base64
import SignIn.Batch
import SignIn.Batch.Run
import SignIn.ClientToken
import SignIn.CommandLine
import SignIn.Discovery
import SignIn.Disk
import SignIn.Error
import SignIn.Exchange.Form
import SignIn.Exchange.Grant
import SignIn.Exchange.Refusal
import SignIn.Exchange.Session
import SignIn.FailureKind
import SignIn.Header
import SignIn.Json.Container
import SignIn.Json.Fault
import SignIn.Json.Read
import SignIn.Json.Record
import SignIn.Json.Scan
import SignIn.Json.Skip
import SignIn.Json.Value
import SignIn.Json.Write
import SignIn.Main
import SignIn.Menu
import SignIn.Network
import SignIn.Number.Binary64
import SignIn.Number.Shortest
import SignIn.Outcome
import SignIn.Proofs.Account.Deeds
import SignIn.Proofs.Account.File
import SignIn.Proofs.Activity.Cancellation
import SignIn.Proofs.Activity.Lifecycle
import SignIn.Proofs.Activity.Story
import SignIn.Proofs.Activity.Watching
import SignIn.Proofs.Attempt
import SignIn.Proofs.Authentication.Acceptance
import SignIn.Proofs.Authentication.Answered
import SignIn.Proofs.Authentication.Checks
import SignIn.Proofs.Authentication.Choice
import SignIn.Proofs.Authentication.Classification
import SignIn.Proofs.Authentication.Commit
import SignIn.Proofs.Authentication.Confirmation
import SignIn.Proofs.Authentication.Judgement
import SignIn.Proofs.Authentication.Protocol
import SignIn.Proofs.Authentication.Received
import SignIn.Proofs.Authentication.Refusal
import SignIn.Proofs.Authentication.Repetition
import SignIn.Proofs.Authentication.Round
import SignIn.Proofs.Authentication.Twin
import SignIn.Proofs.Base64
import SignIn.Proofs.Batch.Course
import SignIn.Proofs.Batch.Interleaving
import SignIn.Proofs.Batch.Reordering
import SignIn.Proofs.Batch.Report
import SignIn.Proofs.Batch.Retry
import SignIn.Proofs.Batch.Routes
import SignIn.Proofs.Batch.Stands
import SignIn.Proofs.Batch.Stopping
import SignIn.Proofs.Batch.Tried
import SignIn.Proofs.Batch.Turns
import SignIn.Proofs.Batch.Winding
import SignIn.Proofs.ClientToken
import SignIn.Proofs.Discovery
import SignIn.Proofs.Discovery.Location
import SignIn.Proofs.Disk
import SignIn.Proofs.Except
import SignIn.Proofs.Exchange.Grant
import SignIn.Proofs.Exchange.NullSession
import SignIn.Proofs.Exchange.NullText
import SignIn.Proofs.Exchange.Refusal
import SignIn.Proofs.Exchange.Session
import SignIn.Proofs.Exchange.SessionText
import SignIn.Proofs.Json.Grammar
import SignIn.Proofs.Json.Local
import SignIn.Proofs.Json.LocalScan
import SignIn.Proofs.Json.LocalValue
import SignIn.Proofs.Json.Meaning
import SignIn.Proofs.Json.Numeral
import SignIn.Proofs.Json.Passed
import SignIn.Proofs.Json.Place
import SignIn.Proofs.Json.PlaceValue
import SignIn.Proofs.Json.Recovered
import SignIn.Proofs.Json.Slots
import SignIn.Proofs.Json.Spelled
import SignIn.Proofs.Json.Text
import SignIn.Proofs.Json.Tree
import SignIn.Proofs.Json.Word
import SignIn.Proofs.Json.Written
import SignIn.Proofs.Lookup
import SignIn.Proofs.Lookup.Address
import SignIn.Proofs.Lookup.Classification
import SignIn.Proofs.Lookup.Identity
import SignIn.Proofs.Menu
import SignIn.Proofs.Nulled
import SignIn.Proofs.Routine.Beforehand
import SignIn.Proofs.Routine.Cancellation
import SignIn.Proofs.Routine.Fold
import SignIn.Proofs.Routine.Offline
import SignIn.Proofs.Routine.Password
import SignIn.Proofs.Routine.Perform
import SignIn.Proofs.Routine.Pinning
import SignIn.Proofs.Routine.Rerun
import SignIn.Proofs.Routine.Twin
import SignIn.Proofs.Settings
import SignIn.Proofs.Settings.File
import SignIn.Proofs.Text.Blank
import SignIn.Proofs.Text.Utf8
import SignIn.Proofs.Time.Instant
import SignIn.Proofs.Url.Appended
import SignIn.Proofs.Url.Ascii
import SignIn.Proofs.Url.Authority
import SignIn.Proofs.Url.Blanks
import SignIn.Proofs.Url.Confined
import SignIn.Proofs.Url.Encoded
import SignIn.Proofs.Url.Joined
import SignIn.Proofs.Url.Path
import SignIn.Proofs.Url.ReadBack
import SignIn.Proofs.Url.Segments
import SignIn.Proofs.Url.Server
import SignIn.Proofs.Url.Web
import SignIn.Reply
import SignIn.Request
import SignIn.Routine
import SignIn.Server
import SignIn.Settings
import SignIn.Step
import SignIn.Step.Authentication
import SignIn.Step.Lookup
import SignIn.Text.Blank
import SignIn.Text.Composition
import SignIn.Text.Direction
import SignIn.Text.Joining
import SignIn.Text.Mark
import SignIn.Text.Quoted
import SignIn.Text.Unprintable
import SignIn.Text.Utf8
import SignIn.Time.Calendar
import SignIn.Time.Instant
import SignIn.Url.Address
import SignIn.Url.Basic
import SignIn.Url.Domain
import SignIn.Url.Folding
import SignIn.Url.Parse
import SignIn.Url.Path
import SignIn.Url.Percent
import SignIn.Url.Punycode
