import PoolExit.Bytes
import PoolExit.Chain.ComputeBudget
import PoolExit.Chain.Transaction
import PoolExit.Chain.Wire
import PoolExit.Command.Arguments
import PoolExit.Command.Errand
import PoolExit.Command.Form
import PoolExit.Command.Help
import PoolExit.Command.LogFilter
import PoolExit.Command.NodeClient
import PoolExit.Command.Notice
import PoolExit.Command.Program
import PoolExit.Command.Shell
import PoolExit.Command.Summary
import PoolExit.Command.Template
import PoolExit.Endpoint.Answer
import PoolExit.Endpoint.Backend
import PoolExit.Endpoint.Error
import PoolExit.Endpoint.Exchange
import PoolExit.Endpoint.Request
import PoolExit.Endpoint.Status
import PoolExit.Exit.Board
import PoolExit.Exit.Conduct
import PoolExit.Exit.Desk
import PoolExit.Exit.Draft
import PoolExit.Exit.Error
import PoolExit.Exit.Guard
import PoolExit.Exit.Item
import PoolExit.Exit.Notice
import PoolExit.Exit.Options
import PoolExit.Exit.Order
import PoolExit.Exit.Plan
import PoolExit.Exit.Question
import PoolExit.Exit.Report
import PoolExit.Exit.Retry
import PoolExit.Exit.Run
import PoolExit.Exit.Signing
import PoolExit.Exit.Task
import PoolExit.Fee.Ladder
import PoolExit.Flow
import PoolExit.Json.Reader
import PoolExit.Json.Skip
import PoolExit.Json.TextMember
import PoolExit.Json.Value
import PoolExit.Json.Writer
import PoolExit.Ledger.Error
import PoolExit.Ledger.Failure
import PoolExit.Ledger.Library
import PoolExit.Ledger.Node
import PoolExit.Ledger.Watch
import PoolExit.Main
import PoolExit.Notice
import PoolExit.Number.Binary64
import PoolExit.Number.Shortest
import PoolExit.Proofs.Absence
import PoolExit.Proofs.Accounting
import PoolExit.Proofs.Alternatives
import PoolExit.Proofs.Answers
import PoolExit.Proofs.Attending
import PoolExit.Proofs.Attempt
import PoolExit.Proofs.Base58
import PoolExit.Proofs.Base64
import PoolExit.Proofs.Basic
import PoolExit.Proofs.Batches
import PoolExit.Proofs.Bookkeeping
import PoolExit.Proofs.Cancellation
import PoolExit.Proofs.Codec
import PoolExit.Proofs.Completion
import PoolExit.Proofs.Conducted
import PoolExit.Proofs.Confirming
import PoolExit.Proofs.Conversation
import PoolExit.Proofs.Course
import PoolExit.Proofs.Decimals
import PoolExit.Proofs.Drafting
import PoolExit.Proofs.DryRun
import PoolExit.Proofs.Ending
import PoolExit.Proofs.Enumerations
import PoolExit.Proofs.Escalation
import PoolExit.Proofs.Exclusion
import PoolExit.Proofs.Expiry
import PoolExit.Proofs.Gathering
import PoolExit.Proofs.Granting
import PoolExit.Proofs.Guarding
import PoolExit.Proofs.Handing
import PoolExit.Proofs.Isolation
import PoolExit.Proofs.Ladder
import PoolExit.Proofs.LadderExact
import PoolExit.Proofs.LadderRaised
import PoolExit.Proofs.LadderShape
import PoolExit.Proofs.LocalSigning
import PoolExit.Proofs.Log
import PoolExit.Proofs.Messages
import PoolExit.Proofs.Moves
import PoolExit.Proofs.Moving
import PoolExit.Proofs.Planning
import PoolExit.Proofs.Play
import PoolExit.Proofs.Probing
import PoolExit.Proofs.SideBySide
import PoolExit.Proofs.Progress
import PoolExit.Proofs.Provenance
import PoolExit.Proofs.ReadBack
import PoolExit.Proofs.Reckoning
import PoolExit.Proofs.Record
import PoolExit.Proofs.Reentry
import PoolExit.Proofs.Regrouping
import PoolExit.Proofs.Renewal
import PoolExit.Proofs.Repetition
import PoolExit.Proofs.Requests
import PoolExit.Proofs.RoundTrip
import PoolExit.Proofs.RunTranscript
import PoolExit.Proofs.SecretForms
import PoolExit.Proofs.Sequence
import PoolExit.Proofs.Session
import PoolExit.Proofs.Signatures
import PoolExit.Proofs.Stages
import PoolExit.Proofs.StatedFee
import PoolExit.Proofs.Stint
import PoolExit.Proofs.Strangers
import PoolExit.Proofs.Transcript
import PoolExit.Proofs.Underway
import PoolExit.Proofs.Variants
import PoolExit.Proofs.Verdict
import PoolExit.Proofs.Vouching
import PoolExit.Proofs.Watching
import PoolExit.Proofs.Whole
import PoolExit.Settings.Basic
import PoolExit.Settings.Decode
import PoolExit.Settings.Error
import PoolExit.Settings.Listen
import PoolExit.Settings.Load
import PoolExit.Settings.Wallet
import PoolExit.Text.Base58
import PoolExit.Text.Base64
import PoolExit.Text.Blank
import PoolExit.Text.Cut
import PoolExit.Text.Digits
import PoolExit.Text.Hex
import PoolExit.Unicode.CombiningClass
import PoolExit.Unicode.Composite
import PoolExit.Unicode.Direction
import PoolExit.Unicode.Joining
import PoolExit.Unicode.Mark
import PoolExit.Unicode.Normal
import PoolExit.Unicode.Table
import PoolExit.Url.Basic
import PoolExit.Url.Domain
import PoolExit.Url.Domain.Bidi
import PoolExit.Url.Domain.Joiner
import PoolExit.Url.Domain.Mapping
import PoolExit.Url.Host
import PoolExit.Url.Punycode
import PoolExit.Venue.Basic
import PoolExit.Venue.Error
import PoolExit.Venue.Fields
import PoolExit.Venue.Position
import PoolExit.Venue.Resolve
import PoolExit.Wallet.Ed25519
import PoolExit.Wallet.Error
import PoolExit.Wallet.LocalSigner
import PoolExit.Wallet.Secret
import PoolExit.Wallet.Sha512
import PoolExit.Yaml.Cursor
import PoolExit.Yaml.Node
import PoolExit.Yaml.Scalar
import PoolExit.Yaml.Scan
import PoolExit.Yaml.Tag
import PoolExit.Yaml.Token
import PoolExit.Yaml.Value
