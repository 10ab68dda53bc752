import Ledger.Transaction
import Ledger.Auth.Check
import Ledger.Auth.Client
import Ledger.Command.Console
import Ledger.Command.Flags
import Ledger.Command.Server
import Ledger.Command.Run
import Ledger.Command.Signer
import Ledger.Config.Basic
import Ledger.Config.Clients
import Ledger.Config.EnvFile
import Ledger.Config.Load
import Ledger.Crypto.Base64
import Ledger.Crypto.SecretBox
import Ledger.Crypto.Sha256
import Ledger.Engine.Locker
import Ledger.Engine.Service
import Ledger.Engine.Sweep
import Ledger.Engine.World
import Ledger.Failure
import Ledger.Files
import Ledger.Http.Api
import Ledger.Http.Message
import Ledger.Http.Payload
import Ledger.Http.Route
import Ledger.Http.Url
import Ledger.Json.Basic
import Ledger.Json.Bind
import Ledger.Json.Read
import Ledger.Log
import Ledger.Mail.Address
import Ledger.Mail.Delivery
import Ledger.Mail.QuotedPrintable
import Ledger.Main
import Ledger.Mask
import Ledger.Number.Binary64
import Ledger.Number.Decimal
import Ledger.Number.Integer
import Ledger.Schedule
import Ledger.Secret
import Ledger.Session
import Ledger.Sql.ConnInfo
import Ledger.Sql.Connection
import Ledger.Sql.Value
import Ledger.Statement
import Ledger.Store.Fault
import Ledger.Store.Memory
import Ledger.Store.Relational
import Ledger.Text.Bytes
import Ledger.Text.Case
import Ledger.Text.Printable
import Ledger.Text.Quoted
import Ledger.Time.Duration
import Ledger.Time.Instant
import Ledger.Time.Zone
import Ledger.Uuid
import Ledger.Proofs.DecimalValue
import Ledger.Proofs.Interleaving
import Ledger.Proofs.StoreLaws
import Ledger.Proofs.RunAlone
import Ledger.Proofs.StepLaws
import Ledger.Proofs.Coherence
import Ledger.Proofs.Conservation
import Ledger.Proofs.BalanceFloor
import Ledger.Proofs.RateBound
import Ledger.Proofs.Authentication
import Ledger.Proofs.CanonicalBinding
import Ledger.Proofs.StoreCalls
import Ledger.Proofs.RecordLife
import Ledger.Proofs.AccountIndex
import Ledger.Proofs.ReportOnce
import Ledger.Proofs.SignedBody
import Ledger.Proofs.RequestEffects
import Ledger.Proofs.SignerAgreement
import Ledger.Proofs.ScrubPass
import Ledger.Proofs.LogMasking
import Ledger.Proofs.AccountLocks
import Ledger.Proofs.CallEffect
import Ledger.Proofs.ReferenceRule
import Ledger.Proofs.ValidatorAgreement
import Ledger.Proofs.ErrorAnswers
import Ledger.Proofs.StoreQueries
import Ledger.Proofs.Utf8Reading
import Ledger.Proofs.Base64Codec
import Ledger.Proofs.SealedSecrets
import Ledger.Proofs.DecimalText
import Ledger.Proofs.StatementViews
import Ledger.Proofs.MaskMargins
import Ledger.Proofs.ClientRegistry
import Ledger.Proofs.SeedAccounts
import Ledger.Proofs.RecordRows
import Ledger.Proofs.StoreAgreement
