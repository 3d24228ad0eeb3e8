import PaymentGateway.Lib.Strip
import PaymentGateway.Lib.Result
import PaymentGateway.Domain.Text
import PaymentGateway.Domain.Payment
import PaymentGateway.Domain.Lifecycle
import PaymentGateway.Domain.Evolution
import PaymentGateway.App.Commands
import PaymentGateway.App.Fingerprint
import PaymentGateway.App.Claims
import PaymentGateway.Store.Row
import PaymentGateway.Store.Idempotency
import PaymentGateway.Store.Methods
import PaymentGateway.Store.Specs
import PaymentGateway.Lib.History
import PaymentGateway.Store.Ledger
import PaymentGateway.Lib.Run
import PaymentGateway.Service.Methods
import PaymentGateway.Service.Rules
import PaymentGateway.Invariant.Attempts
import PaymentGateway.Invariant.Records
import PaymentGateway.Properties.RowHistory
import PaymentGateway.Properties.StoredRows
import PaymentGateway.Invariant.Keys
import PaymentGateway.Properties.BankRequests
import PaymentGateway.Properties.Recovery
import PaymentGateway.Bank.Client
import PaymentGateway.Properties.BankClient
import PaymentGateway.Bank.Agreement
import PaymentGateway.Properties.BankAgreement
import PaymentGateway.Invariant.Ownership
import PaymentGateway.Properties.LoadedPayments
import PaymentGateway.Properties.OpenClaims
import PaymentGateway.Properties.Replay
import PaymentGateway.Config.Validate
import PaymentGateway.Properties.Exclusive
import PaymentGateway.Invariant.Provenance
import PaymentGateway.Properties.SingleAuthorization
import PaymentGateway.Properties.ClaimStatements
import PaymentGateway.Properties.Releases
import PaymentGateway.Properties.PendingPayments
import PaymentGateway.Http.Envelope
import PaymentGateway.Service.Queries
import PaymentGateway.Store.Timestamps
import PaymentGateway.Http.RateLimiter
import PaymentGateway.Properties.ReadYourWrites
import PaymentGateway.Properties.RateLimits
import PaymentGateway.Service.Erasure
import PaymentGateway.Invariant.Progress
import PaymentGateway.Properties.CrashRetry
import PaymentGateway.Config.Wiring
import PaymentGateway.Properties.Configuration
import PaymentGateway.Properties.PaymentIDs
import PaymentGateway.Properties.RecoveryEvents
import PaymentGateway.Auth.Authenticator
import PaymentGateway.Properties.Credentials
import PaymentGateway.Http.Handlers
import PaymentGateway.Properties.OversizedBodies
import PaymentGateway.Lib.Sessions
import PaymentGateway.MockBank.Tables
import PaymentGateway.MockBank.Services
import PaymentGateway.MockBank.Locking
import PaymentGateway.MockBank.Runs
import PaymentGateway.MockBank.Postings
import PaymentGateway.MockBank.Book
import PaymentGateway.MockBank.Refinement
import PaymentGateway.Properties.BankTransactions
import PaymentGateway.Properties.BankBook
import PaymentGateway.MockBank.Identifiers
import PaymentGateway.MockBank.Handlers
import PaymentGateway.MockBank.Server
import PaymentGateway.MockBank.Answers
import PaymentGateway.MockBank.Expiry
import PaymentGateway.MockBank.Idempotency
import PaymentGateway.Properties.BankServer
import PaymentGateway.MockBank.Network
import PaymentGateway.MockBank.Settlement
import PaymentGateway.Properties.Composition
import PaymentGateway.Properties.ClientView
import PaymentGateway.Http.Answers
import PaymentGateway.Http.Middleware
import PaymentGateway.Http.Routes
import PaymentGateway.Properties.Responses
import PaymentGateway.Runtime.Shutdown
import PaymentGateway.Properties.Shutdown
