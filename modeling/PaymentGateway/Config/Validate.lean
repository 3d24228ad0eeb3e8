/-
# The configuration

The configuration that the service is started with, and the checks of its `validate`
method in their order. A configuration that passes has a stuck-after duration greater
than the time a payment command may take, which is what keeps a claim with one attempt
at a time.

Durations are 64-bit counts of nanoseconds. The one sum that `validate` takes wraps
around as Go's does.
-/

import PaymentGateway.App.Errors
import PaymentGateway.Lib.Result
import Mathlib.Tactic.Linarith

namespace PaymentGateway

open Lib

/-- Durations and times are compared as they are; a sum of durations wraps around. -/
def wrapDuration (value : ℤ) : Duration := Int.bmod value (2 ^ 64)

/-- `time.Second`. -/
def second : Duration := 1000000000

/-- `paymentCommandCompletionReserve`. -/
def paymentCommandCompletionReserve : Duration := second

/-- The parts of `url.URL` that are checked. -/
structure BaseURL where
  scheme : GoString
  host : GoString
  deriving DecidableEq, Repr

/-- `config`, without the service credentials, which `validate` does not look at. -/
structure Config where
  logLevel : GoString
  shutdownTimeout : Duration
  idempotencyReplayCleanupInterval : Duration
  databaseURL : GoString
  databaseMaxOpenConnections : ℤ
  databaseMaxIdleConnections : ℤ
  databaseConnectionMaxLifetime : Duration
  databaseConnectionMaxIdleTime : Duration
  databaseStartupTimeout : Duration
  httpAddr : GoString
  httpReadHeaderTimeout : Duration
  httpReadTimeout : Duration
  httpWriteTimeout : Duration
  httpIdleTimeout : Duration
  httpMaxRequestBodyBytes : ℤ
  rateLimitReadRequestsPerSecond : ℤ
  rateLimitReadBurst : ℤ
  rateLimitWriteRequestsPerSecond : ℤ
  rateLimitWriteBurst : ℤ
  paymentCommandTimeout : Duration
  paymentReadTimeout : Duration
  readinessTimeout : Duration
  metricsAddr : GoString
  metricsReadHeaderTimeout : Duration
  metricsReadTimeout : Duration
  metricsWriteTimeout : Duration
  metricsIdleTimeout : Duration
  fingerprintSecret : GoString
  idempotencyClaimStuckAfter : Duration
  mockBankBaseURL : BaseURL
  mockBankInitialAttemptTimeout : Duration
  mockBankRetryDelay : Duration
  mockBankRetryAttemptTimeout : Duration
  mockBankConnectTimeout : Duration
  mockBankTLSHandshakeTimeout : Duration
  mockBankResponseHeaderTimeout : Duration
  mockBankIdleConnectionTimeout : Duration
  deriving DecidableEq, Repr

/-! ## Addresses -/

/-- `net.SplitHostPort`, without the texts of its errors. The port starts after the last
colon; a host with colons is in brackets. -/
def splitHostPort (hostport : GoString) : Option (GoString × GoString) :=
  match hostport.reverse.idxOf? 0x3A with
  | none => none
  | some fromEnd =>
    let i := hostport.length - 1 - fromEnd
    if hostport.head? = some 0x5B then
      match hostport.idxOf? 0x5D with
      | none => none
      | some close =>
        if close + 1 ≠ i ∨ 0x5B ∈ hostport.drop 1 ∨ 0x5D ∈ hostport.drop (close + 1) then none
        else some ((hostport.take close).drop 1, hostport.drop (i + 1))
    else if 0x3A ∈ hostport.take i ∨ 0x5B ∈ hostport ∨ 0x5D ∈ hostport then none
    else some (hostport.take i, hostport.drop (i + 1))

/-- `strconv.Atoi`, without the texts of its errors. -/
def atoi (text : GoString) : Option ℤ :=
  let digits : GoString := match text with
    | 0x2D :: rest => rest
    | 0x2B :: rest => rest
    | _ => text
  let magnitude : ℤ := digits.foldl (fun n b => n * 10 + (b.toNat - 0x30)) 0
  let value : ℤ := if text.head? = some 0x2D then -magnitude else magnitude
  if digits = [] ∨ digits.any (fun b => b < 0x30 || 0x39 < b) = true ∨ value < -2 ^ 63 ∨
      2 ^ 63 ≤ value then none
  else some value

/-- `validateListenerAddr`. -/
def validateListenerAddr (name addr : GoString) : Except GoError Unit := do
  rejectIf (addr = []) (.text (name ++ ascii " is required"))
  match splitHostPort addr with
  | none => throw (.text (name ++ ascii " must be a host:port address"))
  | some (_, port) =>
    rejectIf (port = []) (.text (name ++ ascii " must be a host:port address"))
    match atoi port with
    | none => throw (.text (name ++ ascii " must use a port between 1 and 65535"))
    | some portNumber =>
      rejectIf (portNumber < 1 ∨ 65535 < portNumber)
        (.text (name ++ ascii " must use a port between 1 and 65535"))

/-! ## Checks -/

/-- A duration that must be positive. -/
def positiveDuration (name : GoString) (value : Duration) : Except GoError Unit :=
  rejectIf (value ≤ 0) (.text (name ++ ascii " must be a positive duration"))

/-- A number that must be positive. -/
def positiveInteger (name : GoString) (value : ℤ) : Except GoError Unit :=
  rejectIf (value ≤ 0) (.text (name ++ ascii " must be a positive integer"))

/-- `validateServerTimeouts`. -/
def validateServerTimeouts (name : GoString)
    (readHeaderTimeout readTimeout writeTimeout idleTimeout : Duration) : Except GoError Unit :=
  runChecks [
    positiveDuration (name ++ ascii "_READ_HEADER_TIMEOUT") readHeaderTimeout,
    positiveDuration (name ++ ascii "_READ_TIMEOUT") readTimeout,
    positiveDuration (name ++ ascii "_WRITE_TIMEOUT") writeTimeout,
    positiveDuration (name ++ ascii "_IDLE_TIMEOUT") idleTimeout]

namespace Config

/-- The checks of `config.validate`, in their order. -/
def checks (cfg : Config) : List (Except GoError Unit) := [
  validateListenerAddr (ascii "ADDR") cfg.httpAddr,
  validateListenerAddr (ascii "METRICS_ADDR") cfg.metricsAddr,
  rejectIf (cfg.httpAddr = cfg.metricsAddr) (.text (ascii "METRICS_ADDR must differ from ADDR")),
  rejectIf (cfg.databaseURL = []) (.text (ascii "DATABASE_URL is required")),
  positiveInteger (ascii "DATABASE_MAX_OPEN_CONNECTIONS") cfg.databaseMaxOpenConnections,
  rejectIf (cfg.databaseMaxIdleConnections < 0)
    (.text (ascii "DATABASE_MAX_IDLE_CONNECTIONS must be a non-negative integer")),
  rejectIf (cfg.databaseMaxOpenConnections < cfg.databaseMaxIdleConnections)
    (.text (ascii
      "DATABASE_MAX_IDLE_CONNECTIONS must be less than or equal to DATABASE_MAX_OPEN_CONNECTIONS")),
  positiveDuration (ascii "DATABASE_CONNECTION_MAX_LIFETIME") cfg.databaseConnectionMaxLifetime,
  rejectIf (cfg.mockBankBaseURL.scheme = [] ∨ cfg.mockBankBaseURL.host = [])
    (.text (ascii "MOCK_BANK_BASE_URL must be an absolute URL")),
  rejectIf (cfg.fingerprintSecret = []) (.text (ascii "FINGERPRINT_SECRET is required")),
  positiveDuration (ascii "IDEMPOTENCY_CLAIM_STUCK_AFTER") cfg.idempotencyClaimStuckAfter,
  positiveDuration (ascii "SHUTDOWN_TIMEOUT") cfg.shutdownTimeout,
  positiveDuration (ascii "IDEMPOTENCY_REPLAY_CLEANUP_INTERVAL")
    cfg.idempotencyReplayCleanupInterval,
  positiveDuration (ascii "DATABASE_CONNECTION_MAX_IDLE_TIME") cfg.databaseConnectionMaxIdleTime,
  positiveDuration (ascii "DATABASE_STARTUP_TIMEOUT") cfg.databaseStartupTimeout,
  rejectIf (cfg.logLevel ∉ [ascii "debug", ascii "info", ascii "warn", ascii "error"])
    (.text (ascii "LOG_LEVEL must be one of debug, info, warn, or error")),
  positiveDuration (ascii "PAYMENT_COMMAND_TIMEOUT") cfg.paymentCommandTimeout,
  rejectIf (cfg.idempotencyClaimStuckAfter ≤ cfg.paymentCommandTimeout)
    (.text (ascii "IDEMPOTENCY_CLAIM_STUCK_AFTER must exceed PAYMENT_COMMAND_TIMEOUT")),
  positiveDuration (ascii "PAYMENT_READ_TIMEOUT") cfg.paymentReadTimeout,
  positiveDuration (ascii "READINESS_CHECK_TIMEOUT") cfg.readinessTimeout,
  positiveDuration (ascii "MOCK_BANK_INITIAL_ATTEMPT_TIMEOUT") cfg.mockBankInitialAttemptTimeout,
  positiveDuration (ascii "MOCK_BANK_RETRY_DELAY") cfg.mockBankRetryDelay,
  positiveDuration (ascii "MOCK_BANK_RETRY_ATTEMPT_TIMEOUT") cfg.mockBankRetryAttemptTimeout,
  rejectIf (cfg.paymentCommandTimeout ≤ wrapDuration (cfg.mockBankInitialAttemptTimeout +
      cfg.mockBankRetryDelay + cfg.mockBankRetryAttemptTimeout + paymentCommandCompletionReserve))
    (.text (ascii "Mock Bank retry budget must leave time within PAYMENT_COMMAND_TIMEOUT " ++
      ascii "to persist the final payment outcome")),
  validateServerTimeouts (ascii "HTTP") cfg.httpReadHeaderTimeout cfg.httpReadTimeout
    cfg.httpWriteTimeout cfg.httpIdleTimeout,
  rejectIf (cfg.httpReadTimeout ≤ cfg.paymentCommandTimeout)
    (.text (ascii "HTTP_READ_TIMEOUT must exceed PAYMENT_COMMAND_TIMEOUT")),
  rejectIf (cfg.httpWriteTimeout ≤ cfg.paymentCommandTimeout)
    (.text (ascii "HTTP_WRITE_TIMEOUT must exceed PAYMENT_COMMAND_TIMEOUT")),
  validateServerTimeouts (ascii "METRICS") cfg.metricsReadHeaderTimeout cfg.metricsReadTimeout
    cfg.metricsWriteTimeout cfg.metricsIdleTimeout,
  positiveInteger (ascii "HTTP_MAX_REQUEST_BODY_BYTES") cfg.httpMaxRequestBodyBytes,
  positiveInteger (ascii "RATE_LIMIT_READ_REQUESTS_PER_SECOND") cfg.rateLimitReadRequestsPerSecond,
  positiveInteger (ascii "RATE_LIMIT_READ_BURST") cfg.rateLimitReadBurst,
  positiveInteger (ascii "RATE_LIMIT_WRITE_REQUESTS_PER_SECOND")
    cfg.rateLimitWriteRequestsPerSecond,
  positiveInteger (ascii "RATE_LIMIT_WRITE_BURST") cfg.rateLimitWriteBurst,
  positiveDuration (ascii "MOCK_BANK_CONNECT_TIMEOUT") cfg.mockBankConnectTimeout,
  positiveDuration (ascii "MOCK_BANK_TLS_HANDSHAKE_TIMEOUT") cfg.mockBankTLSHandshakeTimeout,
  positiveDuration (ascii "MOCK_BANK_RESPONSE_HEADER_TIMEOUT") cfg.mockBankResponseHeaderTimeout,
  positiveDuration (ascii "MOCK_BANK_IDLE_CONNECTION_TIMEOUT") cfg.mockBankIdleConnectionTimeout]

/-- `config.validate`. -/
def validate (cfg : Config) : Except GoError Unit := runChecks cfg.checks

/-- What the checks say about the settings that the components are built from and about the
budgets of a payment command. -/
structure Accepted (cfg : Config) : Prop where
  databaseURL : cfg.databaseURL ≠ []
  maxOpenConnections : 0 < cfg.databaseMaxOpenConnections
  maxIdleConnections : 0 ≤ cfg.databaseMaxIdleConnections
  maxIdle_le_maxOpen : cfg.databaseMaxIdleConnections ≤ cfg.databaseMaxOpenConnections
  connectionMaxLifetime : 0 < cfg.databaseConnectionMaxLifetime
  connectionMaxIdleTime : 0 < cfg.databaseConnectionMaxIdleTime
  scheme : cfg.mockBankBaseURL.scheme ≠ []
  host : cfg.mockBankBaseURL.host ≠ []
  fingerprintSecret : cfg.fingerprintSecret ≠ []
  claimStuckAfter : 0 < cfg.idempotencyClaimStuckAfter
  paymentCommandTimeout : 0 < cfg.paymentCommandTimeout
  command_lt_stuckAfter : cfg.paymentCommandTimeout < cfg.idempotencyClaimStuckAfter
  paymentReadTimeout : 0 < cfg.paymentReadTimeout
  readinessTimeout : 0 < cfg.readinessTimeout
  initialAttemptTimeout : 0 < cfg.mockBankInitialAttemptTimeout
  retryDelay : 0 < cfg.mockBankRetryDelay
  retryAttemptTimeout : 0 < cfg.mockBankRetryAttemptTimeout
  budget_lt_command : wrapDuration (cfg.mockBankInitialAttemptTimeout + cfg.mockBankRetryDelay +
    cfg.mockBankRetryAttemptTimeout + paymentCommandCompletionReserve) < cfg.paymentCommandTimeout
  command_lt_httpRead : cfg.paymentCommandTimeout < cfg.httpReadTimeout
  command_lt_httpWrite : cfg.paymentCommandTimeout < cfg.httpWriteTimeout
  maxRequestBodyBytes : 0 < cfg.httpMaxRequestBodyBytes
  readRequestsPerSecond : 0 < cfg.rateLimitReadRequestsPerSecond
  readBurst : 0 < cfg.rateLimitReadBurst
  writeRequestsPerSecond : 0 < cfg.rateLimitWriteRequestsPerSecond
  writeBurst : 0 < cfg.rateLimitWriteBurst
  connectTimeout : 0 < cfg.mockBankConnectTimeout
  tlsHandshakeTimeout : 0 < cfg.mockBankTLSHandshakeTimeout
  responseHeaderTimeout : 0 < cfg.mockBankResponseHeaderTimeout
  idleConnectionTimeout : 0 < cfg.mockBankIdleConnectionTimeout

theorem accepted_of_validate {cfg : Config} (h : cfg.validate = .ok ()) : cfg.Accepted := by
  have hchecks := runChecks_eq_ok.mp h
  simp only [checks, positiveDuration, positiveInteger, List.forall_mem_cons, rejectIf_eq_ok,
    not_le, not_lt, not_or] at hchecks
  obtain ⟨-, -, -, _, _, _, _, _, ⟨_, _⟩, _, _, -, -, _, -, -, _, _, _, _, _, _, _, _, -, _, _, -,
    _, _, _, _, _, _, _, _, _, -⟩ := hchecks
  constructor <;> assumption

theorem paymentCommandTimeout_pos (cfg : Config) (h : cfg.validate = .ok ()) :
    0 < cfg.paymentCommandTimeout :=
  (accepted_of_validate h).paymentCommandTimeout

/-- An accepted configuration gives a payment command less time than a claim needs to count
as stuck. -/
theorem paymentCommandTimeout_lt (cfg : Config) (h : cfg.validate = .ok ()) :
    cfg.paymentCommandTimeout < cfg.idempotencyClaimStuckAfter :=
  (accepted_of_validate h).command_lt_stuckAfter

/-! ## Defaults -/

/-- The configuration of an environment that sets only what has no default. -/
def defaults (databaseURL fingerprintSecret : GoString) (mockBankBaseURL : BaseURL) : Config where
  logLevel := ascii "info"
  shutdownTimeout := 30 * second
  idempotencyReplayCleanupInterval := 3600 * second
  databaseURL := databaseURL
  databaseMaxOpenConnections := 10
  databaseMaxIdleConnections := 5
  databaseConnectionMaxLifetime := 1800 * second
  databaseConnectionMaxIdleTime := 300 * second
  databaseStartupTimeout := 5 * second
  httpAddr := ascii ":8080"
  httpReadHeaderTimeout := 5 * second
  httpReadTimeout := 15 * second
  httpWriteTimeout := 15 * second
  httpIdleTimeout := 60 * second
  httpMaxRequestBodyBytes := 64 * 1024
  rateLimitReadRequestsPerSecond := 30
  rateLimitReadBurst := 60
  rateLimitWriteRequestsPerSecond := 5
  rateLimitWriteBurst := 10
  paymentCommandTimeout := 10 * second
  paymentReadTimeout := 3 * second
  readinessTimeout := 2 * second
  metricsAddr := ascii ":9091"
  metricsReadHeaderTimeout := 5 * second
  metricsReadTimeout := 5 * second
  metricsWriteTimeout := 10 * second
  metricsIdleTimeout := 30 * second
  fingerprintSecret := fingerprintSecret
  idempotencyClaimStuckAfter := 300 * second
  mockBankBaseURL := mockBankBaseURL
  mockBankInitialAttemptTimeout := 2 * second
  mockBankRetryDelay := 250000000
  mockBankRetryAttemptTimeout := 5 * second
  mockBankConnectTimeout := 2 * second
  mockBankTLSHandshakeTimeout := 2 * second
  mockBankResponseHeaderTimeout := 6 * second
  mockBankIdleConnectionTimeout := 60 * second

/-- The defaults pass every check. -/
theorem validate_defaults {databaseURL fingerprintSecret : GoString} {mockBankBaseURL : BaseURL}
    (database : databaseURL ≠ []) (secret : fingerprintSecret ≠ [])
    (scheme : mockBankBaseURL.scheme ≠ []) (host : mockBankBaseURL.host ≠ []) :
    (defaults databaseURL fingerprintSecret mockBankBaseURL).validate = .ok () := by
  rw [validate, runChecks_eq_ok]
  simp only [checks, List.forall_mem_cons, List.not_mem_nil, false_implies, implies_true, and_true]
  -- Three checks are about what the environment sets; the others can be computed.
  and_intros
  all_goals first
    | rfl
    | exact rejectIf_eq_ok.mpr database
    | exact rejectIf_eq_ok.mpr secret
    | exact rejectIf_eq_ok.mpr (not_or.mpr ⟨scheme, host⟩)

/-- The defaults, with a database, a secret and a bank. -/
def sample : Config :=
  .defaults (ascii "postgres://db") (ascii "secret") ⟨ascii "http", ascii "bank"⟩

theorem validate_sample : sample.validate = .ok () :=
  validate_defaults (by decide) (by decide) (by decide) (by decide)

end Config

end PaymentGateway
