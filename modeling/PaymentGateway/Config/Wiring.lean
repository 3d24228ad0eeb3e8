/-
# The components

What `run` builds from the configuration. The database, the client of the bank, the
HTTP handler and its rate limiter check their own part of the configuration when they
are constructed, and the payment service panics on a blank secret or a stuck-after
duration that is not positive.
-/

import PaymentGateway.Config.Validate
import PaymentGateway.Http.RateLimiter
import PaymentGateway.Service.Methods

namespace PaymentGateway

open Lib

/-- A setting of a component that must be positive. -/
def positiveSetting (name : GoString) (value : ℤ) : Except GoError Unit :=
  rejectIf (value ≤ 0) (.text (name ++ ascii " must be positive"))

/-- `Config` of the postgres package. -/
structure PostgresConfig where
  url : GoString
  maxOpenConnections : ℤ
  maxIdleConnections : ℤ
  connectionMaxLifetime : Duration
  connectionMaxIdleTime : Duration
  deriving DecidableEq, Repr

/-- `Config.validate` of the postgres package. -/
def PostgresConfig.validate (config : PostgresConfig) : Except GoError Unit :=
  runChecks [
    rejectIf (trimSpace config.url = []) (.text (ascii "postgres URL is required")),
    positiveSetting (ascii "postgres max open connections") config.maxOpenConnections,
    rejectIf (config.maxIdleConnections < 0)
      (.text (ascii "postgres max idle connections must be non-negative")),
    rejectIf (config.maxOpenConnections < config.maxIdleConnections)
      (.text (ascii "postgres max idle connections must not exceed max open connections")),
    positiveSetting (ascii "postgres connection max lifetime") config.connectionMaxLifetime,
    positiveSetting (ascii "postgres connection max idle time") config.connectionMaxIdleTime]

/-- `Config` of the mockbank package. -/
structure MockBankConfig where
  baseURL : BaseURL
  initialAttemptTimeout : Duration
  retryDelay : Duration
  retryAttemptTimeout : Duration
  connectTimeout : Duration
  tlsHandshakeTimeout : Duration
  responseHeaderTimeout : Duration
  idleConnectionTimeout : Duration
  deriving DecidableEq, Repr

/-- `Config.validate` of the mockbank package. -/
def MockBankConfig.validate (config : MockBankConfig) : Except GoError Unit :=
  runChecks [
    rejectIf (config.baseURL.scheme = [] ∨ config.baseURL.host = [])
      (.text (ascii "mock bank base URL must be absolute")),
    positiveSetting (ascii "mock bank initial attempt timeout") config.initialAttemptTimeout,
    positiveSetting (ascii "mock bank retry delay") config.retryDelay,
    positiveSetting (ascii "mock bank retry attempt timeout") config.retryAttemptTimeout,
    positiveSetting (ascii "mock bank connect timeout") config.connectTimeout,
    positiveSetting (ascii "mock bank TLS handshake timeout") config.tlsHandshakeTimeout,
    positiveSetting (ascii "mock bank response header timeout") config.responseHeaderTimeout,
    positiveSetting (ascii "mock bank idle connection timeout") config.idleConnectionTimeout]

/-- `HandlerConfig`. -/
structure HandlerConfig where
  paymentCommandTimeout : Duration
  paymentReadTimeout : Duration
  readinessTimeout : Duration
  maxRequestBodyBytes : ℤ
  rateLimit : RateLimitConfig
  deriving DecidableEq, Repr

/-- `HandlerConfig.validate`. The rate limits are left to `NewRateLimiter`. -/
def HandlerConfig.validate (config : HandlerConfig) : Except GoError Unit :=
  runChecks [
    positiveSetting (ascii "httpapi handler payment command timeout") config.paymentCommandTimeout,
    positiveSetting (ascii "httpapi handler payment read timeout") config.paymentReadTimeout,
    positiveSetting (ascii "httpapi handler readiness timeout") config.readinessTimeout,
    positiveSetting (ascii "httpapi handler max request body bytes") config.maxRequestBodyBytes]

/-! ## The payment service -/

theorem stuckAfter_pos {claimStuckAfter : Duration} (h : ¬ claimStuckAfter ≤ 0) :
    0 < claimStuckAfter := not_le.mp h

/-- `NewPaymentService`, with its collaborators given; an error is the text of the panic. The
secret keys the HMAC of the fingerprints. -/
def newPaymentService (hmac : GoString → GoString → GoString)
    (newPaymentID newBankOperationKey : ℕ → GoString) (fingerprintSecret : GoString)
    (claimStuckAfter : Duration) : Except GoString PaymentService := do
  rejectIf (trimSpace fingerprintSecret = []) (ascii "fingerprint secret is required")
  if h : claimStuckAfter ≤ 0 then
    throw (ascii "idempotency claim stuck-after must be positive")
  else
    pure {
      mac := hmac (trimSpace fingerprintSecret)
      newPaymentID := newPaymentID
      newBankOperationKey := newBankOperationKey
      claimStuckAfter := claimStuckAfter
      claimStuckAfter_pos := stuckAfter_pos h }

/-- The service is constructed exactly from a secret that is not blank and a positive
duration. -/
theorem exists_newPaymentService_iff {hmac : GoString → GoString → GoString}
    {newPaymentID newBankOperationKey : ℕ → GoString} {fingerprintSecret : GoString}
    {claimStuckAfter : Duration} :
    (∃ service, newPaymentService hmac newPaymentID newBankOperationKey fingerprintSecret
        claimStuckAfter = .ok service) ↔
      trimSpace fingerprintSecret ≠ [] ∧ 0 < claimStuckAfter := by
  unfold newPaymentService
  simp only [check_bind_eq_ok, rejectIf_eq_ok, exists_and_left, and_congr_right_iff]
  intro _
  split_ifs with hstuck
  · simp [hstuck]
  · simpa using stuckAfter_pos hstuck

namespace Config

/-! ## The parts of the configuration -/

/-- `postgresConfig`. -/
def postgresConfig (cfg : Config) : PostgresConfig where
  url := cfg.databaseURL
  maxOpenConnections := cfg.databaseMaxOpenConnections
  maxIdleConnections := cfg.databaseMaxIdleConnections
  connectionMaxLifetime := cfg.databaseConnectionMaxLifetime
  connectionMaxIdleTime := cfg.databaseConnectionMaxIdleTime

/-- `mockBankConfig`. -/
def mockBankConfig (cfg : Config) : MockBankConfig where
  baseURL := cfg.mockBankBaseURL
  initialAttemptTimeout := cfg.mockBankInitialAttemptTimeout
  retryDelay := cfg.mockBankRetryDelay
  retryAttemptTimeout := cfg.mockBankRetryAttemptTimeout
  connectTimeout := cfg.mockBankConnectTimeout
  tlsHandshakeTimeout := cfg.mockBankTLSHandshakeTimeout
  responseHeaderTimeout := cfg.mockBankResponseHeaderTimeout
  idleConnectionTimeout := cfg.mockBankIdleConnectionTimeout

/-- `rateLimitConfig`. -/
def rateLimitConfig (cfg : Config) : RateLimitConfig where
  readRequestsPerSecond := cfg.rateLimitReadRequestsPerSecond
  readBurst := cfg.rateLimitReadBurst
  writeRequestsPerSecond := cfg.rateLimitWriteRequestsPerSecond
  writeBurst := cfg.rateLimitWriteBurst

/-- `handlerConfig`. -/
def handlerConfig (cfg : Config) : HandlerConfig where
  paymentCommandTimeout := cfg.paymentCommandTimeout
  paymentReadTimeout := cfg.paymentReadTimeout
  readinessTimeout := cfg.readinessTimeout
  maxRequestBodyBytes := cfg.httpMaxRequestBodyBytes
  rateLimit := cfg.rateLimitConfig

end Config

end PaymentGateway
