/-
# Validated configurations

`config.validate` runs once, before anything is built, and two promises rest on it.
The time budgets of a payment command are meant to nest: the retries at the bank end
before the command does, and the command ends before its claim counts as stuck and
before the server gives up on the connection. And the components built afterwards are
meant to accept their part of the configuration.

Neither holds for every accepted configuration. The check of the retry budget adds
machine integers, and a sum past the largest duration wraps around to a negative one,
which any command timeout exceeds. The database URL and the fingerprint secret are
compared with the empty string, while the components trim them first. Both theorems
below give the exact condition.
-/

import PaymentGateway.Config.Wiring

namespace PaymentGateway

open Lib

namespace Config

variable {cfg : Config}

/-! ## Budgets -/

/-- The durations of a configuration. -/
def durations (cfg : Config) : List Duration := [
  cfg.shutdownTimeout, cfg.idempotencyReplayCleanupInterval, cfg.databaseConnectionMaxLifetime,
  cfg.databaseConnectionMaxIdleTime, cfg.databaseStartupTimeout, cfg.httpReadHeaderTimeout,
  cfg.httpReadTimeout, cfg.httpWriteTimeout, cfg.httpIdleTimeout, cfg.paymentCommandTimeout,
  cfg.paymentReadTimeout, cfg.readinessTimeout, cfg.metricsReadHeaderTimeout,
  cfg.metricsReadTimeout, cfg.metricsWriteTimeout, cfg.metricsIdleTimeout,
  cfg.idempotencyClaimStuckAfter, cfg.mockBankInitialAttemptTimeout, cfg.mockBankRetryDelay,
  cfg.mockBankRetryAttemptTimeout, cfg.mockBankConnectTimeout, cfg.mockBankTLSHandshakeTimeout,
  cfg.mockBankResponseHeaderTimeout, cfg.mockBankIdleConnectionTimeout]

/-- Every duration is a 64-bit integer of nanoseconds, as `time.ParseDuration` yields. -/
def Representable (cfg : Config) : Prop :=
  ∀ duration ∈ cfg.durations, -2 ^ 63 ≤ duration ∧ duration < 2 ^ 63

instance (cfg : Config) : Decidable cfg.Representable :=
  inferInstanceAs (Decidable (∀ _ ∈ _, _))

/-- The time that both attempts at the bank, the delay between them and the completion reserve
take together, as an exact sum. -/
def mockBankBudget (cfg : Config) : ℤ :=
  cfg.mockBankInitialAttemptTimeout + cfg.mockBankRetryDelay + cfg.mockBankRetryAttemptTimeout +
    paymentCommandCompletionReserve

/-- The budgets of a payment command lie inside one another. -/
structure BudgetsNest (cfg : Config) : Prop where
  mockBank : cfg.mockBankBudget < cfg.paymentCommandTimeout
  stuckAfter : cfg.paymentCommandTimeout < cfg.idempotencyClaimStuckAfter
  httpRead : cfg.paymentCommandTimeout < cfg.httpReadTimeout
  httpWrite : cfg.paymentCommandTimeout < cfg.httpWriteTimeout

theorem wrapDuration_of_lt {value : ℤ} (nonneg : 0 ≤ value) (lt : value < 2 ^ 63) :
    wrapDuration value = value :=
  Int.bmod_eq_of_le (by omega) (by omega)

theorem Accepted.mockBankBudget_nonneg (accepted : cfg.Accepted) : 0 ≤ cfg.mockBankBudget := by
  have hreserve : (0 : ℤ) ≤ paymentCommandCompletionReserve := by decide
  exact add_nonneg (add_nonneg (add_nonneg accepted.initialAttemptTimeout.le
    accepted.retryDelay.le) accepted.retryAttemptTimeout.le) hreserve

/-- The budgets of an accepted configuration nest exactly where the retry budget is itself a
duration. The other three comparisons take no sum, and always hold. -/
theorem budgetsNest_iff (accepted : cfg.validate = .ok ()) (representable : cfg.Representable) :
    (cfg.BudgetsNest ↔ cfg.mockBankBudget < 2 ^ 63) ∧
      cfg.paymentCommandTimeout < cfg.idempotencyClaimStuckAfter ∧
      cfg.paymentCommandTimeout < cfg.httpReadTimeout ∧
      cfg.paymentCommandTimeout < cfg.httpWriteTimeout := by
  have haccepted := accepted_of_validate accepted
  have hcommand : cfg.paymentCommandTimeout < 2 ^ 63 :=
    (representable _ (by simp only [durations, List.mem_cons, true_or, or_true])).2
  refine ⟨⟨fun nest => nest.mockBank.trans hcommand, fun hfits => ?_⟩,
    haccepted.command_lt_stuckAfter, haccepted.command_lt_httpRead,
    haccepted.command_lt_httpWrite⟩
  refine ⟨?_, haccepted.command_lt_stuckAfter, haccepted.command_lt_httpRead,
    haccepted.command_lt_httpWrite⟩
  calc cfg.mockBankBudget
      = wrapDuration cfg.mockBankBudget :=
        (wrapDuration_of_lt haccepted.mockBankBudget_nonneg hfits).symm
    _ < cfg.paymentCommandTimeout := haccepted.budget_lt_command

theorem sample_budgetsNest : sample.BudgetsNest :=
  (budgetsNest_iff validate_sample (by decide)).1.mpr (by decide)

/-- The defaults, with an initial attempt that may take as long as a duration can say. -/
def endlessAttempt : Config := { sample with mockBankInitialAttemptTimeout := 2 ^ 63 - 1 }

/-- The retry budget of that configuration wraps around, and it is accepted: the bank may be
waited for longer than the command may take. -/
theorem endlessAttempt_accepted :
    endlessAttempt.validate = .ok () ∧ endlessAttempt.Representable ∧
      endlessAttempt.paymentCommandTimeout < endlessAttempt.mockBankBudget ∧
      ¬ endlessAttempt.BudgetsNest := by
  have hexceeds : endlessAttempt.paymentCommandTimeout < endlessAttempt.mockBankBudget := by decide
  exact ⟨by decide +kernel, by decide, hexceeds, fun nest => nest.mockBank.asymm hexceeds⟩

/-! ## Components -/

section Components

variable (hmac : GoString → GoString → GoString) (newPaymentID newBankOperationKey : ℕ → GoString)

/-- Every component accepts its part of the configuration. -/
structure Wires (cfg : Config) : Prop where
  service : ∃ service, newPaymentService hmac newPaymentID newBankOperationKey
    cfg.fingerprintSecret cfg.idempotencyClaimStuckAfter = .ok service
  postgres : cfg.postgresConfig.validate = .ok ()
  mockBank : cfg.mockBankConfig.validate = .ok ()
  handler : cfg.handlerConfig.validate = .ok ()
  rateLimit : cfg.rateLimitConfig.validate = .ok ()

theorem Accepted.postgres_iff (accepted : cfg.Accepted) :
    cfg.postgresConfig.validate = .ok () ↔ trimSpace cfg.databaseURL ≠ [] := by
  rw [PostgresConfig.validate, runChecks_eq_ok]
  simp only [List.forall_mem_cons, positiveSetting, rejectIf_eq_ok, not_le, not_lt]
  exact ⟨fun checks => checks.1, fun present => ⟨present, accepted.maxOpenConnections,
    accepted.maxIdleConnections, accepted.maxIdle_le_maxOpen, accepted.connectionMaxLifetime,
    accepted.connectionMaxIdleTime, List.forall_mem_nil _⟩⟩

theorem Accepted.mockBank (accepted : cfg.Accepted) : cfg.mockBankConfig.validate = .ok () := by
  rw [MockBankConfig.validate, runChecks_eq_ok]
  simp only [List.forall_mem_cons, positiveSetting, rejectIf_eq_ok, not_le, not_or]
  exact ⟨⟨accepted.scheme, accepted.host⟩, accepted.initialAttemptTimeout, accepted.retryDelay,
    accepted.retryAttemptTimeout, accepted.connectTimeout, accepted.tlsHandshakeTimeout,
    accepted.responseHeaderTimeout, accepted.idleConnectionTimeout, List.forall_mem_nil _⟩

theorem Accepted.handler (accepted : cfg.Accepted) : cfg.handlerConfig.validate = .ok () := by
  rw [HandlerConfig.validate, runChecks_eq_ok]
  simp only [List.forall_mem_cons, positiveSetting, rejectIf_eq_ok, not_le]
  exact ⟨accepted.paymentCommandTimeout, accepted.paymentReadTimeout, accepted.readinessTimeout,
    accepted.maxRequestBodyBytes, List.forall_mem_nil _⟩

theorem Accepted.rateLimit (accepted : cfg.Accepted) : cfg.rateLimitConfig.validate = .ok () := by
  rw [RateLimitConfig.validate, rejectIf_eq_ok]
  simp only [not_or, not_le]
  exact ⟨accepted.readRequestsPerSecond, accepted.readBurst, accepted.writeRequestsPerSecond,
    accepted.writeBurst⟩

/-- The components accept an accepted configuration exactly where the database URL and the
fingerprint secret are not blank. The client of the bank, the handler and the rate limiter accept
every one. -/
theorem wires_iff (accepted : cfg.validate = .ok ()) :
    (cfg.Wires hmac newPaymentID newBankOperationKey ↔
      trimSpace cfg.databaseURL ≠ [] ∧ trimSpace cfg.fingerprintSecret ≠ []) ∧
      cfg.mockBankConfig.validate = .ok () ∧ cfg.handlerConfig.validate = .ok () ∧
      cfg.rateLimitConfig.validate = .ok () := by
  have haccepted := accepted_of_validate accepted
  refine ⟨⟨fun wires => ?_, fun present => ?_⟩, haccepted.mockBank, haccepted.handler,
    haccepted.rateLimit⟩
  · exact ⟨haccepted.postgres_iff.mp wires.postgres,
      (exists_newPaymentService_iff.mp wires.service).1⟩
  · exact {
      service := exists_newPaymentService_iff.mpr ⟨present.2, haccepted.claimStuckAfter⟩
      postgres := haccepted.postgres_iff.mpr present.1
      mockBank := haccepted.mockBank
      handler := haccepted.handler
      rateLimit := haccepted.rateLimit }

end Components

theorem sample_wires :
    sample.Wires (fun _ message => message) (fun _ => []) (fun _ => []) :=
  (wires_iff _ _ _ validate_sample).1.mpr (by decide)

/-- The sample configuration, with a secret of one space. -/
def blankSecret : Config := { sample with fingerprintSecret := ascii " " }

/-- The sample configuration, with a database URL of one space. -/
def blankURL : Config := { sample with databaseURL := ascii " " }

/-- Both are accepted. The service panics on the one and the database refuses the other. -/
theorem blank_accepted :
    (blankSecret.validate = .ok () ∧
      ∀ (hmac : GoString → GoString → GoString) (newPaymentID newBankOperationKey : ℕ → GoString),
        newPaymentService hmac newPaymentID newBankOperationKey blankSecret.fingerprintSecret
          blankSecret.idempotencyClaimStuckAfter =
            .error (ascii "fingerprint secret is required")) ∧
    (blankURL.validate = .ok () ∧
      blankURL.postgresConfig.validate = .error (.text (ascii "postgres URL is required"))) := by
  refine ⟨⟨?_, fun _ _ _ => rfl⟩, ?_, rfl⟩
  · exact validate_defaults (by decide) (by decide) (by decide) (by decide)
  · exact validate_defaults (by decide) (by decide) (by decide) (by decide)

end Config

end PaymentGateway
