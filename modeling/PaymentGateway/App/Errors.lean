/-
# Errors of the application layer

Go's error values as the gateway builds them: payment errors with a kind, a
message and a cause, the wrapper that marks a failed recovery of a stuck claim,
and the errors of the packages below, which only ever appear as causes. The kind
of an error is the kind of the first payment error along its chain of causes.
-/

import PaymentGateway.Domain.Payment

namespace PaymentGateway

/-- `PaymentErrorKind`. -/
inductive PaymentErrorKind
  | invalidInput
  | notFound
  | idempotencyConflict
  | idempotencyInProgress
  | paymentStatusConflict
  | authorizationExpired
  | bankStateConflict
  | bankUnavailable
  | bankTimeout
  | internal
  deriving DecidableEq, Repr

/-- The text of a kind. -/
def PaymentErrorKind.text : PaymentErrorKind → GoString
  | invalidInput => ascii "invalid_input"
  | notFound => ascii "not_found"
  | idempotencyConflict => ascii "idempotency_conflict"
  | idempotencyInProgress => ascii "idempotency_in_progress"
  | paymentStatusConflict => ascii "payment_status_conflict"
  | authorizationExpired => ascii "authorization_expired"
  | bankStateConflict => ascii "bank_state_conflict"
  | bankUnavailable => ascii "bank_unavailable"
  | bankTimeout => ascii "bank_timeout"
  | internal => ascii "internal"

/-- The results `RecordIdempotencyRecovery` is called with. -/
inductive IdempotencyRecovery
  | attempted
  | recovered
  | unrecoverable
  | conflict
  deriving DecidableEq, Repr

/-- An error value. `none` is Go's nil, which stands where an error has no cause. -/
inductive GoError
  | none
  | payment (kind : PaymentErrorKind) (message : GoString) (cause : GoError)
  | recovery (result : IdempotencyRecovery) (cause : GoError)
  | domain (err : DomainError)
  | noRows
  | checkViolation
  | uniqueViolation
  | connection
  | text (message : GoString)
  deriving DecidableEq, Repr

/-! ## Constructors -/

/-- `NewInvalidPaymentInputError`. -/
def newInvalidPaymentInputError (reason : GoString) (cause : GoError) : GoError :=
  .payment .invalidInput reason cause

/-- `NewPaymentNotFoundError`. -/
def newPaymentNotFoundError (id : GoString) (cause : GoError) : GoError :=
  .payment .notFound (ascii "payment " ++ id ++ ascii " was not found") cause

/-- `NewPaymentIdempotencyConflictError`. -/
def newPaymentIdempotencyConflictError (cause : GoError) : GoError :=
  .payment .idempotencyConflict (ascii "idempotency key was already used with a different request")
    cause

/-- `NewPaymentIdempotencyInProgressError`. -/
def newPaymentIdempotencyInProgressError (cause : GoError) : GoError :=
  .payment .idempotencyInProgress (ascii "idempotency key is already in progress") cause

/-- `NewPaymentStatusConflictError`. -/
def newPaymentStatusConflictError (cause : GoError) : GoError :=
  .payment .paymentStatusConflict (ascii "payment status does not allow this operation") cause

/-- `NewPaymentAuthorizationExpiredError`. -/
def newPaymentAuthorizationExpiredError (cause : GoError) : GoError :=
  .payment .authorizationExpired (ascii "authorization expired") cause

/-- `NewPaymentBankStateConflictError`. -/
def newPaymentBankStateConflictError (cause : GoError) : GoError :=
  .payment .bankStateConflict (ascii "bank state conflicts with local payment state") cause

/-- `NewPaymentBankUnavailableError`. -/
def newPaymentBankUnavailableError (cause : GoError) : GoError :=
  .payment .bankUnavailable (ascii "bank is unavailable") cause

/-- `NewPaymentBankTimeoutError`. -/
def newPaymentBankTimeoutError (cause : GoError) : GoError :=
  .payment .bankTimeout (ascii "bank request timed out") cause

/-- `NewInternalPaymentError`. -/
def newInternalPaymentError (cause : GoError) : GoError :=
  .payment .internal (ascii "internal server error") cause

/-- `NewIdempotencyRecoveryError`. -/
def newIdempotencyRecoveryError (result : IdempotencyRecovery) (cause : GoError) : GoError :=
  .recovery result cause

/-- `NewPaymentErrorOfKind`. -/
def newPaymentErrorOfKind (kind : PaymentErrorKind) (cause : GoError) : GoError :=
  match kind with
  | .idempotencyConflict => newPaymentIdempotencyConflictError cause
  | .idempotencyInProgress => newPaymentIdempotencyInProgressError cause
  | .paymentStatusConflict => newPaymentStatusConflictError cause
  | .authorizationExpired => newPaymentAuthorizationExpiredError cause
  | .bankStateConflict => newPaymentBankStateConflictError cause
  | .bankUnavailable => newPaymentBankUnavailableError cause
  | .bankTimeout => newPaymentBankTimeoutError cause
  | .internal => newInternalPaymentError cause
  | kind =>
    newInternalPaymentError
      (.text (ascii "payment error kind " ++ kind.text ++ ascii " cannot be rebuilt from its kind"))

/-! ## Reading errors -/

/-- `PaymentErrorKindOf`. -/
def paymentErrorKindOf : GoError → Option PaymentErrorKind
  | .payment kind _ _ => some kind
  | .recovery _ cause => paymentErrorKindOf cause
  | _ => Option.none

/-- `HasPaymentErrorKind`. -/
def hasPaymentErrorKind (err : GoError) (kind : PaymentErrorKind) : Bool :=
  paymentErrorKindOf err = some kind

/-- The recovery result that `errors.AsType[*IdempotencyRecoveryError]` finds along
the chain of causes. -/
def recoveryResultOf : GoError → Option IdempotencyRecovery
  | .recovery result _ => some result
  | .payment _ _ cause => recoveryResultOf cause
  | _ => Option.none

theorem recoveryResultOf_newInternalPaymentError (cause : GoError) :
    recoveryResultOf (newInternalPaymentError cause) = recoveryResultOf cause := rfl

/-- `IsTerminalFailureKind`. -/
def isTerminalFailureKind : PaymentErrorKind → Bool
  | .authorizationExpired => true
  | _ => false

/-- `ensurePaymentError`. -/
def ensurePaymentError (err : GoError) : GoError :=
  match err with
  | .none => .none
  | err =>
    match paymentErrorKindOf err with
    | some _ => err
    | Option.none => newInternalPaymentError err

/-- A terminal kind is rebuilt as its own constructor builds it, so the caller sees
the kind it stored. -/
theorem paymentErrorKindOf_newPaymentErrorOfKind {kind : PaymentErrorKind}
    (terminal : isTerminalFailureKind kind = true) (cause : GoError) :
    paymentErrorKindOf (newPaymentErrorOfKind kind cause) = some kind := by
  cases kind <;> first | rfl | cases terminal

/-- Whatever a service method returns as an error has a kind. -/
theorem paymentErrorKindOf_ensurePaymentError {err : GoError} (h : err ≠ .none) :
    paymentErrorKindOf (ensurePaymentError err) ≠ Option.none := by
  unfold ensurePaymentError
  split
  · exact absurd rfl h
  · split
    · rename_i hkind
      rw [hkind]
      exact Option.some_ne_none _
    · exact Option.some_ne_none _

end PaymentGateway
