/-
# The payment service

The five command methods of `PaymentService`, cut at the calls they make: what a
method computes before its claim, the request it sends to the bank, what it makes
of the bank's answer, and what it returns after the store completed the command or
replayed it. The store calls themselves are in `PaymentGateway.Store.Methods`, and
the order of the calls in `PaymentGateway.Service.System`.
-/

import PaymentGateway.App.Fingerprint
import PaymentGateway.Store.Methods

namespace PaymentGateway

open Lib

/-- What a service is built from. `mac` is the hex digest of HMAC-SHA256 under the
configured secret; the generators return the value of each draw. The constructor
refuses a stuck-after duration that is not positive. -/
structure PaymentService where
  mac : GoString → GoString
  newPaymentID : ℕ → GoString
  newBankOperationKey : ℕ → GoString
  claimStuckAfter : Duration
  claimStuckAfter_pos : 0 < claimStuckAfter

/-- How many values have been drawn from the two generators. -/
structure Draws where
  paymentIDs : ℕ
  bankOperationKeys : ℕ
  deriving DecidableEq, Repr

namespace PaymentService

/-- The request fingerprint of a command, as the five functions of the source compute
it. -/
def requestFingerprint (service : PaymentService) (command : Command) : GoString :=
  service.mac command.payload

/-- `authorizationCardFingerprint`. -/
def authorizationCardFingerprint (service : PaymentService) (card : CardDetails) : GoString :=
  service.mac (authorizationCardPayload card)

/-- What a method does before its claim: it reads the clock once, draws the values it
needs, and builds the claim request. Only an authorization can fail here, when the
new payment is refused. -/
def prepare (service : PaymentService) (command : Command) (now : Time) (drawn : Draws) :
    Except GoError ClaimRequest × Draws :=
  let fingerprint := service.requestFingerprint command
  let stuckAfter := service.claimStuckAfter
  let bankOperationKey := service.newBankOperationKey drawn.bankOperationKeys
  match command with
  | .authorizePayment c =>
    ((newPendingPayment (service.newPaymentID drawn.paymentIDs) c.orderID c.customerID
        c.amountCents bankOperationKey (service.authorizationCardFingerprint c.card) now).mapError
          (fun err => ensurePaymentError (.domain err)) |>.map fun payment =>
        .start (newAuthorizationStartClaimRequest c.idempotencyKey fingerprint payment now
          stuckAfter),
      ⟨drawn.paymentIDs + 1, drawn.bankOperationKeys + 1⟩)
  | .retryAuthorization c =>
    (.ok (.existing (newAuthorizationRetryClaimRequest c.idempotencyKey fingerprint c.paymentID
      (service.authorizationCardFingerprint c.card) now stuckAfter)), drawn)
  | .capturePayment c =>
    (.ok (.existing (newCaptureClaimRequest c.idempotencyKey fingerprint c.paymentID
      bankOperationKey now stuckAfter)),
      { drawn with bankOperationKeys := drawn.bankOperationKeys + 1 })
  | .voidPayment c =>
    (.ok (.existing (newVoidClaimRequest c.idempotencyKey fingerprint c.paymentID
      bankOperationKey now stuckAfter)),
      { drawn with bankOperationKeys := drawn.bankOperationKeys + 1 })
  | .refundPayment c =>
    (.ok (.existing (newRefundClaimRequest c.idempotencyKey fingerprint c.paymentID
      bankOperationKey now stuckAfter)),
      { drawn with bankOperationKeys := drawn.bankOperationKeys + 1 })

end PaymentService

/-! ## The bank call -/

/-- The authorization request that `AuthorizePayment` and `RetryAuthorization` send. -/
def bankAuthorizationRequest (payment : Payment) (card : CardDetails) :
    BankAuthorizationRequest where
  operationKey := payment.authorizationBankOperationKey
  orderID := payment.orderID
  customerID := payment.customerID
  amountCents := payment.amountCents
  currency := payment.currency
  cardNumber := card.number
  cardCVV := card.cvv
  cardExpiryMonth := card.expiryMonth
  cardExpiryYear := card.expiryYear

/-- The request a method sends for the payment of its claim. -/
def Command.bankRequest (payment : Payment) : Command → BankRequest
  | .authorizePayment c => .authorization (bankAuthorizationRequest payment c.card)
  | .retryAuthorization c => .authorization (bankAuthorizationRequest payment c.card)
  | .capturePayment _ => .capture ⟨payment.captureBankOperationKey, payment.bankAuthorizationID,
      payment.amountCents, payment.currency⟩
  | .voidPayment _ => .void ⟨payment.voidBankOperationKey, payment.bankAuthorizationID⟩
  | .refundPayment _ => .refund ⟨payment.refundBankOperationKey, payment.bankCaptureID,
      payment.amountCents, payment.currency⟩

/-- What a method does with the bank's answer: complete its claim with a payment and
the kind of a terminal failure, or release it and return an error. -/
inductive Verdict
  | complete (marked : Payment) (failureKind : Option PaymentErrorKind)
  | release (err : GoError)
  deriving DecidableEq, Repr

/-- Complete with a marked payment, or release if the mutator refused. -/
def settle (marked : Except DomainError Payment) (failureKind : Option PaymentErrorKind) :
    Verdict :=
  match marked with
  | .ok payment => .complete payment failureKind
  | .error err => .release (ensurePaymentError (.domain err))

/-- `applyAuthorizationOutcome`. -/
def applyAuthorizationOutcome (payment : Payment) (result : BankAuthorizationResult) (now : Time) :
    Except DomainError Payment :=
  if result.declineReason ≠ [] then payment.markDeclined result.declineReason now
  else payment.markAuthorized result.bankAuthorizationID result.authorizationExpiresAt now

/-- `isUnknownAuthorizationOutcome`. -/
def isUnknownAuthorizationOutcome (err : GoError) : Bool :=
  hasPaymentErrorKind err .bankTimeout || hasPaymentErrorKind err .bankUnavailable

/-- `AuthorizePayment` after the bank call. An unknown outcome completes the command
with the payment still pending. -/
def authorizePaymentVerdict (payment : Payment) (now : Time) : BankAnswer → Option Verdict
  | .failed err =>
    if isUnknownAuthorizationOutcome err then some (.complete payment none)
    else some (.release (ensurePaymentError err))
  | .authorization result => some (settle (applyAuthorizationOutcome payment result now) none)
  | _ => none

/-- `RetryAuthorization` after the bank call. -/
def retryAuthorizationVerdict (payment : Payment) (now : Time) : BankAnswer → Option Verdict
  | .failed err => some (.release (ensurePaymentError err))
  | .authorization result => some (settle (applyAuthorizationOutcome payment result now) none)
  | _ => none

/-- The error branch that `CapturePayment` and `VoidPayment` share. -/
def settlementFailure (payment : Payment) (now : Time) (err : GoError) : Verdict :=
  if hasPaymentErrorKind err .authorizationExpired then
    settle (payment.markExpired now) (some .authorizationExpired)
  else .release (ensurePaymentError err)

/-- `CapturePayment` after the bank call. -/
def capturePaymentVerdict (payment : Payment) (now : Time) : BankAnswer → Option Verdict
  | .failed err => some (settlementFailure payment now err)
  | .capture bankCaptureID => some (settle (payment.markCaptured bankCaptureID now) none)
  | _ => none

/-- `VoidPayment` after the bank call. -/
def voidPaymentVerdict (payment : Payment) (now : Time) : BankAnswer → Option Verdict
  | .failed err => some (settlementFailure payment now err)
  | .void bankVoidID => some (settle (payment.markVoided bankVoidID now) none)
  | _ => none

/-- `RefundPayment` after the bank call. -/
def refundPaymentVerdict (payment : Payment) (now : Time) : BankAnswer → Option Verdict
  | .failed err => some (.release (ensurePaymentError err))
  | .refund bankRefundID => some (settle (payment.markRefunded bankRefundID now) none)
  | _ => none

/-- What the method of an operation makes of an answer; `none` if the answer is not
one of the endpoint it called. -/
def Operation.verdict (payment : Payment) (now : Time) (answer : BankAnswer) :
    Operation → Option Verdict
  | .authorizePayment => authorizePaymentVerdict payment now answer
  | .retryAuthorization => retryAuthorizationVerdict payment now answer
  | .capturePayment => capturePaymentVerdict payment now answer
  | .voidPayment => voidPaymentVerdict payment now answer
  | .refundPayment => refundPaymentVerdict payment now answer

/-! ## What is returned -/

/-- What a method returns once its claim is completed: its result, or the error of the
failure kind it stored. -/
def completedOutcome (result : PaymentCommandResult) : Outcome :=
  match result.failureKind with
  | none => .ok result
  | some kind => .error (newPaymentErrorOfKind kind .none)

/-- `replayPaymentCommand`. -/
def replayPaymentCommand (result : PaymentCommandResult) : Outcome :=
  match result.failureKind with
  | none => .ok result
  | some kind => .error (newPaymentErrorOfKind kind .none)

end PaymentGateway
