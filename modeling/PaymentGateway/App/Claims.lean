/-
# Claims, results and bank requests

The values that the service, the store and the bank client exchange: claim
requests, the claims a store grants, the results of a command, and the requests
and results of the bank. A request names the status its payment must have; every
constructor of the source sets one, so the empty status never occurs here.
-/

import PaymentGateway.App.Commands

namespace PaymentGateway

/-! ## Results -/

/-- `PaymentResult`. -/
structure PaymentResult where
  id : GoString
  orderID : GoString
  customerID : GoString
  amountCents : ℤ
  currency : GoString
  status : GoString
  declineReason : GoString
  authorizationExpiresAt : Time
  createdAt : Time
  updatedAt : Time
  deriving DecidableEq, Repr

/-- `newPaymentResult`. -/
def newPaymentResult (payment : Payment) : PaymentResult where
  id := payment.id
  orderID := payment.orderID
  customerID := payment.customerID
  amountCents := payment.amountCents
  currency := payment.currency
  status := payment.status.text
  declineReason := payment.declineReason
  authorizationExpiresAt := payment.authorizationExpiresAt
  createdAt := payment.createdAt
  updatedAt := payment.updatedAt

/-- `PaymentCommandResult`. A command that succeeded has no failure kind. -/
structure PaymentCommandResult where
  payment : PaymentResult
  failureKind : Option PaymentErrorKind := none
  deriving DecidableEq, Repr

/-- What a service method returns. -/
abbrev Outcome := Except GoError PaymentCommandResult

/-! ## Claim requests -/

/-- What the store needs of every claim request, `PaymentCommandClaimRequest`. -/
structure PaymentCommandClaimRequest where
  operation : Operation
  key : GoString
  requestFingerprint : GoString
  expectedStatus : PaymentStatus
  now : Time
  claimStuckAfter : Duration
  deriving DecidableEq, Repr

/-- The idempotency record a request is about. -/
def PaymentCommandClaimRequest.recordKey (request : PaymentCommandClaimRequest) :
    Operation × GoString :=
  (request.operation, request.key)

/-- `AuthorizationStartClaimRequest`. -/
structure AuthorizationStartClaimRequest extends PaymentCommandClaimRequest where
  payment : Payment
  deriving DecidableEq, Repr

/-- `ExistingPaymentCommandClaimRequest`. The key and the card fingerprint are empty
where the operation has none. -/
structure ExistingPaymentCommandClaimRequest extends PaymentCommandClaimRequest where
  paymentID : GoString
  bankOperationKey : GoString
  authorizationCardFingerprint : GoString
  deriving DecidableEq, Repr

/-- `NewAuthorizationStartClaimRequest`. -/
def newAuthorizationStartClaimRequest (key requestFingerprint : GoString) (payment : Payment)
    (now : Time) (claimStuckAfter : Duration) : AuthorizationStartClaimRequest :=
  ⟨⟨.authorizePayment, key, requestFingerprint, .pending, now, claimStuckAfter⟩, payment⟩

/-- `NewAuthorizationRetryClaimRequest`. -/
def newAuthorizationRetryClaimRequest (key requestFingerprint paymentID
    authorizationCardFingerprint : GoString) (now : Time) (claimStuckAfter : Duration) :
    ExistingPaymentCommandClaimRequest :=
  ⟨⟨.retryAuthorization, key, requestFingerprint, .pending, now, claimStuckAfter⟩, paymentID, [],
    authorizationCardFingerprint⟩

/-- A claim request of one of the operations that bring their own bank operation key. -/
def newSettlementClaimRequest (operation : Operation) (expectedStatus : PaymentStatus)
    (key requestFingerprint paymentID bankOperationKey : GoString) (now : Time)
    (claimStuckAfter : Duration) : ExistingPaymentCommandClaimRequest :=
  ⟨⟨operation, key, requestFingerprint, expectedStatus, now, claimStuckAfter⟩, paymentID,
    bankOperationKey, []⟩

/-- `NewCaptureClaimRequest`. -/
def newCaptureClaimRequest : GoString → GoString → GoString → GoString → Time → Duration →
    ExistingPaymentCommandClaimRequest :=
  newSettlementClaimRequest .capturePayment .authorized

/-- `NewVoidClaimRequest`. -/
def newVoidClaimRequest : GoString → GoString → GoString → GoString → Time → Duration →
    ExistingPaymentCommandClaimRequest :=
  newSettlementClaimRequest .voidPayment .authorized

/-- `NewRefundClaimRequest`. -/
def newRefundClaimRequest : GoString → GoString → GoString → GoString → Time → Duration →
    ExistingPaymentCommandClaimRequest :=
  newSettlementClaimRequest .refundPayment .captured

/-! ## Claims -/

/-- `PaymentCommandClaim` of an attempt that may go on to the bank. -/
structure PaymentCommandClaim where
  operation : Operation
  key : GoString
  requestFingerprint : GoString
  expectedStatus : PaymentStatus
  payment : Payment
  recovered : Bool
  deriving DecidableEq, Repr

/-- The idempotency record a claim is held on. -/
def PaymentCommandClaim.recordKey (claim : PaymentCommandClaim) : Operation × GoString :=
  (claim.operation, claim.key)

/-- `NewClaimedPaymentCommand`. -/
def newClaimedPaymentCommand (request : PaymentCommandClaimRequest) (payment : Payment) :
    PaymentCommandClaim :=
  ⟨request.operation, request.key, request.requestFingerprint, request.expectedStatus, payment,
    false⟩

/-- `NewRecoveredPaymentCommand`. -/
def newRecoveredPaymentCommand (request : PaymentCommandClaimRequest) (payment : Payment) :
    PaymentCommandClaim :=
  { newClaimedPaymentCommand request payment with recovered := true }

/-- The claim a store method returns: one to work on, or a stored result to replay,
which `NewReplayedPaymentCommand` builds without a payment. -/
inductive ClaimAnswer
  | granted (claim : PaymentCommandClaim)
  | replayed (result : PaymentCommandResult)
  deriving DecidableEq, Repr

/-! ## The bank client's requests and results -/

/-- `BankAuthorizationRequest`. -/
structure BankAuthorizationRequest where
  operationKey : GoString
  orderID : GoString
  customerID : GoString
  amountCents : ℤ
  currency : GoString
  cardNumber : GoString
  cardCVV : GoString
  cardExpiryMonth : ℤ
  cardExpiryYear : ℤ
  deriving DecidableEq, Repr

/-- `BankCaptureRequest`. -/
structure BankCaptureRequest where
  operationKey : GoString
  bankAuthorizationID : GoString
  amountCents : ℤ
  currency : GoString
  deriving DecidableEq, Repr

/-- `BankVoidRequest`. -/
structure BankVoidRequest where
  operationKey : GoString
  bankAuthorizationID : GoString
  deriving DecidableEq, Repr

/-- `BankRefundRequest`. -/
structure BankRefundRequest where
  operationKey : GoString
  bankCaptureID : GoString
  amountCents : ℤ
  currency : GoString
  deriving DecidableEq, Repr

/-- A request to one of the bank's four endpoints. -/
inductive BankRequest
  | authorization (request : BankAuthorizationRequest)
  | capture (request : BankCaptureRequest)
  | void (request : BankVoidRequest)
  | refund (request : BankRefundRequest)
  deriving DecidableEq, Repr

/-- The operation key a bank request carries. -/
def BankRequest.operationKey : BankRequest → GoString
  | authorization request => request.operationKey
  | capture request => request.operationKey
  | void request => request.operationKey
  | refund request => request.operationKey

/-- The four endpoints of the bank. -/
inductive Endpoint
  | authorization
  | capture
  | void
  | refund
  deriving DecidableEq, Repr

/-- The endpoint that an operation calls. -/
def Operation.endpoint : Operation → Endpoint
  | .authorizePayment | .retryAuthorization => .authorization
  | .capturePayment => .capture
  | .voidPayment => .void
  | .refundPayment => .refund

/-- The endpoint that a request is for. -/
def BankRequest.endpoint : BankRequest → Endpoint
  | authorization _ => .authorization
  | capture _ => .capture
  | void _ => .void
  | refund _ => .refund

/-- `BankAuthorizationResult`. -/
structure BankAuthorizationResult where
  bankAuthorizationID : GoString
  authorizationExpiresAt : Time
  declineReason : GoString
  deriving DecidableEq, Repr

/-- What a call of the bank client returns: an error, or the result of the endpoint
that was called. -/
inductive BankAnswer
  | failed (err : GoError)
  | authorization (result : BankAuthorizationResult)
  | capture (bankCaptureID : GoString)
  | void (bankVoidID : GoString)
  | refund (bankRefundID : GoString)
  deriving DecidableEq, Repr

end PaymentGateway
