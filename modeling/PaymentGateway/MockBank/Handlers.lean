/-
# The handlers of the bank

`handlers` of `mock-bank/bank`: what the four `POST` operations ask of the services, and
the responses that they make of the results. Bodies are JSON; they are modelled as the
values that are encoded. The generated code around the handlers refuses bodies that
cannot be decoded and requests without an idempotency key, which is left out.
-/

import PaymentGateway.MockBank.Services
import PaymentGateway.MockBank.Identifiers

namespace PaymentGateway.MockBank

open Lib

/-- `idempotentPaths`, under `/api/v1/`. -/
inductive Path
  | authorizations
  | captures
  | voids
  | refunds
  deriving DecidableEq, Repr

/-- The bodies of the requests. -/
inductive ApiRequest
  | createAuthorization (cardNumber cvv : GoString) (expiryMonth expiryYear amount : ℤ)
  | createCapture (authorizationID : GoString) (amount : ℤ)
  | createVoid (authorizationID : GoString)
  | createRefund (captureID : GoString) (amount : ℤ)
  deriving DecidableEq, Repr

def ApiRequest.path : ApiRequest → Path
  | createAuthorization _ _ _ _ _ => .authorizations
  | createCapture _ _ => .captures
  | createVoid _ => .voids
  | createRefund _ _ => .refunds

/-- The bodies of the responses. -/
inductive ResponseBody
  | authorization (authorizationID status : GoString) (amount : ℤ) (currency : GoString)
      (expiresAt createdAt : Time)
  | capture (captureID authorizationID status : GoString) (amount : ℤ) (currency : GoString)
      (capturedAt : Time)
  | void (voidID authorizationID status : GoString) (voidedAt : Time)
  | refund (refundID captureID status : GoString) (amount : ℤ) (currency : GoString)
      (refundedAt : Time)
  | error (code message : GoString)
  deriving DecidableEq, Repr

structure Response where
  status : ℕ
  body : ResponseBody
  deriving DecidableEq, Repr

/-- `ErrorResponse` with a status. -/
def errorResponse (status : ℕ) (code : ErrorCode) (message : GoString) : Response :=
  ⟨status, .error code.text message⟩

/-- What a handler does before it calls its service. An id that cannot be parsed is answered
at once. The expiry of the card in the request is not looked at. -/
def ApiRequest.serviceRequest : ApiRequest → Except Response ServiceRequest
  | createAuthorization cardNumber cvv _ _ amount => .ok (.authorize cardNumber cvv amount)
  | createCapture authorizationID amount =>
    match parseAuthorizationID authorizationID with
    | some id => .ok (.capture id amount)
    | none =>
      .error (errorResponse 400 .authNotFound (ascii "invalid authorization ID format"))
  | createVoid authorizationID =>
    match parseAuthorizationID authorizationID with
    | some id => .ok (.void id)
    | none =>
      .error (errorResponse 400 .authNotFound (ascii "invalid authorization ID format"))
  | createRefund captureID amount =>
    match parseCaptureID captureID with
    | some id => .ok (.refund id amount)
    | none => .error (errorResponse 400 .captureNotFound (ascii "invalid capture ID format"))

/-- The response of a handler to a granted request. The services set what is dereferenced. -/
def granted (path : Path) (txn : Transaction) : Response :=
  ⟨200, match path with
    | .authorizations => .authorization (formatAuthorizationID txn.id) (ascii "approved")
        txn.amountCents txn.currency (txn.expiresAt.getD 0) txn.createdAt
    | .captures => .capture (formatCaptureID txn.id)
        (txn.referenceID.elim [] formatAuthorizationID) (ascii "captured") txn.amountCents
        txn.currency txn.createdAt
    | .voids => .void (formatVoidID txn.id) (txn.referenceID.elim [] formatAuthorizationID)
        (ascii "voided") txn.createdAt
    | .refunds => .refund (formatRefundID txn.id) (txn.referenceID.elim [] formatCaptureID)
        (ascii "refunded") txn.amountCents txn.currency txn.createdAt⟩

/-- `handleCaptureError`, `handleVoidError` and `handleRefundError`. -/
def handleServiceError : ServiceFailure → Response
  | .other _ => errorResponse 500 .internalError (ascii "internal error")
  | .service code message => errorResponse 400 code message

/-- `handleAuthorizationError`, which has a status of its own for missing funds. -/
def handleAuthorizationError : ServiceFailure → Response
  | .service .insufficientFunds message => errorResponse 402 .insufficientFunds message
  | failure => handleServiceError failure

def refused : Path → ServiceFailure → Response
  | .authorizations => handleAuthorizationError
  | .captures | .voids | .refunds => handleServiceError

theorem refused_other (path : Path) (text : GoString) :
    refused path (.other text) = errorResponse 500 .internalError (ascii "internal error") := by
  cases path <;> rfl

theorem refused_service {path : Path} {code : ErrorCode} (message : GoString)
    (h : path ≠ .authorizations ∨ code ≠ .insufficientFunds) :
    refused path (.service code message) = errorResponse 400 code message := by
  cases path with
  | captures | voids | refunds => rfl
  | authorizations =>
    have hfunds := h.resolve_left (fun hne => hne rfl)
    cases code <;> first | rfl | exact absurd rfl hfunds

/-- The response of a handler to the result of its service. -/
def respond (path : Path) : Result → Response
  | .ok txn => granted path txn
  | .error failure => refused path failure

/-- `shouldCacheResponse`. -/
def shouldCacheResponse (response : Response) : Bool :=
  200 ≤ response.status && response.status < 300

theorem shouldCacheResponse_refused (path : Path) (failure : ServiceFailure) :
    shouldCacheResponse (refused path failure) = false := by
  rcases failure with ⟨code, message⟩ | text
  · cases path with
    | authorizations => cases code <;> rfl
    | captures | voids | refunds => rfl
  · cases path <;> rfl

end PaymentGateway.MockBank
