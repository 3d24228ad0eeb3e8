/-
# The bank client

`mockbank/client.go`. A call makes one attempt and, if that one was ambiguous, a second
one after a delay. An attempt builds a request, hands it to the HTTP client and
classifies the response that comes back, or the error.

The functions of `net/url` that the client uses are parameters.
-/

import PaymentGateway.App.Fingerprint
import PaymentGateway.Bank.Decoding
import PaymentGateway.Bank.HttpClient

namespace PaymentGateway

open Lib

/-- The URL of an endpoint path, which the configured base URL determines, and the URLs of
redirects. -/
structure BankClient where
  endpointURL : GoString → Except GoError GoString
  resolve : ResolveURL

namespace BankClient

/-- `newHTTPRequest`. -/
def newHTTPRequest (client : BankClient) (endpointPath : GoString) (body : RequestBody)
    (operationKey : GoString) : Except GoError HttpRequest := do
  let url ← client.endpointURL endpointPath
  pure ⟨ascii "POST", url, some (ascii "application/json"), some operationKey, some body⟩

/-- The request that is sent for a bank request. -/
def httpRequest (client : BankClient) : BankRequest → Except GoError HttpRequest
  | .authorization request => client.newHTTPRequest (ascii "/api/v1/authorizations")
      (.authorization request.cardNumber request.cardCVV request.cardExpiryMonth
        request.cardExpiryYear request.amountCents) request.operationKey
  | .capture request => client.newHTTPRequest (ascii "/api/v1/captures")
      (.capture request.bankAuthorizationID request.amountCents) request.operationKey
  | .void request => client.newHTTPRequest (ascii "/api/v1/voids")
      (.void request.bankAuthorizationID) request.operationKey
  | .refund request => client.newHTTPRequest (ascii "/api/v1/refunds")
      (.refund request.bankCaptureID request.amountCents) request.operationKey

/-- `decodeBadRequestCode`. -/
def decodeBadRequestCode (response : HttpResponse) : Except GoError GoString := do
  let code ← decodeError response.body
  pure (toLower (trimSpace code))

/-! ## Responses -/

/-- The error at the end of each attempt, for a response that no case has dealt with. -/
def unexpectedStatus (name : GoString) (response : HttpResponse) : GoError :=
  newPaymentBankUnavailableError (.text (ascii "mock bank " ++ name ++ ascii " failed: status " ++
    formatNat response.statusCode))

/-- The codes that speak of the card. -/
def cardCodes : List GoString :=
  [ascii "invalid_card", ascii "invalid_card_number", ascii "invalid_cvv"]

/-- The codes that a capture, a void or a refund takes for a conflict with the state of the
bank. -/
def stateConflictCodes : List GoString :=
  [ascii "authorization_not_found", ascii "capture_not_found", ascii "amount_mismatch",
    ascii "authorization_already_used", ascii "already_captured", ascii "already_voided",
    ascii "already_refunded"]

/-- The switch of `authorizePaymentAttempt` over the code of a bad request. -/
def authorizationRejection (code : GoString) : Option (Except GoError BankAuthorizationResult) :=
  if code = ascii "card_expired" then some (.ok ⟨[], 0, declineReasonExpiredCard⟩)
  else if code ∈ cardCodes then
    some (.error (newInvalidPaymentInputError (ascii "card details are invalid") .none))
  else if code = ascii "invalid_amount" then
    some (.error (newInvalidPaymentInputError (ascii "amount must be greater than zero") .none))
  else if code = ascii "amount_mismatch" then
    some (.error
      (newInvalidPaymentInputError (ascii "amount does not match bank authorization") .none))
  else if code = ascii "authorization_not_found" then
    some (.error
      (newInvalidPaymentInputError (ascii "bank authorization cannot be captured") .none))
  else if code = ascii "capture_not_found" then
    some (.error (newInvalidPaymentInputError (ascii "bank capture cannot be refunded") .none))
  else none

/-- `authorizePaymentAttempt` from the response on. -/
def authorizePaymentResponse (response : HttpResponse) : Except GoError BankAuthorizationResult :=
  if response.statusCode = 200 then do
    let payload ← (decodeAuthorization response.body).mapError newPaymentBankUnavailableError
    rejectIf (trimSpace payload.authorizationID = []) (newPaymentBankUnavailableError
      (.text (ascii "mock bank authorization response missing authorization id")))
    rejectIf (payload.expiresAt = 0) (newPaymentBankUnavailableError
      (.text (ascii "mock bank authorization response missing expires_at")))
    pure ⟨payload.authorizationID, payload.expiresAt, []⟩
  else if response.statusCode = 400 then do
    let code ← (decodeBadRequestCode response).mapError newPaymentBankUnavailableError
    (authorizationRejection code).getD (.error (unexpectedStatus (ascii "authorization") response))
  else if response.statusCode = 402 then pure ⟨[], 0, declineReasonInsufficientFunds⟩
  else throw (unexpectedStatus (ascii "authorization") response)

/-- The switch over the code of a bad request that the other three attempts share. The
authorization can only expire before it is settled, so a refund has no such case. -/
def settlementRejection (expires : Bool) (code : GoString) : Option GoError :=
  if expires ∧ code = ascii "authorization_expired" then
    some (newPaymentAuthorizationExpiredError .none)
  else if code ∈ cardCodes then
    some (newInvalidPaymentInputError (ascii "card details are invalid") .none)
  else if code = ascii "invalid_amount" then
    some (newInvalidPaymentInputError (ascii "amount must be greater than zero") .none)
  else if code ∈ stateConflictCodes then some (newPaymentBankStateConflictError .none)
  else none

/-- The other three attempts from the response on. `name` is the operation as the error
texts spell it. -/
def settlementResponse (name : GoString) (expires : Bool)
    (decode : Json.Reader → Except GoError GoString) (response : HttpResponse) :
    Except GoError GoString :=
  if response.statusCode = 200 then do
    let id ← (decode response.body).mapError newPaymentBankUnavailableError
    rejectIf (trimSpace id = []) (newPaymentBankUnavailableError (.text (ascii "mock bank " ++
      name ++ ascii " response missing " ++ name ++ ascii " id")))
    pure id
  else if response.statusCode = 400 then do
    let code ← (decodeBadRequestCode response).mapError newPaymentBankUnavailableError
    throw ((settlementRejection expires code).getD (unexpectedStatus name response))
  else throw (unexpectedStatus name response)

/-- `capturePaymentAttempt` from the response on. -/
def capturePaymentResponse : HttpResponse → Except GoError GoString :=
  settlementResponse (ascii "capture") true decodeCapture

/-- `voidPaymentAttempt` from the response on. -/
def voidPaymentResponse : HttpResponse → Except GoError GoString :=
  settlementResponse (ascii "void") true decodeVoid

/-- `refundPaymentAttempt` from the response on. -/
def refundPaymentResponse : HttpResponse → Except GoError GoString :=
  settlementResponse (ascii "refund") false decodeRefund

/-! ## Attempts and calls -/

/-- What an attempt makes of a transport error. -/
def transportFailure (err : TransportError) : GoError :=
  if isTimeout err then newPaymentBankTimeoutError (.text err.message)
  else newPaymentBankUnavailableError (.text err.message)

/-- What an attempt makes of an exchange. -/
def outcome {α : Type} (respond : HttpResponse → Except GoError α) (exchange : Exchange) :
    Except GoError α :=
  match exchange with
  | .error err => .error (transportFailure err)
  | .ok response => respond response

/-- One attempt: the answer, and the requests that were sent. -/
def attempt {α : Type} (client : BankClient) (request : Except GoError HttpRequest)
    (respond : HttpResponse → Except GoError α) (trips : Trips) : Except GoError α × List Sent :=
  match request with
  | .error err => (.error (newInternalPaymentError err), [])
  | .ok request => (httpDo client.resolve request trips).map (outcome respond) id

/-- `isRetryablePaymentError`. -/
def isRetryablePaymentError (err : GoError) : Bool :=
  hasPaymentErrorKind err .bankTimeout || hasPaymentErrorKind err .bankUnavailable

/-- How the context of a call can end during the delay. -/
inductive ContextError
  | canceled
  | deadlineExceeded
  deriving DecidableEq, Repr

/-- What a call meets: the network in its first attempt, the end of the context during the delay,
if it ends, and the network in its second attempt. -/
structure Encounter where
  first : Trips
  delay : Option ContextError
  second : Trips

/-- The error of a call that was cut off in its delay. -/
def delayFailure : ContextError → GoError
  | .deadlineExceeded => newPaymentBankTimeoutError (.text (ascii "context deadline exceeded"))
  | .canceled => newPaymentBankUnavailableError (.text (ascii "context canceled"))

/-- `retryTransient`. The requests that were sent are listed for each attempt. -/
def retryTransient {α : Type} (attempt : Trips → Except GoError α × List Sent)
    (encounter : Encounter) : Except GoError α × List (List Sent) :=
  match attempt encounter.first with
  | (.ok result, sent) => (.ok result, [sent])
  | (.error err, sent) =>
    if isRetryablePaymentError err then
      match encounter.delay with
      | some ended => (.error (delayFailure ended), [sent])
      | none =>
        let (answer, resent) := attempt encounter.second
        (answer, [sent, resent])
    else (.error err, [sent])

/-- `AuthorizePayment`. -/
def authorizePayment (client : BankClient) (request : BankAuthorizationRequest)
    (encounter : Encounter) : Except GoError BankAuthorizationResult × List (List Sent) :=
  retryTransient (client.attempt (client.httpRequest (.authorization request))
    authorizePaymentResponse) encounter

/-- `CapturePayment`. -/
def capturePayment (client : BankClient) (request : BankCaptureRequest) (encounter : Encounter) :
    Except GoError GoString × List (List Sent) :=
  retryTransient (client.attempt (client.httpRequest (.capture request)) capturePaymentResponse)
    encounter

/-- `VoidPayment`. -/
def voidPayment (client : BankClient) (request : BankVoidRequest) (encounter : Encounter) :
    Except GoError GoString × List (List Sent) :=
  retryTransient (client.attempt (client.httpRequest (.void request)) voidPaymentResponse)
    encounter

/-- `RefundPayment`. -/
def refundPayment (client : BankClient) (request : BankRefundRequest) (encounter : Encounter) :
    Except GoError GoString × List (List Sent) :=
  retryTransient (client.attempt (client.httpRequest (.refund request)) refundPaymentResponse)
    encounter

/-- What the service gets to see of a call. -/
def answerOf {α : Type} (wrap : α → BankAnswer) : Except GoError α → BankAnswer
  | .ok result => wrap result
  | .error err => .failed err

/-- The method that a bank request belongs to. -/
def call (client : BankClient) (request : BankRequest) (encounter : Encounter) :
    BankAnswer × List (List Sent) :=
  match request with
  | .authorization request =>
    (client.authorizePayment request encounter).map (answerOf .authorization) id
  | .capture request => (client.capturePayment request encounter).map (answerOf .capture) id
  | .void request => (client.voidPayment request encounter).map (answerOf .void) id
  | .refund request => (client.refundPayment request encounter).map (answerOf .refund) id

end BankClient

end PaymentGateway
