/-
# Command requests

What the HTTP layer does with a request for one of the five payment commands before the
application sees it: `middleware.go`, `json.go` and the command handlers of
`handlers.go`. A request is authenticated, its scope is checked, it takes a token from
the rate limiter, its body is limited, and the handler of its route reads the body and
builds the command.

An answer is an error here, and a command is what the application is called with. The
library functions that the layer relies on are parameters.
-/

import PaymentGateway.App.Commands
import PaymentGateway.Auth.Authenticator
import PaymentGateway.Config.Wiring
import PaymentGateway.Lib.Json

namespace PaymentGateway

open Lib

/-! ## Headers -/

/-- The fields of a string, from one that is begun; `skip` bytes belong to a space. -/
def fieldsFrom : GoString → ℕ → GoString → List GoString
  | field, _, [] => if field = [] then [] else [field]
  | field, skip + 1, _ :: rest => fieldsFrom field skip rest
  | field, 0, b :: rest =>
    match spaceEncodings.find? (·.isPrefixOf (b :: rest)) with
    | some code => (if field = [] then [] else [field]) ++ fieldsFrom [] (code.length - 1) rest
    | none => fieldsFrom (field ++ [b]) 0 rest

/-- `strings.Fields`. -/
def fields (value : GoString) : List GoString := fieldsFrom [] 0 value

/-- `bearerCredential`. -/
def bearerCredential (header : GoString) : Option GoString :=
  match fields header with
  | [scheme, credential] =>
    if equalFold scheme (ascii "bearer") ∧ credential ≠ [] then some credential else none
  | _ => none

/-- `isJSONRequest`. -/
def isJSONRequest (contentType : GoString) : Bool :=
  contentType ≠ [] &&
    equalFold (trimSpace (contentType.takeWhile (· ≠ ';'.toUInt8))) (ascii "application/json")

example : isJSONRequest (ascii "Application/JSON; charset=utf-8") = true := by decide +kernel

/-! ## Requests and answers -/

/-- What is read of a request. A length that is not declared is -1. -/
structure Request where
  authorization : GoString
  contentType : GoString
  idempotencyKey : GoString
  paymentID : GoString
  contentLength : ℤ
  body : Option Json.Reader
  deriving DecidableEq

/-- An error envelope with its status and headers. -/
structure Response where
  status : ℕ
  headers : List (GoString × GoString)
  code : GoString
  message : GoString
  deriving DecidableEq, Repr

/-- `writeError`, after the given headers are set. -/
def writeError (status : ℕ) (code message : GoString)
    (headers : List (GoString × GoString)) : Response where
  status := status
  headers := headers ++ [(ascii "Content-Type", ascii "application/json")]
  code := code
  message := message

def requestBodyTooLarge : Response :=
  writeError 413 (ascii "request_body_too_large") (ascii "request body is too large") []

def internalServerError : Response :=
  writeError 500 (ascii "internal_server_error") (ascii "Internal Server Error") []

/-- What `recoverPanic` answers. -/
def recoveredPanic : Response :=
  writeError 500 (ascii "internal_server_error") (ascii "Internal Server Error")
    [(ascii "Connection", ascii "close")]

/-- `writePaymentServiceError`. -/
def writePaymentServiceError (err : GoError) : Response :=
  match paymentErrorKindOf err with
  | none => internalServerError
  | some .invalidInput =>
    writeError 422 (ascii "validation_error") (ascii "payment request is invalid") []
  | some .idempotencyConflict =>
    writeError 409 (ascii "idempotency_key_conflict")
      (ascii "idempotency key was already used with a different request") []
  | some .idempotencyInProgress =>
    writeError 409 (ascii "idempotency_key_in_progress")
      (ascii "idempotency key is already in progress") []
  | some .paymentStatusConflict | some .authorizationExpired =>
    writeError 409 (ascii "payment_status_conflict")
      (ascii "payment status does not allow this operation") []
  | some .notFound =>
    writeError 404 (ascii "payment_not_found") (ascii "payment was not found") []
  | some .bankStateConflict =>
    writeError 502 (ascii "bank_state_conflict")
      (ascii "bank state conflicts with local payment state") []
  | some .bankUnavailable =>
    writeError 502 (ascii "bank_unavailable") (ascii "bank is unavailable") []
  | some .bankTimeout => writeError 504 (ascii "bank_timeout") (ascii "bank request timed out") []
  | some .internal =>
    writeError 500 (ascii "internal_server_error") (ascii "internal server error") []

/-! ## Bodies -/

/-- The errors that `json.go` declares. -/
inductive BodySentinel
  | invalidJSONBody
  | malformedJSONBody
  | incorrectJSONType
  | emptyJSONBody
  | nonEmptyBody
  | unknownJSONField
  | oversizedJSONBody
  | multipleJSONValues
  deriving DecidableEq, Repr

/-- Why a JSON value does not fit the type it is decoded to. -/
inductive UnmarshalError
  | type (field : GoString) (offset : ℕ)
  | unknownField (name : GoString)
  | invalidTarget
  | other
  deriving DecidableEq, Repr

/-- Why `Decode` fails. -/
inductive DecodeError
  | stream (err : Json.StreamError)
  | unmarshal (err : UnmarshalError)
  deriving DecidableEq, Repr

/-- What the text of an error says after the declared errors. -/
inductive BodyDetail
  | nothing
  | character (offset : ℕ)
  | field (name : GoString)
  | unknown (name : GoString)
  | limit (bytes : ℕ)
  | cause (err : DecodeError)
  deriving DecidableEq, Repr

/-- How the reading of a body goes wrong. -/
inductive BodyFailure
  /-- An error that wraps declared ones. -/
  | declared (wraps : List BodySentinel) (detail : BodyDetail)
  | other (err : DecodeError)
  | panics
  deriving DecidableEq, Repr

/-- `errors.Is`. -/
def BodyFailure.is : BodyFailure → BodySentinel → Bool
  | declared wraps _, sentinel => sentinel ∈ wraps
  | _, _ => false

/-- An error about a JSON body. -/
def invalidBody (category : BodySentinel) (detail : BodyDetail) : BodyFailure :=
  .declared [.invalidJSONBody, category] detail

/-- `Decode`. -/
def decode {α : Type} (unmarshal : GoString → Except UnmarshalError α) (d : Json.Decoder) :
    Except DecodeError (α × Json.Decoder) := do
  let read ← d.readValue.mapError .stream
  let value ← (unmarshal read.1).mapError .unmarshal
  pure (value, read.2)

/-- How `decodeJSONRequest` reports an error of the first value. -/
def firstValueFailure : DecodeError → BodyFailure
  | .stream (.syntaxError offset _ _) => invalidBody .malformedJSONBody (.character offset)
  | .stream .unexpectedEOF => invalidBody .malformedJSONBody .nothing
  | .unmarshal (.type field offset) =>
    invalidBody .incorrectJSONType (if field ≠ [] then .field field else .character offset)
  | .stream (.read .eof) => invalidBody .emptyJSONBody .nothing
  | .unmarshal (.unknownField name) => invalidBody .unknownJSONField (.unknown name)
  | .stream (.read (.maxBytes limit)) => invalidBody .oversizedJSONBody (.limit limit)
  | .unmarshal .invalidTarget => .panics
  | .unmarshal .other => .other (.unmarshal .other)
  | .stream (.read .failed) => .other (.stream (.read .failed))

/-- `http.MaxBytesReader`, which takes a negative limit for zero. -/
def maxBytesReader (limit : ℤ) (body : Json.Reader) : Json.Reader := body.limited limit.toNat

/-- `decodeJSONRequest`. The second value is decoded to any type. -/
def decodeJSONRequest {α : Type} (unmarshal : GoString → Except UnmarshalError α)
    (unmarshalAny : GoString → Except UnmarshalError Unit) (limit : ℤ)
    (body : Option Json.Reader) : Except BodyFailure α :=
  match body with
  -- There is nothing behind the limited reader to read from.
  | none => throw .panics
  | some body => do
    let first ← (decode unmarshal (.new (maxBytesReader limit body))).mapError firstValueFailure
    match decode unmarshalAny first.2 with
    | .error (.stream (.read .eof)) => pure first.1
    -- The error is part of the text and is not wrapped.
    | .error err => throw (invalidBody .malformedJSONBody (.cause err))
    | .ok _ => throw (invalidBody .multipleJSONValues .nothing)

/-- `requireEmptyRequestBody`, which reads the body to its end. -/
def requireEmptyRequestBody (body : Option Json.Reader) : Except BodyFailure Unit :=
  match body with
  | none => pure ()
  | some body =>
    match body.fate with
    | .eof => rejectIf (body.bytes.length ≠ 0) (.declared [.nonEmptyBody] .nothing)
    | .maxBytes _ => throw (.declared [.oversizedJSONBody] .nothing)
    | .failed => throw (.other (.stream (.read .failed)))

/-! ## The handler -/

/-- `Card` in a request body. -/
structure CardBody where
  number : GoString
  cvv : GoString
  expiryMonth : ℤ
  expiryYear : ℤ
  deriving DecidableEq, Repr

/-- The request body of `authorizePayment`. -/
structure AuthorizationBody where
  orderID : GoString
  customerID : GoString
  amountCents : ℤ
  card : CardBody
  deriving DecidableEq, Repr

/-- The request body of `retryAuthorization`. -/
structure RetryBody where
  card : CardBody
  deriving DecidableEq, Repr

/-- What the handler relies on: HMAC-SHA256, the decoding of JSON values into the types of the
request bodies, and what the rate limiter tells a request. -/
structure Platform where
  hmac : GoString → GoString → Digest
  unmarshalAuthorization : GoString → Except UnmarshalError AuthorizationBody
  unmarshalRetry : GoString → Except UnmarshalError RetryBody
  unmarshalAny : GoString → Except UnmarshalError Unit
  reserve : GoString → RouteClass → Bool × ℤ

/-- The platform with a rate limiter in a state, of which a request makes the next call. -/
def Platform.limitedBy (platform : Platform) (config : RateLimitConfig) (s : LimiterState) :
    Platform :=
  { platform with
    reserve := fun principalID routeClass => s.reserve config ⟨principalID, routeClass⟩ }

/-- `Handler`. Its constructor has checked the configuration. -/
structure Handler where
  config : HandlerConfig
  authenticator : Authenticator
  config_valid : config.validate = .ok ()

theorem Handler.maxRequestBodyBytes_pos (h : Handler) : 0 < h.config.maxRequestBodyBytes := by
  have hchecks := runChecks_eq_ok.mp h.config_valid
  simpa [positiveSetting] using hchecks _ (.tail _ (.tail _ (.tail _ (.head _))))

/-- The answer to a body that is not the JSON text it should be. -/
def writeJSONBodyError (failure : BodyFailure) : Response :=
  if failure = .panics then recoveredPanic
  else if failure.is .oversizedJSONBody then requestBodyTooLarge
  else if failure.is .invalidJSONBody then
    writeError 400 (ascii "invalid_json_body") (ascii "invalid JSON body") []
  else internalServerError

/-- The answer to a body that is not empty. -/
def writeEmptyBodyError (failure : BodyFailure) : Response :=
  if failure.is .oversizedJSONBody then requestBodyTooLarge
  else if failure.is .nonEmptyBody then
    writeError 400 (ascii "invalid_json_body") (ascii "request body must be empty") []
  else internalServerError

/-- The body of a JSON route. -/
def readJSONBody {α : Type} (platform : Platform)
    (unmarshal : GoString → Except UnmarshalError α) (limit : ℤ) (r : Request) :
    Except Response α := do
  rejectIf (¬ isJSONRequest r.contentType)
    (writeError 415 (ascii "unsupported_media_type")
      (ascii "content type must be application/json") [])
  (decodeJSONRequest unmarshal platform.unmarshalAny limit r.body).mapError writeJSONBodyError

/-- A route without a body. -/
def bodylessCommand (r : Request)
    (newCommand : GoString → GoString → Except GoError PaymentOperationCommand) :
    Except Response PaymentOperationCommand := do
  (requireEmptyRequestBody r.body).mapError writeEmptyBodyError
  (newCommand r.paymentID r.idempotencyKey).mapError writePaymentServiceError

namespace Handler

variable (platform : Platform) (h : Handler)

/-- `authorizePayment`, up to the call of the application. -/
def authorizePayment (r : Request) : Except Response AuthorizePaymentCommand := do
  let body ← readJSONBody platform platform.unmarshalAuthorization h.config.maxRequestBodyBytes r
  (newAuthorizePaymentCommand body.orderID body.customerID body.amountCents body.card.number
    body.card.cvv body.card.expiryMonth body.card.expiryYear r.idempotencyKey).mapError
      writePaymentServiceError

/-- `retryAuthorization`, up to the call of the application. -/
def retryAuthorization (r : Request) : Except Response RetryAuthorizationCommand := do
  let body ← readJSONBody platform platform.unmarshalRetry h.config.maxRequestBodyBytes r
  (newRetryAuthorizationCommand r.paymentID body.card.number body.card.cvv body.card.expiryMonth
    body.card.expiryYear r.idempotencyKey).mapError writePaymentServiceError

/-- `capturePayment`, up to the call of the application. -/
def capturePayment (r : Request) : Except Response CapturePaymentCommand :=
  bodylessCommand r newCapturePaymentCommand

/-- `voidPayment`, up to the call of the application. -/
def voidPayment (r : Request) : Except Response VoidPaymentCommand :=
  bodylessCommand r newVoidPaymentCommand

/-- `refundPayment`, up to the call of the application. -/
def refundPayment (r : Request) : Except Response RefundPaymentCommand :=
  bodylessCommand r newRefundPaymentCommand

/-- The handler of a route, with the command that the application is called with. -/
def handle (route : Operation) (r : Request) : Except Response Command :=
  match route with
  | .authorizePayment => .authorizePayment <$> h.authorizePayment platform r
  | .retryAuthorization => .retryAuthorization <$> h.retryAuthorization platform r
  | .capturePayment => .capturePayment <$> capturePayment r
  | .voidPayment => .voidPayment <$> voidPayment r
  | .refundPayment => .refundPayment <$> refundPayment r

/-! ## The middleware -/

/-- `requireAuthentication`. -/
def requireAuthentication (r : Request) : Except Response Principal :=
  match (bearerCredential r.authorization).bind (h.authenticator.authenticate platform.hmac) with
  | some principal => pure principal
  | none =>
    throw (writeError 401 (ascii "unauthorized") (ascii "Unauthorized")
      [(ascii "WWW-Authenticate", ascii "Bearer")])

/-- `requireScope`. -/
def requireScope (scope : GoString) (principal : Principal) : Except Response Unit :=
  rejectIf (¬ principal.hasScope scope)
    (writeError 403 (ascii "forbidden") (ascii "Forbidden") [])

/-- `limitRate`. -/
def limitRate (routeClass : RouteClass) (principal : Principal) : Except Response Unit :=
  let (allowed, retryAfter) := platform.reserve principal.id routeClass
  rejectIf (¬ allowed)
    (writeError 429 (ascii "rate_limited") (ascii "rate limit exceeded")
      [(ascii "Retry-After", formatInt retryAfter)])

/-- `limitRequestBody`. -/
def limitRequestBody (r : Request) : Except Response Request := do
  rejectIf (h.config.maxRequestBodyBytes < r.contentLength) requestBodyTooLarge
  pure { r with body := r.body.map (maxBytesReader h.config.maxRequestBodyBytes) }

/-- What a request goes through before its body is looked at. -/
def requireAdmission (r : Request) : Except Response Unit := do
  let principal ← h.requireAuthentication platform r
  requireScope scopePaymentsWrite principal
  limitRate platform .write principal

/-- A request for a command route. -/
def serve (route : Operation) (r : Request) : Except Response Command := do
  h.requireAdmission platform r
  let r ← h.limitRequestBody r
  h.handle platform route r

end Handler

end PaymentGateway
