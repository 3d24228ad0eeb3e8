/-
# Answers

What the routes of `httpapi` answer once a request is admitted: the rest of the command
handlers of `handlers.go`, the two payment queries, and the probes of `handler.go`. The
application is a parameter, and so is the time it takes: a reply comes with whether the
deadline of the request had passed.

A handler that panics answers nothing. `recoverPanic` answers in its place.
-/

import PaymentGateway.Http.Envelope
import PaymentGateway.Http.Handlers
import PaymentGateway.Service.Queries

namespace PaymentGateway

open Lib

/-! ## What is written -/

/-- What the body of an answer is marshalled from. -/
inductive AnswerBody
  | error (code message : GoString)
  | payment (envelope : PaymentPayload)
  | payments (envelope : List PaymentPayload)
  deriving DecidableEq, Repr

/-- The headers that are set, in this order, the status and the body. Without a body only
`WriteHeader` is called. -/
structure Answer where
  status : ℕ
  headers : List (GoString × GoString)
  body : Option AnswerBody
  deriving DecidableEq, Repr

/-- `writeJSON`, after the given headers are set. -/
def writeJSON (status : ℕ) (body : AnswerBody) (headers : List (GoString × GoString)) :
    Answer where
  status := status
  headers := headers ++ [(ascii "Content-Type", ascii "application/json")]
  body := some body

/-- An error envelope as an answer. -/
def Response.answer (response : Response) : Answer :=
  ⟨response.status, response.headers, some (.error response.code response.message)⟩

/-- What the handler itself answers. The answer of `recoverPanic` stands for a panic. -/
def Response.answer? (response : Response) : Option Answer :=
  if response = recoveredPanic then none else some response.answer

def noContent : Answer := ⟨204, [], none⟩

/-! ## Path segments -/

/-- `shouldEscape` in a path segment. -/
def shouldEscape (c : UInt8) : Bool :=
  ¬ (0x61 ≤ c ∧ c ≤ 0x7A ∨ 0x41 ≤ c ∧ c ≤ 0x5A ∨ 0x30 ≤ c ∧ c ≤ 0x39 ∨ c ∈ ascii "-_.~$&+:=@")

/-- A digit of `upperhex`. -/
def upperHex (value : ℕ) : UInt8 := (ascii "0123456789ABCDEF").getD value 0

/-- `url.PathEscape`. -/
def pathEscape (value : GoString) : GoString :=
  value.flatMap fun c =>
    if shouldEscape c then ['%'.toUInt8, upperHex (c.toNat / 16), upperHex (c.toNat % 16)]
    else [c]

example : pathEscape (ascii "pay_1/2?") = ascii "pay_1%2F2%3F" := by decide +kernel

/-! ## The application -/

/-- What a call of the application does within a request. -/
inductive AppReply (α : Type)
  | panics
  | replies (result : Except GoError α) (deadlineExceeded : Bool)

/-- `paymentApplication` and `readinessChecker`. -/
structure Application where
  command : Command → AppReply PaymentCommandResult
  getPayment : GetPaymentQuery → AppReply PaymentResult
  searchPayments : SearchPaymentsQuery → AppReply (List PaymentResult)
  ready : Bool

/-- How every handler turns a reply into an answer. The deadline comes first: a result that is
late is not told. -/
def answerReply {α : Type} (timeout : Response) (render : α → Answer) : AppReply α → Option Answer
  | .panics => none
  | .replies _ true => some timeout.answer
  | .replies (.error err) false => some (writePaymentServiceError err).answer
  | .replies (.ok value) false => some (render value)

def paymentTimeout : Response :=
  writeError 504 (ascii "payment_timeout")
    (ascii "payment command timed out; retry with the same idempotency key") []

def readTimeout : Response :=
  writeError 504 (ascii "request_timeout") (ascii "payment read timed out") []

/-- The answer of a command handler to a payment. -/
def paymentAnswer (operation : Operation) (payment : PaymentResult) : Answer :=
  let envelope := AnswerBody.payment (newPaymentEnvelope payment)
  match operation with
  | .authorizePayment =>
    -- A pending payment was accepted, and any other was created.
    writeJSON (if payment.status = PaymentStatus.pending.text then 202 else 201) envelope
      [(ascii "Location", ascii "/api/v1/payments/" ++ pathEscape payment.id)]
  | _ => writeJSON 200 envelope []

/-! ## Routes -/

/-- The routes that `routes` registers. -/
inductive Route
  | healthz
  | readyz
  | searchPayments
  | getPayment
  | command (operation : Operation)
  deriving DecidableEq, Repr

/-- The pattern of a route without its method, which the metrics are labelled with. -/
def Route.pattern : Route → GoString
  | healthz => ascii "/healthz"
  | readyz => ascii "/readyz"
  | searchPayments => ascii "/api/v1/payments"
  | getPayment => ascii "/api/v1/payments/\x7bpayment_id\x7d"
  | command .authorizePayment => ascii "/api/v1/payments"
  | command .retryAuthorization =>
    ascii "/api/v1/payments/\x7bpayment_id\x7d/authorization-retries"
  | command .capturePayment => ascii "/api/v1/payments/\x7bpayment_id\x7d/capture"
  | command .voidPayment => ascii "/api/v1/payments/\x7bpayment_id\x7d/void"
  | command .refundPayment => ascii "/api/v1/payments/\x7bpayment_id\x7d/refund"

/-- Of a versioned route, the scope that it requires and its class for the rate limiter. -/
def Route.admission : Route → Option (GoString × RouteClass)
  | healthz | readyz => none
  | searchPayments | getPayment => some (scopePaymentsRead, .read)
  | command _ => some (scopePaymentsWrite, .write)

/-- A request with its method and the pairs of its query. -/
structure RoutedRequest extends Request where
  method : GoString
  query : List (GoString × GoString)
  deriving DecidableEq

namespace Handler

variable (platform : Platform) (h : Handler) (app : Application)

/-- `getPayment`, up to the call of the application. -/
def getPayment (r : Request) : Except Response GetPaymentQuery :=
  (newGetPaymentQuery r.paymentID).mapError writePaymentServiceError

/-- `Get` of the parsed query. -/
def queryValue (query : List (GoString × GoString)) (key : GoString) : GoString :=
  (query.lookup key).getD []

/-- `searchPayments`, up to the call of the application. -/
def searchPayments (query : List (GoString × GoString)) : Except Response SearchPaymentsQuery := do
  rejectIf
    (¬ query.all fun pair => pair.1 ∈ [ascii "order_id", ascii "customer_id", ascii "status"])
    (writePaymentServiceError
      (newInvalidPaymentInputError (ascii "unsupported payment search filter") .none))
  (newSearchPaymentsQuery (queryValue query (ascii "order_id"))
    (queryValue query (ascii "customer_id")) (queryValue query (ascii "status"))).mapError
      writePaymentServiceError

/-- A handler that calls the application unless it answers itself. -/
def afterRequest {α : Type} (request : Except Response α) (next : α → Option Answer) :
    Option Answer :=
  match request with
  | .error response => response.answer?
  | .ok value => next value

/-- The handler of a route. -/
def endpoint (route : Route) (r : RoutedRequest) : Option Answer :=
  match route with
  | .healthz => some noContent
  | .readyz =>
    if app.ready then some noContent
    else some (writeError 503 (ascii "service_unavailable") (ascii "Service Unavailable") []).answer
  | .searchPayments =>
    afterRequest (searchPayments r.query) fun query =>
      answerReply readTimeout
        (fun payments => writeJSON 200 (.payments (newPaymentsEnvelope payments)) [])
        (app.searchPayments query)
  | .getPayment =>
    afterRequest (getPayment r.toRequest) fun query =>
      answerReply readTimeout
        (fun payment => writeJSON 200 (.payment (newPaymentEnvelope payment)) [])
        (app.getPayment query)
  | .command operation =>
    afterRequest (h.handle platform operation r.toRequest) fun command =>
      answerReply paymentTimeout (fun result => paymentAnswer operation result.payment)
        (app.command command)

end Handler

end PaymentGateway
