/-
# Payment commands

The five commands and their constructors, `payment_commands.go` and
`payment_validation.go`. The fields of a Go command are private to its package
and only its constructor fills them in, so here a command carries the facts its
constructor checked and no other command can be built.
-/

import PaymentGateway.App.Errors
import PaymentGateway.Domain.Lifecycle

namespace PaymentGateway

open Lib

/-- `allDigits`. -/
def allDigits (value : GoString) : Bool :=
  if value = [] then false
  else (rangeRunes value).all fun (_, r) => !(r < 0x30 || r > 0x39)

/-- `cardDetails`, as `newCardDetails` accepts them. -/
structure CardDetails where
  number : GoString
  cvv : GoString
  expiryMonth : ℤ
  expiryYear : ℤ
  number_valid : allDigits number ∧ 12 ≤ number.length ∧ number.length ≤ 19
  cvv_valid : allDigits cvv ∧ 3 ≤ cvv.length ∧ cvv.length ≤ 4
  expiryMonth_valid : 1 ≤ expiryMonth ∧ expiryMonth ≤ 12
  expiryYear_valid : 0 < expiryYear
  deriving DecidableEq

/-- `AuthorizePaymentCommand`. -/
structure AuthorizePaymentCommand where
  orderID : GoString
  customerID : GoString
  amountCents : ℤ
  card : CardDetails
  idempotencyKey : GoString
  orderID_valid : Normalized orderID
  customerID_valid : Normalized customerID
  amount_valid : 0 < amountCents
  key_valid : Normalized idempotencyKey
  deriving DecidableEq

/-- `RetryAuthorizationCommand`. -/
structure RetryAuthorizationCommand where
  paymentID : GoString
  card : CardDetails
  idempotencyKey : GoString
  paymentID_valid : validatePaymentID paymentID = .ok ()
  key_valid : Normalized idempotencyKey
  deriving DecidableEq

/-- The three commands that carry nothing but a payment id and an idempotency key. -/
structure PaymentOperationCommand where
  paymentID : GoString
  idempotencyKey : GoString
  paymentID_valid : validatePaymentID paymentID = .ok ()
  key_valid : Normalized idempotencyKey
  deriving DecidableEq

/-- `CapturePaymentCommand`. -/
abbrev CapturePaymentCommand := PaymentOperationCommand

/-- `VoidPaymentCommand`. -/
abbrev VoidPaymentCommand := PaymentOperationCommand

/-- `RefundPaymentCommand`. -/
abbrev RefundPaymentCommand := PaymentOperationCommand

/-! ## Constructors -/

/-- A value that passes a check, with the proof that it does. -/
def ensure (good : Prop) [Decidable good] (err : GoError) : Except GoError (PLift good) :=
  if h : good then pure ⟨h⟩ else throw err

/-- `newCardDetails`. -/
def newCardDetails (number cvv : GoString) (expiryMonth expiryYear : ℤ) :
    Except GoError CardDetails := do
  let invalid := newInvalidPaymentInputError (ascii "card details are invalid") .none
  let number := trimSpace number
  let cvv := trimSpace cvv
  let ⟨hnumber⟩ ← ensure (allDigits number ∧ 12 ≤ number.length ∧ number.length ≤ 19) invalid
  let ⟨hcvv⟩ ← ensure (allDigits cvv ∧ 3 ≤ cvv.length ∧ cvv.length ≤ 4) invalid
  let ⟨hmonth⟩ ← ensure (1 ≤ expiryMonth ∧ expiryMonth ≤ 12) invalid
  let ⟨hyear⟩ ← ensure (0 < expiryYear) invalid
  pure ⟨number, cvv, expiryMonth, expiryYear, hnumber, hcvv, hmonth, hyear⟩

/-- The requirement that a field is not blank once it is trimmed. -/
def requireField (value : GoString) (reason : GoString) :
    Except GoError { trimmed : GoString // Normalized trimmed } :=
  if h : trimSpace value ≠ [] then pure ⟨trimSpace value, normalized_trimSpace h⟩
  else throw (newInvalidPaymentInputError reason .none)

/-- `NewAuthorizePaymentCommand`. -/
def newAuthorizePaymentCommand (orderID customerID : GoString) (amountCents : ℤ)
    (cardNumber cardCVV : GoString) (cardExpiryMonth cardExpiryYear : ℤ)
    (idempotencyKey : GoString) : Except GoError AuthorizePaymentCommand := do
  let ⟨key, hkey⟩ ← requireField idempotencyKey (ascii "idempotency key is required")
  let ⟨order, horder⟩ ← requireField orderID (ascii "order id is required")
  let ⟨customer, hcustomer⟩ ← requireField customerID (ascii "customer id is required")
  let ⟨hamount⟩ ← ensure (0 < amountCents)
    (newInvalidPaymentInputError (ascii "amount must be greater than zero") .none)
  let card ← (newCardDetails cardNumber cardCVV cardExpiryMonth cardExpiryYear).mapError
    ensurePaymentError
  pure ⟨order, customer, amountCents, card, key, horder, hcustomer, hamount, hkey⟩

/-- `parsePaymentID` of the application layer. -/
def parsePaymentIDInput (value : GoString) :
    Except GoError { id : GoString // validatePaymentID id = .ok () } :=
  match h : validatePaymentID (trimSpace value) with
  | .ok () => pure ⟨trimSpace value, h⟩
  | .error err =>
    throw (newInvalidPaymentInputError (ascii "payment id is invalid") (.domain err))

/-- `NewRetryAuthorizationCommand`. -/
def newRetryAuthorizationCommand (paymentID cardNumber cardCVV : GoString)
    (cardExpiryMonth cardExpiryYear : ℤ) (idempotencyKey : GoString) :
    Except GoError RetryAuthorizationCommand := do
  let ⟨key, hkey⟩ ← requireField idempotencyKey (ascii "idempotency key is required")
  let ⟨id, hid⟩ ← (parsePaymentIDInput paymentID).mapError ensurePaymentError
  let card ← (newCardDetails cardNumber cardCVV cardExpiryMonth cardExpiryYear).mapError
    ensurePaymentError
  pure ⟨id, card, key, hid, hkey⟩

/-- `parsePaymentOperationInput`, with the result already a command. -/
def parsePaymentOperationInput (paymentID idempotencyKey : GoString) :
    Except GoError PaymentOperationCommand := do
  let ⟨key, hkey⟩ ← requireField idempotencyKey (ascii "idempotency key is required")
  let ⟨id, hid⟩ ← parsePaymentIDInput paymentID
  pure ⟨id, key, hid, hkey⟩

/-- `NewCapturePaymentCommand`. -/
def newCapturePaymentCommand (paymentID idempotencyKey : GoString) :
    Except GoError CapturePaymentCommand :=
  (parsePaymentOperationInput paymentID idempotencyKey).mapError ensurePaymentError

/-- `NewVoidPaymentCommand`. -/
def newVoidPaymentCommand (paymentID idempotencyKey : GoString) :
    Except GoError VoidPaymentCommand :=
  (parsePaymentOperationInput paymentID idempotencyKey).mapError ensurePaymentError

/-- `NewRefundPaymentCommand`. -/
def newRefundPaymentCommand (paymentID idempotencyKey : GoString) :
    Except GoError RefundPaymentCommand :=
  (parsePaymentOperationInput paymentID idempotencyKey).mapError ensurePaymentError

/-! ## Commands as the service receives them -/

/-- The operations an idempotency record is kept for. -/
inductive Operation
  | authorizePayment
  | retryAuthorization
  | capturePayment
  | voidPayment
  | refundPayment
  deriving DecidableEq, Repr

/-- The text of an operation. -/
def Operation.text : Operation → GoString
  | authorizePayment => ascii "authorize_payment"
  | retryAuthorization => ascii "retry_authorization"
  | capturePayment => ascii "capture_payment"
  | voidPayment => ascii "void_payment"
  | refundPayment => ascii "refund_payment"

/-- One call of one of the five service methods. -/
inductive Command
  | authorizePayment (command : AuthorizePaymentCommand)
  | retryAuthorization (command : RetryAuthorizationCommand)
  | capturePayment (command : CapturePaymentCommand)
  | voidPayment (command : VoidPaymentCommand)
  | refundPayment (command : RefundPaymentCommand)
  deriving DecidableEq

namespace Command

/-- The operation a command belongs to. -/
def operation : Command → Operation
  | authorizePayment _ => .authorizePayment
  | retryAuthorization _ => .retryAuthorization
  | capturePayment _ => .capturePayment
  | voidPayment _ => .voidPayment
  | refundPayment _ => .refundPayment

/-- The idempotency key of a command. -/
def idempotencyKey : Command → GoString
  | authorizePayment command => command.idempotencyKey
  | retryAuthorization command => command.idempotencyKey
  | capturePayment command => command.idempotencyKey
  | voidPayment command => command.idempotencyKey
  | refundPayment command => command.idempotencyKey

/-- The payment a command is about; an authorization creates its own. -/
def paymentID? : Command → Option GoString
  | authorizePayment _ => none
  | retryAuthorization command => some command.paymentID
  | capturePayment command => some command.paymentID
  | voidPayment command => some command.paymentID
  | refundPayment command => some command.paymentID

/-- The card details a command carries. -/
def card? : Command → Option CardDetails
  | authorizePayment command => some command.card
  | retryAuthorization command => some command.card
  | _ => none

/-- The idempotency record a command works on. -/
def recordKey (command : Command) : Operation × GoString :=
  (command.operation, command.idempotencyKey)

theorem idempotencyKey_valid (command : Command) : Normalized command.idempotencyKey := by
  cases command with
  | authorizePayment command => exact command.key_valid
  | retryAuthorization command => exact command.key_valid
  | capturePayment command => exact command.key_valid
  | voidPayment command => exact command.key_valid
  | refundPayment command => exact command.key_valid

end Command

end PaymentGateway
