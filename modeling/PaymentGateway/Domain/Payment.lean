/-
# The payment entity

The gateway's payment, as `internal/domain/payment.go` has it: nineteen fields,
one constructor for a pending payment, one that reloads a stored payment by its
status, and the mutators that move a payment along its lifecycle or assign a
bank operation key.

An absent string is the empty string and an absent time is Go's zero time, which
is instant 0 here; times are nanoseconds since the zero time. A mutator returns
the changed payment, or the error and no payment.
-/

import PaymentGateway.Domain.Text
import PaymentGateway.Lib.Result

namespace PaymentGateway

open Lib

/-- An instant, in nanoseconds since Go's zero time. -/
abbrev Time := ℕ

/-- A `time.Duration`, in nanoseconds. -/
abbrev Duration := ℤ

/-- The errors of the domain package. -/
inductive DomainError
  | invalidPaymentID
  | invalidOrderID
  | invalidCustomerID
  | invalidAmount
  | invalidBankAuthorizationID
  | invalidBankCaptureID
  | invalidBankRefundID
  | invalidBankVoidID
  | invalidBankOperationKey
  | invalidAuthorizationCardFingerprint
  | invalidDeclineReason
  | invalidPaymentTimestamp
  | invalidAuthorizationExpirationTime
  | invalidPaymentStatus
  deriving DecidableEq, Repr

/-- The lifecycle positions of a payment. -/
inductive PaymentStatus
  | pending
  | authorized
  | expired
  | declined
  | captured
  | voided
  | refunded
  deriving DecidableEq, Repr

namespace PaymentStatus

/-- The text a status is stored and rendered as. -/
def text : PaymentStatus → GoString
  | pending => ascii "pending"
  | authorized => ascii "authorized"
  | expired => ascii "expired"
  | declined => ascii "declined"
  | captured => ascii "captured"
  | voided => ascii "voided"
  | refunded => ascii "refunded"

/-- Every status. -/
def all : List PaymentStatus :=
  [pending, authorized, expired, declined, captured, voided, refunded]

/-- The status a text stands for, if it is one. -/
def ofText? (value : GoString) : Option PaymentStatus := all.find? (·.text = value)

@[simp] theorem ofText?_text (status : PaymentStatus) : ofText? status.text = some status := by
  cases status <;> decide

theorem text_injective : Function.Injective text := by
  intro first second same
  have h := congrArg ofText? same
  rwa [ofText?_text, ofText?_text, Option.some_inj] at h

@[simp] theorem text_inj {first second : PaymentStatus} :
    first.text = second.text ↔ first = second :=
  text_injective.eq_iff

end PaymentStatus

/-- `CurrencyUSD`. -/
def currencyUSD : GoString := ascii "USD"

def declineReasonInsufficientFunds : GoString := ascii "insufficient_funds"
def declineReasonInvalidCard : GoString := ascii "invalid_card"
def declineReasonExpiredCard : GoString := ascii "expired_card"
def declineReasonUnknown : GoString := ascii "unknown"

/-- The decline reasons the gateway owns. -/
def declineReasons : List GoString :=
  [declineReasonInsufficientFunds, declineReasonInvalidCard, declineReasonExpiredCard,
    declineReasonUnknown]

/-- The gateway-owned record of an attempt to collect money for an order. -/
structure Payment where
  id : GoString
  orderID : GoString
  customerID : GoString
  amountCents : ℤ
  currency : GoString
  status : PaymentStatus
  bankAuthorizationID : GoString
  authorizationExpiresAt : Time
  authorizationBankOperationKey : GoString
  authorizationCardFingerprint : GoString
  bankCaptureID : GoString
  captureBankOperationKey : GoString
  bankRefundID : GoString
  refundBankOperationKey : GoString
  bankVoidID : GoString
  voidBankOperationKey : GoString
  declineReason : GoString
  createdAt : Time
  updatedAt : Time
  deriving DecidableEq, Repr

/-! ## Validation -/

/-- `isHexDigit`, on runes. -/
def isHexDigit (r : ℕ) : Bool :=
  (0x30 ≤ r && r ≤ 0x39) || (0x61 ≤ r && r ≤ 0x66) || (0x41 ≤ r && r ≤ 0x46)

/-- `isDashedUUID`. The length is in bytes, and the loop runs over runes indexed
by their byte offset. -/
def isDashedUUID (value : GoString) : Bool :=
  if value.length ≠ 36 then false
  else (rangeRunes value).all fun (i, r) =>
    if i = 8 ∨ i = 13 ∨ i = 18 ∨ i = 23 then r = 0x2D else isHexDigit r

/-- `strings.CutPrefix`. -/
def cutPrefix (value start : GoString) : Option GoString :=
  if start.isPrefixOf value then some (value.drop start.length) else none

/-- `validatePaymentID`. -/
def validatePaymentID (id : GoString) : Except DomainError Unit :=
  match cutPrefix id (ascii "pay_") with
  | some uuidPart => if isDashedUUID uuidPart then pure () else throw .invalidPaymentID
  | none => throw .invalidPaymentID

/-- `ParsePaymentID`. -/
def parsePaymentID (value : GoString) : Except DomainError GoString := do
  validatePaymentID value
  pure value

/-- `normalizeRequired`: the trimmed value, unless it is blank. -/
def normalizeRequired (value : GoString) (err : DomainError) : Except DomainError GoString := do
  rejectIf (trimSpace value = []) err
  pure (trimSpace value)

/-- The treatment `newPayment` gives each optional field: an empty value stays
empty, any other one is normalized. -/
def normalizeOptional (value : GoString) (err : DomainError) : Except DomainError GoString :=
  if value = [] then pure [] else normalizeRequired value err

/-- `validateDeclineReason`. -/
def validateDeclineReason (reason : GoString) : Except DomainError Unit :=
  rejectIf (reason ∉ declineReasons) .invalidDeclineReason

/-! ## Constructors -/

/-- The bank authorization id and its expiration time come together or not at
all. -/
def normalizeAuthorization (bankAuthorizationID : GoString) (authorizationExpiresAt : Time) :
    Except DomainError GoString :=
  if bankAuthorizationID ≠ [] then do
    let normalized ← normalizeRequired bankAuthorizationID .invalidBankAuthorizationID
    rejectIf (authorizationExpiresAt = 0) .invalidAuthorizationExpirationTime
    pure normalized
  else if authorizationExpiresAt ≠ 0 then throw .invalidAuthorizationExpirationTime
  else pure []

/-- `newPayment`. -/
def newPayment (id orderID customerID : GoString) (amountCents : ℤ) (status : PaymentStatus)
    (bankAuthorizationID : GoString) (authorizationExpiresAt : Time)
    (authorizationBankOperationKey authorizationCardFingerprint : GoString)
    (bankCaptureID captureBankOperationKey bankRefundID refundBankOperationKey : GoString)
    (bankVoidID voidBankOperationKey declineReason : GoString) (now : Time) :
    Except DomainError Payment := do
  validatePaymentID id
  let orderID ← normalizeRequired orderID .invalidOrderID
  let customerID ← normalizeRequired customerID .invalidCustomerID
  rejectIf (amountCents ≤ 0) .invalidAmount
  let authorizationBankOperationKey ←
    normalizeRequired authorizationBankOperationKey .invalidBankOperationKey
  let authorizationCardFingerprint ←
    normalizeRequired authorizationCardFingerprint .invalidAuthorizationCardFingerprint
  let bankAuthorizationID ← normalizeAuthorization bankAuthorizationID authorizationExpiresAt
  let bankCaptureID ← normalizeOptional bankCaptureID .invalidBankCaptureID
  let captureBankOperationKey ←
    normalizeOptional captureBankOperationKey .invalidBankOperationKey
  let bankRefundID ← normalizeOptional bankRefundID .invalidBankRefundID
  let refundBankOperationKey ← normalizeOptional refundBankOperationKey .invalidBankOperationKey
  let bankVoidID ← normalizeOptional bankVoidID .invalidBankVoidID
  let voidBankOperationKey ← normalizeOptional voidBankOperationKey .invalidBankOperationKey
  rejectIf (now = 0) .invalidPaymentTimestamp
  pure
    { id, orderID, customerID, amountCents, currency := currencyUSD, status,
      bankAuthorizationID, authorizationExpiresAt, authorizationBankOperationKey,
      authorizationCardFingerprint, bankCaptureID, captureBankOperationKey, bankRefundID,
      refundBankOperationKey, bankVoidID, voidBankOperationKey, declineReason,
      createdAt := now, updatedAt := now }

/-- `NewPendingPayment`. -/
def newPendingPayment (id orderID customerID : GoString) (amountCents : ℤ)
    (authorizationBankOperationKey authorizationCardFingerprint : GoString) (now : Time) :
    Except DomainError Payment :=
  newPayment id orderID customerID amountCents .pending [] 0 authorizationBankOperationKey
    authorizationCardFingerprint [] [] [] [] [] [] [] now

/-- One of `LoadPayment`'s checks that a field is blank. -/
def requireBlank (value : GoString) (err : DomainError) : Except DomainError Unit :=
  rejectIf (trimSpace value ≠ []) err

/-- One of `LoadPayment`'s checks that a field is not blank. -/
def requirePresent (value : GoString) (err : DomainError) : Except DomainError Unit :=
  rejectIf (trimSpace value = []) err

/-- One of `LoadPayment`'s checks that there is no decline reason, which unlike the
other fields is compared without trimming. -/
def requireNoDeclineReason (reason : GoString) : Except DomainError Unit :=
  rejectIf (reason ≠ []) .invalidDeclineReason

/-- One of `LoadPayment`'s checks that there is no authorization expiration time. -/
def requireNoExpiration (authorizationExpiresAt : Time) : Except DomainError Unit :=
  rejectIf (authorizationExpiresAt ≠ 0) .invalidAuthorizationExpirationTime

/-- The switch of `LoadPayment`, up to the update time. -/
def loadPaymentByStatus (id orderID customerID : GoString) (amountCents : ℤ)
    (status : GoString) (bankAuthorizationID : GoString) (authorizationExpiresAt : Time)
    (authorizationBankOperationKey authorizationCardFingerprint : GoString)
    (bankCaptureID captureBankOperationKey bankRefundID refundBankOperationKey : GoString)
    (bankVoidID voidBankOperationKey declineReason : GoString) (createdAt : Time) :
    Except DomainError Payment :=
  match PaymentStatus.ofText? status with
  | some .pending => do
    requireBlank bankAuthorizationID .invalidBankAuthorizationID
    requireBlank bankCaptureID .invalidBankCaptureID
    requireBlank captureBankOperationKey .invalidBankOperationKey
    requireNoExpiration authorizationExpiresAt
    requireBlank bankRefundID .invalidBankRefundID
    requireBlank refundBankOperationKey .invalidBankOperationKey
    requireBlank bankVoidID .invalidBankVoidID
    requireBlank voidBankOperationKey .invalidBankOperationKey
    requireNoDeclineReason declineReason
    newPendingPayment id orderID customerID amountCents authorizationBankOperationKey
      authorizationCardFingerprint createdAt
  | some .authorized => do
    requireNoDeclineReason declineReason
    requireBlank bankCaptureID .invalidBankCaptureID
    requireBlank bankRefundID .invalidBankRefundID
    requireBlank refundBankOperationKey .invalidBankOperationKey
    requireBlank bankVoidID .invalidBankVoidID
    newPayment id orderID customerID amountCents .authorized bankAuthorizationID
      authorizationExpiresAt authorizationBankOperationKey authorizationCardFingerprint []
      captureBankOperationKey [] [] [] voidBankOperationKey [] createdAt
  | some .expired => do
    requireNoDeclineReason declineReason
    requireBlank bankCaptureID .invalidBankCaptureID
    requireBlank captureBankOperationKey .invalidBankOperationKey
    requireBlank bankRefundID .invalidBankRefundID
    requireBlank refundBankOperationKey .invalidBankOperationKey
    requireBlank bankVoidID .invalidBankVoidID
    requireBlank voidBankOperationKey .invalidBankOperationKey
    newPayment id orderID customerID amountCents .expired bankAuthorizationID
      authorizationExpiresAt authorizationBankOperationKey authorizationCardFingerprint []
      [] [] [] [] [] [] createdAt
  | some .declined => do
    requireBlank bankAuthorizationID .invalidBankAuthorizationID
    requireBlank bankCaptureID .invalidBankCaptureID
    requireBlank captureBankOperationKey .invalidBankOperationKey
    requireNoExpiration authorizationExpiresAt
    requireBlank bankRefundID .invalidBankRefundID
    requireBlank refundBankOperationKey .invalidBankOperationKey
    requireBlank bankVoidID .invalidBankVoidID
    requireBlank voidBankOperationKey .invalidBankOperationKey
    newPayment id orderID customerID amountCents .declined [] 0 authorizationBankOperationKey
      authorizationCardFingerprint [] [] [] [] [] [] declineReason createdAt
  | some .captured => do
    requireNoDeclineReason declineReason
    requirePresent bankCaptureID .invalidBankCaptureID
    requirePresent captureBankOperationKey .invalidBankOperationKey
    requireBlank bankRefundID .invalidBankRefundID
    requireBlank bankVoidID .invalidBankVoidID
    requireBlank voidBankOperationKey .invalidBankOperationKey
    newPayment id orderID customerID amountCents .captured bankAuthorizationID
      authorizationExpiresAt authorizationBankOperationKey authorizationCardFingerprint
      bankCaptureID captureBankOperationKey [] refundBankOperationKey [] [] [] createdAt
  | some .voided => do
    requireNoDeclineReason declineReason
    requireBlank bankCaptureID .invalidBankCaptureID
    requireBlank captureBankOperationKey .invalidBankOperationKey
    requireBlank bankRefundID .invalidBankRefundID
    requireBlank refundBankOperationKey .invalidBankOperationKey
    requirePresent bankVoidID .invalidBankVoidID
    requirePresent voidBankOperationKey .invalidBankOperationKey
    newPayment id orderID customerID amountCents .voided bankAuthorizationID
      authorizationExpiresAt authorizationBankOperationKey authorizationCardFingerprint
      [] [] [] [] bankVoidID voidBankOperationKey [] createdAt
  | some .refunded => do
    requireNoDeclineReason declineReason
    requirePresent bankRefundID .invalidBankRefundID
    requirePresent refundBankOperationKey .invalidBankOperationKey
    requirePresent bankCaptureID .invalidBankCaptureID
    requirePresent captureBankOperationKey .invalidBankOperationKey
    requireBlank bankVoidID .invalidBankVoidID
    requireBlank voidBankOperationKey .invalidBankOperationKey
    newPayment id orderID customerID amountCents .refunded bankAuthorizationID
      authorizationExpiresAt authorizationBankOperationKey authorizationCardFingerprint
      bankCaptureID captureBankOperationKey bankRefundID refundBankOperationKey [] [] []
      createdAt
  | none => throw .invalidPaymentStatus

/-- `LoadPayment`. -/
def loadPayment (id orderID customerID : GoString) (amountCents : ℤ) (currency status : GoString)
    (bankAuthorizationID : GoString) (authorizationExpiresAt : Time)
    (authorizationBankOperationKey authorizationCardFingerprint : GoString)
    (bankCaptureID captureBankOperationKey bankRefundID refundBankOperationKey : GoString)
    (bankVoidID voidBankOperationKey declineReason : GoString) (createdAt updatedAt : Time) :
    Except DomainError Payment := do
  rejectIf (currency ≠ currencyUSD) .invalidAmount
  rejectIf (updatedAt = 0) .invalidPaymentTimestamp
  let payment ← loadPaymentByStatus id orderID customerID amountCents status bankAuthorizationID
    authorizationExpiresAt authorizationBankOperationKey authorizationCardFingerprint
    bankCaptureID captureBankOperationKey bankRefundID refundBankOperationKey bankVoidID
    voidBankOperationKey declineReason createdAt
  pure { payment with updatedAt }

/-! ## Mutators -/

namespace Payment

/-- `MarkAuthorized`. -/
def markAuthorized (p : Payment) (bankAuthorizationID : GoString) (authorizationExpiresAt : Time)
    (now : Time) : Except DomainError Payment := do
  rejectIf (p.status ≠ .pending) .invalidPaymentStatus
  let bankAuthorizationID ← normalizeRequired bankAuthorizationID .invalidBankAuthorizationID
  rejectIf (now = 0) .invalidPaymentTimestamp
  rejectIf (authorizationExpiresAt = 0) .invalidAuthorizationExpirationTime
  pure { p with status := .authorized, bankAuthorizationID, authorizationExpiresAt,
                declineReason := [], updatedAt := now }

/-- `MarkExpired`. -/
def markExpired (p : Payment) (now : Time) : Except DomainError Payment := do
  rejectIf (p.status ≠ .authorized) .invalidPaymentStatus
  rejectIf (now = 0) .invalidPaymentTimestamp
  pure { p with status := .expired, captureBankOperationKey := [], voidBankOperationKey := [],
                updatedAt := now }

/-- `MarkDeclined`. -/
def markDeclined (p : Payment) (declineReason : GoString) (now : Time) :
    Except DomainError Payment := do
  rejectIf (p.status ≠ .pending) .invalidPaymentStatus
  validateDeclineReason declineReason
  rejectIf (now = 0) .invalidPaymentTimestamp
  pure { p with status := .declined, bankAuthorizationID := [], authorizationExpiresAt := 0,
                declineReason, updatedAt := now }

/-- `MarkCaptured`. -/
def markCaptured (p : Payment) (bankCaptureID : GoString) (now : Time) :
    Except DomainError Payment := do
  rejectIf (p.status ≠ .authorized) .invalidPaymentStatus
  let bankCaptureID ← normalizeRequired bankCaptureID .invalidBankCaptureID
  rejectIf (now = 0) .invalidPaymentTimestamp
  pure { p with status := .captured, bankCaptureID, voidBankOperationKey := [], updatedAt := now }

/-- `SetCaptureBankOperationKey`. -/
def setCaptureBankOperationKey (p : Payment) (captureBankOperationKey : GoString) :
    Except DomainError Payment := do
  rejectIf (p.status ≠ .authorized) .invalidPaymentStatus
  let captureBankOperationKey ← normalizeRequired captureBankOperationKey .invalidBankOperationKey
  pure { p with captureBankOperationKey }

/-- `MarkVoided`. -/
def markVoided (p : Payment) (bankVoidID : GoString) (now : Time) :
    Except DomainError Payment := do
  rejectIf (p.status ≠ .authorized) .invalidPaymentStatus
  let bankVoidID ← normalizeRequired bankVoidID .invalidBankVoidID
  rejectIf (now = 0) .invalidPaymentTimestamp
  pure { p with status := .voided, bankVoidID, captureBankOperationKey := [], declineReason := [],
                updatedAt := now }

/-- `SetVoidBankOperationKey`. -/
def setVoidBankOperationKey (p : Payment) (voidBankOperationKey : GoString) :
    Except DomainError Payment := do
  rejectIf (p.status ≠ .authorized) .invalidPaymentStatus
  let voidBankOperationKey ← normalizeRequired voidBankOperationKey .invalidBankOperationKey
  pure { p with voidBankOperationKey }

/-- `MarkRefunded`. -/
def markRefunded (p : Payment) (bankRefundID : GoString) (now : Time) :
    Except DomainError Payment := do
  rejectIf (p.status ≠ .captured) .invalidPaymentStatus
  let bankRefundID ← normalizeRequired bankRefundID .invalidBankRefundID
  rejectIf (now = 0) .invalidPaymentTimestamp
  pure { p with status := .refunded, bankRefundID, updatedAt := now }

/-- `SetRefundBankOperationKey`. -/
def setRefundBankOperationKey (p : Payment) (refundBankOperationKey : GoString) :
    Except DomainError Payment := do
  rejectIf (p.status ≠ .captured) .invalidPaymentStatus
  let refundBankOperationKey ← normalizeRequired refundBankOperationKey .invalidBankOperationKey
  pure { p with refundBankOperationKey }

end Payment

end PaymentGateway
