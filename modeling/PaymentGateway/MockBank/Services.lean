/-
# The services of the mock bank

`service` of `mock-bank/bank`: the validators and the four operations. An operation
is a script over the statements of the repositories, which runs in one transaction;
it is committed where the script ends with a transaction and rolled back where it
ends with an error.

The year and the month of an instant are a parameter, as they depend on the zone of
the process.
-/

import PaymentGateway.MockBank.Tables

namespace PaymentGateway.MockBank

open Lib

/-! ## Errors -/

/-- The codes of a `ServiceError` that the operations use. -/
inductive ErrorCode
  | invalidCard
  | invalidCVV
  | invalidAmount
  | cardExpired
  | insufficientFunds
  | authNotFound
  | authExpired
  | authAlreadyUsed
  | alreadyCaptured
  | alreadyVoided
  | alreadyRefunded
  | amountMismatch
  | captureNotFound
  | internalError
  deriving DecidableEq, Repr

def ErrorCode.text : ErrorCode → GoString
  | invalidCard => ascii "invalid_card"
  | invalidCVV => ascii "invalid_cvv"
  | invalidAmount => ascii "invalid_amount"
  | cardExpired => ascii "card_expired"
  | insufficientFunds => ascii "insufficient_funds"
  | authNotFound => ascii "authorization_not_found"
  | authExpired => ascii "authorization_expired"
  | authAlreadyUsed => ascii "authorization_already_used"
  | alreadyCaptured => ascii "already_captured"
  | alreadyVoided => ascii "already_voided"
  | alreadyRefunded => ascii "already_refunded"
  | amountMismatch => ascii "amount_mismatch"
  | captureNotFound => ascii "capture_not_found"
  | internalError => ascii "internal_error"

theorem ErrorCode.text_injective : Function.Injective ErrorCode.text := by
  have hnodup : ([.invalidCard, .invalidCVV, .invalidAmount, .cardExpired, .insufficientFunds,
      .authNotFound, .authExpired, .authAlreadyUsed, .alreadyCaptured, .alreadyVoided,
      .alreadyRefunded, .amountMismatch, .captureNotFound, .internalError].map
      ErrorCode.text).Nodup := by decide +kernel
  intro code other h
  exact List.inj_on_of_nodup_map hnodup (by cases code <;> simp) (by cases other <;> simp) h

/-- An error of an operation: a `ServiceError`, or another error with its text. -/
inductive ServiceFailure
  | service (code : ErrorCode) (message : GoString)
  | other (text : GoString)
  deriving DecidableEq, Repr

/-- What an operation returns. -/
abbrev Result := Except ServiceFailure Transaction

/-- A transaction is committed where its script ends without an error. -/
def commits : Result → Bool
  | .ok _ => true
  | .error _ => false

abbrev BankScript := Script Call Reply Result

/-! The calls, with the types of their replies. -/

abbrev now : Script Call Reply Time := .ask Call.now

abbrev newID : Script Call Reply UUID := .ask Call.newID

abbrev findByAccountNumberForUpdate (accountNumber : GoString) :
    Script Call Reply (Except GoString Account) :=
  .ask (Call.findByAccountNumberForUpdate accountNumber)

abbrev adjustBalances (accountID : UUID) (balanceDelta availableBalanceDelta : ℤ) :
    Script Call Reply (Except GoString Unit) :=
  .ask (Call.adjustBalances accountID balanceDelta availableBalanceDelta)

abbrev create (t : Transaction) : Script Call Reply (Except CreateError Unit) :=
  .ask (Call.create t)

abbrev findByIDForUpdate (id : UUID) : Script Call Reply (Except GoString Transaction) :=
  .ask (Call.findByIDForUpdate id)

abbrev findByReferenceID (refID : UUID) (type : TransactionType) :
    Script Call Reply (Except GoString (Option Transaction)) :=
  .ask (Call.findByReferenceID refID type)

abbrev updateStatus (id : UUID) (status : TransactionStatus) :
    Script Call Reply (Except GoString Unit) :=
  .ask (Call.updateStatus id status)

/-- `ErrCode...` with its message. -/
def refuse (code : ErrorCode) (message : String) : BankScript :=
  .done (.error (.service code (ascii message)))

/-- An internal error with the text of its cause. -/
def internal (message : String) (cause : GoString) : BankScript :=
  .done (.error (.service .internalError (ascii message ++ cause)))

/-! ## Validators -/

/-- The digits of a text, as the loop of `ValidateLuhn` collects them. -/
def luhnDigits (cardNumber : GoString) : List ℕ :=
  (rangeRunes cardNumber).filterMap fun visited =>
    if 0x30 ≤ visited.2 ∧ visited.2 ≤ 0x39 then some (visited.2 - 0x30) else none

/-- What a digit adds to the sum. -/
def luhnValue (isSecond : Bool) (digit : ℕ) : ℕ :=
  if isSecond then if digit * 2 > 9 then digit * 2 - 9 else digit * 2 else digit

/-- The loop of `ValidateLuhn`, over the digits from the last one on. -/
def luhnSum : Bool → List ℕ → ℕ
  | _, [] => 0
  | isSecond, digit :: digits => luhnValue isSecond digit + luhnSum (!isSecond) digits

/-- `ValidateLuhn`. -/
def validateLuhn (cardNumber : GoString) : Except GoString Unit := do
  rejectIf ((luhnDigits cardNumber).length < 13 ∨ 19 < (luhnDigits cardNumber).length)
    (ascii "invalid card number length: must be 13-19 digits")
  rejectIf (luhnSum false (luhnDigits cardNumber).reverse % 10 ≠ 0)
    (ascii "invalid card number: failed Luhn check")

/-- `ValidateCVV`. -/
def validateCVV (cvv : GoString) : Except GoString Unit := do
  rejectIf (cvv.length < 3 ∨ 4 < cvv.length) (ascii "invalid CVV: must be 3 or 4 digits")
  rejectIf ((rangeRunes cvv).any fun visited => visited.2 < 0x30 ∨ 0x39 < visited.2)
    (ascii "invalid CVV: must contain only digits")

/-- `ValidateAmount`. -/
def validateAmount (amount : ℤ) : Except GoString Unit :=
  rejectIf (amount ≤ 0) (ascii "invalid amount: must be greater than 0")

/-- `validateAuthorizationRequest`. -/
def validateAuthorizationRequest (cardNumber cvv : GoString) (amount : ℤ) :
    Except ServiceFailure Unit := do
  (validateLuhn cardNumber).mapError (.service .invalidCard)
  (validateCVV cvv).mapError (.service .invalidCVV)
  (validateAmount amount).mapError (.service .invalidAmount)

/-! ## Operations -/

/-- What the operations take from the configuration and from the zone of the process. -/
structure Bank where
  authExpiryHours : ℤ
  calendar : Time → ℤ × ℤ

namespace Bank

/-- `ValidateExpiry` from the reading of the clock on. -/
def expired (bank : Bank) (expiryMonth expiryYear : ℤ) (now : Time) : Option GoString :=
  if expiryYear < (bank.calendar now).1 then
    some (ascii "card expired: year " ++ formatInt expiryYear ++ ascii " is in the past")
  else if expiryYear = (bank.calendar now).1 ∧ expiryMonth < (bank.calendar now).2 then
    some (ascii "card expired: " ++ (if expiryMonth < 10 then [0x30] else []) ++
      formatInt expiryMonth ++ ascii "/" ++ formatInt expiryYear)
  else none

/-- `time.Duration(s.authExpiryHours) * time.Hour`, which wraps around. -/
def authExpiry (bank : Bank) : Duration :=
  Int.bmod (bank.authExpiryHours * (60 * 60 * 1000000000)) (2 ^ 64)

/-- When an authorization expires. -/
def expiresAt (bank : Bank) (now : Time) : Time := (now + bank.authExpiry).toNat

/-- `performAuthorization` from the balance check on. -/
def hold (bank : Bank) (account : Account) (amount : ℤ) : BankScript := do
  if account.availableBalanceCents < amount then
    refuse .insufficientFunds "insufficient funds"
  else
    let authID ← newID
    let expiryBase ← now
    let createdAt ← now
    let authTx : Transaction := ⟨authID, account.id, .authHold, amount, ascii "USD", none, .active,
      some (bank.expiresAt expiryBase), createdAt⟩
    match ← create authTx with
    | .error err => internal "failed to create authorization: " err.text
    | .ok () =>
      match ← adjustBalances account.id 0 (-amount) with
      | .error err => internal "failed to adjust balance: " err
      | .ok () => return .ok authTx

/-- `performAuthorization`. -/
def performAuthorization (bank : Bank) (cardNumber cvv : GoString) (amount : ℤ) : BankScript := do
  match ← findByAccountNumberForUpdate cardNumber with
  | .error _ => refuse .invalidCard "card not found or invalid"
  | .ok account =>
    if account.cvv ≠ cvv then refuse .invalidCVV "CVV does not match"
    else if account.expiryMonth < 1 ∨ 12 < account.expiryMonth then
      refuse .cardExpired "invalid month: must be between 1 and 12"
    else
      let instant ← now
      match bank.expired account.expiryMonth account.expiryYear instant with
      | some message => return .error (.service .cardExpired message)
      | none => bank.hold account amount

/-- `Authorize`. -/
def authorize (bank : Bank) (cardNumber cvv : GoString) (amount : ℤ) : BankScript :=
  match validateAuthorizationRequest cardNumber cvv amount with
  | .error failure => .done (.error failure)
  | .ok () => bank.performAuthorization cardNumber cvv amount

end Bank

/-- The row of a settlement, `performCapture`, `performVoid` or `performRefund`: of a type,
with the account, the amount and the currency of the row it refers to, which was found under
its id. -/
def Transaction.settle (t : Transaction) (id : UUID) (type : TransactionType) (createdAt : Time) :
    Transaction :=
  ⟨id, t.accountID, type, t.amountCents, t.currency, some t.id, .completed, none, createdAt⟩

theorem Transaction.indexKey_settle (t : Transaction) (id : UUID) (type : TransactionType)
    (createdAt : Time) (h : type ≠ .authHold) :
    (t.settle id type createdAt).indexKey = some (t.id, type) := by
  cases type with
  | authHold => exact absurd rfl h
  | capture | void | refund => rfl

/-- `performCapture` from the creation of the row on. -/
def recordCapture (authTxn : Transaction) : BankScript := do
  let captureID ← newID
  let capturedAt ← now
  let captureTxn := authTxn.settle captureID .capture capturedAt
  match ← create captureTxn with
  | .error .duplicate => refuse .alreadyCaptured "authorization has already been captured"
  | .error (.failed err) => return .error (.other (ascii "failed to create capture: " ++ err))
  | .ok () =>
    match ← updateStatus authTxn.id .completed with
    | .error err => internal "failed to update authorization: " err
    | .ok () =>
      match ← adjustBalances authTxn.accountID (-authTxn.amountCents) 0 with
      | .error err => internal "failed to adjust balance: " err
      | .ok () => return .ok captureTxn

/-- `performCapture` from the check of the expiry on. The amounts are equal where the row is
created, so `amount` does not occur from there on. -/
def captureActive (authTxn : Transaction) (amount : ℤ) : BankScript := do
  match authTxn.expiresAt with
  | some expiresAt =>
    let instant ← now
    if expiresAt < instant then refuse .authExpired "authorization has expired"
    else if amount ≠ authTxn.amountCents then
      refuse .amountMismatch "capture amount does not match authorized amount"
    else recordCapture authTxn
  | none =>
    if amount ≠ authTxn.amountCents then
      refuse .amountMismatch "capture amount does not match authorized amount"
    else recordCapture authTxn

/-- `performCapture`. -/
def performCapture (authorizationID : UUID) (amount : ℤ) : BankScript := do
  match ← findByIDForUpdate authorizationID with
  | .error _ => refuse .authNotFound "authorization not found"
  | .ok authTxn =>
    if authTxn.type ≠ .authHold then refuse .authNotFound "authorization not found"
    else if authTxn.status ≠ .active then
      refuse .authAlreadyUsed "authorization has already been completed or cancelled"
    else captureActive authTxn amount

/-- `performVoid` from the creation of the row on. -/
def recordVoid (authTxn : Transaction) : BankScript := do
  let voidID ← newID
  let voidedAt ← now
  let voidTxn := authTxn.settle voidID .void voidedAt
  match ← create voidTxn with
  | .error .duplicate => refuse .alreadyVoided "authorization has already been voided"
  | .error (.failed err) => return .error (.other (ascii "failed to create void: " ++ err))
  | .ok () =>
    match ← updateStatus authTxn.id .completed with
    | .error err => internal "failed to update authorization: " err
    | .ok () =>
      match ← adjustBalances authTxn.accountID 0 authTxn.amountCents with
      | .error err => internal "failed to adjust balance: " err
      | .ok () => return .ok voidTxn

/-- `performVoid`. -/
def performVoid (authorizationID : UUID) : BankScript := do
  match ← findByIDForUpdate authorizationID with
  | .error _ => refuse .authNotFound "authorization not found"
  | .ok authTxn =>
    if authTxn.type ≠ .authHold then refuse .authNotFound "authorization not found"
    else if authTxn.status ≠ .active then
      refuse .authAlreadyUsed "authorization has already been completed or cancelled"
    else
      match ← findByReferenceID authorizationID .capture with
      | .error err => internal "failed to check existing capture: " err
      | .ok (some _) =>
        refuse .alreadyCaptured "cannot void an authorization that has been captured"
      | .ok none => recordVoid authTxn

/-- `performRefund` from the creation of the row on. -/
def recordRefund (captureTxn : Transaction) : BankScript := do
  let refundID ← newID
  let refundedAt ← now
  let refundTxn := captureTxn.settle refundID .refund refundedAt
  match ← create refundTxn with
  | .error .duplicate => refuse .alreadyRefunded "capture has already been refunded"
  | .error (.failed err) => return .error (.other (ascii "failed to create refund: " ++ err))
  | .ok () =>
    match ← adjustBalances captureTxn.accountID captureTxn.amountCents
        captureTxn.amountCents with
    | .error err => internal "failed to adjust balance: " err
    | .ok () => return .ok refundTxn

/-- `performRefund`. -/
def performRefund (captureID : UUID) (amount : ℤ) : BankScript := do
  match ← findByIDForUpdate captureID with
  | .error _ => refuse .captureNotFound "capture not found"
  | .ok captureTxn =>
    if captureTxn.type ≠ .capture then refuse .captureNotFound "capture not found"
    else if captureTxn.status ≠ .completed then
      refuse .captureNotFound "capture is not in completed status"
    else if amount ≠ captureTxn.amountCents then
      .done (.error (.service .amountMismatch (ascii "refund amount (" ++ formatInt amount ++
        ascii ") must equal capture amount (" ++ formatInt captureTxn.amountCents ++ ascii ")")))
    else recordRefund captureTxn

/-- The requests that the services execute. -/
inductive ServiceRequest
  | authorize (cardNumber cvv : GoString) (amount : ℤ)
  | capture (authorizationID : UUID) (amount : ℤ)
  | void (authorizationID : UUID)
  | refund (captureID : UUID) (amount : ℤ)
  deriving DecidableEq, Repr

/-- The script of a request. -/
def Bank.script (bank : Bank) : ServiceRequest → BankScript
  | .authorize cardNumber cvv amount => bank.authorize cardNumber cvv amount
  | .capture authorizationID amount => performCapture authorizationID amount
  | .void authorizationID => performVoid authorizationID
  | .refund captureID amount => performRefund captureID amount

end PaymentGateway.MockBank
