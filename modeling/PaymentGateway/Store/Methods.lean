/-
# The payment store

The methods of `PaymentStore` that commands and cleanup call, each one transaction
on the two tables. A method returns its answer and the tables it leaves; the
tables are functions from primary keys to rows.

Besides the tables the database keeps a history of the payment rows that were
written, newest first, each with the payment it was written from. No method reads
it.
-/

import PaymentGateway.Store.Idempotency
import Mathlib.Logic.Function.Basic

namespace PaymentGateway

open Lib

/-- One version of a payment row and the payment it was written from. -/
structure Version where
  payment : Payment
  row : PaymentRow
  deriving DecidableEq, Repr

/-- The payment a version belongs to. -/
def Version.id (version : Version) : GoString := version.payment.id

/-- The tables, and the payment rows written so far. -/
structure Db where
  payments : GoString → Option PaymentRow
  records : Operation × GoString → Option IdempotencyRecord
  history : List Version

namespace Db

/-- The tables after the migrations. -/
def empty : Db := ⟨fun _ => none, fun _ => none, []⟩

/-- Set the record of an operation and key. -/
def setRecord (db : Db) (recordKey : Operation × GoString) (slot : Option IdempotencyRecord) :
    Db :=
  { db with records := Function.update db.records recordKey slot }

/-- The tables after a new version of a payment row was written. -/
def put (db : Db) (version : Version) : Db :=
  { db with payments := Function.update db.payments version.payment.id (some version.row),
            history := version :: db.history }

/-- Write a row, unless the constraints of the table refuse it. -/
def writePayment (db : Db) (payment : Payment) (row : PaymentRow) : Except GoError Db := do
  rejectIf (paymentsCheck row = false) .checkViolation
  pure (db.put ⟨payment, row⟩)

/-- `insertPayment`. -/
def insertPayment (db : Db) (payment : Payment) : Except GoError Db := do
  rejectIf (db.payments payment.id ≠ none) .uniqueViolation
  db.writePayment payment (rowOf payment)

/-- `findPaymentByID`. -/
def findPaymentByID (db : Db) (id : GoString) : Except GoError Payment :=
  match db.payments id with
  | none => throw (newPaymentNotFoundError id .noRows)
  | some row => (loadRow id row).mapError fun err => newInternalPaymentError (.domain err)

/-- `findRecoveredPayment`. -/
def findRecoveredPayment (db : Db) (id : GoString) : Except GoError Payment :=
  match db.findPaymentByID id with
  | .ok payment => pure payment
  | .error err =>
    if hasPaymentErrorKind err .notFound then
      throw (newIdempotencyRecoveryError .unrecoverable (newInternalPaymentError err))
    else throw err

/-- The UPDATE of `ensureBankOperationKey`, on the key column that `change` sets. -/
def updateKeyColumn (db : Db) (payment : Payment) (change : PaymentRow → PaymentRow) :
    Except GoError (Payment × Db) :=
  match db.payments payment.id with
  | some row =>
    if row.status = payment.status.text then do
      let db ← (db.writePayment payment (change row)).mapError newInternalPaymentError
      pure (payment, db)
    else throw (newInternalPaymentError
      (.text (ascii "bank operation key update did not affect payment")))
  | none => throw (newInternalPaymentError
      (.text (ascii "bank operation key update did not affect payment")))

/-- `ensureBankOperationKey`. It returns the payment with its key. -/
def ensureBankOperationKey (db : Db) (payment : Payment)
    (request : ExistingPaymentCommandClaimRequest) : Except GoError (Payment × Db) :=
  match request.operation with
  | .retryAuthorization => pure (payment, db)
  | .capturePayment =>
    if payment.captureBankOperationKey ≠ [] then pure (payment, db)
    else do
      let payment ← (payment.setCaptureBankOperationKey request.bankOperationKey).mapError
        fun err => newInternalPaymentError (.domain err)
      db.updateKeyColumn payment fun row =>
        { row with captureBankOperationKey := some payment.captureBankOperationKey }
  | .voidPayment =>
    if payment.voidBankOperationKey ≠ [] then pure (payment, db)
    else do
      let payment ← (payment.setVoidBankOperationKey request.bankOperationKey).mapError
        fun err => newInternalPaymentError (.domain err)
      db.updateKeyColumn payment fun row =>
        { row with voidBankOperationKey := some payment.voidBankOperationKey }
  | .refundPayment =>
    if payment.refundBankOperationKey ≠ [] then pure (payment, db)
    else do
      let payment ← (payment.setRefundBankOperationKey request.bankOperationKey).mapError
        fun err => newInternalPaymentError (.domain err)
      db.updateKeyColumn payment fun row =>
        { row with refundBankOperationKey := some payment.refundBankOperationKey }
  | .authorizePayment =>
    throw (newInternalPaymentError (.text (ascii "unknown bank operation")))

/-- `persistPaymentTransition`. -/
def persistPaymentTransition (db : Db) (payment : Payment) (expectedStatus : PaymentStatus) :
    Except GoError Db :=
  match db.payments payment.id with
  | some row =>
    if row.status = expectedStatus.text then
      (db.writePayment payment (transitionRow row payment)).mapError newInternalPaymentError
    else do
      let _ ← db.findPaymentByID payment.id
      throw (newPaymentStatusConflictError .none)
  | none => do
    let _ ← db.findPaymentByID payment.id
    throw (newPaymentStatusConflictError .none)

/-- The row that the UPDATE of `completeIdempotencyRecord` leaves. -/
def completedRecord (record : IdempotencyRecord) (result : PaymentCommandResult)
    (completedAt : Time) : IdempotencyRecord :=
  { record with status := .completed, failureKind := result.failureKind,
                paymentResult := some result.payment, completedAt := some completedAt }

/-- `completeIdempotencyRecord`. -/
def completeIdempotencyRecord (db : Db) (claim : PaymentCommandClaim)
    (result : PaymentCommandResult) (completedAt : Time) : Except GoError Db := do
  rejectIf (result.failureKind.any (!isTerminalFailureKind ·))
    (newInternalPaymentError (.text (ascii "payment command failure kind is not terminal: " ++
      (result.failureKind.map PaymentErrorKind.text).getD [])))
  match db.records claim.recordKey with
  | some record =>
    if record.requestFingerprint = claim.requestFingerprint ∧ record.status = .inProgress then do
      rejectIf (idempotencyRecordsCheck claim.recordKey
          (completedRecord record result completedAt) = false)
        (newInternalPaymentError .checkViolation)
      pure (db.setRecord claim.recordKey (some (completedRecord record result completedAt)))
    else throw (newPaymentIdempotencyConflictError .none)
  | none => throw (newPaymentIdempotencyConflictError .none)

/-- `validateAcquiredPaymentCommand`. -/
def validateAcquiredPaymentCommand (request : ExistingPaymentCommandClaimRequest)
    (payment : Payment) : Except GoError Unit := do
  rejectIf (payment.status ≠ request.expectedStatus) (newPaymentStatusConflictError .none)
  rejectIf (request.authorizationCardFingerprint ≠ [] ∧
      request.authorizationCardFingerprint ≠ payment.authorizationCardFingerprint)
    (newPaymentStatusConflictError .none)

/-- The key that `validateRecoveredPaymentCommand` looks for. -/
def settlementKey (operation : Operation) (payment : Payment) : GoString :=
  match operation with
  | .capturePayment => payment.captureBankOperationKey
  | .voidPayment => payment.voidBankOperationKey
  | .refundPayment => payment.refundBankOperationKey
  | _ => []

/-- `validateRecoveredPaymentCommand`. -/
def validateRecoveredPaymentCommand (request : ExistingPaymentCommandClaimRequest)
    (recordPaymentID : GoString) (payment : Payment) : Except GoError Unit := do
  rejectIf (request.paymentID ≠ recordPaymentID)
    (newIdempotencyRecoveryError .conflict (newPaymentIdempotencyConflictError .none))
  rejectIf (payment.status ≠ request.expectedStatus)
    (newIdempotencyRecoveryError .conflict (newPaymentStatusConflictError .none))
  rejectIf (request.authorizationCardFingerprint ≠ [] ∧
      request.authorizationCardFingerprint ≠ payment.authorizationCardFingerprint)
    (newIdempotencyRecoveryError .conflict (newPaymentIdempotencyConflictError .none))
  match request.operation with
  | .retryAuthorization => pure ()
  | .authorizePayment =>
    throw (newIdempotencyRecoveryError .unrecoverable
      (newInternalPaymentError (.text (ascii "unknown bank operation"))))
  | operation =>
    rejectIf (settlementKey operation payment = [])
      (newIdempotencyRecoveryError .unrecoverable
        (newInternalPaymentError (.text (ascii "missing recovered bank operation key"))))

/-! ## Methods -/

/-- The answer of a claim method: the claim, or the refusal of a claim whose
transaction committed. -/
abbrev ClaimReply := Except GoError ClaimAnswer

/-- The transaction of `ClaimAuthorizationStart`. -/
def authorizationStartTx (db : Db) (request : AuthorizationStartClaimRequest) :
    Except GoError (ClaimReply × Db) := do
  rejectIf (request.now = 0)
    (newInternalPaymentError (.text (ascii "payment store business time is required")))
  let (outcome, slot) ← (claimIdempotency request.toPaymentCommandClaimRequest request.payment.id
    (db.records request.recordKey)).mapError newInternalPaymentError
  let db := db.setRecord request.recordKey slot
  match outcome with
  | .replayed result => pure (.ok (.replayed result), db)
  | .inProgress => pure (.error (newPaymentIdempotencyInProgressError .none), db)
  | .conflict => pure (.error (newPaymentIdempotencyConflictError .none), db)
  | .acquired =>
    let db ← (db.insertPayment request.payment).mapError newInternalPaymentError
    pure (.ok (.granted (newClaimedPaymentCommand request.toPaymentCommandClaimRequest
      request.payment)), db)
  | .recovered paymentID =>
    let payment ← db.findRecoveredPayment paymentID
    rejectIf (payment.status ≠ request.expectedStatus) (newPaymentStatusConflictError .none)
    pure (.ok (.granted (newRecoveredPaymentCommand request.toPaymentCommandClaimRequest
      payment)), db)

/-- `ClaimAuthorizationStart`. The request always carries a payment. -/
def claimAuthorizationStart (db : Db) (request : AuthorizationStartClaimRequest) :
    ClaimReply × Db :=
  (transact db (db.authorizationStartTx request)).map (·.bind id) id

/-- The transaction of `ClaimExistingPaymentCommand`. -/
def existingPaymentTx (db : Db) (request : ExistingPaymentCommandClaimRequest) :
    Except GoError (ClaimReply × Db) := do
  rejectIf (request.now = 0)
    (newInternalPaymentError (.text (ascii "payment store business time is required")))
  let (outcome, slot) ← (claimIdempotency request.toPaymentCommandClaimRequest request.paymentID
    (db.records request.recordKey)).mapError newInternalPaymentError
  let db := db.setRecord request.recordKey slot
  match outcome with
  | .replayed result => pure (.ok (.replayed result), db)
  | .inProgress => pure (.error (newPaymentIdempotencyInProgressError .none), db)
  | .conflict => pure (.error (newPaymentIdempotencyConflictError .none), db)
  | .acquired =>
    let payment ← db.findPaymentByID request.paymentID
    validateAcquiredPaymentCommand request payment
    let (payment, db) ← db.ensureBankOperationKey payment request
    pure (.ok (.granted (newClaimedPaymentCommand request.toPaymentCommandClaimRequest payment)),
      db)
  | .recovered paymentID =>
    let payment ← db.findRecoveredPayment paymentID
    validateRecoveredPaymentCommand request paymentID payment
    pure (.ok (.granted (newRecoveredPaymentCommand request.toPaymentCommandClaimRequest
      payment)), db)

/-- `ClaimExistingPaymentCommand`. -/
def claimExistingPaymentCommand (db : Db) (request : ExistingPaymentCommandClaimRequest) :
    ClaimReply × Db :=
  (transact db (db.existingPaymentTx request)).map (·.bind id) id

/-- `CompletePaymentCommand`. -/
def completePaymentCommand (db : Db) (claim : PaymentCommandClaim)
    (result : PaymentCommandResult) (completedAt : Time) : Except GoError Unit × Db :=
  transact db do
    rejectIf (completedAt = 0)
      (newInternalPaymentError (.text (ascii "payment store business time is required")))
    let db ← db.persistPaymentTransition claim.payment claim.expectedStatus
    let db ← db.completeIdempotencyRecord claim result completedAt
    pure ((), db)

/-- `ReleasePaymentCommand`. -/
def releasePaymentCommand (db : Db) (claim : PaymentCommandClaim) : Db :=
  match db.records claim.recordKey with
  | some record =>
    if record.status = .inProgress then db.setRecord claim.recordKey none else db
  | none => db

/-- A completed record that the cleanup statement matches. -/
def expiredBefore (completedBefore : ℤ) (record : IdempotencyRecord) : Bool :=
  record.status == .completed &&
    record.completedAt.any fun completedAt : Time => decide ((completedAt : ℤ) < completedBefore)

/-- `CleanupCompletedIdempotencyRecords`. The cutoff may lie before the zero time, and
the method refuses to run with the zero time itself. -/
def cleanupCompletedIdempotencyRecords (db : Db) (completedBefore : ℤ) : Db :=
  if completedBefore = 0 then db
  else { db with records := fun recordKey =>
    (db.records recordKey).filter fun record => !expiredBefore completedBefore record }

end Db

/-- The request of one of the two claim methods. -/
inductive ClaimRequest
  | start (request : AuthorizationStartClaimRequest)
  | existing (request : ExistingPaymentCommandClaimRequest)
  deriving DecidableEq, Repr

/-- The part of a request that both claim methods read. -/
def ClaimRequest.base : ClaimRequest → PaymentCommandClaimRequest
  | start request => request.toPaymentCommandClaimRequest
  | existing request => request.toPaymentCommandClaimRequest

/-- The payment that a new record of a request names. -/
def ClaimRequest.paymentID : ClaimRequest → GoString
  | start request => request.payment.id
  | existing request => request.paymentID

/-- The claim method that a request belongs to. -/
def Db.claim (db : Db) : ClaimRequest → ClaimReply × Db
  | .start request => db.claimAuthorizationStart request
  | .existing request => db.claimExistingPaymentCommand request

end PaymentGateway
