/-
# Idempotency records

The idempotency_records table and the three statements of `claimIdempotency`. A
statement addresses at most the one row with its operation and key, so it is a
function of that row, or of its absence.

Run in one transaction, the three statements decide between five outcomes. The
decision is the one stated by `ClaimDecision`.
-/

import PaymentGateway.App.Claims
import PaymentGateway.Store.Row

namespace PaymentGateway

open Lib

/-- `idempotencyRecordStatus`. -/
inductive RecordStatus
  | inProgress
  | completed
  deriving DecidableEq, Repr

/-- A row of the idempotency_records table, apart from its primary key and the
creation time that nothing reads. -/
structure IdempotencyRecord where
  requestFingerprint : GoString
  paymentID : Option GoString
  status : RecordStatus
  failureKind : Option PaymentErrorKind
  paymentResult : Option PaymentResult
  claimedAt : Time
  completedAt : Option Time
  deriving DecidableEq, Repr

/-- The CHECK constraints of the idempotency_records table. -/
def idempotencyRecordsCheck (recordKey : Operation × GoString) (record : IdempotencyRecord) :
    Bool :=
  notBlank recordKey.1.text && notBlank recordKey.2 && notBlank record.requestFingerprint &&
  (record.paymentID.isNone || record.paymentID.any (matchesPattern paymentIDPattern)) &&
  (record.failureKind.isNone || record.failureKind == some .authorizationExpired) &&
  ((record.status == .inProgress && record.failureKind.isNone && record.paymentResult.isNone &&
      record.completedAt.isNone) ||
    (record.status == .completed && record.paymentResult.isSome && record.completedAt.isSome))

/-! ## Statements -/

/-- A record that the recovery statement matches. -/
def stuckFor (request : PaymentCommandClaimRequest) (record : IdempotencyRecord) : Prop :=
  record.requestFingerprint = request.requestFingerprint ∧ record.status = .inProgress ∧
    (record.claimedAt : ℤ) ≤ request.now - request.claimStuckAfter

instance (request : PaymentCommandClaimRequest) (record : IdempotencyRecord) :
    Decidable (stuckFor request record) :=
  inferInstanceAs (Decidable (_ ∧ _))

/-- The UPDATE of `recoverIdempotencyClaim`: the row it returns, if it matches one. -/
def recoverStatement (request : PaymentCommandClaimRequest) :
    Option IdempotencyRecord → Option IdempotencyRecord
  | some record =>
    if stuckFor request record then some { record with claimedAt := request.now } else none
  | none => none

/-- The row that the INSERT of `claimIdempotency` adds. -/
def newRecord (request : PaymentCommandClaimRequest) (paymentID : GoString) :
    IdempotencyRecord where
  requestFingerprint := request.requestFingerprint
  paymentID := nullableString paymentID
  status := .inProgress
  failureKind := none
  paymentResult := none
  claimedAt := request.now
  completedAt := none

/-- The INSERT of `claimIdempotency`, which does nothing on a conflict: the row it
adds, if it adds one. -/
def insertStatement (request : PaymentCommandClaimRequest) (paymentID : GoString) :
    Option IdempotencyRecord → Option IdempotencyRecord
  | some _ => none
  | none => some (newRecord request paymentID)

/-- The outcomes of `claimIdempotency`, with the fields of the returned record that
its callers read. -/
inductive IdempotencyClaimOutcome
  | acquired
  | recovered (paymentID : GoString)
  | replayed (result : PaymentCommandResult)
  | inProgress
  | conflict
  deriving DecidableEq, Repr

/-- What `selectIdempotencyRecord` makes of a completed row. -/
def storedResult (record : IdempotencyRecord) : Except GoError PaymentCommandResult :=
  match record.paymentResult with
  | none => throw (.text (ascii "unexpected end of JSON input"))
  | some payment =>
    match record.failureKind with
    | none => pure ⟨payment, none⟩
    | some kind => do
      rejectIf (isTerminalFailureKind kind = false)
        (.text (ascii "stored idempotency failure kind is not terminal: " ++ kind.text))
      pure ⟨payment, some kind⟩

/-- The SELECT of `selectIdempotencyRecord` and the comparison that follows it. The
row is interpreted before its fingerprint is compared. -/
def selectStatement (request : PaymentCommandClaimRequest) :
    Option IdempotencyRecord → Except GoError IdempotencyClaimOutcome
  | none => throw .noRows
  | some record =>
    match record.status with
    | .inProgress =>
      if record.requestFingerprint ≠ request.requestFingerprint then pure .conflict
      else pure .inProgress
    | .completed => do
      let result ← storedResult record
      if record.requestFingerprint ≠ request.requestFingerprint then pure .conflict
      else pure (.replayed result)

/-- `claimIdempotency` within one transaction, from the row of its operation and key
to the outcome and the row it leaves. -/
def claimIdempotency (request : PaymentCommandClaimRequest) (paymentID : GoString)
    (slot : Option IdempotencyRecord) :
    Except GoError (IdempotencyClaimOutcome × Option IdempotencyRecord) :=
  match recoverStatement request slot with
  | some record => pure (.recovered (nullStringValue record.paymentID), some record)
  | none =>
    match insertStatement request paymentID slot with
    | some record => do
      rejectIf (idempotencyRecordsCheck request.recordKey record = false) .checkViolation
      pure (.acquired, some record)
    | none => do
      let outcome ← selectStatement request slot
      pure (outcome, slot)

/-! ## The decision -/

/-- The claim decision on a row, and the row it leaves. -/
inductive ClaimDecision (request : PaymentCommandClaimRequest) (paymentID : GoString) :
    Option IdempotencyRecord → IdempotencyClaimOutcome → Option IdempotencyRecord → Prop
  | acquired (valid : idempotencyRecordsCheck request.recordKey (newRecord request paymentID)) :
      ClaimDecision request paymentID none .acquired (some (newRecord request paymentID))
  | recovered (record : IdempotencyRecord) (stuck : stuckFor request record) :
      ClaimDecision request paymentID (some record)
        (.recovered (nullStringValue record.paymentID))
        (some { record with claimedAt := request.now })
  | replayed (record : IdempotencyRecord) (result : PaymentCommandResult)
      (fingerprint : record.requestFingerprint = request.requestFingerprint)
      (completed : record.status = .completed) (stored : storedResult record = .ok result) :
      ClaimDecision request paymentID (some record) (.replayed result) (some record)
  | inProgress (record : IdempotencyRecord)
      (fingerprint : record.requestFingerprint = request.requestFingerprint)
      (status : record.status = .inProgress) (fresh : ¬ stuckFor request record) :
      ClaimDecision request paymentID (some record) .inProgress (some record)
  | conflict (record : IdempotencyRecord)
      (fingerprint : record.requestFingerprint ≠ request.requestFingerprint)
      (readable : record.status = .completed → ∃ result, storedResult record = .ok result) :
      ClaimDecision request paymentID (some record) .conflict (some record)

/-- The three statements implement the decision. -/
theorem claimIdempotency_eq_ok {request : PaymentCommandClaimRequest} {paymentID : GoString}
    {slot slot' : Option IdempotencyRecord} {outcome : IdempotencyClaimOutcome} :
    claimIdempotency request paymentID slot = .ok (outcome, slot') ↔
      ClaimDecision request paymentID slot outcome slot' := by
  cases slot with
  | none =>
    -- The UPDATE matches nothing and the INSERT goes through, if the constraints accept the row.
    simp only [claimIdempotency, recoverStatement, insertStatement, check_bind_eq_ok,
      rejectIf_eq_ok, pure_eq_ok_iff, Bool.not_eq_false, Prod.mk.injEq]
    constructor
    · rintro ⟨hvalid, rfl, rfl⟩
      exact .acquired hvalid
    · rintro ⟨hvalid⟩
      exact ⟨hvalid, rfl, rfl⟩
  | some record =>
    by_cases hstuck : stuckFor request record
    · -- The UPDATE takes the row over, so it is none of the other decisions.
      simp only [claimIdempotency, recoverStatement, if_pos hstuck, pure_eq_ok_iff,
        Prod.mk.injEq]
      constructor
      · rintro ⟨rfl, rfl⟩
        exact .recovered record hstuck
      · intro h
        cases h with
        | recovered _ _ => exact ⟨rfl, rfl⟩
        | replayed _ result hfp hcompleted _ => cases hstuck.2.1.symm.trans hcompleted
        | inProgress _ _ _ hfresh => exact absurd hstuck hfresh
        | conflict _ hfp _ => exact absurd hstuck.1 hfp
    · -- The INSERT conflicts, and the SELECT judges the row.
      simp only [claimIdempotency, recoverStatement, if_neg hstuck, insertStatement, bind_eq_ok,
        pure_eq_ok_iff, Prod.mk.injEq, selectStatement]
      constructor
      · rintro ⟨_, hselect, rfl, rfl⟩
        cases hstatus : record.status with
        | inProgress =>
          rw [hstatus] at hselect
          dsimp only at hselect
          split_ifs at hselect with hfp
          · cases hselect
            exact .conflict record hfp fun h => by cases hstatus.symm.trans h
          · cases hselect
            exact .inProgress record (not_not.mp hfp) hstatus hstuck
        | completed =>
          rw [hstatus] at hselect
          obtain ⟨result, hresult, hselect⟩ := bind_eq_ok.mp hselect
          split_ifs at hselect with hfp
          · cases hselect
            exact .conflict record hfp fun _ => ⟨result, hresult⟩
          · cases hselect
            exact .replayed record result (not_not.mp hfp) hstatus hresult
      · intro h
        cases h with
        | recovered _ h => exact absurd h hstuck
        | replayed _ result hfp hcompleted hresult =>
          exact ⟨_, by simp [hcompleted, hresult, hfp], rfl, rfl⟩
        | inProgress _ hfp hstatus _ => exact ⟨_, by simp [hstatus, hfp], rfl, rfl⟩
        | conflict _ hfp hreadable =>
          refine ⟨_, ?_, rfl, rfl⟩
          cases hstatus : record.status with
          | inProgress => simp [hfp]
          | completed =>
            obtain ⟨result, hresult⟩ := hreadable hstatus
            simp [hresult, hfp]

end PaymentGateway
