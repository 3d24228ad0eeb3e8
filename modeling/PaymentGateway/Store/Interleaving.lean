/-
# Claims, statement by statement

`claimIdempotency` runs up to three statements in a transaction at READ COMMITTED, where
each statement sees what was committed before it. Other transactions commit in between:
claims with the same operation and key, completions, releases and cleanups.

A statement that writes the row locks it until its transaction ends. A statement of
another transaction that would write the row waits for that; one that does not match the
row, and a SELECT, goes on with the committed row. `claimIdempotency` returns as soon as
one of its statements writes, and the rest of its transaction commits or rolls back
later. Postgres also lets an INSERT .. ON CONFLICT wait while the row it conflicts with
has an update that is not committed; here it goes on with the committed row, so there
are more schedules than the database has.

Every claim carries the rows that were committed from its first statement to its last, so
that what it returns can be compared with the decision on each of them.
-/

import PaymentGateway.Lib.Run
import PaymentGateway.Store.Specs

namespace PaymentGateway

open Lib

/-! ## One row -/

/-- The statements of `claimIdempotency`. -/
inductive ClaimStatement
  | update
  | insert
  | select
  deriving DecidableEq, Repr

/-- Where a run of `claimIdempotency` stands: before a statement, or returned after one, with
the row that it wrote. -/
inductive ClaimStage
  | before (statement : ClaimStatement)
  | returned (statement : ClaimStatement) (reply : Except GoError IdempotencyClaimOutcome)
      (written : Option IdempotencyRecord)
  deriving DecidableEq

/-- A run of `claimIdempotency`. `window` has the rows committed from its first statement to
its last, the newest first. -/
structure ClaimRun where
  request : PaymentCommandClaimRequest
  paymentID : GoString
  stage : ClaimStage
  window : List (Option IdempotencyRecord)
  deriving DecidableEq

/-- The row of one operation and key: what is committed, the claim that has written it in an
open transaction, and all claims. -/
structure RowState where
  committed : Option IdempotencyRecord
  lock : Option (ℕ × IdempotencyRecord)
  claims : ℕ → Option ClaimRun

namespace ClaimRun

/-- A run between its first statement and its last sees what is committed. -/
def observe (committed : Option IdempotencyRecord) (run : ClaimRun) : ClaimRun :=
  match run.stage with
  | .before .update => run
  | .before _ => { run with window := committed :: run.window }
  | .returned _ _ _ => run

/-- What a run has written. -/
def written (run : ClaimRun) : Option IdempotencyRecord :=
  match run.stage with
  | .before _ => none
  | .returned _ _ written => written

/-- The run at another stage. -/
def goto (run : ClaimRun) (stage : ClaimStage) : ClaimRun := { run with stage }

/-- The next statement of a run, on the committed row. -/
def next (committed : Option IdempotencyRecord) (run : ClaimRun) : ClaimRun :=
  match run.stage with
  | .before .update =>
    let run := { run with window := [committed] }
    match recoverStatement run.request committed with
    | some record =>
      run.goto (.returned .update (.ok (.recovered (nullStringValue record.paymentID)))
        (some record))
    | none => run.goto (.before .insert)
  | .before .insert =>
    match insertStatement run.request run.paymentID committed with
    | some record =>
      if idempotencyRecordsCheck run.request.recordKey record then
        run.goto (.returned .insert (.ok .acquired) (some record))
      else run.goto (.returned .insert (.error .checkViolation) none)
    | none => run.goto (.before .select)
  | .before .select => run.goto (.returned .select (selectStatement run.request committed) none)
  | .returned _ _ _ => run

end ClaimRun

namespace RowState

def initial : RowState := ⟨none, none, fun _ => none⟩

/-- Another row is committed. -/
def publish (s : RowState) (committed : Option IdempotencyRecord) : RowState :=
  { s with committed, claims := fun id => (s.claims id).map (·.observe committed) }

/-- A run goes on to another stage. -/
def goto (s : RowState) (id : ℕ) (run : ClaimRun) : RowState :=
  { s with claims := Function.update s.claims id (some run) }

@[simp] theorem claims_goto_self (s : RowState) (id : ℕ) (run : ClaimRun) :
    (s.goto id run).claims id = some run :=
  Function.update_self ..

theorem claims_goto_of_ne (s : RowState) {id other : ℕ} (run : ClaimRun) (h : id ≠ other) :
    (s.goto other run).claims id = s.claims id :=
  Function.update_of_ne h ..

end RowState

/-- The row that a completion leaves. -/
def completeSlot (recordKey : Operation × GoString) (fingerprint : GoString)
    (result : PaymentCommandResult) (completedAt : Time) :
    Option IdempotencyRecord → Option IdempotencyRecord
  | some record =>
    if (∀ kind ∈ result.failureKind, isTerminalFailureKind kind = true) ∧
        record.requestFingerprint = fingerprint ∧ record.status = .inProgress ∧
        idempotencyRecordsCheck recordKey (Db.completedRecord record result completedAt) = true
    then some (Db.completedRecord record result completedAt) else some record
  | none => none

/-- The row that a release leaves. -/
def releaseSlot (slot : Option IdempotencyRecord) : Option IdempotencyRecord :=
  slot.filter fun record => record.status = .completed

/-- The row that a cleanup leaves. -/
def cleanupSlot (completedBefore : ℤ) (slot : Option IdempotencyRecord) :
    Option IdempotencyRecord :=
  if completedBefore = 0 then slot
  else slot.filter fun record => !Db.expiredBefore completedBefore record

/-! ## Schedules -/

inductive RowEvent
  | start (id : ℕ) (request : PaymentCommandClaimRequest) (paymentID : GoString)
  | statement (id : ℕ)
  | commit (id : ℕ)
  | rollback (id : ℕ)
  | complete (fingerprint : GoString) (result : PaymentCommandResult) (completedAt : Time)
  | release
  | cleanup (completedBefore : ℤ)

namespace RowState

/-- The next statement of a claim, unless it has to wait for the lock. -/
def statement (s : RowState) (id : ℕ) (run : ClaimRun) : Option RowState :=
  let run' := run.next s.committed
  match run'.written, s.lock with
  | none, _ => some (s.goto id run')
  | some record, none => some { s.goto id run' with lock := some (id, record) }
  | some _, some _ => none

/-- A transaction other than a claim writes the row, unless it leaves it as it is or has to
wait for the lock. -/
def overwrite (s : RowState) (slot : Option IdempotencyRecord) : Option RowState :=
  if slot = s.committed then some s
  else if s.lock.isSome then none
  else some (s.publish slot)

/-- One step of a schedule. -/
def step (recordKey : Operation × GoString) (s : RowState) : RowEvent → Option RowState
  | .start id request paymentID =>
    if (s.claims id).isNone ∧ request.recordKey = recordKey then
      some (s.goto id ⟨request, paymentID, .before .update, []⟩)
    else none
  | .statement id =>
    match s.claims id with
    | some run =>
      match run.stage with
      | .before _ => s.statement id run
      | .returned _ _ _ => none
    | none => none
  | .commit id =>
    match s.lock with
    | some (owner, record) =>
      if owner = id then some { s.publish (some record) with lock := none } else none
    | none => none
  | .rollback id =>
    match s.lock with
    | some (owner, _) => if owner = id then some { s with lock := none } else none
    | none => none
  | .complete fingerprint result completedAt =>
    s.overwrite (completeSlot recordKey fingerprint result completedAt s.committed)
  | .release => s.overwrite (releaseSlot s.committed)
  | .cleanup completedBefore => s.overwrite (cleanupSlot completedBefore s.committed)

end RowState

/-! ## The transactions of the store

The rows that the methods of the store leave are the ones of a schedule. -/

theorem Db.releasePaymentCommand_slot (db : Db) (claim : PaymentCommandClaim) :
    (db.releasePaymentCommand claim).records claim.recordKey =
      releaseSlot (db.records claim.recordKey) := by
  rw [Db.releasePaymentCommand_records, if_pos rfl, releaseSlot]

theorem Db.completeIdempotencyRecord_slot {db db' : Db} {claim : PaymentCommandClaim}
    {result : PaymentCommandResult} {completedAt : Time}
    (h : db.completeIdempotencyRecord claim result completedAt = .ok db') :
    db'.records claim.recordKey = completeSlot claim.recordKey claim.requestFingerprint result
      completedAt (db.records claim.recordKey) := by
  obtain ⟨hterminal, record, hslot, hfingerprint, hopen, hcheck, rfl⟩ :=
    Db.completeIdempotencyRecord_eq_ok.mp h
  rw [Db.setRecord_records_self, hslot, completeSlot,
    if_pos ⟨hterminal, hfingerprint, hopen, hcheck⟩]

theorem Db.cleanup_slot (db : Db) (completedBefore : ℤ) (recordKey : Operation × GoString) :
    (db.cleanupCompletedIdempotencyRecords completedBefore).records recordKey =
      cleanupSlot completedBefore (db.records recordKey) := by
  unfold Db.cleanupCompletedIdempotencyRecords cleanupSlot
  split_ifs <;> rfl

/-- Without anything in between, the statements of a claim return what `claimIdempotency`
returns, and write the row that it leaves. -/
theorem claimIdempotency_eq_next {request : PaymentCommandClaimRequest} {paymentID : GoString}
    {slot slot' : Option IdempotencyRecord} {outcome : IdempotencyClaimOutcome}
    (h : claimIdempotency request paymentID slot = .ok (outcome, slot')) :
    ∃ statement written, slot' = written.or slot ∧
      ((((⟨request, paymentID, .before .update, []⟩ : ClaimRun).next slot).next slot).next
        slot).stage = .returned statement (.ok outcome) written := by
  unfold claimIdempotency at h
  split at h
  · next record hrecover =>
    cases h
    exact ⟨.update, some record, rfl, by simp only [ClaimRun.next, ClaimRun.goto, hrecover]⟩
  · next hrecover =>
    split at h
    · next record hinsert =>
      obtain ⟨hvalid, h⟩ := check_bind_eq_ok.mp h
      cases h
      rw [rejectIf_eq_ok, Bool.not_eq_false] at hvalid
      exact ⟨.insert, some record, rfl,
        by simp only [ClaimRun.next, ClaimRun.goto, hrecover, hinsert, hvalid, if_true]⟩
    · next hinsert =>
      obtain ⟨_, hselect, h⟩ := bind_eq_ok.mp h
      cases h
      exact ⟨.select, none, rfl,
        by simp only [ClaimRun.next, ClaimRun.goto, hrecover, hinsert, hselect]⟩

end PaymentGateway
