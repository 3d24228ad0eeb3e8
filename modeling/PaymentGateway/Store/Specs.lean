/-
# What the store methods do

One specification for each method, read off its transaction. A claim is granted in
one of four ways; every other answer of a claim method, and every error of
`CompletePaymentCommand`, leaves both tables as they were.
-/

import PaymentGateway.Store.Methods

namespace PaymentGateway

open Lib

namespace Db

/-! ## Frame facts -/

@[simp] theorem setRecord_payments (db : Db) (recordKey : Operation × GoString)
    (slot : Option IdempotencyRecord) : (db.setRecord recordKey slot).payments = db.payments := rfl

@[simp] theorem setRecord_history (db : Db) (recordKey : Operation × GoString)
    (slot : Option IdempotencyRecord) : (db.setRecord recordKey slot).history = db.history := rfl

@[simp] theorem setRecord_records_self (db : Db) (recordKey : Operation × GoString)
    (slot : Option IdempotencyRecord) : (db.setRecord recordKey slot).records recordKey = slot :=
  Function.update_self ..

theorem setRecord_records_of_ne (db : Db) {recordKey other : Operation × GoString}
    (slot : Option IdempotencyRecord) (h : other ≠ recordKey) :
    (db.setRecord recordKey slot).records other = db.records other :=
  Function.update_of_ne h ..

@[simp] theorem setRecord_same (db : Db) (recordKey : Operation × GoString) :
    db.setRecord recordKey (db.records recordKey) = db := by
  simp [setRecord]

@[simp] theorem findPaymentByID_setRecord (db : Db) (recordKey : Operation × GoString)
    (slot : Option IdempotencyRecord) (id : GoString) :
    (db.setRecord recordKey slot).findPaymentByID id = db.findPaymentByID id := rfl

/-- A payment is found under the id that was asked for. -/
theorem id_of_findPaymentByID {db : Db} {id : GoString} {payment : Payment}
    (found : db.findPaymentByID id = .ok payment) : payment.id = id ∧ id ≠ [] := by
  unfold findPaymentByID at found
  split at found
  · exact absurd found throw_ne_ok
  · obtain ⟨hvalid, hid⟩ := id_of_loadPayment (mapError_eq_ok.mp found)
    refine ⟨hid, ?_⟩
    rintro rfl
    cases hvalid

@[simp] theorem put_records (db : Db) (version : Version) : (db.put version).records = db.records :=
  rfl

@[simp] theorem put_history (db : Db) (version : Version) :
    (db.put version).history = version :: db.history := rfl

@[simp] theorem put_payments_self (db : Db) (version : Version) :
    (db.put version).payments version.payment.id = some version.row :=
  Function.update_self ..

theorem put_payments_of_ne (db : Db) (version : Version) {id : GoString}
    (h : id ≠ version.payment.id) : (db.put version).payments id = db.payments id :=
  Function.update_of_ne h ..

@[simp] theorem writePayment_eq_ok {db db' : Db} {payment : Payment} {row : PaymentRow} :
    db.writePayment payment row = .ok db' ↔
      paymentsCheck row = true ∧ db.put ⟨payment, row⟩ = db' := by
  simp [writePayment]

theorem insertPayment_eq_ok {db db' : Db} {payment : Payment} :
    db.insertPayment payment = .ok db' ↔
      db.payments payment.id = none ∧ paymentsCheck (rowOf payment) = true ∧
        db.put ⟨payment, rowOf payment⟩ = db' := by
  simp [insertPayment]

@[simp] theorem findRecoveredPayment_eq_ok {db : Db} {id : GoString} {payment : Payment} :
    db.findRecoveredPayment id = .ok payment ↔ db.findPaymentByID id = .ok payment := by
  unfold findRecoveredPayment
  cases db.findPaymentByID id with
  | ok found => simp
  | error err =>
    dsimp only
    split_ifs <;> simp

/-! ## Claims -/

/-- The ways in which a claim is granted, and the tables each of them leaves. -/
inductive Granted (db : Db) : ClaimRequest → PaymentCommandClaim → Db → Prop
  /-- A new authorization: its record and its payment are inserted. -/
  | start (request : AuthorizationStartClaimRequest) (time : request.now ≠ 0)
      (absent : db.records request.recordKey = none)
      (valid : idempotencyRecordsCheck request.recordKey
        (newRecord request.toPaymentCommandClaimRequest request.payment.id) = true)
      (fresh : db.payments request.payment.id = none)
      (check : paymentsCheck (rowOf request.payment) = true) :
      Granted db (.start request)
        (newClaimedPaymentCommand request.toPaymentCommandClaimRequest request.payment)
        ((db.setRecord request.recordKey
          (some (newRecord request.toPaymentCommandClaimRequest request.payment.id))).put
            ⟨request.payment, rowOf request.payment⟩)
  /-- A stuck authorization is taken over with the payment it had created. -/
  | restart (request : AuthorizationStartClaimRequest) (record : IdempotencyRecord)
      (payment : Payment) (time : request.now ≠ 0)
      (slot : db.records request.recordKey = some record)
      (stuck : stuckFor request.toPaymentCommandClaimRequest record)
      (found : db.findPaymentByID (nullStringValue record.paymentID) = .ok payment)
      (status : payment.status = request.expectedStatus) :
      Granted db (.start request)
        (newRecoveredPaymentCommand request.toPaymentCommandClaimRequest payment)
        (db.setRecord request.recordKey (some { record with claimedAt := request.now }))
  /-- A new command on an existing payment, which gets its operation key. -/
  | acquire (request : ExistingPaymentCommandClaimRequest) (payment payment' : Payment) (db' : Db)
      (time : request.now ≠ 0) (absent : db.records request.recordKey = none)
      (valid : idempotencyRecordsCheck request.recordKey
        (newRecord request.toPaymentCommandClaimRequest request.paymentID) = true)
      (found : db.findPaymentByID request.paymentID = .ok payment)
      (validated : validateAcquiredPaymentCommand request payment = .ok ())
      (ensured : (db.setRecord request.recordKey (some (newRecord
          request.toPaymentCommandClaimRequest request.paymentID))).ensureBankOperationKey
            payment request = .ok (payment', db')) :
      Granted db (.existing request)
        (newClaimedPaymentCommand request.toPaymentCommandClaimRequest payment') db'
  /-- A stuck command on an existing payment is taken over. -/
  | recover (request : ExistingPaymentCommandClaimRequest) (record : IdempotencyRecord)
      (payment : Payment) (time : request.now ≠ 0)
      (slot : db.records request.recordKey = some record)
      (stuck : stuckFor request.toPaymentCommandClaimRequest record)
      (found : db.findPaymentByID (nullStringValue record.paymentID) = .ok payment)
      (validated : validateRecoveredPaymentCommand request (nullStringValue record.paymentID)
        payment = .ok ()) :
      Granted db (.existing request)
        (newRecoveredPaymentCommand request.toPaymentCommandClaimRequest payment)
        (db.setRecord request.recordKey (some { record with claimedAt := request.now }))

/-- A completed record answers a request with its stored result. -/
def Replays (db : Db) (request : PaymentCommandClaimRequest) (result : PaymentCommandResult) :
    Prop :=
  ∃ record, db.records request.recordKey = some record ∧
    record.requestFingerprint = request.requestFingerprint ∧ record.status = .completed ∧
    storedResult record = .ok result

/-- Both claim methods flatten the answer of their transaction. -/
private theorem flatten_eq_ok {db db' : Db} {body : Except GoError (ClaimReply × Db)}
    {answer : ClaimAnswer} :
    (transact db body).map (·.bind id) id = (.ok answer, db') ↔
      body = .ok (.ok answer, db') := by
  cases body with
  | error err => simp [transact, Except.bind]
  | ok result =>
    obtain ⟨reply, after⟩ := result
    cases reply <;> simp [transact, Except.bind]

private theorem flatten_eq_error {db db' : Db} {body : Except GoError (ClaimReply × Db)}
    {err : GoError} :
    (transact db body).map (·.bind id) id = (.error err, db') ↔
      body = .ok (.error err, db') ∨ body = .error err ∧ db' = db := by
  cases body with
  | error err' =>
    simp only [transact, Except.bind, Prod.map, id, Prod.mk.injEq, Except.error.injEq, reduceCtorEq,
      false_or]
    exact ⟨fun h => ⟨h.1, h.2.symm⟩, fun h => ⟨h.1, h.2.symm⟩⟩
  | ok result =>
    obtain ⟨reply, after⟩ := result
    cases reply <;> simp [transact, Except.bind]

/-! ### The two claim methods as one

Both start with the decision on their record. They differ in what they do with a record that
is theirs. -/

/-- What a claim method does with a record that it has inserted. -/
def acquire (db : Db) : ClaimRequest → Except GoError (PaymentCommandClaim × Db)
  | .start request => do
    let db ← (db.insertPayment request.payment).mapError newInternalPaymentError
    pure (newClaimedPaymentCommand request.toPaymentCommandClaimRequest request.payment, db)
  | .existing request => do
    let payment ← db.findPaymentByID request.paymentID
    validateAcquiredPaymentCommand request payment
    let (payment, db) ← db.ensureBankOperationKey payment request
    pure (newClaimedPaymentCommand request.toPaymentCommandClaimRequest payment, db)

/-- What a claim method does with a stuck record, by the payment that the record names. -/
def recover (db : Db) (paymentID : GoString) : ClaimRequest → Except GoError PaymentCommandClaim
  | .start request => do
    let payment ← db.findRecoveredPayment paymentID
    rejectIf (payment.status ≠ request.expectedStatus) (newPaymentStatusConflictError .none)
    pure (newRecoveredPaymentCommand request.toPaymentCommandClaimRequest payment)
  | .existing request => do
    let payment ← db.findRecoveredPayment paymentID
    validateRecoveredPaymentCommand request paymentID payment
    pure (newRecoveredPaymentCommand request.toPaymentCommandClaimRequest payment)

@[simp] theorem recover_setRecord (db : Db) (recordKey : Operation × GoString)
    (slot : Option IdempotencyRecord) (paymentID : GoString) (request : ClaimRequest) :
    (db.setRecord recordKey slot).recover paymentID request = db.recover paymentID request := by
  cases request <;> rfl

/-- How a claim method goes on after the decision on its record, which is written by then. -/
def decided (db : Db) (request : ClaimRequest) :
    IdempotencyClaimOutcome → Except GoError (ClaimReply × Db)
  | .replayed result => pure (.ok (.replayed result), db)
  | .inProgress => pure (.error (newPaymentIdempotencyInProgressError .none), db)
  | .conflict => pure (.error (newPaymentIdempotencyConflictError .none), db)
  | .acquired => (fun (claim, db) => (.ok (.granted claim), db)) <$> db.acquire request
  | .recovered paymentID =>
    (fun claim => (.ok (.granted claim), db)) <$> db.recover paymentID request

/-- The transaction of a claim method. -/
def claimTx (db : Db) (request : ClaimRequest) : Except GoError (ClaimReply × Db) := do
  rejectIf (request.base.now = 0)
    (newInternalPaymentError (.text (ascii "payment store business time is required")))
  let (outcome, slot) ← (claimIdempotency request.base request.paymentID
    (db.records request.base.recordKey)).mapError newInternalPaymentError
  (db.setRecord request.base.recordKey slot).decided request outcome

private theorem authorizationStartTx_eq (db : Db) (request : AuthorizationStartClaimRequest) :
    db.authorizationStartTx request = db.claimTx (.start request) := by
  refine bind_congr fun _ => bind_congr fun decision => ?_
  obtain ⟨outcome, slot⟩ := decision
  cases outcome with
  | acquired | recovered => simp [decided, acquire, recover, ClaimRequest.base]
  | replayed | inProgress | conflict => rfl

private theorem existingPaymentTx_eq (db : Db) (request : ExistingPaymentCommandClaimRequest) :
    db.existingPaymentTx request = db.claimTx (.existing request) := by
  refine bind_congr fun _ => bind_congr fun decision => ?_
  obtain ⟨outcome, slot⟩ := decision
  cases outcome with
  | acquired | recovered => simp [decided, acquire, recover, ClaimRequest.base]
  | replayed | inProgress | conflict => rfl

private theorem claim_eq (db : Db) (request : ClaimRequest) :
    db.claim request = (transact db (db.claimTx request)).map (·.bind id) id := by
  cases request with
  | start request => rw [claim, claimAuthorizationStart, authorizationStartTx_eq]
  | existing request => rw [claim, claimExistingPaymentCommand, existingPaymentTx_eq]

/-- A claim method starts with the decision of `claimIdempotency` on its record. -/
private theorem claimTx_eq_ok {db db' : Db} {request : ClaimRequest} {reply : ClaimReply} :
    db.claimTx request = .ok (reply, db') ↔ request.base.now ≠ 0 ∧ ∃ outcome slot,
      ClaimDecision request.base request.paymentID (db.records request.base.recordKey) outcome
        slot ∧
      (db.setRecord request.base.recordKey slot).decided request outcome = .ok (reply, db') := by
  rw [claimTx, check_bind_eq_ok, rejectIf_eq_ok]
  simp only [bind_eq_ok, mapError_eq_ok, Prod.exists, claimIdempotency_eq_ok, ne_eq]

private theorem granted_of_acquire {db db' : Db} {request : ClaimRequest}
    {claim : PaymentCommandClaim} (time : request.base.now ≠ 0)
    (absent : db.records request.base.recordKey = none)
    (valid : idempotencyRecordsCheck request.base.recordKey
      (newRecord request.base request.paymentID) = true)
    (h : (db.setRecord request.base.recordKey
      (some (newRecord request.base request.paymentID))).acquire request = .ok (claim, db')) :
    Granted db request claim db' := by
  cases request with
  | start request =>
    simp only [acquire, bind_eq_ok, mapError_eq_ok, pure_eq_ok_iff, Prod.mk.injEq] at h
    obtain ⟨_, hinsert, rfl, rfl⟩ := h
    obtain ⟨hfresh, hcheck, rfl⟩ := insertPayment_eq_ok.mp hinsert
    exact .start request time absent valid hfresh hcheck
  | existing request =>
    simp only [acquire, bind_eq_ok, findPaymentByID_setRecord, Prod.exists, pure_eq_ok_iff,
      Prod.mk.injEq] at h
    obtain ⟨payment, hfound, ⟨⟩, hvalidated, payment', _, hensured, rfl, rfl⟩ := h
    exact .acquire request payment payment' _ time absent valid hfound hvalidated hensured

private theorem granted_of_recover {db : Db} {request : ClaimRequest}
    {claim : PaymentCommandClaim} {record : IdempotencyRecord} (time : request.base.now ≠ 0)
    (slot : db.records request.base.recordKey = some record)
    (stuck : stuckFor request.base record)
    (h : db.recover (nullStringValue record.paymentID) request = .ok claim) :
    Granted db request claim (db.setRecord request.base.recordKey
      (some { record with claimedAt := request.base.now })) := by
  cases request with
  | start request =>
    simp only [recover, bind_eq_ok, findRecoveredPayment_eq_ok, rejectIf_eq_ok, not_not, ne_eq,
      pure_eq_ok_iff] at h
    obtain ⟨payment, hfound, ⟨⟩, hstatus, rfl⟩ := h
    exact .restart request record payment time slot stuck hfound hstatus
  | existing request =>
    simp only [recover, bind_eq_ok, findRecoveredPayment_eq_ok, pure_eq_ok_iff] at h
    obtain ⟨payment, hfound, ⟨⟩, hvalidated, rfl⟩ := h
    exact .recover request record payment time slot stuck hfound hvalidated

private theorem claimTx_of_acquire {db db' : Db} {request : ClaimRequest}
    {claim : PaymentCommandClaim} (time : request.base.now ≠ 0)
    (absent : db.records request.base.recordKey = none)
    (valid : idempotencyRecordsCheck request.base.recordKey
      (newRecord request.base request.paymentID) = true)
    (h : (db.setRecord request.base.recordKey
      (some (newRecord request.base request.paymentID))).acquire request = .ok (claim, db')) :
    db.claimTx request = .ok (.ok (.granted claim), db') := by
  refine claimTx_eq_ok.mpr ⟨time, .acquired, some _, ?_, map_eq_ok.mpr ⟨_, h, rfl⟩⟩
  rw [absent]
  exact .acquired valid

private theorem claimTx_of_recover {db : Db} {request : ClaimRequest}
    {claim : PaymentCommandClaim} {record : IdempotencyRecord} (time : request.base.now ≠ 0)
    (slot : db.records request.base.recordKey = some record)
    (stuck : stuckFor request.base record)
    (h : db.recover (nullStringValue record.paymentID) request = .ok claim) :
    db.claimTx request = .ok (.ok (.granted claim), db.setRecord request.base.recordKey
      (some { record with claimedAt := request.base.now })) := by
  refine claimTx_eq_ok.mpr ⟨time, .recovered _, some _, ?_, map_eq_ok.mpr ⟨_, h, rfl⟩⟩
  rw [slot]
  exact .recovered record stuck

/-- A claim is granted exactly in the four ways. -/
theorem claim_eq_granted {db db' : Db} {request : ClaimRequest} {claim : PaymentCommandClaim} :
    db.claim request = (.ok (.granted claim), db') ↔ Granted db request claim db' := by
  rw [claim_eq, flatten_eq_ok]
  constructor
  · intro h
    obtain ⟨htime, outcome, slot, hdecision, hdecided⟩ := claimTx_eq_ok.mp h
    -- The decision on the record says which branch of the transaction ran.
    generalize hslot : db.records request.base.recordKey = before at hdecision
    cases hdecision with
    | acquired hvalid =>
      obtain ⟨_, hacquire, heq⟩ := map_eq_ok.mp hdecided
      cases heq
      exact granted_of_acquire htime hslot hvalid hacquire
    | recovered record hstuck =>
      obtain ⟨_, hrecover, heq⟩ := map_eq_ok.mp hdecided
      cases heq
      exact granted_of_recover htime hslot hstuck hrecover
    | replayed | inProgress | conflict => cases hdecided
  · intro h
    -- A rule lists what its branch checks, in the order of the checks.
    cases h with
    | start request htime habsent hvalid hfresh hcheck =>
      refine claimTx_of_acquire htime habsent hvalid ?_
      exact bind_eq_ok.mpr ⟨_, mapError_eq_ok.mpr (insertPayment_eq_ok.mpr ⟨hfresh, hcheck, rfl⟩),
        rfl⟩
    | restart request record payment htime hslot hstuck hfound hstatus =>
      refine claimTx_of_recover htime hslot hstuck ?_
      rw [recover, findRecoveredPayment_eq_ok.mpr hfound, ok_bind,
        rejectIf_of_not _ (not_not.mpr hstatus)]
      rfl
    | acquire request payment payment' _ htime habsent hvalid hfound hvalidated hensured =>
      refine claimTx_of_acquire htime habsent hvalid ?_
      rw [acquire, findPaymentByID_setRecord, hfound, ok_bind, hvalidated, ok_bind]
      exact bind_eq_ok.mpr ⟨_, hensured, rfl⟩
    | recover request record payment htime hslot hstuck hfound hvalidated =>
      refine claimTx_of_recover htime hslot hstuck ?_
      rw [recover, findRecoveredPayment_eq_ok.mpr hfound, ok_bind, hvalidated]
      rfl

/-- A replay reads a completed record and changes nothing. -/
theorem claim_eq_replayed {db db' : Db} {request : ClaimRequest} {result : PaymentCommandResult} :
    db.claim request = (.ok (.replayed result), db') ↔
      request.base.now ≠ 0 ∧ Replays db request.base result ∧ db' = db := by
  rw [claim_eq, flatten_eq_ok, claimTx_eq_ok]
  refine and_congr_right fun _ => ⟨?_, ?_⟩
  · rintro ⟨outcome, slot, hdecision, hdecided⟩
    generalize hslot : db.records request.base.recordKey = before at hdecision
    cases hdecision with
    | replayed record stored hfp hcompleted hstored =>
      cases hdecided
      exact ⟨⟨record, hslot, hfp, hcompleted, hstored⟩, by rw [← hslot, setRecord_same]⟩
    | acquired | recovered =>
      obtain ⟨_, _, heq⟩ := map_eq_ok.mp hdecided
      cases heq
    | inProgress | conflict => cases hdecided
  · rintro ⟨⟨record, hslot, hfp, hcompleted, hstored⟩, rfl⟩
    refine ⟨.replayed result, some record, ?_, ?_⟩
    · rw [hslot]
      exact .replayed record result hfp hcompleted hstored
    · rw [← hslot, setRecord_same]
      rfl

/-- A refused claim changes nothing: either its transaction was rolled back, or it
committed after reading a record it could not take. -/
theorem claim_eq_error {db db' : Db} {request : ClaimRequest} {err : GoError}
    (h : db.claim request = (.error err, db')) : db' = db := by
  rw [claim_eq, flatten_eq_error, claimTx_eq_ok] at h
  rcases h with ⟨_, outcome, slot, hdecision, hdecided⟩ | ⟨_, rfl⟩
  · generalize hslot : db.records request.base.recordKey = before at hdecision
    cases hdecision with
    | inProgress | conflict =>
      cases hdecided
      rw [← hslot, setRecord_same]
    | replayed => cases hdecided
    | acquired | recovered =>
      obtain ⟨_, _, heq⟩ := map_eq_ok.mp hdecided
      cases heq
  · rfl

private theorem recoveryResultOf_storedResult {record : IdempotencyRecord} {err : GoError}
    (h : storedResult record = .error err) : recoveryResultOf err = none := by
  unfold storedResult at h
  split at h
  · cases h
    rfl
  · split at h
    · cases h
    · rcases bind_eq_error.mp h with hkind | ⟨_, _, hpure⟩
      · obtain ⟨-, rfl⟩ := rejectIf_eq_error.mp hkind
        rfl
      · cases hpure

private theorem recoveryResultOf_selectStatement {request : PaymentCommandClaimRequest}
    {slot : Option IdempotencyRecord} {err : GoError}
    (h : selectStatement request slot = .error err) : recoveryResultOf err = none := by
  unfold selectStatement at h
  split at h
  · cases h
    rfl
  · split at h
    · split_ifs at h <;> cases h
    · rcases bind_eq_error.mp h with hstored | ⟨_, _, hcompare⟩
      · exact recoveryResultOf_storedResult hstored
      · split_ifs at hcompare <;> cases hcompare

/-- The errors of `claimIdempotency` have nothing to do with a recovery. -/
private theorem recoveryResultOf_claimIdempotency {request : PaymentCommandClaimRequest}
    {paymentID : GoString} {slot : Option IdempotencyRecord} {err : GoError}
    (h : claimIdempotency request paymentID slot = .error err) : recoveryResultOf err = none := by
  unfold claimIdempotency at h
  split at h
  · cases h
  · split at h
    · rcases bind_eq_error.mp h with hcheck | ⟨_, _, hpure⟩
      · obtain ⟨-, rfl⟩ := rejectIf_eq_error.mp hcheck
        rfl
      · cases hpure
    · rcases bind_eq_error.mp h with hselect | ⟨_, _, hpure⟩
      · exact recoveryResultOf_selectStatement hselect
      · cases hpure

private theorem recoveryResultOf_findPaymentByID {db : Db} {id : GoString} {err : GoError}
    (h : db.findPaymentByID id = .error err) : recoveryResultOf err = none := by
  unfold findPaymentByID at h
  split at h
  · cases h
    rfl
  · obtain ⟨_, -, rfl⟩ := mapError_eq_error.mp h
    rfl

private theorem recoveryResultOf_writePayment {db : Db} {payment : Payment} {row : PaymentRow}
    {err : GoError} (h : db.writePayment payment row = .error err) :
    recoveryResultOf err = none := by
  rcases bind_eq_error.mp h with hcheck | ⟨_, _, hpure⟩
  · obtain ⟨-, rfl⟩ := rejectIf_eq_error.mp hcheck
    rfl
  · cases hpure

private theorem recoveryResultOf_insertPayment {db : Db} {payment : Payment} {err : GoError}
    (h : db.insertPayment payment = .error err) : recoveryResultOf err = none := by
  rcases bind_eq_error.mp h with hunique | ⟨_, _, hwrite⟩
  · obtain ⟨-, rfl⟩ := rejectIf_eq_error.mp hunique
    rfl
  · exact recoveryResultOf_writePayment hwrite

private theorem recoveryResultOf_updateKeyColumn {db : Db} {payment : Payment}
    {change : PaymentRow → PaymentRow} {err : GoError}
    (h : db.updateKeyColumn payment change = .error err) : recoveryResultOf err = none := by
  unfold updateKeyColumn at h
  split at h
  · split_ifs at h
    · rcases bind_eq_error.mp h with hwrite | ⟨_, _, hpure⟩
      · obtain ⟨_, hcause, rfl⟩ := mapError_eq_error.mp hwrite
        exact (recoveryResultOf_newInternalPaymentError _).trans
          (recoveryResultOf_writePayment hcause)
      · cases hpure
    · cases h
      rfl
  · cases h
    rfl

private theorem recoveryResultOf_ensureBankOperationKey {db : Db} {payment : Payment}
    {request : ExistingPaymentCommandClaimRequest} {err : GoError}
    (h : db.ensureBankOperationKey payment request = .error err) : recoveryResultOf err = none := by
  unfold ensureBankOperationKey at h
  split at h
  case h_1 => cases h
  case h_5 =>
    cases h
    rfl
  all_goals
    split_ifs at h
    · cases h
    · rcases bind_eq_error.mp h with hset | ⟨_, _, hupdate⟩
      · obtain ⟨_, -, rfl⟩ := mapError_eq_error.mp hset
        rfl
      · exact recoveryResultOf_updateKeyColumn hupdate

private theorem recoveryResultOf_validateAcquired {request : ExistingPaymentCommandClaimRequest}
    {payment : Payment} {err : GoError}
    (h : validateAcquiredPaymentCommand request payment = .error err) :
    recoveryResultOf err = none := by
  rcases bind_eq_error.mp h with hstatus | ⟨_, _, hcard⟩
  · obtain ⟨-, rfl⟩ := rejectIf_eq_error.mp hstatus
    rfl
  · obtain ⟨-, rfl⟩ := rejectIf_eq_error.mp hcard
    rfl

/-- Nothing that is done with a new record has to do with a recovery. -/
private theorem recoveryResultOf_acquire {db : Db} {request : ClaimRequest} {err : GoError}
    (h : db.acquire request = .error err) : recoveryResultOf err = none := by
  cases request with
  | start request =>
    rcases bind_eq_error.mp h with hinsert | ⟨_, _, hpure⟩
    · obtain ⟨_, hcause, rfl⟩ := mapError_eq_error.mp hinsert
      exact (recoveryResultOf_newInternalPaymentError _).trans
        (recoveryResultOf_insertPayment hcause)
    · cases hpure
  | existing request =>
    rcases bind_eq_error.mp h with hfind | ⟨payment, _, h⟩
    · exact recoveryResultOf_findPaymentByID hfind
    · rcases bind_eq_error.mp h with hvalidate | ⟨_, _, h⟩
      · exact recoveryResultOf_validateAcquired hvalidate
      · rcases bind_eq_error.mp h with hensure | ⟨_, _, hpure⟩
        · exact recoveryResultOf_ensureBankOperationKey hensure
        · cases hpure

/-- The refusals that a method can only make while it takes over a stuck record. -/
inductive RecoveryRefused (db : Db) (record : IdempotencyRecord) (err : GoError) :
    ClaimRequest → Prop
  | missing (request : ClaimRequest)
      (find : db.findRecoveredPayment (nullStringValue record.paymentID) = .error err) :
      RecoveryRefused db record err request
  | invalid (request : ExistingPaymentCommandClaimRequest) (payment : Payment)
      (found : db.findPaymentByID (nullStringValue record.paymentID) = .ok payment)
      (validate : validateRecoveredPaymentCommand request (nullStringValue record.paymentID)
        payment = .error err) :
      RecoveryRefused db record err (.existing request)

private theorem recoveryRefused_of_recover {db : Db} {request : ClaimRequest}
    {record : IdempotencyRecord} {err : GoError}
    (h : db.recover (nullStringValue record.paymentID) request = .error err) :
    recoveryResultOf err = none ∨ RecoveryRefused db record err request := by
  cases request with
  | start request =>
    rcases bind_eq_error.mp h with hfind | ⟨_, _, h⟩
    · exact .inr (.missing _ hfind)
    · rcases bind_eq_error.mp h with hstatus | ⟨_, _, hpure⟩
      · obtain ⟨-, rfl⟩ := rejectIf_eq_error.mp hstatus
        exact .inl rfl
      · cases hpure
  | existing request =>
    rcases bind_eq_error.mp h with hfind | ⟨payment, hfound, h⟩
    · exact .inr (.missing _ hfind)
    · rcases bind_eq_error.mp h with hvalidate | ⟨_, _, hpure⟩
      · exact .inr (.invalid request payment (findRecoveredPayment_eq_ok.mp hfound) hvalidate)
      · cases hpure

/-- A refused claim reports a recovery only if it found a stuck record of its request and
could not take it over. -/
theorem recoveryRefused_of_claim {db db' : Db} {request : ClaimRequest} {err : GoError}
    (h : db.claim request = (.error err, db')) :
    recoveryResultOf err = none ∨
      ∃ record, db.records request.base.recordKey = some record ∧ stuckFor request.base record ∧
        RecoveryRefused db record err request := by
  rw [claim_eq, flatten_eq_error] at h
  rcases h with hcommitted | ⟨herror, -⟩
  · -- A transaction that commits with an error has found the record in progress or another's.
    obtain ⟨_, outcome, slot, -, hdecided⟩ := claimTx_eq_ok.mp hcommitted
    cases outcome with
    | inProgress | conflict =>
      cases hdecided
      exact .inl rfl
    | replayed => cases hdecided
    | acquired | recovered =>
      obtain ⟨_, _, heq⟩ := map_eq_ok.mp hdecided
      cases heq
  · -- One that rolls back fails on its time, in claiming the record or in its branch.
    rcases bind_eq_error.mp herror with htime | ⟨_, _, herror⟩
    · obtain ⟨-, rfl⟩ := rejectIf_eq_error.mp htime
      exact .inl rfl
    · rcases bind_eq_error.mp herror with hclaim | ⟨⟨outcome, slot⟩, hclaim, herror⟩
      · obtain ⟨_, hcause, rfl⟩ := mapError_eq_error.mp hclaim
        exact .inl ((recoveryResultOf_newInternalPaymentError _).trans
          (recoveryResultOf_claimIdempotency hcause))
      · have hdecision := claimIdempotency_eq_ok.mp (mapError_eq_ok.mp hclaim)
        generalize db.records request.base.recordKey = before at hdecision ⊢
        cases hdecision with
        | replayed | inProgress | conflict => cases herror
        | acquired => exact .inl (recoveryResultOf_acquire (map_eq_error.mp herror))
        | recovered record hstuck =>
          have hrecover := map_eq_error.mp herror
          rw [recover_setRecord] at hrecover
          exact (recoveryRefused_of_recover hrecover).imp_right
            fun hrefused => ⟨record, rfl, hstuck, hrefused⟩

/-! ### Stuck records -/

/-- The payment of the stuck record that a claim decides to recover, if it does. -/
def stuckPaymentID? (db : Db) (request : ClaimRequest) : Option GoString :=
  if request.base.now = 0 then none
  else
    match claimIdempotency request.base request.paymentID
      (db.records request.base.recordKey) with
    | .ok (.recovered paymentID, _) => some paymentID
    | _ => none

theorem stuckPaymentID?_eq_some {db : Db} {request : ClaimRequest} {paymentID : GoString} :
    db.stuckPaymentID? request = some paymentID ↔ request.base.now ≠ 0 ∧
      ∃ record, db.records request.base.recordKey = some record ∧ stuckFor request.base record ∧
        nullStringValue record.paymentID = paymentID := by
  unfold stuckPaymentID?
  by_cases htime : request.base.now = 0
  · simp [htime]
  rw [if_neg htime]
  constructor
  · intro h
    split at h
    · next _ slot hclaim =>
      cases h
      have hdecision := claimIdempotency_eq_ok.mp hclaim
      generalize db.records request.base.recordKey = before at hdecision
      cases hdecision with
      | recovered record hstuck => exact ⟨htime, record, rfl, hstuck, rfl⟩
    · cases h
  · rintro ⟨-, record, hslot, hstuck, rfl⟩
    rw [hslot, claimIdempotency_eq_ok.mpr (.recovered record hstuck)]

/-- A claim on a stuck record is granted or refused as its recovery is. -/
theorem claim_of_stuck {db : Db} {request : ClaimRequest} {paymentID : GoString}
    (stuck : db.stuckPaymentID? request = some paymentID) :
    (db.claim request).1 = .granted <$> db.recover paymentID request := by
  obtain ⟨htime, record, hslot, hstuck, rfl⟩ := stuckPaymentID?_eq_some.mp stuck
  rw [claim_eq, claimTx, rejectIf_of_not _ htime, ok_bind, hslot,
    claimIdempotency_eq_ok.mpr (.recovered record hstuck), mapError_ok, ok_bind]
  simp only [decided, recover_setRecord]
  cases db.recover (nullStringValue record.paymentID) request <;> rfl

/-- A refusal that is no failed recovery is not reported as one. -/
theorem recoveryResultOf_of_not_stuck {db db' : Db} {request : ClaimRequest} {err : GoError}
    (h : db.claim request = (.error err, db')) (stuck : db.stuckPaymentID? request = none) :
    recoveryResultOf err = none := by
  obtain hnone | ⟨record, hslot, hstuck, -⟩ := recoveryRefused_of_claim h
  · exact hnone
  · -- A stuck record is passed over only for want of a time.
    by_cases htime : request.base.now = 0
    · rw [claim_eq, claimTx, rejectIf_of _ htime] at h
      cases h
      rfl
    · rw [stuckPaymentID?_eq_some.mpr ⟨htime, record, hslot, hstuck, rfl⟩] at stuck
      cases stuck

/-- A granted claim counts as recovered exactly where it took over a stuck record. -/
theorem Granted.recovered_eq {db db' : Db} {request : ClaimRequest} {claim : PaymentCommandClaim}
    (grant : Granted db request claim db') :
    claim.recovered = (db.stuckPaymentID? request).isSome := by
  have hfresh : ∀ request : ClaimRequest, db.records request.base.recordKey = none →
      false = (db.stuckPaymentID? request).isSome := by
    intro request habsent
    cases hstuck : db.stuckPaymentID? request with
    | none => rfl
    | some paymentID =>
      obtain ⟨-, record, hslot, -⟩ := stuckPaymentID?_eq_some.mp hstuck
      cases habsent.symm.trans hslot
  have hstuck : ∀ (request : ClaimRequest) (record : IdempotencyRecord), request.base.now ≠ 0 →
      db.records request.base.recordKey = some record → stuckFor request.base record →
      true = (db.stuckPaymentID? request).isSome := by
    intro request record htime hslot hstuck
    rw [stuckPaymentID?_eq_some.mpr ⟨htime, record, hslot, hstuck, rfl⟩]
    rfl
  cases grant with
  | start request _ absent => exact hfresh (.start request) absent
  | acquire request _ _ _ _ absent => exact hfresh (.existing request) absent
  | restart request record _ time slot stuck => exact hstuck (.start request) record time slot stuck
  | recover request record _ time slot stuck =>
    exact hstuck (.existing request) record time slot stuck

/-- A replay reads a completed record, which is not stuck. -/
theorem Replays.not_stuck {db : Db} {request : ClaimRequest} {result : PaymentCommandResult}
    (replay : db.Replays request.base result) : db.stuckPaymentID? request = none := by
  obtain ⟨record, hslot, -, hcompleted, -⟩ := replay
  cases hstuck : db.stuckPaymentID? request with
  | none => rfl
  | some paymentID =>
    obtain ⟨-, record', hslot', ⟨-, hopen, -⟩, -⟩ := stuckPaymentID?_eq_some.mp hstuck
    cases hslot.symm.trans hslot'
    cases hcompleted.symm.trans hopen

/-- A request with another fingerprint than the record's is refused. -/
theorem claim_of_other_fingerprint {db : Db} {request : ClaimRequest} {record : IdempotencyRecord}
    (time : request.base.now ≠ 0) (slot : db.records request.base.recordKey = some record)
    (fingerprint : record.requestFingerprint ≠ request.base.requestFingerprint)
    (readable : record.status = .completed → ∃ result, storedResult record = .ok result) :
    db.claim request = (.error (newPaymentIdempotencyConflictError .none), db) := by
  rw [claim_eq, flatten_eq_error, claimTx_eq_ok]
  refine .inl ⟨time, .conflict, some record, ?_, ?_⟩
  · rw [slot]
    exact .conflict record fingerprint readable
  · rw [← slot, setRecord_same]
    rfl

/-! ## Completion -/

/-- What a successful `CompletePaymentCommand` found and left. -/
structure Completed (db : Db) (claim : PaymentCommandClaim) (result : PaymentCommandResult)
    (completedAt : Time) (row : PaymentRow) (record : IdempotencyRecord) (db' : Db) : Prop where
  time : completedAt ≠ 0
  found : db.payments claim.payment.id = some row
  rowStatus : row.status = claim.expectedStatus.text
  check : paymentsCheck (transitionRow row claim.payment) = true
  terminal : ∀ kind ∈ result.failureKind, isTerminalFailureKind kind = true
  slot : db.records claim.recordKey = some record
  fingerprint : record.requestFingerprint = claim.requestFingerprint
  inProgress : record.status = .inProgress
  recordCheck : idempotencyRecordsCheck claim.recordKey
    (completedRecord record result completedAt) = true
  after : db' = (db.put ⟨claim.payment, transitionRow row claim.payment⟩).setRecord
    claim.recordKey (some (completedRecord record result completedAt))

theorem persistPaymentTransition_eq_ok {db db' : Db} {payment : Payment}
    {expectedStatus : PaymentStatus} :
    db.persistPaymentTransition payment expectedStatus = .ok db' ↔
      ∃ row, db.payments payment.id = some row ∧ row.status = expectedStatus.text ∧
        paymentsCheck (transitionRow row payment) = true ∧
        db.put ⟨payment, transitionRow row payment⟩ = db' := by
  unfold persistPaymentTransition
  cases hrow : db.payments payment.id with
  | none => simp
  | some row =>
    dsimp only
    split_ifs with hstatus
    · simp [hstatus]
    · simp [hstatus]

theorem completeIdempotencyRecord_eq_ok {db db' : Db} {claim : PaymentCommandClaim}
    {result : PaymentCommandResult} {completedAt : Time} :
    db.completeIdempotencyRecord claim result completedAt = .ok db' ↔
      (∀ kind ∈ result.failureKind, isTerminalFailureKind kind = true) ∧
      ∃ record, db.records claim.recordKey = some record ∧
        record.requestFingerprint = claim.requestFingerprint ∧ record.status = .inProgress ∧
        idempotencyRecordsCheck claim.recordKey (completedRecord record result completedAt) = true ∧
        db.setRecord claim.recordKey (some (completedRecord record result completedAt)) = db' := by
  rw [completeIdempotencyRecord, check_bind_eq_ok, rejectIf_eq_ok]
  refine and_congr ?_ ?_
  · cases result.failureKind <;> simp
  · cases hslot : db.records claim.recordKey with
    | none => simp
    | some record =>
      dsimp only
      split_ifs with hopen
      · simp [hopen]
      · simp only [false_iff]
        rintro ⟨_, heq, hfp, hstatus, _⟩
        cases heq
        exact hopen ⟨hfp, hstatus⟩

theorem completePaymentCommand_eq_ok {db db' : Db} {claim : PaymentCommandClaim}
    {result : PaymentCommandResult} {completedAt : Time} :
    db.completePaymentCommand claim result completedAt = (.ok (), db') ↔
      ∃ row record, Completed db claim result completedAt row record db' := by
  rw [completePaymentCommand, transact_eq_ok, check_bind_eq_ok, rejectIf_eq_ok]
  simp only [bind_eq_ok, persistPaymentTransition_eq_ok, completeIdempotencyRecord_eq_ok,
    pure_eq_ok_iff, Prod.mk.injEq, true_and]
  constructor
  · rintro ⟨htime, _, ⟨row, hrow, hstatus, hcheck, rfl⟩, _,
      ⟨hterminal, record, hslot, hfp, hopen, hrecord, rfl⟩, rfl⟩
    exact ⟨row, record, htime, hrow, hstatus, hcheck, hterminal, hslot, hfp, hopen, hrecord, rfl⟩
  · rintro ⟨row, record, htime, hrow, hstatus, hcheck, hterminal, hslot, hfp, hopen, hrecord, rfl⟩
    exact ⟨htime, _, ⟨row, hrow, hstatus, hcheck, rfl⟩, _,
      ⟨hterminal, record, hslot, hfp, hopen, hrecord, rfl⟩, rfl⟩

/-- A failed completion changes nothing. -/
theorem completePaymentCommand_eq_error {db db' : Db} {claim : PaymentCommandClaim}
    {result : PaymentCommandResult} {completedAt : Time} {err : GoError}
    (h : db.completePaymentCommand claim result completedAt = (.error err, db')) : db' = db :=
  (transact_eq_error.mp h).2

/-! ## Release and cleanup -/

@[simp] theorem releasePaymentCommand_payments (db : Db) (claim : PaymentCommandClaim) :
    (db.releasePaymentCommand claim).payments = db.payments := by
  unfold releasePaymentCommand
  split
  · split_ifs <;> rfl
  · rfl

@[simp] theorem releasePaymentCommand_history (db : Db) (claim : PaymentCommandClaim) :
    (db.releasePaymentCommand claim).history = db.history := by
  unfold releasePaymentCommand
  split
  · split_ifs <;> rfl
  · rfl

theorem releasePaymentCommand_records (db : Db) (claim : PaymentCommandClaim)
    (recordKey : Operation × GoString) :
    (db.releasePaymentCommand claim).records recordKey =
      if recordKey = claim.recordKey then
        (db.records recordKey).filter fun record => record.status = .completed
      else db.records recordKey := by
  unfold releasePaymentCommand
  cases hslot : db.records claim.recordKey with
  | none =>
    split_ifs with hkey
    · rw [hkey, hslot]
      rfl
    · rfl
  | some record =>
    dsimp only
    by_cases hkey : recordKey = claim.recordKey
    · subst hkey
      rw [if_pos rfl, hslot]
      cases hstatus : record.status with
      | inProgress => simp [Option.filter, hstatus]
      | completed => simp [Option.filter, hstatus, hslot]
    · rw [if_neg hkey]
      split_ifs
      · exact setRecord_records_of_ne db none hkey
      · rfl

/-- A release keeps a record or removes the one of its claim, if it is in progress. -/
theorem releasePaymentCommand_records_cases (db : Db) (claim : PaymentCommandClaim)
    (recordKey : Operation × GoString) :
    (db.releasePaymentCommand claim).records recordKey = db.records recordKey ∨
      (db.releasePaymentCommand claim).records recordKey = none ∧ recordKey = claim.recordKey ∧
        ∃ record, db.records recordKey = some record ∧ record.status = .inProgress := by
  rw [releasePaymentCommand_records]
  split_ifs with hkey
  · cases hslot : db.records recordKey with
    | none => exact .inl rfl
    | some record =>
      cases hstatus : record.status with
      | completed => exact .inl (by simp [Option.filter, hstatus])
      | inProgress => exact .inr ⟨by simp [Option.filter, hstatus], hkey, record, rfl, hstatus⟩
  · exact .inl rfl

@[simp] theorem cleanup_payments (db : Db) (completedBefore : ℤ) :
    (db.cleanupCompletedIdempotencyRecords completedBefore).payments = db.payments := by
  unfold cleanupCompletedIdempotencyRecords
  split_ifs <;> rfl

@[simp] theorem cleanup_history (db : Db) (completedBefore : ℤ) :
    (db.cleanupCompletedIdempotencyRecords completedBefore).history = db.history := by
  unfold cleanupCompletedIdempotencyRecords
  split_ifs <;> rfl

/-- Cleanup keeps a record or removes a completed one that is old enough. -/
theorem cleanup_records (db : Db) (completedBefore : ℤ) (recordKey : Operation × GoString) :
    (db.cleanupCompletedIdempotencyRecords completedBefore).records recordKey =
        db.records recordKey ∨
      (db.cleanupCompletedIdempotencyRecords completedBefore).records recordKey = none ∧
        ∃ record completedAt, db.records recordKey = some record ∧ record.status = .completed ∧
          record.completedAt = some completedAt ∧ (completedAt : ℤ) < completedBefore := by
  unfold cleanupCompletedIdempotencyRecords
  split_ifs with hzero
  · exact .inl rfl
  · dsimp only
    cases hslot : db.records recordKey with
    | none => exact .inl rfl
    | some record =>
      by_cases hold : expiredBefore completedBefore record = true
      · right
        refine ⟨by simp [Option.filter, hold], record, ?_⟩
        simp only [expiredBefore, Bool.and_eq_true, beq_iff_eq, Option.any_eq_true,
          decide_eq_true_eq] at hold
        obtain ⟨hstatus, completedAt, hat, hlt⟩ := hold
        exact ⟨completedAt, rfl, hstatus, hat, hlt⟩
      · left
        simp [Option.filter, hold]

/-! ## What a method may touch -/

/-- Both tables are as before. -/
structure SameTables (db db' : Db) : Prop where
  payments : db'.payments = db.payments
  records : db'.records = db.records

/-- At most one record and one payment row differ. -/
structure OnlyTouches (db : Db) (recordKey : Operation × GoString) (id : GoString) (db' : Db) :
    Prop where
  payments : ∀ other, other ≠ id → db'.payments other = db.payments other
  records : ∀ other, other ≠ recordKey → db'.records other = db.records other

theorem OnlyTouches.setRecord {db db' : Db} {recordKey : Operation × GoString} {id : GoString}
    {slot : Option IdempotencyRecord}
    (h : OnlyTouches (db.setRecord recordKey slot) recordKey id db') :
    OnlyTouches db recordKey id db' where
  payments := h.payments
  records other hne := (h.records other hne).trans (setRecord_records_of_ne db slot hne)

theorem onlyTouches_refl (db : Db) (recordKey : Operation × GoString) (id : GoString) :
    OnlyTouches db recordKey id db :=
  ⟨fun _ _ => rfl, fun _ _ => rfl⟩

theorem onlyTouches_put (db : Db) (recordKey : Operation × GoString) (payment : Payment)
    (row : PaymentRow) : OnlyTouches db recordKey payment.id (db.put ⟨payment, row⟩) :=
  ⟨fun _ hne => Function.update_of_ne hne .., fun _ _ => rfl⟩

theorem updateKeyColumn_onlyTouches {db db' : Db} {payment payment' : Payment}
    {change : PaymentRow → PaymentRow} (recordKey : Operation × GoString)
    (h : db.updateKeyColumn payment change = .ok (payment', db')) :
    OnlyTouches db recordKey payment'.id db' := by
  unfold updateKeyColumn at h
  split at h
  · split_ifs at h with hstatus
    · simp only [bind_eq_ok, mapError_eq_ok, writePayment_eq_ok, pure_eq_ok_iff,
        Prod.mk.injEq] at h
      obtain ⟨_, ⟨-, rfl⟩, rfl, rfl⟩ := h
      exact onlyTouches_put db recordKey _ _
  · exact absurd h throw_ne_ok

theorem ensureBankOperationKey_onlyTouches {db db' : Db} {payment payment' : Payment}
    {request : ExistingPaymentCommandClaimRequest} (recordKey : Operation × GoString)
    (h : db.ensureBankOperationKey payment request = .ok (payment', db')) :
    OnlyTouches db recordKey payment'.id db' := by
  unfold ensureBankOperationKey at h
  split at h
  case h_1 =>
    obtain ⟨rfl, rfl⟩ := Prod.mk.inj (pure_eq_ok_iff.mp h)
    exact onlyTouches_refl db recordKey _
  case h_5 => exact absurd h throw_ne_ok
  -- The three settlements differ only in the column they set.
  all_goals
    split_ifs at h with hkey
    · obtain ⟨rfl, rfl⟩ := Prod.mk.inj (pure_eq_ok_iff.mp h)
      exact onlyTouches_refl db recordKey _
    · obtain ⟨_, -, hupdate⟩ := bind_eq_ok.mp h
      exact updateKeyColumn_onlyTouches recordKey hupdate

theorem Granted.onlyTouches {db db' : Db} {request : ClaimRequest} {claim : PaymentCommandClaim}
    (h : Granted db request claim db') :
    OnlyTouches db request.base.recordKey claim.payment.id db' := by
  cases h with
  | start request _ _ _ _ _ => exact .setRecord (onlyTouches_put _ _ request.payment _)
  | restart request _ _ _ _ _ _ _ => exact .setRecord (onlyTouches_refl _ _ _)
  | acquire request _ _ _ _ _ _ _ _ ensured =>
    exact .setRecord (ensureBankOperationKey_onlyTouches _ ensured)
  | recover request _ _ _ _ _ _ _ => exact .setRecord (onlyTouches_refl _ _ _)

theorem Completed.onlyTouches {db db' : Db} {claim : PaymentCommandClaim}
    {result : PaymentCommandResult} {completedAt : Time} {row : PaymentRow}
    {record : IdempotencyRecord} (h : Completed db claim result completedAt row record db') :
    OnlyTouches db claim.recordKey claim.payment.id db' := by
  rw [h.after]
  exact ⟨(onlyTouches_put db claim.recordKey claim.payment _).payments,
    fun _ hne => setRecord_records_of_ne _ _ hne⟩

/-- On any tables, a claim or a completion that returns an error leaves both tables exactly as
they were, and so does a replay; one that succeeds touches at most the record of its operation
and key and the row of the payment it is about. -/
theorem refusals_leave_no_trace (db : Db) :
    (∀ request : ClaimRequest,
      match db.claim request with
      | (.error _, db') => SameTables db db'
      | (.ok (.replayed _), db') => SameTables db db'
      | (.ok (.granted claim), db') => OnlyTouches db request.base.recordKey claim.payment.id db') ∧
    ∀ (claim : PaymentCommandClaim) (result : PaymentCommandResult) (completedAt : Time),
      match db.completePaymentCommand claim result completedAt with
      | (.error _, db') => SameTables db db'
      | (.ok (), db') => OnlyTouches db claim.recordKey claim.payment.id db' := by
  constructor
  · intro request
    split
    next err db' h =>
      obtain rfl := claim_eq_error h
      exact ⟨rfl, rfl⟩
    next result db' h =>
      obtain ⟨-, -, rfl⟩ := claim_eq_replayed.mp h
      exact ⟨rfl, rfl⟩
    next claim db' h => exact (claim_eq_granted.mp h).onlyTouches
  · intro claim result completedAt
    split
    next err db' h =>
      obtain rfl := completePaymentCommand_eq_error h
      exact ⟨rfl, rfl⟩
    next db' h =>
      obtain ⟨row, record, hcompleted⟩ := completePaymentCommand_eq_ok.mp h
      exact hcompleted.onlyTouches

end Db

end PaymentGateway
