/-
# What attempts hold

The invariant behind every result about runs. The payments table is sound, and an
attempt holds what its phase says: while it claims, a request that was built for its
command; with a claim, a version of the payment that was stored in the status the
operation expects, with the operation's own key; and when it completes, that
version marked by the bank's answer.

The versions an attempt holds stay on record however the ledger changes, so a step
of one attempt never breaks what another attempt holds.
-/

import PaymentGateway.Service.Rules

namespace PaymentGateway

open Lib

/-! ## Built requests -/

/-- The claim request that a method builds for its command. -/
inductive Built (service : PaymentService) (now : Time) (drawn : Draws) :
    Command → ClaimRequest → Draws → Prop
  | authorizePayment (c : AuthorizePaymentCommand) (payment : Payment)
      (new : newPendingPayment (service.newPaymentID drawn.paymentIDs) c.orderID c.customerID
        c.amountCents (service.newBankOperationKey drawn.bankOperationKeys)
        (service.authorizationCardFingerprint c.card) now = .ok payment) :
      Built service now drawn (.authorizePayment c)
        (.start (newAuthorizationStartClaimRequest c.idempotencyKey
          (service.requestFingerprint (.authorizePayment c)) payment now service.claimStuckAfter))
        ⟨drawn.paymentIDs + 1, drawn.bankOperationKeys + 1⟩
  | retryAuthorization (c : RetryAuthorizationCommand) :
      Built service now drawn (.retryAuthorization c)
        (.existing (newAuthorizationRetryClaimRequest c.idempotencyKey
          (service.requestFingerprint (.retryAuthorization c)) c.paymentID
          (service.authorizationCardFingerprint c.card) now service.claimStuckAfter)) drawn
  | capturePayment (c : CapturePaymentCommand) :
      Built service now drawn (.capturePayment c)
        (.existing (newCaptureClaimRequest c.idempotencyKey
          (service.requestFingerprint (.capturePayment c)) c.paymentID
          (service.newBankOperationKey drawn.bankOperationKeys) now service.claimStuckAfter))
        { drawn with bankOperationKeys := drawn.bankOperationKeys + 1 }
  | voidPayment (c : VoidPaymentCommand) :
      Built service now drawn (.voidPayment c)
        (.existing (newVoidClaimRequest c.idempotencyKey
          (service.requestFingerprint (.voidPayment c)) c.paymentID
          (service.newBankOperationKey drawn.bankOperationKeys) now service.claimStuckAfter))
        { drawn with bankOperationKeys := drawn.bankOperationKeys + 1 }
  | refundPayment (c : RefundPaymentCommand) :
      Built service now drawn (.refundPayment c)
        (.existing (newRefundClaimRequest c.idempotencyKey
          (service.requestFingerprint (.refundPayment c)) c.paymentID
          (service.newBankOperationKey drawn.bankOperationKeys) now service.claimStuckAfter))
        { drawn with bankOperationKeys := drawn.bankOperationKeys + 1 }

theorem PaymentService.built_of_prepare {service : PaymentService} {command : Command} {now : Time}
    {drawn drawn' : Draws} {request : ClaimRequest}
    (h : service.prepare command now drawn = (.ok request, drawn')) :
    Built service now drawn command request drawn' := by
  cases command with
  | authorizePayment c =>
    obtain ⟨hrequest, rfl⟩ := Prod.mk.inj h
    cases hnew : newPendingPayment (service.newPaymentID drawn.paymentIDs) c.orderID c.customerID
        c.amountCents (service.newBankOperationKey drawn.bankOperationKeys)
        (service.authorizationCardFingerprint c.card) now with
    | error err => simp [hnew, Except.map] at hrequest
    | ok payment =>
      simp only [hnew, mapError_ok, Except.map, Except.ok.injEq] at hrequest
      subst hrequest
      exact .authorizePayment c payment hnew
  | retryAuthorization c =>
    obtain ⟨hrequest, rfl⟩ := Prod.mk.inj h
    cases hrequest
    exact .retryAuthorization c
  | capturePayment c =>
    obtain ⟨hrequest, rfl⟩ := Prod.mk.inj h
    cases hrequest
    exact .capturePayment c
  | voidPayment c =>
    obtain ⟨hrequest, rfl⟩ := Prod.mk.inj h
    cases hrequest
    exact .voidPayment c
  | refundPayment c =>
    obtain ⟨hrequest, rfl⟩ := Prod.mk.inj h
    cases hrequest
    exact .refundPayment c

/-- What every request built for a command has in common. -/
theorem Built.base_eq {service : PaymentService} {now : Time} {drawn drawn' : Draws}
    {command : Command} {request : ClaimRequest}
    (h : Built service now drawn command request drawn') :
    request.base = ⟨command.operation, command.idempotencyKey, service.requestFingerprint command,
      command.operation.expectedStatus, now, service.claimStuckAfter⟩ := by
  cases h <;> rfl

theorem Built.recordKey_eq {service : PaymentService} {now : Time} {drawn drawn' : Draws}
    {command : Command} {request : ClaimRequest}
    (h : Built service now drawn command request drawn') :
    request.base.recordKey = command.recordKey := by
  rw [h.base_eq]
  rfl

/-- A request on an existing payment names the payment of its command. -/
theorem Built.paymentID_eq {service : PaymentService} {now : Time} {drawn drawn' : Draws}
    {command : Command} {request : ExistingPaymentCommandClaimRequest}
    (h : Built service now drawn command (.existing request) drawn') :
    command.paymentID? = some request.paymentID := by
  cases h <;> rfl

/-- A new authorization brings a well-formed pending payment. -/
theorem Built.start_payment {service : PaymentService} {now : Time} {drawn drawn' : Draws}
    {command : Command} {request : AuthorizationStartClaimRequest}
    (h : Built service now drawn command (.start request) drawn') :
    request.payment.WellFormed ∧ request.payment.status = .pending ∧ command.paymentID? = none := by
  cases h with
  | authorizePayment c payment new =>
    refine ⟨wellFormed_of_newPendingPayment new, ?_, rfl⟩
    obtain ⟨_, _, _, _, _, _, _, rfl⟩ := newPendingPayment_eq_ok.mp new
    rfl

/-- Only a new authorization starts a payment. -/
theorem Built.start_operation {service : PaymentService} {now : Time} {drawn drawn' : Draws}
    {command : Command} {request : AuthorizationStartClaimRequest}
    (h : Built service now drawn command (.start request) drawn') :
    command.operation = .authorizePayment := by
  cases h
  rfl

theorem Built.start_updatedAt {service : PaymentService} {now : Time} {drawn drawn' : Draws}
    {command : Command} {request : AuthorizationStartClaimRequest}
    (h : Built service now drawn command (.start request) drawn') :
    request.payment.updatedAt = now := by
  cases h with
  | authorizePayment c payment new =>
    obtain ⟨_, _, _, _, _, _, _, rfl⟩ := newPendingPayment_eq_ok.mp new
    rfl

/-! ## Claims -/

/-- A claim that an attempt may hold for its command. -/
structure ClaimFor (service : PaymentService) (db : Db) (command : Command)
    (claim : PaymentCommandClaim) : Prop where
  operation : claim.operation = command.operation
  key : claim.key = command.idempotencyKey
  fingerprint : claim.requestFingerprint = service.requestFingerprint command
  expected : claim.expectedStatus = command.operation.expectedStatus
  wrote : db.Wrote claim.payment
  status : claim.payment.status = command.operation.expectedStatus
  hasKey : command.operation.HasKey claim.payment
  paymentID : ∀ id, command.paymentID? = some id → claim.payment.id = id

/-- A claim whose payment was marked by the bank's answer. -/
def MarkedFor (service : PaymentService) (db : Db) (command : Command)
    (claim : PaymentCommandClaim) (result : PaymentCommandResult) : Prop :=
  ∃ p answer now kind, ClaimFor service db command { claim with payment := p } ∧
    Marked p now command.operation answer claim.payment kind ∧
    result = ⟨newPaymentResult claim.payment, kind⟩

theorem ClaimFor.recordKey_eq {service : PaymentService} {db : Db} {command : Command}
    {claim : PaymentCommandClaim} (h : ClaimFor service db command claim) :
    claim.recordKey = command.recordKey := by
  rw [PaymentCommandClaim.recordKey, h.operation, h.key]
  rfl

theorem ClaimFor.mono {service : PaymentService} {db db' : Db} {command : Command}
    {claim : PaymentCommandClaim} (h : ClaimFor service db command claim)
    (wrote : ∀ {p}, db.Wrote p → db'.Wrote p) : ClaimFor service db' command claim :=
  { h with wrote := wrote h.wrote }

/-- What an attempt holds in its phase. -/
def Attempt.Inv (service : PaymentService) (db : Db) (attempt : Attempt) : Prop :=
  match attempt.phase with
  | .received => True
  | .claiming request =>
    ∃ drawn drawn', Built service attempt.preparedAt drawn attempt.command request drawn'
  | .calling claim => ClaimFor service db attempt.command claim
  | .awaiting claim => ClaimFor service db attempt.command claim
  | .completing claim result => MarkedFor service db attempt.command claim result
  | .persisting claim result _ => MarkedFor service db attempt.command claim result
  | .releasing claim _ => ClaimFor service db attempt.command claim
  | .returned _ => True
  | .died => True

theorem Attempt.Inv.mono {service : PaymentService} {db db' : Db} {attempt : Attempt}
    (h : attempt.Inv service db) (wrote : ∀ {p}, db.Wrote p → db'.Wrote p) :
    attempt.Inv service db' := by
  unfold Attempt.Inv at h ⊢
  split <;> rename_i hphase <;> simp only [hphase] at h
  · trivial
  · exact h
  · exact h.mono wrote
  · exact h.mono wrote
  · obtain ⟨p, answer, now, kind, hclaim, hmark⟩ := h
    exact ⟨p, answer, now, kind, hclaim.mono wrote, hmark⟩
  · obtain ⟨p, answer, now, kind, hclaim, hmark⟩ := h
    exact ⟨p, answer, now, kind, hclaim.mono wrote, hmark⟩
  · exact h.mono wrote
  · trivial
  · trivial

/-- The invariant of the system. -/
structure Inv (service : PaymentService) (s : State) : Prop where
  sound : s.db.Sound
  attempts : ∀ id attempt, s.attempts id = some attempt → attempt.Inv service s.db

/-! ## Grants -/

/-- The payment with the key of an operation that settles or refunds it. -/
def Payment.withKey (p : Payment) (key : GoString) : Operation → Payment
  | .capturePayment => { p with captureBankOperationKey := key }
  | .voidPayment => { p with voidBankOperationKey := key }
  | .refundPayment => { p with refundBankOperationKey := key }
  | _ => p

/-- A request gives a payment the key of its operation. -/
structure Keyed (request : ExistingPaymentCommandClaimRequest) (p p' : Payment) : Prop where
  unset : Db.settlementKey request.operation p = []
  eq : p' = p.withKey (trimSpace request.bankOperationKey) request.operation
  step : LifecycleStep p p'
  hasKey : request.operation.HasKey p'
  id : p'.id = p.id
  status : p'.status = p.status

/-- The ways that `ensureBankOperationKey` goes. -/
inductive EnsureKey (db : Db) (request : ExistingPaymentCommandClaimRequest) (p : Payment) :
    Except GoError (Payment × Db) → Prop
  | present (key : request.operation.HasKey p) : EnsureKey db request p (.ok (p, db))
  | update (p' : Payment) (change : PaymentRow → PaymentRow) (keyed : Keyed request p p')
      (column : change (rowOf p) = rowOf p') :
      EnsureKey db request p (db.updateKeyColumn p' change)
  | refused (err : DomainError) (needed : ¬ request.operation.Authorizes)
      (unfit : p.status = request.operation.expectedStatus →
        trimSpace request.bankOperationKey = []) :
      EnsureKey db request p (.error (newInternalPaymentError (.domain err)))
  | unknown (operation : request.operation = .authorizePayment) :
      EnsureKey db request p
        (.error (newInternalPaymentError (.text (ascii "unknown bank operation"))))

/-- Setting the key of a settlement is a step of the lifecycle, in the status that the operation
expects. -/
theorem Payment.withKey_step {p : Payment} {operation : Operation} {key : GoString}
    (needed : ¬ operation.Authorizes) (unset : Db.settlementKey operation p = [])
    (status : p.status = operation.expectedStatus) (normalized : Normalized key) :
    LifecycleStep p (p.withKey key operation) ∧
      Db.settlementKey operation (p.withKey key operation) = key ∧
      (p.withKey key operation).id = p.id ∧ (p.withKey key operation).status = p.status := by
  cases operation with
  | authorizePayment => exact absurd (.inl rfl) needed
  | retryAuthorization => exact absurd (.inr rfl) needed
  | capturePayment => exact ⟨.captureKey _ status unset normalized, rfl, rfl, rfl⟩
  | voidPayment => exact ⟨.voidKey _ status unset normalized, rfl, rfl, rfl⟩
  | refundPayment => exact ⟨.refundKey _ status unset normalized, rfl, rfl, rfl⟩

/-- A branch of `ensureBankOperationKey` for a settlement that has no key yet. -/
private theorem ensureKey_of_unset {db : Db} {request : ExistingPaymentCommandClaimRequest}
    {p : Payment} {set : Except DomainError Payment} {column : Payment → PaymentRow → PaymentRow}
    (needed : ¬ request.operation.Authorizes) (unset : Db.settlementKey request.operation p = [])
    (hset : ∀ {m}, set = .ok m ↔ p.status = request.operation.expectedStatus ∧
      trimSpace request.bankOperationKey ≠ [] ∧
        p.withKey (trimSpace request.bankOperationKey) request.operation = m)
    (hcolumn : ∀ {m}, m = p.withKey (trimSpace request.bankOperationKey) request.operation →
      trimSpace request.bankOperationKey ≠ [] → column m (rowOf p) = rowOf m) :
    EnsureKey db request p
      (set.mapError (fun err => newInternalPaymentError (.domain err)) >>= fun m =>
        db.updateKeyColumn m (column m)) := by
  cases hresult : set with
  | error err =>
    refine .refused err needed fun status => by_contra fun present => ?_
    cases hresult.symm.trans (hset.mpr ⟨status, present, rfl⟩)
  | ok m =>
    obtain ⟨status, present, rfl⟩ := hset.mp hresult
    obtain ⟨hstep, hkey, hid, hstatus⟩ :=
      Payment.withKey_step needed unset status (normalized_trimSpace present)
    have hasKey := hkey.trans_ne present
    exact .update _ _ ⟨unset, rfl, hstep, .inr hasKey, hid, hstatus⟩ (hcolumn rfl present)

theorem Db.ensureKey (db : Db) (request : ExistingPaymentCommandClaimRequest) (p : Payment) :
    EnsureKey db request p (db.ensureBankOperationKey p request) := by
  unfold Db.ensureBankOperationKey
  split
  · -- A retry sends the key of the authorization again.
    next hop => exact .present (.inl (.inr hop))
  · next hop =>
    split_ifs with hkey
    · exact .present (.inr (by rw [hop]; exact hkey))
    · refine ensureKey_of_unset (by rw [hop]; decide) (by rw [hop]; exact not_not.mp hkey) ?_ ?_
      · rw [hop]
        exact Payment.setCaptureBankOperationKey_eq_ok
      · rw [hop]
        rintro _ rfl present
        dsimp only [Payment.withKey]
        simp [rowOf, nullableString, present]
  · next hop =>
    split_ifs with hkey
    · exact .present (.inr (by rw [hop]; exact hkey))
    · refine ensureKey_of_unset (by rw [hop]; decide) (by rw [hop]; exact not_not.mp hkey) ?_ ?_
      · rw [hop]
        exact Payment.setVoidBankOperationKey_eq_ok
      · rw [hop]
        rintro _ rfl present
        dsimp only [Payment.withKey]
        simp [rowOf, nullableString, present]
  · next hop =>
    split_ifs with hkey
    · exact .present (.inr (by rw [hop]; exact hkey))
    · refine ensureKey_of_unset (by rw [hop]; decide) (by rw [hop]; exact not_not.mp hkey) ?_ ?_
      · rw [hop]
        exact Payment.setRefundBankOperationKey_eq_ok
      · rw [hop]
        rintro _ rfl present
        dsimp only [Payment.withKey]
        simp [rowOf, nullableString, present]
  · next hop => exact .unknown hop

/-- What `ensureBankOperationKey` returns and leaves: the payment has the key already, or
it gets it. -/
inductive KeyEnsured (db : Db) (request : ExistingPaymentCommandClaimRequest) (p : Payment) :
    Payment → Db → Prop
  | present (key : request.operation.HasKey p) : KeyEnsured db request p p db
  | set (p' : Payment) (keyed : Keyed request p p') :
      KeyEnsured db request p p' (db.put ⟨p', rowOf p'⟩)

theorem Db.Sound.keyEnsured {db db' : Db} {p p' : Payment}
    {request : ExistingPaymentCommandClaimRequest} (sound : db.Sound)
    (current : db.current p.id = some p)
    (h : db.ensureBankOperationKey p request = .ok (p', db')) :
    KeyEnsured db request p p' db' := by
  have hensure := db.ensureKey request p
  generalize db.ensureBankOperationKey p request = reply at h hensure
  cases hensure with
  | present key =>
    cases h
    exact .present key
  | update keyedPayment change keyed column =>
    obtain ⟨rfl, rfl⟩ := sound.updateKeyColumn_eq_ok h (keyed.id.symm ▸ current) column
    exact .set _ keyed
  | refused | unknown => cases h

/-- Setting the key of an operation changes neither the id of the payment nor a record. -/
theorem Db.kept_of_ensureBankOperationKey {db db' : Db} {p p' : Payment}
    {request : ExistingPaymentCommandClaimRequest}
    (h : db.ensureBankOperationKey p request = .ok (p', db')) :
    p'.id = p.id ∧ db'.records = db.records := by
  have hways := db.ensureKey request p
  generalize db.ensureBankOperationKey p request = result at h hways
  cases hways with
  | present =>
    cases h
    exact ⟨rfl, rfl⟩
  | update keyed change hkeyed =>
    unfold Db.updateKeyColumn at h
    split at h
    · split_ifs at h with hstatus
      · simp only [bind_eq_ok, mapError_eq_ok, Db.writePayment_eq_ok, pure_eq_ok_iff,
          Prod.mk.injEq] at h
        obtain ⟨_, ⟨-, rfl⟩, rfl, rfl⟩ := h
        exact ⟨hkeyed.id, rfl⟩
    · exact absurd h throw_ne_ok
  | refused => cases h
  | unknown => cases h

theorem validateAcquiredPaymentCommand_eq_ok {request : ExistingPaymentCommandClaimRequest}
    {payment : Payment} :
    Db.validateAcquiredPaymentCommand request payment = .ok () ↔
      payment.status = request.expectedStatus ∧
        (request.authorizationCardFingerprint ≠ [] →
          request.authorizationCardFingerprint = payment.authorizationCardFingerprint) := by
  rw [Db.validateAcquiredPaymentCommand, check_bind_eq_ok, rejectIf_eq_ok, rejectIf_eq_ok]
  simp only [not_and, not_not, ne_eq]

theorem validateRecoveredPaymentCommand_eq_ok {request : ExistingPaymentCommandClaimRequest}
    {recordPaymentID : GoString} {payment : Payment} :
    Db.validateRecoveredPaymentCommand request recordPaymentID payment = .ok () ↔
      request.paymentID = recordPaymentID ∧ payment.status = request.expectedStatus ∧
        (request.authorizationCardFingerprint ≠ [] →
          request.authorizationCardFingerprint = payment.authorizationCardFingerprint) ∧
        request.operation ≠ .authorizePayment ∧ request.operation.HasKey payment := by
  rw [Db.validateRecoveredPaymentCommand, check_bind_eq_ok, check_bind_eq_ok, check_bind_eq_ok,
    rejectIf_eq_ok, rejectIf_eq_ok, rejectIf_eq_ok]
  simp only [not_and, not_not, ne_eq]
  refine and_congr_right fun _ => and_congr_right fun _ => and_congr_right fun _ => ?_
  cases request.operation <;>
    simp [Operation.HasKey, Operation.Authorizes, pure, Except.pure]

variable {service : PaymentService} {now : Time} {drawn drawn' : Draws} {command : Command}
  {request : ClaimRequest} {claim : PaymentCommandClaim} {db db' : Db}

/-- What a grant writes to the payments table: nothing, the payment of a new
authorization, or the key of an operation. -/
inductive GrantWrite (db db' : Db) : ClaimRequest → Prop
  | nothing (request : ClaimRequest) (payments : db'.payments = db.payments)
      (history : db'.history = db.history) : GrantWrite db db' request
  | inserted (request : AuthorizationStartClaimRequest)
      (fresh : db.current request.payment.id = none) (stores : db.Stores db' request.payment) :
      GrantWrite db db' (.start request)
  | keyed (request : ExistingPaymentCommandClaimRequest) (p p' : Payment)
      (current : db.current p.id = some p) (id : p.id = request.paymentID)
      (keyed : Keyed request p p') (stores : db.Stores db' p') :
      GrantWrite db db' (.existing request)

theorem Db.Granted.write (grant : db.Granted request claim db') (sound : db.Sound) :
    GrantWrite db db' request := by
  cases grant with
  | start request _ _ _ fresh _ =>
    exact .inserted request (sound.current_eq_none fresh) ⟨rfl, rfl⟩
  | restart => exact .nothing _ rfl rfl
  | acquire request p p' after _ _ _ found _ ensured =>
    have hcurrent := sound.findPaymentByID_eq_ok.mp found
    have hid := sound.id_of_current hcurrent
    rw [← hid] at hcurrent
    cases (sound.setRecord _ _).keyEnsured hcurrent ensured with
    | present => exact .nothing _ rfl rfl
    | set _ keyed => exact .keyed request p p' hcurrent hid keyed ⟨rfl, rfl⟩
  | recover => exact .nothing _ rfl rfl

/-- A claim on an existing payment is one that the command may hold, if the payment is as the
request asks for it. -/
theorem Built.claimFor {request : ExistingPaymentCommandClaimRequest} {payment : Payment}
    (built : Built service now drawn command (.existing request) drawn')
    (wrote : db.Wrote payment) (status : payment.status = request.expectedStatus)
    (key : request.operation.HasKey payment) (id : payment.id = request.paymentID) :
    ClaimFor service db command
      (newClaimedPaymentCommand request.toPaymentCommandClaimRequest payment) := by
  have hbase : request.toPaymentCommandClaimRequest = _ := built.base_eq
  have hoperation : request.operation = command.operation := by rw [hbase]
  have hexpected : request.expectedStatus = command.operation.expectedStatus := by rw [hbase]
  refine ⟨hoperation, ?_, ?_, hexpected, wrote, hexpected ▸ status, hoperation ▸ key, ?_⟩
  · rw [newClaimedPaymentCommand, hbase]
  · rw [newClaimedPaymentCommand, hbase]
  · intro other h
    rw [built.paymentID_eq, Option.some_inj] at h
    exact id.trans h

/-- A granted claim is one that the command may hold. -/
theorem Db.Granted.claimFor (grant : db.Granted request claim db') (sound : db.Sound)
    (built : Built service now drawn command request drawn') :
    ClaimFor service db' command claim := by
  cases grant with
  | start request _ _ _ fresh _ =>
    obtain ⟨hwf, hpending, hnone⟩ := built.start_payment
    cases built with
    | authorizePayment c payment new =>
      exact ⟨rfl, rfl, rfl, rfl, ⟨_, List.mem_cons_self, rfl⟩, hpending, .inl (.inl rfl),
        fun id h => by cases h⟩
  | restart request record payment _ slot stuck found status =>
    cases built with
    | authorizePayment c payment' new =>
      have hcurrent := sound.findPaymentByID_eq_ok.mp found
      exact ⟨rfl, rfl, rfl, rfl, sound.wrote_of_current hcurrent, status, .inl (.inl rfl),
        fun id h => by cases h⟩
  | acquire request p p' after _ _ _ found validated ensured =>
    have hcurrent := sound.findPaymentByID_eq_ok.mp found
    have hid := sound.id_of_current hcurrent
    rw [← hid] at hcurrent
    obtain ⟨hstatus, _⟩ := validateAcquiredPaymentCommand_eq_ok.mp validated
    cases (sound.setRecord _ _).keyEnsured hcurrent ensured with
    | present hkey => exact built.claimFor (sound.wrote_of_current hcurrent) hstatus hkey hid
    | set _ keyed =>
      exact built.claimFor ⟨_, List.mem_cons_self, rfl⟩ (keyed.status.trans hstatus) keyed.hasKey
        (keyed.id.trans hid)
  | recover request record payment _ slot stuck found validated =>
    have hcurrent := sound.findPaymentByID_eq_ok.mp found
    have hid := sound.id_of_current hcurrent
    obtain ⟨hsame, hstatus, _, _, hkey⟩ := validateRecoveredPaymentCommand_eq_ok.mp validated
    exact { built.claimFor (sound.wrote_of_current hcurrent) hstatus hkey
      (hid.trans hsame.symm) with }

/-! ## Completions -/

variable {result : PaymentCommandResult} {completedAt : Time} {row : PaymentRow}
  {record : IdempotencyRecord}

/-- A marked payment whose row still has the expected status is one move away from the
payment in the row, or it is that payment, still pending. -/
theorem MarkedFor.transition (hfor : MarkedFor service db command claim result)
    (sound : db.Sound) (found : db.payments claim.payment.id = some row)
    (rowStatus : row.status = claim.expectedStatus.text) :
    ∃ q, db.current claim.payment.id = some q ∧ row = rowOf q ∧
      q.status = command.operation.expectedStatus ∧
      (claim.payment = q ∧ command.operation = .authorizePayment ∨
        LifecycleMove q claim.payment) ∧
      transitionRow row claim.payment = rowOf claim.payment := by
  obtain ⟨p, answer, at', kind, hclaim, hmark, _⟩ := hfor
  obtain ⟨q, hq, rfl⟩ := sound.exists_current_of_row found
  obtain ⟨q', hq', hevolves⟩ := sound.evolves_current hclaim.wrote
  have hid : p.id = claim.payment.id := hmark.id_eq.symm
  rw [show ({ claim with payment := p } : PaymentCommandClaim).payment = p from rfl, hid, hq,
    Option.some_inj] at hq'
  subst hq'
  have hexpected : claim.expectedStatus = command.operation.expectedStatus := hclaim.expected
  have hstatus : q.status = command.operation.expectedStatus := by
    rw [hexpected] at rowStatus
    exact PaymentStatus.text_injective rowStatus
  -- The status has not changed since the copy was read, so only keys were gained.
  have hgain : GainsKeys p q := hevolves.gainsKeys (hstatus.trans hclaim.status.symm)
  have htransition := hmark.step_of_gainsKeys hgain (sound.wellFormed_of_wrote hclaim.wrote)
    (sound.wellFormed_of_current hq) hclaim.status hclaim.hasKey
  have hsame : SameIdentity q claim.payment := by
    rcases htransition with ⟨heq, _⟩ | hmove
    · exact heq ▸ .refl _
    · exact hmove.step.sameIdentity
  exact ⟨q, hq, rfl, hstatus, htransition, Db.transitionRow_rowOf hsame⟩

theorem MarkedFor.payment_id {paymentID : GoString}
    (hfor : MarkedFor service db command claim result)
    (existing : command.paymentID? = some paymentID) : claim.payment.id = paymentID := by
  obtain ⟨p, _, _, _, hclaim, hmark, _⟩ := hfor
  exact hmark.id_eq.trans (hclaim.paymentID paymentID existing)

/-- A marked payment that can be stored is well formed. -/
theorem MarkedFor.wellFormed (hfor : MarkedFor service db command claim result)
    (sound : db.Sound) (found : db.payments claim.payment.id = some row)
    (rowStatus : row.status = claim.expectedStatus.text) : claim.payment.WellFormed := by
  obtain ⟨q, hq, _, _, htransition, _⟩ := hfor.transition sound found rowStatus
  have hwf := sound.wellFormed_of_current hq
  rcases htransition with ⟨heq, _⟩ | hmove
  · exact heq ▸ hwf
  · exact hmove.step.wellFormed hwf

theorem Db.Completed.stores
    (completion : db.Completed claim result completedAt row record db') (sound : db.Sound)
    (hfor : MarkedFor service db command claim result) : db.Stores db' claim.payment := by
  obtain ⟨q, _, _, _, _, hrow⟩ := hfor.transition sound completion.found completion.rowStatus
  have hafter := completion.after
  rw [hrow] at hafter
  subst hafter
  exact ⟨rfl, rfl⟩

/-! ## The invariant is preserved -/

variable {clock : Time} {id : ℕ} {attempt : Attempt} {action : Action} {effect : Effect}
  {s s' : State} {e : Event}

theorem Attempt.Inv.claimFor_of_waits (h : attempt.Inv service db)
    (phase : attempt.phase.Waits claim) : ClaimFor service db attempt.command claim := by
  unfold Attempt.Inv at h
  rcases phase with hphase | hphase <;> rw [hphase] at h <;> exact h

theorem Attempt.Inv.markedFor (h : attempt.Inv service db)
    (phase : attempt.phase = .persisting claim result completedAt) :
    MarkedFor service db attempt.command claim result := by
  unfold Attempt.Inv at h
  rwa [phase] at h

theorem Attempt.Inv.claimFor_of_releasing {err : GoError} (h : attempt.Inv service db)
    (phase : attempt.phase = .releasing claim err) : ClaimFor service db attempt.command claim := by
  unfold Attempt.Inv at h
  rwa [phase] at h

theorem Attempt.Inv.built (h : attempt.Inv service db)
    (phase : attempt.phase = .claiming request) :
    ∃ drawn drawn', Built service attempt.preparedAt drawn attempt.command request drawn' := by
  unfold Attempt.Inv at h
  rwa [phase] at h

/-- What an attempt has made itself, whatever the tables say: the request it claims with, and
the result of the payment it has marked. -/
def Attempt.Made (service : PaymentService) (attempt : Attempt) : Prop :=
  match attempt.phase with
  | .claiming request =>
    ∃ drawn drawn', Built service attempt.preparedAt drawn attempt.command request drawn'
  | .completing claim result | .persisting claim result _ =>
    result.payment = newPaymentResult claim.payment
  | _ => True

theorem Attempt.Made.built (h : attempt.Made service) (phase : attempt.phase = .claiming request) :
    ∃ drawn drawn', Built service attempt.preparedAt drawn attempt.command request drawn' := by
  unfold Attempt.Made at h
  rwa [phase] at h

theorem Attempt.Made.result_eq (h : attempt.Made service)
    (phase : attempt.phase = .persisting claim result completedAt) :
    result.payment = newPaymentResult claim.payment := by
  unfold Attempt.Made at h
  rwa [phase] at h

theorem Attempt.Inv.made (h : attempt.Inv service db) : attempt.Made service := by
  unfold Attempt.Inv at h
  unfold Attempt.Made
  split
  · next request phase => rwa [phase] at h
  · next claim result phase =>
    rw [phase] at h
    obtain ⟨_, _, _, _, -, -, rfl⟩ := h
    rfl
  · next claim result _ phase =>
    rw [phase] at h
    obtain ⟨_, _, _, _, -, -, rfl⟩ := h
    rfl
  · trivial

theorem AttemptStep.made (rule : AttemptStep service clock drawn db id attempt action effect)
    (made : attempt.Made service) : effect.attempt.Made service := by
  cases rule with
  | prepared request drawn' phase built =>
    exact ⟨drawn, drawn', PaymentService.built_of_prepare built⟩
  | marked => exact rfl
  | stamped claim result phase =>
    unfold Attempt.Made at made
    rwa [phase] at made
  | _ => trivial

/-- What all attempts have made themselves. -/
def State.Made (service : PaymentService) (s : State) : Prop :=
  ∀ id attempt, s.attempts id = some attempt → attempt.Made service

theorem State.Made.step (made : s.Made service) (hstep : SystemStep service s e s') :
    s'.Made service := by
  intro id attempt' h
  rcases hstep.attempt_cases h with hkept | ⟨command, _, _, rfl⟩ |
    ⟨action, attempt, effect, rfl, running, rule, rfl, rfl⟩
  · exact made id attempt' hkept
  · trivial
  · exact rule.made (made id attempt running)

/-- A step leaves the attempt that takes it with what its new phase holds. -/
theorem AttemptStep.attemptInv
    (rule : AttemptStep service clock drawn db id attempt action effect) (sound : db.Sound)
    (inv : attempt.Inv service db) : effect.attempt.Inv service effect.db := by
  cases rule with
  | prepared request drawn' phase built =>
    exact ⟨drawn, drawn', PaymentService.built_of_prepare built⟩
  | granted request claim db' phase grant =>
    obtain ⟨_, _, hbuilt⟩ := inv.built phase
    exact grant.claimFor sound hbuilt
  | sent claim phase => exact inv.claimFor_of_waits phase
  | marked claim answer m kind phase _ mark =>
    have hclaim := inv.claimFor_of_waits phase
    exact ⟨claim.payment, answer, clock, kind, hclaim, hclaim.operation ▸ mark, rfl⟩
  | withdrawn claim answer err phase _ => exact inv.claimFor_of_waits phase
  | stamped claim result phase =>
    unfold Attempt.Inv at inv
    rwa [phase] at inv
  | unprepared => trivial
  | replayed => trivial
  | refused => trivial
  | claimFailed => trivial
  | claimLost => trivial
  | completed => trivial
  | uncompleted => trivial
  | completionFailed => trivial
  | completionLost => trivial
  | released => trivial
  | releaseFailed => trivial
  | died => trivial

/-- What a step of the system writes to the payments table. -/
inductive WriteStep (s s' : State) : Event → Prop
  | nothing (e : Event) (payments : s'.db.payments = s.db.payments)
      (history : s'.db.history = s.db.history) : WriteStep s s' e
  | inserted (id : ℕ) (action : Action) (attempt : Attempt)
      (request : AuthorizationStartClaimRequest) (running : s.attempts id = some attempt)
      (phase : attempt.phase = .claiming (.start request))
      (fresh : s.db.current request.payment.id = none)
      (stores : s.db.Stores s'.db request.payment) : WriteStep s s' (.act id action)
  | keyed (id : ℕ) (action : Action) (attempt : Attempt)
      (request : ExistingPaymentCommandClaimRequest) (p p' : Payment)
      (running : s.attempts id = some attempt)
      (phase : attempt.phase = .claiming (.existing request))
      (current : s.db.current p.id = some p) (paymentID : p.id = request.paymentID)
      (keyed : Keyed request p p') (stores : s.db.Stores s'.db p') : WriteStep s s' (.act id action)
  | completed (id : ℕ) (action : Action) (attempt : Attempt) (claim : PaymentCommandClaim)
      (result : PaymentCommandResult) (completedAt : Time) (q : Payment)
      (running : s.attempts id = some attempt)
      (phase : attempt.phase = .persisting claim result completedAt)
      (current : s.db.current claim.payment.id = some q)
      (status : q.status = attempt.command.operation.expectedStatus)
      (transition : claim.payment = q ∧ attempt.command.operation = .authorizePayment ∨
        LifecycleMove q claim.payment)
      (stores : s.db.Stores s'.db claim.payment) : WriteStep s s' (.act id action)

theorem SystemStep.writeStep (hstep : SystemStep service s e s') (inv : Inv service s) :
    WriteStep s s' e := by
  cases hstep.storeStep with
  | idle _ same => exact .nothing _ (by rw [same]) (by rw [same])
  | granted id action attempt request claim running phase grant =>
    cases grant.write inv.sound with
    | nothing _ payments history => exact .nothing _ payments history
    | inserted request fresh stores =>
      exact .inserted id action attempt request running phase fresh stores
    | keyed request p p' current hid keyed stores =>
      exact .keyed id action attempt request p p' running phase current hid keyed stores
  | completed id action attempt claim result completedAt row record running phase completion =>
    have hfor := (inv.attempts id attempt running).markedFor phase
    obtain ⟨q, hq, _, hstatus, htransition, _⟩ :=
      hfor.transition inv.sound completion.found completion.rowStatus
    exact .completed id action attempt claim result completedAt q running phase hq hstatus
      htransition (completion.stores inv.sound hfor)
  | released id action attempt claim err running phase after =>
    exact .nothing _ (by simp [after]) (by simp [after])
  | cleaned completedBefore scheduled after =>
    exact .nothing _ (by simp [after]) (by simp [after])

/-- A step of the system changes the ledger by at most one step. -/
theorem SystemStep.ledgerStep (hstep : SystemStep service s e s') (inv : Inv service s) :
    s.db.LedgerStep s'.db := by
  cases hstep.writeStep inv with
  | nothing _ payments history => exact .same payments history
  | inserted id action attempt request running phase fresh stores =>
    obtain ⟨_, _, hbuilt⟩ := (inv.attempts id attempt running).built phase
    obtain ⟨hwf, hpending, _⟩ := hbuilt.start_payment
    exact .insert request.payment fresh hpending hwf stores
  | keyed id action attempt request p p' running phase current _ keyed stores =>
    exact .evolve p p' (keyed.id ▸ current) keyed.step stores
  | completed id action attempt claim result completedAt q running phase current _ transition
      stores =>
    rcases transition with ⟨heq, _⟩ | hmove
    · exact .rewrite claim.payment (heq ▸ current) stores
    · exact .evolve q claim.payment current hmove.step stores

theorem Inv.step (inv : Inv service s) (hstep : SystemStep service s e s') : Inv service s' := by
  have hledger := hstep.ledgerStep inv
  refine ⟨inv.sound.ledgerStep hledger, fun id attempt' h => ?_⟩
  rcases hstep.attempt_cases h with hkept | ⟨command, _, _, rfl⟩ |
    ⟨action, attempt, effect, rfl, running, rule, rfl, rfl⟩
  · exact (inv.attempts id attempt' hkept).mono hledger.wrote
  · trivial
  · exact rule.attemptInv inv.sound (inv.attempts id attempt running)

theorem Inv.made (inv : Inv service s) : s.Made service :=
  fun id attempt running => (inv.attempts id attempt running).made

theorem inv_initial (service : PaymentService) (clock : Time) :
    Inv service (State.initial clock) :=
  ⟨Db.sound_empty, fun _ _ h => by cases h⟩

/-- The invariant holds in every state a guarded run reaches. -/
theorem inv_of_reaches {guard : State → Event → Prop} {clock : Time}
    (h : Reaches (PaymentGateway.step service) guard (State.initial clock) s) : Inv service s :=
  h.invariant (inv_initial service clock) fun _ _ _ _ inv _ hstep => inv.step (step_cases hstep)

theorem inv_of_reachable (h : Reachable service s) : Inv service s := by
  obtain ⟨clock, hreaches⟩ := h
  exact inv_of_reaches hreaches

end PaymentGateway
