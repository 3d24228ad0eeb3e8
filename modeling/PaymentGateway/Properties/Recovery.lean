/-
# Recovery meets consistent facts

An attempt that takes over a stuck record relies on facts that other transactions
left behind: the payment that the record names, its operation key and the
fingerprint of its card. They were in place when the record was opened. Since then
the payment may have moved on, and then the operation no longer applies; as long as
it has not, nothing was taken away from it. So the only refusal a recovery can meet
is that the status of the payment has changed.
-/

import PaymentGateway.Properties.BankRequests

namespace PaymentGateway

open Lib

variable {service : PaymentService} {s s' : State} {e : Event} {db db' : Db}

/-! ## Requests with the same fingerprint -/

/-- Commands with the same operation and request fingerprint are about the same payment and
carry the same card. -/
theorem PaymentService.Hashes.request_eq (hashes : service.Hashes) {first second : Command}
    (operation : first.operation = second.operation)
    (fingerprint : service.requestFingerprint first = service.requestFingerprint second) :
    first.paymentID? = second.paymentID? ∧
      ∀ p, CardOf service first p → CardOf service second p := by
  have hpayload : first.payload = second.payload := hashes.injective fingerprint
  cases first <;> cases second <;> cases operation
  case authorizePayment first second =>
    have hprint := hashes.authorizationCardFingerprint_eq fingerprint
    refine ⟨rfl, fun p hcard card hsecond => ?_⟩
    cases hsecond
    exact (hcard _ rfl).trans hprint
  case retryAuthorization first second =>
    obtain ⟨hid, hcards⟩ := retryAuthorizationPayload_inj hpayload
    refine ⟨congrArg some hid, fun p hcard card hsecond => ?_⟩
    cases hsecond
    exact (hcard _ rfl).trans (congrArg service.mac (authorizationCardPayload_congr hcards))
  -- The other operations carry no card.
  case capturePayment first second =>
    exact ⟨congrArg some (paymentOperationPayload_inj hpayload), fun _ _ _ h => by cases h⟩
  case voidPayment first second =>
    exact ⟨congrArg some (paymentOperationPayload_inj hpayload), fun _ _ _ h => by cases h⟩
  case refundPayment first second =>
    exact ⟨congrArg some (paymentOperationPayload_inj hpayload), fun _ _ _ h => by cases h⟩

/-! ## What an open record relies on -/

/-- A record was opened for a command on a version of a payment that was ready for it. -/
structure OpenedFor (service : PaymentService) (db : Db) (recordKey : Operation × GoString)
    (record : IdempotencyRecord) (command : Command) (p : Payment) : Prop where
  recordKey : command.recordKey = recordKey
  fingerprint : record.requestFingerprint = service.requestFingerprint command
  named : record.paymentID = some p.id
  wrote : db.Wrote p
  status : p.status = command.operation.expectedStatus
  hasKey : command.operation.HasKey p
  paymentID : ∀ id, command.paymentID? = some id → p.id = id
  card : CardOf service command p

/-- Every record in progress was opened for a payment that was ready for its command. -/
def OpensInv (service : PaymentService) (s : State) : Prop :=
  ∀ recordKey record, s.db.records recordKey = some record → record.status = .inProgress →
    ∃ command p, OpenedFor service s.db recordKey record command p

theorem OpensInv.step (opens : OpensInv service s) (inv : Inv service s)
    (records : RecordsInv service s) (hashes : service.Hashes)
    (hstep : SystemStep service s e s') : OpensInv service s' := by
  intro recordKey record' h hopen
  have hrecord := hstep.recordStep inv recordKey
  generalize hbefore : s.db.records recordKey = before at hrecord
  rw [h] at hrecord
  cases hrecord with
  | kept =>
    obtain ⟨command, p, hopened⟩ := opens recordKey record' hbefore hopen
    exact ⟨command, p, { hopened with wrote := (hstep.ledgerStep inv).wrote hopened.wrote }⟩
  | granted id action attempt request claim _ _ running phase grant _ hkey hfingerprint slot =>
    -- A new claim and one that was taken over hold the same: a payment ready for the command.
    obtain ⟨_, _, hbuilt⟩ := (inv.attempts id attempt running).built phase
    have hclaim := grant.claimFor inv.sound hbuilt
    exact ⟨attempt.command, claim.payment, hkey, hfingerprint, slot.paymentID_eq, hclaim.wrote,
      hclaim.status, hclaim.hasKey, hclaim.paymentID, grant.cardOf inv.sound hbuilt hashes records⟩
  | completed => cases hopen

theorem opensInv_of_reaches {guard : State → Event → Prop} {clock : Time}
    (hashes : service.Hashes)
    (h : Reaches (PaymentGateway.step service) guard (State.initial clock) s) :
    OpensInv service s := by
  refine h.invariant (fun _ _ h => by cases h) fun s e s' run opens _ hstep => ?_
  exact opens.step (inv_of_reaches run) (recordsInv_of_reaches run) hashes (step_cases hstep)

theorem Operation.HasKey.of_gainsKeys {operation : Operation} {p q : Payment}
    (key : operation.HasKey p) (gain : GainsKeys p q) : operation.HasKey q := by
  refine key.imp id fun hkey => ?_
  cases operation with
  | authorizePayment => exact absurd rfl hkey
  | retryAuthorization => exact absurd rfl hkey
  | capturePayment => exact (gain.captureKey hkey).trans_ne hkey
  | voidPayment => exact (gain.voidKey hkey).trans_ne hkey
  | refundPayment => exact (gain.refundKey hkey).trans_ne hkey

/-- The stored payment that a record in progress names. -/
structure Named (service : PaymentService) (db : Db) (recordKey : Operation × GoString)
    (record : IdempotencyRecord) (command : Command) (payment : Payment) : Prop where
  recordKey : command.recordKey = recordKey
  fingerprint : record.requestFingerprint = service.requestFingerprint command
  named : record.paymentID = some payment.id
  stored : db.findPaymentByID payment.id = .ok payment
  paymentID : ∀ id, command.paymentID? = some id → payment.id = id
  hasKey : payment.status = command.operation.expectedStatus → command.operation.HasKey payment
  card : CardOf service command payment

/-- Whatever happened since the record was opened, its payment is still stored, and it still
has its key unless its status has changed. -/
theorem OpenedFor.exists_named {recordKey : Operation × GoString} {record : IdempotencyRecord}
    {command : Command} {p : Payment} (opened : OpenedFor service db recordKey record command p)
    (sound : db.Sound) : ∃ payment, Named service db recordKey record command payment := by
  obtain ⟨q, hcurrent, hevolves⟩ := sound.evolves_current opened.wrote
  have hid := sound.id_of_current hcurrent
  refine ⟨q, opened.recordKey, opened.fingerprint, hid ▸ opened.named,
    sound.findPaymentByID_eq_ok.mpr (hid ▸ hcurrent),
    fun id h => hid.trans (opened.paymentID id h), fun hstatus => ?_, fun card h => ?_⟩
  · exact opened.hasKey.of_gainsKeys (hevolves.gainsKeys (hstatus.trans opened.status.symm))
  · have hsame := sound.sameIdentity opened.wrote (sound.wrote_of_current hcurrent) hid.symm
    exact hsame.cardFingerprint.trans (opened.card card h)

/-! ## What a claim can be refused for -/

/-- The card that a request on an existing payment asks for. -/
theorem Built.card_eq {now : Time} {drawn drawn' : Draws} {command : Command}
    {request : ExistingPaymentCommandClaimRequest} {p : Payment}
    (built : Built service now drawn command (.existing request) drawn')
    (card : CardOf service command p) (asked : request.authorizationCardFingerprint ≠ []) :
    request.authorizationCardFingerprint = p.authorizationCardFingerprint := by
  cases built with
  | retryAuthorization c => exact (card c.card rfl).symm
  | capturePayment => exact absurd rfl asked
  | voidPayment => exact absurd rfl asked
  | refundPayment => exact absurd rfl asked

/-- A recovery with the facts of an open record is refused for the status alone. -/
theorem Named.refused_eq {request : ClaimRequest} {record : IdempotencyRecord} {err : GoError}
    {now : Time} {drawn drawn' : Draws} {command origin : Command} {payment : Payment}
    (named : Named service db request.base.recordKey record origin payment)
    (hashes : service.Hashes) (built : Built service now drawn command request drawn')
    (stuck : stuckFor request.base record) (refused : db.RecoveryRefused record err request) :
    err = newIdempotencyRecoveryError .conflict (newPaymentStatusConflictError .none) := by
  have hfound : db.findPaymentByID (nullStringValue record.paymentID) = .ok payment := by
    rw [named.named]
    exact named.stored
  have hoperation : origin.operation = command.operation :=
    congrArg Prod.fst (named.recordKey.trans built.recordKey_eq)
  have hfingerprint : service.requestFingerprint origin = service.requestFingerprint command := by
    rw [← named.fingerprint, stuck.1, built.base_eq]
  obtain ⟨hid, hcard⟩ := hashes.request_eq hoperation hfingerprint
  -- The origin of the record and the command agree on everything that is checked but the status.
  cases refused with
  | missing _ hfind =>
    rw [Db.findRecoveredPayment_eq_ok.mpr hfound] at hfind
    cases hfind
  | invalid request payment' hfound' hvalidate =>
    obtain rfl : payment = payment' := Except.ok.inj (hfound.symm.trans hfound')
    have hpayment : request.paymentID = nullStringValue record.paymentID := by
      rw [named.named]
      exact (named.paymentID _ (hid.trans built.paymentID_eq)).symm
    have hbase : request.toPaymentCommandClaimRequest = _ := built.base_eq
    by_cases hstatus : payment.status = request.expectedStatus
    · -- With the status in place the key and the card are, too, and nothing is refused.
      have hready : payment.status = origin.operation.expectedStatus := by
        rw [hstatus, hbase, hoperation]
      have hkey : request.operation.HasKey payment := by
        rw [hbase]
        exact hoperation ▸ named.hasKey hready
      have hexisting : request.operation ≠ .authorizePayment := by
        intro h
        cases built <;> cases h
      rw [validateRecoveredPaymentCommand_eq_ok.mpr ⟨hpayment, hstatus,
        built.card_eq (hcard payment named.card), hexisting, hkey⟩] at hvalidate
      cases hvalidate
    · rw [Db.validateRecoveredPaymentCommand, rejectIf_of_not _ (not_not.mpr hpayment), ok_bind,
        rejectIf_of _ hstatus, error_bind] at hvalidate
      exact (Except.error.inj hvalidate).symm

/-- Digests being injective, recovery never meets inconsistent facts: in every reachable
state each record in progress names a stored payment, the one that its request is about,
which has the operation's key and the request's card as long as it has the status the
operation expects; every stored record can be interpreted; and a claim is refused as a
failed recovery only because the status of the payment has changed. -/
theorem recovery_consistent (service : PaymentService) (hashes : service.Hashes) (s : State)
    (hs : Reachable service s) :
    (∀ recordKey record, s.db.records recordKey = some record → record.status = .inProgress →
      ∃ command payment, Named service s.db recordKey record command payment) ∧
    (∀ recordKey record request, s.db.records recordKey = some record →
      ∃ outcome, selectStatement request (some record) = .ok outcome) ∧
    ∀ command now drawn request drawn' err db',
      service.prepare command now drawn = (.ok request, drawn') →
      s.db.claim request = (.error err, db') →
      recoveryResultOf err = none ∨
        err = newIdempotencyRecoveryError .conflict (newPaymentStatusConflictError .none) := by
  obtain ⟨clock, hreaches⟩ := hs
  have hsound := (inv_of_reaches hreaches).sound
  have hrecords := recordsInv_of_reaches hreaches
  have hnamed : ∀ recordKey record, s.db.records recordKey = some record →
      record.status = .inProgress →
      ∃ command payment, Named service s.db recordKey record command payment := by
    intro recordKey record hslot hopen
    -- The command that opened the record tells which payment it names.
    obtain ⟨command, p, hopened⟩ := opensInv_of_reaches hashes hreaches recordKey record hslot hopen
    exact ⟨command, hopened.exists_named hsound⟩
  refine ⟨hnamed, fun recordKey record request hslot => ?_,
    fun command now drawn request drawn' err db' hprepare hclaim => ?_⟩
  · cases hstatus : record.status with
    | inProgress =>
      rw [selectStatement, hstatus]
      dsimp only
      split_ifs
      · exact ⟨_, rfl⟩
      · exact ⟨_, rfl⟩
    | completed =>
      obtain ⟨result, hresult⟩ := (hrecords recordKey record hslot).readable hstatus
      rw [selectStatement, hstatus]
      dsimp only
      rw [hresult, ok_bind]
      split_ifs
      · exact ⟨_, rfl⟩
      · exact ⟨_, rfl⟩
  · obtain hnone | ⟨record, hslot, hstuck, hrefused⟩ := Db.recoveryRefused_of_claim hclaim
    · exact .inl hnone
    · obtain ⟨origin, payment, named⟩ := hnamed _ record hslot hstuck.2.1
      exact .inr (named.refused_eq hashes (PaymentService.built_of_prepare hprepare) hstuck
        hrefused)

/-- The claim of a capture would be refused for the status, as a failed recovery. -/
def Sample.refusesRecovery (s : State) : Bool :=
  match Sample.service.prepare (Sample.capture (ascii "k1") (by decide)) 100 s.drawn with
  | (.ok request, _) => decide ((s.db.claim request).1 =
      .error (newIdempotencyRecoveryError .conflict (newPaymentStatusConflictError .none)))
  | _ => false

/-- A capture that got stuck after another one had captured the payment: its record still
names the payment, and its recovery is refused for the status. -/
theorem recovery_consistent_overtaken :
    ∃ s : State, Reachable Sample.service s ∧
      (∃ record command payment,
        s.db.records (.capturePayment, ascii "k1") = some record ∧ record.status = .inProgress ∧
        Named Sample.service s.db (.capturePayment, ascii "k1") record command payment) ∧
      ∃ request drawn' db',
        Sample.service.prepare (Sample.capture (ascii "k1") (by decide)) 100 s.drawn =
          (.ok request, drawn') ∧
        s.db.claim request =
          (.error (newIdempotencyRecoveryError .conflict (newPaymentStatusConflictError .none)),
            db') := by
  obtain ⟨s, hs, hproperty⟩ := exists_reachable Sample.service 1
    (Sample.authorized ++ Sample.call 1 (Sample.capture (ascii "k1") (by decide)) ++
      Sample.call 2 (Sample.capture (ascii "k2") (by decide)) ++
      Sample.finish 2 (.capture (ascii "cap-1")))
    (fun s => (s.db.records (.capturePayment, ascii "k1")).any (·.status == .inProgress) &&
      Sample.refusesRecovery s)
    (by decide +kernel)
  simp only [Bool.and_eq_true, Option.any_eq_true, beq_iff_eq] at hproperty
  obtain ⟨⟨record, hslot, hopen⟩, hclaim⟩ := hproperty
  obtain ⟨hnamed, -, -⟩ := recovery_consistent Sample.service Sample.hashes s hs
  obtain ⟨command, payment, named⟩ := hnamed _ record hslot hopen
  refine ⟨s, hs, ⟨record, command, payment, hslot, hopen, named⟩, ?_⟩
  unfold Sample.refusesRecovery at hclaim
  split at hclaim
  next request drawn' hprepare =>
    exact ⟨request, drawn', _, hprepare, Prod.ext (of_decide_eq_true hclaim) rfl⟩
  next => cases hclaim

end PaymentGateway
