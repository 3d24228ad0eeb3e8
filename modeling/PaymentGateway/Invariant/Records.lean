/-
# How idempotency records change

A granted claim changes one record: it is inserted, or taken over from an attempt
that got stuck.

`RecordInv` is what is known of a record at any time: it passes the constraints of
its table, and it was opened by a command with its operation, key and fingerprint,
for a payment that is stored. An authorization's record keeps the payment that the
authorization created.
-/

import PaymentGateway.Invariant.Attempts

namespace PaymentGateway

open Lib

/-! ## The record of a granted claim -/

/-- How a grant changes the record of its request. -/
inductive SlotGrant (request : PaymentCommandClaimRequest) (paymentID : GoString) :
    Option IdempotencyRecord → IdempotencyRecord → Bool → Prop
  | acquired (id : nullableString paymentID = some paymentID)
      (valid : idempotencyRecordsCheck request.recordKey (newRecord request paymentID) = true) :
      SlotGrant request paymentID none (newRecord request paymentID) false
  | recovered (record : IdempotencyRecord) (stuck : stuckFor request record)
      (id : record.paymentID = some paymentID) :
      SlotGrant request paymentID (some record) { record with claimedAt := request.now } true

namespace SlotGrant

variable {request : PaymentCommandClaimRequest} {paymentID : GoString}
  {slot : Option IdempotencyRecord} {record : IdempotencyRecord} {recovered : Bool}

theorem fingerprint (h : SlotGrant request paymentID slot record recovered) :
    record.requestFingerprint = request.requestFingerprint := by
  cases h with
  | acquired => rfl
  | recovered record stuck => exact stuck.1

theorem inProgress (h : SlotGrant request paymentID slot record recovered) :
    record.status = .inProgress := by
  cases h with
  | acquired => rfl
  | recovered record stuck => exact stuck.2.1

theorem claimedAt (h : SlotGrant request paymentID slot record recovered) :
    record.claimedAt = request.now := by
  cases h <;> rfl

theorem paymentID_eq (h : SlotGrant request paymentID slot record recovered) :
    record.paymentID = some paymentID := by
  cases h with
  | acquired id => exact id
  | recovered record _ id => exact id

end SlotGrant

private theorem nullableString_of_ne {value : GoString} (h : value ≠ []) :
    nullableString value = some value := by
  simp [nullableString, h]

private theorem eq_some_of_nullStringValue {value : Option GoString} {id : GoString}
    (h : nullStringValue value = id) (hne : id ≠ []) : value = some id := by
  cases value with
  | none => exact absurd h.symm hne
  | some value => exact congrArg some h

theorem Payment.WellFormed.id_ne_nil {p : Payment} (wf : p.WellFormed) : p.id ≠ [] := by
  intro h
  have hvalid := wf.validID
  rw [h] at hvalid
  cases hvalid

variable {service : PaymentService} {now : Time} {drawn drawn' : Draws} {command : Command}
  {request : ClaimRequest} {claim : PaymentCommandClaim} {db db' : Db}

/-- A claim carries the operation, the key and the fingerprint of its request. -/
theorem Db.Granted.recordKey_eq (grant : db.Granted request claim db') :
    claim.recordKey = request.base.recordKey ∧
      claim.requestFingerprint = request.base.requestFingerprint := by
  cases grant <;> exact ⟨rfl, rfl⟩

/-- A grant changes one record, the one of its request. -/
theorem Db.Granted.slot (grant : db.Granted request claim db')
    (built : Built service now drawn command request drawn') :
    ∃ record, SlotGrant request.base claim.payment.id (db.records request.base.recordKey) record
        claim.recovered ∧
      db'.records = Function.update db.records request.base.recordKey (some record) := by
  cases grant with
  | start request _ absent valid fresh _ =>
    obtain ⟨hwf, _, _⟩ := built.start_payment
    rw [show db.records (ClaimRequest.start request).base.recordKey = none from absent]
    exact ⟨_, .acquired (nullableString_of_ne hwf.id_ne_nil) valid, rfl⟩
  | restart request record payment _ slot stuck found _ =>
    -- The id that the record names is the one the payment was found under.
    obtain ⟨hid, hne⟩ := id_of_findPaymentByID found
    rw [show db.records (ClaimRequest.start request).base.recordKey = some record from slot]
    exact ⟨_, .recovered record stuck (eq_some_of_nullStringValue hid.symm (hid ▸ hne)), rfl⟩
  | acquire request p p' _ _ absent valid found _ ensured =>
    obtain ⟨hid, hne⟩ := id_of_findPaymentByID found
    -- Setting the key changes the payments table only, and not the id of the payment.
    obtain ⟨hkept, hrecords⟩ := kept_of_ensureBankOperationKey ensured
    rw [show db.records (ClaimRequest.existing request).base.recordKey = none from absent]
    have hpayment : (newClaimedPaymentCommand request.toPaymentCommandClaimRequest p').payment.id =
        request.paymentID := hkept.trans hid
    rw [hpayment]
    exact ⟨_, .acquired (nullableString_of_ne hne) valid, hrecords⟩
  | recover request record payment _ slot stuck found _ =>
    obtain ⟨hid, hne⟩ := id_of_findPaymentByID found
    rw [show db.records (ClaimRequest.existing request).base.recordKey = some record from slot]
    exact ⟨_, .recovered record stuck (eq_some_of_nullStringValue hid.symm (hid ▸ hne)), rfl⟩

variable {s s' : State} {e : Event} {recordKey : Operation × GoString}

/-! ## What a step does to a record -/

/-- What a step of the system does to the record of an operation and key. -/
inductive RecordStep (service : PaymentService) (s s' : State) (recordKey : Operation × GoString) :
    Event → Option IdempotencyRecord → Option IdempotencyRecord → Prop
  | kept (e : Event) (slot : Option IdempotencyRecord) :
      RecordStep service s s' recordKey e slot slot
  | granted (id : ℕ) (action : Action) (attempt : Attempt) (request : ClaimRequest)
      (claim : PaymentCommandClaim) (slot : Option IdempotencyRecord) (record : IdempotencyRecord)
      (running : s.attempts id = some attempt) (phase : attempt.phase = .claiming request)
      (grant : s.db.Granted request claim s'.db) (observed : .claimed id claim ∈ s'.log)
      (key : attempt.command.recordKey = recordKey)
      (fingerprint : record.requestFingerprint = service.requestFingerprint attempt.command)
      (slotGrant : SlotGrant request.base claim.payment.id slot record claim.recovered) :
      RecordStep service s s' recordKey (.act id action) slot (some record)
  | completed (id : ℕ) (action : Action) (attempt : Attempt) (claim : PaymentCommandClaim)
      (result : PaymentCommandResult) (completedAt : Time) (row : PaymentRow)
      (record : IdempotencyRecord) (running : s.attempts id = some attempt)
      (phase : attempt.phase = .persisting claim result completedAt)
      (completion : s.db.Completed claim result completedAt row record s'.db)
      (commits : action.Commits) (key : claim.recordKey = recordKey) :
      RecordStep service s s' recordKey (.act id action) (some record)
        (some (Db.completedRecord record result completedAt))
  | released (id : ℕ) (action : Action) (attempt : Attempt) (claim : PaymentCommandClaim)
      (err : GoError) (record : IdempotencyRecord) (running : s.attempts id = some attempt)
      (phase : attempt.phase = .releasing claim err) (commits : action.Commits)
      (key : claim.recordKey = recordKey) (inProgress : record.status = .inProgress) :
      RecordStep service s s' recordKey (.act id action) (some record) none
  | cleaned (completedBefore : ℤ) (record : IdempotencyRecord) (completedAt : Time)
      (completed : record.status = .completed) (stamp : record.completedAt = some completedAt)
      (earlier : (completedAt : ℤ) < completedBefore) :
      RecordStep service s s' recordKey (.runCleanup completedBefore) (some record) none

theorem SystemStep.recordStep_of_made (hstep : SystemStep service s e s') (made : s.Made service)
    (recordKey : Operation × GoString) :
    RecordStep service s s' recordKey e (s.db.records recordKey) (s'.db.records recordKey) := by
  -- Each method works on the one record of its key and keeps the others.
  cases hstep.storeStep with
  | idle _ same => exact same ▸ .kept _ _
  | granted id action attempt request claim running phase grant commits observed =>
    obtain ⟨_, _, hbuilt⟩ := (made id attempt running).built phase
    obtain ⟨record, hslot, heq⟩ := grant.slot hbuilt
    rw [heq]
    rcases eq_or_ne recordKey request.base.recordKey with rfl | hne
    · rw [Function.update_self]
      refine .granted id action attempt request claim _ record running phase grant observed
        hbuilt.recordKey_eq.symm ?_ hslot
      rw [hslot.fingerprint, hbuilt.base_eq]
    · rw [Function.update_of_ne hne]
      exact .kept _ _
  | completed id action attempt claim result completedAt row record running phase completion
      commits =>
    rw [completion.after]
    rcases eq_or_ne recordKey claim.recordKey with rfl | hne
    · rw [Db.setRecord_records_self, completion.slot]
      exact .completed id action attempt claim result completedAt row record running phase
        completion commits rfl
    · rw [Db.setRecord_records_of_ne _ _ hne, Db.put_records]
      exact .kept _ _
  | released id action attempt claim err running phase after commits =>
    rw [after]
    rcases s.db.releasePaymentCommand_records_cases claim recordKey with heq |
      ⟨hnone, hkey, record, hslot, hopen⟩
    · rw [heq]
      exact .kept _ _
    · rw [hnone, hslot]
      exact .released id action attempt claim err record running phase commits hkey.symm hopen
  | cleaned completedBefore scheduled after =>
    rw [after]
    rcases s.db.cleanup_records completedBefore recordKey with heq |
      ⟨hnone, record, completedAt, hslot, hcompleted, hstamp, hlt⟩
    · rw [heq]
      exact .kept _ _
    · rw [hnone, hslot]
      exact .cleaned completedBefore record completedAt hcompleted hstamp hlt

theorem SystemStep.recordStep (hstep : SystemStep service s e s') (inv : Inv service s)
    (recordKey : Operation × GoString) :
    RecordStep service s s' recordKey e (s.db.records recordKey) (s'.db.records recordKey) :=
  hstep.recordStep_of_made inv.made recordKey

/-! ## What is known of a record -/

/-- The payment that a record of a command is kept for. -/
def PaymentOf (service : PaymentService) (p : Payment) : Command → Prop
  | .authorizePayment c =>
    p.authorizationCardFingerprint = trimSpace (service.authorizationCardFingerprint c.card)
  | command => command.paymentID? = some p.id

/-- What is known of the record of an operation and key. -/
structure RecordInv (service : PaymentService) (db : Db) (recordKey : Operation × GoString)
    (record : IdempotencyRecord) : Prop where
  check : idempotencyRecordsCheck recordKey record = true
  origin : ∃ command p, command.recordKey = recordKey ∧
    record.requestFingerprint = service.requestFingerprint command ∧
    record.paymentID = some p.id ∧ db.Wrote p ∧ PaymentOf service p command

theorem RecordInv.mono {recordKey : Operation × GoString} {record : IdempotencyRecord}
    (h : RecordInv service db recordKey record) (wrote : ∀ {p}, db.Wrote p → db'.Wrote p) :
    RecordInv service db' recordKey record := by
  obtain ⟨command, p, hkey, hfp, hid, hwrote, hof⟩ := h.origin
  exact ⟨h.check, command, p, hkey, hfp, hid, wrote hwrote, hof⟩

/-- A completed record can be replayed. -/
theorem RecordInv.readable {recordKey : Operation × GoString} {record : IdempotencyRecord}
    (h : RecordInv service db recordKey record) (completed : record.status = .completed) :
    ∃ result, storedResult record = .ok result := by
  have hcheck := h.check
  simp only [idempotencyRecordsCheck, completed, Bool.and_eq_true, Bool.or_eq_true] at hcheck
  obtain ⟨⟨_, hkind⟩, hstatus⟩ := hcheck
  have hresult : record.paymentResult.isSome := by
    rcases hstatus with hstatus | hstatus
    · exact absurd hstatus.1.1.1 (by decide)
    · exact hstatus.1.2
  obtain ⟨payment, hpayment⟩ := Option.isSome_iff_exists.mp hresult
  unfold storedResult
  rw [hpayment]
  cases hfailure : record.failureKind with
  | none => exact ⟨_, rfl⟩
  | some kind =>
    rw [hfailure] at hkind
    obtain rfl : kind = .authorizationExpired := by simpa using hkind
    exact ⟨_, rfl⟩

/-- What is replayed is what the record keeps. -/
theorem paymentResult_of_storedResult {record : IdempotencyRecord} {result : PaymentCommandResult}
    (h : storedResult record = .ok result) : record.paymentResult = some result.payment := by
  unfold storedResult at h
  split at h
  · cases h
  · next payment hpayment =>
    split at h
    · cases h
      exact hpayment
    · obtain ⟨_, -, hpure⟩ := bind_eq_ok.mp h
      obtain rfl := pure_eq_ok_iff.mp hpure
      exact hpayment

/-- The payment a grant opens a record for is the one its command is about. -/
theorem Db.Granted.paymentOf (grant : db.Granted request claim db') (sound : db.Sound)
    (built : Built service now drawn command request drawn') (fresh : claim.recovered = false) :
    PaymentOf service claim.payment command := by
  have hclaim := grant.claimFor sound built
  cases grant with
  | start request =>
    cases built with
    | authorizePayment c payment new =>
      obtain ⟨_, _, _, _, _, _, _, rfl⟩ := newPendingPayment_eq_ok.mp new
      rfl
  | restart => cases fresh
  | acquire request =>
    have hpayment := built.paymentID_eq
    have hid := hclaim.paymentID _ hpayment
    cases built <;> exact hpayment.trans (congrArg some hid.symm)
  | recover => cases fresh

/-- Every record of the system is known. -/
def RecordsInv (service : PaymentService) (s : State) : Prop :=
  ∀ recordKey record, s.db.records recordKey = some record →
    RecordInv service s.db recordKey record

/-- A record that took over a claim, or was completed, passes the constraints it passed
before or was checked against. -/
theorem RecordsInv.step (records : RecordsInv service s) (inv : Inv service s)
    (hstep : SystemStep service s e s') : RecordsInv service s' := by
  have hwrote : ∀ {p}, s.db.Wrote p → s'.db.Wrote p := (hstep.ledgerStep inv).wrote
  have hold : ∀ recordKey record, s.db.records recordKey = some record →
      RecordInv service s'.db recordKey record :=
    fun recordKey record h => (records recordKey record h).mono hwrote
  intro recordKey record' h
  have hrecord := hstep.recordStep inv recordKey
  generalize hbefore : s.db.records recordKey = before at hrecord
  rw [h] at hrecord
  cases hrecord with
  | kept => exact hold recordKey record' hbefore
  | granted id action attempt request claim _ _ running phase grant _ hkey hfingerprint slot =>
    obtain ⟨_, _, hbuilt⟩ := (inv.attempts id attempt running).built phase
    generalize hfresh : claim.recovered = recovered at slot
    cases slot with
    | acquired hid hvalid =>
      rw [← hkey, ← hbuilt.recordKey_eq]
      exact ⟨hvalid, attempt.command, claim.payment, hbuilt.recordKey_eq.symm, hfingerprint, hid,
        (grant.claimFor inv.sound hbuilt).wrote, grant.paymentOf inv.sound hbuilt hfresh⟩
    | recovered record stuck hid =>
      obtain ⟨hcheck, command, p, hkey, hfp, hpayment, hp, hof⟩ := hold _ record hbefore
      exact ⟨hcheck, command, p, hkey, hfp, hpayment, hp, hof⟩
  | completed _ _ _ _ _ _ _ record _ _ completion _ hkey =>
    obtain ⟨_, command, p, hkey', hfp, hpayment, hp, hof⟩ := hold _ record hbefore
    exact ⟨hkey ▸ completion.recordCheck, command, p, hkey', hfp, hpayment, hp, hof⟩

theorem recordsInv_of_reaches {guard : State → Event → Prop} {clock : Time}
    (h : Reaches (PaymentGateway.step service) guard (State.initial clock) s) :
    RecordsInv service s := by
  refine h.invariant (fun _ _ h => by cases h) fun s e s' run records _ hstep => ?_
  exact records.step (inv_of_reaches run) (step_cases hstep)

/-! ## Completed records -/

/-- A step takes a record from in progress to completed. -/
def CompletesRecord (s s' : State) (recordKey : Operation × GoString) : Prop :=
  ∃ record record', s.db.records recordKey = some record ∧ record.status = .inProgress ∧
    s'.db.records recordKey = some record' ∧ record'.status = .completed

theorem Db.Completed.completesRecord_iff {claim : PaymentCommandClaim}
    {result : PaymentCommandResult} {completedAt : Time} {row : PaymentRow}
    {record : IdempotencyRecord}
    (completion : s.db.Completed claim result completedAt row record s'.db)
    (recordKey : Operation × GoString) :
    CompletesRecord s s' recordKey ↔ recordKey = claim.recordKey := by
  constructor
  · rintro ⟨before, after, hbefore, hopen, hafter, hcompleted⟩
    by_contra hne
    rw [completion.after, Db.setRecord_records_of_ne _ _ hne, Db.put_records, hbefore,
      Option.some_inj] at hafter
    rw [← hafter, hopen] at hcompleted
    cases hcompleted
  · rintro rfl
    exact ⟨record, completedRecord record result completedAt, completion.slot,
      completion.inProgress, by rw [completion.after, Db.setRecord_records_self], rfl⟩

/-- A completed record stores the result it was completed with. -/
theorem Db.Completed.storedResult {result : PaymentCommandResult} {completedAt : Time}
    {row : PaymentRow} {record : IdempotencyRecord}
    (completion : db.Completed claim result completedAt row record db') :
    storedResult (Db.completedRecord record result completedAt) = .ok result := by
  have hterminal := completion.terminal
  obtain ⟨payment, kind⟩ := result
  cases kind with
  | none => rfl
  | some kind =>
    have hkind : isTerminalFailureKind kind = true := hterminal kind rfl
    simp [PaymentGateway.storedResult, Db.completedRecord, hkind]

/-- A completed record stays as it is until a cleanup removes it. -/
theorem SystemStep.records_of_completed (hstep : SystemStep service s e s') (inv : Inv service s)
    {recordKey : Operation × GoString} {record : IdempotencyRecord}
    (slot : s.db.records recordKey = some record) (completed : record.status = .completed)
    (kept : ∀ completedBefore completedAt, e = .runCleanup completedBefore →
      record.completedAt = some completedAt → completedBefore ≤ (completedAt : ℤ)) :
    s'.db.records recordKey = some record := by
  have hrecord := hstep.recordStep inv recordKey
  rw [slot] at hrecord
  generalize s'.db.records recordKey = after at hrecord
  cases hrecord with
  | kept => rfl
  | granted _ _ _ _ claim _ _ _ _ _ _ _ _ slotGrant =>
    generalize claim.recovered = recovered at slotGrant
    cases slotGrant with
    | recovered _ stuck => exact absurd (stuck.2.1.symm.trans completed) nofun
  | completed _ _ _ _ _ _ _ _ _ _ completion =>
    exact absurd (completion.inProgress.symm.trans completed) nofun
  | released _ _ _ _ _ _ _ _ _ _ inProgress => exact absurd (inProgress.symm.trans completed) nofun
  | cleaned completedBefore _ completedAt _ stamp earlier =>
    exact absurd earlier (not_lt.mpr (kept completedBefore completedAt rfl stamp))

end PaymentGateway
