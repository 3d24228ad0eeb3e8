/-
# An ambiguous authorization is not repeated

`AuthorizePayment` makes up a payment and an operation key before it knows whether it
will use them. What keeps a repeated request from authorizing a second payment is the
record of the first one: as long as it stands, a later request with the same key and
fingerprint is refused, replayed, or takes over the payment that the first one stored.

The record stands unless an attempt that owns it releases it or a cleanup removes it. An
attempt that dies, whose completion fails, or that gets an unknown outcome, an approval or
a decline from the bank does not release it.
-/

import PaymentGateway.Invariant.Provenance

namespace PaymentGateway

open Lib

/-! ## Attempts with one key and fingerprint -/

/-- A command authorizes a payment with an idempotency key and a request fingerprint. -/
def Command.Authorizes (service : PaymentService) (key fingerprint : GoString)
    (command : Command) : Prop :=
  command.recordKey = (.authorizePayment, key) ∧ service.requestFingerprint command = fingerprint

instance (service : PaymentService) (key fingerprint : GoString) (command : Command) :
    Decidable (command.Authorizes service key fingerprint) :=
  inferInstanceAs (Decidable (_ ∧ _))

/-- An attempt of `AuthorizePayment` with a key and a fingerprint. -/
def State.Authorizes (service : PaymentService) (key fingerprint : GoString) (s : State) (i : ℕ) :
    Prop :=
  ∃ command, s.command? i = some command ∧ command.Authorizes service key fingerprint

/-- Such an attempt created a payment: its claim was granted, and it took none over. -/
structure State.Created (service : PaymentService) (key fingerprint : GoString) (s : State) (i : ℕ)
    (claim : PaymentCommandClaim) : Prop where
  authorizes : s.Authorizes service key fingerprint i
  claimed : .claimed i claim ∈ s.log
  fresh : claim.recovered = false

def Phase.isReleasing : Phase → Bool
  | .releasing _ _ => true
  | _ => false

/-- A cleanup does not remove a record with a fingerprint. -/
def CleanupSpares (recordKey : Operation × GoString) (fingerprint : GoString) (s : State) :
    Event → Prop
  | .runCleanup completedBefore => ∀ record ∈ s.db.records recordKey,
    record.requestFingerprint = fingerprint →
    (s.db.cleanupCompletedIdempotencyRecords completedBefore).records recordKey = some record
  | _ => True

instance (recordKey : Operation × GoString) (fingerprint : GoString) (s : State) (e : Event) :
    Decidable (CleanupSpares recordKey fingerprint s e) := by
  cases e <;> unfold CleanupSpares <;> infer_instance

/-- Attempts commit in time, no attempt with the key and the fingerprint releases its claim,
and no cleanup removes their record. -/
structure Unreleased (service : PaymentService) (key fingerprint : GoString) (s : State)
    (e : Event) : Prop where
  inTime : InTime service s e
  unreleased : ActsWhen (fun _ action attempt =>
    attempt.command.Authorizes service key fingerprint → action.Commits →
      attempt.phase.isReleasing = false) s e
  spared : CleanupSpares (.authorizePayment, key) fingerprint s e

instance (service : PaymentService) (key fingerprint : GoString) (s : State) (e : Event) :
    Decidable (Unreleased service key fingerprint s e) :=
  decidable_of_iff (InTime service s e ∧ ActsWhen (fun _ action attempt =>
      attempt.command.Authorizes service key fingerprint → action.Commits →
        attempt.phase.isReleasing = false) s e ∧
      CleanupSpares (.authorizePayment, key) fingerprint s e)
    ⟨fun h => ⟨h.1, h.2.1, h.2.2⟩, fun h => ⟨h.inTime, h.unreleased, h.spared⟩⟩

variable {service : PaymentService} {key fingerprint : GoString} {s s' : State} {e : Event} {i : ℕ}
  {attempt : Attempt} {claim : PaymentCommandClaim}

theorem State.Authorizes.kept (h : s.Authorizes service key fingerprint i)
    (hstep : SystemStep service s e s') : s'.Authorizes service key fingerprint i := by
  obtain ⟨command, hcommand, hauthorizes⟩ := h
  exact ⟨command, hstep.command?_kept hcommand, hauthorizes⟩

/-- What an attempt authorizes after a step it authorized before. -/
theorem State.Authorizes.before {command : Command} (h : s'.Authorizes service key fingerprint i)
    (hstep : SystemStep service s e s') (before : s.command? i = some command) :
    command.Authorizes service key fingerprint := by
  obtain ⟨command', hcommand', hauthorizes⟩ := h
  rw [hstep.command?_kept before, Option.some_inj] at hcommand'
  exact hcommand' ▸ hauthorizes

theorem State.Created.kept (h : s.Created service key fingerprint i claim)
    (hstep : SystemStep service s e s') : s'.Created service key fingerprint i claim :=
  ⟨h.authorizes.kept hstep, hstep.log_subset h.claimed, h.fresh⟩

/-! ## The record stands -/

/-- A record stays with its fingerprint and its payment. -/
theorem OwnerInv.record_stands (owner : OwnerInv id service s) (inv : Inv service s)
    (allowed : Unreleased service key fingerprint s e) (hstep : SystemStep service s e s')
    {record : IdempotencyRecord} (slot : s.db.records (.authorizePayment, key) = some record)
    (same : record.requestFingerprint = fingerprint) :
    ∃ record', s'.db.records (.authorizePayment, key) = some record' ∧
      record'.requestFingerprint = fingerprint ∧ record'.paymentID = record.paymentID := by
  have hrecord := hstep.recordStep inv (.authorizePayment, key)
  rw [slot] at hrecord
  generalize hafter : s'.db.records (.authorizePayment, key) = after at hrecord
  cases hrecord with
  | kept => exact ⟨record, rfl, same, rfl⟩
  | granted _ _ _ _ claim _ _ _ _ _ _ _ _ slotGrant =>
    -- A grant on a record that exists takes it over and keeps what it names.
    generalize claim.recovered = recovered at slotGrant
    cases slotGrant with
    | recovered => exact ⟨_, rfl, same, rfl⟩
  | completed => exact ⟨_, rfl, same, rfl⟩
  | released id action attempt claim err _ running phase commits hkey =>
    -- Whoever releases in time owns the record, so it has the key and the fingerprint.
    have hlive := allowed.inTime.2 id action attempt rfl running commits
    obtain ⟨record₀, howned⟩ := owner.owned id attempt claim ⟨running, by rw [phase]; rfl⟩ hlive
    have hslot := howned.slot
    rw [hkey, slot, Option.some_inj] at hslot
    subst hslot
    have hclaim := (inv.attempts id attempt running).claimFor_of_releasing phase
    have hauthorizes : attempt.command.Authorizes service key fingerprint :=
      ⟨hclaim.recordKey_eq.symm.trans hkey,
        by rw [← hclaim.fingerprint, ← howned.fingerprint, same]⟩
    have hreleasing := allowed.unreleased id action attempt rfl running hauthorizes commits
    rw [phase] at hreleasing
    cases hreleasing
  | cleaned =>
    cases hstep with
    | runCleanup => exact absurd ((allowed.spared record slot same).symm.trans hafter) nofun

/-- A record with the fingerprint was there before, or one of the attempts has just created
it with its payment. -/
theorem SystemStep.record_created (hstep : SystemStep service s e s') (inv : Inv service s)
    {record' : IdempotencyRecord}
    (h : s'.db.records (.authorizePayment, key) = some record')
    (same : record'.requestFingerprint = fingerprint) :
    (∃ record, s.db.records (.authorizePayment, key) = some record ∧
      record.requestFingerprint = fingerprint ∧ record'.paymentID = record.paymentID) ∨
    ∃ i claim, s'.Created service key fingerprint i claim ∧
      record'.paymentID = some claim.payment.id := by
  have hrecord := hstep.recordStep inv (.authorizePayment, key)
  generalize hbefore : s.db.records (.authorizePayment, key) = before at hrecord
  rw [h] at hrecord
  cases hrecord with
  | kept => exact .inl ⟨record', rfl, same, rfl⟩
  | granted id action attempt request claim _ _ running phase grant observed hkey hfingerprint
      slotGrant =>
    have hid := slotGrant.paymentID_eq
    generalize hfresh : claim.recovered = recovered at slotGrant
    cases slotGrant with
    | acquired =>
      have hcommand := hstep.command?_kept (State.command?_eq running)
      exact .inr ⟨id, claim, ⟨⟨attempt.command, hcommand, hkey, hfingerprint.symm.trans same⟩,
        observed, hfresh⟩, hid⟩
    | recovered record => exact .inl ⟨record, rfl, same, rfl⟩
  | completed _ _ _ _ _ _ _ record => exact .inl ⟨record, rfl, same, rfl⟩

/-- The attempts with the key and the fingerprint all work on the payment of one record, and
one of them created it. -/
structure SoleInv (service : PaymentService) (key fingerprint : GoString) (s : State) : Prop where
  claimed : ∀ i claim, s.Authorizes service key fingerprint i → .claimed i claim ∈ s.log →
    ∃ record, s.db.records (.authorizePayment, key) = some record ∧
      record.requestFingerprint = fingerprint ∧ record.paymentID = some claim.payment.id
  created : ∀ record, s.db.records (.authorizePayment, key) = some record →
    record.requestFingerprint = fingerprint →
    ∃ i claim, s.Created service key fingerprint i claim ∧
      record.paymentID = some claim.payment.id
  once : ∀ i j claim claim', s.Created service key fingerprint i claim →
    s.Created service key fingerprint j claim' → i = j ∧ claim = claim'

/-- A claim that a step shows for one of the attempts was shown before, or it is granted on
their record. -/
theorem SystemStep.authorized_cases (hstep : SystemStep service s e s') (inv : Inv service s)
    (log : LogInv service s) (authorizes : s'.Authorizes service key fingerprint i)
    (claimed : .claimed i claim ∈ s'.log) :
    s.Authorizes service key fingerprint i ∧ .claimed i claim ∈ s.log ∨
    ∃ action attempt request record, e = .act i action ∧ s.attempts i = some attempt ∧
      attempt.phase = .claiming request ∧ s.db.Granted request claim s'.db ∧
      SlotGrant request.base claim.payment.id (s.db.records (.authorizePayment, key)) record
        claim.recovered ∧
      s'.db.records (.authorizePayment, key) = some record ∧
      record.requestFingerprint = fingerprint := by
  rcases hstep.claimed_cases claimed with hold |
    ⟨action, attempt, request, he, running, phase, grant⟩
  · obtain ⟨command, hcommand, _⟩ := log.claimed i claim hold
    exact .inl ⟨⟨command, hcommand, authorizes.before hstep hcommand⟩, hold⟩
  · obtain ⟨hkey, hfingerprint⟩ := authorizes.before hstep (State.command?_eq running)
    obtain ⟨_, _, hbuilt⟩ := (inv.attempts i attempt running).built phase
    obtain ⟨record, hslot, heq⟩ := grant.slot hbuilt
    have hrecordKey : request.base.recordKey = (.authorizePayment, key) :=
      hbuilt.recordKey_eq.trans hkey
    rw [hrecordKey] at hslot heq
    refine .inr ⟨action, attempt, request, record, he, running, phase, grant, hslot, ?_, ?_⟩
    · rw [heq, Function.update_self]
    · rw [hslot.fingerprint, hbuilt.base_eq, hfingerprint]

theorem SoleInv.step (sole : SoleInv service key fingerprint s) (owner : OwnerInv id service s)
    (inv : Inv service s) (log : LogInv service s)
    (allowed : Unreleased service key fingerprint s e) (hstep : SystemStep service s e s') :
    SoleInv service key fingerprint s' := by
  refine ⟨?_, ?_, ?_⟩
  · intro i claim authorizes claimed
    -- The record of an earlier claim stands, and that of a new one is there.
    rcases hstep.authorized_cases inv log authorizes claimed with ⟨hauthorizes, hold⟩ |
      ⟨_, _, _, record, _, _, _, _, hslot, hrecord, hsame⟩
    · obtain ⟨record, hrecord, hsame, hid⟩ := sole.claimed i claim hauthorizes hold
      obtain ⟨record', hrecord', hsame', hid'⟩ :=
        owner.record_stands inv allowed hstep hrecord hsame
      exact ⟨record', hrecord', hsame', hid'.trans hid⟩
    · exact ⟨record, hrecord, hsame, hslot.paymentID_eq⟩
  · intro record' hrecord' hsame'
    rcases hstep.record_created inv hrecord' hsame' with ⟨record, hrecord, hsame, hid⟩ | hcreated
    · obtain ⟨i, claim, hcreated, hpayment⟩ := sole.created record hrecord hsame
      exact ⟨i, claim, hcreated.kept hstep, hid.trans hpayment⟩
    · exact hcreated
  · -- Once there is a claim the record stands, and a payment is created only without it.
    have hfresh : ∀ {claim : PaymentCommandClaim} {request record}, claim.recovered = false →
        SlotGrant request claim.payment.id (s.db.records (.authorizePayment, key)) record
          claim.recovered →
        ∀ j claim', s.Authorizes service key fingerprint j → .claimed j claim' ∉ s.log := by
      intro claim request record fresh slot j claim' authorizes claimed
      obtain ⟨record₀, hrecord₀, _⟩ := sole.claimed j claim' authorizes claimed
      rw [hrecord₀, fresh] at slot
      cases slot
    intro i j claim claim' first second
    rcases hstep.authorized_cases inv log first.authorizes first.claimed with ⟨hfirst, hold⟩ |
      ⟨action, attempt, request, record, he, running, phase, grant, hslot, _⟩ <;>
    rcases hstep.authorized_cases inv log second.authorizes second.claimed with ⟨hsecond, hold'⟩ |
      ⟨action', attempt', request', record', he', running', phase', grant', hslot', _⟩
    · exact sole.once i j claim claim' ⟨hfirst, hold, first.fresh⟩ ⟨hsecond, hold', second.fresh⟩
    · exact absurd hold (hfresh second.fresh hslot' i claim hfirst)
    · exact absurd hold' (hfresh first.fresh hslot j claim' hsecond)
    · -- Both are granted by this step, which grants one claim.
      rw [he] at he'
      cases he'
      rw [running, Option.some_inj] at running'
      subst running'
      rw [phase] at phase'
      cases phase'
      have hclaim := Db.claim_eq_granted.mpr grant
      rw [Db.claim_eq_granted.mpr grant'] at hclaim
      cases hclaim
      exact ⟨rfl, rfl⟩

theorem soleInv_of_reaches {clock : Time}
    (run : Reaches (PaymentGateway.step service) (Unreleased service key fingerprint)
      (State.initial clock) s) : SoleInv service key fingerprint s := by
  refine run.invariant ⟨?_, ?_, ?_⟩ fun s e s' run sole allowed taken =>
    sole.step (ownerInv_of_reaches (run.mono fun _ _ h => h.inTime)) (inv_of_reaches run)
      (logInv_of_reaches run) allowed (step_cases taken)
  · intro _ _ _ h
    cases h
  · intro _ h
    cases h
  · intro _ _ _ _ h
    cases h.claimed

/-! ## Rows -/

/-- A row that a step adds is that of a payment which an attempt has just created. -/
theorem SystemStep.row_added (hstep : SystemStep service s e s') (inv : Inv service s)
    {paymentID : GoString} (absent : s.db.payments paymentID = none)
    (present : s'.db.payments paymentID ≠ none) :
    ∃ i action attempt request claim, e = .act i action ∧ s.attempts i = some attempt ∧
      attempt.phase = .claiming request ∧ s.db.records request.base.recordKey = none ∧
      claim.recovered = false ∧ claim.payment.id = paymentID ∧ .claimed i claim ∈ s'.log := by
  have hsame : ∀ {payments : GoString → Option PaymentRow}, s'.db.payments = payments →
      payments paymentID ≠ none := fun h => h ▸ present
  cases hstep.storeStep with
  | idle _ same => exact absurd absent (hsame (by rw [same]))
  | granted id action attempt request claim running phase grant commits observed =>
    cases grant.write inv.sound with
    | nothing _ payments => exact absurd absent (hsame payments)
    | keyed request p p' current _ keyed stores =>
      -- A key is set on a row that exists.
      rcases eq_or_ne paymentID p'.id with rfl | hne
      · rw [keyed.id, inv.sound.payments_eq, current] at absent
        cases absent
      · exact absurd absent (stores.payments_of_ne hne ▸ present)
    | inserted request fresh stores =>
      generalize hdb : s'.db = db' at grant
      cases grant with
      | start _ _ absentRecord =>
        refine ⟨id, action, attempt, .start request, _, rfl, running, phase, absentRecord, rfl, ?_,
          observed⟩
        by_contra hne
        exact present ((stores.payments_of_ne (Ne.symm hne)).trans absent)
      | restart => exact absurd absent (hsame (by rw [hdb]; rfl))
  | completed id action attempt claim result completedAt row record running phase completion =>
    have hstores := completion.stores inv.sound ((inv.attempts id attempt running).markedFor phase)
    rcases eq_or_ne paymentID claim.payment.id with rfl | hne
    · exact absurd (completion.found.symm.trans absent) nofun
    · exact absurd absent (hstores.payments_of_ne hne ▸ present)
  | released id action attempt claim err running phase after =>
    exact absurd absent (hsame (by rw [after, Db.releasePaymentCommand_payments]))
  | cleaned completedBefore scheduled after =>
    exact absurd absent (hsame (by rw [after, Db.cleanup_payments]))

/-! ## Answers -/

/-- The answers to an authorization that leave its claim alone: an unknown outcome, or an
approval or decline as the bank client reports it. -/
def BankAnswer.EndsAuthorization : BankAnswer → Prop
  | .failed err => isUnknownAuthorizationOutcome err = true
  | .authorization result =>
    result.declineReason = [] ∧ trimSpace result.bankAuthorizationID ≠ [] ∧
      result.authorizationExpiresAt ≠ 0 ∨ result.declineReason ∈ declineReasons
  | _ => False

/-- After such an answer the command is completed and not released. -/
theorem verdict_of_endsAuthorization {p : Payment} {now : Time} {answer : BankAnswer}
    (ends : answer.EndsAuthorization) (pending : p.status = .pending) (time : now ≠ 0) :
    ∃ m, Operation.verdict p now answer .authorizePayment = some (.complete m none) := by
  cases answer with
  | failed err =>
    exact ⟨p, if_pos ends⟩
  | authorization result =>
    obtain ⟨m, hm⟩ := exists_applyAuthorizationOutcome pending time ends
    exact ⟨m, by rw [Operation.verdict, authorizePaymentVerdict, hm]; rfl⟩
  | capture | void | refund => exact ends.elim

/-! ## One authorization -/

/-- A claim with the key and the fingerprint, after one of the attempts created a payment. -/
theorem SoleInv.claim_cases (sole : SoleInv service key fingerprint s) (inv : Inv service s)
    {created : PaymentCommandClaim} {j : ℕ} {request : ClaimRequest} {effect : Effect}
    (first : s.Created service key fingerprint i created) (running : s.attempts j = some attempt)
    (authorizes : attempt.command.Authorizes service key fingerprint)
    (phase : attempt.phase = .claiming request)
    (rule : AttemptStep service s.clock s.drawn s.db j attempt .claim effect) :
    (∃ claim', effect.attempt.phase = .calling claim' ∧ claim'.recovered = true ∧
      claim'.payment.id = created.payment.id) ∨
    (∃ result, s.db.Replays request.base result ∧
      effect.attempt.phase = .returned (replayPaymentCommand result) ∧ effect.db = s.db) ∨
    ∃ err, effect.attempt.phase = .returned (.error err) ∧ effect.db = s.db := by
  cases rule with
  | granted request' claim' db' phase' grant =>
    rw [phase] at phase'
    cases phase'
    obtain ⟨_, _, hbuilt⟩ := (inv.attempts j attempt running).built phase
    obtain ⟨record, hslot, _⟩ := grant.slot hbuilt
    obtain ⟨record₀, hrecord₀, _, hid⟩ := sole.claimed i created first.authorizes first.claimed
    rw [hbuilt.recordKey_eq.trans authorizes.1, hrecord₀] at hslot
    refine .inl ⟨claim', rfl, ?_⟩
    generalize claim'.recovered = recovered at hslot
    cases hslot with
    | recovered _ _ hid' =>
      rw [hid, Option.some_inj] at hid'
      exact ⟨rfl, hid'.symm⟩
  | replayed request' result phase' _ replay =>
    rw [phase] at phase'
    cases phase'
    exact .inr (.inl ⟨result, replay, rfl, rfl⟩)
  | refused request' err phase' refusal => exact .inr (.inr ⟨_, rfl, rfl⟩)

/-- **An ambiguous authorization never becomes a second one.** Let attempts commit in time, let
no attempt of `AuthorizePayment` with a key and a fingerprint release its claim, and let no
cleanup remove their record. Then these attempts create at most one payment; a row that one of
them adds is that of the payment it created, and there was none before. Every request they
send carries the operation key of that payment. Once it is created, a further claim takes it
over, is replayed or is refused. An unknown outcome, an approval and a decline do not release
the claim. -/
theorem authorization_not_repeated (service : PaymentService) (key fingerprint : GoString)
    (clock : Time) (s : State)
    (run : Reaches (PaymentGateway.step service) (Unreleased service key fingerprint)
      (State.initial clock) s) :
    (∀ i j claim claim', s.Created service key fingerprint i claim →
      s.Created service key fingerprint j claim' → i = j ∧ claim = claim') ∧
    (∀ i action s' paymentID, s.Authorizes service key fingerprint i →
      PaymentGateway.step service s (.act i action) = some s' →
      s.db.payments paymentID = none → s'.db.payments paymentID ≠ none →
      (∀ j claim, ¬ s.Created service key fingerprint j claim) ∧
        ∃ claim, s'.Created service key fingerprint i claim ∧ claim.payment.id = paymentID) ∧
    (∀ j paymentID request, .sent j paymentID request ∈ s.log →
      s.Authorizes service key fingerprint j →
      ∃ i claim, s.Created service key fingerprint i claim ∧ claim.payment.id = paymentID ∧
        request.operationKey = claim.payment.authorizationBankOperationKey) ∧
    (∀ i claim j attempt request s', s.Created service key fingerprint i claim →
      s.attempts j = some attempt → attempt.command.Authorizes service key fingerprint →
      attempt.phase = .claiming request →
      PaymentGateway.step service s (.act j .claim) = some s' →
      ∃ attempt', s'.attempts j = some attempt' ∧
        ((∃ claim', attempt'.phase = .calling claim' ∧ claim'.recovered = true ∧
            claim'.payment.id = claim.payment.id) ∨
          (∃ result, s.db.Replays request.base result ∧
            attempt'.phase = .returned (replayPaymentCommand result) ∧ s'.db = s.db) ∨
          ∃ err, attempt'.phase = .returned (.error err) ∧ s'.db = s.db)) ∧
    (∀ j attempt claim answer s', s.attempts j = some attempt →
      attempt.command.Authorizes service key fingerprint → attempt.phase.Waits claim →
      answer.EndsAuthorization →
      PaymentGateway.step service s (.act j (.answer answer)) = some s' →
      ∃ attempt' claim' result, s'.attempts j = some attempt' ∧
        attempt'.phase = .completing claim' result) := by
  have inv := inv_of_reaches run
  have log := logInv_of_reaches run
  have sole := soleInv_of_reaches run
  have owner := ownerInv_of_reaches (run.mono fun _ _ h => h.inTime)
  refine ⟨sole.once, ?_, ?_, ?_, ?_⟩
  · intro i action s' paymentID authorizes taken absent present
    have hstep := step_cases taken
    obtain ⟨_, _, attempt, request, claim, he, running, phase, hnone, fresh, hid, observed⟩ :=
      hstep.row_added inv absent present
    cases he
    obtain ⟨command, hcommand, hauthorizes⟩ := authorizes
    rw [State.command?_eq running, Option.some_inj] at hcommand
    subst hcommand
    obtain ⟨_, _, hbuilt⟩ := (inv.attempts i attempt running).built phase
    rw [hbuilt.recordKey_eq.trans hauthorizes.1] at hnone
    -- An earlier payment would have left its record, but the claim found none.
    refine ⟨fun j claim' created => ?_, claim, ⟨⟨attempt.command,
      hstep.command?_kept (State.command?_eq running), hauthorizes⟩, observed, fresh⟩, hid⟩
    obtain ⟨record, hrecord, _⟩ := sole.claimed j claim' created.authorizes created.claimed
    exact absurd (hrecord.symm.trans hnone) nofun
  · intro j paymentID request sent authorizes
    obtain ⟨command, granted, p, hcommand, hgranted, hgid, hid, hp, rfl⟩ :=
      log.sent j paymentID request sent
    obtain ⟨record, hrecord, hsame, hpayment⟩ := sole.claimed j granted authorizes hgranted
    obtain ⟨i, claim, created, hcreated⟩ := sole.created record hrecord hsame
    have hclaimID : claim.payment.id = granted.payment.id :=
      Option.some_inj.mp (hcreated.symm.trans hpayment)
    refine ⟨i, claim, created, hclaimID.trans hgid, ?_⟩
    -- All versions of one payment have the key that it was created with.
    obtain ⟨command', hcommand', hoperation, _⟩ := authorizes
    rw [hcommand, Option.some_inj] at hcommand'
    subst hcommand'
    obtain ⟨_, _, hclaim⟩ := log.claimed i claim created.claimed
    have hidentity := inv.sound.sameIdentity hclaim.wrote hp
      (hclaimID.trans (hgid.trans hid.symm))
    rw [Command.operationKey_bankRequest, show command.operation = .authorizePayment from
      congrArg Prod.fst hoperation]
    exact hidentity.authorizationKey
  · intro i claim j attempt request s' created running authorizes phase taken
    obtain ⟨effect, rfl, rule⟩ := (step_cases taken).exists_effect running
    exact ⟨effect.attempt, State.attempts_after_self .., sole.claim_cases inv created running
      authorizes phase rule⟩
  · intro j attempt claim answer s' running authorizes waits ends taken
    have hclaim := (inv.attempts j attempt running).claimFor_of_waits waits
    have hoperation : attempt.command.operation = .authorizePayment :=
      congrArg Prod.fst authorizes.1
    -- The attempt has read a time before, and the clock does not go back.
    have htime : s.clock ≠ 0 := by
      obtain ⟨hprepared, _⟩ := log.held j attempt claim ⟨running, waits.held⟩
      intro hzero
      have hle := (owner.prepared j attempt running).2
      rw [hzero] at hle
      exact hprepared (Nat.le_zero.mp hle)
    obtain ⟨m, hverdict⟩ := verdict_of_endsAuthorization ends
      (hclaim.status.trans (by rw [hoperation]; rfl)) htime
    rw [← hoperation, ← hclaim.operation] at hverdict
    obtain ⟨effect, rfl, rule⟩ := (step_cases taken).exists_effect running
    cases rule with
    | marked claim' _ _ _ _ _ _ =>
      exact ⟨_, _, _, State.attempts_after_self .., rfl⟩
    | withdrawn claim' _ err waits' verdict =>
      have hsame := waits'.held
      rw [waits.held, Option.some_inj] at hsame
      rw [← hsame, hverdict] at verdict
      cases verdict

/-- An attempt dies while it waits for the bank, and a second one takes its payment over and
meets a timeout: its request carries the key of the one payment that was created. -/
theorem authorization_not_repeated_recovered :
    ∃ (s : State) (i : ℕ) (claim : PaymentCommandClaim) (request : BankRequest),
      s.Created Sample.service (ascii "k0")
        (Sample.service.requestFingerprint (Sample.authorize (ascii "k0") (by decide))) i claim ∧
      .sent 0 Sample.paymentID request ∈ s.log ∧ .sent 1 Sample.paymentID request ∈ s.log ∧
      claim.payment.id = Sample.paymentID ∧
      request.operationKey = claim.payment.authorizationBankOperationKey ∧
      ∀ j claim', s.Created Sample.service (ascii "k0")
        (Sample.service.requestFingerprint (Sample.authorize (ascii "k0") (by decide))) j claim' →
        i = j ∧ claim = claim' := by
  let command := Sample.authorize (ascii "k0") (by decide)
  let fingerprint := Sample.service.requestFingerprint command
  let request : BankRequest := .authorization ⟨Sample.service.newBankOperationKey 0, ascii "order",
    ascii "customer", 1000, currencyUSD, Sample.card.number, Sample.card.cvv, 12, 2030⟩
  obtain ⟨s, hs, hproperty⟩ := exists_reaches_of_execWhere (fun _ _ => of_decide_eq_true)
    (Sample.call 0 command ++ [.act 0 .die, .tick 100] ++ Sample.call 1 command ++
      Sample.finish 1 (.failed (newPaymentBankTimeoutError .none)))
    (show (execWhere (PaymentGateway.step Sample.service)
      (fun s e => decide (Unreleased Sample.service (ascii "k0") fingerprint s e))
      (State.initial 1) _).any (fun s => decide (.sent 0 Sample.paymentID request ∈ s.log) &&
        decide (.sent 1 Sample.paymentID request ∈ s.log) &&
        (s.command? 1).any fun command =>
          command.Authorizes Sample.service (ascii "k0") fingerprint) = true by decide +kernel)
  simp only [Option.any_eq_true, Bool.and_eq_true, decide_eq_true_eq] at hproperty
  obtain ⟨⟨hfirst, hsecond⟩, command', hcommand', hauthorizes⟩ := hproperty
  obtain ⟨honce, _, hsent, _, _⟩ :=
    authorization_not_repeated Sample.service (ascii "k0") fingerprint 1 s hs
  obtain ⟨i, claim, hcreated, hid, hkey⟩ :=
    hsent 1 Sample.paymentID request hsecond ⟨command', hcommand', hauthorizes⟩
  exact ⟨s, i, claim, request, hcreated, hfirst, hsecond, hid, hkey,
    fun j claim' h => honce i j claim claim' hcreated h⟩

end PaymentGateway
