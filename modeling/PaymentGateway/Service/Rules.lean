/-
# The rules of an attempt

What a step of an attempt can do, one rule for each way it can go. Invariants are
proved by cases on the rules; no other proof unfolds the step function.

A claim is completed with a payment that the bank's answer marked. The copy that
was marked may be older than the stored payment, but as long as the status has not
changed the stored payment can only have gained keys, and then the marked copy is
one lifecycle step away from what is stored.
-/

import PaymentGateway.Service.System
import PaymentGateway.Store.Ledger

namespace PaymentGateway

open Lib

/-! ## Marked payments -/

/-- An operation asks the bank for an authorization. -/
def Operation.Authorizes (operation : Operation) : Prop :=
  operation = .authorizePayment ∨ operation = .retryAuthorization

instance Operation.decidableAuthorizes (operation : Operation) : Decidable operation.Authorizes :=
  inferInstanceAs (Decidable (_ ∨ _))

/-- An operation settles an authorization. -/
def Operation.Settles (operation : Operation) : Prop :=
  operation = .capturePayment ∨ operation = .voidPayment

/-- The payment that an operation completes with after an answer at a time, and the
kind of failure it completes as. -/
inductive Marked (p : Payment) (now : Time) :
    Operation → BankAnswer → Payment → Option PaymentErrorKind → Prop
  | unknown (err : GoError) (unknown : isUnknownAuthorizationOutcome err = true) :
      Marked p now .authorizePayment (.failed err) p none
  | authorized (operation : Operation) (result : BankAuthorizationResult) (m : Payment)
      (authorizes : operation.Authorizes) (approved : result.declineReason = [])
      (mark : p.markAuthorized result.bankAuthorizationID result.authorizationExpiresAt now =
        .ok m) :
      Marked p now operation (.authorization result) m none
  | declined (operation : Operation) (result : BankAuthorizationResult) (m : Payment)
      (authorizes : operation.Authorizes) (declined : result.declineReason ≠ [])
      (mark : p.markDeclined result.declineReason now = .ok m) :
      Marked p now operation (.authorization result) m none
  | captured (bankCaptureID : GoString) (m : Payment)
      (mark : p.markCaptured bankCaptureID now = .ok m) :
      Marked p now .capturePayment (.capture bankCaptureID) m none
  | voided (bankVoidID : GoString) (m : Payment) (mark : p.markVoided bankVoidID now = .ok m) :
      Marked p now .voidPayment (.void bankVoidID) m none
  | refunded (bankRefundID : GoString) (m : Payment)
      (mark : p.markRefunded bankRefundID now = .ok m) :
      Marked p now .refundPayment (.refund bankRefundID) m none
  | expired (operation : Operation) (err : GoError) (m : Payment) (settles : operation.Settles)
      (expired : hasPaymentErrorKind err .authorizationExpired = true)
      (mark : p.markExpired now = .ok m) :
      Marked p now operation (.failed err) m (some .authorizationExpired)

theorem settle_eq_complete {marked : Except DomainError Payment} {m : Payment}
    {kind kind' : Option PaymentErrorKind} :
    settle marked kind = .complete m kind' ↔ marked = .ok m ∧ kind = kind' := by
  cases marked <;> simp [settle]

/-- A complete approval, or a decline with a reason of the gateway's own, can be recorded on a
pending payment. -/
theorem exists_applyAuthorizationOutcome {p : Payment} {now : Time}
    {result : BankAuthorizationResult} (pending : p.status = .pending) (time : now ≠ 0)
    (complete : result.declineReason = [] ∧ trimSpace result.bankAuthorizationID ≠ [] ∧
      result.authorizationExpiresAt ≠ 0 ∨ result.declineReason ∈ declineReasons) :
    ∃ m, applyAuthorizationOutcome p result now = .ok m := by
  unfold applyAuthorizationOutcome
  rcases complete with ⟨happroved, hid, hexpires⟩ | hdeclined
  · rw [if_neg (not_not.mpr happroved)]
    exact ⟨_, Payment.markAuthorized_eq_ok.mpr ⟨pending, hid, time, hexpires, rfl⟩⟩
  · rw [if_pos (declineReason_ne_nil hdeclined)]
    exact ⟨_, Payment.markDeclined_eq_ok.mpr ⟨pending, hdeclined, time, rfl⟩⟩

private theorem marked_of_authorization {p m : Payment} {now : Time} {operation : Operation}
    {result : BankAuthorizationResult} {kind : Option PaymentErrorKind}
    (authorizes : operation.Authorizes)
    (h : settle (applyAuthorizationOutcome p result now) none = .complete m kind) :
    Marked p now operation (.authorization result) m kind := by
  obtain ⟨hmark, rfl⟩ := settle_eq_complete.mp h
  unfold applyAuthorizationOutcome at hmark
  split_ifs at hmark with hdeclined
  · exact .declined operation result m authorizes hdeclined hmark
  · exact .authorized operation result m authorizes (not_not.mp hdeclined) hmark

private theorem marked_of_settlementFailure {p m : Payment} {now : Time} {operation : Operation}
    {err : GoError} {kind : Option PaymentErrorKind} (settles : operation.Settles)
    (h : settlementFailure p now err = .complete m kind) :
    Marked p now operation (.failed err) m kind := by
  unfold settlementFailure at h
  split_ifs at h with hexpired
  obtain ⟨hmark, rfl⟩ := settle_eq_complete.mp h
  exact .expired operation err m settles hexpired hmark

/-- Every completion verdict is one of the marks. -/
theorem Operation.marked_of_verdict {operation : Operation} {p m : Payment} {now : Time}
    {answer : BankAnswer} {kind : Option PaymentErrorKind}
    (h : operation.verdict p now answer = some (.complete m kind)) :
    Marked p now operation answer m kind := by
  -- An answer of another endpoint has no verdict.
  cases operation with
  | authorizePayment =>
    cases answer with
    | failed err =>
      simp only [Operation.verdict, authorizePaymentVerdict] at h
      split_ifs at h with hunknown
      · cases h
        exact .unknown err hunknown
      · cases h
    | authorization result => exact marked_of_authorization (.inl rfl) (Option.some.inj h)
    | capture | void | refund => cases h
  | retryAuthorization =>
    cases answer with
    | authorization result => exact marked_of_authorization (.inr rfl) (Option.some.inj h)
    | failed | capture | void | refund => cases h
  | capturePayment =>
    cases answer with
    | failed err => exact marked_of_settlementFailure (.inl rfl) (Option.some.inj h)
    | capture bankCaptureID =>
      obtain ⟨hmark, rfl⟩ := settle_eq_complete.mp (Option.some.inj h)
      exact .captured bankCaptureID m hmark
    | authorization | void | refund => cases h
  | voidPayment =>
    cases answer with
    | failed err => exact marked_of_settlementFailure (.inr rfl) (Option.some.inj h)
    | void bankVoidID =>
      obtain ⟨hmark, rfl⟩ := settle_eq_complete.mp (Option.some.inj h)
      exact .voided bankVoidID m hmark
    | authorization | capture | refund => cases h
  | refundPayment =>
    cases answer with
    | refund bankRefundID =>
      obtain ⟨hmark, rfl⟩ := settle_eq_complete.mp (Option.some.inj h)
      exact .refunded bankRefundID m hmark
    | failed | authorization | capture | void => cases h

/-- The status an operation expects its payment to have. -/
def Operation.expectedStatus : Operation → PaymentStatus
  | .authorizePayment | .retryAuthorization => .pending
  | .capturePayment | .voidPayment => .authorized
  | .refundPayment => .captured

/-- The operations that need a key of their own on the payment. -/
def Operation.HasKey (operation : Operation) (payment : Payment) : Prop :=
  operation.Authorizes ∨ Db.settlementKey operation payment ≠ []

namespace Operation.HasKey

variable {p : Payment}

theorem capture (h : Operation.capturePayment.HasKey p) : p.captureBankOperationKey ≠ [] :=
  h.resolve_left (by decide)

theorem void (h : Operation.voidPayment.HasKey p) : p.voidBankOperationKey ≠ [] :=
  h.resolve_left (by decide)

theorem refund (h : Operation.refundPayment.HasKey p) : p.refundBankOperationKey ≠ [] :=
  h.resolve_left (by decide)

end Operation.HasKey

namespace Marked

variable {p q m : Payment} {now : Time} {operation : Operation} {answer : BankAnswer}
  {kind : Option PaymentErrorKind}

/-- A payment that gained keys while an older copy of it was marked: the marked copy
is what marking the payment itself would give, so it is one step away. -/
theorem step_of_gainsKeys (mark : Marked p now operation answer m kind) (gain : GainsKeys p q)
    (wfp : p.WellFormed) (wfq : q.WellFormed) (status : p.status = operation.expectedStatus)
    (key : operation.HasKey p) :
    m = q ∧ operation = .authorizePayment ∨ LifecycleMove q m := by
  cases mark with
  | unknown err hunknown =>
    -- A pending payment has no key to gain, so the copy is still the payment.
    exact .inl ⟨(gain.eq_of_pending wfp wfq status).symm, rfl⟩
  | authorized _ result _ hauthorizes happroved hmark =>
    obtain ⟨hpending, hid, hnow, hexpires, rfl⟩ := Payment.markAuthorized_eq_ok.mp hmark
    obtain rfl := gain.eq_of_pending wfp wfq hpending
    exact .inr ⟨.authorized _ _ _ hpending (normalized_trimSpace hid) hexpires hnow,
      by simp [hpending]⟩
  | declined _ result _ hauthorizes hdeclined hmark =>
    obtain ⟨hpending, hreason, hnow, rfl⟩ := Payment.markDeclined_eq_ok.mp hmark
    obtain rfl := gain.eq_of_pending wfp wfq hpending
    exact .inr ⟨.declined _ _ hpending hreason hnow, by simp [hpending]⟩
  | captured bankID _ hmark =>
    obtain ⟨hauthorized, hid, hnow, rfl⟩ := Payment.markCaptured_eq_ok.mp hmark
    -- With the capture key set, only the void key can have been added since.
    obtain ⟨void, rfl⟩ := gain.exists_voidKey_of_captureKey wfp wfq hauthorized key.capture
    exact .inr ⟨.captured _ _ hauthorized key.capture (normalized_trimSpace hid) hnow,
      by simp [hauthorized]⟩
  | voided bankID _ hmark =>
    obtain ⟨hauthorized, hid, hnow, rfl⟩ := Payment.markVoided_eq_ok.mp hmark
    obtain ⟨capture, rfl⟩ := gain.exists_captureKey_of_voidKey wfp wfq hauthorized key.void
    exact .inr ⟨.voided _ _ hauthorized key.void (normalized_trimSpace hid) hnow,
      by simp [hauthorized]⟩
  | refunded bankID _ hmark =>
    obtain ⟨hcaptured, hid, hnow, rfl⟩ := Payment.markRefunded_eq_ok.mp hmark
    obtain rfl := gain.eq_of_captured wfp wfq hcaptured key.refund
    exact .inr ⟨.refunded _ _ hcaptured key.refund (normalized_trimSpace hid) hnow,
      by simp [hcaptured]⟩
  | expired _ err _ hsettles hexpired hmark =>
    obtain ⟨hauthorized, hnow, rfl⟩ := Payment.markExpired_eq_ok.mp hmark
    obtain ⟨capture, void, rfl⟩ := gain.exists_keys_of_authorized wfp wfq hauthorized
    exact .inr ⟨.expired _ hauthorized hnow, by simp [hauthorized]⟩

theorem id_eq (mark : Marked p now operation answer m kind) : m.id = p.id := by
  cases mark with
  | unknown => rfl
  | authorized _ _ _ _ _ hmark => exact (Payment.markAuthorized_eq_ok.mp hmark).2.2.2.2 ▸ rfl
  | declined _ _ _ _ _ hmark => exact (Payment.markDeclined_eq_ok.mp hmark).2.2.2 ▸ rfl
  | captured _ _ hmark => exact (Payment.markCaptured_eq_ok.mp hmark).2.2.2 ▸ rfl
  | voided _ _ hmark => exact (Payment.markVoided_eq_ok.mp hmark).2.2.2 ▸ rfl
  | refunded _ _ hmark => exact (Payment.markRefunded_eq_ok.mp hmark).2.2.2 ▸ rfl
  | expired _ _ _ _ _ hmark => exact (Payment.markExpired_eq_ok.mp hmark).2.2 ▸ rfl

/-- Only an expired authorization is completed as a failure. -/
theorem kind_eq (mark : Marked p now operation answer m kind) :
    kind = none ∨ kind = some .authorizationExpired := by
  cases mark <;> simp

end Marked

/-! ## Steps of an attempt -/

/-- The claim an attempt holds while it waits for the bank. -/
def Phase.Waits (phase : Phase) (claim : PaymentCommandClaim) : Prop :=
  phase = .calling claim ∨ phase = .awaiting claim

/-- The claim of an attempt whose payment is marked and not stored yet. -/
def Phase.Marks (phase : Phase) (claim : PaymentCommandClaim) : Prop :=
  ∃ result, phase = .completing claim result ∨ ∃ t, phase = .persisting claim result t

/-- The rules of an attempt. -/
inductive AttemptStep (service : PaymentService) (clock : Time) (drawn : Draws) (db : Db) (id : ℕ)
    (attempt : Attempt) : Action → Effect → Prop
  | prepared (request : ClaimRequest) (drawn' : Draws) (phase : attempt.phase = .received)
      (built : service.prepare attempt.command clock drawn = (.ok request, drawn')) :
      AttemptStep service clock drawn db id attempt .prepare
        ⟨{ attempt with phase := .claiming request, preparedAt := clock }, db, drawn', []⟩
  | unprepared (err : GoError) (drawn' : Draws) (phase : attempt.phase = .received)
      (failed : service.prepare attempt.command clock drawn = (.error err, drawn')) :
      AttemptStep service clock drawn db id attempt .prepare
        ⟨attempt.goto (.returned (.error err)), db, drawn', []⟩
  | granted (request : ClaimRequest) (claim : PaymentCommandClaim) (db' : Db)
      (phase : attempt.phase = .claiming request) (grant : db.Granted request claim db') :
      AttemptStep service clock drawn db id attempt .claim
        ⟨attempt.goto (.calling claim), db', drawn, grantObservations id claim⟩
  | replayed (request : ClaimRequest) (result : PaymentCommandResult)
      (phase : attempt.phase = .claiming request) (time : request.base.now ≠ 0)
      (replay : db.Replays request.base result) :
      AttemptStep service clock drawn db id attempt .claim
        ⟨attempt.goto (.returned (replayPaymentCommand result)), db, drawn, []⟩
  | refused (request : ClaimRequest) (err : GoError) (phase : attempt.phase = .claiming request)
      (refusal : db.claim request = (.error err, db)) :
      AttemptStep service clock drawn db id attempt .claim
        ⟨attempt.goto (.returned (.error (ensurePaymentError err))), db, drawn,
          refusalObservations id request.base.operation err⟩
  | claimFailed (request : ClaimRequest) (committed : Bool)
      (phase : attempt.phase = .claiming request) :
      AttemptStep service clock drawn db id attempt (.storeFails committed)
        ⟨attempt.goto (.returned (.error storeFailure)), db, drawn, []⟩
  /-- The claim was granted, but its caller is told that the store failed. -/
  | claimLost (request : ClaimRequest) (claim : PaymentCommandClaim) (db' : Db)
      (phase : attempt.phase = .claiming request) (grant : db.Granted request claim db') :
      AttemptStep service clock drawn db id attempt (.storeFails true)
        ⟨attempt.goto (.returned (.error storeFailure)), db', drawn, [.claimed id claim]⟩
  | sent (claim : PaymentCommandClaim) (phase : attempt.phase.Waits claim) :
      AttemptStep service clock drawn db id attempt .send
        ⟨attempt.goto (.awaiting claim), db, drawn,
          [.sent id claim.payment.id (attempt.command.bankRequest claim.payment)]⟩
  | marked (claim : PaymentCommandClaim) (answer : BankAnswer) (m : Payment)
      (kind : Option PaymentErrorKind) (phase : attempt.phase.Waits claim)
      (sent : attempt.phase = .awaiting claim ∨ ∃ err, answer = .failed err)
      (mark : Marked claim.payment clock claim.operation answer m kind) :
      AttemptStep service clock drawn db id attempt (.answer answer)
        ⟨attempt.goto (.completing { claim with payment := m } ⟨newPaymentResult m, kind⟩), db,
          drawn, [.answered id claim.payment.id answer]⟩
  | withdrawn (claim : PaymentCommandClaim) (answer : BankAnswer) (err : GoError)
      (phase : attempt.phase.Waits claim)
      (verdict : claim.operation.verdict claim.payment clock answer = some (.release err)) :
      AttemptStep service clock drawn db id attempt (.answer answer)
        ⟨attempt.goto (.releasing claim err), db, drawn, [.answered id claim.payment.id answer]⟩
  | stamped (claim : PaymentCommandClaim) (result : PaymentCommandResult)
      (phase : attempt.phase = .completing claim result) :
      AttemptStep service clock drawn db id attempt .stamp
        ⟨attempt.goto (.persisting claim result clock), db, drawn, []⟩
  | completed (claim : PaymentCommandClaim) (result : PaymentCommandResult) (completedAt : Time)
      (row : PaymentRow) (record : IdempotencyRecord) (db' : Db)
      (phase : attempt.phase = .persisting claim result completedAt)
      (completion : db.Completed claim result completedAt row record db') :
      AttemptStep service clock drawn db id attempt .complete
        ⟨attempt.goto (.returned (completedOutcome result)), db', drawn,
          if claim.recovered then [.recovery id claim.operation .recovered] else []⟩
  | uncompleted (claim : PaymentCommandClaim) (result : PaymentCommandResult) (completedAt : Time)
      (err : GoError) (phase : attempt.phase = .persisting claim result completedAt)
      (refusal : db.completePaymentCommand claim result completedAt = (.error err, db)) :
      AttemptStep service clock drawn db id attempt .complete
        ⟨attempt.goto (.returned (.error (ensurePaymentError err))), db, drawn, []⟩
  | completionFailed (claim : PaymentCommandClaim) (result : PaymentCommandResult)
      (completedAt : Time) (committed : Bool)
      (phase : attempt.phase = .persisting claim result completedAt) :
      AttemptStep service clock drawn db id attempt (.storeFails committed)
        ⟨attempt.goto (.returned (.error storeFailure)), db, drawn, []⟩
  /-- The command was completed, but its caller is told that the store failed. -/
  | completionLost (claim : PaymentCommandClaim) (result : PaymentCommandResult)
      (completedAt : Time) (row : PaymentRow) (record : IdempotencyRecord) (db' : Db)
      (phase : attempt.phase = .persisting claim result completedAt)
      (completion : db.Completed claim result completedAt row record db') :
      AttemptStep service clock drawn db id attempt (.storeFails true)
        ⟨attempt.goto (.returned (.error storeFailure)), db', drawn, []⟩
  | released (claim : PaymentCommandClaim) (err : GoError)
      (phase : attempt.phase = .releasing claim err) :
      AttemptStep service clock drawn db id attempt .release
        ⟨attempt.goto (.returned (.error err)), db.releasePaymentCommand claim, drawn, []⟩
  | releaseFailed (claim : PaymentCommandClaim) (err : GoError) (committed : Bool)
      (phase : attempt.phase = .releasing claim err) :
      AttemptStep service clock drawn db id attempt (.storeFails committed)
        ⟨attempt.goto (.returned (.error err)),
          if committed then db.releasePaymentCommand claim else db, drawn,
          [.releaseFailure id claim.operation]⟩
  | died (live : ∀ outcome, attempt.phase ≠ .returned outcome) (alive : attempt.phase ≠ .died) :
      AttemptStep service clock drawn db id attempt .die ⟨attempt.goto .died, db, drawn, []⟩

private theorem answerStep_cases {service : PaymentService} {clock : Time} {drawn : Draws} {db : Db}
    {id : ℕ} {attempt : Attempt} {claim : PaymentCommandClaim} {answer : BankAnswer}
    {effect : Effect} (phase : attempt.phase.Waits claim)
    (sent : attempt.phase = .awaiting claim ∨ ∃ err, answer = .failed err)
    (h : answerStep clock drawn db id attempt claim answer = some effect) :
    AttemptStep service clock drawn db id attempt (.answer answer) effect := by
  unfold answerStep at h
  split at h
  · next m kind hverdict =>
    cases h
    exact .marked claim answer m kind phase sent (Operation.marked_of_verdict hverdict)
  · next err hverdict =>
    cases h
    exact .withdrawn claim answer err phase hverdict
  · cases h

/-- A step of an attempt follows one of the rules. -/
theorem attemptStep_cases {service : PaymentService} {clock : Time} {drawn : Draws} {db : Db}
    {id : ℕ} {attempt : Attempt} {action : Action} {effect : Effect}
    (h : attemptStep service clock drawn db id attempt action = some effect) :
    AttemptStep service clock drawn db id attempt action effect := by
  unfold attemptStep at h
  -- The cases stand in the order of the definition.
  split at h
  · next hphase =>
    split at h
    · next request drawn' hbuilt =>
      cases h
      exact .prepared request drawn' hphase hbuilt
    · next err drawn' hfailed =>
      cases h
      exact .unprepared err drawn' hphase hfailed
  · next request hphase =>
    split at h
    · next claim db' hclaim =>
      cases h
      exact .granted request claim db' hphase (Db.claim_eq_granted.mp hclaim)
    · next result db' hclaim =>
      cases h
      obtain ⟨htime, hreplay, rfl⟩ := Db.claim_eq_replayed.mp hclaim
      exact .replayed request result hphase htime hreplay
    · next err db' hclaim =>
      cases h
      obtain rfl := Db.claim_eq_error hclaim
      exact .refused request err hphase hclaim
  · next request committed hphase =>
    split_ifs at h with hcommitted
    · cases h
      subst hcommitted
      -- Only a granted claim leaves something behind.
      unfold Db.grant?
      rcases hclaim : db.claim request with ⟨reply, db'⟩
      cases reply with
      | error err =>
        obtain rfl := Db.claim_eq_error hclaim
        exact .claimFailed request true hphase
      | ok answer =>
        cases answer with
        | granted claim =>
          exact .claimLost request claim db' hphase (Db.claim_eq_granted.mp hclaim)
        | replayed result =>
          obtain ⟨_, _, rfl⟩ := Db.claim_eq_replayed.mp hclaim
          exact .claimFailed request true hphase
    · cases h
      exact .claimFailed request committed hphase
  · next claim hphase =>
    cases h
    exact .sent claim (.inl hphase)
  · next claim hphase =>
    cases h
    exact .sent claim (.inr hphase)
  · next claim err hphase => exact answerStep_cases (.inl hphase) (.inr ⟨err, rfl⟩) h
  · next claim answer hphase => exact answerStep_cases (.inr hphase) (.inl hphase) h
  · next claim result hphase =>
    cases h
    exact .stamped claim result hphase
  · next claim result completedAt hphase =>
    split at h
    · next db' hcomplete =>
      cases h
      obtain ⟨row, record, hcompleted⟩ := Db.completePaymentCommand_eq_ok.mp hcomplete
      exact .completed claim result completedAt row record db' hphase hcompleted
    · next err db' hcomplete =>
      cases h
      obtain rfl := Db.completePaymentCommand_eq_error hcomplete
      exact .uncompleted claim result completedAt err hphase hcomplete
  · next claim result completedAt committed hphase =>
    cases h
    cases committed with
    | false => exact .completionFailed claim result completedAt false hphase
    | true =>
      -- A lost completion that is refused leaves nothing behind.
      rcases hcomplete : db.completePaymentCommand claim result completedAt with ⟨reply, db'⟩
      cases reply with
      | error err =>
        obtain rfl := Db.completePaymentCommand_eq_error hcomplete
        exact .completionFailed claim result completedAt true hphase
      | ok _ =>
        obtain ⟨row, record, hcompleted⟩ := Db.completePaymentCommand_eq_ok.mp hcomplete
        exact .completionLost claim result completedAt row record db' hphase hcompleted
  · next claim err hphase =>
    cases h
    exact .released claim err hphase
  · next claim err committed hphase =>
    cases h
    exact .releaseFailed claim err committed hphase
  · cases h
  · cases h
  · next hreturned hdied =>
    cases h
    exact .died (fun outcome hphase => hreturned outcome hphase) hdied
  · cases h

namespace AttemptStep

variable {service : PaymentService} {clock : Time} {drawn : Draws} {db : Db} {id : ℕ}
  {attempt : Attempt} {action : Action} {effect : Effect} {request : ClaimRequest}
  {claim : PaymentCommandClaim}

theorem command_eq (rule : AttemptStep service clock drawn db id attempt action effect) :
    effect.attempt.command = attempt.command := by
  cases rule <;> rfl

/-- An attempt starts to claim when it prepares. -/
theorem of_claiming (rule : AttemptStep service clock drawn db id attempt action effect)
    (h : effect.attempt.phase = .claiming request) :
    attempt.phase = .received ∧ effect.attempt.preparedAt = clock ∧
      service.prepare attempt.command clock drawn = (.ok request, effect.drawn) := by
  cases rule with
  | prepared _ _ phase built =>
    cases h
    exact ⟨phase, rfl, built⟩
  | _ => cases h

/-- An attempt waits for the bank once its claim is granted. -/
theorem of_waits (rule : AttemptStep service clock drawn db id attempt action effect)
    (h : effect.attempt.phase.Waits claim) :
    attempt.phase.Waits claim ∨
      ∃ request, attempt.phase = .claiming request ∧ db.Granted request claim effect.db := by
  cases rule with
  | granted request claimed db' phase grant =>
    rcases h with h | h <;> cases h
    exact .inr ⟨request, phase, grant⟩
  | sent claimed phase =>
    rcases h with h | h <;> cases h
    exact .inl phase
  | _ => rcases h with h | h <;> cases h

/-- An attempt holds a marked payment once the bank's answer marked the one it claimed. -/
theorem of_marks (rule : AttemptStep service clock drawn db id attempt action effect)
    (h : effect.attempt.phase.Marks claim) :
    attempt.phase.Marks claim ∨ ∃ claimed answer kind, action = .answer answer ∧
      attempt.phase.Waits claimed ∧ claim = { claimed with payment := claim.payment } ∧
      Marked claimed.payment clock claimed.operation answer claim.payment kind := by
  obtain ⟨result, h⟩ := h
  cases rule with
  | marked claimed answer m kind phase _ mark =>
    rcases h with h | ⟨_, h⟩ <;> cases h
    exact .inr ⟨claimed, answer, kind, rfl, phase, rfl, mark⟩
  | stamped _ _ phase =>
    rcases h with h | ⟨_, h⟩ <;> cases h
    exact .inl ⟨result, .inl phase⟩
  | _ => rcases h with h | ⟨_, h⟩ <;> cases h

/-- An attempt turns to releasing its claim upon an answer. -/
theorem of_releasing {err : GoError}
    (rule : AttemptStep service clock drawn db id attempt action effect)
    (h : effect.attempt.phase = .releasing claim err) :
    ∃ answer, action = .answer answer ∧ attempt.phase.Waits claim ∧
      claim.operation.verdict claim.payment clock answer = some (.release err) ∧
      effect.observed = [.answered id claim.payment.id answer] := by
  cases rule with
  | withdrawn claimed answer _ phase verdict =>
    cases h
    exact ⟨answer, rfl, phase, verdict, rfl⟩
  | _ => cases h

end AttemptStep

theorem claimed_mem_grantObservations (id : ℕ) (claim : PaymentCommandClaim) :
    .claimed id claim ∈ grantObservations id claim := by
  unfold grantObservations
  split_ifs <;> simp

/-! ## Steps of the system -/

/-- What a step of the system does. -/
inductive SystemStep (service : PaymentService) (s : State) : Event → State → Prop
  | tick (clock : Time) : SystemStep service s (.tick clock) { s with clock }
  | receive (id : ℕ) (command : Command) (free : s.attempts id = none) :
      SystemStep service s (.receive id command)
        { s with attempts :=
            Function.update s.attempts id (some ⟨command, s.clock, s.clock, .received⟩) }
  | act (id : ℕ) (action : Action) (attempt : Attempt) (effect : Effect)
      (running : s.attempts id = some attempt)
      (rule : AttemptStep service s.clock s.drawn s.db id attempt action effect) :
      SystemStep service s (.act id action) (s.after id effect)
  | scheduleCleanup :
      SystemStep service s .scheduleCleanup
        { s with cleanups := ((s.clock : ℤ) - idempotencyReplayWindow) :: s.cleanups }
  | runCleanup (completedBefore : ℤ) (scheduled : completedBefore ∈ s.cleanups) :
      SystemStep service s (.runCleanup completedBefore)
        { s with db := s.db.cleanupCompletedIdempotencyRecords completedBefore,
                 cleanups := s.cleanups.erase completedBefore }

/-- A step of an attempt follows one of the rules of attempts. -/
theorem SystemStep.exists_effect {service : PaymentService} {s s' : State} {id : ℕ}
    {action : Action} {attempt : Attempt} (h : SystemStep service s (.act id action) s')
    (running : s.attempts id = some attempt) :
    ∃ effect, s' = s.after id effect ∧
      AttemptStep service s.clock s.drawn s.db id attempt action effect := by
  cases h with
  | act _ _ attempt' effect running' rule =>
    obtain rfl := Option.some.inj (running.symm.trans running')
    exact ⟨effect, rfl, rule⟩

/-- A step of the system follows one of its rules. -/
theorem step_cases {service : PaymentService} {s s' : State} {e : Event}
    (h : step service s e = some s') : SystemStep service s e s' := by
  cases e with
  | tick clock =>
    cases h
    exact .tick clock
  | receive id command =>
    simp only [step] at h
    split at h
    · cases h
    · next hfree =>
      cases h
      exact .receive id command hfree
  | act id action =>
    simp only [step] at h
    split at h
    · next attempt hrunning =>
      obtain ⟨effect, hstep, rfl⟩ := Option.map_eq_some_iff.mp h
      exact .act id action attempt effect hrunning (attemptStep_cases hstep)
    · cases h
  | scheduleCleanup =>
    cases h
    exact .scheduleCleanup
  | runCleanup completedBefore =>
    simp only [step] at h
    split_ifs at h with hscheduled
    cases h
    exact .runCleanup completedBefore hscheduled

/-- An attempt of the state after a step was there before, has just been received, or is
the one that took the step. -/
theorem SystemStep.attempt_cases {service : PaymentService} {s s' : State} {e : Event}
    (hstep : SystemStep service s e s') {id : ℕ} {attempt' : Attempt}
    (h : s'.attempts id = some attempt') :
    s.attempts id = some attempt' ∨
    (∃ command, e = .receive id command ∧ s.attempts id = none ∧
      attempt' = ⟨command, s.clock, s.clock, .received⟩) ∨
    ∃ action attempt effect, e = .act id action ∧ s.attempts id = some attempt ∧
      AttemptStep service s.clock s.drawn s.db id attempt action effect ∧
      s' = s.after id effect ∧ attempt' = effect.attempt := by
  cases hstep with
  | tick => exact .inl h
  | receive other command free =>
    rcases eq_or_ne id other with rfl | hne
    · simp only [Function.update_self, Option.some_inj] at h
      exact .inr (.inl ⟨command, rfl, free, h.symm⟩)
    · simp only [Function.update_of_ne hne] at h
      exact .inl h
  | act other action attempt effect running rule =>
    rcases eq_or_ne id other with rfl | hne
    · simp only [State.after, Function.update_self, Option.some_inj] at h
      exact .inr (.inr ⟨action, attempt, effect, rfl, running, rule, rfl, h.symm⟩)
    · simp only [State.after, Function.update_of_ne hne] at h
      exact .inl h
  | scheduleCleanup => exact .inl h
  | runCleanup => exact .inl h

/-- An attempt that does not act stays as it is. -/
theorem SystemStep.attempts_kept {service : PaymentService} {s s' : State} {e : Event}
    (hstep : SystemStep service s e s') {id : ℕ} {attempt : Attempt}
    (running : s.attempts id = some attempt) (idle : ∀ action, e ≠ .act id action) :
    s'.attempts id = some attempt := by
  cases hstep with
  | tick | scheduleCleanup | runCleanup => exact running
  | receive other command free =>
    have hne : id ≠ other := by
      rintro rfl
      rw [free] at running
      cases running
    exact (Function.update_of_ne hne _ _).trans running
  | act other action _ effect =>
    have hne : id ≠ other := by
      rintro rfl
      exact idle action rfl
    exact (Function.update_of_ne hne _ _).trans running

/-- The log only grows. -/
theorem SystemStep.log_subset {service : PaymentService} {s s' : State} {e : Event}
    (hstep : SystemStep service s e s') {observed : Observation} (h : observed ∈ s.log) :
    observed ∈ s'.log := by
  cases hstep with
  | act => exact List.mem_append_right _ h
  | tick | receive | scheduleCleanup | runCleanup => exact h

/-- The clock does not go backwards. -/
def ClockForward (s : State) (e : Event) : Prop := ∀ clock, e = .tick clock → s.clock ≤ clock

instance (s : State) (e : Event) : Decidable (ClockForward s e) :=
  match e with
  | .tick clock => decidable_of_iff (s.clock ≤ clock)
      ⟨fun h _ he => by cases he; exact h, fun h => h clock rfl⟩
  | .receive _ _ => isTrue nofun
  | .act _ _ => isTrue nofun
  | .scheduleCleanup => isTrue nofun
  | .runCleanup _ => isTrue nofun

theorem SystemStep.clock_le {service : PaymentService} {s s' : State} {e : Event}
    (hstep : SystemStep service s e s') (forward : ClockForward s e) : s.clock ≤ s'.clock := by
  cases hstep with
  | tick clock => exact forward clock rfl
  | receive | act | scheduleCleanup | runCleanup => exact le_rfl

/-- An attempt that acts meets a condition. -/
def ActsWhen (condition : ℕ → Action → Attempt → Prop) (s : State) (e : Event) : Prop :=
  ∀ id action attempt, e = .act id action → s.attempts id = some attempt →
    condition id action attempt

instance (condition : ℕ → Action → Attempt → Prop)
    [∀ id action attempt, Decidable (condition id action attempt)] (s : State) (e : Event) :
    Decidable (ActsWhen condition s e) :=
  match e with
  | .act id action => decidable_of_iff (∀ attempt ∈ s.attempts id, condition id action attempt)
      ⟨fun h _ _ attempt he => by cases he; exact h attempt,
        fun h attempt => h id action attempt rfl⟩
  | .tick _ => isTrue fun _ _ _ he => by cases he
  | .receive _ _ => isTrue fun _ _ _ he => by cases he
  | .scheduleCleanup => isTrue fun _ _ _ he => by cases he
  | .runCleanup _ => isTrue fun _ _ _ he => by cases he

/-! ## What a step does to the database -/

/-- The actions whose transaction commits, if it succeeds. -/
def Action.Commits : Action → Prop
  | .claim => True
  | .complete => True
  | .release => True
  | .storeFails committed => committed = true
  | _ => False

instance (action : Action) : Decidable action.Commits := by
  cases action <;> unfold Action.Commits <;> infer_instance

/-- What a step of the system does to the database. -/
inductive StoreStep (s s' : State) : Event → Prop
  | idle (e : Event) (same : s'.db = s.db) : StoreStep s s' e
  | granted (id : ℕ) (action : Action) (attempt : Attempt) (request : ClaimRequest)
      (claim : PaymentCommandClaim) (running : s.attempts id = some attempt)
      (phase : attempt.phase = .claiming request) (grant : s.db.Granted request claim s'.db)
      (commits : action.Commits) (observed : .claimed id claim ∈ s'.log) :
      StoreStep s s' (.act id action)
  | completed (id : ℕ) (action : Action) (attempt : Attempt) (claim : PaymentCommandClaim)
      (result : PaymentCommandResult) (completedAt : Time) (row : PaymentRow)
      (record : IdempotencyRecord) (running : s.attempts id = some attempt)
      (phase : attempt.phase = .persisting claim result completedAt)
      (completion : s.db.Completed claim result completedAt row record s'.db)
      (commits : action.Commits) : StoreStep s s' (.act id action)
  | released (id : ℕ) (action : Action) (attempt : Attempt) (claim : PaymentCommandClaim)
      (err : GoError) (running : s.attempts id = some attempt)
      (phase : attempt.phase = .releasing claim err)
      (after : s'.db = s.db.releasePaymentCommand claim) (commits : action.Commits) :
      StoreStep s s' (.act id action)
  | cleaned (completedBefore : ℤ) (scheduled : completedBefore ∈ s.cleanups)
      (after : s'.db = s.db.cleanupCompletedIdempotencyRecords completedBefore) :
      StoreStep s s' (.runCleanup completedBefore)

/-- Only grants, completions, releases and cleanups reach the database. -/
theorem SystemStep.storeStep {service : PaymentService} {s s' : State} {e : Event}
    (hstep : SystemStep service s e s') : StoreStep s s' e := by
  cases hstep with
  | tick clock => exact .idle _ rfl
  | receive id command free => exact .idle _ rfl
  | scheduleCleanup => exact .idle _ rfl
  | runCleanup completedBefore scheduled => exact .cleaned completedBefore scheduled rfl
  | act id action attempt effect running rule =>
    cases rule with
    | granted request claim db' phase grant =>
      exact .granted id _ attempt request claim running phase grant trivial
        (List.mem_append_left _ (claimed_mem_grantObservations id claim))
    | claimLost request claim db' phase grant =>
      -- The answer is lost, and the grant is committed all the same.
      exact .granted id _ attempt request claim running phase grant rfl List.mem_cons_self
    | completed claim result completedAt row record db' phase completion =>
      exact .completed id _ attempt claim result completedAt row record running phase completion
        trivial
    | completionLost claim result completedAt row record db' phase completion =>
      exact .completed id _ attempt claim result completedAt row record running phase completion
        rfl
    | released claim err phase => exact .released id _ attempt claim err running phase rfl trivial
    | releaseFailed claim err committed phase =>
      cases committed with
      | true => exact .released id _ attempt claim err running phase rfl rfl
      | false => exact .idle _ rfl
    | prepared => exact .idle _ rfl
    | unprepared => exact .idle _ rfl
    | replayed => exact .idle _ rfl
    | refused => exact .idle _ rfl
    | claimFailed => exact .idle _ rfl
    | sent => exact .idle _ rfl
    | marked => exact .idle _ rfl
    | withdrawn => exact .idle _ rfl
    | stamped => exact .idle _ rfl
    | uncompleted => exact .idle _ rfl
    | completionFailed => exact .idle _ rfl
    | died => exact .idle _ rfl

end PaymentGateway
