/-
# Operation keys and the requests that carry them

Every request that is sent to the bank was made from a version of its payment that
was stored before, in the status its operation expects and with the key of its
endpoint. Two versions of one payment in one status agree on everything such a
request carries, so all requests of a payment to one endpoint are the same.

A key is drawn once, by the attempt that builds a claim request, and is stored for
at most one payment and endpoint. As long as the drawn keys are distinct, no two
payments or endpoints share one.
-/

import PaymentGateway.Invariant.Attempts

namespace PaymentGateway

open Lib

/-! ## Keys of an endpoint -/

/-- The key of a payment for an endpoint. -/
def Payment.keyAt (p : Payment) : Endpoint → GoString
  | .authorization => p.authorizationBankOperationKey
  | .capture => p.captureBankOperationKey
  | .void => p.voidBankOperationKey
  | .refund => p.refundBankOperationKey

/-- The key column of a row for an endpoint. -/
def PaymentRow.keyAt (row : PaymentRow) : Endpoint → Option GoString
  | .authorization => some row.authorizationBankOperationKey
  | .capture => row.captureBankOperationKey
  | .void => row.voidBankOperationKey
  | .refund => row.refundBankOperationKey

theorem keyAt_rowOf {p : Payment} {endpoint : Endpoint} (h : p.keyAt endpoint ≠ []) :
    (rowOf p).keyAt endpoint = some (p.keyAt endpoint) := by
  cases endpoint with
  | authorization => rfl
  | capture => exact if_neg h
  | void => exact if_neg h
  | refund => exact if_neg h

@[simp] theorem Command.endpoint_bankRequest (command : Command) (p : Payment) :
    (command.bankRequest p).endpoint = command.operation.endpoint := by
  cases command <;> rfl

@[simp] theorem Command.operationKey_bankRequest (command : Command) (p : Payment) :
    (command.bankRequest p).operationKey = p.keyAt command.operation.endpoint := by
  cases command <;> rfl

theorem Operation.HasKey.keyAt_ne_nil {operation : Operation} {p : Payment}
    (h : operation.HasKey p) (wf : p.WellFormed) : p.keyAt operation.endpoint ≠ [] := by
  have hauthorization := wf.authorizationKey.ne_nil
  cases operation with
  | authorizePayment => exact hauthorization
  | retryAuthorization => exact hauthorization
  | capturePayment => exact h.capture
  | voidPayment => exact h.void
  | refundPayment => exact h.refund

/-- Operations that call one endpoint expect one status. -/
theorem Operation.expectedStatus_of_endpoint {first second : Operation}
    (h : first.endpoint = second.endpoint) : first.expectedStatus = second.expectedStatus := by
  revert h
  cases first <;> cases second <;> decide

/-! ## Sent requests -/

/-- A request is what a command sends for a stored version of a payment. -/
structure SentFor (db : Db) (command : Command) (p : Payment) (request : BankRequest) : Prop where
  wrote : db.Wrote p
  status : p.status = command.operation.expectedStatus
  hasKey : command.operation.HasKey p
  request : request = command.bankRequest p

/-- Every sent request was made from a stored version of its payment. -/
def SentInv (s : State) : Prop :=
  ∀ i paymentID request, .sent i paymentID request ∈ s.log →
    ∃ command p, p.id = paymentID ∧ SentFor s.db command p request

variable {service : PaymentService} {s s' : State} {e : Event} {i : ℕ} {paymentID : GoString}
  {request : BankRequest}

/-- A request in the log was there before, or the step sends it for the claim of a waiting
attempt. -/
theorem SystemStep.sent_cases (hstep : SystemStep service s e s')
    (h : .sent i paymentID request ∈ s'.log) :
    .sent i paymentID request ∈ s.log ∨ ∃ attempt claim, s.attempts i = some attempt ∧
      attempt.phase.Waits claim ∧ s'.db = s.db ∧ claim.payment.id = paymentID ∧
      request = attempt.command.bankRequest claim.payment := by
  cases hstep with
  | tick | receive | scheduleCleanup | runCleanup => exact .inl h
  | act id action attempt effect running rule =>
    rcases List.mem_append.mp h with hnew | hold
    · cases rule with
      | sent claim phase =>
        rw [List.mem_singleton] at hnew
        cases hnew
        exact .inr ⟨attempt, claim, running, phase, rfl, rfl, rfl⟩
      | granted request claim db' phase grant =>
        unfold grantObservations at hnew
        split_ifs at hnew <;> simp at hnew
      | refused request err phase refusal =>
        unfold refusalObservations at hnew
        split at hnew <;> simp at hnew
      | completed claim result completedAt row record db' phase completion =>
        dsimp only at hnew
        split_ifs at hnew <;> simp at hnew
      | _ => simp at hnew
    · exact .inl hold

/-- A request that a step leaves in the log was made from a version stored before the
step. -/
theorem SentInv.before (sent : SentInv s) (inv : Inv service s)
    (hstep : SystemStep service s e s') (h : .sent i paymentID request ∈ s'.log) :
    ∃ command p, p.id = paymentID ∧ SentFor s.db command p request := by
  rcases hstep.sent_cases h with hold | ⟨attempt, claim, running, phase, _, hid, hrequest⟩
  · exact sent i paymentID request hold
  · have hclaim := (inv.attempts i attempt running).claimFor_of_waits phase
    exact ⟨attempt.command, claim.payment, hid, hclaim.wrote, hclaim.status, hclaim.hasKey,
      hrequest⟩

theorem SentInv.step (sent : SentInv s) (inv : Inv service s)
    (hstep : SystemStep service s e s') : SentInv s' := by
  intro i paymentID request h
  obtain ⟨command, p, hid, hsent⟩ := sent.before inv hstep h
  exact ⟨command, p, hid, { hsent with wrote := (hstep.ledgerStep inv).wrote hsent.wrote }⟩

theorem sentInv_of_reaches {guard : State → Event → Prop} {clock : Time}
    (h : Reaches (PaymentGateway.step service) guard (State.initial clock) s) : SentInv s := by
  refine h.invariant (fun _ _ _ h => by cases h) fun s e s' run sent _ htaken => ?_
  exact sent.step (inv_of_reaches run) (step_cases htaken)

/-! ## Requests for one payment -/

/-- A request without the card of an authorization. -/
def BankRequest.withoutCard : BankRequest → BankRequest
  | authorization request =>
    .authorization { request with cardNumber := [], cardCVV := [], cardExpiryMonth := 0,
                                  cardExpiryYear := 0 }
  | request => request

/-- What a command sends for a payment stays the same when the payment gains keys. -/
theorem GainsKeys.bankRequest_eq {p q : Payment} (gain : GainsKeys p q) {command : Command}
    (hasKey : command.operation.HasKey p) : command.bankRequest q = command.bankRequest p := by
  have hrest := gain.rest
  cases command with
  | authorizePayment c =>
    rw [hrest]
    rfl
  | retryAuthorization c =>
    rw [hrest]
    rfl
  | capturePayment c =>
    rw [hrest, gain.captureKey hasKey.capture]
    rfl
  | voidPayment c =>
    rw [hrest, gain.voidKey hasKey.void]
    rfl
  | refundPayment c =>
    rw [hrest, gain.refundKey hasKey.refund]
    rfl

theorem Command.withoutCard_bankRequest {first second : Command}
    (h : first.operation.endpoint = second.operation.endpoint) (p : Payment) :
    (first.bankRequest p).withoutCard = (second.bankRequest p).withoutCard := by
  cases first <;> cases second <;> first | rfl | cases h

/-- All requests of a payment to one endpoint are the same, apart from the card. -/
theorem SentFor.withoutCard_eq {db : Db} {first second : Command} {p q : Payment}
    {request request' : BankRequest} (h : SentFor db first p request)
    (h' : SentFor db second q request') (sound : db.Sound) (hid : p.id = q.id)
    (hendpoint : request.endpoint = request'.endpoint) :
    request.withoutCard = request'.withoutCard := by
  obtain ⟨hp, hpstatus, hpkey, rfl⟩ := h
  obtain ⟨hq, hqstatus, hqkey, rfl⟩ := h'
  rw [Command.endpoint_bankRequest, Command.endpoint_bankRequest] at hendpoint
  have hstatus : p.status = q.status := by
    rw [hpstatus, hqstatus, Operation.expectedStatus_of_endpoint hendpoint]
  rcases sound.gainsKeys_or_gainsKeys hp hq hid hstatus with hgain | hgain
  · rw [← hgain.bankRequest_eq hpkey, Command.withoutCard_bankRequest hendpoint]
  · rw [← hgain.bankRequest_eq hqkey, Command.withoutCard_bankRequest hendpoint]

/-! ## Whose a key is -/

/-- The keys drawn so far do not repeat. -/
def PaymentService.KeysDistinct (service : PaymentService) (drawn : ℕ) : Prop :=
  ∀ i < drawn, ∀ j < drawn, trimSpace (service.newBankOperationKey i) =
    trimSpace (service.newBankOperationKey j) → i = j

/-- Who uses a key: a payment at an endpoint, or an attempt that has drawn it. -/
inductive KeyUse
  | stored (paymentID : GoString) (endpoint : Endpoint)
  | held (id : ℕ)

/-- The key that a claim request brings. -/
def ClaimRequest.bankOperationKey : ClaimRequest → GoString
  | start request => request.payment.authorizationBankOperationKey
  | existing request => trimSpace request.bankOperationKey

/-- What a claim request brings its key for. -/
def ClaimRequest.use : ClaimRequest → KeyUse
  | start request => .stored request.payment.id .authorization
  | existing request => .stored request.paymentID request.operation.endpoint

/-- An attempt is about to claim with a request. -/
def State.Claims (s : State) (id : ℕ) (request : ClaimRequest) : Prop :=
  ∃ attempt, s.attempts id = some attempt ∧ attempt.phase = .claiming request

/-- The uses of a key. -/
def State.Uses (s : State) (key : GoString) : KeyUse → Prop
  | .stored paymentID endpoint => ∃ p, s.db.Wrote p ∧ p.id = paymentID ∧ p.keyAt endpoint = key
  | .held id => ∃ request, s.Claims id request ∧ request.bankOperationKey = key

/-- A drawn key has one use. -/
structure KeyInv (service : PaymentService) (s : State) : Prop where
  drawn : ∀ key use, key ≠ [] → s.Uses key use →
    ∃ i < s.drawn.bankOperationKeys, trimSpace (service.newBankOperationKey i) = key
  unique : ∀ key use use', key ≠ [] → s.Uses key use → s.Uses key use' → use = use'

/-- A request brings no key, or the one it was the first to draw. -/
theorem Built.bankOperationKey_eq {now : Time} {drawn drawn' : Draws} {command : Command}
    {request : ClaimRequest} (h : Built service now drawn command request drawn') :
    request.bankOperationKey = [] ∨ request.bankOperationKey =
        trimSpace (service.newBankOperationKey drawn.bankOperationKeys) ∧
      drawn'.bankOperationKeys = drawn.bankOperationKeys + 1 := by
  cases h with
  | authorizePayment c payment new =>
    obtain ⟨_, _, _, _, _, _, _, rfl⟩ := newPendingPayment_eq_ok.mp new
    exact .inr ⟨rfl, rfl⟩
  | retryAuthorization c => exact .inl rfl
  | capturePayment c => exact .inr ⟨rfl, rfl⟩
  | voidPayment c => exact .inr ⟨rfl, rfl⟩
  | refundPayment c => exact .inr ⟨rfl, rfl⟩

theorem PaymentService.le_drawn_prepare (service : PaymentService) (command : Command) (now : Time)
    (drawn : Draws) :
    drawn.bankOperationKeys ≤ (service.prepare command now drawn).2.bankOperationKeys := by
  cases command with
  | retryAuthorization c => exact le_rfl
  | _ => exact Nat.le_succ _

theorem SystemStep.drawn_le (hstep : SystemStep service s e s') :
    s.drawn.bankOperationKeys ≤ s'.drawn.bankOperationKeys := by
  cases hstep with
  | tick | receive | scheduleCleanup | runCleanup => exact le_rfl
  | act id action attempt effect running rule =>
    cases rule with
    | prepared request drawn' _ built =>
      have hle := service.le_drawn_prepare attempt.command s.clock s.drawn
      rwa [built] at hle
    | unprepared err drawn' _ failed =>
      have hle := service.le_drawn_prepare attempt.command s.clock s.drawn
      rwa [failed] at hle
    | _ => exact le_rfl

/-- Marking a payment keeps or clears its keys. -/
theorem Marked.keyAt_eq {p m : Payment} {now : Time} {operation : Operation}
    {answer : BankAnswer} {kind : Option PaymentErrorKind}
    (mark : Marked p now operation answer m kind) (endpoint : Endpoint) :
    m.keyAt endpoint = p.keyAt endpoint ∨ m.keyAt endpoint = [] := by
  cases mark with
  | unknown => exact .inl rfl
  | authorized _ _ _ _ _ hmark =>
    obtain ⟨_, _, _, _, rfl⟩ := Payment.markAuthorized_eq_ok.mp hmark
    cases endpoint <;> exact .inl rfl
  | declined _ _ _ _ _ hmark =>
    obtain ⟨_, _, _, rfl⟩ := Payment.markDeclined_eq_ok.mp hmark
    cases endpoint <;> exact .inl rfl
  | captured _ _ hmark =>
    obtain ⟨_, _, _, rfl⟩ := Payment.markCaptured_eq_ok.mp hmark
    cases endpoint <;> first | exact .inl rfl | exact .inr rfl
  | voided _ _ hmark =>
    obtain ⟨_, _, _, rfl⟩ := Payment.markVoided_eq_ok.mp hmark
    cases endpoint <;> first | exact .inl rfl | exact .inr rfl
  | refunded _ _ hmark =>
    obtain ⟨_, _, _, rfl⟩ := Payment.markRefunded_eq_ok.mp hmark
    cases endpoint <;> exact .inl rfl
  | expired _ _ _ _ _ hmark =>
    obtain ⟨_, _, rfl⟩ := Payment.markExpired_eq_ok.mp hmark
    cases endpoint <;> first | exact .inl rfl | exact .inr rfl

/-- A pending payment has the key of its authorization and no other. -/
theorem Payment.WellFormed.endpoint_of_pending {p : Payment} {endpoint : Endpoint}
    (wf : p.WellFormed) (pending : p.status = .pending) (h : p.keyAt endpoint ≠ []) :
    endpoint = .authorization := by
  have hlife := wf.lifecycle
  rw [pending] at hlife
  cases endpoint with
  | authorization => rfl
  | capture => exact absurd hlife.captureKey h
  | void => exact absurd hlife.voidKey h
  | refund => exact absurd hlife.refundKey h

/-- Setting the key of an operation leaves the keys of other endpoints alone. -/
theorem Payment.keyAt_withKey (p : Payment) (key : GoString) (operation : Operation)
    (endpoint : Endpoint) :
    (p.withKey key operation).keyAt endpoint = p.keyAt endpoint ∨
      endpoint = operation.endpoint ∧ (p.withKey key operation).keyAt endpoint = key := by
  cases operation <;> cases endpoint <;> first | exact .inl rfl | exact .inr ⟨rfl, rfl⟩

/-- A key that a step leaves in use at a payment was in use there, or a claim request
brought it. -/
theorem SystemStep.stored_cases (hstep : SystemStep service s e s') (inv : Inv service s)
    {key : GoString} {endpoint : Endpoint} (hne : key ≠ [])
    (h : s'.Uses key (.stored paymentID endpoint)) :
    s.Uses key (.stored paymentID endpoint) ∨ ∃ id action request, e = .act id action ∧
      s.Claims id request ∧ request.use = .stored paymentID endpoint ∧
      request.bankOperationKey = key := by
  obtain ⟨p, hwrote, rfl, rfl⟩ := h
  cases hstep.writeStep inv with
  | nothing _ _ history => exact .inl ⟨p, (Db.wrote_of_history_eq history p).mp hwrote, rfl, rfl⟩
  | inserted id action attempt request running phase fresh stores =>
    rcases stores.wrote_iff.mp hwrote with rfl | hold
    · -- A new payment has no key but that of its authorization.
      obtain ⟨_, _, hbuilt⟩ := (inv.attempts id attempt running).built phase
      obtain ⟨hwf, hpending, _⟩ := hbuilt.start_payment
      obtain rfl := hwf.endpoint_of_pending hpending hne
      exact .inr ⟨id, action, .start request, rfl, ⟨attempt, running, phase⟩, rfl, rfl⟩
    · exact .inl ⟨p, hold, rfl, rfl⟩
  | keyed id action attempt request q q' running phase current hid keyed stores =>
    rcases stores.wrote_iff.mp hwrote with rfl | hold
    · -- The row keeps the keys it had and gets the one of the request.
      have hq := inv.sound.wrote_of_current current
      have hkey := q.keyAt_withKey (trimSpace request.bankOperationKey) request.operation endpoint
      rw [← keyed.eq] at hkey
      rcases hkey with hsame | ⟨rfl, hnew⟩
      · exact .inl ⟨q, hq, keyed.id.symm, hsame.symm⟩
      · refine .inr ⟨id, action, .existing request, rfl, ⟨attempt, running, phase⟩, ?_, hnew.symm⟩
        rw [keyed.id, hid]
        rfl
    · exact .inl ⟨p, hold, rfl, rfl⟩
  | completed id action attempt claim result completedAt q running phase _ _ _ stores =>
    rcases stores.wrote_iff.mp hwrote with rfl | hold
    · obtain ⟨read, answer, now, kind, hclaim, hmark, _⟩ :=
        (inv.attempts id attempt running).markedFor phase
      -- A marked copy has no key that the version it was read from did not have.
      have hkey := (hmark.keyAt_eq endpoint).resolve_right hne
      exact .inl ⟨read, hclaim.wrote, hmark.id_eq.symm, hkey.symm⟩
    · exact .inl ⟨p, hold, rfl, rfl⟩

/-- A key that an attempt holds was held before, or the attempt has just drawn it. -/
theorem SystemStep.held_cases (hstep : SystemStep service s e s') {key : GoString} {id : ℕ}
    (hne : key ≠ []) (h : s'.Uses key (.held id)) :
    s.Uses key (.held id) ∧ (∀ action, e ≠ .act id action) ∨
    (∃ action, e = .act id action) ∧ (∀ request, ¬ s.Claims id request) ∧
      key = trimSpace (service.newBankOperationKey s.drawn.bankOperationKeys) ∧
      s'.drawn.bankOperationKeys = s.drawn.bankOperationKeys + 1 := by
  obtain ⟨request, ⟨attempt', hattempt', hphase⟩, rfl⟩ := h
  by_cases hact : ∃ action, e = .act id action
  · right
    refine ⟨hact, ?_⟩
    obtain ⟨action, rfl⟩ := hact
    cases hstep with
    | act _ _ attempt effect running rule =>
      simp only [State.after, Function.update_self, Option.some_inj] at hattempt'
      subst hattempt'
      obtain ⟨hreceived, _, hprepare⟩ := rule.of_claiming hphase
      have hbuilt := PaymentService.built_of_prepare hprepare
      refine ⟨?_, hbuilt.bankOperationKey_eq.resolve_left hne⟩
      rintro other ⟨attempt'', hattempt'', hphase''⟩
      rw [running, Option.some_inj] at hattempt''
      rw [← hattempt'', hreceived] at hphase''
      cases hphase''
  · left
    rw [not_exists] at hact
    refine ⟨⟨request, ?_, rfl⟩, hact⟩
    rcases hstep.attempt_cases hattempt' with hold | ⟨command, _, _, rfl⟩ |
      ⟨action, _, _, rfl, _⟩
    · exact ⟨attempt', hold, hphase⟩
    · cases hphase
    · exact absurd rfl (hact action)

/-- Where a use of a key after a step comes from. -/
private inductive UseOrigin (service : PaymentService) (s s' : State) (e : Event)
    (key : GoString) : KeyUse → Prop
  | kept (use : KeyUse) (before : s.Uses key use)
      (idle : ∀ id action, use = .held id → e ≠ .act id action) : UseOrigin service s s' e key use
  | brought (id : ℕ) (action : Action) (request : ClaimRequest) (event : e = .act id action)
      (claims : s.Claims id request) (brings : request.bankOperationKey = key) :
      UseOrigin service s s' e key request.use
  | drawn (id : ℕ) (action : Action) (event : e = .act id action)
      (idle : ∀ request, ¬ s.Claims id request)
      (draws : key = trimSpace (service.newBankOperationKey s.drawn.bankOperationKeys))
      (advances : s'.drawn.bankOperationKeys = s.drawn.bankOperationKeys + 1) :
      UseOrigin service s s' e key (.held id)

private theorem SystemStep.useOrigin (hstep : SystemStep service s e s') (inv : Inv service s)
    {key : GoString} (hne : key ≠ []) {use : KeyUse} (h : s'.Uses key use) :
    UseOrigin service s s' e key use := by
  cases use with
  | stored paymentID endpoint =>
    rcases hstep.stored_cases inv hne h with hold | ⟨id, action, request, he, hclaims, huse, hkey⟩
    · exact .kept _ hold fun _ _ h => by cases h
    · exact huse ▸ .brought id action request he hclaims hkey
  | held id =>
    rcases hstep.held_cases hne h with ⟨hold, hidle⟩ | ⟨⟨action, he⟩, hidle, hkey, hdrawn⟩
    · refine .kept _ hold fun other action huse => ?_
      cases huse
      exact hidle action
    · exact .drawn id action he hidle hkey hdrawn

/-- A key drawn before a step is not drawn again by it. -/
private theorem KeyInv.ne_fresh (keys : KeyInv service s) {key : GoString} {use : KeyUse}
    (hne : key ≠ []) (h : s.Uses key use)
    (distinct : service.KeysDistinct (s.drawn.bankOperationKeys + 1)) :
    key ≠ trimSpace (service.newBankOperationKey s.drawn.bankOperationKeys) := by
  obtain ⟨i, hi, rfl⟩ := keys.drawn key use hne h
  intro heq
  have := distinct i (by omega) _ (Nat.lt_succ_self _) heq
  omega

theorem KeyInv.step (keys : KeyInv service s) (inv : Inv service s)
    (hstep : SystemStep service s e s')
    (distinct : service.KeysDistinct s'.drawn.bankOperationKeys) : KeyInv service s' := by
  have hdrawn := hstep.drawn_le
  constructor
  · -- A key in use was drawn before, or the step draws it.
    intro key use hne huse
    cases hstep.useOrigin inv hne huse with
    | kept _ before _ =>
      obtain ⟨i, hi, hkey⟩ := keys.drawn key use hne before
      exact ⟨i, by omega, hkey⟩
    | brought id action request _ claims brings =>
      obtain ⟨i, hi, hkey⟩ := keys.drawn key (.held id) hne ⟨request, claims, brings⟩
      exact ⟨i, by omega, hkey⟩
    | drawn id action _ _ draws advances => exact ⟨_, by omega, draws.symm⟩
  · intro key use use' hne huse huse'
    -- A use that is kept shares its key with no use that the step brings or draws.
    have hkept : ∀ {use use'}, s.Uses key use →
        (∀ id action, use = .held id → e ≠ .act id action) →
        UseOrigin service s s' e key use' → use = use' := by
      intro use use' before idle origin
      cases origin with
      | kept _ before' _ => exact keys.unique key use use' hne before before'
      | brought id action request event claims brings =>
        have hheld := keys.unique key use (.held id) hne before ⟨request, claims, brings⟩
        exact absurd event (idle id action hheld)
      | drawn id action _ _ draws advances =>
        exact absurd draws (keys.ne_fresh hne before (advances ▸ distinct))
    cases hstep.useOrigin inv hne huse with
    | kept _ before idle => exact hkept before idle (hstep.useOrigin inv hne huse')
    | brought id action request event claims brings =>
      cases hstep.useOrigin inv hne huse' with
      | kept _ before' idle' => exact (hkept before' idle' (hstep.useOrigin inv hne huse)).symm
      | brought id' action' request' event' claims' _ =>
        -- One attempt brings one request.
        rw [event] at event'
        cases event'
        obtain ⟨attempt, hattempt, hphase⟩ := claims
        obtain ⟨attempt', hattempt', hphase'⟩ := claims'
        rw [hattempt, Option.some_inj] at hattempt'
        rw [← hattempt', hphase] at hphase'
        cases hphase'
        rfl
      | drawn id' action' event' idle' _ _ =>
        rw [event] at event'
        cases event'
        exact absurd claims (idle' request)
    | drawn id action event idle _ _ =>
      cases hstep.useOrigin inv hne huse' with
      | kept _ before' idle' => exact (hkept before' idle' (hstep.useOrigin inv hne huse)).symm
      | brought id' action' request' event' claims' _ =>
        rw [event] at event'
        cases event'
        exact absurd claims' (idle request')
      | drawn id' action' event' _ _ _ =>
        rw [event] at event'
        cases event'
        rfl

private theorem not_uses_initial (clock : Time) (key : GoString) (use : KeyUse) :
    ¬ (State.initial clock).Uses key use := by
  cases use with
  | stored paymentID endpoint =>
    rintro ⟨p, ⟨version, hmem, _⟩, _⟩
    cases hmem
  | held id =>
    rintro ⟨request, ⟨attempt, hattempt, _⟩, _⟩
    cases hattempt

theorem keyInv_of_reaches {guard : State → Event → Prop} {clock : Time}
    (h : Reaches (PaymentGateway.step service) guard (State.initial clock) s)
    (distinct : service.KeysDistinct s.drawn.bankOperationKeys) : KeyInv service s := by
  revert distinct
  refine h.invariant
    (P := fun t => service.KeysDistinct t.drawn.bankOperationKeys → KeyInv service t) ?_ ?_
  · exact fun _ => ⟨fun key use _ huse => absurd huse (not_uses_initial clock key use),
      fun key use _ _ huse => absurd huse (not_uses_initial clock key use)⟩
  · intro s e s' run keys _ htaken distinct
    have hstep := step_cases htaken
    have hbefore : service.KeysDistinct s.drawn.bankOperationKeys := fun i hi j hj =>
      distinct i (hi.trans_le hstep.drawn_le) j (hj.trans_le hstep.drawn_le)
    exact (keys hbefore).step (inv_of_reaches run) hstep distinct

/-- While the drawn keys are distinct, sent requests share a key only if they are for one
payment and one endpoint. -/
theorem KeyInv.sent_unique (keys : KeyInv service s) (inv : Inv service s) {first second : Command}
    {p q : Payment} {request' : BankRequest} (h : SentFor s.db first p request)
    (h' : SentFor s.db second q request') (hkey : request.operationKey = request'.operationKey) :
    p.id = q.id ∧ request.endpoint = request'.endpoint := by
  have hne : p.keyAt first.operation.endpoint ≠ [] :=
    h.hasKey.keyAt_ne_nil (inv.sound.wellFormed_of_wrote h.wrote)
  have huse : s.Uses (p.keyAt first.operation.endpoint) (.stored p.id first.operation.endpoint) :=
    ⟨p, h.wrote, rfl, rfl⟩
  rw [h.request, h'.request, Command.operationKey_bankRequest,
    Command.operationKey_bankRequest] at hkey
  have huse' : s.Uses (p.keyAt first.operation.endpoint)
      (.stored q.id second.operation.endpoint) := ⟨q, h'.wrote, rfl, hkey.symm⟩
  have heq := keys.unique _ _ _ hne huse huse'
  rw [h.request, h'.request, Command.endpoint_bankRequest, Command.endpoint_bankRequest]
  exact ⟨(KeyUse.stored.inj heq).1, (KeyUse.stored.inj heq).2⟩

end PaymentGateway
