/-
# The gateway and the bank agree

A payment's status says what the bank has executed for it, and everything the bank
has executed for a payment is in its row, or its operation key is still there, in the
status from which the operation is retried. So no effect at the bank is lost, however
answers are lost, attempts die and operations interleave.

An attempt marks a copy of the payment that it read when it claimed, and other
attempts may have written to the row since. What carries the argument is that the
answer it marked the copy with reports an execution of the very request it sent:
keys belong to one payment and endpoint, and all requests there are the same.
-/

import PaymentGateway.Bank.World

namespace PaymentGateway

open Lib

variable {service : PaymentService} {w w' : World} {executions : List Execution} {p q : Payment}

/-! ## Executions of a payment's requests -/

/-- The request of a payment to an endpoint, without a card. -/
def Payment.requestAt (p : Payment) : Endpoint → BankRequest
  | .authorization => .authorization ⟨p.authorizationBankOperationKey, p.orderID, p.customerID,
      p.amountCents, p.currency, [], [], 0, 0⟩
  | .capture => .capture ⟨p.captureBankOperationKey, p.bankAuthorizationID, p.amountCents,
      p.currency⟩
  | .void => .void ⟨p.voidBankOperationKey, p.bankAuthorizationID⟩
  | .refund => .refund ⟨p.refundBankOperationKey, p.bankCaptureID, p.amountCents, p.currency⟩

theorem Command.withoutCard_bankRequest_eq (command : Command) (p : Payment) :
    (command.bankRequest p).withoutCard = p.requestAt command.operation.endpoint := by
  cases command <;> rfl

/-- An execution of the same operation as a request that is made for a stored payment
executes that request, apart from the card. -/
theorem SentExecutions.request_eq {x : Execution} {command : Command}
    (executed : SentExecutions w) (inv : Inv service w.gateway) (sent : SentInv w.gateway)
    (keys : KeyInv service w.gateway) (hx : x ∈ w.executions)
    (same : x.SameOperation (command.bankRequest p))
    (hfor : SentFor w.gateway.db command p (command.bankRequest p)) :
    x.request.withoutCard = p.requestAt command.operation.endpoint := by
  obtain ⟨i, paymentID, hsent⟩ := executed.sent x hx
  obtain ⟨other, q, _, hfor'⟩ := sent i paymentID x.request hsent
  obtain ⟨hid, hendpoint⟩ := keys.sent_unique inv hfor' hfor same.2
  rw [← Command.withoutCard_bankRequest_eq]
  exact hfor'.withoutCard_eq hfor inv.sound hid hendpoint

/-- The bank approved the authorization of a payment under the id it has. -/
def Approved (executions : List Execution) (p : Payment) : Prop :=
  ∃ request result, .authorization request result ∈ executions ∧
    (BankRequest.authorization request).withoutCard = p.requestAt .authorization ∧
    result.declineReason = [] ∧ result.bankAuthorizationID = p.bankAuthorizationID

/-- The bank declined the authorization of a payment for the reason it has. -/
def Declined (executions : List Execution) (p : Payment) : Prop :=
  ∃ request result, .authorization request result ∈ executions ∧
    (BankRequest.authorization request).withoutCard = p.requestAt .authorization ∧
    result.declineReason ≠ [] ∧ result.declineReason = p.declineReason

theorem Approved.of_sameIdentity (h : Approved executions p) (same : SameIdentity p q)
    (id : q.bankAuthorizationID = p.bankAuthorizationID) : Approved executions q := by
  obtain ⟨request, result, hmem, hrequest, hreason, hresult⟩ := h
  refine ⟨request, result, hmem, hrequest.trans ?_, hreason, hresult.trans id.symm⟩
  simp only [Payment.requestAt, same.authorizationKey, same.orderID, same.customerID,
    same.amountCents, same.currency]

/-- What the bank has executed for a payment, as its status says. -/
structure PaymentAgrees (executions : List Execution) (p : Payment) : Prop where
  authorized : p.status ≠ .pending → p.status ≠ .declined → Approved executions p
  declined : p.status = .declined → Declined executions p
  captured : p.status = .captured ∨ p.status = .refunded →
    .capture ⟨p.captureBankOperationKey, p.bankAuthorizationID, p.amountCents, p.currency⟩
      p.bankCaptureID ∈ executions
  voided : p.status = .voided →
    .void ⟨p.voidBankOperationKey, p.bankAuthorizationID⟩ p.bankVoidID ∈ executions
  refunded : p.status = .refunded →
    .refund ⟨p.refundBankOperationKey, p.bankCaptureID, p.amountCents, p.currency⟩
      p.bankRefundID ∈ executions
  expired : p.status = .expired →
    ∃ x ∈ executions, x.fate = some (p.bankAuthorizationID, .expired)

namespace PaymentAgrees

/-- Agreement is kept when the bank executes more. -/
theorem mono {more : List Execution} (h : PaymentAgrees executions p)
    (executed : executions ⊆ more) : PaymentAgrees more p where
  authorized h₁ h₂ := by
    obtain ⟨request, result, hmem, hrest⟩ := h.authorized h₁ h₂
    exact ⟨request, result, executed hmem, hrest⟩
  declined h₁ := by
    obtain ⟨request, result, hmem, hrest⟩ := h.declined h₁
    exact ⟨request, result, executed hmem, hrest⟩
  captured h₁ := executed (h.captured h₁)
  voided h₁ := executed (h.voided h₁)
  refunded h₁ := executed (h.refunded h₁)
  expired h₁ := by
    obtain ⟨y, hmem, hfate⟩ := h.expired h₁
    exact ⟨y, executed hmem, hfate⟩

/-- A pending payment asks nothing of the bank. -/
theorem of_pending (status : p.status = .pending) : PaymentAgrees executions p := by
  constructor <;> simp [status]

theorem of_authorized (status : p.status = .authorized) (approved : Approved executions p) :
    PaymentAgrees executions p := by
  constructor <;> simp [status, approved]

theorem of_declined (status : p.status = .declined) (declined : Declined executions p) :
    PaymentAgrees executions p := by
  constructor <;> simp [status, declined]

theorem of_voided (status : p.status = .voided) (approved : Approved executions p)
    (voided : .void ⟨p.voidBankOperationKey, p.bankAuthorizationID⟩ p.bankVoidID ∈ executions) :
    PaymentAgrees executions p := by
  constructor <;> simp [status, approved, voided]

theorem of_expired (status : p.status = .expired) (approved : Approved executions p)
    (expired : ∃ x ∈ executions, x.fate = some (p.bankAuthorizationID, .expired)) :
    PaymentAgrees executions p := by
  constructor <;> simp [status, approved, expired]

theorem of_refunded (status : p.status = .refunded) (approved : Approved executions p)
    (captured : .capture ⟨p.captureBankOperationKey, p.bankAuthorizationID, p.amountCents,
      p.currency⟩ p.bankCaptureID ∈ executions)
    (refunded : .refund ⟨p.refundBankOperationKey, p.bankCaptureID, p.amountCents, p.currency⟩
      p.bankRefundID ∈ executions) : PaymentAgrees executions p := by
  constructor <;> simp [status, approved, captured, refunded]

theorem of_captured (status : p.status = .captured) (approved : Approved executions p)
    (captured : .capture ⟨p.captureBankOperationKey, p.bankAuthorizationID, p.amountCents,
      p.currency⟩ p.bankCaptureID ∈ executions) : PaymentAgrees executions p := by
  constructor <;> simp [status, approved, captured]

/-- A payment that gains a key keeps its agreement: no status says anything of a key that
can still be set. -/
theorem of_keyed {request : ExistingPaymentCommandClaimRequest} (h : PaymentAgrees executions p)
    (keyed : Keyed request p q) : PaymentAgrees executions q := by
  have hidentity := keyed.step.sameIdentity
  have hstatus := keyed.status
  cases keyed.step with
  | captureKey key status =>
    have happroved := h.authorized (by simp [status]) (by simp [status])
    exact of_authorized status (happroved.of_sameIdentity hidentity rfl)
  | voidKey key status =>
    have happroved := h.authorized (by simp [status]) (by simp [status])
    exact of_authorized status (happroved.of_sameIdentity hidentity rfl)
  | refundKey key status =>
    have happroved := h.authorized (by simp [status]) (by simp [status])
    exact of_captured status (happroved.of_sameIdentity hidentity rfl) (h.captured (.inl status))
  | authorized _ _ _ status | declined _ _ status | expired _ status | captured _ _ status
  | voided _ _ status | refunded _ _ status => exact absurd (hstatus.trans status) nofun

end PaymentAgrees

/-! ## Marked payments -/

/-- The bank executed the request of a payment to an endpoint and reported it by an
answer. -/
def Reported (executions : List Execution) (p : Payment) (endpoint : Endpoint)
    (answer : BankAnswer) : Prop :=
  ∃ x ∈ executions, x.request.withoutCard = p.requestAt endpoint ∧ x.Reports answer ∧
    trimSpace x.bankID = x.bankID

theorem Reported.authorization {result : BankAuthorizationResult} {endpoint : Endpoint}
    (h : Reported executions p endpoint (.authorization result))
    (hendpoint : endpoint = .authorization) :
    ∃ request, .authorization request result ∈ executions ∧
      (BankRequest.authorization request).withoutCard = p.requestAt .authorization ∧
      trimSpace result.bankAuthorizationID = result.bankAuthorizationID := by
  obtain ⟨x, hmem, hrequest, hreports, htrim⟩ := h
  subst hendpoint
  cases x with
  | authorization request result' =>
    cases hreports
    exact ⟨request, hmem, hrequest, htrim⟩
  | capture _ _ | void _ _ | refund _ _ => cases hreports
  | captureExpired _ | voidExpired _ => exact hreports.elim

theorem Reported.capture {id : GoString} (h : Reported executions p .capture (.capture id)) :
    .capture ⟨p.captureBankOperationKey, p.bankAuthorizationID, p.amountCents, p.currency⟩ id ∈
      executions ∧ trimSpace id = id := by
  obtain ⟨x, hmem, hrequest, hreports, htrim⟩ := h
  cases x with
  | capture request id' =>
    cases hreports
    cases hrequest
    exact ⟨hmem, htrim⟩
  | authorization _ _ | void _ _ | refund _ _ => cases hreports
  | captureExpired _ | voidExpired _ => exact hreports.elim

theorem Reported.void {id : GoString} (h : Reported executions p .void (.void id)) :
    .void ⟨p.voidBankOperationKey, p.bankAuthorizationID⟩ id ∈ executions ∧
      trimSpace id = id := by
  obtain ⟨x, hmem, hrequest, hreports, htrim⟩ := h
  cases x with
  | void request id' =>
    cases hreports
    cases hrequest
    exact ⟨hmem, htrim⟩
  | authorization _ _ | capture _ _ | refund _ _ => cases hreports
  | captureExpired _ | voidExpired _ => exact hreports.elim

theorem Reported.refund {id : GoString} (h : Reported executions p .refund (.refund id)) :
    .refund ⟨p.refundBankOperationKey, p.bankCaptureID, p.amountCents, p.currency⟩ id ∈
      executions ∧ trimSpace id = id := by
  obtain ⟨x, hmem, hrequest, hreports, htrim⟩ := h
  cases x with
  | refund request id' =>
    cases hreports
    cases hrequest
    exact ⟨hmem, htrim⟩
  | authorization _ _ | capture _ _ | void _ _ => cases hreports
  | captureExpired _ | voidExpired _ => exact hreports.elim

theorem Reported.expired {endpoint : Endpoint} {err : GoError}
    (h : Reported executions p endpoint (.failed err)) :
    ∃ x ∈ executions, x.fate = some (p.bankAuthorizationID, .expired) := by
  obtain ⟨x, hmem, hrequest, hreports, _⟩ := h
  refine ⟨x, hmem, ?_⟩
  cases x with
  | captureExpired request =>
    cases endpoint <;> cases hrequest
    rfl
  | voidExpired request =>
    cases endpoint <;> cases hrequest
    rfl
  | authorization _ _ | capture _ _ | void _ _ | refund _ _ => cases hreports

/-- A payment that is stored as it was marked agrees with the bank, if the answer it was
marked with was reported and the payment it replaces agrees. -/
theorem PaymentAgrees.of_marked {m : Payment} {now : Time} {operation : Operation}
    {answer : BankAnswer} {kind : Option PaymentErrorKind} (agrees : PaymentAgrees executions q)
    (mark : Marked p now operation answer m kind) (gain : GainsKeys p q) (wfp : p.WellFormed)
    (wfq : q.WellFormed) (status : p.status = operation.expectedStatus)
    (key : operation.HasKey p)
    (reported : answer.Definitive (p.requestAt operation.endpoint) →
      Reported executions p operation.endpoint answer) : PaymentAgrees executions m := by
  have hkeys := gain.rest
  -- The current payment was approved before, under the id that the copy has.
  have happroved : p.status = .authorized ∨ p.status = .captured → SameIdentity p m →
      m.bankAuthorizationID = p.bankAuthorizationID → Approved executions m := by
    intro hstatus hsame hid
    have happroved := agrees.authorized (by rcases hstatus with h | h <;> simp [gain.status_eq, h])
      (by rcases hstatus with h | h <;> simp [gain.status_eq, h])
    have hcopy : SameIdentity q p := by
      rw [hkeys]
      exact ⟨rfl, rfl, rfl, rfl, rfl, rfl, rfl, rfl⟩
    refine happroved.of_sameIdentity (hcopy.trans hsame) (hid.trans ?_)
    rw [hkeys]
  -- Each case takes its answer to the execution that it reports.
  cases mark with
  | unknown err hunknown => exact .of_pending status
  | authorized _ result _ hauthorizes happroves hmark =>
    have hendpoint : operation.endpoint = .authorization := by
      rcases hauthorizes with rfl | rfl <;> rfl
    obtain ⟨request, hmem, hrequest, htrim⟩ := (reported trivial).authorization hendpoint
    obtain ⟨_, _, _, _, rfl⟩ := Payment.markAuthorized_eq_ok.mp hmark
    exact .of_authorized rfl ⟨request, result, hmem, hrequest, happroves, htrim.symm⟩
  | declined _ result _ hauthorizes hdeclines hmark =>
    have hendpoint : operation.endpoint = .authorization := by
      rcases hauthorizes with rfl | rfl <;> rfl
    obtain ⟨request, hmem, hrequest, _⟩ := (reported trivial).authorization hendpoint
    obtain ⟨_, _, _, rfl⟩ := Payment.markDeclined_eq_ok.mp hmark
    exact .of_declined rfl ⟨request, result, hmem, hrequest, hdeclines, rfl⟩
  | captured id _ hmark =>
    obtain ⟨hmem, htrim⟩ := (reported trivial).capture
    obtain ⟨hauthorized, _, _, rfl⟩ := Payment.markCaptured_eq_ok.mp hmark
    refine .of_captured rfl (happroved (.inl hauthorized) ⟨rfl, rfl, rfl, rfl, rfl, rfl, rfl, rfl⟩
      rfl) ?_
    rw [htrim]
    exact hmem
  | voided id _ hmark =>
    obtain ⟨hmem, htrim⟩ := (reported trivial).void
    obtain ⟨hauthorized, _, _, rfl⟩ := Payment.markVoided_eq_ok.mp hmark
    refine .of_voided rfl (happroved (.inl hauthorized) ⟨rfl, rfl, rfl, rfl, rfl, rfl, rfl, rfl⟩
      rfl) ?_
    rw [htrim]
    exact hmem
  | refunded id _ hmark =>
    obtain ⟨hmem, htrim⟩ := (reported trivial).refund
    obtain ⟨hcaptured, _, _, rfl⟩ := Payment.markRefunded_eq_ok.mp hmark
    -- A captured payment with its refund key has no key left to gain.
    obtain rfl := gain.eq_of_captured wfp wfq hcaptured key.refund
    refine .of_refunded rfl (happroved (.inr hcaptured) ⟨rfl, rfl, rfl, rfl, rfl, rfl, rfl, rfl⟩
      rfl) (agrees.captured (.inl hcaptured)) ?_
    rw [htrim]
    exact hmem
  | expired _ err _ hsettles hexpired hmark =>
    have hdefinitive : (BankAnswer.failed err).Definitive (p.requestAt operation.endpoint) := by
      rcases hsettles with rfl | rfl
      · exact ⟨hexpired, .inl rfl⟩
      · exact ⟨hexpired, .inr rfl⟩
    have hfate := (reported hdefinitive).expired
    obtain ⟨hauthorized, _, rfl⟩ := Payment.markExpired_eq_ok.mp hmark
    exact .of_expired rfl (happroved (.inl hauthorized) ⟨rfl, rfl, rfl, rfl, rfl, rfl, rfl, rfl⟩
      rfl) hfate

/-! ## Runs -/

/-- A marked payment was marked with a truthful answer to the request made for the copy
that was read. -/
def AnsweredFor (w : World) (command : Command) (m : Payment) : Prop :=
  ∃ read answer now kind, SentFor w.gateway.db command read (command.bankRequest read) ∧
    Marked read now command.operation answer m kind ∧
    Truthful w.executions (command.bankRequest read) answer

/-- The invariant of the gateway with the bank. -/
structure WorldInv (w : World) : Prop where
  answered : ∀ id attempt claim, w.gateway.attempts id = some attempt →
    attempt.phase.Marks claim → AnsweredFor w attempt.command claim.payment
  agrees : ∀ id p, w.gateway.db.current id = some p → PaymentAgrees w.executions p

theorem AnsweredFor.mono {command : Command} {m : Payment} (h : AnsweredFor w command m)
    (wrote : ∀ {p}, w.gateway.db.Wrote p → w'.gateway.db.Wrote p)
    (executed : ∀ x ∈ w.executions, x ∈ w'.executions) : AnsweredFor w' command m := by
  obtain ⟨read, answer, now, kind, hfor, hmark, htruthful⟩ := h
  refine ⟨read, answer, now, kind, { hfor with wrote := wrote hfor.wrote }, hmark, ?_⟩
  intro hdefinitive
  obtain ⟨x, hx, hrest⟩ := htruthful hdefinitive
  exact ⟨x, executed x hx, hrest⟩

/-- A definitive answer to the request of a stored payment was reported for that payment. -/
theorem SentExecutions.reported {command : Command} {answer : BankAnswer}
    (executed : SentExecutions w) (inv : Inv service w.gateway) (sent : SentInv w.gateway)
    (keys : KeyInv service w.gateway)
    (hfor : SentFor w.gateway.db command p (command.bankRequest p))
    (truthful : Truthful w.executions (command.bankRequest p) answer)
    (definitive : answer.Definitive (p.requestAt command.operation.endpoint)) :
    Reported w.executions p command.operation.endpoint answer := by
  have hendpoint : (p.requestAt command.operation.endpoint).endpoint =
      (command.bankRequest p).endpoint := by
    cases command <;> rfl
  have hdefinitive : answer.Definitive (command.bankRequest p) := by
    cases answer with
    | failed err => exact ⟨definitive.1, hendpoint ▸ definitive.2⟩
    | authorization | capture | void | refund => trivial
  obtain ⟨x, hx, hsame, hreports⟩ := truthful hdefinitive
  exact ⟨x, hx, executed.request_eq inv sent keys hx hsame hfor, hreports, executed.trimmed x hx⟩

theorem WorldInv.gateway_step {e : Event} (world : WorldInv w) (executed : SentExecutions w)
    (inv : Inv service w.gateway) (sent : SentInv w.gateway) (keys : KeyInv service w.gateway)
    (law : BankLaw w (.gateway e)) (hstep : SystemStep service w.gateway e w'.gateway)
    (same : w'.executions = w.executions) : WorldInv w' := by
  have hwrote : ∀ {p}, w.gateway.db.Wrote p → w'.gateway.db.Wrote p := (hstep.ledgerStep inv).wrote
  have hexecuted : ∀ x ∈ w.executions, x ∈ w'.executions := fun x hx => same ▸ hx
  constructor
  · intro id attempt' claim h hmarks
    -- A copy that is marked in this step is marked with an answer the law makes truthful.
    rcases hstep.attempt_cases h with hold | ⟨command, _, _, rfl⟩ |
      ⟨action, attempt, effect, rfl, running, rule, _, rfl⟩
    · exact (world.answered id attempt' claim hold hmarks).mono hwrote hexecuted
    · obtain ⟨_, hphase | ⟨_, hphase⟩⟩ := hmarks <;> cases hphase
    · rw [rule.command_eq]
      rcases rule.of_marks hmarks with hmarks |
        ⟨claimed, answer, kind, rfl, hwaits, _, hmark⟩
      · exact (world.answered id attempt claim running hmarks).mono hwrote hexecuted
      · have hclaim := (inv.attempts id attempt running).claimFor_of_waits hwaits
        refine AnsweredFor.mono ⟨claimed.payment, answer, _, kind,
          ⟨hclaim.wrote, hclaim.status, hclaim.hasKey, rfl⟩, hclaim.operation ▸ hmark,
          law attempt running claimed hwaits.waiting⟩ hwrote hexecuted
  · -- Of the writes only a completion moves a payment, and it writes the marked copy.
    rw [same]
    intro id p hp
    cases hstep.writeStep inv with
    | nothing _ _ history =>
      exact world.agrees id p ((Db.current_of_history_eq history id).symm.trans hp)
    | inserted _ _ attempt request running phase fresh stores =>
      rcases eq_or_ne id request.payment.id with rfl | hne
      · obtain ⟨_, _, hbuilt⟩ := (inv.attempts _ attempt running).built phase
        rw [stores.current_self, Option.some_inj] at hp
        exact hp ▸ .of_pending hbuilt.start_payment.2.1
      · exact world.agrees id p ((stores.current_of_ne hne).symm.trans hp)
    | keyed _ _ attempt request q q' running phase current _ keyed stores =>
      rcases eq_or_ne id q'.id with rfl | hne
      · rw [stores.current_self, Option.some_inj] at hp
        exact hp ▸ (world.agrees _ q current).of_keyed keyed
      · exact world.agrees id p ((stores.current_of_ne hne).symm.trans hp)
    | completed _ _ attempt claim result completedAt q running phase current status _ stores =>
      rcases eq_or_ne id claim.payment.id with rfl | hne
      · rw [stores.current_self, Option.some_inj] at hp
        obtain ⟨read, answer, now, kind, hfor, hmark, htruthful⟩ :=
          world.answered _ attempt claim running ⟨result, .inr ⟨completedAt, phase⟩⟩
        -- Since the payment was read it has kept its status, so it has only gained keys.
        obtain ⟨r, hr, hevolves⟩ := inv.sound.evolves_current hfor.wrote
        rw [← hmark.id_eq, current, Option.some_inj] at hr
        subst hr
        have hgain := hevolves.gainsKeys (status.trans hfor.status.symm)
        exact hp ▸ (world.agrees _ q current).of_marked hmark hgain
          (inv.sound.wellFormed_of_wrote hfor.wrote) (inv.sound.wellFormed_of_current current)
          hfor.status hfor.hasKey (executed.reported inv sent keys hfor htruthful)
      · exact world.agrees id p ((stores.current_of_ne hne).symm.trans hp)

theorem WorldInv.execute {more : List Execution} (world : WorldInv w)
    (executed : w.executions ⊆ more) : WorldInv { w with executions := more } where
  answered i attempt claim h marks :=
    (world.answered i attempt claim h marks).mono id fun _ hx => executed hx
  agrees id p h := (world.agrees id p h).mono executed

/-- While the drawn keys are distinct, the gateway agrees with a lawful bank. -/
theorem WorldReachable.worldInv (h : WorldReachable service w)
    (distinct : service.KeysDistinct w.gateway.drawn.bankOperationKeys) : WorldInv w := by
  obtain ⟨clock, run⟩ := h
  revert distinct
  refine run.invariant
    (P := fun w => service.KeysDistinct w.gateway.drawn.bankOperationKeys → WorldInv w) ?_ ?_
  · exact fun _ => ⟨fun _ _ _ h => (nomatch h), fun _ _ h => (nomatch h)⟩
  · intro w e w' before world law taken distinct
    have hreachable : WorldReachable service w := ⟨clock, before⟩
    obtain ⟨_, hgateway⟩ := hreachable.gateway
    cases e with
    | gateway e =>
      obtain ⟨htaken, hsame⟩ := World.step_gateway taken
      have hstep := step_cases htaken
      have hbefore : service.KeysDistinct w.gateway.drawn.bankOperationKeys := fun i hi j hj =>
        distinct i (hi.trans_le hstep.drawn_le) j (hj.trans_le hstep.drawn_le)
      exact (world hbefore).gateway_step hreachable.lawful.sentExecutions
        (inv_of_reaches hgateway) (sentInv_of_reaches hgateway)
        (keyInv_of_reaches hgateway hbefore) law hstep hsame
    | execute x =>
      cases taken
      exact (world distinct).execute (List.subset_cons_self x w.executions)

/-! ## One fate -/

/-- What a status says became of the authorization. -/
def PaymentStatus.fate : PaymentStatus → Option Fate
  | captured => some .captured
  | refunded => some .captured
  | voided => some .voided
  | expired => some .expired
  | pending => none
  | authorized => none
  | declined => none

/-- A payment's status names the only fate that its authorization has at the bank. -/
theorem PaymentAgrees.fate_eq {f g : Fate} {x : Execution} (agrees : PaymentAgrees w.executions p)
    (lawful : LawfulExecutions w) (status : p.status.fate = some f) (hx : x ∈ w.executions)
    (hfate : x.fate = some (p.bankAuthorizationID, g)) : g = f := by
  suffices hsettled : ∃ y ∈ w.executions, y.fate = some (p.bankAuthorizationID, f) by
    obtain ⟨y, hy, hfate'⟩ := hsettled
    exact lawful.oneFate x hx y hy _ g f hfate hfate'
  cases hstatus : p.status with
  | pending | authorized | declined =>
    rw [hstatus] at status
    cases status
  | captured =>
    rw [hstatus] at status
    cases status
    exact ⟨_, agrees.captured (.inl hstatus), rfl⟩
  | refunded =>
    rw [hstatus] at status
    cases status
    exact ⟨_, agrees.captured (.inr hstatus), rfl⟩
  | voided =>
    rw [hstatus] at status
    cases status
    exact ⟨_, agrees.voided hstatus, rfl⟩
  | expired =>
    rw [hstatus] at status
    cases status
    exact agrees.expired hstatus

end PaymentGateway
