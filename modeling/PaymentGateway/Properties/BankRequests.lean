/-
# A retried bank call is the same bank operation

However often a bank call is repeated, by whichever attempts, every request for one
payment to one endpoint carries the same operation key and the same data; of an
authorization only the CVV may differ. The key stood in the payment's row before
the request was sent, and no other payment or endpoint ever uses it.

That the card is the same rests on the digests: the request fingerprint of an
authorization determines its card, and a retry must present a card with the
fingerprint that the payment stores.
-/

import PaymentGateway.Invariant.Keys
import PaymentGateway.Invariant.Records

namespace PaymentGateway

open Lib

/-- The digests of HMAC-SHA256: different payloads have different digests, and a digest
is a string of hex digits, so there is nothing to trim. -/
structure PaymentService.Hashes (service : PaymentService) : Prop where
  injective : Function.Injective service.mac
  normalized : ∀ payload, Normalized (service.mac payload)

variable {service : PaymentService} {s s' : State} {e : Event}

/-! ## Cards -/

/-- A payment stores the fingerprint of the card that a command carries. -/
def CardOf (service : PaymentService) (command : Command) (p : Payment) : Prop :=
  ∀ card, command.card? = some card →
    p.authorizationCardFingerprint = service.authorizationCardFingerprint card

/-- Commands with equal request fingerprints carry the same card, as far as fingerprints
cover it. -/
theorem PaymentService.Hashes.authorizationCardFingerprint_eq (hashes : service.Hashes)
    {first second : AuthorizePaymentCommand}
    (h : service.requestFingerprint (.authorizePayment first) =
      service.requestFingerprint (.authorizePayment second)) :
    service.authorizationCardFingerprint first.card =
      service.authorizationCardFingerprint second.card := by
  have hpayload : authorizePaymentPayload first = authorizePaymentPayload second :=
    hashes.injective h
  have hcard := (authorizePaymentPayload_inj hpayload).2
  exact congrArg service.mac (authorizationCardPayload_congr hcard)

/-- The payment of a granted claim stores the fingerprint of the card that the attempt will
send. -/
theorem Db.Granted.cardOf {now : Time} {drawn drawn' : Draws} {command : Command}
    {request : ClaimRequest} {claim : PaymentCommandClaim} {db db' : Db}
    (grant : db.Granted request claim db') (sound : db.Sound)
    (built : Built service now drawn command request drawn') (hashes : service.Hashes)
    (records : ∀ recordKey record, db.records recordKey = some record →
      RecordInv service db recordKey record) : CardOf service command claim.payment := by
  have htrim : ∀ card, trimSpace (service.authorizationCardFingerprint card) =
      service.authorizationCardFingerprint card := fun card => (hashes.normalized _).trimSpace_eq
  have hne : ∀ card, service.authorizationCardFingerprint card ≠ [] :=
    fun card => (hashes.normalized _).ne_nil
  intro card hcard
  cases grant with
  | start request _ _ _ _ _ =>
    cases built with
    | authorizePayment c payment new =>
      cases hcard
      obtain ⟨_, _, _, _, _, _, _, rfl⟩ := newPendingPayment_eq_ok.mp new
      exact htrim c.card
  | restart request record payment _ slot stuck found _ =>
    cases built with
    | authorizePayment c payment' new =>
      cases hcard
      obtain ⟨origin, p, hkey, hfp, hid, hwrote, hof⟩ := (records _ record slot).origin
      have hcurrent := sound.findPaymentByID_eq_ok.mp found
      rw [hid] at hcurrent
      have hidentity := sound.sameIdentity hwrote (sound.wrote_of_current hcurrent)
        (sound.id_of_current hcurrent).symm
      -- The record was opened by an authorization with the same request fingerprint.
      cases origin with
      | authorizePayment c' =>
        have hprints := hashes.authorizationCardFingerprint_eq (hfp.symm.trans stuck.1)
        have hof' : p.authorizationCardFingerprint =
            trimSpace (service.authorizationCardFingerprint c'.card) := hof
        refine hidentity.cardFingerprint.trans ?_
        rw [hof', htrim, hprints]
      | retryAuthorization c' => cases congrArg Prod.fst hkey
      | capturePayment c' => cases congrArg Prod.fst hkey
      | voidPayment c' => cases congrArg Prod.fst hkey
      | refundPayment c' => cases congrArg Prod.fst hkey
  | acquire request p p' after _ _ _ found validated ensured =>
    cases built with
    | retryAuthorization c =>
      -- The check on acquisition compares the cards; settlements carry none.
      cases hcard
      cases ensured
      exact ((validateAcquiredPaymentCommand_eq_ok.mp validated).2 (hne c.card)).symm
    | capturePayment c => cases hcard
    | voidPayment c => cases hcard
    | refundPayment c => cases hcard
  | recover request record payment _ slot stuck found validated =>
    cases built with
    | retryAuthorization c =>
      cases hcard
      exact ((validateRecoveredPaymentCommand_eq_ok.mp validated).2.2.1 (hne c.card)).symm
    | capturePayment c => cases hcard
    | voidPayment c => cases hcard
    | refundPayment c => cases hcard

/-- An authorization request presents a card. -/
structure Presents (request : BankAuthorizationRequest) (card : CardDetails) : Prop where
  number : request.cardNumber = card.number
  expiryMonth : request.cardExpiryMonth = card.expiryMonth
  expiryYear : request.cardExpiryYear = card.expiryYear

/-- Attempts wait for the bank, and have sent, with a card whose fingerprint the payment
stores. -/
structure CardInv (service : PaymentService) (s : State) : Prop where
  waiting : ∀ id attempt claim, s.attempts id = some attempt → attempt.phase.Waits claim →
    CardOf service attempt.command claim.payment
  sent : ∀ i paymentID request, .sent i paymentID (.authorization request) ∈ s.log →
    ∃ card p, s.db.Wrote p ∧ p.id = paymentID ∧ Presents request card ∧
      p.authorizationCardFingerprint = service.authorizationCardFingerprint card

/-- Only an authorization or its retry sends an authorization request, with its card. -/
theorem Command.bankRequest_eq_authorization {command : Command} {p : Payment}
    {request : BankAuthorizationRequest} (h : .authorization request = command.bankRequest p) :
    ∃ card, command.card? = some card ∧ Presents request card := by
  cases command with
  | authorizePayment c =>
    cases h
    exact ⟨c.card, rfl, rfl, rfl, rfl⟩
  | retryAuthorization c =>
    cases h
    exact ⟨c.card, rfl, rfl, rfl, rfl⟩
  | capturePayment c => cases h
  | voidPayment c => cases h
  | refundPayment c => cases h

theorem CardInv.step (cards : CardInv service s) (inv : Inv service s)
    (records : RecordsInv service s) (hashes : service.Hashes)
    (hstep : SystemStep service s e s') : CardInv service s' := by
  constructor
  · intro id attempt' claim h hwaits
    rcases hstep.attempt_cases h with hold | ⟨command, _, _, rfl⟩ |
      ⟨action, attempt, effect, rfl, running, rule, rfl, rfl⟩
    · exact cards.waiting id attempt' claim hold hwaits
    · rcases hwaits with hwaits | hwaits <;> cases hwaits
    · rw [rule.command_eq]
      rcases rule.of_waits hwaits with hwaits | ⟨request, hphase, grant⟩
      · exact cards.waiting id attempt claim running hwaits
      · obtain ⟨_, _, hbuilt⟩ := (inv.attempts id attempt running).built hphase
        exact grant.cardOf inv.sound hbuilt hashes records
  · intro i paymentID request h
    have hwrote : ∀ {p}, s.db.Wrote p → s'.db.Wrote p := (hstep.ledgerStep inv).wrote
    rcases hstep.sent_cases h with hold | ⟨attempt, claim, running, phase, _, hid, hrequest⟩
    · obtain ⟨card, p, hp, hrest⟩ := cards.sent i paymentID request hold
      exact ⟨card, p, hwrote hp, hrest⟩
    · obtain ⟨card, hcard, hpresents⟩ := Command.bankRequest_eq_authorization hrequest
      have hclaim := (inv.attempts i attempt running).claimFor_of_waits phase
      exact ⟨card, claim.payment, hwrote hclaim.wrote, hid, hpresents,
        cards.waiting i attempt claim running phase card hcard⟩

theorem cardInv_of_reaches {guard : State → Event → Prop} {clock : Time} (hashes : service.Hashes)
    (h : Reaches (PaymentGateway.step service) guard (State.initial clock) s) :
    CardInv service s := by
  refine h.invariant ⟨fun _ _ _ h => (nomatch h), fun _ _ _ h => (nomatch h)⟩ ?_
  intro s e s' run cards _ htaken
  exact cards.step (inv_of_reaches run) (recordsInv_of_reaches run) hashes (step_cases htaken)

/-- Two authorization requests for one payment present the same card. -/
theorem CardInv.sameCard (cards : CardInv service s) (inv : Inv service s)
    (hashes : service.Hashes) {i j : ℕ} {paymentID : GoString}
    {request request' : BankAuthorizationRequest}
    (h : .sent i paymentID (.authorization request) ∈ s.log)
    (h' : .sent j paymentID (.authorization request') ∈ s.log) :
    request.cardNumber = request'.cardNumber ∧
      request.cardExpiryMonth = request'.cardExpiryMonth ∧
      request.cardExpiryYear = request'.cardExpiryYear := by
  obtain ⟨card, p, hp, hpid, hpresents, hprint⟩ := cards.sent i paymentID request h
  obtain ⟨card', q, hq, hqid, hpresents', hprint'⟩ := cards.sent j paymentID request' h'
  have hidentity := inv.sound.sameIdentity hp hq (hpid.trans hqid.symm)
  have hmac : service.authorizationCardFingerprint card =
      service.authorizationCardFingerprint card' := by
    rw [← hprint, ← hprint', hidentity.cardFingerprint]
  have hcard := authorizationCardPayload_inj (hashes.injective hmac)
  rw [hpresents.number, hpresents'.number, hpresents.expiryMonth, hpresents'.expiryMonth,
    hpresents.expiryYear, hpresents'.expiryYear]
  exact ⟨hcard.number, hcard.expiryMonth, hcard.expiryYear⟩

/-! ## The same bank operation -/

/-- A request without the CVV of an authorization. -/
def BankRequest.withoutCVV : BankRequest → BankRequest
  | authorization request => .authorization { request with cardCVV := [] }
  | request => request

/-- A request is for the full amount of the payment in a row. -/
def BankRequest.ForFullAmount (row : PaymentRow) : BankRequest → Prop
  | authorization request =>
    request.amountCents = row.amountCents ∧ request.currency = row.currency
  | capture request => request.amountCents = row.amountCents ∧ request.currency = row.currency
  | void _ => True
  | refund request => request.amountCents = row.amountCents ∧ request.currency = row.currency

theorem SameIdentity.forFullAmount {p q : Payment} (h : SameIdentity p q) (command : Command) :
    (command.bankRequest p).ForFullAmount (rowOf q) := by
  have hamount := h.amountCents.symm
  have hcurrency := h.currency.symm
  cases command with
  | voidPayment c => trivial
  | authorizePayment c => exact ⟨hamount, hcurrency⟩
  | retryAuthorization c => exact ⟨hamount, hcurrency⟩
  | capturePayment c => exact ⟨hamount, hcurrency⟩
  | refundPayment c => exact ⟨hamount, hcurrency⟩

/-- Requests that agree without their cards, and agree on their cards, agree. -/
theorem BankRequest.withoutCVV_eq {request request' : BankRequest}
    (h : request.withoutCard = request'.withoutCard)
    (card : ∀ r r', request = .authorization r → request' = .authorization r' →
      r.cardNumber = r'.cardNumber ∧ r.cardExpiryMonth = r'.cardExpiryMonth ∧
        r.cardExpiryYear = r'.cardExpiryYear) : request.withoutCVV = request'.withoutCVV := by
  cases request with
  | authorization r =>
    cases request' with
    | authorization r' =>
      obtain ⟨hnumber, hmonth, hyear⟩ := card r r' rfl rfl
      obtain ⟨key, order, customer, amount, currency, number, cvv, month, year⟩ := r
      obtain ⟨key', order', customer', amount', currency', number', cvv', month', year'⟩ := r'
      cases hnumber
      cases hmonth
      cases hyear
      cases h
      rfl
    | capture | void | refund => cases h
  | capture r =>
    cases request' <;> cases h
    rfl
  | void r =>
    cases request' <;> cases h
    rfl
  | refund r =>
    cases request' <;> cases h
    rfl

/-- Every retried bank call is the same bank operation. In every reachable state, all
requests sent for one payment to one endpoint are equal up to the CVV, and are for the
full amount of the payment; a request that a step sends carries a key that stood in a
row of the payment before the step; and requests with the same key are for the same
payment and endpoint. -/
theorem bank_calls_agree (service : PaymentService) (hashes : service.Hashes) (s : State)
    (reachable : Reachable service s)
    (distinct : service.KeysDistinct s.drawn.bankOperationKeys) :
    (∀ i j paymentID request request', .sent i paymentID request ∈ s.log →
      .sent j paymentID request' ∈ s.log → request.endpoint = request'.endpoint →
      request.withoutCVV = request'.withoutCVV) ∧
    (∀ i paymentID request, .sent i paymentID request ∈ s.log →
      ∃ row, s.db.payments paymentID = some row ∧ request.ForFullAmount row) ∧
    (∀ e s', PaymentGateway.step service s e = some s' →
      ∀ i paymentID request, .sent i paymentID request ∈ s'.log →
        ∃ version ∈ s.db.history, version.row.id = paymentID ∧
          version.row.keyAt request.endpoint = some request.operationKey) ∧
    (∀ i j paymentID paymentID' request request', .sent i paymentID request ∈ s.log →
      .sent j paymentID' request' ∈ s.log → request.operationKey = request'.operationKey →
      paymentID = paymentID' ∧ request.endpoint = request'.endpoint) := by
  obtain ⟨clock, run⟩ := reachable
  have inv := inv_of_reaches run
  have sent := sentInv_of_reaches run
  have cards := cardInv_of_reaches hashes run
  have keys := keyInv_of_reaches run distinct
  refine ⟨?_, ?_, ?_, ?_⟩
  · intro i j paymentID request request' h h' hendpoint
    obtain ⟨first, p, hp, hfor⟩ := sent i paymentID request h
    obtain ⟨second, q, hq, hfor'⟩ := sent j paymentID request' h'
    -- Both are what some command sends for a version of the payment, so only cards can differ.
    refine BankRequest.withoutCVV_eq
      (hfor.withoutCard_eq hfor' inv.sound (hp.trans hq.symm) hendpoint) ?_
    rintro r r' rfl rfl
    exact cards.sameCard inv hashes h h'
  · -- A row evolves, which keeps its amount, currency, order and customer.
    intro i paymentID request h
    obtain ⟨command, p, rfl, hfor⟩ := sent i paymentID request h
    obtain ⟨q, hq, hevolves⟩ := inv.sound.evolves_current hfor.wrote
    refine ⟨rowOf q, by rw [inv.sound.payments_eq, hq]; rfl, ?_⟩
    rw [hfor.request]
    exact hevolves.sameIdentity.forFullAmount command
  · -- What this step sends was made from a version that is in the history already.
    intro e s' htaken i paymentID request h
    obtain ⟨command, p, rfl, hfor⟩ := sent.before inv (step_cases htaken) h
    obtain ⟨version, hmem, rfl⟩ := hfor.wrote
    have hkey := hfor.hasKey.keyAt_ne_nil (inv.sound.wellFormed version hmem)
    refine ⟨version, hmem, ?_⟩
    rw [inv.sound.encoded version hmem, hfor.request, Command.endpoint_bankRequest,
      Command.operationKey_bankRequest]
    exact ⟨rfl, keyAt_rowOf hkey⟩
  · intro i j paymentID paymentID' request request' h h' hkey
    obtain ⟨first, p, rfl, hfor⟩ := sent i paymentID request h
    obtain ⟨second, q, rfl, hfor'⟩ := sent j paymentID' request' h'
    exact keys.sent_unique inv hfor hfor' hkey

theorem Sample.hashes : Sample.service.Hashes where
  injective first second h := by
    have htail : first ++ [0x6D] = second ++ [0x6D] := (List.cons.inj h).2
    exact List.append_cancel_right htail
  normalized payload := normalized_of_ends payload (by decide) (by decide)

/-- Two captures of one payment under different idempotency keys, the first of which met a
timeout: both requests carry the key that the first one stored, and so does any other. -/
theorem bank_calls_agree_retried :
    ∃ s request, Reachable Sample.service s ∧
      Sample.service.KeysDistinct s.drawn.bankOperationKeys ∧
      request.operationKey = Sample.service.newBankOperationKey 1 ∧
      .sent 1 Sample.paymentID (.capture request) ∈ s.log ∧
      .sent 2 Sample.paymentID (.capture request) ∈ s.log ∧
      ∀ i other, .sent i Sample.paymentID other ∈ s.log → other.endpoint = .capture →
        other.withoutCVV = .capture request := by
  let request : BankCaptureRequest :=
    ⟨Sample.service.newBankOperationKey 1, ascii "auth-1", 1000, currencyUSD⟩
  obtain ⟨s, hs, hproperty⟩ := exists_reachable Sample.service 1
    (Sample.authorized ++ Sample.call 1 (Sample.capture (ascii "k1") (by decide)) ++
      [.act 1 (.answer (.failed (newPaymentBankTimeoutError .none))), .act 1 .release] ++
      Sample.call 2 (Sample.capture (ascii "k2") (by decide)))
    (fun s => s.drawn.bankOperationKeys = 3 ∧
      .sent 1 Sample.paymentID (.capture request) ∈ s.log ∧
      .sent 2 Sample.paymentID (.capture request) ∈ s.log) (by decide +kernel)
  obtain ⟨hdrawn, hfirst, hsecond⟩ := of_decide_eq_true hproperty
  have hdistinct : Sample.service.KeysDistinct s.drawn.bankOperationKeys := by
    rw [hdrawn]
    unfold PaymentService.KeysDistinct
    decide +kernel
  refine ⟨s, request, hs, hdistinct, rfl, hfirst, hsecond, fun i other hother hendpoint => ?_⟩
  exact (bank_calls_agree Sample.service Sample.hashes s hs hdistinct).1 i 1 Sample.paymentID other
    (.capture request) hother hfirst hendpoint

end PaymentGateway
