/-
# Payments and holds

The gateway and the bank together, over a network that delays, repeats and loses requests
and answers. The agreement of the stored payments with the executions of the bank is
carried on to the bank's book of holds: each authorized payment has a hold of its own for
its amount, and no hold is settled for anyone but a stored payment. The status of the
payment tells the state of the hold or awaits it with the key of the operation, with one
exception: an expired payment may have a voided hold. The bank voids holds that have
expired, so a void may be executed while a capture is told of the expiration, and the
payment is then stored as expired, without the key of the void.

The bank may hold money twice for one payment, when two requests with the key of its
authorization overlap. Such a second hold stays open.
-/

import PaymentGateway.MockBank.Settlement
import PaymentGateway.Properties.BankAgreement
import PaymentGateway.App.Fingerprint

namespace PaymentGateway.MockBank

open Lib

/-- What a payment row tells of its hold. A state that the status does not show is awaited
with the key of the operation. An expired row tells only that the hold was not captured: it is
open, or voided by a void that the row does not know of. -/
def Shows (row : PaymentRow) : HoldState → Prop
  | .open => row.status = PaymentStatus.text .authorized ∨ row.status = PaymentStatus.text .expired
  | .captured => row.status = PaymentStatus.text .captured ∨
      row.status = PaymentStatus.text .authorized ∧ row.captureBankOperationKey ≠ none
  | .voided => row.status = PaymentStatus.text .voided ∨ row.status = PaymentStatus.text .expired ∨
      row.status = PaymentStatus.text .authorized ∧ row.voidBankOperationKey ≠ none
  | .refunded => row.status = PaymentStatus.text .refunded ∨
      row.status = PaymentStatus.text .captured ∧ row.refundBankOperationKey ≠ none

theorem nullableString_ne_none {value : GoString} (h : value ≠ []) :
    nullableString value ≠ none := by
  simp [nullableString, h]

theorem eq_of_nullableString {value result : GoString} (h : nullableString value = some result) :
    value = result ∧ value ≠ [] := by
  unfold nullableString at h
  split at h
  · cases h
  · next hne => exact ⟨Option.some.inj h, hne⟩

theorem formatAuthorizationID_injective : Function.Injective formatAuthorizationID := by
  intro id other h
  have hparsed := congrArg parseAuthorizationID h
  rw [Net.parseAuthorizationID_format, Net.parseAuthorizationID_format] at hparsed
  exact Option.some.inj hparsed

namespace Net

variable {d : Deployment} {start : Db} {net : Net} {p q : Payment} {paymentID otherID : GoString}
  {id capture : UUID} {request : BankRequest} {t : Transaction}

/-! ## The two sides together -/

/-- The invariants of the gateway and the bank. -/
structure Coherent (d : Deployment) (start : Db) (net : Net) : Prop where
  inv : Inv d start net
  empty : start.transactions = []
  expiries : Expiries d.bank net.bank.sessions net.bank.clock
  gateway : PaymentGateway.Inv d.service net.gateway
  sent : SentInv net.gateway
  keys : KeyInv d.service net.gateway
  world : WorldInv net.world

theorem Reachable.server (h : Reachable d start net) : Server.Reachable d.bank start net.bank := by
  obtain ⟨clock, bankClock, run⟩ := h
  refine ⟨bankClock, run.invariant (P := fun net => Reaches (Server.step d.bank)
    (fun _ _ => True) (.initial start bankClock) net.bank) .refl ?_⟩
  intro net e net' _ hbank _ taken
  cases step_cases taken with
  | gateway => exact hbank
  | deliver _ _ _ _ htaken => exact hbank.tail _ trivial htaken
  | serve _ inner _ _ htaken => exact hbank.tail inner trivial htaken

theorem Reachable.coherent (h : Reachable d start net) (empty : start.transactions = [])
    (distinct : d.service.KeysDistinct net.gateway.drawn.bankOperationKeys) :
    Coherent d start net := by
  obtain ⟨_, run⟩ := h.gateway
  exact ⟨h.inv, empty, h.server.expiries empty, inv_of_reaches run, sentInv_of_reaches run,
    keyInv_of_reaches run distinct, h.worldInv distinct⟩

/-- A payment with the id of an authorization has been authorized. -/
theorem status_of_named (wf : p.WellFormed) (named : p.bankAuthorizationID ≠ []) :
    p.status ≠ .pending ∧ p.status ≠ .declined := by
  have hlife := wf.lifecycle.authorization
  constructor <;> intro hstatus <;> rw [hstatus] at hlife <;> exact named hlife

namespace Coherent

/-- The transaction that authorized a payment. -/
theorem authorized (c : Coherent d start net) (hp : net.gateway.db.current paymentID = some p)
    (named : p.bankAuthorizationID ≠ []) :
    ∃ request t, net.Grants (.authorization request) t ∧
      p.bankAuthorizationID = formatAuthorizationID t.id ∧
      (BankRequest.authorization request).withoutCard = p.requestAt .authorization := by
  obtain ⟨hpending, hdeclined⟩ := status_of_named (c.gateway.sound.wellFormed_of_current hp) named
  obtain ⟨request, result, hx, hmade, -, hid⟩ :=
    (c.world.agrees _ p hp).authorized hpending hdeclined
  have hgiven : result.bankAuthorizationID ≠ [] := hid ▸ named
  obtain ⟨t, hgrants, hbankID⟩ := grants_of_execution hx hgiven
  exact ⟨request, t, hgrants, hid.symm.trans hbankID, hmade⟩

/-- No two payments have one authorization. -/
theorem eq_of_named (c : Coherent d start net) (hp : net.gateway.db.current paymentID = some p)
    (hq : net.gateway.db.current otherID = some q) (named : p.bankAuthorizationID ≠ [])
    (same : q.bankAuthorizationID = p.bankAuthorizationID) : paymentID = otherID := by
  obtain ⟨request, t, hgrants, hid, hmade⟩ := c.authorized hp named
  obtain ⟨request', u, hgrants', hid', hmade'⟩ := c.authorized hq (same ▸ named)
  have hrow : t.id = u.id := formatAuthorizationID_injective (hid.symm.trans (same.symm.trans hid'))
  -- The two authorizations were made for one request, and its key belongs to one payment.
  have hrequest := c.inv.request_eq_of_id hgrants hgrants' hrow
  have hkey : p.authorizationBankOperationKey = q.authorizationBankOperationKey := by
    rw [← hrequest, hmade] at hmade'
    exact congrArg (·.operationKey) (BankRequest.authorization.inj hmade')
  have sound := c.gateway.sound
  have huse : net.gateway.Uses p.authorizationBankOperationKey (.stored p.id .authorization) :=
    ⟨p, sound.wrote_of_current hp, rfl, rfl⟩
  have huse' : net.gateway.Uses p.authorizationBankOperationKey (.stored q.id .authorization) :=
    ⟨q, sound.wrote_of_current hq, rfl, hkey.symm⟩
  have hne := (sound.wellFormed_of_current hp).authorizationKey.ne_nil
  have hstored := (KeyUse.stored.inj (c.keys.unique _ _ _ hne huse huse')).1
  rw [← sound.id_of_current hp, ← sound.id_of_current hq, hstored]

/-- A payment names a hold in the form in which the bank gives out its id. -/
theorem named_of_parse (c : Coherent d start net)
    (hp : net.gateway.db.current paymentID = some p) (named : p.bankAuthorizationID ≠ [])
    (parsed : parseAuthorizationID p.bankAuthorizationID = some id) :
    p.bankAuthorizationID = formatAuthorizationID id := by
  obtain ⟨_, t, -, hid, -⟩ := c.authorized hp named
  rw [hid, parseAuthorizationID_format, Option.some_inj] at parsed
  rw [hid, parsed]

/-! ## What the bank has done is in the payment -/

/-- The payment for which a row was settled, and what it is now. -/
theorem payment_of_settlement (c : Coherent d start net) {key : UUID × TransactionType}
    (h : net.bank.sessions.db.settlement? key = some id) :
    ∃ command p q, SentFor net.gateway.db command p (command.bankRequest p) ∧
      net.gateway.db.current p.id = some q ∧ Evolves p q ∧
      target? (command.bankRequest p) = some key := by
  obtain ⟨request, t, ⟨e, he, horigin, -⟩, -, htarget⟩ := (c.inv.settlement?_eq_some c.empty).mp h
  obtain ⟨i, paymentID, hsent⟩ := c.inv.sent e.id request horigin
  obtain ⟨command, p, -, hfor⟩ := c.sent i paymentID request hsent
  obtain ⟨q, hq, hevolves⟩ := c.gateway.sound.evolves_current hfor.wrote
  rw [hfor.request] at htarget
  exact ⟨command, p, q, { hfor with request := rfl }, hq, hevolves, htarget⟩

/-- A payment that was authorized when a request named its hold still names it. -/
theorem named_of_evolves (c : Coherent d start net) (hq : net.gateway.db.current paymentID = some q)
    (wf : p.WellFormed) (evolves : Evolves p q) (status : p.status = .authorized)
    (parsed : parseAuthorizationID p.bankAuthorizationID = some id) :
    q.bankAuthorizationID = formatAuthorizationID id := by
  obtain ⟨hid, -⟩ := evolves.bankAuthorizationID_eq (by simp [status])
  have hset := wf.set_of_status.1 (by simp [status]) (by simp [status])
  rw [← hid] at hset parsed
  exact c.named_of_parse hq hset parsed

theorem captured_payment (c : Coherent d start net)
    (h : net.bank.sessions.db.settlement? (id, .capture) = some capture) :
    ∃ paymentID p, net.gateway.db.current paymentID = some p ∧
      p.bankAuthorizationID = formatAuthorizationID id ∧
      (p.status = .authorized → p.captureBankOperationKey ≠ []) := by
  obtain ⟨command, p, q, hfor, hq, hevolves, htarget⟩ := c.payment_of_settlement h
  have hwf := c.gateway.sound.wellFormed_of_wrote hfor.wrote
  cases command with
  | authorizePayment | retryAuthorization => cases htarget
  | voidPayment | refundPayment =>
    obtain ⟨_, -, heq⟩ := Option.map_eq_some_iff.mp htarget
    cases heq
  | capturePayment command =>
    obtain ⟨_, hparsed, heq⟩ := Option.map_eq_some_iff.mp htarget
    cases heq
    refine ⟨p.id, q, hq, c.named_of_evolves hq hwf hevolves hfor.status hparsed, fun hstatus => ?_⟩
    have hset := hfor.hasKey.capture
    rw [(hevolves.captureKey_eq hset).resolve_right (by simp [hstatus])]
    exact hset

theorem voided_payment (c : Coherent d start net) {void : UUID}
    (h : net.bank.sessions.db.settlement? (id, .void) = some void) :
    ∃ paymentID p, net.gateway.db.current paymentID = some p ∧
      p.bankAuthorizationID = formatAuthorizationID id ∧
      (p.status = .authorized → p.voidBankOperationKey ≠ []) := by
  obtain ⟨command, p, q, hfor, hq, hevolves, htarget⟩ := c.payment_of_settlement h
  have hwf := c.gateway.sound.wellFormed_of_wrote hfor.wrote
  cases command with
  | authorizePayment | retryAuthorization => cases htarget
  | capturePayment | refundPayment =>
    obtain ⟨_, -, heq⟩ := Option.map_eq_some_iff.mp htarget
    cases heq
  | voidPayment command =>
    obtain ⟨_, hparsed, heq⟩ := Option.map_eq_some_iff.mp htarget
    cases heq
    refine ⟨p.id, q, hq, c.named_of_evolves hq hwf hevolves hfor.status hparsed, fun hstatus => ?_⟩
    have hset := hfor.hasKey.void
    rw [(hevolves.voidKey_eq hset).resolve_right (by simp [hstatus])]
    exact hset

/-! ## What the payment tells is at the bank -/

/-- An execution that gave out an id has settled what its request named. -/
theorem settlement_of_execution (c : Coherent d start net) {x : Execution}
    {key : UUID × TransactionType} (hx : x ∈ net.executions) (given : x.bankID ≠ [])
    (htarget : target? x.request = some key) :
    ∃ row, net.bank.sessions.db.settlement? key = some row ∧
      x.bankID = formatID (kindOf x.request.endpoint) row := by
  obtain ⟨t, hgrants, hid⟩ := grants_of_execution hx given
  exact ⟨t.id, (c.inv.settlement?_eq_some c.empty).mpr ⟨_, t, hgrants, rfl, htarget⟩, hid⟩

theorem capture_of_status (c : Coherent d start net)
    (hp : net.gateway.db.current paymentID = some p)
    (named : p.bankAuthorizationID = formatAuthorizationID id)
    (status : p.status = .captured ∨ p.status = .refunded) :
    ∃ capture, net.bank.sessions.db.settlement? (id, .capture) = some capture ∧
      p.bankCaptureID = formatCaptureID capture := by
  have hset := (c.gateway.sound.wellFormed_of_current hp).set_of_status.2.1 status
  refine c.settlement_of_execution ((c.world.agrees _ p hp).captured status) hset.2 ?_
  simp [Execution.request, target?, named, parseAuthorizationID_format]

theorem refund_of_status (c : Coherent d start net)
    (hp : net.gateway.db.current paymentID = some p)
    (named : p.bankCaptureID = formatCaptureID capture) (status : p.status = .refunded) :
    ∃ refund, net.bank.sessions.db.settlement? (capture, .refund) = some refund := by
  have hset := (c.gateway.sound.wellFormed_of_current hp).set_of_status.2.2.1 status
  have htarget : target? (.refund ⟨p.refundBankOperationKey, p.bankCaptureID, p.amountCents,
      p.currency⟩) = some (capture, .refund) := by
    simp [target?, named, parseCaptureID_format]
  obtain ⟨refund, hrefund, -⟩ :=
    c.settlement_of_execution ((c.world.agrees _ p hp).refunded status) hset.2 htarget
  exact ⟨refund, hrefund⟩

theorem void_of_status (c : Coherent d start net)
    (hp : net.gateway.db.current paymentID = some p)
    (named : p.bankAuthorizationID = formatAuthorizationID id) (status : p.status = .voided) :
    ∃ void, net.bank.sessions.db.settlement? (id, .void) = some void := by
  have hset := (c.gateway.sound.wellFormed_of_current hp).set_of_status.2.2.2 status
  have htarget : target? (.void ⟨p.voidBankOperationKey, p.bankAuthorizationID⟩) =
      some (id, .void) := by
    simp [target?, named, parseAuthorizationID_format]
  obtain ⟨void, hvoid, -⟩ :=
    c.settlement_of_execution ((c.world.agrees _ p hp).voided status) hset.2 htarget
  exact ⟨void, hvoid⟩

theorem uncaptured_of_status (c : Coherent d start net)
    (hp : net.gateway.db.current paymentID = some p)
    (named : p.bankAuthorizationID = formatAuthorizationID id) (status : p.status = .expired) :
    net.bank.sessions.db.settlement? (id, .capture) = none := by
  obtain ⟨x, hx, hfate⟩ := (c.world.agrees _ p hp).expired status
  exact c.inv.uncaptured_of_expired c.expiries hx (named ▸ hfate)

theorem refunded_payment (c : Coherent d start net) {refund : UUID}
    (h : net.bank.sessions.db.settlement? (id, .capture) = some capture)
    (h' : net.bank.sessions.db.settlement? (capture, .refund) = some refund) :
    ∃ paymentID p, net.gateway.db.current paymentID = some p ∧
      p.bankAuthorizationID = formatAuthorizationID id ∧
      (p.status = .captured ∨ p.status = .refunded) ∧ p.refundBankOperationKey ≠ [] := by
  obtain ⟨command, p, q, hfor, hq, hevolves, htarget⟩ := c.payment_of_settlement h'
  cases command with
  | authorizePayment | retryAuthorization => cases htarget
  | capturePayment | voidPayment =>
    obtain ⟨_, -, heq⟩ := Option.map_eq_some_iff.mp htarget
    cases heq
  | refundPayment command =>
    obtain ⟨_, hparsed, heq⟩ := Option.map_eq_some_iff.mp htarget
    cases heq
    obtain ⟨hid, hstatus⟩ := hevolves.bankCaptureID_eq (.inl hfor.status)
    have hkey := hevolves.refundKey_eq hfor.hasKey.refund
    refine ⟨p.id, q, hq, ?_, hstatus, hkey ▸ hfor.hasKey.refund⟩
    -- The capture that the request named is the one of this payment.
    have hwf := c.gateway.sound.wellFormed_of_current hq
    have hnamed := hwf.set_of_status.1 (by rcases hstatus with h | h <;> simp [h])
      (by rcases hstatus with h | h <;> simp [h])
    have hx := (c.world.agrees _ q hq).captured hstatus
    obtain ⟨u, hgrantsu, hu⟩ := grants_of_execution hx (hwf.set_of_status.2.1 hstatus).2
    have hcapture : u.id = capture := by
      have hparsedq : parseCaptureID q.bankCaptureID = some capture := hid ▸ hparsed
      rw [show q.bankCaptureID = formatCaptureID u.id from hu, parseCaptureID_format] at hparsedq
      exact Option.some.inj hparsedq
    obtain ⟨other, v, hgrantsv, hv, htargetv⟩ := (c.inv.settlement?_eq_some c.empty).mp h
    obtain rfl := c.inv.request_eq_of_id hgrantsv hgrantsu (hv.trans hcapture.symm)
    obtain ⟨_, hparsedid, heq⟩ := Option.map_eq_some_iff.mp htargetv
    cases heq
    exact c.named_of_parse hq hnamed hparsedid

/-! ## Statuses and states -/

/-- A payment shows the state of the hold that it names. -/
theorem shows (c : Coherent d start net) (hp : net.gateway.db.current paymentID = some p)
    (named : p.bankAuthorizationID = formatAuthorizationID id) {state : HoldState}
    (settled : net.bank.sessions.db.Settled id state) : Shows (rowOf p) state := by
  have hne : p.bankAuthorizationID ≠ [] := named ▸ (normalized_formatID _ id).ne_nil
  have hstatuses := status_of_named (c.gateway.sound.wellFormed_of_current hp) hne
  -- Whoever names the hold is this payment.
  have hsame : ∀ {otherID q}, net.gateway.db.current otherID = some q →
      q.bankAuthorizationID = formatAuthorizationID id → q = p := by
    intro otherID q hq hnamed
    obtain rfl := c.eq_of_named hp hq hne (hnamed.trans named.symm)
    exact Option.some.inj (hq.symm.trans hp)
  have hcapture := c.capture_of_status hp named
  have hvoid := c.void_of_status hp named
  have hexpired := c.uncaptured_of_status hp named
  cases state with
  | «open» =>
    obtain ⟨huncaptured, hunvoided⟩ := settled
    cases hstatus : p.status with
    | authorized => exact .inl (congrArg PaymentStatus.text hstatus)
    | expired => exact .inr (congrArg PaymentStatus.text hstatus)
    | captured | refunded =>
      obtain ⟨_, hsome, -⟩ := hcapture (by simp [hstatus])
      cases huncaptured.symm.trans hsome
    | voided =>
      obtain ⟨_, hsome⟩ := hvoid hstatus
      cases hunvoided.symm.trans hsome
    | pending => exact absurd hstatus hstatuses.1
    | declined => exact absurd hstatus hstatuses.2
  | captured =>
    obtain ⟨capture, hcaptured, hunvoided, hunrefunded⟩ := settled
    cases hstatus : p.status with
    | captured => exact .inl (congrArg PaymentStatus.text hstatus)
    | authorized =>
      obtain ⟨_, q, hq, hnamed, hkey⟩ := c.captured_payment hcaptured
      obtain rfl := hsame hq hnamed
      exact .inr ⟨congrArg PaymentStatus.text hstatus, nullableString_ne_none (hkey hstatus)⟩
    | refunded =>
      obtain ⟨_, hsome, hid⟩ := hcapture (.inr hstatus)
      obtain ⟨_, hrefunded⟩ := c.refund_of_status hp hid hstatus
      obtain rfl := Option.some.inj (hcaptured.symm.trans hsome)
      cases hunrefunded.symm.trans hrefunded
    | voided =>
      obtain ⟨_, hsome⟩ := hvoid hstatus
      cases hunvoided.symm.trans hsome
    | expired => cases hcaptured.symm.trans (hexpired hstatus)
    | pending => exact absurd hstatus hstatuses.1
    | declined => exact absurd hstatus hstatuses.2
  | voided =>
    obtain ⟨huncaptured, hvoided⟩ := settled
    cases hstatus : p.status with
    | voided => exact .inl (congrArg PaymentStatus.text hstatus)
    | expired => exact .inr (.inl (congrArg PaymentStatus.text hstatus))
    | authorized =>
      obtain ⟨_, hsome⟩ := Option.ne_none_iff_exists'.mp hvoided
      obtain ⟨_, q, hq, hnamed, hkey⟩ := c.voided_payment hsome
      obtain rfl := hsame hq hnamed
      exact .inr (.inr ⟨congrArg PaymentStatus.text hstatus,
        nullableString_ne_none (hkey hstatus)⟩)
    | captured | refunded =>
      obtain ⟨_, hsome, -⟩ := hcapture (by simp [hstatus])
      cases huncaptured.symm.trans hsome
    | pending => exact absurd hstatus hstatuses.1
    | declined => exact absurd hstatus hstatuses.2
  | refunded =>
    obtain ⟨capture, hcaptured, -, hrefunded⟩ := settled
    obtain ⟨_, hsome⟩ := Option.ne_none_iff_exists'.mp hrefunded
    obtain ⟨_, q, hq, hnamed, hstatus, hkey⟩ := c.refunded_payment hcaptured hsome
    obtain rfl := hsame hq hnamed
    rcases hstatus with hstatus | hstatus
    · exact .inr ⟨congrArg PaymentStatus.text hstatus, nullableString_ne_none hkey⟩
    · exact .inl (congrArg PaymentStatus.text hstatus)

/-- The hold that a payment names. -/
theorem hold_of_payment (c : Coherent d start net)
    (hp : net.gateway.db.current paymentID = some p) (named : p.bankAuthorizationID ≠ []) :
    ∃ hold ∈ net.bank.sessions.db.book, p.bankAuthorizationID = formatAuthorizationID hold.id ∧
      hold.amount = p.amountCents := by
  obtain ⟨request, t, hgrants, hid, hmade⟩ := c.authorized hp named
  obtain ⟨service, hservice, hfulfils, status, hrow⟩ := c.inv.fulfils hgrants
  cases hservice
  have hamount : request.amountCents = p.amountCents :=
    congrArg (·.amountCents) (BankRequest.authorization.inj hmade)
  refine ⟨net.bank.sessions.db.entry { t with status }, ?_, hid, hfulfils.2.1.trans hamount⟩
  exact List.mem_map_of_mem (List.mem_filter.mpr ⟨hrow, decide_eq_true hfulfils.1⟩)

/-- The payment for which a hold was settled. -/
theorem payment_of_hold (c : Coherent d start net) {state : HoldState}
    (settled : net.bank.sessions.db.Settled id state) (moved : state ≠ .open) :
    ∃ paymentID p, net.gateway.db.current paymentID = some p ∧
      p.bankAuthorizationID = formatAuthorizationID id := by
  cases state with
  | «open» => exact absurd rfl moved
  | captured | refunded =>
    obtain ⟨capture, hcaptured, -⟩ := settled
    obtain ⟨paymentID, p, hp, hnamed, -⟩ := c.captured_payment hcaptured
    exact ⟨paymentID, p, hp, hnamed⟩
  | voided =>
    obtain ⟨_, hsome⟩ := Option.ne_none_iff_exists'.mp settled.2
    obtain ⟨paymentID, p, hp, hnamed, -⟩ := c.voided_payment hsome
    exact ⟨paymentID, p, hp, hnamed⟩

end Coherent

end Net

/-! ## A sample run -/

namespace Sample

def deployment : Deployment where
  service := PaymentGateway.Sample.service
  client := PaymentGateway.Sample.bankClient
  bank := bank

/-- A response as it arrives in one piece. -/
def arrived (response : Response) : HttpResponse :=
  ⟨response.status, [], ⟨[response.body.written], .eof⟩⟩

/-- The client gets to see a response at once. -/
def sees (response : Response) : BankClient.Encounter :=
  let trips := PaymentGateway.Sample.answering (.ok (arrived response))
  ⟨trips, none, trips⟩

theorem httpDo_arrived (resolve : ResolveURL) (http : HttpRequest) (response : Response) :
    (httpDo resolve http (PaymentGateway.Sample.answering (.ok (arrived response)))).1 =
      .ok (arrived response) := by
  rw [httpDo, doFrom]
  dsimp only [roundTrip, roundTripFrom, PaymentGateway.Sample.answering]
  split <;> rfl

theorem honest_sees {net : Net} {i : ℕ} {response : Response} {request : BankRequest}
    (given : (i, response) ∈ net.bank.answers) (origin : net.origin i = some request) :
    net.Honest deployment request (sees response).first := by
  intro http _
  rw [sees, httpDo_arrived]
  refine .inl ⟨i, response, given, origin, rfl, ?_⟩
  rw [Json.Reader.bytes, arrived, List.flatten_singleton]

/-- `Net.Law`, for runs in which the first attempt decides. -/
def lawful (net : Net) : NetEvent → Bool
  | .gateway (.act id (.answer answer)) => (net.gateway.attempts id).all fun attempt =>
    attempt.phase.waiting.all fun claim => net.bank.answers.any fun given =>
      net.origin given.1 = some (attempt.command.bankRequest claim.payment) &&
        answer = (deployment.client.call (attempt.command.bankRequest claim.payment)
          (sees given.2)).1
  | .deliver _ request => net.gateway.log.any (·.sends request)
  | _ => true

theorem lawful_sound (net : Net) (e : NetEvent) (h : lawful net e = true) :
    net.Law deployment e := by
  cases e with
  | gateway e =>
    cases e with
    | act id action =>
      cases action with
      | answer answer =>
        intro attempt running claim waiting
        rw [Option.mem_def] at running waiting
        simp only [lawful, running, waiting, Option.all_some, List.any_eq_true] at h
        obtain ⟨⟨i, response⟩, hgiven, hboth⟩ := h
        rw [Bool.and_eq_true, decide_eq_true_eq, decide_eq_true_eq] at hboth
        have honest := honest_sees hgiven hboth.1
        exact ⟨sees response, honest, honest, hboth.2⟩
      | _ => trivial
    | _ => trivial
  | deliver i request => exact exists_sent_of_sends h
  | serve | cleanup | tick => trivial

theorem exists_net (property : Net → Bool) (events : List NetEvent)
    (h : (execWhere (Net.step deployment) lawful (.initial db 1000000 1000000) events).any
      property = true) : ∃ net, Net.Reachable deployment db net ∧ property net = true := by
  obtain ⟨net, run, hnet⟩ := exists_reaches_of_execWhere lawful_sound events h
  exact ⟨net, ⟨_, _, run⟩, hnet⟩

def authorizationRequest : BankRequest :=
  .authorization ⟨PaymentGateway.Sample.service.newBankOperationKey 0, ascii "order",
    ascii "customer", 1000, currencyUSD, ascii "4111111111111111", ascii "123", 12, 2030⟩

def captureRequest : BankRequest :=
  .capture ⟨PaymentGateway.Sample.service.newBankOperationKey 1, formatAuthorizationID (uuid 2),
    1000, currencyUSD⟩

/-- A request is delivered and its transaction is committed. -/
def committed (i : ℕ) (request : BankRequest) (id : UUID) (statements : ℕ) : List NetEvent :=
  [.deliver i request, .serve i (.lookup false), .serve i .handle] ++
    List.replicate statements (.serve i (.call id none)) ++ [.serve i .finish]

/-- A payment is authorized, and its capture is committed. -/
def captureCommitted : List NetEvent :=
  (PaymentGateway.Sample.call 0 (PaymentGateway.Sample.authorize (ascii "first") (by decide))).map
      .gateway ++
    committed 0 authorizationRequest (uuid 2) 7 ++ [.serve 0 (.store false), .serve 0 .respond] ++
    (PaymentGateway.Sample.finish 0 (.authorization
      ⟨formatAuthorizationID (uuid 2), 1000000 + 168 * 3600 * 1000000000, []⟩)).map .gateway ++
    (PaymentGateway.Sample.call 1 (PaymentGateway.Sample.capture (ascii "second") (by decide))).map
      .gateway ++
    committed 1 captureRequest (uuid 3) 7

/-- The answer to the capture is lost, and the attempt dies. -/
def capturedUnheard : List NetEvent :=
  captureCommitted ++ [.serve 1 .lose, .gateway (.act 1 .die)]

theorem keysDistinct_two : PaymentGateway.Sample.service.KeysDistinct 2 := by
  unfold PaymentService.KeysDistinct
  decide +kernel

end Sample

namespace Net

variable {d : Deployment} {start : Db} {net : Net} {paymentID : GoString}

/-- **Every authorized payment has a hold of its own.** While the drawn keys are distinct, a
payment row that names an authorization has a hold of its amount in the book of the bank, no
other row names it, and the status of the row shows the state of the hold, awaits it with the
key of the operation, or is expired while the hold is open or voided. -/
theorem payment_has_its_hold (h : Reachable d start net) (empty : start.transactions = [])
    (distinct : d.service.KeysDistinct net.gateway.drawn.bankOperationKeys) {row : PaymentRow}
    {authorization : GoString} (stored : net.gateway.db.payments paymentID = some row)
    (named : row.bankAuthorizationID = some authorization) :
    ∃ hold ∈ net.bank.sessions.db.book, authorization = formatAuthorizationID hold.id ∧
      hold.amount = row.amountCents ∧ Shows row hold.state ∧
      ∀ otherID other, net.gateway.db.payments otherID = some other →
        other.bankAuthorizationID = some authorization → otherID = paymentID := by
  have c := h.coherent empty distinct
  obtain ⟨p, hp, rfl⟩ := c.gateway.sound.exists_current_of_row stored
  obtain ⟨rfl, hne⟩ := eq_of_nullableString named
  obtain ⟨hold, hmem, hid, hamount⟩ := c.hold_of_payment hp hne
  have sound := c.inv.bank.reachable.sound empty
  refine ⟨hold, hmem, hid, hamount, c.shows hp hid (sound.settled_of_mem_book hmem), ?_⟩
  intro otherID other hother hsame
  obtain ⟨q, hq, rfl⟩ := c.gateway.sound.exists_current_of_row hother
  exact (c.eq_of_named hp hq hne (eq_of_nullableString hsame).1).symm

/-- The hold of the sample run is captured, which the row of the payment still awaits. -/
theorem payment_has_its_hold_sample : ∃ net row hold, Reachable Sample.deployment Sample.db net ∧
    net.gateway.db.payments PaymentGateway.Sample.paymentID = some row ∧
    hold ∈ net.bank.sessions.db.book ∧
    row.bankAuthorizationID = some (formatAuthorizationID hold.id) ∧
    row.status = PaymentStatus.text .authorized ∧ hold.state = .captured ∧
    hold.amount = row.amountCents ∧ Shows row hold.state := by
  obtain ⟨net, hnet, hproperty⟩ := Sample.exists_net (fun net =>
    net.gateway.drawn.bankOperationKeys = 2 &&
    (net.gateway.db.payments PaymentGateway.Sample.paymentID).any (fun row =>
      row.bankAuthorizationID = some (formatAuthorizationID (Sample.uuid 2)) &&
      row.status = PaymentStatus.text .authorized) &&
    net.bank.sessions.db.book.all (·.state = .captured)) Sample.capturedUnheard (by decide +kernel)
  simp only [Bool.and_eq_true, decide_eq_true_eq, List.all_eq_true] at hproperty
  obtain ⟨⟨hdrawn, hany⟩, hcaptured⟩ := hproperty
  obtain ⟨row, hrow, hboth⟩ := (Option.any_eq_true _ _).mp hany
  simp only [Bool.and_eq_true, decide_eq_true_eq] at hboth
  obtain ⟨hold, hmem, hid, hamount, hshows, -⟩ := payment_has_its_hold hnet rfl
    (hdrawn ▸ Sample.keysDistinct_two) hrow hboth.1
  exact ⟨net, row, hold, hnet, hrow, hmem, hid ▸ hboth.1, hboth.2, hcaptured hold hmem, hamount,
    hshows⟩

/-- **The bank moves money for stored payments only.** While the drawn keys are distinct, a hold
that is captured, voided or refunded is named by exactly one payment row, which has its amount. The
row shows the state of the hold or awaits it with the key of the operation, or the hold is voided
and the row is expired. -/
theorem settled_hold_has_its_payment (h : Reachable d start net) (empty : start.transactions = [])
    (distinct : d.service.KeysDistinct net.gateway.drawn.bankOperationKeys) {hold : Hold}
    (hmem : hold ∈ net.bank.sessions.db.book) (moved : hold.state ≠ .open) :
    ∃ paymentID row, net.gateway.db.payments paymentID = some row ∧
      row.bankAuthorizationID = some (formatAuthorizationID hold.id) ∧
      row.amountCents = hold.amount ∧ Shows row hold.state ∧
      ∀ otherID other, net.gateway.db.payments otherID = some other →
        other.bankAuthorizationID = some (formatAuthorizationID hold.id) →
        otherID = paymentID := by
  have c := h.coherent empty distinct
  have sound := c.inv.bank.reachable.sound empty
  have hsettled := sound.settled_of_mem_book hmem
  obtain ⟨paymentID, p, hp, hnamed⟩ := c.payment_of_hold hsettled moved
  have hne : p.bankAuthorizationID ≠ [] := hnamed ▸ (normalized_formatID _ hold.id).ne_nil
  -- The payment names one hold, which is this one.
  obtain ⟨hold', hmem', hid', hamount⟩ := c.hold_of_payment hp hne
  have heq : hold' = hold := sound.hold_eq_of_id hmem' hmem
    (formatAuthorizationID_injective (hid'.symm.trans hnamed))
  refine ⟨paymentID, rowOf p, by rw [c.gateway.sound.payments_eq, hp]; rfl, ?_, ?_,
    c.shows hp hnamed hsettled, ?_⟩
  · rw [← hnamed]
    exact if_neg hne
  · exact (heq ▸ hamount).symm
  · intro otherID other hother hsame
    obtain ⟨q, hq, rfl⟩ := c.gateway.sound.exists_current_of_row hother
    exact (c.eq_of_named hp hq hne ((eq_of_nullableString hsame).1.trans hnamed.symm)).symm

/-- The captured hold of the sample run. -/
theorem settled_hold_has_its_payment_sample : ∃ net hold paymentID row,
    Reachable Sample.deployment Sample.db net ∧ hold ∈ net.bank.sessions.db.book ∧
    hold.state = .captured ∧ net.gateway.db.payments paymentID = some row ∧
    row.bankAuthorizationID = some (formatAuthorizationID hold.id) ∧
    row.amountCents = hold.amount := by
  obtain ⟨net, hnet, hproperty⟩ := Sample.exists_net (fun net =>
    net.gateway.drawn.bankOperationKeys = 2 &&
    net.bank.sessions.db.book.any (·.state = .captured)) Sample.capturedUnheard (by decide +kernel)
  simp only [Bool.and_eq_true, decide_eq_true_eq, List.any_eq_true] at hproperty
  obtain ⟨hdrawn, hold, hmem, hstate⟩ := hproperty
  obtain ⟨paymentID, row, hrow, hnamed, hamount, -⟩ := settled_hold_has_its_payment hnet rfl
    (hdrawn ▸ Sample.keysDistinct_two) hmem (by simp [hstate])
  exact ⟨net, hold, paymentID, row, hnet, hmem, hstate, hrow, hnamed, hamount⟩

end Net

end PaymentGateway.MockBank
