/-
# No bank effect is lost

The agreement of the gateway with the bank, in the columns of a payment row. The
status of a row says what the bank executed, under the keys and ids of the row and
for its full amount. Conversely everything the bank executed for a payment either is
in its row, or the row is still in the status from which the operation is retried and
has the key under which the bank will repeat its outcome.
-/

import PaymentGateway.Bank.Agreement

namespace PaymentGateway

open Lib

variable {service : PaymentService} {w : World} {executions : List Execution} {p q : Payment}

/-! ## What a row says of the bank -/

/-- The bank gave an authorization no other fate. -/
def OnlyFate (executions : List Execution) (bankAuthorizationID : GoString) (fate : Fate) : Prop :=
  ∀ x ∈ executions, ∀ other, x.fate = some (bankAuthorizationID, other) → other = fate

/-- The bank decided the authorization of a row with a result. -/
def DecidedAs (executions : List Execution) (row : PaymentRow)
    (result : BankAuthorizationResult) : Prop :=
  ∃ request, .authorization request result ∈ executions ∧
    request.operationKey = row.authorizationBankOperationKey ∧ request.orderID = row.orderID ∧
    request.customerID = row.customerID ∧ request.amountCents = row.amountCents ∧
    request.currency = row.currency

/-- What the bank executed, as a payment row says. -/
structure RowAgrees (executions : List Execution) (row : PaymentRow) : Prop where
  authorized : ∀ status ∈ [PaymentStatus.authorized, .captured, .voided, .expired, .refunded],
    row.status = status.text → ∃ result, DecidedAs executions row result ∧
      result.declineReason = [] ∧ row.bankAuthorizationID = some result.bankAuthorizationID
  declined : row.status = PaymentStatus.text .declined → ∃ result, DecidedAs executions row result ∧
    result.declineReason ≠ [] ∧ row.declineReason = some result.declineReason
  captured : ∀ status ∈ [PaymentStatus.captured, .refunded], row.status = status.text →
    ∃ key authorizationID captureID, row.captureBankOperationKey = some key ∧
      row.bankAuthorizationID = some authorizationID ∧ row.bankCaptureID = some captureID ∧
      .capture ⟨key, authorizationID, row.amountCents, row.currency⟩ captureID ∈ executions ∧
      OnlyFate executions authorizationID .captured
  refunded : row.status = PaymentStatus.text .refunded →
    ∃ key captureID refundID, row.refundBankOperationKey = some key ∧
      row.bankCaptureID = some captureID ∧ row.bankRefundID = some refundID ∧
      .refund ⟨key, captureID, row.amountCents, row.currency⟩ refundID ∈ executions
  voided : row.status = PaymentStatus.text .voided →
    ∃ key authorizationID voidID, row.voidBankOperationKey = some key ∧
      row.bankAuthorizationID = some authorizationID ∧ row.bankVoidID = some voidID ∧
      .void ⟨key, authorizationID⟩ voidID ∈ executions ∧ OnlyFate executions authorizationID .voided
  expired : row.status = PaymentStatus.text .expired →
    ∃ authorizationID, row.bankAuthorizationID = some authorizationID ∧
      (∃ x ∈ executions, x.fate = some (authorizationID, .expired)) ∧
      OnlyFate executions authorizationID .expired

/-- A row has taken over the outcome of an execution. -/
def PaymentRow.Reflects (row : PaymentRow) : Execution → Prop
  | .authorization _ result =>
    if result.declineReason = [] then
      (∃ status ∈ [PaymentStatus.authorized, .captured, .voided, .expired, .refunded],
        row.status = status.text) ∧ row.bankAuthorizationID = some result.bankAuthorizationID
    else row.status = PaymentStatus.text .declined ∧ row.declineReason = some result.declineReason
  | .capture _ id => (∃ status ∈ [PaymentStatus.captured, .refunded], row.status = status.text) ∧
    row.bankCaptureID = some id
  | .void _ id => row.status = PaymentStatus.text .voided ∧ row.bankVoidID = some id
  | .refund _ id => row.status = PaymentStatus.text .refunded ∧ row.bankRefundID = some id
  | .captureExpired _ => row.status = PaymentStatus.text .expired
  | .voidExpired _ => row.status = PaymentStatus.text .expired

/-- The status in which a payment waits for the outcome of an endpoint. -/
def Endpoint.awaitedIn : Endpoint → PaymentStatus
  | authorization => .pending
  | capture => .authorized
  | void => .authorized
  | refund => .captured

/-- A row still waits for the outcome of a request, whose key it has. -/
structure PaymentRow.Awaits (row : PaymentRow) (request : BankRequest) : Prop where
  status : row.status = request.endpoint.awaitedIn.text
  key : row.keyAt request.endpoint = some request.operationKey

theorem decidedAs_rowOf {request : BankAuthorizationRequest} {result : BankAuthorizationResult}
    (h : .authorization request result ∈ executions)
    (made : (BankRequest.authorization request).withoutCard = p.requestAt .authorization) :
    DecidedAs executions (rowOf p) result := by
  have hfields := BankRequest.authorization.inj made
  exact ⟨request, h, congrArg (·.operationKey) hfields, congrArg (·.orderID) hfields,
    congrArg (·.customerID) hfields, congrArg (·.amountCents) hfields,
    congrArg (·.currency) hfields⟩

/-- The private fields of a settled payment that are set. -/
theorem Payment.WellFormed.set_of_status (wf : p.WellFormed) :
    (p.status ≠ .pending → p.status ≠ .declined → p.bankAuthorizationID ≠ []) ∧
    (p.status = .captured ∨ p.status = .refunded →
      p.captureBankOperationKey ≠ [] ∧ p.bankCaptureID ≠ []) ∧
    (p.status = .refunded → p.refundBankOperationKey ≠ [] ∧ p.bankRefundID ≠ []) ∧
    (p.status = .voided → p.voidBankOperationKey ≠ [] ∧ p.bankVoidID ≠ []) := by
  have hlife := wf.lifecycle
  obtain ⟨hauth, _, hcap, hcapKey, href, hrefKey, hvoid, hvoidKey, _⟩ := hlife
  cases hstatus : p.status <;> rw [hstatus] at hauth hcap hcapKey href hrefKey hvoid hvoidKey <;>
    simp_all [lifecycleTable, Presence.Holds, Normalized.ne_nil]

theorem PaymentAgrees.rowAgrees (agrees : PaymentAgrees w.executions p)
    (lawful : LawfulExecutions w) (wf : p.WellFormed) : RowAgrees w.executions (rowOf p) := by
  obtain ⟨hauthorized, hcaptured, hrefunded, hvoided⟩ := wf.set_of_status
  constructor
  · -- Beyond pending and declined there was an approval under the id of the row.
    intro status hmem htext
    obtain rfl := PaymentStatus.text_injective htext
    have hsettled : p.status ≠ .pending ∧ p.status ≠ .declined := by
      constructor <;> intro h <;> simp [h] at hmem
    obtain ⟨request, result, hresult, hrequest, hreason, hid⟩ :=
      agrees.authorized hsettled.1 hsettled.2
    refine ⟨result, decidedAs_rowOf hresult hrequest, hreason, ?_⟩
    rw [hid]
    exact if_neg (hauthorized hsettled.1 hsettled.2)
  · -- A declined row has the reason of the bank.
    intro htext
    obtain ⟨request, result, hresult, hrequest, hreason, heq⟩ :=
      agrees.declined (PaymentStatus.text_injective htext)
    refine ⟨result, decidedAs_rowOf hresult hrequest, hreason, ?_⟩
    rw [heq] at hreason ⊢
    exact if_neg hreason
  · -- A capture is the fate of its authorization, and stays it after a refund.
    intro status hmem htext
    obtain rfl := PaymentStatus.text_injective htext
    have hstatus : p.status = .captured ∨ p.status = .refunded := by simpa using hmem
    obtain ⟨hkey, hid⟩ := hcaptured hstatus
    have hauthorization := hauthorized (by rcases hstatus with h | h <;> simp [h])
      (by rcases hstatus with h | h <;> simp [h])
    refine ⟨_, _, _, if_neg hkey, if_neg hauthorization, if_neg hid, agrees.captured hstatus, ?_⟩
    intro x hx other
    exact agrees.fate_eq lawful (by rcases hstatus with h | h <;> rw [h] <;> rfl) hx
  · intro htext
    have hstatus : p.status = .refunded := PaymentStatus.text_injective htext
    obtain ⟨hkey, hid⟩ := hrefunded hstatus
    exact ⟨_, _, _, if_neg hkey, if_neg (hcaptured (.inr hstatus)).2, if_neg hid,
      agrees.refunded hstatus⟩
  · intro htext
    have hstatus : p.status = .voided := PaymentStatus.text_injective htext
    obtain ⟨hkey, hid⟩ := hvoided hstatus
    have hauthorization := hauthorized (by simp [hstatus]) (by simp [hstatus])
    refine ⟨_, _, _, if_neg hkey, if_neg hauthorization, if_neg hid, agrees.voided hstatus, ?_⟩
    exact fun x hx other => agrees.fate_eq lawful (by rw [hstatus]; rfl) hx
  · intro htext
    -- An expiry has no bank id of its own, so the row shows only the authorization.
    have hstatus : p.status = .expired := PaymentStatus.text_injective htext
    have hauthorization := hauthorized (by simp [hstatus]) (by simp [hstatus])
    refine ⟨_, if_neg hauthorization, agrees.expired hstatus, ?_⟩
    exact fun x hx other => agrees.fate_eq lawful (by rw [hstatus]; rfl) hx

/-! ## What the bank executed is in the row -/

theorem Operation.awaitedIn_endpoint (operation : Operation) :
    operation.endpoint.awaitedIn = operation.expectedStatus := by
  cases operation <;> rfl

/-- A payment that has only gained keys since a request was made for it awaits the outcome. -/
theorem SentFor.awaits {db : Db} {command : Command} {request : BankRequest}
    (h : SentFor db command p request) (wf : p.WellFormed) (gain : GainsKeys p q) :
    (rowOf q).Awaits request := by
  have hsame := gain.bankRequest_eq h.hasKey
  have hne := h.hasKey.keyAt_ne_nil wf
  rw [h.request, ← hsame]
  rw [← Command.operationKey_bankRequest, ← hsame, Command.operationKey_bankRequest] at hne
  constructor
  · rw [Command.endpoint_bankRequest, Operation.awaitedIn_endpoint, ← h.status, ← gain.status_eq]
    rfl
  · rw [Command.endpoint_bankRequest, Command.operationKey_bankRequest]
    exact keyAt_rowOf hne

/-- Once a payment has left the authorized status, its status tells the fate that the bank
gave its authorization. -/
theorem PaymentAgrees.fate_of_moved {f : Fate} {x : Execution}
    (agrees : PaymentAgrees w.executions q) (lawful : LawfulExecutions w) (wfp : p.WellFormed)
    (wfq : q.WellFormed) (evolves : Evolves p q) (authorized : p.status = .authorized)
    (moved : q.status ≠ p.status) (hx : x ∈ w.executions)
    (hfate : x.fate = some (p.bankAuthorizationID, f)) : q.status.fate = some f := by
  obtain ⟨hid, hpending⟩ := evolves.bankAuthorizationID_eq (by simp [authorized])
  have hset := wfp.set_of_status.1 (by simp [authorized]) (by simp [authorized])
  have hdeclined : q.status ≠ .declined := by
    intro hdeclined
    have hlife := wfq.lifecycle.authorization
    rw [hdeclined, hid] at hlife
    exact hset hlife
  obtain ⟨g, hg⟩ : ∃ g, q.status.fate = some g := by
    cases hstatus : q.status with
    | pending => exact absurd hstatus hpending
    | authorized => exact absurd (hstatus.trans authorized.symm) moved
    | declined => exact absurd hstatus hdeclined
    | captured | refunded | voided | expired => exact ⟨_, rfl⟩
  have heq : f = g := agrees.fate_eq lawful hg hx (hid ▸ hfate)
  rw [hg, heq]

theorem PaymentStatus.fate_eq_captured {status : PaymentStatus} :
    status.fate = some .captured ↔ status = .captured ∨ status = .refunded := by
  cases status <;> decide

theorem PaymentStatus.fate_eq_voided {status : PaymentStatus} :
    status.fate = some .voided ↔ status = .voided := by
  cases status <;> decide

theorem PaymentStatus.fate_eq_expired {status : PaymentStatus} :
    status.fate = some .expired ↔ status = .expired := by
  cases status <;> decide

/-- A decided authorization is in the row of a payment that is no longer pending. -/
theorem PaymentAgrees.reflects_authorization {request : BankAuthorizationRequest}
    {result : BankAuthorizationResult} (agrees : PaymentAgrees w.executions q)
    (lawful : LawfulExecutions w) (wf : q.WellFormed) (moved : q.status ≠ .pending)
    (hx : .authorization request result ∈ w.executions)
    (key : request.operationKey = q.authorizationBankOperationKey) :
    (rowOf q).Reflects (.authorization request result) := by
  -- The bank decided the key once, so what the status says is about this execution.
  have honce : ∀ {request' : BankAuthorizationRequest} {result' : BankAuthorizationResult},
      .authorization request' result' ∈ w.executions →
      (BankRequest.authorization request').withoutCard = q.requestAt .authorization →
      result' = result := by
    intro request' result' hx' hrequest
    have hkey : request'.operationKey = q.authorizationBankOperationKey :=
      congrArg (·.operationKey) (BankRequest.authorization.inj hrequest)
    have hsame := lawful.once _ hx' _ hx ⟨rfl, hkey.trans key.symm⟩
    exact (Execution.authorization.inj hsame).2
  by_cases hdeclined : q.status = .declined
  · obtain ⟨request', result', hx', hrequest, hreason, heq⟩ := agrees.declined hdeclined
    obtain rfl := honce hx' hrequest
    rw [PaymentRow.Reflects, if_neg hreason]
    rw [heq] at hreason ⊢
    exact ⟨congrArg PaymentStatus.text hdeclined, if_neg hreason⟩
  · obtain ⟨request', result', hx', hrequest, hreason, hid⟩ := agrees.authorized moved hdeclined
    obtain rfl := honce hx' hrequest
    rw [PaymentRow.Reflects, if_pos hreason, hid]
    refine ⟨⟨q.status, ?_, rfl⟩, if_neg (wf.set_of_status.1 moved hdeclined)⟩
    cases hstatus : q.status <;> simp_all

/-- The outcome of a request is in the row of a payment that has left the status in which it
was made. -/
theorem PaymentAgrees.reflects_of_moved {db : Db} {command : Command} {x : Execution}
    (agrees : PaymentAgrees w.executions q) (lawful : LawfulExecutions w) (wfp : p.WellFormed)
    (wfq : q.WellFormed) (hfor : SentFor db command p x.request) (evolves : Evolves p q)
    (moved : q.status ≠ p.status) (hx : x ∈ w.executions) : (rowOf q).Reflects x := by
  obtain ⟨_, hstatus, hkey, hrequest⟩ := hfor
  have hsame := evolves.sameIdentity
  have hset := hkey.keyAt_ne_nil wfp
  -- A settled authorization has one fate, and a row that moved on has recorded it.
  have hfate : ∀ f, p.status = .authorized → x.fate = some (p.bankAuthorizationID, f) →
      q.status.fate = some f := fun f hauthorized =>
    agrees.fate_of_moved lawful wfp wfq evolves hauthorized moved hx
  cases x with
  | authorization request result =>
    have hpending : p.status = .pending := by
      cases command <;> first | exact hstatus | cases hrequest
    refine agrees.reflects_authorization lawful wfq (fun h => moved (h.trans hpending.symm)) hx ?_
    rw [hsame.authorizationKey]
    cases command <;> cases hrequest <;> rfl
  | capture request id =>
    cases command <;> cases hrequest
    have hcaptured := PaymentStatus.fate_eq_captured.mp (hfate _ hstatus rfl)
    have hkept := (evolves.captureKey_eq hset).resolve_right
      (by rcases hcaptured with h | h <;> simp [h])
    have hexecuted := lawful.once _ (agrees.captured hcaptured) _ hx ⟨rfl, hkept⟩
    obtain rfl := (Execution.capture.inj hexecuted).2
    exact ⟨⟨q.status, by simpa using hcaptured, rfl⟩, if_neg (wfq.set_of_status.2.1 hcaptured).2⟩
  | void request id =>
    cases command <;> cases hrequest
    have hvoided := PaymentStatus.fate_eq_voided.mp (hfate _ hstatus rfl)
    have hkept := (evolves.voidKey_eq hset).resolve_right (by simp [hvoided])
    have hexecuted := lawful.once _ (agrees.voided hvoided) _ hx ⟨rfl, hkept⟩
    obtain rfl := (Execution.void.inj hexecuted).2
    exact ⟨congrArg PaymentStatus.text hvoided, if_neg (wfq.set_of_status.2.2.2 hvoided).2⟩
  | refund request id =>
    cases command <;> cases hrequest
    have hkept := evolves.refundKey_eq hset
    -- Only a captured and a refunded payment have the key of a refund.
    have hrefunded : q.status = .refunded := by
      have hlife := wfq.lifecycle.refundKey
      rw [hkept] at hlife
      have hne : q.status ≠ .captured := fun h => moved (h.trans hstatus.symm)
      cases hq : q.status with
      | refunded => rfl
      | captured => exact absurd hq hne
      | pending | authorized | declined | voided | expired =>
        rw [hq] at hlife
        exact absurd hlife hset
    have hexecuted := lawful.once _ (agrees.refunded hrefunded) _ hx ⟨rfl, hkept⟩
    obtain rfl := (Execution.refund.inj hexecuted).2
    exact ⟨congrArg PaymentStatus.text hrefunded, if_neg (wfq.set_of_status.2.2.1 hrefunded).2⟩
  | captureExpired request =>
    cases command <;> cases hrequest
    exact congrArg PaymentStatus.text
      (PaymentStatus.fate_eq_expired.mp (hfate _ hstatus rfl))
  | voidExpired request =>
    cases command <;> cases hrequest
    exact congrArg PaymentStatus.text
      (PaymentStatus.fate_eq_expired.mp (hfate _ hstatus rfl))

/-- **The gateway agrees with the bank and loses no effect.** In every world that the
gateway reaches with a lawful bank, while the drawn keys are distinct, every payment row
says what the bank executed for it, and whatever the bank executed for a payment is in the
payment's row, unless the row still awaits it with the key it was executed under. -/
theorem gateway_agrees_with_bank (service : PaymentService) (w : World)
    (reachable : WorldReachable service w)
    (distinct : service.KeysDistinct w.gateway.drawn.bankOperationKeys) :
    (∀ paymentID row, w.gateway.db.payments paymentID = some row → RowAgrees w.executions row) ∧
    (∀ x ∈ w.executions, ∀ i paymentID, .sent i paymentID x.request ∈ w.gateway.log →
      ∃ row, w.gateway.db.payments paymentID = some row ∧
        (row.Reflects x ∨ row.Awaits x.request)) := by
  have world := reachable.worldInv distinct
  have lawful := reachable.lawful
  obtain ⟨_, run⟩ := reachable.gateway
  have inv := inv_of_reaches run
  constructor
  · intro paymentID row hrow
    obtain ⟨p, hp, rfl⟩ := inv.sound.exists_current_of_row hrow
    exact (world.agrees paymentID p hp).rowAgrees lawful (inv.sound.wellFormed_of_current hp)
  · intro x hx i paymentID hsent
    obtain ⟨command, p, rfl, hfor⟩ := sentInv_of_reaches run i paymentID x.request hsent
    obtain ⟨q, hq, hevolves⟩ := inv.sound.evolves_current hfor.wrote
    have hwf := inv.sound.wellFormed_of_wrote hfor.wrote
    refine ⟨rowOf q, by rw [inv.sound.payments_eq, hq]; rfl, ?_⟩
    by_cases hmoved : q.status = p.status
    · exact .inr (hfor.awaits hwf (hevolves.gainsKeys hmoved))
    · exact .inl ((world.agrees _ q hq).reflects_of_moved lawful hwf
        (inv.sound.wellFormed_of_current hq) hfor hevolves hmoved hx)

/-- A capture that the bank executed and whose answer was lost: the row of the payment,
still authorized, awaits its outcome. -/
theorem gateway_agrees_with_bank_captured :
    ∃ w row request, WorldReachable Sample.service w ∧
      Sample.service.KeysDistinct w.gateway.drawn.bankOperationKeys ∧
      .capture request (ascii "cap-1") ∈ w.executions ∧
      w.gateway.db.payments Sample.paymentID = some row ∧
      row.status = PaymentStatus.text .authorized ∧ RowAgrees w.executions row ∧
      row.Awaits (.capture request) := by
  let authorization : BankAuthorizationRequest :=
    ⟨Sample.service.newBankOperationKey 0, ascii "order", ascii "customer", 1000, currencyUSD,
      ascii "4111111111111111", ascii "123", 12, 2030⟩
  let request : BankCaptureRequest :=
    ⟨Sample.service.newBankOperationKey 1, ascii "auth-1", 1000, currencyUSD⟩
  let capture : Command := Sample.capture (ascii "k1") (by decide)
  obtain ⟨w, hw, hproperty⟩ := exists_worldReachable Sample.service 1
    ((Sample.call 0 (Sample.authorize (ascii "k0") (by decide))).map .gateway ++
      [.execute (.authorization authorization ⟨ascii "auth-1", 500, []⟩)] ++
      (Sample.finish 0 Sample.approval).map .gateway ++ (Sample.call 1 capture).map .gateway ++
      [.execute (.capture request (ascii "cap-1"))] ++
      [.gateway (.act 1 (.answer (.failed (newPaymentBankTimeoutError .none)))),
        .gateway (.act 1 .release)])
    (fun w => w.gateway.drawn.bankOperationKeys = 2 ∧
      .capture request (ascii "cap-1") ∈ w.executions ∧
      .sent 1 Sample.paymentID (.capture request) ∈ w.gateway.log ∧
      (w.gateway.db.payments Sample.paymentID).map (·.status) =
        some (PaymentStatus.text .authorized)) (by decide +kernel)
  obtain ⟨hdrawn, hexecuted, hsent, hstatus⟩ := of_decide_eq_true hproperty
  have hdistinct : Sample.service.KeysDistinct w.gateway.drawn.bankOperationKeys := by
    rw [hdrawn]
    unfold PaymentService.KeysDistinct
    decide +kernel
  obtain ⟨hagrees, hkeeps⟩ := gateway_agrees_with_bank Sample.service w hw hdistinct
  obtain ⟨row, hrow, hkept⟩ := hkeeps _ hexecuted 1 Sample.paymentID hsent
  rw [hrow, Option.map_some, Option.some_inj] at hstatus
  refine ⟨w, row, request, hw, hdistinct, hexecuted, hrow, hstatus, hagrees _ row hrow,
    hkept.resolve_left ?_⟩
  rintro ⟨⟨status, hmem, htext⟩, _⟩
  obtain rfl := PaymentStatus.text_injective (hstatus.symm.trans htext)
  simp at hmem

end PaymentGateway
