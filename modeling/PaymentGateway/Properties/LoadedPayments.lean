/-
# What `LoadPayment` admits, and what it reads back

`LoadPayment` checks a stored payment against its status and hands the rest to
`newPayment`, which takes an empty value for an absent one. The two do not close
up: a status that needs a bank authorization loads without one, and the decline
reason of a declined payment is never looked at. Every other entry of the
lifecycle table is enforced, so the payment returned is well formed exactly when
those two arguments are in order.

In the other direction, every payment that the mutators can build has the fields
of its lifecycle row, up to one freedom: a settlement may be marked before its own
operation key was set. `LoadPayment` reads all the others back unchanged and
refuses exactly these.
-/

import PaymentGateway.Domain.Lifecycle

namespace PaymentGateway

open Lib

namespace Payment

/-! ## Loading -/

/-- The fields that are checked alike for every status. -/
structure ValidIdentity (p : Payment) : Prop where
  validID : validatePaymentID p.id = .ok ()
  orderID : Normalized p.orderID
  customerID : Normalized p.customerID
  amount : 0 < p.amountCents
  currency : p.currency = currencyUSD
  authorizationKey : Normalized p.authorizationBankOperationKey
  cardFingerprint : Normalized p.authorizationCardFingerprint
  created : p.createdAt ≠ 0
  updated : p.updatedAt ≠ 0

theorem wellFormed_iff {p : Payment} :
    p.WellFormed ↔ p.ValidIdentity ∧ p.MatchesLifecycle (lifecycleTable p.status) := by
  constructor
  · rintro ⟨hid, horder, hcustomer, hamount, hcurrency, hkey, hcard, hcreated, hupdated, hlife⟩
    exact ⟨⟨hid, horder, hcustomer, hamount, hcurrency, hkey, hcard, hcreated, hupdated⟩, hlife⟩
  · rintro ⟨⟨hid, horder, hcustomer, hamount, hcurrency, hkey, hcard, hcreated, hupdated⟩, hlife⟩
    exact ⟨hid, horder, hcustomer, hamount, hcurrency, hkey, hcard, hcreated, hupdated, hlife⟩

end Payment

theorem normalizeOptional_eq_ok {value result : GoString} {err : DomainError} :
    normalizeOptional value err = .ok result ↔
      (value = [] ∧ result = []) ∨ (trimSpace value ≠ [] ∧ trimSpace value = result) := by
  unfold normalizeOptional
  split_ifs with hvalue
  · simp [hvalue, eq_comm (b := result)]
  · simp [hvalue]

/-- What the switch of `LoadPayment` has established about a field that it passes on to
`newPayment`. -/
def Presence.Admits : Presence → GoString → Prop
  | absent, value => value = []
  | optional, _ => True
  | present, value => trimSpace value ≠ []

/-- `newPayment` turns a field that the switch admitted into one that meets the table. -/
theorem Presence.Admits.holds {presence : Presence} {value result : GoString} {err : DomainError}
    (hadmits : presence.Admits value) (h : normalizeOptional value err = .ok result) :
    presence.Holds result := by
  obtain ⟨rfl, rfl⟩ | ⟨hne, rfl⟩ := normalizeOptional_eq_ok.mp h
  · cases presence with
    | absent => rfl
    | optional => exact .inl rfl
    | present => exact absurd rfl hadmits
  · cases presence with
    | absent => exact absurd (congrArg trimSpace hadmits) hne
    | optional => exact .inr (normalized_trimSpace hne)
    | present => exact normalized_trimSpace hne

/-- What `newPayment` makes of an authorization: both parts, or neither. -/
theorem normalizeAuthorization_eq_ok {value result : GoString} {expiresAt : Time} :
    normalizeAuthorization value expiresAt = .ok result ↔
      (value = [] ∧ expiresAt = 0 ∧ result = []) ∨
        (trimSpace value ≠ [] ∧ expiresAt ≠ 0 ∧ trimSpace value = result) := by
  by_cases hvalue : value = []
  · by_cases hexpires : expiresAt = 0 <;>
      simp [normalizeAuthorization, hvalue, hexpires, eq_comm (b := result)]
  · simp [normalizeAuthorization, hvalue, and_left_comm]

/-- What `newPayment` returns, field by field. -/
structure NewPaymentFields (p : Payment) (status : PaymentStatus) (bankAuthorizationID : GoString)
    (authorizationExpiresAt : Time) (bankCaptureID captureBankOperationKey bankRefundID
    refundBankOperationKey bankVoidID voidBankOperationKey declineReason : GoString) : Prop where
  identity : p.ValidIdentity
  status : p.status = status
  authorization : normalizeAuthorization bankAuthorizationID authorizationExpiresAt =
    .ok p.bankAuthorizationID
  expiration : p.authorizationExpiresAt = authorizationExpiresAt
  capture : normalizeOptional bankCaptureID .invalidBankCaptureID = .ok p.bankCaptureID
  captureKey : normalizeOptional captureBankOperationKey .invalidBankOperationKey =
    .ok p.captureBankOperationKey
  refund : normalizeOptional bankRefundID .invalidBankRefundID = .ok p.bankRefundID
  refundKey : normalizeOptional refundBankOperationKey .invalidBankOperationKey =
    .ok p.refundBankOperationKey
  void : normalizeOptional bankVoidID .invalidBankVoidID = .ok p.bankVoidID
  voidKey : normalizeOptional voidBankOperationKey .invalidBankOperationKey =
    .ok p.voidBankOperationKey
  decline : p.declineReason = declineReason

theorem fields_of_newPayment {id orderID customerID : GoString} {amountCents : ℤ}
    {status : PaymentStatus} {authID : GoString} {expiresAt : Time}
    {authKey cardFP captureID captureKey refundID refundKey voidID voidKey reason : GoString}
    {now : Time} {p : Payment}
    (h : newPayment id orderID customerID amountCents status authID expiresAt authKey cardFP
      captureID captureKey refundID refundKey voidID voidKey reason now = .ok p) :
    NewPaymentFields p status authID expiresAt captureID captureKey refundID refundKey voidID
      voidKey reason := by
  simp only [newPayment, bind_eq_ok, normalizeRequired_eq_ok, rejectIf_eq_ok,
    pure_eq_ok_iff] at h
  obtain ⟨_, hid, _, ⟨horder, rfl⟩, _, ⟨hcustomer, rfl⟩, _, hamount, _, ⟨hkey, rfl⟩, _,
    ⟨hcard, rfl⟩, _, hauth, _, hcapture, _, hcaptureKey, _, hrefund, _, hrefundKey, _, hvoid, _,
    hvoidKey, _, hnow, rfl⟩ := h
  exact ⟨⟨hid, normalized_trimSpace horder, normalized_trimSpace hcustomer,
      Int.not_le.mp hamount, rfl, normalized_trimSpace hkey, normalized_trimSpace hcard, hnow,
      hnow⟩,
    rfl, hauth, rfl, hcapture, hcaptureKey, hrefund, hrefundKey, hvoid, hvoidKey, rfl⟩

/-- The statuses of a payment that the bank has authorized. -/
def authorizedStatuses : List PaymentStatus :=
  [.authorized, .expired, .captured, .voided, .refunded]

theorem mem_authorizedStatuses {status : PaymentStatus} :
    status ∈ authorizedStatuses ↔ (lifecycleTable status).authorization = .present := by
  cases status <;> decide

/-- What the switch of `LoadPayment` enforces: every entry of the lifecycle row but the
authorization and the decline reason, which are taken over from the arguments. -/
structure LoadedFields (p : Payment) (status : GoString) (bankAuthorizationID : GoString)
    (authorizationExpiresAt : Time) (declineReason : GoString) : Prop where
  status : status = p.status.text
  authorization : if p.status ∈ authorizedStatuses
    then normalizeAuthorization bankAuthorizationID authorizationExpiresAt =
        .ok p.bankAuthorizationID ∧ p.authorizationExpiresAt = authorizationExpiresAt
    else p.bankAuthorizationID = [] ∧ p.authorizationExpiresAt = 0
  capture : (lifecycleTable p.status).capture.Holds p.bankCaptureID
  captureKey : (lifecycleTable p.status).captureKey.Holds p.captureBankOperationKey
  refund : (lifecycleTable p.status).refund.Holds p.bankRefundID
  refundKey : (lifecycleTable p.status).refundKey.Holds p.refundBankOperationKey
  void : (lifecycleTable p.status).void.Holds p.bankVoidID
  voidKey : (lifecycleTable p.status).voidKey.Holds p.voidBankOperationKey
  decline : p.declineReason = if p.status = .declined then declineReason else []

theorem PaymentStatus.ofText?_eq_some {value : GoString} {status : PaymentStatus} :
    PaymentStatus.ofText? value = some status ↔ value = status.text := by
  constructor
  · intro h
    simpa [eq_comm] using List.find?_some h
  · rintro rfl
    exact PaymentStatus.ofText?_text status

/-- The fields that a branch of the switch passes to `newPayment`, against the row of its
status. -/
structure AdmittedFields (row : LifecycleRow) (bankCaptureID captureBankOperationKey bankRefundID
    refundBankOperationKey bankVoidID voidBankOperationKey : GoString) : Prop where
  capture : row.capture.Admits bankCaptureID
  captureKey : row.captureKey.Admits captureBankOperationKey
  refund : row.refund.Admits bankRefundID
  refundKey : row.refundKey.Admits refundBankOperationKey
  void : row.void.Admits bankVoidID
  voidKey : row.voidKey.Admits voidBankOperationKey

section

variable {id orderID customerID status authID authKey cardFP captureID captureKey refundID refundKey
  voidID voidKey reason passedID passedReason currency : GoString} {amountCents : ℤ}
  {expiresAt passedExpiresAt createdAt updatedAt : Time} {st : PaymentStatus} {p : Payment}

theorem AdmittedFields.loaded
    (admitted : AdmittedFields (lifecycleTable st) captureID captureKey refundID refundKey voidID
      voidKey)
    (hauth : if st ∈ authorizedStatuses then passedID = authID ∧ passedExpiresAt = expiresAt
      else passedID = [] ∧ passedExpiresAt = 0)
    (hreason : passedReason = if st = .declined then reason else [])
    (fields : NewPaymentFields p st passedID passedExpiresAt captureID captureKey refundID
      refundKey voidID voidKey passedReason) :
    p.ValidIdentity ∧ LoadedFields p st.text authID expiresAt reason := by
  obtain ⟨hidentity, rfl, hnormalized, hexpires, hcap, hcapKey, href, hrefKey, hvoid, hvoidKey,
    hdecline⟩ := fields
  refine ⟨hidentity, rfl, ?_, admitted.capture.holds hcap, admitted.captureKey.holds hcapKey,
    admitted.refund.holds href, admitted.refundKey.holds hrefKey, admitted.void.holds hvoid,
    admitted.voidKey.holds hvoidKey, hdecline.trans hreason⟩
  split_ifs at hauth ⊢
  · obtain ⟨rfl, rfl⟩ := hauth
    exact ⟨hnormalized, hexpires⟩
  · obtain ⟨rfl, rfl⟩ := hauth
    exact ⟨(Except.ok.inj hnormalized).symm, hexpires⟩

theorem fields_of_loadPaymentByStatus
    (h : loadPaymentByStatus id orderID customerID amountCents status authID expiresAt authKey
      cardFP captureID captureKey refundID refundKey voidID voidKey reason createdAt = .ok p) :
    p.ValidIdentity ∧ LoadedFields p status authID expiresAt reason := by
  unfold loadPaymentByStatus at h
  cases hstatus : PaymentStatus.ofText? status with
  | none => simp [hstatus] at h
  | some st =>
    obtain rfl := PaymentStatus.ofText?_eq_some.mp hstatus
    simp only [hstatus] at h
    -- Each branch of the switch leaves the checks it makes in front of the constructor.
    cases st <;>
      simp only [requirePresent, newPendingPayment, check_bind_eq_ok, rejectIf_eq_ok] at h
    case pending =>
      obtain ⟨-, -, -, -, -, -, -, -, -, hnew⟩ := h
      exact AdmittedFields.loaded ⟨rfl, rfl, rfl, rfl, rfl, rfl⟩ ⟨rfl, rfl⟩ rfl
        (fields_of_newPayment hnew)
    case authorized =>
      obtain ⟨-, -, -, -, -, hnew⟩ := h
      exact AdmittedFields.loaded ⟨rfl, trivial, rfl, rfl, rfl, trivial⟩ ⟨rfl, rfl⟩ rfl
        (fields_of_newPayment hnew)
    case expired =>
      obtain ⟨-, -, -, -, -, -, -, hnew⟩ := h
      exact AdmittedFields.loaded ⟨rfl, rfl, rfl, rfl, rfl, rfl⟩ ⟨rfl, rfl⟩ rfl
        (fields_of_newPayment hnew)
    case declined =>
      obtain ⟨-, -, -, -, -, -, -, -, hnew⟩ := h
      exact AdmittedFields.loaded ⟨rfl, rfl, rfl, rfl, rfl, rfl⟩ ⟨rfl, rfl⟩ rfl
        (fields_of_newPayment hnew)
    case captured =>
      obtain ⟨-, hcapture, hcaptureKey, -, -, -, hnew⟩ := h
      exact AdmittedFields.loaded ⟨hcapture, hcaptureKey, rfl, trivial, rfl, rfl⟩ ⟨rfl, rfl⟩ rfl
        (fields_of_newPayment hnew)
    case voided =>
      obtain ⟨-, -, -, -, -, hvoid, hvoidKey, hnew⟩ := h
      exact AdmittedFields.loaded ⟨rfl, rfl, rfl, rfl, hvoid, hvoidKey⟩ ⟨rfl, rfl⟩ rfl
        (fields_of_newPayment hnew)
    case refunded =>
      obtain ⟨-, hrefund, hrefundKey, hcapture, hcaptureKey, -, -, hnew⟩ := h
      exact AdmittedFields.loaded ⟨hcapture, hcaptureKey, hrefund, hrefundKey, rfl, rfl⟩
        ⟨rfl, rfl⟩ rfl (fields_of_newPayment hnew)

/-- The check of `LoadPayment` that the code omits: an authorization where the status needs
one, and a known reason where the payment was declined. -/
def CompleteArguments (status bankAuthorizationID declineReason : GoString) : Prop :=
  (status ∈ authorizedStatuses.map PaymentStatus.text → bankAuthorizationID ≠ []) ∧
    (status = PaymentStatus.declined.text → declineReason ∈ declineReasons)

theorem LoadedFields.authorization_iff (fields : LoadedFields p status authID expiresAt reason) :
    ((lifecycleTable p.status).authorization.Holds p.bankAuthorizationID ∧
        (p.authorizationExpiresAt ≠ 0 ↔ (lifecycleTable p.status).authorization = .present)) ↔
      (p.status ∈ authorizedStatuses → authID ≠ []) := by
  have hauth := fields.authorization
  split_ifs at hauth with hmem
  · obtain ⟨hnormalized, hexpires⟩ := hauth
    rw [mem_authorizedStatuses.mp hmem, hexpires]
    obtain ⟨hempty, hzero, hnone⟩ | ⟨hne, hnonzero, hsome⟩ :=
      normalizeAuthorization_eq_ok.mp hnormalized
    · simp [hnone, hempty, hmem, Presence.Holds, Normalized]
    · have hauthID : authID ≠ [] := fun h => hne (by rw [h]; rfl)
      have hholds : Presence.present.Holds p.bankAuthorizationID := hsome ▸ normalized_trimSpace hne
      simp [hholds, hnonzero, hauthID]
  · obtain ⟨hnone, hzero⟩ := hauth
    have hrow := mt mem_authorizedStatuses.mpr hmem
    cases hpresence : (lifecycleTable p.status).authorization with
    | absent => simp [hnone, hzero, hmem, Presence.Holds]
    | optional => exact absurd hpresence (lifecycleTable_authorization_ne_optional p.status)
    | present => exact absurd hpresence hrow

theorem lifecycleTable_decline {status : PaymentStatus} :
    (lifecycleTable status).decline = true ↔ status = .declined := by
  cases status <;> decide

theorem LoadedFields.decline_iff (fields : LoadedFields p status authID expiresAt reason) :
    (if (lifecycleTable p.status).decline then p.declineReason ∈ declineReasons
        else p.declineReason = []) ↔
      (p.status = .declined → reason ∈ declineReasons) := by
  rw [fields.decline]
  by_cases hdeclined : p.status = .declined <;> simp [hdeclined, lifecycleTable_decline]

theorem LoadedFields.completeArguments_iff
    (fields : LoadedFields p status authID expiresAt reason) :
    CompleteArguments status authID reason ↔
      (p.status ∈ authorizedStatuses → authID ≠ []) ∧
        (p.status = .declined → reason ∈ declineReasons) := by
  rw [CompleteArguments, fields.status, PaymentStatus.text_inj,
    List.mem_map_of_injective PaymentStatus.text_injective]

/-- The payment that `LoadPayment` returns is well formed exactly when the arguments pass
the check it leaves out: a non-empty bank authorization id for the five statuses that need
one, and one of the four reasons for a declined payment. -/
theorem loadPayment_wellFormed_iff
    (h : loadPayment id orderID customerID amountCents currency status authID expiresAt authKey
      cardFP captureID captureKey refundID refundKey voidID voidKey reason createdAt updatedAt =
      .ok p) :
    p.WellFormed ↔ CompleteArguments status authID reason := by
  simp only [loadPayment, rejectIf_eq_ok, bind_eq_ok, pure_eq_ok_iff] at h
  obtain ⟨-, -, -, hupdated, q, hq, rfl⟩ := h
  obtain ⟨hidentity, fields⟩ := fields_of_loadPaymentByStatus hq
  rw [fields.completeArguments_iff, ← fields.authorization_iff, ← fields.decline_iff]
  constructor
  · intro wf
    exact ⟨⟨wf.lifecycle.authorization, wf.lifecycle.expiration⟩, wf.lifecycle.decline⟩
  · rintro ⟨⟨hauth, hexpires⟩, hdecline⟩
    exact Payment.wellFormed_iff.mpr
      ⟨{ hidentity with updated := hupdated },
        ⟨hauth, hexpires, fields.capture, fields.captureKey, fields.refund, fields.refundKey,
          fields.void, fields.voidKey, hdecline⟩⟩

/-- A captured payment with its authorization loads as a well-formed one. -/
theorem loadPayment_wellFormed_iff_captured :
    ∃ p : Payment, p.status = .captured ∧
      (p.WellFormed ↔ CompleteArguments (ascii "captured") (ascii "auth-1") []) := by
  have hload : ∃ p, loadPayment (ascii "pay_00000000-0000-0000-0000-000000000001") (ascii "order-1")
      (ascii "customer-1") 100 (ascii "USD") (ascii "captured") (ascii "auth-1") 7 (ascii "key-1")
      (ascii "card-1") (ascii "cap-1") (ascii "key-2") [] [] [] [] [] 1 2 = .ok p ∧
        p.status = .captured := ⟨_, rfl, rfl⟩
  obtain ⟨p, hp, hstatus⟩ := hload
  exact ⟨p, hstatus, loadPayment_wellFormed_iff hp⟩

/-- Two sets of columns that `LoadPayment` accepts: an authorized payment that the bank
never authorized, and a declined one without a reason. -/
theorem loadPayment_admits_incomplete :
    (∃ p, loadPayment (ascii "pay_00000000-0000-0000-0000-000000000001") (ascii "order-1")
        (ascii "customer-1") 100 (ascii "USD") (ascii "authorized") [] 0 (ascii "key-1")
        (ascii "card-1") [] [] [] [] [] [] [] 1 1 = .ok p ∧
        p.status = .authorized ∧ p.bankAuthorizationID = [] ∧ p.authorizationExpiresAt = 0 ∧
        ¬ p.WellFormed) ∧
      ∃ p, loadPayment (ascii "pay_00000000-0000-0000-0000-000000000001") (ascii "order-1")
        (ascii "customer-1") 100 (ascii "USD") (ascii "declined") [] 0 (ascii "key-1")
        (ascii "card-1") [] [] [] [] [] [] [] 1 1 = .ok p ∧
        p.status = .declined ∧ p.declineReason = [] ∧ ¬ p.WellFormed := by
  refine ⟨⟨_, rfl, rfl, rfl, rfl, fun wf => ?_⟩, ⟨_, rfl, rfl, rfl, fun wf => ?_⟩⟩
  · exact absurd rfl (Normalized.ne_nil wf.lifecycle.authorization)
  · exact absurd wf.lifecycle.decline (by decide)

end

/-! ## Dump and reload -/

/-- A call of one of the mutators of a payment. -/
inductive Mutator
  | markAuthorized (bankAuthorizationID : GoString) (authorizationExpiresAt now : Time)
  | markDeclined (declineReason : GoString) (now : Time)
  | markExpired (now : Time)
  | markCaptured (bankCaptureID : GoString) (now : Time)
  | markVoided (bankVoidID : GoString) (now : Time)
  | markRefunded (bankRefundID : GoString) (now : Time)
  | setCaptureBankOperationKey (key : GoString)
  | setVoidBankOperationKey (key : GoString)
  | setRefundBankOperationKey (key : GoString)
  deriving DecidableEq, Repr

namespace Payment

/-- The payment after one call of a mutator. -/
def mutate (p : Payment) : Mutator → Except DomainError Payment
  | .markAuthorized bankID expiresAt now => p.markAuthorized bankID expiresAt now
  | .markDeclined reason now => p.markDeclined reason now
  | .markExpired now => p.markExpired now
  | .markCaptured bankID now => p.markCaptured bankID now
  | .markVoided bankID now => p.markVoided bankID now
  | .markRefunded bankID now => p.markRefunded bankID now
  | .setCaptureBankOperationKey key => p.setCaptureBankOperationKey key
  | .setVoidBankOperationKey key => p.setVoidBankOperationKey key
  | .setRefundBankOperationKey key => p.setRefundBankOperationKey key

/-- The payment after a sequence of calls, all of them successful. -/
def mutateAll (p : Payment) (calls : List Mutator) : Except DomainError Payment :=
  calls.foldlM mutate p

/-- `LoadPayment` applied to the values of the getters. -/
def reload (p : Payment) : Except DomainError Payment :=
  loadPayment p.id p.orderID p.customerID p.amountCents p.currency p.status.text
    p.bankAuthorizationID p.authorizationExpiresAt p.authorizationBankOperationKey
    p.authorizationCardFingerprint p.bankCaptureID p.captureBankOperationKey p.bankRefundID
    p.refundBankOperationKey p.bankVoidID p.voidBankOperationKey p.declineReason p.createdAt
    p.updatedAt

/-- A settlement was marked without its own operation key. -/
def LacksSettlementKey (p : Payment) : Prop :=
  (p.status = .captured ∨ p.status = .refunded) ∧ p.captureBankOperationKey = [] ∨
    p.status = .voided ∧ p.voidBankOperationKey = [] ∨
    p.status = .refunded ∧ p.refundBankOperationKey = []

instance (p : Payment) : Decidable p.LacksSettlementKey :=
  inferInstanceAs (Decidable (_ ∨ _))

end Payment

/-- A requirement without the duty to be present. -/
def Presence.relax : Presence → Presence
  | present => optional
  | presence => presence

/-- The row of the lifecycle table with the operation keys of settlements optional, which
is all that the mutators keep by themselves. -/
def relaxedTable (status : PaymentStatus) : LifecycleRow :=
  { lifecycleTable status with
    captureKey := (lifecycleTable status).captureKey.relax
    refundKey := (lifecycleTable status).refundKey.relax
    voidKey := (lifecycleTable status).voidKey.relax }

/-- What every payment the mutators can build satisfies. -/
structure Payment.Built (p : Payment) : Prop where
  identity : p.ValidIdentity
  lifecycle : p.MatchesLifecycle (relaxedTable p.status)

namespace Payment.Built

variable {p p' : Payment}

theorem of_newPendingPayment {id orderID customerID authKey cardFP : GoString} {amount : ℤ}
    {now : Time} (h : newPendingPayment id orderID customerID amount authKey cardFP now = .ok p) :
    p.Built := by
  obtain ⟨hid, horder, hcustomer, hamount, hkey, hcard, hnow, rfl⟩ := newPendingPayment_eq_ok.mp h
  exact ⟨⟨hid, normalized_trimSpace horder, normalized_trimSpace hcustomer, hamount, rfl,
      normalized_trimSpace hkey, normalized_trimSpace hcard, hnow, hnow⟩,
    ⟨rfl, by simp [relaxedTable, lifecycleTable], rfl, rfl, rfl, rfl, rfl, rfl, rfl⟩⟩

/-- One mutator keeps the relaxed lifecycle row. -/
theorem mutate (built : p.Built) {call : Mutator} (h : p.mutate call = .ok p') : p'.Built := by
  obtain ⟨hidentity, hlife⟩ := built
  -- A mark moves the payment to another row of the table, and a key setter fills a field of the
  -- row it is in. Only what the two rows treat differently has to be checked.
  cases call with
  | markAuthorized bankID expiresAt now =>
    obtain ⟨hstatus, hid, hnow, hexpires, rfl⟩ := markAuthorized_eq_ok.mp h
    rw [hstatus] at hlife
    exact ⟨{ hidentity with updated := hnow },
      { hlife with
        authorization := normalized_trimSpace hid
        expiration := by simp [relaxedTable, lifecycleTable, hexpires]
        captureKey := .inl hlife.captureKey
        voidKey := .inl hlife.voidKey
        decline := rfl }⟩
  | markDeclined reason now =>
    obtain ⟨hstatus, hreason, hnow, rfl⟩ := markDeclined_eq_ok.mp h
    rw [hstatus] at hlife
    exact ⟨{ hidentity with updated := hnow },
      { hlife with
        authorization := rfl
        expiration := by simp [relaxedTable, lifecycleTable]
        decline := hreason }⟩
  | markExpired now =>
    obtain ⟨hstatus, hnow, rfl⟩ := markExpired_eq_ok.mp h
    rw [hstatus] at hlife
    exact ⟨{ hidentity with updated := hnow }, { hlife with captureKey := rfl, voidKey := rfl }⟩
  | markCaptured bankID now =>
    obtain ⟨hstatus, hid, hnow, rfl⟩ := markCaptured_eq_ok.mp h
    rw [hstatus] at hlife
    exact ⟨{ hidentity with updated := hnow },
      { hlife with
        capture := normalized_trimSpace hid
        refundKey := .inl hlife.refundKey
        voidKey := rfl }⟩
  | markVoided bankID now =>
    obtain ⟨hstatus, hid, hnow, rfl⟩ := markVoided_eq_ok.mp h
    rw [hstatus] at hlife
    exact ⟨{ hidentity with updated := hnow },
      { hlife with void := normalized_trimSpace hid, captureKey := rfl, decline := rfl }⟩
  | markRefunded bankID now =>
    obtain ⟨hstatus, hid, hnow, rfl⟩ := markRefunded_eq_ok.mp h
    rw [hstatus] at hlife
    exact ⟨{ hidentity with updated := hnow }, { hlife with refund := normalized_trimSpace hid }⟩
  | setCaptureBankOperationKey key =>
    obtain ⟨hstatus, hkey, rfl⟩ := setCaptureBankOperationKey_eq_ok.mp h
    have hrow : relaxedTable p.status = relaxedTable .authorized := by rw [hstatus]
    refine ⟨{ hidentity with }, { hlife with captureKey := ?_ }⟩
    rw [hrow]
    exact .inr (normalized_trimSpace hkey)
  | setVoidBankOperationKey key =>
    obtain ⟨hstatus, hkey, rfl⟩ := setVoidBankOperationKey_eq_ok.mp h
    have hrow : relaxedTable p.status = relaxedTable .authorized := by rw [hstatus]
    refine ⟨{ hidentity with }, { hlife with voidKey := ?_ }⟩
    rw [hrow]
    exact .inr (normalized_trimSpace hkey)
  | setRefundBankOperationKey key =>
    obtain ⟨hstatus, hkey, rfl⟩ := setRefundBankOperationKey_eq_ok.mp h
    have hrow : relaxedTable p.status = relaxedTable .captured := by rw [hstatus]
    refine ⟨{ hidentity with }, { hlife with refundKey := ?_ }⟩
    rw [hrow]
    exact .inr (normalized_trimSpace hkey)

theorem mutateAll {calls : List Mutator} (built : p.Built) (h : p.mutateAll calls = .ok p') :
    p'.Built := by
  induction calls generalizing p with
  | nil =>
    obtain rfl := Except.ok.inj h
    exact built
  | cons call calls ih =>
    obtain ⟨q, hcall, hrest⟩ := bind_eq_ok.mp h
    exact ih (built.mutate hcall) hrest

/-- Only the operation key of a settlement separates what the mutators build from what the
lifecycle table asks for. -/
theorem wellFormed (built : p.Built) (hkeys : ¬ p.LacksSettlementKey) : p.WellFormed := by
  obtain ⟨hidentity, hlife⟩ := built
  refine wellFormed_iff.mpr ⟨hidentity, ?_⟩
  unfold LacksSettlementKey at hkeys
  have hcaptureKey := hlife.captureKey
  have hrefundKey := hlife.refundKey
  have hvoidKey := hlife.voidKey
  refine { hlife with captureKey := ?_, refundKey := ?_, voidKey := ?_ }
  all_goals
    cases hstatus : p.status <;>
      simp_all [relaxedTable, lifecycleTable, Presence.relax, Presence.Holds]

/-- The checks before the switch of `LoadPayment` pass, so its error is that of the switch. -/
theorem reload_eq_error {err : DomainError} (built : p.Built)
    (h : loadPaymentByStatus p.id p.orderID p.customerID p.amountCents p.status.text
      p.bankAuthorizationID p.authorizationExpiresAt p.authorizationBankOperationKey
      p.authorizationCardFingerprint p.bankCaptureID p.captureBankOperationKey p.bankRefundID
      p.refundBankOperationKey p.bankVoidID p.voidBankOperationKey p.declineReason p.createdAt =
      .error err) :
    p.reload = .error err := by
  rw [reload, loadPayment, rejectIf_of_not _ (not_not.mpr built.identity.currency), ok_bind,
    rejectIf_of_not _ built.identity.updated, ok_bind, h, error_bind]

/-- A settlement without its key is refused for that key. -/
theorem reload_of_lacksSettlementKey (built : p.Built) (hlacks : p.LacksSettlementKey) :
    p.reload = .error .invalidBankOperationKey := by
  refine built.reload_eq_error ?_
  have hlife := built.lifecycle
  have hmissing :
      requirePresent [] .invalidBankOperationKey = .error .invalidBankOperationKey := rfl
  -- The checks in front of the one that fails concern bank ids that are present and fields
  -- that the status forbids. A refund that lacks both keys fails at its refund key.
  obtain ⟨hstatus | hstatus, hkey⟩ | ⟨hstatus, hkey⟩ | ⟨hstatus, hkey⟩ := hlacks
  · rw [hstatus] at hlife ⊢
    have hreason : p.declineReason = [] := hlife.decline
    rw [loadPaymentByStatus, PaymentStatus.ofText?_text, hreason, hkey]
    simp only [requireNoDeclineReason_nil, Normalized.requirePresent_eq hlife.capture, hmissing,
      ok_bind, error_bind]
  · rw [hstatus] at hlife ⊢
    have hreason : p.declineReason = [] := hlife.decline
    rw [loadPaymentByStatus, PaymentStatus.ofText?_text, hreason, hkey]
    obtain hnone | hsome := hlife.refundKey
    · simp only [requireNoDeclineReason_nil, Normalized.requirePresent_eq hlife.refund, hnone,
        hmissing, ok_bind, error_bind]
    · simp only [requireNoDeclineReason_nil, Normalized.requirePresent_eq hlife.refund,
        Normalized.requirePresent_eq hlife.capture, hsome.requirePresent_eq, hmissing, ok_bind,
        error_bind]
  · rw [hstatus] at hlife ⊢
    have hreason : p.declineReason = [] := hlife.decline
    have hcapture : p.bankCaptureID = [] := hlife.capture
    have hcaptureKey : p.captureBankOperationKey = [] := hlife.captureKey
    have hrefund : p.bankRefundID = [] := hlife.refund
    have hrefundKey : p.refundBankOperationKey = [] := hlife.refundKey
    rw [loadPaymentByStatus, PaymentStatus.ofText?_text, hreason, hcapture, hcaptureKey, hrefund,
      hrefundKey, hkey]
    simp only [requireNoDeclineReason_nil, requireBlank_nil,
      Normalized.requirePresent_eq hlife.void, hmissing, ok_bind, error_bind]
  · rw [hstatus] at hlife ⊢
    have hreason : p.declineReason = [] := hlife.decline
    rw [loadPaymentByStatus, PaymentStatus.ofText?_text, hreason, hkey]
    simp only [requireNoDeclineReason_nil, Normalized.requirePresent_eq hlife.refund, hmissing,
      ok_bind, error_bind]

end Payment.Built

/-- A payment built by the mutators is read back unchanged in all its fields, except
precisely when a settlement was marked without its own operation key. -/
theorem reload_of_mutateAll {id orderID customerID authKey cardFP : GoString} {amount : ℤ}
    {now : Time} {start p : Payment} {calls : List Mutator}
    (hstart : newPendingPayment id orderID customerID amount authKey cardFP now = .ok start)
    (hcalls : start.mutateAll calls = .ok p) :
    p.reload = if p.LacksSettlementKey then .error .invalidBankOperationKey else .ok p := by
  have built := (Payment.Built.of_newPendingPayment hstart).mutateAll hcalls
  split_ifs with hlacks
  · exact built.reload_of_lacksSettlementKey hlacks
  · exact loadPayment_of_wellFormed (built.wellFormed hlacks)

/-- A payment captured under its key is read back; the same calls without the key build one
that is refused. -/
theorem reload_of_mutateAll_captured :
    ∃ start p q : Payment,
      p.status = .captured ∧ q.status = .captured ∧
        start.mutateAll [.markAuthorized (ascii "auth-1") 7 2,
          .setCaptureBankOperationKey (ascii "key-2"), .markCaptured (ascii "cap-1") 3] = .ok p ∧
        start.mutateAll [.markAuthorized (ascii "auth-1") 7 2, .markCaptured (ascii "cap-1") 3] =
          .ok q ∧
        p.reload = .ok p ∧ q.reload = .error .invalidBankOperationKey := by
  have hstart : ∃ start, newPendingPayment (ascii "pay_00000000-0000-0000-0000-000000000001")
      (ascii "order-1") (ascii "customer-1") 100 (ascii "key-1") (ascii "card-1") 1 = .ok start ∧
      ∃ p q : Payment, start.mutateAll [.markAuthorized (ascii "auth-1") 7 2,
          .setCaptureBankOperationKey (ascii "key-2"), .markCaptured (ascii "cap-1") 3] = .ok p ∧
        start.mutateAll [.markAuthorized (ascii "auth-1") 7 2, .markCaptured (ascii "cap-1") 3] =
          .ok q ∧
        p.status = .captured ∧ q.status = .captured ∧ ¬ p.LacksSettlementKey ∧
        q.LacksSettlementKey :=
    ⟨_, rfl, _, _, rfl, rfl, rfl, rfl, by decide, by decide⟩
  obtain ⟨start, hpending, p, q, hp, hq, hpstatus, hqstatus, hpkey, hqkey⟩ := hstart
  exact ⟨start, p, q, hpstatus, hqstatus, hp, hq,
    by rw [reload_of_mutateAll hpending hp, if_neg hpkey],
    by rw [reload_of_mutateAll hpending hq, if_pos hqkey]⟩

end PaymentGateway
