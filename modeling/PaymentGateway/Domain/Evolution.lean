/-
# How a stored payment changes

`LifecycleStep` is the change that one committed write makes to a stored payment:
an operation key set where there was none, or one move along the lifecycle.
`Evolves` is its reflexive transitive closure.

The status order has no cycles, so a payment that evolves without changing its
status can only have gained operation keys. Copies of a payment that were read at
different times in the same status therefore agree on everything but the keys one
of them lacks, which is what lets a command complete from a stale copy.
-/

import PaymentGateway.Domain.Lifecycle
import Mathlib.Logic.Relation

namespace PaymentGateway

/-- The change one committed write makes to a stored payment. -/
inductive LifecycleStep (p : Payment) : Payment → Prop
  | captureKey (key : GoString) (status : p.status = .authorized)
      (unset : p.captureBankOperationKey = []) (normalized : Normalized key) :
      LifecycleStep p { p with captureBankOperationKey := key }
  | voidKey (key : GoString) (status : p.status = .authorized)
      (unset : p.voidBankOperationKey = []) (normalized : Normalized key) :
      LifecycleStep p { p with voidBankOperationKey := key }
  | refundKey (key : GoString) (status : p.status = .captured)
      (unset : p.refundBankOperationKey = []) (normalized : Normalized key) :
      LifecycleStep p { p with refundBankOperationKey := key }
  | authorized (bankID : GoString) (expiresAt now : Time) (status : p.status = .pending)
      (normalized : Normalized bankID) (expires : expiresAt ≠ 0) (time : now ≠ 0) :
      LifecycleStep p
        { p with status := .authorized, bankAuthorizationID := bankID,
                 authorizationExpiresAt := expiresAt, declineReason := [], updatedAt := now }
  | declined (reason : GoString) (now : Time) (status : p.status = .pending)
      (known : reason ∈ declineReasons) (time : now ≠ 0) :
      LifecycleStep p
        { p with status := .declined, bankAuthorizationID := [], authorizationExpiresAt := 0,
                 declineReason := reason, updatedAt := now }
  | expired (now : Time) (status : p.status = .authorized) (time : now ≠ 0) :
      LifecycleStep p
        { p with status := .expired, captureBankOperationKey := [], voidBankOperationKey := [],
                 updatedAt := now }
  | captured (bankID : GoString) (now : Time) (status : p.status = .authorized)
      (key : p.captureBankOperationKey ≠ []) (normalized : Normalized bankID) (time : now ≠ 0) :
      LifecycleStep p
        { p with status := .captured, bankCaptureID := bankID, voidBankOperationKey := [],
                 updatedAt := now }
  | voided (bankID : GoString) (now : Time) (status : p.status = .authorized)
      (key : p.voidBankOperationKey ≠ []) (normalized : Normalized bankID) (time : now ≠ 0) :
      LifecycleStep p
        { p with status := .voided, bankVoidID := bankID, captureBankOperationKey := [],
                 declineReason := [], updatedAt := now }
  | refunded (bankID : GoString) (now : Time) (status : p.status = .captured)
      (key : p.refundBankOperationKey ≠ []) (normalized : Normalized bankID) (time : now ≠ 0) :
      LifecycleStep p { p with status := .refunded, bankRefundID := bankID, updatedAt := now }

/-- A committed write that moves the status. -/
structure LifecycleMove (p q : Payment) : Prop where
  step : LifecycleStep p q
  status_ne : q.status ≠ p.status

/-- Zero or more committed writes. -/
abbrev Evolves : Payment → Payment → Prop := Relation.ReflTransGen LifecycleStep

/-- The fields no write ever changes. -/
structure SameIdentity (p q : Payment) : Prop where
  id : q.id = p.id
  orderID : q.orderID = p.orderID
  customerID : q.customerID = p.customerID
  amountCents : q.amountCents = p.amountCents
  currency : q.currency = p.currency
  authorizationKey : q.authorizationBankOperationKey = p.authorizationBankOperationKey
  cardFingerprint : q.authorizationCardFingerprint = p.authorizationCardFingerprint
  createdAt : q.createdAt = p.createdAt

theorem SameIdentity.refl (p : Payment) : SameIdentity p p :=
  ⟨rfl, rfl, rfl, rfl, rfl, rfl, rfl, rfl⟩

theorem SameIdentity.trans {p q r : Payment} (first : SameIdentity p q)
    (second : SameIdentity q r) : SameIdentity p r :=
  ⟨second.id.trans first.id, second.orderID.trans first.orderID,
    second.customerID.trans first.customerID, second.amountCents.trans first.amountCents,
    second.currency.trans first.currency, second.authorizationKey.trans first.authorizationKey,
    second.cardFingerprint.trans first.cardFingerprint, second.createdAt.trans first.createdAt⟩

/-- A payment with the same status that may have gained operation keys. -/
structure GainsKeys (p q : Payment) : Prop where
  rest : q = { p with captureBankOperationKey := q.captureBankOperationKey,
                      voidBankOperationKey := q.voidBankOperationKey,
                      refundBankOperationKey := q.refundBankOperationKey }
  captureKey : p.captureBankOperationKey ≠ [] →
    q.captureBankOperationKey = p.captureBankOperationKey
  voidKey : p.voidBankOperationKey ≠ [] → q.voidBankOperationKey = p.voidBankOperationKey
  refundKey : p.refundBankOperationKey ≠ [] → q.refundBankOperationKey = p.refundBankOperationKey

theorem GainsKeys.refl (p : Payment) : GainsKeys p p :=
  ⟨rfl, fun _ => rfl, fun _ => rfl, fun _ => rfl⟩

theorem GainsKeys.trans {p q r : Payment} (first : GainsKeys p q) (second : GainsKeys q r) :
    GainsKeys p r where
  rest := by
    have hr := second.rest
    rw [first.rest] at hr
    exact hr
  captureKey h := by
    have hq := first.captureKey h
    rw [second.captureKey (hq ▸ h), hq]
  voidKey h := by
    have hq := first.voidKey h
    rw [second.voidKey (hq ▸ h), hq]
  refundKey h := by
    have hq := first.refundKey h
    rw [second.refundKey (hq ▸ h), hq]

/-- How far along the lifecycle a status lies. -/
def PaymentStatus.rank : PaymentStatus → ℕ
  | pending => 0
  | authorized => 1
  | captured => 2
  | _ => 3

namespace LifecycleStep

variable {p q : Payment}

theorem sameIdentity (h : LifecycleStep p q) : SameIdentity p q := by
  cases h <;> exact ⟨rfl, rfl, rfl, rfl, rfl, rfl, rfl, rfl⟩

/-- A write either gains a key or moves the status forward. -/
theorem gainsKeys_or_rank_lt (h : LifecycleStep p q) :
    GainsKeys p q ∨ p.status.rank < q.status.rank := by
  cases h with
  | captureKey key status unset _ =>
    exact .inl ⟨rfl, fun h => absurd unset h, fun _ => rfl, fun _ => rfl⟩
  | voidKey key status unset _ =>
    exact .inl ⟨rfl, fun _ => rfl, fun h => absurd unset h, fun _ => rfl⟩
  | refundKey key status unset _ =>
    exact .inl ⟨rfl, fun _ => rfl, fun _ => rfl, fun h => absurd unset h⟩
  | authorized _ _ _ status _ _ _ => exact .inr (by simp [status, PaymentStatus.rank])
  | declined _ _ status _ _ => exact .inr (by simp [status, PaymentStatus.rank])
  | expired _ status _ => exact .inr (by simp [status, PaymentStatus.rank])
  | captured _ _ status _ _ _ => exact .inr (by simp [status, PaymentStatus.rank])
  | voided _ _ status _ _ _ => exact .inr (by simp [status, PaymentStatus.rank])
  | refunded _ _ status _ _ _ => exact .inr (by simp [status, PaymentStatus.rank])

/-- No write changes a payment that is voided, expired or refunded. -/
theorem status_ne_of_terminal (h : LifecycleStep p q) :
    p.status ≠ .voided ∧ p.status ≠ .expired ∧ p.status ≠ .refunded := by
  cases h <;> simp [*]

/-- A write keeps a payment well formed. -/
theorem wellFormed (h : LifecycleStep p q) (wf : p.WellFormed) : q.WellFormed := by
  obtain ⟨hid, horder, hcustomer, hamount, hcurrency, hkey, hcard, hcreated, hupdated, hlife⟩ := wf
  obtain ⟨hauth, hexp, hcap, hcapKey, href, hrefKey, hvoid, hvoidKey, hreason⟩ := hlife
  -- A settlement key that the step requires to be set is normalized by the table.
  cases h with
  | captureKey key status unset normalized =>
    -- The key is the only field that changes, and the table allows it in this status.
    have hset : (lifecycleTable p.status).captureKey.Holds key := by
      rw [status]
      exact .inr normalized
    exact ⟨hid, horder, hcustomer, hamount, hcurrency, hkey, hcard, hcreated, hupdated,
      ⟨hauth, hexp, hcap, hset, href, hrefKey, hvoid, hvoidKey, hreason⟩⟩
  | voidKey key status unset normalized =>
    have hset : (lifecycleTable p.status).voidKey.Holds key := by
      rw [status]
      exact .inr normalized
    exact ⟨hid, horder, hcustomer, hamount, hcurrency, hkey, hcard, hcreated, hupdated,
      ⟨hauth, hexp, hcap, hcapKey, href, hrefKey, hvoid, hset, hreason⟩⟩
  | refundKey key status unset normalized =>
    have hset : (lifecycleTable p.status).refundKey.Holds key := by
      rw [status]
      exact .inr normalized
    exact ⟨hid, horder, hcustomer, hamount, hcurrency, hkey, hcard, hcreated, hupdated,
      ⟨hauth, hexp, hcap, hcapKey, href, hset, hvoid, hvoidKey, hreason⟩⟩
  | authorized bankID expiresAt now status normalized expires time =>
    rw [status] at hcap hcapKey href hrefKey hvoid hvoidKey
    exact ⟨hid, horder, hcustomer, hamount, hcurrency, hkey, hcard, hcreated, time,
      ⟨normalized, by simp [lifecycleTable, expires], hcap, .inl hcapKey, href, hrefKey, hvoid,
        .inl hvoidKey, rfl⟩⟩
  | declined reason now status known time =>
    rw [status] at hcap hcapKey href hrefKey hvoid hvoidKey
    exact ⟨hid, horder, hcustomer, hamount, hcurrency, hkey, hcard, hcreated, time,
      ⟨rfl, by simp [lifecycleTable], hcap, hcapKey, href, hrefKey, hvoid, hvoidKey, known⟩⟩
  | expired now status time =>
    rw [status] at hauth hexp hcap href hrefKey hvoid hreason
    exact ⟨hid, horder, hcustomer, hamount, hcurrency, hkey, hcard, hcreated, time,
      ⟨hauth, hexp, hcap, rfl, href, hrefKey, hvoid, rfl, hreason⟩⟩
  | captured bankID now status key normalized time =>
    rw [status] at hauth hexp hcapKey href hrefKey hvoid hreason
    exact ⟨hid, horder, hcustomer, hamount, hcurrency, hkey, hcard, hcreated, time,
      ⟨hauth, hexp, normalized, hcapKey.resolve_left key, href, .inl hrefKey, hvoid, rfl,
        hreason⟩⟩
  | voided bankID now status key normalized time =>
    rw [status] at hauth hexp hcap href hrefKey hvoidKey
    exact ⟨hid, horder, hcustomer, hamount, hcurrency, hkey, hcard, hcreated, time,
      ⟨hauth, hexp, hcap, rfl, href, hrefKey, normalized, hvoidKey.resolve_left key, rfl⟩⟩
  | refunded bankID now status key normalized time =>
    rw [status] at hauth hexp hcap hcapKey hrefKey hvoid hvoidKey hreason
    exact ⟨hid, horder, hcustomer, hamount, hcurrency, hkey, hcard, hcreated, time,
      ⟨hauth, hexp, hcap, hcapKey, normalized, hrefKey.resolve_left key, hvoid, hvoidKey,
        hreason⟩⟩

end LifecycleStep

namespace GainsKeys

variable {p q : Payment}

theorem status_eq (h : GainsKeys p q) : q.status = p.status := by
  rw [h.rest]

/-- A key column that the lifecycle forbids is empty before and after. -/
private theorem absent {presence : Presence} {key key' : GoString}
    (forbidden : presence = .absent) (before : presence.Holds key) (after : presence.Holds key') :
    key' = key := by
  subst forbidden
  exact Eq.trans after (Eq.symm before)

/-- A pending payment has no key to gain. -/
theorem eq_of_pending (h : GainsKeys p q) (wfp : p.WellFormed) (wfq : q.WellFormed)
    (status : p.status = .pending) : q = p := by
  have hp := wfp.lifecycle
  have hq := wfq.lifecycle
  rw [h.status_eq] at hq
  rw [status] at hp hq
  rw [h.rest, absent rfl hp.captureKey hq.captureKey, absent rfl hp.voidKey hq.voidKey,
    absent rfl hp.refundKey hq.refundKey]

/-- An authorized payment can gain the keys of a capture and of a void. -/
theorem exists_keys_of_authorized (h : GainsKeys p q) (wfp : p.WellFormed) (wfq : q.WellFormed)
    (status : p.status = .authorized) :
    ∃ capture void, q = { p with captureBankOperationKey := capture,
                                 voidBankOperationKey := void } := by
  have hp := wfp.lifecycle
  have hq := wfq.lifecycle
  rw [h.status_eq] at hq
  rw [status] at hp hq
  refine ⟨q.captureBankOperationKey, q.voidBankOperationKey, ?_⟩
  rw [← absent rfl hp.refundKey hq.refundKey]
  exact h.rest

/-- With the key of a capture set, only the key of a void can be gained. -/
theorem exists_voidKey_of_captureKey (h : GainsKeys p q) (wfp : p.WellFormed)
    (wfq : q.WellFormed) (status : p.status = .authorized)
    (key : p.captureBankOperationKey ≠ []) :
    ∃ void, q = { p with voidBankOperationKey := void } := by
  obtain ⟨capture, void, rfl⟩ := h.exists_keys_of_authorized wfp wfq status
  exact ⟨void, by rw [show capture = p.captureBankOperationKey from h.captureKey key]⟩

/-- With the key of a void set, only the key of a capture can be gained. -/
theorem exists_captureKey_of_voidKey (h : GainsKeys p q) (wfp : p.WellFormed)
    (wfq : q.WellFormed) (status : p.status = .authorized) (key : p.voidBankOperationKey ≠ []) :
    ∃ capture, q = { p with captureBankOperationKey := capture } := by
  obtain ⟨capture, void, rfl⟩ := h.exists_keys_of_authorized wfp wfq status
  exact ⟨capture, by rw [show void = p.voidBankOperationKey from h.voidKey key]⟩

/-- A captured payment with the key of a refund has no key to gain. -/
theorem eq_of_captured (h : GainsKeys p q) (wfp : p.WellFormed) (wfq : q.WellFormed)
    (status : p.status = .captured) (key : p.refundBankOperationKey ≠ []) : q = p := by
  have hp := wfp.lifecycle
  have hq := wfq.lifecycle
  rw [h.status_eq] at hq
  rw [status] at hp hq
  have hcapture : Normalized p.captureBankOperationKey := hp.captureKey
  rw [h.rest, h.captureKey hcapture.ne_nil, absent rfl hp.voidKey hq.voidKey, h.refundKey key]

end GainsKeys

namespace Evolves

variable {p q : Payment}

theorem sameIdentity (h : Evolves p q) : SameIdentity p q := by
  induction h with
  | refl => exact .refl p
  | tail _ hstep ih => exact ih.trans hstep.sameIdentity

theorem wellFormed (h : Evolves p q) (wf : p.WellFormed) : q.WellFormed := by
  induction h with
  | refl => exact wf
  | tail _ hstep ih => exact hstep.wellFormed ih

/-- A payment that evolves either only gains keys or leaves its status for good. -/
theorem gainsKeys_or_rank_lt (h : Evolves p q) :
    GainsKeys p q ∨ p.status.rank < q.status.rank := by
  induction h with
  | refl => exact .inl (.refl p)
  | tail _ hstep ih =>
    rcases hstep.gainsKeys_or_rank_lt with hgain | hrank
    · rcases ih with ih | ih
      · exact .inl (ih.trans hgain)
      · exact .inr (by rw [hgain.status_eq]; exact ih)
    · rcases ih with ih | ih
      · exact .inr (by rw [← ih.status_eq]; exact hrank)
      · exact .inr (ih.trans hrank)

theorem gainsKeys (h : Evolves p q) (status : q.status = p.status) : GainsKeys p q := by
  rcases h.gainsKeys_or_rank_lt with hgain | hrank
  · exact hgain
  · rw [status] at hrank
    exact absurd hrank (lt_irrefl _)

theorem rank_le (h : Evolves p q) : p.status.rank ≤ q.status.rank := by
  rcases h.gainsKeys_or_rank_lt with hgain | hrank
  · rw [hgain.status_eq]
  · exact hrank.le

/-- The key of a capture is cleared only by a void or an expiration. -/
theorem captureKey_eq (h : Evolves p q) (key : p.captureBankOperationKey ≠ []) :
    q.captureBankOperationKey = p.captureBankOperationKey ∨ q.status = .voided ∨
      q.status = .expired := by
  induction h with
  | refl => exact .inl rfl
  | tail _ hstep ih =>
    rcases ih with hkey | hvoided | hexpired
    · cases hstep with
      | captureKey _ _ unset => exact absurd (hkey.symm.trans unset) key
      | expired => exact .inr (.inr rfl)
      | voided => exact .inr (.inl rfl)
      | _ => exact .inl hkey
    · exact absurd hvoided hstep.status_ne_of_terminal.1
    · exact absurd hexpired hstep.status_ne_of_terminal.2.1

/-- The key of a void is cleared only by a capture or an expiration. -/
theorem voidKey_eq (h : Evolves p q) (key : p.voidBankOperationKey ≠ []) :
    q.voidBankOperationKey = p.voidBankOperationKey ∨ q.status = .captured ∨
      q.status = .refunded ∨ q.status = .expired := by
  induction h with
  | refl => exact .inl rfl
  | tail _ hstep ih =>
    rcases ih with hkey | hcaptured | hrefunded | hexpired
    · cases hstep with
      | voidKey _ _ unset => exact absurd (hkey.symm.trans unset) key
      | expired => exact .inr (.inr (.inr rfl))
      | captured => exact .inr (.inl rfl)
      | _ => exact .inl hkey
    · cases hstep with
      | refundKey => exact .inr (.inl hcaptured)
      | refunded => exact .inr (.inr (.inl rfl))
      | captureKey _ hstatus | voidKey _ hstatus | captured _ _ hstatus | voided _ _ hstatus
      | expired _ hstatus | authorized _ _ _ hstatus | declined _ _ hstatus =>
        exact absurd (hstatus.symm.trans hcaptured) nofun
    · exact absurd hrefunded hstep.status_ne_of_terminal.2.2
    · exact absurd hexpired hstep.status_ne_of_terminal.2.1

/-- The key of a refund is never cleared. -/
theorem refundKey_eq (h : Evolves p q) (key : p.refundBankOperationKey ≠ []) :
    q.refundBankOperationKey = p.refundBankOperationKey := by
  induction h with
  | refl => rfl
  | tail _ hstep ih =>
    cases hstep with
    | refundKey _ _ unset => exact absurd (ih.symm.trans unset) key
    | _ => exact ih

/-- The authorization id of a payment that is no longer pending stays. -/
theorem bankAuthorizationID_eq (h : Evolves p q) (status : p.status ≠ .pending) :
    q.bankAuthorizationID = p.bankAuthorizationID ∧ q.status ≠ .pending := by
  induction h with
  | refl => exact ⟨rfl, status⟩
  | tail _ hstep ih =>
    cases hstep with
    | authorized _ _ _ hpending => exact absurd hpending ih.2
    | declined _ _ hpending => exact absurd hpending ih.2
    | captureKey | voidKey | refundKey => exact ih
    | captured | voided | refunded | expired => exact ⟨ih.1, nofun⟩

/-- The capture id of a captured payment stays, and all it can become is refunded. -/
theorem bankCaptureID_eq (h : Evolves p q) (status : p.status = .captured ∨ p.status = .refunded) :
    q.bankCaptureID = p.bankCaptureID ∧ (q.status = .captured ∨ q.status = .refunded) := by
  induction h with
  | refl => exact ⟨rfl, status⟩
  | @tail mid last _ hstep ih =>
    obtain ⟨hid, hstatus⟩ := ih
    have hne : ∀ other, mid.status = other → other = .captured ∨ other = .refunded := by
      rintro other rfl
      exact hstatus
    cases hstep with
    | captureKey _ before | voidKey _ before | authorized _ _ _ before | declined _ _ before
    | expired _ before | captured _ _ before | voided _ _ before => simpa using hne _ before
    | refundKey => exact ⟨hid, hstatus⟩
    | refunded => exact ⟨hid, .inr rfl⟩

end Evolves

end PaymentGateway
