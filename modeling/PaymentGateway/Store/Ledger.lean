/-
# The ledger behind the payments table

Abstractly the store is a ledger: for each payment id the payment it currently
holds, and the versions that led to it. `Db.Sound` says that the payments table
implements the ledger: each row encodes the latest version of its payment, every
version is well formed, and a version evolves into the later ones. Then reading a
row returns what the ledger holds, and a write that evolves the current payment
keeps the table sound.
-/

import PaymentGateway.Domain.Evolution
import PaymentGateway.Lib.History
import PaymentGateway.Store.Specs

namespace PaymentGateway

open Lib

namespace Db

/-- The payment the ledger holds for an id. -/
def current (db : Db) (id : GoString) : Option Payment :=
  (latest Version.id db.history id).map Version.payment

/-- The payments that versions were written from. -/
def Wrote (db : Db) (payment : Payment) : Prop :=
  ∃ version ∈ db.history, version.payment = payment

/-- The payments table implements the ledger. -/
structure Sound (db : Db) : Prop where
  wellFormed : ∀ version ∈ db.history, version.payment.WellFormed
  encoded : ∀ version ∈ db.history, version.row = rowOf version.payment
  newest : ∀ id, db.payments id = (latest Version.id db.history id).map Version.row
  linked : Linked Version.id (fun older newer => Evolves older.payment newer.payment)
    db.history

@[simp] theorem current_setRecord (db : Db) (recordKey : Operation × GoString)
    (slot : Option IdempotencyRecord) (id : GoString) :
    (db.setRecord recordKey slot).current id = db.current id := rfl

@[simp] theorem wrote_setRecord (db : Db) (recordKey : Operation × GoString)
    (slot : Option IdempotencyRecord) (payment : Payment) :
    (db.setRecord recordKey slot).Wrote payment ↔ db.Wrote payment := Iff.rfl

@[simp] theorem current_put_self (db : Db) (version : Version) :
    (db.put version).current version.payment.id = some version.payment := by
  exact congrArg (Option.map Version.payment) (latest_cons_self Version.id version db.history)

theorem current_put_of_ne (db : Db) (version : Version) {id : GoString}
    (h : id ≠ version.payment.id) : (db.put version).current id = db.current id := by
  exact congrArg (Option.map Version.payment) (latest_cons_of_ne Version.id db.history h)

theorem wrote_put {db : Db} {version : Version} {payment : Payment} :
    (db.put version).Wrote payment ↔ payment = version.payment ∨ db.Wrote payment := by
  simp [Wrote, eq_comm]

theorem Wrote.put {db : Db} {payment : Payment} (h : db.Wrote payment) (version : Version) :
    (db.put version).Wrote payment := wrote_put.mpr (.inr h)

/-- Only writes change the ledger. -/
theorem current_of_history_eq {db db' : Db} (h : db'.history = db.history) (id : GoString) :
    db'.current id = db.current id := by
  rw [current, current, h]

theorem wrote_of_history_eq {db db' : Db} (h : db'.history = db.history) (payment : Payment) :
    db'.Wrote payment ↔ db.Wrote payment := by
  rw [Wrote, Wrote, h]

theorem sound_empty : empty.Sound where
  wellFormed version h := by cases h
  encoded version h := by cases h
  newest id := rfl
  linked := Linked.nil

/-- The columns a transition sets turn the row of a payment into the row of any
payment with the same identity. -/
theorem transitionRow_rowOf {p q : Payment} (h : SameIdentity p q) :
    transitionRow (rowOf p) q = rowOf q := by
  simp only [transitionRow, rowOf, h.id, h.orderID, h.customerID, h.amountCents, h.currency,
    h.createdAt]

/-- A version of a payment is written, whatever happens to the records. -/
structure Stores (db db' : Db) (p : Payment) : Prop where
  payments : db'.payments = (db.put ⟨p, rowOf p⟩).payments
  history : db'.history = ⟨p, rowOf p⟩ :: db.history

namespace Stores

variable {db db' : Db} {p : Payment}

theorem history_eq_put (h : Stores db db' p) : db'.history = (db.put ⟨p, rowOf p⟩).history :=
  h.history

theorem wrote_iff (h : Stores db db' p) {q : Payment} : db'.Wrote q ↔ q = p ∨ db.Wrote q := by
  rw [wrote_of_history_eq h.history_eq_put, wrote_put]

theorem current_self (h : Stores db db' p) : db'.current p.id = some p := by
  rw [current_of_history_eq h.history_eq_put]
  exact current_put_self db ⟨p, rowOf p⟩

theorem current_of_ne (h : Stores db db' p) {id : GoString} (hne : id ≠ p.id) :
    db'.current id = db.current id := by
  rw [current_of_history_eq h.history_eq_put]
  exact current_put_of_ne db ⟨p, rowOf p⟩ hne

theorem payments_self (h : Stores db db' p) : db'.payments p.id = some (rowOf p) := by
  rw [h.payments]
  exact put_payments_self db ⟨p, rowOf p⟩

theorem payments_of_ne (h : Stores db db' p) {id : GoString} (hne : id ≠ p.id) :
    db'.payments id = db.payments id := by
  rw [h.payments]
  exact put_payments_of_ne db ⟨p, rowOf p⟩ hne

end Stores

/-- How the ledger may change: not at all, by a new pending payment, by one lifecycle
step of the current payment, or by writing the current payment again. -/
inductive LedgerStep (db db' : Db) : Prop
  | same (payments : db'.payments = db.payments) (history : db'.history = db.history)
  | insert (p : Payment) (fresh : db.current p.id = none) (pending : p.status = .pending)
      (wf : p.WellFormed) (stores : Stores db db' p)
  | evolve (q p : Payment) (current : db.current p.id = some q) (step : LifecycleStep q p)
      (stores : Stores db db' p)
  | rewrite (p : Payment) (current : db.current p.id = some p) (stores : Stores db db' p)

/-- Every version stays on record. -/
theorem LedgerStep.wrote {db db' : Db} (h : LedgerStep db db') {payment : Payment}
    (hwrote : db.Wrote payment) : db'.Wrote payment := by
  cases h with
  | same _ history => exact (wrote_of_history_eq history payment).mpr hwrote
  | insert _ _ _ _ stores => exact stores.wrote_iff.mpr (.inr hwrote)
  | evolve _ _ _ _ stores => exact stores.wrote_iff.mpr (.inr hwrote)
  | rewrite _ _ stores => exact stores.wrote_iff.mpr (.inr hwrote)

namespace Sound

variable {db : Db} {p q : Payment} {id : GoString}

theorem of_tables_eq {db' : Db} (sound : db.Sound) (hpayments : db'.payments = db.payments)
    (hhistory : db'.history = db.history) : db'.Sound where
  wellFormed := hhistory ▸ sound.wellFormed
  encoded := hhistory ▸ sound.encoded
  newest id := by rw [hpayments, hhistory]; exact sound.newest id
  linked := hhistory ▸ sound.linked

theorem setRecord (sound : db.Sound) (recordKey : Operation × GoString)
    (slot : Option IdempotencyRecord) : (db.setRecord recordKey slot).Sound :=
  sound.of_tables_eq rfl rfl

theorem wellFormed_of_wrote (sound : db.Sound) (h : db.Wrote p) : p.WellFormed := by
  obtain ⟨version, hmem, rfl⟩ := h
  exact sound.wellFormed version hmem

/-- A row of the table encodes the payment the ledger holds. -/
theorem payments_eq (sound : db.Sound) (id : GoString) :
    db.payments id = (db.current id).map rowOf := by
  rw [sound.newest, current, Option.map_map]
  cases hlatest : latest Version.id db.history id with
  | none => rfl
  | some version =>
    simp only [Option.map_some, Function.comp, sound.encoded version (mem_of_latest hlatest)]

theorem wrote_of_current (_ : db.Sound) (h : db.current id = some p) : db.Wrote p := by
  obtain ⟨version, hlatest, hpayment⟩ := Option.map_eq_some_iff.mp h
  exact ⟨version, mem_of_latest hlatest, hpayment⟩

theorem id_of_current (_ : db.Sound) (h : db.current id = some p) : p.id = id := by
  obtain ⟨version, hlatest, rfl⟩ := Option.map_eq_some_iff.mp h
  have hid : version.id = id := key_of_latest hlatest
  exact hid

theorem wellFormed_of_current (sound : db.Sound) (h : db.current id = some p) : p.WellFormed :=
  sound.wellFormed_of_wrote (sound.wrote_of_current h)

/-- Reading a row returns what the ledger holds. -/
theorem findPaymentByID_eq_ok (sound : db.Sound) :
    db.findPaymentByID id = .ok p ↔ db.current id = some p := by
  rw [Db.findPaymentByID, sound.payments_eq]
  cases hcurrent : db.current id with
  | none => simp
  | some q =>
    have hload := loadRow_rowOf (sound.wellFormed_of_current hcurrent)
    rw [sound.id_of_current hcurrent] at hload
    simp [hload]

/-- A version that was ever written has evolved into the current payment. -/
theorem evolves_current (sound : db.Sound) (h : db.Wrote p) :
    ∃ q, db.current p.id = some q ∧ Evolves p q := by
  obtain ⟨version, hmem, rfl⟩ := h
  obtain ⟨last, hlast, hevolves⟩ := sound.linked.related_latest (fun _ => .refl) hmem
  exact ⟨last.payment, congrArg (Option.map Version.payment) hlast, hevolves⟩

/-- Two versions of a payment agree on its identity. -/
theorem sameIdentity (sound : db.Sound) (hp : db.Wrote p) (hq : db.Wrote q) (hid : p.id = q.id) :
    SameIdentity p q := by
  obtain ⟨r, hr, hpr⟩ := sound.evolves_current hp
  obtain ⟨r', hr', hqr⟩ := sound.evolves_current hq
  rw [← hid, hr, Option.some_inj] at hr'
  subst hr'
  have h₁ := hpr.sameIdentity
  have h₂ := hqr.sameIdentity
  exact ⟨h₂.id.symm.trans h₁.id, h₂.orderID.symm.trans h₁.orderID,
    h₂.customerID.symm.trans h₁.customerID, h₂.amountCents.symm.trans h₁.amountCents,
    h₂.currency.symm.trans h₁.currency, h₂.authorizationKey.symm.trans h₁.authorizationKey,
    h₂.cardFingerprint.symm.trans h₁.cardFingerprint, h₂.createdAt.symm.trans h₁.createdAt⟩

/-- Of two versions of a payment in one status one gained keys over the other. -/
theorem gainsKeys_or_gainsKeys (sound : db.Sound) (hp : db.Wrote p) (hq : db.Wrote q)
    (hid : p.id = q.id) (hstatus : p.status = q.status) : GainsKeys p q ∨ GainsKeys q p := by
  obtain ⟨v, hv, rfl⟩ := hp
  obtain ⟨w, hw, rfl⟩ := hq
  rcases sound.linked.related_or_related (fun _ => .refl) hv hw hid with h | h
  · exact .inl (h.gainsKeys hstatus.symm)
  · exact .inr (h.gainsKeys hstatus)

/-- A write that evolves the current payment keeps the table sound. -/
theorem put (sound : db.Sound) (wf : p.WellFormed)
    (h : ∀ q, db.current p.id = some q → Evolves q p) : (db.put ⟨p, rowOf p⟩).Sound where
  wellFormed version hmem := by
    rcases List.mem_cons.mp hmem with rfl | hmem
    · exact wf
    · exact sound.wellFormed version hmem
  encoded version hmem := by
    rcases List.mem_cons.mp hmem with rfl | hmem
    · rfl
    · exact sound.encoded version hmem
  newest id := by
    by_cases hid : id = p.id
    · subst hid
      refine (put_payments_self db ⟨p, rowOf p⟩).trans ?_
      exact (congrArg (Option.map Version.row)
        (latest_cons_self Version.id ⟨p, rowOf p⟩ db.history)).symm
    · refine (put_payments_of_ne db ⟨p, rowOf p⟩ hid).trans ((sound.newest id).trans ?_)
      exact (congrArg (Option.map Version.row)
        (latest_cons_of_ne Version.id db.history hid)).symm
  linked := by
    refine Linked.cons (fun _ => .refl) (fun h₁ h₂ => h₁.trans h₂) sound.linked ?_
    intro replaced hreplaced
    exact h replaced.payment (congrArg (Option.map Version.payment) hreplaced)

/-- A change of the ledger keeps the table sound. -/
theorem ledgerStep {db' : Db} (sound : db.Sound) (h : LedgerStep db db') : db'.Sound := by
  cases h with
  | same payments history => exact sound.of_tables_eq payments history
  | insert p fresh _ wf stores =>
    refine (sound.put wf fun q hq => ?_).of_tables_eq stores.payments stores.history
    rw [fresh] at hq
    cases hq
  | evolve q p current step stores =>
    refine (sound.put (step.wellFormed (sound.wellFormed_of_current current))
      fun r hr => ?_).of_tables_eq stores.payments stores.history
    rw [current, Option.some_inj] at hr
    subst hr
    exact .single step
  | rewrite p current stores =>
    refine (sound.put (sound.wellFormed_of_current current)
      fun r hr => ?_).of_tables_eq stores.payments stores.history
    rw [current, Option.some_inj] at hr
    subst hr
    exact .refl

/-- The row of a payment that is found in the table encodes the current payment. -/
theorem exists_current_of_row (sound : db.Sound) {row : PaymentRow}
    (h : db.payments id = some row) : ∃ p, db.current id = some p ∧ rowOf p = row := by
  rw [sound.payments_eq] at h
  exact Option.map_eq_some_iff.mp h

theorem current_eq_none (sound : db.Sound) (h : db.payments id = none) : db.current id = none := by
  rw [sound.payments_eq] at h
  exact Option.map_eq_none_iff.mp h

/-- Setting a key column stores the payment with that key. -/
theorem updateKeyColumn_eq_ok (sound : db.Sound) {p' r : Payment} {db' : Db}
    {change : PaymentRow → PaymentRow} (h : db.updateKeyColumn p' change = .ok (r, db'))
    (hcurrent : db.current p'.id = some p) (hchange : change (rowOf p) = rowOf p') :
    r = p' ∧ db' = db.put ⟨p', rowOf p'⟩ := by
  rw [Db.updateKeyColumn, sound.payments_eq, hcurrent, Option.map_some] at h
  dsimp only at h
  split_ifs at h
  obtain ⟨after, hwrite, hpair⟩ := bind_eq_ok.mp h
  obtain ⟨_, rfl⟩ := writePayment_eq_ok.mp (mapError_eq_ok.mp hwrite)
  cases hpair
  exact ⟨rfl, by rw [hchange]⟩

/-- A key column of a stored payment can be set, if the payment stays well formed. -/
theorem updateKeyColumn_of_wellFormed (sound : db.Sound) {p' : Payment}
    {change : PaymentRow → PaymentRow} (current : db.current p.id = some p) (hid : p'.id = p.id)
    (status : p'.status = p.status) (wf : p'.WellFormed) (hchange : change (rowOf p) = rowOf p') :
    db.updateKeyColumn p' change = .ok (p', db.put ⟨p', rowOf p'⟩) := by
  have hwrite : db.writePayment p' (rowOf p') = .ok (db.put ⟨p', rowOf p'⟩) :=
    writePayment_eq_ok.mpr ⟨paymentsCheck_rowOf wf, rfl⟩
  rw [Db.updateKeyColumn, hid, sound.payments_eq, current, Option.map_some]
  dsimp only
  rw [if_pos (by rw [status]; rfl), hchange, hwrite]
  rfl

end Sound

end Db

end PaymentGateway
