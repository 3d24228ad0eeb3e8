/-
# The history of a payment row

What one step of the system can do to a row of the payments table, and what follows
for whole runs. A row is inserted as pending, gains an operation key where it had
none, or moves along one edge of the lifecycle; its identity and the bank ids it
has are never changed, and in a terminal status it is never changed at all.

The status of a row moves exactly in the steps that complete an idempotency record.
The one completion that moves no status is that of an authorization whose outcome
is unknown, which leaves the payment pending.
-/

import PaymentGateway.Invariant.Records

namespace PaymentGateway

open Lib

/-! ## Changes of a row -/

/-- The statuses that a payment can move to. -/
def PaymentStatus.successors : PaymentStatus → List PaymentStatus
  | pending => [.authorized, .declined]
  | authorized => [.captured, .voided, .expired]
  | captured => [.refunded]
  | _ => []

/-- The columns that identify a payment are the same. -/
structure SameColumns (row row' : PaymentRow) : Prop where
  id : row'.id = row.id
  orderID : row'.orderID = row.orderID
  customerID : row'.customerID = row.customerID
  amountCents : row'.amountCents = row.amountCents
  currency : row'.currency = row.currency
  authorizationKey : row'.authorizationBankOperationKey = row.authorizationBankOperationKey
  cardFingerprint : row'.authorizationCardFingerprint = row.authorizationCardFingerprint
  createdAt : row'.createdAt = row.createdAt

/-- A bank id that is set is the same. -/
structure KeepsBankIDs (row row' : PaymentRow) : Prop where
  authorization : ∀ id, row.bankAuthorizationID = some id → row'.bankAuthorizationID = some id
  capture : ∀ id, row.bankCaptureID = some id → row'.bankCaptureID = some id
  void : ∀ id, row.bankVoidID = some id → row'.bankVoidID = some id
  refund : ∀ id, row.bankRefundID = some id → row'.bankRefundID = some id

/-- The changes that one step may make to the row of a payment. -/
inductive RowChange : Option PaymentRow → Option PaymentRow → Prop
  | unchanged (slot : Option PaymentRow) : RowChange slot slot
  | inserted (row : PaymentRow) (pending : row.status = PaymentStatus.pending.text) :
      RowChange none (some row)
  | captureKey (row : PaymentRow) (key : GoString)
      (status : row.status = PaymentStatus.authorized.text)
      (unset : row.captureBankOperationKey = none) :
      RowChange (some row) (some { row with captureBankOperationKey := some key })
  | voidKey (row : PaymentRow) (key : GoString)
      (status : row.status = PaymentStatus.authorized.text)
      (unset : row.voidBankOperationKey = none) :
      RowChange (some row) (some { row with voidBankOperationKey := some key })
  | refundKey (row : PaymentRow) (key : GoString)
      (status : row.status = PaymentStatus.captured.text)
      (unset : row.refundBankOperationKey = none) :
      RowChange (some row) (some { row with refundBankOperationKey := some key })
  | moved (row row' : PaymentRow) (status status' : PaymentStatus)
      (before : row.status = status.text) (after : row'.status = status'.text)
      (edge : status' ∈ status.successors) (columns : SameColumns row row')
      (bankIDs : KeepsBankIDs row row') : RowChange (some row) (some row')

/-- A row whose payment can go nowhere. -/
def PaymentRow.Terminal (row : PaymentRow) : Prop :=
  ∃ status ∈ [PaymentStatus.declined, .voided, .expired, .refunded], row.status = status.text

theorem SameColumns.refl (row : PaymentRow) : SameColumns row row :=
  ⟨rfl, rfl, rfl, rfl, rfl, rfl, rfl, rfl⟩

theorem SameColumns.trans {row₁ row₂ row₃ : PaymentRow} (h : SameColumns row₁ row₂)
    (h' : SameColumns row₂ row₃) : SameColumns row₁ row₃ :=
  ⟨h'.id.trans h.id, h'.orderID.trans h.orderID, h'.customerID.trans h.customerID,
    h'.amountCents.trans h.amountCents, h'.currency.trans h.currency,
    h'.authorizationKey.trans h.authorizationKey, h'.cardFingerprint.trans h.cardFingerprint,
    h'.createdAt.trans h.createdAt⟩

theorem KeepsBankIDs.refl (row : PaymentRow) : KeepsBankIDs row row :=
  ⟨fun _ h => h, fun _ h => h, fun _ h => h, fun _ h => h⟩

theorem KeepsBankIDs.trans {row₁ row₂ row₃ : PaymentRow} (h : KeepsBankIDs row₁ row₂)
    (h' : KeepsBankIDs row₂ row₃) : KeepsBankIDs row₁ row₃ :=
  ⟨fun id hid => h'.authorization id (h.authorization id hid),
    fun id hid => h'.capture id (h.capture id hid), fun id hid => h'.void id (h.void id hid),
    fun id hid => h'.refund id (h.refund id hid)⟩

/-- A change keeps a row, with its identity and its bank ids. -/
theorem RowChange.keeps {row : PaymentRow} {slot : Option PaymentRow}
    (h : RowChange (some row) slot) :
    ∃ row', slot = some row' ∧ SameColumns row row' ∧ KeepsBankIDs row row' := by
  cases h with
  | unchanged => exact ⟨row, rfl, .refl row, .refl row⟩
  | captureKey _ key =>
    exact ⟨_, rfl, ⟨rfl, rfl, rfl, rfl, rfl, rfl, rfl, rfl⟩,
      ⟨fun _ h => h, fun _ h => h, fun _ h => h, fun _ h => h⟩⟩
  | voidKey _ key =>
    exact ⟨_, rfl, ⟨rfl, rfl, rfl, rfl, rfl, rfl, rfl, rfl⟩,
      ⟨fun _ h => h, fun _ h => h, fun _ h => h, fun _ h => h⟩⟩
  | refundKey _ key =>
    exact ⟨_, rfl, ⟨rfl, rfl, rfl, rfl, rfl, rfl, rfl, rfl⟩,
      ⟨fun _ h => h, fun _ h => h, fun _ h => h, fun _ h => h⟩⟩
  | moved _ row' _ _ _ _ _ columns bankIDs => exact ⟨row', rfl, columns, bankIDs⟩

/-- A terminal row does not change. -/
theorem RowChange.eq_of_terminal {row : PaymentRow} {slot : Option PaymentRow}
    (h : RowChange (some row) slot) (terminal : row.Terminal) : slot = some row := by
  obtain ⟨status, hmem, hstatus⟩ := terminal
  cases h with
  | unchanged => rfl
  | captureKey _ _ hauthorized =>
    obtain rfl := PaymentStatus.text_injective (hstatus.symm.trans hauthorized)
    simp at hmem
  | voidKey _ _ hauthorized =>
    obtain rfl := PaymentStatus.text_injective (hstatus.symm.trans hauthorized)
    simp at hmem
  | refundKey _ _ hcaptured =>
    obtain rfl := PaymentStatus.text_injective (hstatus.symm.trans hcaptured)
    simp at hmem
  | moved _ row' before _ hbefore _ edge =>
    obtain rfl := PaymentStatus.text_injective (hstatus.symm.trans hbefore)
    simp only [List.mem_cons, List.not_mem_nil, or_false] at hmem
    rcases hmem with rfl | rfl | rfl | rfl <;> cases edge

/-! ## Steps of the ledger as changes of a row -/

variable {service : PaymentService} {s s' : State} {e : Event} {p q : Payment}

theorem SameIdentity.sameColumns (h : SameIdentity p q) : SameColumns (rowOf p) (rowOf q) :=
  ⟨h.id, h.orderID, h.customerID, h.amountCents, h.currency, h.authorizationKey,
    h.cardFingerprint, h.createdAt⟩

/-- A bank id that is set by a move was not set before. -/
private theorem eq_some_of_absent {value : GoString} {slot : Option GoString}
    (absent : value = []) (id : GoString) (h : nullableString value = some id) :
    slot = some id := by
  rw [absent] at h
  cases h

theorem LifecycleStep.rowChange (h : LifecycleStep p q) (wf : p.WellFormed) :
    RowChange (some (rowOf p)) (some (rowOf q)) := by
  have hcolumns := h.sameIdentity.sameColumns
  have hlife := wf.lifecycle
  -- Keys that are set one by one appear in their columns as they are.
  have hkey : ∀ {key : GoString}, Normalized key → nullableString key = some key :=
    fun hkey => by simp [nullableString, hkey.ne_nil]
  -- A move sets at most one bank id, and the table says that it was absent before.
  cases h with
  | captureKey key status unset normalized =>
    have hchange := RowChange.captureKey (rowOf p) key (by simp [rowOf, status])
      (by simp [rowOf, unset])
    rwa [← hkey normalized] at hchange
  | voidKey key status unset normalized =>
    have hchange := RowChange.voidKey (rowOf p) key (by simp [rowOf, status])
      (by simp [rowOf, unset])
    rwa [← hkey normalized] at hchange
  | refundKey key status unset normalized =>
    have hchange := RowChange.refundKey (rowOf p) key (by simp [rowOf, status])
      (by simp [rowOf, unset])
    rwa [← hkey normalized] at hchange
  | authorized bankID expiresAt now status =>
    rw [status] at hlife
    exact .moved _ _ .pending .authorized (by simp [rowOf, status]) rfl (by decide) hcolumns
      ⟨eq_some_of_absent hlife.authorization, fun _ h => h, fun _ h => h, fun _ h => h⟩
  | declined reason now status =>
    rw [status] at hlife
    exact .moved _ _ .pending .declined (by simp [rowOf, status]) rfl (by decide) hcolumns
      ⟨eq_some_of_absent hlife.authorization, fun _ h => h, fun _ h => h, fun _ h => h⟩
  | expired now status =>
    exact .moved _ _ .authorized .expired (by simp [rowOf, status]) rfl (by decide) hcolumns
      ⟨fun _ h => h, fun _ h => h, fun _ h => h, fun _ h => h⟩
  | captured bankID now status =>
    rw [status] at hlife
    exact .moved _ _ .authorized .captured (by simp [rowOf, status]) rfl (by decide) hcolumns
      ⟨fun _ h => h, eq_some_of_absent hlife.capture, fun _ h => h, fun _ h => h⟩
  | voided bankID now status =>
    rw [status] at hlife
    exact .moved _ _ .authorized .voided (by simp [rowOf, status]) rfl (by decide) hcolumns
      ⟨fun _ h => h, fun _ h => h, eq_some_of_absent hlife.void, fun _ h => h⟩
  | refunded bankID now status =>
    rw [status] at hlife
    exact .moved _ _ .captured .refunded (by simp [rowOf, status]) rfl (by decide) hcolumns
      ⟨fun _ h => h, fun _ h => h, fun _ h => h, eq_some_of_absent hlife.refund⟩

theorem Db.LedgerStep.rowChange {db db' : Db} (h : db.LedgerStep db') (sound : db.Sound)
    (id : GoString) : RowChange (db.payments id) (db'.payments id) := by
  have hsame : db'.payments id = db.payments id → RowChange (db.payments id) (db'.payments id) :=
    fun heq => by rw [heq]; exact .unchanged _
  cases h with
  | same payments _ => exact hsame (by rw [payments])
  | insert p fresh pending wf stores =>
    rcases eq_or_ne id p.id with rfl | hne
    · rw [sound.payments_eq, fresh, stores.payments_self]
      exact .inserted _ (by simp [rowOf, pending])
    · exact hsame (stores.payments_of_ne hne)
  | evolve q p current step stores =>
    rcases eq_or_ne id p.id with rfl | hne
    · rw [sound.payments_eq, current, stores.payments_self]
      exact step.rowChange (sound.wellFormed_of_current current)
    · exact hsame (stores.payments_of_ne hne)
  | rewrite p current stores =>
    rcases eq_or_ne id p.id with rfl | hne
    · rw [sound.payments_eq, current, stores.payments_self]
      exact .unchanged _
    · exact hsame (stores.payments_of_ne hne)

/-- Every step changes a row in one of the ways. -/
theorem SystemStep.rowChange (hstep : SystemStep service s e s') (inv : Inv service s)
    (id : GoString) : RowChange (s.db.payments id) (s'.db.payments id) :=
  (hstep.ledgerStep inv).rowChange inv.sound id

/-- What a run keeps of a row. -/
structure RowKept (row row' : PaymentRow) : Prop where
  columns : SameColumns row row'
  bankIDs : KeepsBankIDs row row'
  terminal : row.Terminal → row' = row

/-- What a run keeps of the rows it starts with. -/
theorem row_kept (reachable : Reachable service s)
    (run : Reaches (PaymentGateway.step service) (fun _ _ => True) s s') {id : GoString}
    {row : PaymentRow} (h : s.db.payments id = some row) :
    ∃ row', s'.db.payments id = some row' ∧ RowKept row row' := by
  obtain ⟨clock, hreaches⟩ := reachable
  refine run.invariant (P := fun t => ∃ row', t.db.payments id = some row' ∧ RowKept row row')
    ⟨row, h, .refl row, .refl row, fun _ => rfl⟩ ?_
  rintro t e t' hrun ⟨row₁, hrow₁, hkept⟩ _ htaken
  have hchange := (step_cases htaken).rowChange (inv_of_reaches (hreaches.trans hrun)) id
  rw [hrow₁] at hchange
  obtain ⟨row₂, hrow₂, hcolumns, hbankIDs⟩ := hchange.keeps
  refine ⟨row₂, hrow₂, hkept.columns.trans hcolumns, hkept.bankIDs.trans hbankIDs, ?_⟩
  intro hterminal
  have heq := hkept.terminal hterminal
  rw [heq] at hchange
  rw [hchange.eq_of_terminal hterminal, Option.some_inj] at hrow₂
  exact hrow₂.symm

/-! ## Update times -/

/-- No update time lies in the future, and a marked payment is not older than the stored
version it was read from. -/
structure TimeInv (s : State) : Prop where
  wrote : ∀ p, s.db.Wrote p → p.updatedAt ≤ s.clock
  started : ∀ id attempt request, s.attempts id = some attempt →
    attempt.phase = .claiming (.start request) → request.payment.updatedAt ≤ s.clock
  marked : ∀ id attempt claim, s.attempts id = some attempt → attempt.phase.Marks claim →
    claim.payment.updatedAt ≤ s.clock ∧ ∃ p, s.db.Wrote p ∧ p.id = claim.payment.id ∧
      p.status = attempt.command.operation.expectedStatus ∧ p.updatedAt ≤ claim.payment.updatedAt

/-- Marking a payment sets its update time to the present, if it changes it. -/
theorem Marked.updatedAt_eq {m : Payment} {now : Time} {operation : Operation}
    {answer : BankAnswer} {kind : Option PaymentErrorKind}
    (mark : Marked p now operation answer m kind) : m.updatedAt = now ∨ m = p := by
  cases mark with
  | unknown => exact .inr rfl
  | authorized _ _ _ _ _ hmark => exact .inl ((Payment.markAuthorized_eq_ok.mp hmark).2.2.2.2 ▸ rfl)
  | declined _ _ _ _ _ hmark => exact .inl ((Payment.markDeclined_eq_ok.mp hmark).2.2.2 ▸ rfl)
  | captured _ _ hmark => exact .inl ((Payment.markCaptured_eq_ok.mp hmark).2.2.2 ▸ rfl)
  | voided _ _ hmark => exact .inl ((Payment.markVoided_eq_ok.mp hmark).2.2.2 ▸ rfl)
  | refunded _ _ hmark => exact .inl ((Payment.markRefunded_eq_ok.mp hmark).2.2.2 ▸ rfl)
  | expired _ _ _ _ _ hmark => exact .inl ((Payment.markExpired_eq_ok.mp hmark).2.2 ▸ rfl)

theorem Keyed.updatedAt_eq {request : ExistingPaymentCommandClaimRequest}
    (h : Keyed request p q) : q.updatedAt = p.updatedAt := by
  rw [h.eq]
  cases request.operation <;> rfl

/-- A version written by a step is not from the future. -/
theorem TimeInv.wrote_step (time : TimeInv s) (inv : Inv service s)
    (hstep : SystemStep service s e s') (hwrote : s'.db.Wrote p) : p.updatedAt ≤ s.clock := by
  cases hstep.writeStep inv with
  | nothing _ _ history => exact time.wrote p ((Db.wrote_of_history_eq history p).mp hwrote)
  | inserted id action attempt request running phase fresh stores =>
    rcases stores.wrote_iff.mp hwrote with rfl | hwrote
    · exact time.started id attempt request running phase
    · exact time.wrote p hwrote
  | keyed id action attempt request q q' running phase current _ keyed stores =>
    rcases stores.wrote_iff.mp hwrote with rfl | hwrote
    · rw [keyed.updatedAt_eq]
      exact time.wrote q (inv.sound.wrote_of_current current)
    · exact time.wrote p hwrote
  | completed id action attempt claim result completedAt q running phase current _ _ stores =>
    rcases stores.wrote_iff.mp hwrote with rfl | hwrote
    · exact (time.marked id attempt claim running ⟨result, .inr ⟨completedAt, phase⟩⟩).1
    · exact time.wrote p hwrote

theorem TimeInv.step (time : TimeInv s) (inv : Inv service s) (forward : ClockForward s e)
    (hstep : SystemStep service s e s') : TimeInv s' := by
  have hclock := hstep.clock_le forward
  have hkept : ∀ {p}, s.db.Wrote p → s'.db.Wrote p := (hstep.ledgerStep inv).wrote
  refine ⟨fun p hp => (time.wrote_step inv hstep hp).trans hclock, ?_, ?_⟩
  · intro id attempt' request h hphase
    rcases hstep.attempt_cases h with hold | ⟨command, _, _, rfl⟩ |
      ⟨action, attempt, effect, rfl, running, rule, rfl, rfl⟩
    · exact (time.started id attempt' request hold hphase).trans hclock
    · cases hphase
    · obtain ⟨_, hprepared, hprepare⟩ := rule.of_claiming hphase
      rw [(PaymentService.built_of_prepare hprepare).start_updatedAt]
      exact hclock
  · intro id attempt' claim h hmarks
    rcases hstep.attempt_cases h with hold | ⟨command, _, _, rfl⟩ |
      ⟨action, attempt, effect, rfl, running, rule, rfl, rfl⟩
    · obtain ⟨hle, p, hp, hrest⟩ := time.marked id attempt' claim hold hmarks
      exact ⟨hle.trans hclock, p, hkept hp, hrest⟩
    · obtain ⟨_, hphase | ⟨_, hphase⟩⟩ := hmarks <;> cases hphase
    · rw [rule.command_eq]
      rcases rule.of_marks hmarks with hmarks | ⟨claimed, answer, kind, _, hwaits, heq, hmark⟩
      · obtain ⟨hle, p, hp, hrest⟩ := time.marked id attempt claim running hmarks
        exact ⟨hle.trans hclock, p, hkept hp, hrest⟩
      · have hclaim := (inv.attempts id attempt running).claimFor_of_waits hwaits
        have hread := time.wrote claimed.payment hclaim.wrote
        have hmarked : claimed.payment.updatedAt ≤ claim.payment.updatedAt ∧
            claim.payment.updatedAt ≤ s.clock := by
          rcases hmark.updatedAt_eq with hnow | hsame
          · exact ⟨hnow ▸ hread, hnow.le⟩
          · exact ⟨hsame ▸ le_rfl, hsame ▸ hread⟩
        exact ⟨hmarked.2.trans hclock, claimed.payment, hkept hclaim.wrote, hmark.id_eq.symm,
          hclaim.status, hmarked.1⟩

theorem timeInv_of_reaches {clock : Time}
    (run : Reaches (PaymentGateway.step service) ClockForward (State.initial clock) s) :
    TimeInv s := by
  refine run.invariant ⟨?_, ?_, ?_⟩ fun s e s' run time forward htaken =>
    time.step (inv_of_reaches run) forward (step_cases htaken)
  · rintro p ⟨version, hmem, _⟩
    cases hmem
  · intro id attempt request h
    cases h
  · intro id attempt claim h
    cases h

/-- A step does not set the update time of a row back. -/
theorem TimeInv.updatedAt_le (time : TimeInv s) (inv : Inv service s)
    (hstep : SystemStep service s e s') {id : GoString} (hp : s.db.current id = some p)
    (hq : s'.db.current id = some q) : p.updatedAt ≤ q.updatedAt := by
  have hsame : s'.db.current id = s.db.current id → p.updatedAt ≤ q.updatedAt := by
    intro heq
    rw [heq, hp, Option.some_inj] at hq
    rw [hq]
  cases hstep.writeStep inv with
  | nothing _ _ history => exact hsame (Db.current_of_history_eq history id)
  | inserted _ _ _ request _ _ fresh stores =>
    rcases eq_or_ne id request.payment.id with rfl | hne
    · rw [fresh] at hp
      cases hp
    · exact hsame (stores.current_of_ne hne)
  | keyed _ _ _ request r r' _ _ current _ keyed stores =>
    rcases eq_or_ne id r'.id with rfl | hne
    · rw [stores.current_self, Option.some_inj] at hq
      rw [keyed.id, current, Option.some_inj] at hp
      rw [← hq, ← hp, keyed.updatedAt_eq]
    · exact hsame (stores.current_of_ne hne)
  | completed id' _ attempt claim result completedAt r running phase current status _ stores =>
    rcases eq_or_ne id claim.payment.id with rfl | hne
    · rw [stores.current_self, Option.some_inj] at hq
      rw [current, Option.some_inj] at hp
      subst hp hq
      obtain ⟨_, read, hread, hid, hexpected, hle⟩ :=
        time.marked id' attempt claim running ⟨result, .inr ⟨completedAt, phase⟩⟩
      -- The row has only gained keys since the marked copy was read.
      obtain ⟨r', hr', hevolves⟩ := inv.sound.evolves_current hread
      rw [hid, current, Option.some_inj] at hr'
      subst hr'
      rw [(hevolves.gainsKeys (status.trans hexpected.symm)).rest]
      exact hle
    · exact hsame (stores.current_of_ne hne)

/-- Along a run whose clock does not go backwards no update time is set back. -/
theorem updatedAt_le_of_reaches {clock : Time}
    (hs : Reaches (PaymentGateway.step service) ClockForward (State.initial clock) s)
    (run : Reaches (PaymentGateway.step service) ClockForward s s') {id : GoString}
    {row row' : PaymentRow} (h : s.db.payments id = some row)
    (h' : s'.db.payments id = some row') : row.updatedAt ≤ row'.updatedAt := by
  obtain ⟨p, hp, rfl⟩ := (inv_of_reaches hs).sound.exists_current_of_row h
  obtain ⟨p', hp', hle⟩ : ∃ p', s'.db.current id = some p' ∧ p.updatedAt ≤ p'.updatedAt := by
    refine run.invariant (P := fun t => ∃ p', t.db.current id = some p' ∧
      p.updatedAt ≤ p'.updatedAt) ⟨p, hp, le_rfl⟩ ?_
    rintro t e t' hrun ⟨q, hq, hle⟩ _ htaken
    have hreaches := hs.trans hrun
    have hinv := inv_of_reaches hreaches
    have hstep := step_cases htaken
    have hwrote := (hstep.ledgerStep hinv).wrote (hinv.sound.wrote_of_current hq)
    obtain ⟨q', hq', _⟩ := (hinv.step hstep).sound.evolves_current hwrote
    rw [hinv.sound.id_of_current hq] at hq'
    exact ⟨q', hq', hle.trans ((timeInv_of_reaches hreaches).updatedAt_le hinv hstep hq hq')⟩
  obtain ⟨q', hq', rfl⟩ := (inv_of_reaches (hs.trans run)).sound.exists_current_of_row h'
  rw [hp', Option.some_inj] at hq'
  exact hq' ▸ hle

/-! ## Status changes and completions -/

/-- The snapshot that a record stores is that of the payment in a row. -/
def StoresSnapshot (s : State) (recordKey : Operation × GoString) (row : PaymentRow) : Prop :=
  ∃ record p, s.db.records recordKey = some record ∧ scanPayment row = .ok p ∧
    record.paymentResult = some (newPaymentResult p)

/-- What a completion does: it completes one record, and stores the payment it took the
snapshot of. -/
structure CompletionStep (s s' : State) (recordKey : Operation × GoString) (p q : Payment) :
    Prop where
  completes : ∀ other, CompletesRecord s s' other ↔ other = recordKey
  snapshot : StoresSnapshot s' recordKey (rowOf p)
  before : s.db.current p.id = some q
  transition : p = q ∧ recordKey.1 = .authorizePayment ∧ q.status = .pending ∨ LifecycleMove q p
  stores : s.db.Stores s'.db p

/-- A step that is no completion: no record is completed and no status moves. -/
structure QuietStep (s s' : State) : Prop where
  records : ∀ recordKey, ¬ CompletesRecord s s' recordKey
  statuses : ∀ id p q, s.db.current id = some p → s'.db.current id = some q → q.status = p.status

private theorem not_completesRecord_of_records {recordKey : Operation × GoString}
    (h : s'.db.records recordKey = s.db.records recordKey ∨ s'.db.records recordKey = none) :
    ¬ CompletesRecord s s' recordKey := by
  rintro ⟨before, after, hbefore, hopen, hafter, hcompleted⟩
  rcases h with heq | hnone
  · rw [heq, hbefore, Option.some_inj] at hafter
    rw [← hafter, hopen] at hcompleted
    cases hcompleted
  · rw [hnone] at hafter
    cases hafter

private theorem status_eq_of_history (h : s'.db.history = s.db.history) {id : GoString}
    (hp : s.db.current id = some p) (hq : s'.db.current id = some q) : q.status = p.status := by
  rw [Db.current_of_history_eq h, hp, Option.some_inj] at hq
  rw [hq]

/-- A granted claim opens a record and moves no status. -/
theorem Db.Granted.quietStep {request : ClaimRequest} {claim : PaymentCommandClaim} {now : Time}
    {drawn drawn' : Draws} {command : Command} (grant : s.db.Granted request claim s'.db)
    (sound : s.db.Sound) (built : Built service now drawn command request drawn') :
    QuietStep s s' := by
  obtain ⟨record, hslot, hrecords⟩ := grant.slot built
  constructor
  · rintro recordKey ⟨before, after, hbefore, hopen, hafter, hcompleted⟩
    rcases eq_or_ne recordKey request.base.recordKey with rfl | hne
    · rw [hrecords, Function.update_self, Option.some_inj] at hafter
      rw [← hafter, hslot.inProgress] at hcompleted
      cases hcompleted
    · refine not_completesRecord_of_records (.inl ?_)
        ⟨before, after, hbefore, hopen, hafter, hcompleted⟩
      rw [hrecords, Function.update_of_ne hne]
  · intro id p q hp hq
    cases grant.write sound with
    | nothing _ _ history => exact status_eq_of_history history hp hq
    | inserted request fresh stores =>
      rcases eq_or_ne id request.payment.id with rfl | hne
      · rw [fresh] at hp
        cases hp
      · rw [stores.current_of_ne hne, hp, Option.some_inj] at hq
        rw [hq]
    | keyed request r r' current _ keyed stores =>
      rcases eq_or_ne id r'.id with rfl | hne
      · rw [stores.current_self, Option.some_inj] at hq
        rw [keyed.id, current, Option.some_inj] at hp
        rw [← hq, ← hp, keyed.status]
      · rw [stores.current_of_ne hne, hp, Option.some_inj] at hq
        rw [hq]

/-- A step is a completion or leaves every record's and every payment's status alone. -/
theorem SystemStep.completion_or_quiet (hstep : SystemStep service s e s') (inv : Inv service s) :
    (∃ recordKey p q, CompletionStep s s' recordKey p q) ∨ QuietStep s s' := by
  cases hstep.storeStep with
  | idle _ same =>
    exact .inr ⟨fun _ => not_completesRecord_of_records (.inl (by rw [same])),
      fun _ _ _ => status_eq_of_history (by rw [same])⟩
  | granted id action attempt request claim running phase grant =>
    obtain ⟨_, _, hbuilt⟩ := (inv.attempts id attempt running).built phase
    exact .inr (grant.quietStep inv.sound hbuilt)
  | completed id action attempt claim result completedAt row record running phase completion =>
    -- The completed record keeps a snapshot of the payment that the row becomes.
    have hfor := (inv.attempts id attempt running).markedFor phase
    obtain ⟨q, hq, _, hstatus, htransition, _⟩ :=
      hfor.transition inv.sound completion.found completion.rowStatus
    have hwf := hfor.wellFormed inv.sound completion.found completion.rowStatus
    have hstores := completion.stores inv.sound hfor
    obtain ⟨read, _, _, kind, hclaim, _, hresult⟩ := hfor
    have hop : claim.recordKey.1 = attempt.command.operation := hclaim.operation
    refine .inl ⟨claim.recordKey, claim.payment, q, completion.completesRecord_iff, ?_, hq, ?_,
      hstores⟩
    · refine ⟨Db.completedRecord record result completedAt, claim.payment,
        by rw [completion.after, Db.setRecord_records_self], loadRow_rowOf hwf, ?_⟩
      rw [Db.completedRecord, hresult]
    · refine htransition.imp_left fun hkept => ⟨hkept.1, hop.trans hkept.2, ?_⟩
      rw [hstatus, hkept.2]
      rfl
  | released id action attempt claim err running phase after =>
    refine .inr ⟨fun recordKey => not_completesRecord_of_records ?_,
      fun _ _ _ => status_eq_of_history (by simp [after])⟩
    rw [after]
    exact (s.db.releasePaymentCommand_records_cases claim recordKey).imp_right fun h => h.1
  | cleaned completedBefore scheduled after =>
    refine .inr ⟨fun recordKey => not_completesRecord_of_records ?_,
      fun _ _ _ => status_eq_of_history (by simp [after])⟩
    rw [after]
    exact (s.db.cleanup_records completedBefore recordKey).imp_right fun h => h.1

/-! ## The history -/

/-- What one step does to the payment rows and to the records that account for it. -/
structure StepHistory (s s' : State) : Prop where
  /-- A row changes in one of the allowed ways. -/
  rows : ∀ id, RowChange (s.db.payments id) (s'.db.payments id)
  /-- A status moves only together with one record, which stores the row it moved to. -/
  moves : ∀ id row row', s.db.payments id = some row → s'.db.payments id = some row' →
    row'.status ≠ row.status →
    ∃ recordKey, (∀ other, CompletesRecord s s' other ↔ other = recordKey) ∧
      StoresSnapshot s' recordKey row'
  /-- A record is completed only together with a status, apart from an authorization that
  stays pending. -/
  completions : ∀ recordKey, CompletesRecord s s' recordKey →
    ∃ id row row', s.db.payments id = some row ∧ s'.db.payments id = some row' ∧
      StoresSnapshot s' recordKey row' ∧
      (row'.status ≠ row.status ∨ recordKey.1 = .authorizePayment ∧ row' = row ∧
        row.status = PaymentStatus.pending.text)

theorem SystemStep.stepHistory (hstep : SystemStep service s e s') (inv : Inv service s) :
    StepHistory s s' := by
  have hsound := (inv.step hstep).sound
  refine ⟨hstep.rowChange inv, ?_, ?_⟩
  · intro id row row' hrow hrow' hne
    obtain ⟨r, hr, rfl⟩ := inv.sound.exists_current_of_row hrow
    obtain ⟨r', hr', rfl⟩ := hsound.exists_current_of_row hrow'
    rcases hstep.completion_or_quiet inv with ⟨recordKey, p, q, hcompletion⟩ | hquiet
    · refine ⟨recordKey, hcompletion.completes, ?_⟩
      rcases eq_or_ne id p.id with rfl | hid
      · rw [hcompletion.stores.current_self, Option.some_inj] at hr'
        exact hr' ▸ hcompletion.snapshot
      · rw [hcompletion.stores.current_of_ne hid, hr, Option.some_inj] at hr'
        exact absurd (hr' ▸ rfl) hne
    · exact absurd (congrArg PaymentStatus.text (hquiet.statuses id r r' hr hr')) hne
  · intro recordKey hcompletes
    rcases hstep.completion_or_quiet inv with ⟨other, p, q, hcompletion⟩ | hquiet
    · obtain rfl := (hcompletion.completes recordKey).mp hcompletes
      refine ⟨p.id, rowOf q, rowOf p, by rw [inv.sound.payments_eq, hcompletion.before]; rfl,
        hcompletion.stores.payments_self, hcompletion.snapshot, ?_⟩
      rcases hcompletion.transition with ⟨rfl, hop, hpending⟩ | hmove
      · exact .inr ⟨hop, rfl, by simp [rowOf, hpending]⟩
      · exact .inl fun htext => hmove.status_ne (PaymentStatus.text_injective htext)
    · exact absurd hcompletes (hquiet.records recordKey)

/-- The history of payment rows. Every step changes the rows in the allowed ways and
accounts for each status it moves; every run keeps the identity and the bank ids of a
row and leaves a terminal row alone; and unless the clock goes backwards no update time
is ever set back. -/
theorem payment_row_history (service : PaymentService) (s : State)
    (reachable : Reachable service s) :
    (∀ e s', PaymentGateway.step service s e = some s' → StepHistory s s') ∧
    (∀ s', Reaches (PaymentGateway.step service) (fun _ _ => True) s s' →
      ∀ id row, s.db.payments id = some row →
        ∃ row', s'.db.payments id = some row' ∧ RowKept row row') ∧
    (∀ clock s', Reaches (PaymentGateway.step service) ClockForward (State.initial clock) s →
      Reaches (PaymentGateway.step service) ClockForward s s' →
      ∀ id row row', s.db.payments id = some row → s'.db.payments id = some row' →
        row.updatedAt ≤ row'.updatedAt) := by
  refine ⟨fun e s' htaken => ?_, fun s' run id row hrow => row_kept reachable run hrow, ?_⟩
  · exact (step_cases htaken).stepHistory (inv_of_reachable reachable)
  · intro clock s' hs run id row row' hrow hrow'
    exact updatedAt_le_of_reaches hs run hrow hrow'

/-- A payment about to be authorized: its row moves to authorized with its record. -/
theorem payment_row_history_authorized :
    ∃ s s', Reachable Sample.service s ∧
      PaymentGateway.step Sample.service s (.act 0 .complete) = some s' ∧
      ((s.db.payments Sample.paymentID).map PaymentRow.status,
        (s'.db.payments Sample.paymentID).map PaymentRow.status) =
          (some (ascii "pending"), some (ascii "authorized")) ∧ StepHistory s s' := by
  obtain ⟨s, hs, hproperty⟩ := exists_reachable Sample.service 1 Sample.authorized.dropLast
    (fun s => (PaymentGateway.step Sample.service s (.act 0 .complete)).any fun s' =>
      ((s.db.payments Sample.paymentID).map PaymentRow.status,
        (s'.db.payments Sample.paymentID).map PaymentRow.status) =
          (some (ascii "pending"), some (ascii "authorized")))
    (by decide +kernel)
  obtain ⟨s', htaken, hrows⟩ := (Option.any_eq_true _ _).mp hproperty
  exact ⟨s, s', hs, htaken, by simpa using hrows,
    (payment_row_history Sample.service s hs).1 _ s' htaken⟩

end PaymentGateway
