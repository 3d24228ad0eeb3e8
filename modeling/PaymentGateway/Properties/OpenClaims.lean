/-
# Claims that are left open

A claim is meant to be completed or released by the attempt that holds it. One exit
does neither: when `CompletePaymentCommand` fails, the method returns its error and
leaves the record in progress. It fails without any infrastructure failure when
another command, under another idempotency key, has moved the payment between the
claim and the completion. No cleanup removes such a record.

Every other exit closes the claim, so claims stay owned exactly as long as every
completion finds the payment in the status that its operation expects.
-/

import PaymentGateway.Invariant.Ownership

namespace PaymentGateway

open Lib

variable {service : PaymentService} {s s' : State} {e : Event}

/-- An attempt holds a claim on the record of an operation and key with a fingerprint. -/
def State.Owns (s : State) (id : ℕ) (recordKey : Operation × GoString) (fingerprint : GoString) :
    Prop :=
  ∃ attempt claim, s.Holds id attempt claim ∧ claim.recordKey = recordKey ∧
    claim.requestFingerprint = fingerprint

/-- No record is in progress without an attempt working on it. -/
def State.ClaimsOwned (s : State) : Prop :=
  ∀ recordKey record, s.db.records recordKey = some record → record.status = .inProgress →
    ∃ id, s.Owns id recordKey record.requestFingerprint

/-- An event in which neither the store fails nor an attempt dies. -/
def Event.failureFree : Event → Bool
  | .act _ (.storeFails _) => false
  | .act _ .die => false
  | _ => true

/-- Where an attempt is about to complete a claim that no other attempt holds, its payment
is still in the status that the operation expects, and the completion has a time. -/
def Completable (s : State) : Event → Prop
  | .act id .complete => ∀ attempt claim result completedAt record,
    s.attempts id = some attempt → attempt.phase = .persisting claim result completedAt →
    s.db.records claim.recordKey = some record → record.status = .inProgress →
    record.requestFingerprint = claim.requestFingerprint →
    (∃ other ≠ id, s.Owns other claim.recordKey claim.requestFingerprint) ∨
      completedAt ≠ 0 ∧ ∃ row, s.db.payments claim.payment.id = some row ∧
        row.status = claim.expectedStatus.text
  | _ => True

/-! ## Completions that succeed -/

/-- A completion in time succeeds if it finds the record in progress and the payment in the
expected status. -/
theorem Inv.exists_completed (inv : Inv service s) (records : RecordsInv service s) {id : ℕ}
    {attempt : Attempt} {claim : PaymentCommandClaim} {result : PaymentCommandResult}
    {completedAt : Time} {row : PaymentRow} {record : IdempotencyRecord}
    (running : s.attempts id = some attempt)
    (phase : attempt.phase = .persisting claim result completedAt) (time : completedAt ≠ 0)
    (found : s.db.payments claim.payment.id = some row)
    (rowStatus : row.status = claim.expectedStatus.text)
    (slot : s.db.records claim.recordKey = some record) (inProgress : record.status = .inProgress)
    (fingerprint : record.requestFingerprint = claim.requestFingerprint) :
    ∃ db', s.db.Completed claim result completedAt row record db' := by
  have hfor := (inv.attempts id attempt running).markedFor phase
  have hwf := hfor.wellFormed inv.sound found rowStatus
  obtain ⟨_, _, _, _, _, hrow⟩ := hfor.transition inv.sound found rowStatus
  obtain ⟨_, _, _, kind, _, hmark, rfl⟩ := hfor
  have hcheck := (records _ record slot).check
  refine ⟨_, time, found, rowStatus, ?_, ?_, slot, fingerprint, inProgress, ?_, rfl⟩
  · rw [hrow]
    exact paymentsCheck_rowOf hwf
  · rcases hmark.kind_eq with rfl | rfl
    · nofun
    · intro kind hkind
      cases hkind
      rfl
  · simp only [idempotencyRecordsCheck, inProgress, Bool.and_eq_true] at hcheck
    obtain ⟨⟨hcolumns, _⟩, _⟩ := hcheck
    rcases hmark.kind_eq with rfl | rfl <;>
      simp [idempotencyRecordsCheck, Db.completedRecord, hcolumns]

/-! ## Steps -/

/-- An owner keeps owning, unless it gives its claim up. -/
theorem State.Owns.step {id : ℕ} {recordKey : Operation × GoString} {fingerprint : GoString}
    (h : s.Owns id recordKey fingerprint) (hstep : SystemStep service s e s')
    (kept : ∀ action, e = .act id action → ¬ action.GivesUp) :
    s'.Owns id recordKey fingerprint := by
  obtain ⟨attempt, claim, hholds, hkey, hfingerprint⟩ := h
  obtain ⟨attempt', claim', hholds', _, hsame⟩ := hholds.step hstep kept
  exact ⟨attempt', claim', hholds', hsame.recordKey.trans hkey,
    hsame.fingerprint.trans hfingerprint⟩

/-- The claim of an attempt that owns a record. -/
theorem State.Owns.claim_eq {id : ℕ} {recordKey : Operation × GoString} {fingerprint : GoString}
    (h : s.Owns id recordKey fingerprint) {attempt : Attempt} {claim : PaymentCommandClaim}
    (running : s.attempts id = some attempt) (held : attempt.phase.held = some claim) :
    claim.recordKey = recordKey ∧ claim.requestFingerprint = fingerprint := by
  obtain ⟨attempt', claim', ⟨running', held'⟩, hkey, hfingerprint⟩ := h
  rw [running, Option.some_inj] at running'
  subst running'
  rw [held, Option.some_inj] at held'
  subst held'
  exact ⟨hkey, hfingerprint⟩

theorem State.ClaimsOwned.step (owned : s.ClaimsOwned) (inv : Inv service s)
    (records : RecordsInv service s) (hstep : SystemStep service s e s')
    (smooth : e.failureFree = true) (completable : Completable s e) : s'.ClaimsOwned := by
  intro recordKey record h inProgress
  -- A record that was there before has an owner, which matters only if it gives up.
  have hbefore : s.db.records recordKey = some record →
      (∀ id action, e = .act id action → action.GivesUp →
        s.Owns id recordKey record.requestFingerprint →
        ∃ other ≠ id, s.Owns other recordKey record.requestFingerprint) →
      ∃ id, s'.Owns id recordKey record.requestFingerprint := by
    intro hslot hother
    obtain ⟨id, howns⟩ := owned recordKey record hslot inProgress
    by_cases hgives : ∃ action, e = .act id action ∧ action.GivesUp
    · obtain ⟨action, rfl, hgives⟩ := hgives
      obtain ⟨other, hne, howns'⟩ := hother id action rfl hgives howns
      exact ⟨other, howns'.step hstep fun _ he => by cases he; exact absurd rfl hne⟩
    · exact ⟨id, howns.step hstep fun action he hgives' => hgives ⟨action, he, hgives'⟩⟩
  cases hstep with
  | tick | receive | scheduleCleanup => exact hbefore h fun _ _ he => by cases he
  | runCleanup completedBefore =>
    rcases s.db.cleanup_records completedBefore recordKey with heq | ⟨hnone, _⟩
    · exact hbefore (heq ▸ h) fun _ _ he => by cases he
    · exact absurd (hnone.symm.trans h) nofun
  | act id action attempt effect running rule =>
    cases rule with
    | granted request claim db' phase grant =>
      obtain ⟨_, _, hbuilt⟩ := (inv.attempts id attempt running).built phase
      obtain ⟨record', slot, heq⟩ := grant.slot hbuilt
      have hclaim := grant.claimFor inv.sound hbuilt
      have h : db'.records recordKey = some record := h
      rw [heq] at h
      rcases eq_or_ne recordKey request.base.recordKey with rfl | hne
      · rw [Function.update_self, Option.some_inj] at h
        subst h
        refine ⟨id, _, claim, ⟨Function.update_self .., rfl⟩, ?_, ?_⟩
        · rw [hclaim.recordKey_eq, hbuilt.recordKey_eq]
        · rw [hclaim.fingerprint, slot.fingerprint, hbuilt.base_eq]
      · rw [Function.update_of_ne hne] at h
        exact hbefore h fun _ _ he hgives => by cases he; exact hgives.elim
    | completed claim result completedAt row record' db' phase completion =>
      have h : db'.records recordKey = some record := h
      rw [completion.after] at h
      rcases eq_or_ne recordKey claim.recordKey with rfl | hne
      · rw [Db.setRecord_records_self, Option.some_inj] at h
        subst h
        cases inProgress
      · rw [Db.setRecord_records_of_ne _ _ hne, Db.put_records] at h
        refine hbefore h fun _ _ he _ howns => ?_
        cases he
        exact absurd (howns.claim_eq running (by rw [phase]; rfl)).1.symm hne
    | uncompleted claim result completedAt err phase refusal =>
      -- The attempt gives up without touching the record, so another one has to own it.
      refine hbefore h fun _ _ he _ howns => ?_
      cases he
      obtain ⟨rfl, hfingerprint⟩ := howns.claim_eq running (by rw [phase]; rfl)
      rcases completable attempt claim result completedAt record running phase h inProgress
        hfingerprint.symm with hother | ⟨htime, row, hrow, hstatus⟩
      · exact hfingerprint ▸ hother
      · obtain ⟨db', hcompleted⟩ := inv.exists_completed records running phase htime hrow hstatus h
          inProgress hfingerprint.symm
        rw [Db.completePaymentCommand_eq_ok.mpr ⟨row, record, hcompleted⟩] at refusal
        cases refusal
    | released claim err phase =>
      have h : (s.db.releasePaymentCommand claim).records recordKey = some record := h
      rw [Db.releasePaymentCommand_records] at h
      split_ifs at h with hkey
      · have hcompleted := (Option.filter_eq_some_iff.mp h).2
        rw [inProgress] at hcompleted
        cases hcompleted
      · refine hbefore h fun _ _ he _ howns => ?_
        cases he
        exact absurd (howns.claim_eq running (by rw [phase]; rfl)).1.symm hkey
    | claimFailed | claimLost | completionFailed | completionLost | releaseFailed | died =>
      cases smooth
    | _ => exact hbefore h fun _ _ he hgives => by cases he; exact hgives.elim

/-- A completion that is refused, while no other attempt holds the claim, leaves it open. -/
theorem State.ClaimsOwned.completable (owned : s'.ClaimsOwned)
    (hstep : SystemStep service s e s') : Completable s e := by
  unfold Completable
  split
  · next id =>
    intro attempt claim result completedAt record running phase slot inProgress fingerprint
    obtain ⟨effect, rfl, rule⟩ := hstep.exists_effect running
    cases rule with
    | completed claim' result' completedAt' row record' db' phase' completion =>
      rw [phase] at phase'
      cases phase'
      exact .inr ⟨completion.time, row, completion.found, completion.rowStatus⟩
    | uncompleted _ _ _ err phase' refusal =>
      obtain ⟨other, attempt', claim', ⟨running', held'⟩, hkey, hfingerprint⟩ :=
        owned claim.recordKey record slot inProgress
      have hne : other ≠ id := by
        rintro rfl
        rw [State.attempts_after_self, Option.some_inj] at running'
        subst running'
        cases held'
      rw [State.attempts_after_of_ne s _ hne] at running'
      exact .inl ⟨other, hne, attempt', claim', ⟨running', held'⟩, hkey,
        hfingerprint.trans fingerprint⟩
  · trivial

/-- **When no claim is left open.** In a run without infrastructure failures, every record in
progress has an attempt working on it as long as every completion of a claim that only its
attempt holds finds the payment in the expected status; and the first completion that does
not leaves a record in progress that nobody works on. -/
theorem claims_owned_iff_completable (service : PaymentService) (clock : Time) (s : State)
    (run : Reaches (PaymentGateway.step service)
      (fun s e => e.failureFree = true ∧ Completable s e) (State.initial clock) s) :
    s.ClaimsOwned ∧ ∀ e s', e.failureFree = true → PaymentGateway.step service s e = some s' →
      (s'.ClaimsOwned ↔ Completable s e) := by
  have owned : s.ClaimsOwned := by
    refine run.invariant (fun _ _ h => by cases h) fun s e s' before owned allowed taken => ?_
    exact owned.step (inv_of_reaches before) (recordsInv_of_reaches before) (step_cases taken)
      allowed.1 allowed.2
  refine ⟨owned, fun e s' smooth taken => ⟨fun h => h.completable (step_cases taken), ?_⟩⟩
  exact owned.step (inv_of_reaches run) (recordsInv_of_reaches run) (step_cases taken) smooth

/-- A check for completable steps, which asks it of every completion. -/
def completableCheck (s : State) : Event → Bool
  | .act id .complete => (s.attempts id).all fun attempt => match attempt.phase with
      | .persisting claim _ completedAt => completedAt ≠ 0 ∧
          (s.db.payments claim.payment.id).any (·.status = claim.expectedStatus.text)
      | _ => true
  | e => e.failureFree

theorem completable_of_check (s : State) (e : Event) (h : completableCheck s e = true) :
    e.failureFree = true ∧ Completable s e := by
  cases e with
  | act id action =>
    cases action with
    | complete =>
      refine ⟨rfl, fun attempt claim result completedAt record running phase _ _ _ => .inr ?_⟩
      simp only [completableCheck, running, Option.all_some, phase] at h
      obtain ⟨htime, hrow⟩ := of_decide_eq_true h
      obtain ⟨row, found, hstatus⟩ := (Option.any_eq_true _ _).mp hrow
      exact ⟨htime, row, found, of_decide_eq_true hstatus⟩
    | _ => exact ⟨h, trivial⟩
  | _ => exact ⟨h, trivial⟩

/-- An authorization that was completed, and a capture whose request was sent: the record of the
capture is in progress, and its attempt works on it. -/
theorem claims_owned_iff_completable_sent :
    ∃ s, Reaches (PaymentGateway.step Sample.service)
        (fun s e => e.failureFree = true ∧ Completable s e) (State.initial 1) s ∧
      (s.db.records (.authorizePayment, ascii "k0")).any (·.status = .completed) = true ∧
      (s.db.records (.capturePayment, ascii "k1")).any (·.status = .inProgress) = true ∧
      s.ClaimsOwned := by
  obtain ⟨s, hs, hproperty⟩ := exists_reaches_of_execWhere completable_of_check
    (Sample.authorized ++ Sample.call 1 (Sample.capture (ascii "k1") (by decide)))
    (show (execWhere (PaymentGateway.step Sample.service) _ (State.initial 1) _).any (fun s =>
      (s.db.records (.authorizePayment, ascii "k0")).any (·.status = .completed) &&
        (s.db.records (.capturePayment, ascii "k1")).any (·.status = .inProgress)) = true
      by decide +kernel)
  obtain ⟨hcompleted, hopen⟩ := Bool.and_eq_true_iff.mp hproperty
  exact ⟨s, hs, hcompleted, hopen, (claims_owned_iff_completable Sample.service 1 s hs).1⟩

/-- Only received attempts are there. -/
theorem attempts_eq_none_of_reaches {clock : Time} {bound id : ℕ}
    (run : Reaches (PaymentGateway.step service)
      (fun _ e => ∀ other command, e = .receive other command → other < bound)
      (State.initial clock) s) (h : bound ≤ id) : s.attempts id = none := by
  refine run.invariant (P := fun s => s.attempts id = none) rfl ?_
  intro s e s' _ hnone allowed taken
  cases hattempt : s'.attempts id with
  | none => rfl
  | some attempt =>
    rcases (step_cases taken).attempt_cases hattempt with hold | ⟨command, rfl, _⟩ |
      ⟨_, _, _, _, running, _⟩
    · exact absurd (hnone.symm.trans hold) nofun
    · exact absurd (allowed id command rfl) (by omega)
    · exact absurd (hnone.symm.trans running) nofun

/-- Nothing fails, no time passes, and only attempts below a bound are received. -/
def Event.smoothBelow (bound : ℕ) : Event → Bool
  | .tick _ => false
  | .receive id _ => decide (id < bound)
  | e => e.failureFree

theorem Event.of_smoothBelow {bound : ℕ} {e : Event} (h : e.smoothBelow bound = true) :
    (e.failureFree = true ∧ ∀ clock, e ≠ .tick clock) ∧
      ∀ other command, e = .receive other command → other < bound := by
  cases e with
  | tick => cases h
  | receive id command =>
    refine ⟨⟨rfl, fun _ he => by cases he⟩, fun _ _ he => ?_⟩
    cases he
    exact of_decide_eq_true h
  | act | scheduleCleanup | runCleanup =>
    exact ⟨⟨h, fun _ he => by cases he⟩, fun _ _ he => by cases he⟩

/-- What holds of the attempts below a bound holds of all attempts of such a run. -/
theorem forall_attempts_of_smoothBelow {clock : Time} {bound : ℕ} {P : Attempt → Prop}
    (run : Reaches (PaymentGateway.step service)
      (fun _ e => (e.failureFree = true ∧ ∀ clock, e ≠ .tick clock) ∧
        ∀ other command, e = .receive other command → other < bound) (State.initial clock) s)
    (h : ∀ id < bound, ∀ attempt, s.attempts id = some attempt → P attempt) :
    ∀ id attempt, s.attempts id = some attempt → P attempt := by
  intro id attempt hattempt
  by_cases hid : id < bound
  · exact h id hid attempt hattempt
  · have hnone := attempts_eq_none_of_reaches (run.mono fun _ _ h => h.2) (not_lt.mp hid)
    exact absurd (hnone.symm.trans hattempt) nofun

/-- Two captures of one payment under different idempotency keys. Both are granted, and both
are answered with the one capture that the bank made; the first is completed, and the second
fails with a status conflict. Its record stays in progress, although every attempt has
returned, no time has passed and nothing has failed. -/
theorem second_capture_leaves_claim_open :
    ∃ s, Reaches (PaymentGateway.step Sample.service)
        (fun _ e => e.failureFree = true ∧ ∀ clock, e ≠ .tick clock) (State.initial 1) s ∧
      (∀ id attempt, s.attempts id = some attempt →
        ∃ outcome, attempt.phase = .returned outcome) ∧
      ¬ s.ClaimsOwned := by
  let captured : BankAnswer := .capture (ascii "cap-1")
  obtain ⟨s, hs, hproperty⟩ := exists_reaches_of_execWhere
    (fun _ _ h => Event.of_smoothBelow h)
    (Sample.authorized ++ Sample.call 1 (Sample.capture (ascii "k1") (by decide)) ++
      Sample.call 2 (Sample.capture (ascii "k2") (by decide)) ++ Sample.finish 1 captured ++
      Sample.finish 2 captured)
    (show (execWhere (PaymentGateway.step Sample.service) (fun _ e => e.smoothBelow 3)
      (State.initial 1) _).any (fun s =>
        (s.db.records (.capturePayment, ascii "k2")).any (·.status = .inProgress) ∧
          ∀ id < 3, (s.attempts id).any (·.phase.isReturned)) = true by decide +kernel)
  obtain ⟨hrecord, hreturned⟩ := of_decide_eq_true hproperty
  have hall : ∀ id attempt, s.attempts id = some attempt →
      ∃ outcome, attempt.phase = .returned outcome := by
    refine forall_attempts_of_smoothBelow hs fun id hid attempt hattempt => ?_
    have hphase := hreturned id hid
    rw [hattempt] at hphase
    exact Phase.exists_of_isReturned hphase
  refine ⟨s, hs.mono fun _ _ h => h.1, hall, fun howned => ?_⟩
  obtain ⟨record, hslot, hopen⟩ := (Option.any_eq_true _ _).mp hrecord
  obtain ⟨id, attempt, claim, ⟨running, held⟩, _⟩ :=
    howned _ record hslot (of_decide_eq_true hopen)
  obtain ⟨outcome, hphase⟩ := hall id attempt running
  rw [hphase] at held
  cases held

end PaymentGateway
