/-
# Stored rows are legal and readable

Three descriptions of a legal payment have to agree: the mutators of the domain
type, the checks of `LoadPayment`, and the constraints of the payments table. On
every row that any run writes they do: the constraints accept it, so no write is
refused by them, and both read paths return the payment it was written from.
-/

import PaymentGateway.Invariant.Attempts

namespace PaymentGateway

open Lib

variable {service : PaymentService} {db : Db} {command : Command} {claim : PaymentCommandClaim}
  {result : PaymentCommandResult} {p : Payment}

/-- The error of a store method whose write the constraints of the table refused. -/
def checkRefusal : GoError := newInternalPaymentError .checkViolation

namespace Db

theorem writePayment_of_check {row : PaymentRow} (check : paymentsCheck row = true) :
    db.writePayment p row = .ok (db.put ⟨p, row⟩) := by
  rw [writePayment, rejectIf_of_not _ (by simp [check]), ok_bind]
  rfl

/-- The constraints accept the row of a well-formed payment. -/
theorem insertPayment_ne_checkViolation (wf : p.WellFormed) :
    db.insertPayment p ≠ .error .checkViolation := by
  rw [insertPayment, writePayment_of_check (paymentsCheck_rowOf wf)]
  intro h
  by_cases htaken : db.payments p.id ≠ none
  · rw [rejectIf_of _ htaken] at h
    cases h
  · rw [rejectIf_of_not _ htaken] at h
    cases h

/-- The constraints accept a row whose key column was set. -/
theorem Sound.updateKeyColumn_ne_checkRefusal (sound : db.Sound) {p' : Payment}
    {change : PaymentRow → PaymentRow} (current : db.current p'.id = some p)
    (step : LifecycleStep p p') (hchange : change (rowOf p) = rowOf p') :
    db.updateKeyColumn p' change ≠ .error checkRefusal := by
  have hwf := step.wellFormed (sound.wellFormed_of_current current)
  intro h
  rw [updateKeyColumn, sound.payments_eq, current, Option.map_some] at h
  dsimp only at h
  rw [hchange, writePayment_of_check (paymentsCheck_rowOf hwf)] at h
  split_ifs at h <;> cases h

theorem Sound.ensureBankOperationKey_ne_checkRefusal (sound : db.Sound)
    (current : db.current p.id = some p) (request : ExistingPaymentCommandClaimRequest) :
    db.ensureBankOperationKey p request ≠ .error checkRefusal := by
  have hensure := db.ensureKey request p
  generalize db.ensureBankOperationKey p request = reply at hensure
  cases hensure with
  | update p' change keyed column =>
    exact sound.updateKeyColumn_ne_checkRefusal (keyed.id.symm ▸ current) keyed.step column
  | present | refused | unknown =>
    intro h
    cases h

/-- The constraints accept the row that a completion writes. -/
theorem Sound.persistPaymentTransition_ne_checkRefusal (sound : db.Sound)
    (hfor : MarkedFor service db command claim result) :
    db.persistPaymentTransition claim.payment claim.expectedStatus ≠ .error checkRefusal := by
  unfold persistPaymentTransition
  intro h
  cases hrow : db.payments claim.payment.id with
  | none =>
    rw [findPaymentByID, hrow] at h
    cases h
  | some row =>
    rw [hrow] at h
    dsimp only at h
    split_ifs at h with hstatus
    · obtain ⟨_, _, _, _, _, htransition⟩ := hfor.transition sound hrow hstatus
      have hwf := hfor.wellFormed sound hrow hstatus
      rw [htransition, writePayment_of_check (paymentsCheck_rowOf hwf)] at h
      cases h
    · obtain ⟨q, hq, rfl⟩ := sound.exists_current_of_row hrow
      rw [sound.findPaymentByID_eq_ok.mpr hq] at h
      cases h

end Db

/-- No write that an attempt is about to make is refused by the constraints of the
payments table. -/
def Attempt.WritesAccepted (db : Db) (attempt : Attempt) : Prop :=
  match attempt.phase with
  | .claiming (.start request) => ∀ slot,
    (db.setRecord request.recordKey slot).insertPayment request.payment ≠ .error .checkViolation
  | .claiming (.existing request) => ∀ slot payment,
    db.findPaymentByID request.paymentID = .ok payment →
    (db.setRecord request.recordKey slot).ensureBankOperationKey payment request ≠
      .error checkRefusal
  | .persisting claim _ _ =>
    db.persistPaymentTransition claim.payment claim.expectedStatus ≠ .error checkRefusal
  | _ => True

theorem Attempt.Inv.writesAccepted {attempt : Attempt} (inv : attempt.Inv service db)
    (sound : db.Sound) : attempt.WritesAccepted db := by
  unfold Attempt.WritesAccepted
  split
  · next request hphase =>
    obtain ⟨_, _, hbuilt⟩ := inv.built hphase
    exact fun slot => Db.insertPayment_ne_checkViolation hbuilt.start_payment.1
  · next request hphase =>
    intro slot payment hfound
    have hcurrent := sound.findPaymentByID_eq_ok.mp hfound
    rw [← sound.id_of_current hcurrent] at hcurrent
    exact (sound.setRecord _ slot).ensureBankOperationKey_ne_checkRefusal hcurrent request
  · next claim result completedAt hphase =>
    exact sound.persistPaymentTransition_ne_checkRefusal (inv.markedFor hphase)
  · trivial

/-- Every row that a run writes is legal and can be read. The constraints of the table
accept it and both read paths return the payment it was written from; what the table
holds is such a row; and the constraints refuse no write that an attempt is about to
make. -/
theorem stored_rows_legal (service : PaymentService) (s : State)
    (reachable : Reachable service s) :
    (∀ version ∈ s.db.history, paymentsCheck version.row = true ∧
      loadRow version.payment.id version.row = .ok version.payment ∧
      scanPayment version.row = .ok version.payment) ∧
    (∀ id row, s.db.payments id = some row → ∃ version ∈ s.db.history, version.row = row ∧
      version.payment.id = id ∧ s.db.findPaymentByID id = .ok version.payment) ∧
    ∀ id attempt, s.attempts id = some attempt → attempt.WritesAccepted s.db := by
  have inv := inv_of_reachable reachable
  refine ⟨fun version hmem => ?_, fun id row hrow => ?_, fun id attempt hattempt => ?_⟩
  · have hwf := inv.sound.wellFormed version hmem
    have hload := loadRow_rowOf hwf
    rw [inv.sound.encoded version hmem]
    exact ⟨paymentsCheck_rowOf hwf, hload, hload⟩
  · rw [inv.sound.newest] at hrow
    obtain ⟨version, hlatest, rfl⟩ := Option.map_eq_some_iff.mp hrow
    have hid : version.id = id := key_of_latest hlatest
    refine ⟨version, mem_of_latest hlatest, rfl, hid, ?_⟩
    rw [inv.sound.findPaymentByID_eq_ok, Db.current, hlatest]
    rfl
  · exact (inv.attempts id attempt hattempt).writesAccepted inv.sound

/-- A payment whose capture is about to be stored: three versions of it were written. -/
theorem stored_rows_legal_capturing :
    ∃ s, Reachable Sample.service s ∧ 3 ≤ s.db.history.length ∧
      (∀ version ∈ s.db.history, paymentsCheck version.row = true) ∧
      ∀ id attempt, s.attempts id = some attempt → attempt.WritesAccepted s.db := by
  obtain ⟨s, hs, hproperty⟩ := exists_reachable Sample.service 1
    (Sample.authorized ++ Sample.call 1 (Sample.capture (ascii "k1") (by decide)) ++
      (Sample.finish 1 (.capture (ascii "cap-1"))).dropLast)
    (fun s => 3 ≤ s.db.history.length) (by decide +kernel)
  have hlegal := stored_rows_legal Sample.service s hs
  exact ⟨s, hs, of_decide_eq_true hproperty, fun version hmem => (hlegal.1 version hmem).1,
    hlegal.2.2⟩

end PaymentGateway
