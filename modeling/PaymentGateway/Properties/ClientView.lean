/-
# What a client is told

A command that succeeds tells its client the status and the amount of a payment. The
payment was stored as it is told, at the time it is told or, if a completed command is
replayed, some time before. What the client was told of the money is so at the bank: a
payment that was called captured has a captured hold of its amount, which is at most
refunded later, and a voided or refunded one has a voided or refunded hold. The hold of a
payment that was called expired is not captured; it is open, or the bank has voided it. Of a
payment that was called authorized only the hold and its amount are certain.
-/

import PaymentGateway.Properties.Composition
import PaymentGateway.Invariant.Records

namespace PaymentGateway

open Lib

variable {service : PaymentService} {s s' : State} {e : Event} {p q : Payment}

/-! ## Results are stored payments -/

/-- A result tells of a stored version of a payment. -/
def Db.Told (db : Db) (result : PaymentResult) : Prop :=
  ∃ p, db.Wrote p ∧ newPaymentResult p = result

theorem Db.Told.mono {db db' : Db} {result : PaymentResult} (h : db.Told result)
    (wrote : ∀ {p}, db.Wrote p → db'.Wrote p) : db'.Told result := by
  obtain ⟨p, hp, rfl⟩ := h
  exact ⟨p, wrote hp, rfl⟩

/-- The result that a command has returned. -/
def Phase.told? : Phase → Option PaymentCommandResult
  | .returned outcome => outcome.toOption
  | _ => none

theorem Phase.returned_of_told? {phase : Phase} {result : PaymentCommandResult}
    (h : phase.told? = some result) : phase = .returned (.ok result) := by
  cases phase with
  | returned outcome =>
    cases outcome with
    | error err => cases h
    | ok told =>
      cases h
      rfl
  | _ => cases h

/-- The results in the records and those that were returned. -/
structure ToldInv (s : State) : Prop where
  recorded : ∀ recordKey record result, s.db.records recordKey = some record →
    record.paymentResult = some result → s.db.Told result
  returned : ∀ id attempt result, s.attempts id = some attempt →
    attempt.phase = .returned (.ok result) → s.db.Told result.payment

theorem ToldInv.recorded_step (told : ToldInv s) (inv : Inv service s)
    (hstep : SystemStep service s e s') {recordKey : Operation × GoString}
    {record : IdempotencyRecord} {result : PaymentResult}
    (h : s'.db.records recordKey = some record) (hresult : record.paymentResult = some result) :
    s'.db.Told result := by
  have hwrote : ∀ {p}, s.db.Wrote p → s'.db.Wrote p := (hstep.ledgerStep inv).wrote
  have hrecord := hstep.recordStep inv recordKey
  generalize hbefore : s.db.records recordKey = before at hrecord
  rw [h] at hrecord
  cases hrecord with
  | kept => exact (told.recorded recordKey record result hbefore hresult).mono hwrote
  | granted id action attempt request claim _ _ running phase _ _ _ _ slotGrant =>
    generalize claim.recovered = recovered at slotGrant
    cases slotGrant with
    | acquired => cases hresult
    | recovered record _ _ =>
      exact (told.recorded recordKey record result hbefore hresult).mono hwrote
  | completed id action attempt claim made completedAt row record running phase completion =>
    -- The record takes the result that was made of the payment which is stored with it.
    have hfor := (inv.attempts id attempt running).markedFor phase
    have hstores := completion.stores inv.sound hfor
    obtain ⟨_, _, _, _, _, _, rfl⟩ := hfor
    cases hresult
    exact ⟨claim.payment, hstores.wrote_iff.mpr (.inl rfl), rfl⟩

theorem ToldInv.returned_step (told : ToldInv s) (inv : Inv service s)
    (hstep : SystemStep service s e s') {id : ℕ} {attempt' : Attempt}
    {result : PaymentCommandResult} (running' : s'.attempts id = some attempt')
    (phase' : attempt'.phase = .returned (.ok result)) : s'.db.Told result.payment := by
  have hwrote : ∀ {p}, s.db.Wrote p → s'.db.Wrote p := (hstep.ledgerStep inv).wrote
  rcases hstep.attempt_cases running' with hkept | ⟨command, _, _, rfl⟩ |
    ⟨action, attempt, effect, rfl, running, rule, rfl, rfl⟩
  · exact (told.returned id attempt' result hkept phase').mono hwrote
  · cases phase'
  · cases rule with
    | replayed request replayed phase _ replay =>
      obtain ⟨record, hrecord, -, -, hstored⟩ := replay
      have hpayment := paymentResult_of_storedResult hstored
      have houtcome : replayPaymentCommand replayed = .ok result := Phase.returned.inj phase'
      unfold replayPaymentCommand at houtcome
      split at houtcome
      · cases houtcome
        exact told.recorded _ record _ hrecord hpayment
      · cases houtcome
    | completed claim made completedAt row record db' phase completion =>
      have houtcome : completedOutcome made = .ok result := Phase.returned.inj phase'
      unfold completedOutcome at houtcome
      split at houtcome
      · cases houtcome
        have hfor := (inv.attempts id attempt running).markedFor phase
        have hstores := completion.stores inv.sound hfor
        obtain ⟨_, _, _, _, _, _, rfl⟩ := hfor
        exact ⟨claim.payment, hstores.wrote_iff.mpr (.inl rfl), rfl⟩
      · cases houtcome
    | _ => cases phase'

theorem toldInv_of_reaches {guard : State → Event → Prop} {clock : Time}
    (run : Reaches (step service) guard (State.initial clock) s) : ToldInv s := by
  refine run.invariant ⟨?_, ?_⟩ fun s e s' before told _ taken => ?_
  · intro _ _ _ h
    cases h
  · intro _ _ _ h
    cases h
  · have inv := inv_of_reaches before
    have hstep := step_cases taken
    exact ⟨fun _ _ _ => told.recorded_step inv hstep, fun _ _ _ => told.returned_step inv hstep⟩

/-! ## What became of a payment -/

/-- Voided, expired and refunded payments stay what they are. -/
theorem Evolves.eq_of_terminal (h : Evolves p q)
    (terminal : p.status = .voided ∨ p.status = .expired ∨ p.status = .refunded) : q = p := by
  rcases Relation.ReflTransGen.cases_head h with rfl | ⟨_, hstep, -⟩
  · rfl
  · obtain ⟨hvoided, hexpired, hrefunded⟩ := hstep.status_ne_of_terminal
    exact absurd terminal (by simp [hvoided, hexpired, hrefunded])

namespace MockBank

/-- What a hold may be when its payment was told to have a status. An expired payment may stand
for a voided hold, and an authorized one for a hold in any state, as it may have been settled
since. -/
def ToldOf : PaymentStatus → HoldState → Prop
  | .captured, state => state = .captured ∨ state = .refunded
  | .voided, state => state = .voided
  | .refunded, state => state = .refunded
  | .expired, state => state = .open ∨ state = .voided
  | .pending, _ | .declined, _ | .authorized, _ => True

theorem Shows.state_of_status {state : HoldState} (h : Shows (rowOf q) state) :
    (q.status = .captured → state = .captured ∨ state = .refunded) ∧
    (q.status = .voided → state = .voided) ∧ (q.status = .refunded → state = .refunded) ∧
    (q.status = .expired → state = .open ∨ state = .voided) := by
  have htext : ∀ {status}, (rowOf q).status = PaymentStatus.text status → q.status = status :=
    fun heq => PaymentStatus.text_injective heq
  cases state with
  | «open» =>
    rcases h with h | h <;> simp [htext h]
  | captured =>
    rcases h with h | ⟨h, -⟩ <;> simp [htext h]
  | voided =>
    rcases h with h | h | ⟨h, -⟩ <;> simp [htext h]
  | refunded =>
    rcases h with h | ⟨h, -⟩ <;> simp [htext h]

theorem toldOf_of_shows {state : HoldState} (evolves : Evolves p q)
    (shows : Shows (rowOf q) state) : ToldOf p.status state := by
  obtain ⟨hcaptured, hvoided, hrefunded, hexpired⟩ := shows.state_of_status
  cases hstatus : p.status with
  | pending | declined | authorized => trivial
  | captured =>
    rcases (evolves.bankCaptureID_eq (.inl hstatus)).2 with hq | hq
    · exact hcaptured hq
    · exact .inr (hrefunded hq)
  | voided =>
    obtain rfl := evolves.eq_of_terminal (.inl hstatus)
    exact hvoided hstatus
  | expired =>
    obtain rfl := evolves.eq_of_terminal (.inr (.inl hstatus))
    exact hexpired hstatus
  | refunded =>
    obtain rfl := evolves.eq_of_terminal (.inr (.inr hstatus))
    exact hrefunded hstatus

/-- The run of the sample in which the answer to the capture is heard. -/
def Sample.capturedHeard : List NetEvent :=
  Sample.captureCommitted ++ [.serve 1 (.store false), .serve 1 .respond] ++
    (PaymentGateway.Sample.finish 1 (.capture (formatCaptureID (Sample.uuid 3)))).map .gateway

namespace Net

variable {d : Deployment} {start : Db} {net : Net}

/-- **What a client is told of its money is so at the bank.** While the drawn keys are distinct, a
command that returned a payment which is not pending or declined told of a stored payment with a
hold at the bank. The hold has the amount that was told. If captured was told, it is captured or
refunded; if voided or refunded was told, it is that; if expired was told, it is open or
voided. -/
theorem told_is_done (h : Reachable d start net) (empty : start.transactions = [])
    (distinct : d.service.KeysDistinct net.gateway.drawn.bankOperationKeys) {id : ℕ}
    {attempt : Attempt} {result : PaymentCommandResult} {status : PaymentStatus}
    (running : net.gateway.attempts id = some attempt)
    (returned : attempt.phase = .returned (.ok result))
    (told : result.payment.status = status.text) (decided : status ≠ .pending)
    (approved : status ≠ .declined) :
    ∃ row, net.gateway.db.payments result.payment.id = some row ∧
      ∃ hold ∈ net.bank.sessions.db.book,
        row.bankAuthorizationID = some (formatAuthorizationID hold.id) ∧
        hold.amount = result.payment.amountCents ∧ ToldOf status hold.state := by
  have c := h.coherent empty distinct
  obtain ⟨_, run⟩ := h.gateway
  obtain ⟨p, hwrote, hresult⟩ :=
    (toldInv_of_reaches run).returned id attempt result running returned
  rw [← hresult] at told ⊢
  obtain rfl : p.status = status := PaymentStatus.text_injective told
  obtain ⟨q, hq, hevolves⟩ := c.gateway.sound.evolves_current hwrote
  -- The payment has kept the authorization it had when it was told.
  have hset := (c.gateway.sound.wellFormed_of_wrote hwrote).set_of_status.1 decided approved
  have hnamed : q.bankAuthorizationID ≠ [] :=
    (hevolves.bankAuthorizationID_eq decided).1 ▸ hset
  obtain ⟨hold, hmem, hid, hamount⟩ := c.hold_of_payment hq hnamed
  have hsettled := (c.inv.bank.reachable.sound empty).settled_of_mem_book hmem
  refine ⟨rowOf q, by rw [c.gateway.sound.payments_eq]; exact congrArg (Option.map rowOf) hq, hold,
    hmem, (if_neg hnamed).trans (congrArg some hid),
    hamount.trans hevolves.sameIdentity.amountCents,
    toldOf_of_shows hevolves (c.shows hq hid hsettled)⟩

/-- The capture of the sample run. -/
theorem told_is_done_sample : ∃ net attempt result, Reachable Sample.deployment Sample.db net ∧
    net.gateway.attempts 1 = some attempt ∧ attempt.phase = .returned (.ok result) ∧
    result.payment.status = PaymentStatus.text .captured ∧
    ∃ hold ∈ net.bank.sessions.db.book, hold.amount = result.payment.amountCents ∧
      (hold.state = .captured ∨ hold.state = .refunded) := by
  obtain ⟨net, hnet, hproperty⟩ := Sample.exists_net (fun net =>
    net.gateway.drawn.bankOperationKeys = 2 && (net.gateway.attempts 1).any fun attempt =>
      attempt.phase.told?.any (·.payment.status = PaymentStatus.text .captured))
    Sample.capturedHeard (by decide +kernel)
  rw [Bool.and_eq_true, decide_eq_true_eq] at hproperty
  obtain ⟨attempt, hrunning, hany⟩ := (Option.any_eq_true _ _).mp hproperty.2
  obtain ⟨result, htold, hcaptured⟩ := (Option.any_eq_true _ _).mp hany
  have hphase := Phase.returned_of_told? htold
  have hstatus := of_decide_eq_true hcaptured
  obtain ⟨row, -, hold, hmem, -, hamount, hstate⟩ := told_is_done hnet rfl
    (hproperty.1 ▸ Sample.keysDistinct_two) hrunning hphase hstatus (by decide) (by decide)
  exact ⟨net, attempt, result, hnet, hrunning, hphase, hstatus, hold, hmem, hamount, hstate⟩

end Net

end MockBank

end PaymentGateway
