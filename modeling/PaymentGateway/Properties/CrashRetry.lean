/-
# Crash and retry

A client that loses the answer to a command sends the command again, under the same
idempotency key, as often as it takes. Earlier attempts may have been cut off
anywhere: before or after their claim, before or after the bank did its part, with a
completion or a release that failed. The attempt that is not cut off finds no record,
an old one in progress or a completed one, and acquires, recovers or replays; it then
returns, and leaves the payment, as a single attempt would have done that was never
interrupted. The two may differ in times and in which bank operation key was drawn.
-/

import PaymentGateway.Invariant.Progress
import PaymentGateway.Properties.OpenClaims
import PaymentGateway.Properties.Recovery
import PaymentGateway.Properties.Replay

namespace PaymentGateway

open Lib

variable {service : PaymentService} {command : Command} {answer : BankAnswer} {p₀ : Payment}
  {paymentID : GoString} {s s' : State} {e : Event} {id : ℕ} {attempt : Attempt}

/-! ## Claims that must be answered -/

section Claims

variable {now : Time} {drawn drawn' : Draws} {db : Db} {request : ClaimRequest}

/-- The record that a new claim inserts satisfies the constraints of its table. -/
theorem Built.recordCheck (built : Built service now drawn command request drawn')
    (generates : service.Generates) (valid : validatePaymentID paymentID = .ok ()) :
    idempotencyRecordsCheck request.base.recordKey (newRecord request.base paymentID) = true := by
  have hoperation : notBlank command.operation.text = true := by
    cases command.operation <;> decide
  have hkey : notBlank command.idempotencyKey = true := command.idempotencyKey_valid.notBlank
  have hfingerprint : notBlank (service.requestFingerprint command) = true :=
    notBlank_of_trimSpace (generates.digests _)
  have hpattern := matchesPattern_of_validatePaymentID valid
  rw [built.base_eq]
  by_cases hnil : paymentID = []
  · simp [idempotencyRecordsCheck, newRecord, PaymentCommandClaimRequest.recordKey, hoperation,
      hkey, hfingerprint, hnil]
  · simp [idempotencyRecordsCheck, newRecord, PaymentCommandClaimRequest.recordKey, hoperation,
      hkey, hfingerprint, nullableString, hnil, hpattern]

/-- A payment in the status that the command expects has the operation's key or gets it. -/
theorem Built.exists_ensured {request : ExistingPaymentCommandClaimRequest} {p : Payment}
    (built : Built service now drawn command (.existing request) drawn')
    (generates : service.Generates) (sound : db.Sound) (current : db.current p.id = some p)
    (status : p.status = command.operation.expectedStatus) :
    ∃ p' db', db.ensureBankOperationKey p request = .ok (p', db') := by
  have hoperation : request.operation = command.operation :=
    congrArg PaymentCommandClaimRequest.operation built.base_eq
  have hensure := db.ensureKey request p
  generalize db.ensureBankOperationKey p request = reply at hensure
  cases hensure with
  | present => exact ⟨p, db, rfl⟩
  | update p' change keyed column =>
    have hwf := keyed.step.wellFormed (sound.wellFormed_of_current current)
    exact ⟨_, _, sound.updateKeyColumn_of_wellFormed current keyed.id keyed.status hwf column⟩
  | refused err needed unfit =>
    have hblank := unfit (hoperation ▸ status)
    cases built with
    | retryAuthorization => exact absurd (.inr rfl) needed
    | capturePayment | voidPayment | refundPayment =>
      exact absurd hblank (generates.keys drawn.bankOperationKeys)
  | unknown hunknown => cases built <;> cases hunknown

/-- A claim is granted or replayed, wherever earlier attempts have left the record, unless the
record is in progress and not stuck. -/
theorem Progress.claim_ne_error
    (progress : Progress service command answer p₀ (db.current paymentID)
      (db.records command.recordKey))
    (existing : command.paymentID? = some paymentID) (sound : db.Sound)
    (generates : service.Generates) (built : Built service now drawn command request drawn')
    (time : now ≠ 0) (status : p₀.status = command.operation.expectedStatus)
    (card : CardOf service command p₀)
    (ready : ∀ record, db.records command.recordKey = some record →
      record.status = .completed ∨ stuckFor request.base record) (err : GoError) (db' : Db) :
    db.claim request ≠ (.error err, db') := by
  have hgranted : ∀ claim after, db.Granted request claim after →
      db.claim request ≠ (.error err, db') := by
    intro claim after grant
    rw [Db.claim_eq_granted.mpr grant]
    nofun
  have hbase := built.base_eq
  have hkey := built.recordKey_eq
  have htime : request.base.now ≠ 0 := by rwa [hbase]
  -- Whatever was gained since, the payment has the status and the card that the command expects.
  have hkeeps : ∀ p, p = p₀ ∨ p.erase = (p₀.keyed command.operation).erase →
      p.status = command.operation.expectedStatus ∧ CardOf service command p := by
    rintro p (rfl | hkeyed)
    · exact ⟨status, card⟩
    · refine ⟨?_, fun details hdetails => ?_⟩
      · exact (Payment.status_of_keyed hkeyed).trans status
      · exact ((congrArg Payment.authorizationCardFingerprint hkeyed :).trans
          (p₀.keyed_cardFingerprint _)).trans (card details hdetails)
  cases hslot : db.records command.recordKey with
  | none =>
    -- Without a record the claim acquires one, and the key can be set.
    rw [hslot] at progress
    obtain ⟨p, hcurrent, hstart⟩ := progress.exists_of_none
    obtain ⟨hstatus, hcard⟩ := hkeeps p hstart
    obtain ⟨request, rfl, rfl⟩ := built.exists_existing existing
    have hbase' : request.toPaymentCommandClaimRequest = _ := hbase
    have hvalid := built.recordCheck generates
      (sound.id_of_current hcurrent ▸ (sound.wellFormed_of_current hcurrent).validID)
    have hexpected : p.status = request.expectedStatus := by rw [hstatus, hbase']
    obtain ⟨p', after, hensured⟩ := built.exists_ensured generates
      (sound.setRecord request.recordKey (some (newRecord request.toPaymentCommandClaimRequest
        request.paymentID))) (sound.id_of_current hcurrent ▸ hcurrent :) hstatus
    exact hgranted _ _ (.acquire request p p' after htime (hkey ▸ hslot) hvalid
      (sound.findPaymentByID_eq_ok.mpr hcurrent)
      (validateAcquiredPaymentCommand_eq_ok.mpr ⟨hexpected, built.card_eq hcard⟩) hensured)
  | some record =>
    rw [hslot] at progress
    rcases ready record hslot with hcompleted | hstuck
    · -- A completed record is replayed.
      obtain ⟨m, kind, _, _, hfingerprint, hstored⟩ := progress.exists_of_completed hcompleted
      have hreplays : db.Replays request.base ⟨newPaymentResult m, kind⟩ :=
        ⟨record, hkey ▸ hslot, by rw [hfingerprint, hbase], hcompleted, hstored⟩
      rw [Db.claim_eq_replayed.mpr ⟨htime, hreplays, rfl⟩]
      nofun
    · -- A stuck one is taken over; an earlier claim has set the key.
      obtain ⟨p, hcurrent, hkeyed, _, hnamed⟩ := progress.exists_of_inProgress hstuck.2.1
      obtain ⟨hstatus, hcard⟩ := hkeeps p (.inr hkeyed)
      obtain ⟨request, rfl, rfl⟩ := built.exists_existing existing
      have hbase' : request.toPaymentCommandClaimRequest = _ := hbase
      have hnamed : nullStringValue record.paymentID = request.paymentID := by
        rw [hnamed, existing]
        rfl
      have hexpected : p.status = request.expectedStatus := by rw [hstatus, hbase']
      have hhasKey : request.operation.HasKey p := by
        rw [hbase', ← Operation.hasKey_erase, hkeyed, Operation.hasKey_erase]
        exact Operation.hasKey_keyed _ p₀
      have hexisting : request.operation ≠ .authorizePayment := by
        intro h
        cases built <;> cases h
      exact hgranted _ _ (.recover request record p htime (hkey ▸ hslot) hstuck
        (hnamed.symm ▸ sound.findPaymentByID_eq_ok.mpr hcurrent)
        (validateRecoveredPaymentCommand_eq_ok.mpr
          ⟨hnamed.symm, hexpected, built.card_eq hcard, hexisting, hhasKey⟩))

end Claims

/-! ## The attempt that is not cut off -/

/-- All attempts of a command have returned or died. -/
def State.Ended (s : State) (command : Command) : Prop :=
  ∀ id attempt, s.attempts id = some attempt → attempt.command = command →
    attempt.phase.isReturned = true ∨ attempt.phase = .died

/-- The record of a command is absent, completed, or at least as old as a stuck one. -/
def State.Claimable (service : PaymentService) (s : State) (command : Command) : Prop :=
  ∀ record, s.db.records command.recordKey = some record → record.status = .completed ∨
    (record.claimedAt : ℤ) ≤ s.clock - service.claimStuckAfter

/-- An answer is one of the endpoint that an operation calls. -/
def Operation.Accepts (operation : Operation) (answer : BankAnswer) : Prop :=
  ∀ p now, operation.verdict p now answer ≠ none

/-- The steps while one attempt of a command runs: no other attempt of the command takes a step,
and this one is not cut off, starts when the record can be claimed, and gets the bank's
answer. -/
structure Uninterrupted (service : PaymentService) (command : Command) (answer : BankAnswer)
    (id : ℕ) (s : State) (e : Event) : Prop extends Undisturbed service command answer s e where
  sole : ∀ other action attempt, e = .act other action → s.attempts other = some attempt →
    attempt.command = command → other = id
  uncut : Uncut id e
  received : ∀ command', e = .receive id command' → command' = command
  starts : e = .act id .prepare → s.Claimable service command
  answered : ∀ answer', e = .act id (.answer answer') → answer' = answer
  clock : ∀ action, e = .act id action → s.clock ≠ 0

/-- The payment that a command leaves, and what it returns. -/
inductive SettledAs (command : Command) (answer : BankAnswer) (p₀ p : Payment) : Outcome → Prop
  | completed (kind : Option PaymentErrorKind)
      (expected : command.expected answer p₀ = some (.complete p.erase kind)) :
      SettledAs command answer p₀ p (completedOutcome ⟨newPaymentResult p, kind⟩)
  | released (err : GoError) (keyed : p.erase = (p₀.keyed command.operation).erase)
      (expected : command.expected answer p₀ = some (.release err)) :
      SettledAs command answer p₀ p (.error err)

/-- All ways to settle a command agree, up to times and keys. -/
theorem SettledAs.erase_eq {p q : Payment} {outcome outcome' : Outcome}
    (first : SettledAs command answer p₀ p outcome)
    (second : SettledAs command answer p₀ q outcome') :
    p.erase = q.erase ∧ eraseOutcome outcome = eraseOutcome outcome' := by
  cases first with
  | completed kind expected =>
    cases second with
    | completed kind' expected' =>
      rw [expected, Option.some_inj, Verdict.complete.injEq] at expected'
      obtain ⟨hsame, rfl⟩ := expected'
      rw [eraseOutcome_completedOutcome p, eraseOutcome_completedOutcome q, hsame]
      exact ⟨rfl, rfl⟩
    | released err keyed expected' => cases expected.symm.trans expected'
  | released err keyed expected =>
    cases second with
    | completed kind' expected' => cases expected.symm.trans expected'
    | released err' keyed' expected' =>
      cases expected.symm.trans expected'
      exact ⟨keyed.trans keyed'.symm, rfl⟩

/-- Where the attempt stands, given the payment and the record of its command. -/
def Attempt.Last (command : Command) (answer : BankAnswer) (p₀ : Payment)
    (current : Option Payment) (slot : Option IdempotencyRecord) (attempt : Attempt) : Prop :=
  match attempt.phase with
  | .received => True
  | .claiming request => attempt.preparedAt ≠ 0 ∧
      ∀ record, slot = some record → record.status = .completed ∨ stuckFor request.base record
  | .calling _ | .awaiting _ | .completing _ _ =>
      ∃ record, slot = some record ∧ record.status = .inProgress
  | .persisting _ _ completedAt =>
      completedAt ≠ 0 ∧ ∃ record, slot = some record ∧ record.status = .inProgress
  | .releasing _ err => command.expected answer p₀ = some (.release err) ∧
      ∃ p, current = some p ∧ p.erase = (p₀.keyed command.operation).erase
  | .returned outcome => ∃ p, current = some p ∧ SettledAs command answer p₀ p outcome
  | .died => False

/-- The progress of a command while one attempt of it is not cut off. -/
structure LastInv (service : PaymentService) (command : Command) (answer : BankAnswer)
    (p₀ : Payment) (paymentID : GoString) (id : ℕ) (s : State) : Prop
    extends CommandInv service command answer p₀ paymentID s where
  last : ∀ attempt, s.attempts id = some attempt → attempt.command = command ∧
    attempt.Last command answer p₀ (s.db.current paymentID) (s.db.records command.recordKey)

/-- What a command starts from: a payment in the status it expects, with its card. -/
structure Expects (service : PaymentService) (command : Command) (paymentID : GoString)
    (p₀ : Payment) : Prop where
  existing : command.paymentID? = some paymentID
  status : p₀.status = command.operation.expectedStatus
  card : CardOf service command p₀

/-- The attempt's completion is not refused: its record is open, and the row has the status that
the claim expects. -/
theorem CommandInv.completes {claim : PaymentCommandClaim} {result : PaymentCommandResult}
    {completedAt : Time} {record : IdempotencyRecord}
    (h : CommandInv service command answer p₀ paymentID s) (inv : Inv service s)
    (records : RecordsInv service s) (expects : Expects service command paymentID p₀)
    (running : s.attempts id = some attempt) (own : attempt.command = command)
    (phase : attempt.phase = .persisting claim result completedAt) (time : completedAt ≠ 0)
    (slot : s.db.records command.recordKey = some record)
    (inProgress : record.status = .inProgress) (err : GoError) (db' : Db) :
    s.db.completePaymentCommand claim result completedAt ≠ (.error err, db') := by
  obtain ⟨p, hcurrent, hkeyed, hfingerprint⟩ := h.exists_of_inProgress slot inProgress
  have hfor : MarkedFor service s.db command claim result :=
    own ▸ (inv.attempts id attempt running).markedFor phase
  have hfound : s.db.payments claim.payment.id = some (rowOf p) := by
    rw [hfor.payment_id expects.existing, inv.sound.payments_eq, hcurrent, Option.map_some]
  obtain ⟨_, _, _, _, hclaim, _⟩ := hfor
  have hstatus : (rowOf p).status = claim.expectedStatus.text := by
    rw [show claim.expectedStatus = _ from hclaim.expected, ← expects.status,
      ← Payment.status_of_keyed hkeyed]
    rfl
  obtain ⟨after, hcompleted⟩ := inv.exists_completed records running phase time hfound hstatus
    (hclaim.recordKey_eq.symm ▸ slot) inProgress (hfingerprint.trans hclaim.fingerprint.symm)
  rw [Db.completePaymentCommand_eq_ok.mpr ⟨_, _, hcompleted⟩]
  nofun

/-- A step of the attempt takes it further, towards the outcome that is expected of it. -/
theorem AttemptStep.last {action : Action} {effect : Effect}
    (rule : AttemptStep service s.clock s.drawn s.db id attempt action effect)
    (h : LastInv service command answer p₀ paymentID id s) (inv : Inv service s)
    (records : RecordsInv service s) (expects : Expects service command paymentID p₀)
    (generates : service.Generates) (running : s.attempts id = some attempt)
    (guard : Uninterrupted service command answer id s (.act id action)) :
    effect.attempt.Last command answer p₀ (effect.db.current paymentID)
      (effect.db.records command.recordKey) := by
  obtain ⟨own, hlast⟩ := h.last attempt running
  have hinv := inv.attempts id attempt running
  have hclock := guard.clock action rfl
  unfold Attempt.Last at hlast
  cases rule with
  | prepared request drawn' phase built =>
    refine ⟨hclock, fun record hslot => ?_⟩
    have hbase := (PaymentService.built_of_prepare built).base_eq
    rcases guard.starts rfl record hslot with hcompleted | hold
    · exact .inl hcompleted
    · cases hstatus : record.status with
      | completed => exact .inl rfl
      | inProgress =>
        obtain ⟨_, _, _, hfingerprint⟩ := h.exists_of_inProgress hslot hstatus
        rw [hbase, own]
        exact .inr ⟨hfingerprint, hstatus, hold⟩
  | unprepared err drawn' phase failed =>
    -- The generators of ids and keys do not fail, and the clock is set.
    obtain ⟨request, _, hprepare⟩ := generates.exists_prepare attempt.command hclock s.drawn
    rw [failed] at hprepare
    cases hprepare
  | granted request claim db' phase grant =>
    obtain ⟨_, _, hbuilt⟩ := hinv.built phase
    obtain ⟨record, hslot, hrecords⟩ := grant.slot hbuilt
    refine ⟨record, ?_, hslot.inProgress⟩
    change db'.records command.recordKey = some record
    rw [hrecords, ← own, ← hbuilt.recordKey_eq, Function.update_self]
  | replayed request result phase _ replay =>
    obtain ⟨_, _, hbuilt⟩ := hinv.built phase
    obtain ⟨record, hslot, _, hcompleted, hstored⟩ := replay
    rw [hbuilt.recordKey_eq, own] at hslot
    have hprogress := h.progress
    rw [hslot] at hprogress
    obtain ⟨m, kind, hcurrent, hexpected, _, hstored'⟩ := hprogress.exists_of_completed hcompleted
    rw [hstored, Except.ok.injEq] at hstored'
    subst hstored'
    exact ⟨m, hcurrent, .completed kind hexpected⟩
  | refused request err phase refusal =>
    -- The record can be claimed, whatever earlier attempts made of it.
    obtain ⟨drawn, drawn', hbuilt⟩ := hinv.built phase
    rw [phase] at hlast
    rw [own] at hbuilt
    exact absurd refusal (h.progress.claim_ne_error expects.existing inv.sound generates hbuilt
      hlast.1 expects.status expects.card hlast.2 err s.db)
  | claimFailed _ committed => exact absurd rfl (guard.uncut.2 committed)
  | claimLost => exact absurd rfl (guard.uncut.2 true)
  | sent claim phase =>
    rcases phase with phase | phase <;> rw [phase] at hlast <;> exact hlast
  | marked claim answer' m kind phase =>
    rcases phase with phase | phase <;> rw [phase] at hlast <;> exact hlast
  | withdrawn claim answer' err phase verdict =>
    have hkeyed := (h.works id attempt running own).waits claim phase
    have hoperation := own ▸ (hinv.claimFor_of_waits phase).operation
    rw [guard.answered answer' rfl, hoperation] at verdict
    obtain ⟨record, hslot, hopen⟩ : ∃ record, s.db.records command.recordKey = some record ∧
        record.status = .inProgress := by
      rcases phase with phase | phase <;> rw [phase] at hlast <;> exact hlast
    obtain ⟨p, hcurrent, hkeyed', _⟩ := h.exists_of_inProgress hslot hopen
    refine ⟨?_, p, hcurrent, hkeyed'⟩
    rw [Command.expected_eq hkeyed hclock, verdict]
    rfl
  | stamped claim result phase =>
    rw [phase] at hlast
    exact ⟨hclock, hlast⟩
  | completed claim result completedAt row record db' phase completion =>
    have hfor : MarkedFor service s.db command claim result := own ▸ hinv.markedFor phase
    have hstores := completion.stores inv.sound hfor
    obtain ⟨kind, hexpected, rfl⟩ := (h.works id attempt running own).marks claim result
      (.inr ⟨completedAt, phase⟩)
    exact ⟨claim.payment, hfor.payment_id expects.existing ▸ hstores.current_self,
      .completed kind hexpected⟩
  | uncompleted claim result completedAt err phase refusal =>
    rw [phase] at hlast
    obtain ⟨htime, record, hslot, hopen⟩ := hlast
    exact absurd refusal (h.completes inv records expects running own phase htime hslot hopen err
      s.db)
  | completionFailed _ _ _ committed => exact absurd rfl (guard.uncut.2 committed)
  | completionLost => exact absurd rfl (guard.uncut.2 true)
  | released claim err phase =>
    rw [phase] at hlast
    obtain ⟨hexpected, p, hcurrent, hkeyed⟩ := hlast
    refine ⟨p, ?_, .released err hkeyed hexpected⟩
    rw [← hcurrent]
    exact Db.current_of_history_eq (Db.releasePaymentCommand_history _ _) paymentID
  | releaseFailed _ _ committed => exact absurd rfl (guard.uncut.2 committed)
  | died => exact absurd rfl guard.uncut.1

theorem LastInv.step (h : LastInv service command answer p₀ paymentID id s) (inv : Inv service s)
    (records : RecordsInv service s) (expects : Expects service command paymentID p₀)
    (generates : service.Generates) (guard : Uninterrupted service command answer id s e)
    (taken : PaymentGateway.step service s e = some s') :
    LastInv service command answer p₀ paymentID id s' := by
  have hstep := step_cases taken
  refine ⟨h.toCommandInv.step inv expects.existing guard.toUndisturbed taken, ?_⟩
  intro attempt' hattempt
  by_cases hof : e.IsOf s command
  · obtain ⟨other, action, attempt, rfl, running, own⟩ := hof
    obtain rfl := guard.sole other action attempt rfl running own
    obtain ⟨effect, rfl, rule⟩ := hstep.exists_effect running
    rw [State.attempts_after_self, Option.some_inj] at hattempt
    subst hattempt
    exact ⟨rule.command_eq.trans own, rule.last h inv records expects generates running guard⟩
  · -- A step of something else changes neither the payment nor the record.
    obtain ⟨hcurrent, hrecords⟩ := guard.db_eq inv expects.existing hof taken
    rw [hcurrent, hrecords]
    rcases hstep.attempt_cases hattempt with hkept | ⟨command', rfl, _, rfl⟩ |
      ⟨action, attempt, effect, rfl, running, _⟩
    · exact h.last attempt' hkept
    · exact ⟨guard.received command' rfl, trivial⟩
    · exact absurd ⟨id, action, attempt, rfl, running, (h.last attempt running).1⟩ hof

/-! ## The attempt returns -/

/-- How many steps a method has left at most, sending its request once. -/
def Phase.stepsLeft : Phase → ℕ
  | .received => 6
  | .claiming _ => 5
  | .calling _ => 4
  | .awaiting _ => 3
  | .completing _ _ => 2
  | .persisting _ _ _ => 1
  | .releasing _ _ => 1
  | .returned _ => 0
  | .died => 0

def State.stepsLeft (s : State) (id : ℕ) : ℕ := (s.attempts id).elim 7 (·.phase.stepsLeft)

/-- The step that a method takes next. -/
def Phase.next (answer : BankAnswer) : Phase → Action
  | .received => .prepare
  | .claiming _ => .claim
  | .calling _ => .send
  | .awaiting _ => .answer answer
  | .completing _ _ => .stamp
  | .persisting _ _ _ => .complete
  | .releasing _ _ => .release
  | .returned _ => .die
  | .died => .die

/-- A method that has not returned can take its next step, which brings it closer to its end. -/
theorem Attempt.exists_next (service : PaymentService) (clock : Time) (drawn : Draws) (db : Db)
    (id : ℕ) (attempt : Attempt)
    (fits : ∀ claim, attempt.phase = .awaiting claim → claim.operation.Accepts answer)
    (running : attempt.phase.stepsLeft ≠ 0) :
    ∃ effect, attemptStep service clock drawn db id attempt (attempt.phase.next answer) =
        some effect ∧ effect.attempt.phase.stepsLeft < attempt.phase.stepsLeft := by
  cases hphase : attempt.phase with
  | received =>
    simp only [Phase.next, attemptStep, hphase]
    split <;> exact ⟨_, rfl, by simp [Attempt.goto, Phase.stepsLeft]⟩
  | claiming request =>
    simp only [Phase.next, attemptStep, hphase]
    split <;> exact ⟨_, rfl, by simp [Attempt.goto, Phase.stepsLeft]⟩
  | calling claim =>
    simp only [Phase.next, attemptStep, hphase]
    exact ⟨_, rfl, by simp [Attempt.goto, Phase.stepsLeft]⟩
  | awaiting claim =>
    simp only [Phase.next, attemptStep, hphase, answerStep]
    have hfits := fits claim hphase claim.payment clock
    split
    · exact ⟨_, rfl, by simp [Attempt.goto, Phase.stepsLeft]⟩
    · exact ⟨_, rfl, by simp [Attempt.goto, Phase.stepsLeft]⟩
    · next hnone => exact absurd hnone hfits
  | completing claim result =>
    simp only [Phase.next, attemptStep, hphase]
    exact ⟨_, rfl, by simp [Attempt.goto, Phase.stepsLeft]⟩
  | persisting claim result completedAt =>
    simp only [Phase.next, attemptStep, hphase]
    split <;> exact ⟨_, rfl, by simp [Attempt.goto, Phase.stepsLeft]⟩
  | releasing claim err =>
    simp only [Phase.next, attemptStep, hphase]
    exact ⟨_, rfl, by simp [Attempt.goto, Phase.stepsLeft]⟩
  | returned | died =>
    rw [hphase] at running
    exact absurd rfl running

theorem Phase.stepsLeft_le (phase : Phase) : phase.stepsLeft ≤ 6 := by
  cases phase <;> simp [Phase.stepsLeft]

theorem Phase.eq_of_next_eq_answer {phase : Phase} {answer' : BankAnswer}
    (h : phase.next answer = .answer answer') : answer' = answer := by
  cases phase <;> cases h
  rfl

theorem Phase.eq_of_next_eq_prepare {phase : Phase} (h : phase.next answer = .prepare) :
    phase = .received := by
  cases phase <;> cases h
  rfl

theorem Phase.stepsLeft_of_next_eq_die {phase : Phase} (h : phase.next answer = .die) :
    phase.stepsLeft = 0 := by
  cases phase <;> cases h <;> rfl

theorem Phase.next_ne_storeFails (phase : Phase) (committed : Bool) :
    phase.next answer ≠ .storeFails committed := by
  cases phase <;> nofun

/-- The next step of the attempt does not interrupt it. -/
theorem Uninterrupted.of_next (running : s.attempts id = some attempt)
    (own : attempt.command = command) (live : attempt.phase.stepsLeft ≠ 0) (clock : s.clock ≠ 0)
    (starts : attempt.phase = .received → s.Claimable service command) :
    Uninterrupted service command answer id s (.act id (attempt.phase.next answer)) where
  apart h := absurd ⟨id, _, attempt, rfl, running, own⟩ h
  bank _ _ _ he _ _ := .inl (Phase.eq_of_next_eq_answer (Event.act.inj he).2)
  sole _ _ _ he _ _ := (Event.act.inj he).1.symm
  uncut := ⟨fun he => live (Phase.stepsLeft_of_next_eq_die (Event.act.inj he).2),
    fun committed he => Phase.next_ne_storeFails _ committed (Event.act.inj he).2⟩
  received _ he := by cases he
  starts he := starts (Phase.eq_of_next_eq_prepare (Event.act.inj he).2)
  answered _ he := Phase.eq_of_next_eq_answer (Event.act.inj he).2
  clock _ _ := clock

/-- A request for the command may be received at any time. -/
theorem Uninterrupted.of_receive : Uninterrupted service command answer id s
    (.receive id command) where
  apart _ s' taken := by
    cases step_cases taken
    rfl
  bank _ _ _ he := by cases he
  sole _ _ _ he := by cases he
  uncut := ⟨nofun, fun _ => nofun⟩
  received _ he := (Event.receive.inj he).2.symm
  starts he := by cases he
  answered _ he := by cases he
  clock _ he := by cases he

/-- The attempt has not read the clock yet. -/
def State.Unprepared (s : State) (id : ℕ) : Prop :=
  ∀ attempt, s.attempts id = some attempt → attempt.phase = .received

/-- What is known while the attempt is on its way. -/
structure OnItsWay (service : PaymentService) (command : Command) (answer : BankAnswer)
    (p₀ : Payment) (paymentID : GoString) (id : ℕ) (s : State) : Prop
    extends LastInv service command answer p₀ paymentID id s where
  inv : Inv service s
  records : RecordsInv service s
  clock : s.clock ≠ 0
  ready : s.Unprepared id → s.Claimable service command

theorem OnItsWay.exists_next (h : OnItsWay service command answer p₀ paymentID id s)
    (expects : Expects service command paymentID p₀) (generates : service.Generates)
    (fits : command.operation.Accepts answer) (live : s.stepsLeft id ≠ 0) :
    ∃ e s', Uninterrupted service command answer id s e ∧
      PaymentGateway.step service s e = some s' ∧
      OnItsWay service command answer p₀ paymentID id s' ∧ s'.stepsLeft id < s.stepsLeft id := by
  -- Any step that is enabled leads on; what is left is to find one.
  have hlead : ∀ e s', Uninterrupted service command answer id s e →
      PaymentGateway.step service s e = some s' → s'.clock = s.clock →
      (s'.Unprepared id → s'.Claimable service command) →
      OnItsWay service command answer p₀ paymentID id s' := by
    intro e s' guard taken hclock hready
    exact ⟨h.toLastInv.step h.inv h.records expects generates guard taken,
      h.inv.step (step_cases taken), h.records.step h.inv (step_cases taken), hclock ▸ h.clock,
      hready⟩
  cases hattempt : s.attempts id with
  | none =>
    -- The attempt is still to be received.
    have hunprepared : s.Unprepared id := by
      intro attempt running
      cases hattempt.symm.trans running
    have htaken : PaymentGateway.step service s (.receive id command) =
        some { s with attempts :=
          Function.update s.attempts id (some ⟨command, s.clock, s.clock, .received⟩) } := by
      simp only [PaymentGateway.step, hattempt]
    refine ⟨_, _, .of_receive, htaken,
      hlead _ _ .of_receive htaken rfl fun _ => h.ready hunprepared, ?_⟩
    simp [State.stepsLeft, hattempt, Phase.stepsLeft]
  | some attempt =>
    -- The attempt runs, and the next action of its phase is enabled.
    obtain ⟨own, _⟩ := h.last attempt hattempt
    have hlive : attempt.phase.stepsLeft ≠ 0 := by simpa [State.stepsLeft, hattempt] using live
    have hguard : Uninterrupted service command answer id s
        (.act id (attempt.phase.next answer)) := by
      refine .of_next hattempt own hlive h.clock fun hphase => h.ready ?_
      intro attempt' hattempt'
      cases hattempt.symm.trans hattempt'
      exact hphase
    have hfits : ∀ claim, attempt.phase = .awaiting claim → claim.operation.Accepts answer := by
      intro claim hphase
      rw [((h.inv.attempts id attempt hattempt).claimFor_of_waits (.inr hphase)).operation, own]
      exact fits
    obtain ⟨effect, heffect, hlt⟩ :=
      attempt.exists_next service s.clock s.drawn s.db id hfits hlive
    have htaken : PaymentGateway.step service s (.act id (attempt.phase.next answer)) =
        some (s.after id effect) := by
      simp only [PaymentGateway.step, hattempt, heffect, Option.map_some]
    refine ⟨_, _, hguard, htaken, hlead _ _ hguard htaken rfl fun hunprepared => ?_, ?_⟩
    · have hreceived := hunprepared effect.attempt (State.attempts_after_self s id effect)
      rw [hreceived] at hlt
      exact absurd hlt (not_lt.mpr (Phase.stepsLeft_le _))
    · simpa [State.stepsLeft, State.attempts_after_self, hattempt] using hlt

/-! ## The result -/

/-- A command that is new under its key, on a payment in the status that it expects, and with the
payment's card. -/
structure Fresh (service : PaymentService) (command : Command) (paymentID : GoString) (s : State) :
    Prop where
  reachable : Reachable service s
  existing : command.paymentID? = some paymentID
  row : ∃ row, s.db.payments paymentID = some row ∧
    row.status = command.operation.expectedStatus.text ∧
    ∀ card, command.card? = some card →
      row.authorizationCardFingerprint = service.authorizationCardFingerprint card
  unclaimed : s.db.records command.recordKey = none
  ended : s.Ended command

/-- An attempt has returned an outcome. -/
def State.Returned (s : State) (id : ℕ) (outcome : Outcome) : Prop :=
  (s.attempts id).map (·.phase) = some (.returned outcome)

theorem Fresh.exists_expects (fresh : Fresh service command paymentID s) :
    ∃ p₀, Expects service command paymentID p₀ ∧ ∀ answer,
      CommandInv service command answer p₀ paymentID s := by
  have hinv := inv_of_reachable fresh.reachable
  obtain ⟨row, hrow, hstatus, hcard⟩ := fresh.row
  obtain ⟨p₀, hcurrent, rfl⟩ := hinv.sound.exists_current_of_row hrow
  refine ⟨p₀, ⟨fresh.existing, PaymentStatus.text_injective hstatus, hcard⟩, fun answer => ⟨?_, ?_⟩⟩
  · rw [hcurrent, fresh.unclaimed]
    exact .untouched
  · intro id attempt running own
    refine .of_held ?_
    rcases fresh.ended id attempt running own with hreturned | hdied
    · obtain ⟨outcome, hphase⟩ := Phase.exists_of_isReturned hreturned
      rw [hphase]
      rfl
    · rw [hdied]
      rfl

/-- The invariants along the attempts that may have been cut off. -/
theorem commandInv_of_reaches (inv : Inv service s) (records : RecordsInv service s)
    (existing : command.paymentID? = some paymentID)
    (h : CommandInv service command answer p₀ paymentID s)
    (run : Reaches (PaymentGateway.step service) (Undisturbed service command answer) s s') :
    CommandInv service command answer p₀ paymentID s' ∧ Inv service s' ∧ RecordsInv service s' := by
  refine run.invariant (P := fun s => CommandInv service command answer p₀ paymentID s ∧
    Inv service s ∧ RecordsInv service s) ⟨h, inv, records⟩ ?_
  rintro s e s' _ ⟨h, inv, records⟩ guard taken
  exact ⟨h.step inv existing guard taken, inv.step (step_cases taken),
    records.step inv (step_cases taken)⟩

/-- The invariants along the attempt that is not cut off. -/
theorem lastInv_of_reaches (inv : Inv service s) (records : RecordsInv service s)
    (expects : Expects service command paymentID p₀) (generates : service.Generates)
    (h : CommandInv service command answer p₀ paymentID s) (new : s.attempts id = none)
    (run : Reaches (PaymentGateway.step service) (Uninterrupted service command answer id) s s') :
    LastInv service command answer p₀ paymentID id s' ∧ Inv service s' ∧ RecordsInv service s' := by
  refine run.invariant (P := fun s => LastInv service command answer p₀ paymentID id s ∧
    Inv service s ∧ RecordsInv service s) ⟨⟨h, ?_⟩, inv, records⟩ ?_
  · intro attempt running
    cases new.symm.trans running
  · rintro s e s' _ ⟨h, inv, records⟩ guard taken
    exact ⟨h.step inv records expects generates guard taken, inv.step (step_cases taken),
      records.step inv (step_cases taken)⟩

theorem LastInv.exists_settled {outcome : Outcome}
    (h : LastInv service command answer p₀ paymentID id s) (inv : Inv service s)
    (expects : Expects service command paymentID p₀) (returned : s.Returned id outcome) :
    ∃ p, (s.view command).1 = some (rowOf p) ∧ SettledAs command answer p₀ p outcome := by
  obtain ⟨attempt, running, hphase⟩ := Option.map_eq_some_iff.mp returned
  obtain ⟨_, hlast⟩ := h.last attempt running
  unfold Attempt.Last at hlast
  rw [hphase] at hlast
  obtain ⟨p, hcurrent, hsettled⟩ := hlast
  refine ⟨p, ?_, hsettled⟩
  rw [State.view, expects.existing, Option.bind_some, inv.sound.payments_eq, hcurrent,
    Option.map_some]

/-- The attempt has no steps left only when it has returned. -/
theorem LastInv.exists_returned (h : LastInv service command answer p₀ paymentID id s)
    (ended : s.stepsLeft id = 0) : ∃ outcome, s.Returned id outcome := by
  unfold State.stepsLeft at ended
  cases hattempt : s.attempts id with
  | none => simp [hattempt] at ended
  | some attempt =>
    obtain ⟨_, hlast⟩ := h.last attempt hattempt
    rw [hattempt] at ended
    unfold Attempt.Last at hlast
    cases hphase : attempt.phase with
    | returned outcome => exact ⟨outcome, by rw [State.Returned, hattempt, Option.map_some, hphase]⟩
    | died => simp [hphase] at hlast
    | _ => simp [hphase, Phase.stepsLeft] at ended

/-- Crash and retry refine one execution. A command is new under its key, nothing else touches its
payment and its record, and the bank answers it in one way, unless it fails. Attempts of the
command run in any number and any order, and each of them may be cut off wherever it stands.
Then one attempt runs that is not cut off, starts when the record can be claimed, and gets the
bank's answer. It leaves the same row and returns the same outcome as an attempt that runs first
and uninterrupted, up to times and the identity of bank operation keys; and from wherever it
stands it gets to return. -/
theorem crash_retry_refines_single_attempt (service : PaymentService)
    (generates : service.Generates) (command : Command) (answer : BankAnswer)
    (fits : command.operation.Accepts answer) (paymentID : GoString) (s₀ s₁ : State)
    (fresh : Fresh service command paymentID s₀)
    (attempts : Reaches (PaymentGateway.step service) (Undisturbed service command answer) s₀ s₁)
    (id : ℕ) (new : s₁.attempts id = none) :
    (∀ t outcome,
      Reaches (PaymentGateway.step service) (Uninterrupted service command answer id) s₁ t →
      t.Returned id outcome →
      ∀ id' t' outcome', s₀.attempts id' = none →
        Reaches (PaymentGateway.step service) (Uninterrupted service command answer id') s₀ t' →
        t'.Returned id' outcome' →
        (t.view command).1.map PaymentRow.erase = (t'.view command).1.map PaymentRow.erase ∧
          eraseOutcome outcome = eraseOutcome outcome') ∧
    (∀ t, Reaches (PaymentGateway.step service) (Uninterrupted service command answer id) s₁ t →
      t.clock ≠ 0 → (t.Unprepared id → t.Claimable service command) →
      ∃ t' outcome,
        Reaches (PaymentGateway.step service) (Uninterrupted service command answer id) t t' ∧
        t'.Returned id outcome) := by
  obtain ⟨p₀, expects, hstart⟩ := fresh.exists_expects
  have hinv₀ := inv_of_reachable fresh.reachable
  obtain ⟨clock, reached⟩ := fresh.reachable
  have hrecords₀ := recordsInv_of_reaches reached
  obtain ⟨hcommand, hinv, hrecords⟩ :=
    commandInv_of_reaches hinv₀ hrecords₀ expects.existing (hstart answer) attempts
  refine ⟨?_, ?_⟩
  · intro t outcome run returned id' t' outcome' new' run' returned'
    -- Both runs end in the settlement that the answer determines.
    obtain ⟨hlast, hinvT, _⟩ := lastInv_of_reaches hinv hrecords expects generates hcommand new run
    obtain ⟨hlast', hinvT', _⟩ :=
      lastInv_of_reaches hinv₀ hrecords₀ expects generates (hstart answer) new' run'
    obtain ⟨p, hrow, hsettled⟩ := hlast.exists_settled hinvT expects returned
    obtain ⟨p', hrow', hsettled'⟩ := hlast'.exists_settled hinvT' expects returned'
    obtain ⟨hsame, houtcome⟩ := hsettled.erase_eq hsettled'
    rw [hrow, hrow', Option.map_some, Option.map_some, ← rowOf_erase, ← rowOf_erase, hsame]
    exact ⟨rfl, houtcome⟩
  · intro t run hclock hready
    -- The steps that are left count down to the return.
    obtain ⟨hlast, hinvT, hrecordsT⟩ :=
      lastInv_of_reaches hinv hrecords expects generates hcommand new run
    obtain ⟨t', run', hway, hzero⟩ := Reaches.exists_of_decreasing (State.stepsLeft · id)
      (fun s h live => h.exists_next expects generates fits live)
      (⟨hlast, hinvT, hrecordsT, hclock, hready⟩ :
        OnItsWay service command answer p₀ paymentID id t)
    obtain ⟨outcome, returned⟩ := hway.toLastInv.exists_returned hzero
    exact ⟨t', outcome, run', returned⟩

/-! ## A computed run -/

instance (service : PaymentService) (s : State) (command : Command) :
    Decidable (s.Claimable service command) :=
  inferInstanceAs (Decidable (∀ record ∈ s.db.records command.recordKey, _))

/-- Only attempts of a command act, and the bank gives them one answer. -/
def Event.follows (command : Command) (answer : BankAnswer) (s : State) : Event → Bool
  | .tick _ => true
  | .receive _ _ => true
  | .act id action => (s.attempts id).any (·.command = command) &&
    match action with
    | .answer answer' => answer' = answer
    | _ => true
  | _ => false

theorem Undisturbed.of_follows (service : PaymentService) (h : e.follows command answer s = true) :
    Undisturbed service command answer s e where
  apart hnot s' taken := by
    cases e with
    | tick | receive =>
      cases step_cases taken
      rfl
    | act id action =>
      simp only [Event.follows, Bool.and_eq_true, Option.any_eq_true, decide_eq_true_eq] at h
      obtain ⟨⟨attempt, running, own⟩, _⟩ := h
      exact absurd ⟨id, action, attempt, rfl, running, own⟩ hnot
    | scheduleCleanup | runCleanup => cases h
  bank id attempt answer' he _ _ := by
    subst he
    simp only [Event.follows, Bool.and_eq_true, decide_eq_true_eq] at h
    exact .inl h.2

/-- An attempt of a command alone acts, it is not cut off, and it starts when the record can be
claimed. -/
def Event.finishes (service : PaymentService) (command : Command) (answer : BankAnswer) (id : ℕ)
    (s : State) (e : Event) : Bool :=
  e.follows command answer s &&
  match e with
  | .receive other command' => decide (other ≠ id) || decide (command' = command)
  | .act other action => decide (other = id) && decide (s.clock ≠ 0) && decide (Uncut id e) &&
    (decide (action ≠ .prepare) || decide (s.Claimable service command))
  | _ => true

theorem Uninterrupted.of_finishes (h : e.finishes service command answer id s = true) :
    Uninterrupted service command answer id s e := by
  unfold Event.finishes at h
  obtain ⟨hfollows, hown⟩ := Bool.and_eq_true_iff.mp h
  have hact : ∀ other action, e = .act other action → other = id ∧ s.clock ≠ 0 ∧ Uncut id e ∧
      (action = .prepare → s.Claimable service command) := by
    rintro other action rfl
    simp only [Bool.and_eq_true, Bool.or_eq_true, decide_eq_true_eq] at hown
    obtain ⟨⟨⟨hid, hclock⟩, huncut⟩, hprepare⟩ := hown
    exact ⟨hid, hclock, huncut, fun h => hprepare.resolve_left (not_not.mpr h)⟩
  refine ⟨.of_follows service hfollows, fun other action _ he _ _ => (hact other action he).1,
    ?_, ?_, ?_, ?_, fun action he => (hact id action he).2.1⟩
  · cases e with
    | act other action => exact (hact other action rfl).2.2.1
    | tick | receive | scheduleCleanup | runCleanup => exact ⟨nofun, fun _ => nofun⟩
  · rintro command' rfl
    simpa using hown
  · intro he
    exact (hact id .prepare he).2.2.2 rfl
  · rintro answer' rfl
    simp only [Event.follows, Bool.and_eq_true, decide_eq_true_eq] at hfollows
    exact hfollows.2

theorem Sample.normalized_key : Normalized (ascii "k1") := by decide

/-- A capture of the first payment. -/
def Sample.captureOnce : Command := Sample.capture (ascii "k1") Sample.normalized_key

/-- The bank has captured the payment. -/
def Sample.captured : BankAnswer := .capture (ascii "cap-1")

theorem State.exists_returned_of_any (h : (s.attempts id).any (·.phase.isReturned) = true) :
    ∃ outcome, s.Returned id outcome := by
  obtain ⟨attempt, running, hreturned⟩ := (Option.any_eq_true _ _).mp h
  obtain ⟨outcome, hphase⟩ := Phase.exists_of_isReturned hreturned
  exact ⟨outcome, by rw [State.Returned, running, Option.map_some, hphase]⟩

/-- A capture that died after it had sent its request. A minute later the capture is sent again,
which takes the record over and completes it as a first capture would have done. -/
theorem crash_retry_refines_single_attempt_captured :
    ∃ s₀ s₁ t t' outcome outcome',
      Fresh Sample.service Sample.captureOnce Sample.paymentID s₀ ∧
      Reaches (PaymentGateway.step Sample.service)
        (Undisturbed Sample.service Sample.captureOnce Sample.captured) s₀ s₁ ∧
      (s₁.attempts 1).map (·.phase) = some .died ∧
      Reaches (PaymentGateway.step Sample.service)
        (Uninterrupted Sample.service Sample.captureOnce Sample.captured 2) s₁ t ∧
      t.Returned 2 outcome ∧
      Reaches (PaymentGateway.step Sample.service)
        (Uninterrupted Sample.service Sample.captureOnce Sample.captured 3) s₀ t' ∧
      t'.Returned 3 outcome' ∧
      (t.view Sample.captureOnce).1.map PaymentRow.erase =
        (t'.view Sample.captureOnce).1.map PaymentRow.erase ∧
      eraseOutcome outcome = eraseOutcome outcome' := by
  -- The three runs are computed at once, from the state in which the payment is authorized.
  have hcomputed : (execWhere (PaymentGateway.step Sample.service) (fun _ e => e.smoothBelow 1)
      (State.initial 1) Sample.authorized).any (fun s₀ =>
        (s₀.db.payments Sample.paymentID).any
          (fun row => row.status = PaymentStatus.authorized.text) &&
        (s₀.db.records Sample.captureOnce.recordKey).isNone &&
        decide (∀ id < 1, (s₀.attempts id).all (·.phase.isReturned)) && (s₀.attempts 3).isNone &&
        (execWhere (PaymentGateway.step Sample.service)
          (fun s e => e.follows Sample.captureOnce Sample.captured s) s₀
          (Sample.call 1 Sample.captureOnce ++ [.act 1 .die, .tick 61])).any (fun s₁ =>
            (s₁.attempts 2).isNone && decide ((s₁.attempts 1).map (·.phase) = some .died) &&
            (execWhere (PaymentGateway.step Sample.service)
              (fun s e => e.finishes Sample.service Sample.captureOnce Sample.captured 2 s) s₁
              (Sample.call 2 Sample.captureOnce ++ Sample.finish 2 Sample.captured)).any
                fun t => (t.attempts 2).any (·.phase.isReturned)) &&
        (execWhere (PaymentGateway.step Sample.service)
          (fun s e => e.finishes Sample.service Sample.captureOnce Sample.captured 3 s) s₀
          (Sample.call 3 Sample.captureOnce ++ Sample.finish 3 Sample.captured)).any
            fun t => (t.attempts 3).any (·.phase.isReturned)) = true := by decide +kernel
  rw [Option.any_eq_true] at hcomputed
  obtain ⟨s₀, hs₀, hcomputed⟩ := hcomputed
  simp only [Bool.and_eq_true, Option.isNone_iff_eq_none, decide_eq_true_eq] at hcomputed
  obtain ⟨⟨⟨⟨⟨hrow, hunclaimed⟩, hended⟩, hnew'⟩, hs₁⟩, ht'⟩ := hcomputed
  obtain ⟨s₁, hs₁, hcomputed⟩ := (Option.any_eq_true _ _).mp hs₁
  simp only [Bool.and_eq_true, Option.isNone_iff_eq_none, decide_eq_true_eq] at hcomputed
  obtain ⟨⟨hnew, hdied⟩, ht⟩ := hcomputed
  obtain ⟨t, ht, hreturned⟩ := (Option.any_eq_true _ _).mp ht
  obtain ⟨t', ht', hreturned'⟩ := (Option.any_eq_true _ _).mp ht'
  obtain ⟨outcome, hreturned⟩ := State.exists_returned_of_any hreturned
  obtain ⟨outcome', hreturned'⟩ := State.exists_returned_of_any hreturned'
  have hreach₀ := reaches_of_execWhere (fun _ _ h => Event.of_smoothBelow h) hs₀
  have hreach₁ := reaches_of_execWhere (fun _ _ h => Undisturbed.of_follows Sample.service h) hs₁
  have hreach := reaches_of_execWhere (fun _ _ h => Uninterrupted.of_finishes h) ht
  have hreach' := reaches_of_execWhere (fun _ _ h => Uninterrupted.of_finishes h) ht'
  -- Nothing has been claimed yet, and the attempt that authorized has returned.
  have hfresh : Fresh Sample.service Sample.captureOnce Sample.paymentID s₀ := by
    refine ⟨⟨1, hreach₀.mono fun _ _ _ => trivial⟩, rfl, ?_, hunclaimed, ?_⟩
    · obtain ⟨row, hrow, hstatus⟩ := (Option.any_eq_true _ _).mp hrow
      exact ⟨row, hrow, of_decide_eq_true hstatus, nofun⟩
    · intro id attempt running _
      refine .inl (forall_attempts_of_smoothBelow
        (P := fun attempt => attempt.phase.isReturned = true) hreach₀ ?_ id attempt running)
      intro id hid attempt running
      simpa [running] using hended id hid
  have haccepts : Sample.captureOnce.operation.Accepts Sample.captured := by
    intro p now
    exact Option.some_ne_none _
  obtain ⟨hrefines, -⟩ := crash_retry_refines_single_attempt Sample.service Sample.generates
    Sample.captureOnce Sample.captured haccepts Sample.paymentID s₀ s₁ hfresh hreach₁ 2 hnew
  obtain ⟨hrows, houtcomes⟩ := hrefines t outcome hreach hreturned 3 t' outcome' hnew' hreach'
    hreturned'
  exact ⟨s₀, s₁, t, t', outcome, outcome', hfresh, hreach₁, hdied, hreach, hreturned, hreach',
    hreturned', hrows, houtcomes⟩

end PaymentGateway
