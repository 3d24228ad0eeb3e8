/-
# No claim is released after the bank succeeded

A method releases its claim when the bank client returns an error, and also when the
domain refuses to record what the bank did. The second would leave a charge behind
without a trace. It cannot happen: the command constructors, the claims of the store
and the acceptance tests of the client together establish all that the mutators ask
for, so every success, decline and expiration is recorded. A release therefore always
follows an error of the bank client, and one that is not an expired authorization.
-/

import PaymentGateway.Invariant.Keys
import PaymentGateway.Properties.BankClient
import PaymentGateway.Properties.Replay

namespace PaymentGateway

open Lib

variable {service : PaymentService} {client : BankClient} {s s' : State} {e : Event}

/-- The clock is not set to the zero time. -/
def ClockSet (e : Event) : Prop := ∀ clock, e = .tick clock → clock ≠ 0

/-- The answers are those of the bank client, for the request of the attempt that gets them
and for whatever its exchanges with the bank were. -/
def AnswersFrom (client : BankClient) (s : State) (e : Event) : Prop :=
  ActsWhen (fun _ action attempt => ∀ answer claim, action = .answer answer →
    attempt.phase.Waits claim → ∃ encounter,
      (client.call (attempt.command.bankRequest claim.payment) encounter).1 = answer) s e

/-- The answers that have to be recorded: a result of the bank, a decline included, or the
expiration of the authorization. -/
def BankAnswer.Recorded : BankAnswer → Prop
  | .failed err => hasPaymentErrorKind err .authorizationExpired = true
  | _ => True

/-! ## Verdicts on what the client reports -/

/-- What a method does with an answer of the client. -/
inductive VerdictOn (p : Payment) (now : Time) (operation : Operation) (answer : BankAnswer) : Prop
  | recorded (m : Payment) (kind : Option PaymentErrorKind)
      (verdict : operation.verdict p now answer = some (.complete m kind))
      (marked : Marked p now operation answer m kind)
  | rejected (err : GoError) (failed : answer = .failed err)
      (verdict : operation.verdict p now answer = some (.release (ensurePaymentError err)))
      (unexpired : hasPaymentErrorKind err .authorizationExpired = false)
      (known : operation = .authorizePayment → isUnknownAuthorizationOutcome err = false)

namespace VerdictOn

variable {p : Payment} {now : Time} {operation : Operation} {answer : BankAnswer} {err : GoError}

/-- A mutator that succeeds completes the command. -/
theorem of_complete {m : Payment} {kind : Option PaymentErrorKind}
    (verdict : operation.verdict p now answer = some (.complete m kind)) :
    VerdictOn p now operation answer :=
  .recorded m kind verdict (Operation.marked_of_verdict verdict)

/-- The error branch of a capture or a void. -/
theorem of_settlementFailure (settles : operation.Settles) (status : p.status = .authorized)
    (time : now ≠ 0)
    (verdict : operation.verdict p now (.failed err) = some (settlementFailure p now err)) :
    VerdictOn p now operation (.failed err) := by
  unfold settlementFailure at verdict
  split_ifs at verdict with hexpired
  · rw [Payment.markExpired_eq_ok.mpr ⟨status, time, rfl⟩] at verdict
    exact of_complete verdict
  · refine .rejected err rfl verdict (Bool.not_eq_true _ ▸ hexpired) ?_
    rintro rfl
    rcases settles with h | h <;> cases h

/-- Only a capture and a void can find the authorization expired. -/
theorem unexpired_of_reportable {endpoint : Endpoint}
    (reportable : BankClient.Reportable endpoint (.failed err)) (capture : endpoint ≠ .capture)
    (void : endpoint ≠ .void) : hasPaymentErrorKind err .authorizationExpired = false := by
  by_contra hexpired
  have hsettles : endpoint = .capture ∨ endpoint = .void := by
    cases endpoint <;> exact reportable (Bool.not_eq_false _ ▸ hexpired)
  exact hsettles.elim capture void

/-- Whatever the client reports for an operation is recorded, or is an error other than an
expired authorization, upon which the claim is released. -/
theorem of_reportable (reportable : BankClient.Reportable operation.endpoint answer)
    (status : p.status = operation.expectedStatus) (time : now ≠ 0) :
    VerdictOn p now operation answer := by
  -- The client reports no answer of another endpoint.
  cases operation with
  | authorizePayment =>
    cases answer with
    | failed err =>
      -- An unknown outcome completes the command with the payment left pending.
      by_cases hunknown : isUnknownAuthorizationOutcome err = true
      · have hverdict : authorizePaymentVerdict p now (.failed err) = some (.complete p none) :=
          if_pos hunknown
        exact of_complete hverdict
      · have hunexpired := unexpired_of_reportable reportable (by decide) (by decide)
        exact .rejected err rfl (if_neg hunknown) hunexpired fun _ => Bool.not_eq_true _ ▸ hunknown
    | authorization result =>
      obtain ⟨m, hm⟩ := exists_applyAuthorizationOutcome status time reportable
      exact of_complete (by rw [Operation.verdict, authorizePaymentVerdict, hm]; rfl)
    | capture | void | refund => exact reportable.elim
  | retryAuthorization =>
    cases answer with
    | failed err =>
      have hunexpired := unexpired_of_reportable reportable (by decide) (by decide)
      exact .rejected err rfl rfl hunexpired fun h => by cases h
    | authorization result =>
      obtain ⟨m, hm⟩ := exists_applyAuthorizationOutcome status time reportable
      exact of_complete (by rw [Operation.verdict, retryAuthorizationVerdict, hm]; rfl)
    | capture | void | refund => exact reportable.elim
  | capturePayment =>
    cases answer with
    | failed err => exact of_settlementFailure (.inl rfl) status time rfl
    | capture id =>
      have hm := Payment.markCaptured_eq_ok.mpr ⟨status, reportable, time, rfl⟩
      exact of_complete (by rw [Operation.verdict, capturePaymentVerdict, hm]; rfl)
    | authorization | void | refund => exact reportable.elim
  | voidPayment =>
    cases answer with
    | failed err => exact of_settlementFailure (.inr rfl) status time rfl
    | void id =>
      have hm := Payment.markVoided_eq_ok.mpr ⟨status, reportable, time, rfl⟩
      exact of_complete (by rw [Operation.verdict, voidPaymentVerdict, hm]; rfl)
    | authorization | capture | refund => exact reportable.elim
  | refundPayment =>
    cases answer with
    | failed err =>
      have hunexpired := unexpired_of_reportable reportable (by decide) (by decide)
      exact .rejected err rfl rfl hunexpired fun h => by cases h
    | refund id =>
      have hm := Payment.markRefunded_eq_ok.mpr ⟨status, reportable, time, rfl⟩
      exact of_complete (by rw [Operation.verdict, refundPaymentVerdict, hm]; rfl)
    | authorization | capture | void => exact reportable.elim

end VerdictOn

/-! ## Runs with the bank client -/

/-- The assumptions about a run: the clock never shows the zero time, and the answers come
from the bank client. -/
def ServedBy (client : BankClient) (s : State) (e : Event) : Prop :=
  ClockSet e ∧ AnswersFrom client s e

theorem clock_ne_zero {clock : Time} (start : clock ≠ 0)
    (run : Reaches (step service) (ServedBy client) (State.initial clock) s) : s.clock ≠ 0 := by
  apply run.invariant start
  intro s e s' _ hclock hserved hstep
  cases step_cases hstep with
  | tick now => exact hserved.1 now rfl
  | receive | act | scheduleCleanup | runCleanup => exact hclock

/-- An attempt that waits for the bank knows what to do with whatever the client reports. -/
theorem verdictOn_of_waits (client : BankClient) {id : ℕ} {attempt : Attempt}
    {claim : PaymentCommandClaim} (inv : Inv service s) (time : s.clock ≠ 0)
    (running : s.attempts id = some attempt) (phase : attempt.phase.Waits claim)
    (encounter : BankClient.Encounter) :
    VerdictOn claim.payment s.clock claim.operation
      (client.call (attempt.command.bankRequest claim.payment) encounter).1 := by
  have hfor := (inv.attempts id attempt running).claimFor_of_waits phase
  have hreport := client.reportable_call (attempt.command.bankRequest claim.payment) encounter
  rw [Command.endpoint_bankRequest, ← hfor.operation] at hreport
  exact .of_reportable hreport (hfor.operation ▸ hfor.status) time

/-- A claim is to be released because the bank client returned an error, one that is not an
expired authorization and that leaves no new authorization in doubt. -/
def RejectedByBank (log : List Observation) (id : ℕ) (claim : PaymentCommandClaim)
    (err : GoError) : Prop :=
  ∃ bankErr, err = ensurePaymentError bankErr ∧
    .answered id claim.payment.id (.failed bankErr) ∈ log ∧
    hasPaymentErrorKind bankErr .authorizationExpired = false ∧
    (claim.operation = .authorizePayment → isUnknownAuthorizationOutcome bankErr = false)

/-- Every claim about to be released was rejected by the bank. -/
def ReleasesRejected (s : State) : Prop :=
  ∀ id attempt claim err, s.attempts id = some attempt → attempt.phase = .releasing claim err →
    RejectedByBank s.log id claim err

theorem ReleasesRejected.step (h : ReleasesRejected s) (inv : Inv service s) (time : s.clock ≠ 0)
    (answers : AnswersFrom client s e) (hstep : SystemStep service s e s') :
    ReleasesRejected s' := by
  intro id attempt' claim err running' phase'
  rcases hstep.attempt_cases running' with hkept | ⟨command, _, _, rfl⟩ |
    ⟨action, attempt, effect, rfl, running, rule, rfl, rfl⟩
  · obtain ⟨bankErr, herr, hlogged, hrest⟩ := h id attempt' claim err hkept phase'
    exact ⟨bankErr, herr, hstep.log_subset hlogged, hrest⟩
  · cases phase'
  · obtain ⟨answer, rfl, phase, hverdict, hobserved⟩ := rule.of_releasing phase'
    obtain ⟨encounter, rfl⟩ := answers id _ attempt rfl running answer claim rfl phase
    -- The verdict is a release, so what the client returned was not recorded.
    cases verdictOn_of_waits client inv time running phase encounter with
    | recorded m kind verdict _ =>
      rw [hverdict] at verdict
      cases verdict
    | rejected bankErr failed verdict unexpired known =>
      rw [hverdict] at verdict
      cases verdict
      refine ⟨bankErr, rfl, ?_, unexpired, known⟩
      apply List.mem_append_left
      rw [hobserved, failed]
      exact List.mem_singleton_self _

/-- With a set clock, well-formed draws and the answers of the bank client, a new payment can
always be built, every result, decline and expiration that the client can report is recorded on
the claimed payment, and a claim is released only after the client returned another error. -/
theorem released_only_after_rejection (service : PaymentService) (client : BankClient)
    (generates : service.Generates) (clock : Time) (start : clock ≠ 0) (s : State)
    (run : Reaches (step service) (ServedBy client) (State.initial clock) s) :
    (∀ command, ∃ request drawn', service.prepare command s.clock s.drawn = (.ok request, drawn')) ∧
      (∀ id attempt claim encounter, s.attempts id = some attempt → attempt.phase.Waits claim →
        ∀ answer, (client.call (attempt.command.bankRequest claim.payment) encounter).1 = answer →
          answer.Recorded → ∃ m kind, Marked claim.payment s.clock claim.operation answer m kind ∧
            claim.operation.verdict claim.payment s.clock answer = some (.complete m kind)) ∧
      ReleasesRejected s := by
  have htime := clock_ne_zero start run
  have hinv : Inv service s := inv_of_reaches run
  refine ⟨fun command => generates.exists_prepare command htime s.drawn, ?_, ?_⟩
  · rintro id attempt claim encounter running phase answer rfl hrecorded
    cases verdictOn_of_waits client hinv htime running phase encounter with
    | recorded m kind verdict marked => exact ⟨m, kind, marked, verdict⟩
    | rejected bankErr failed _ unexpired _ =>
      rw [failed] at hrecorded
      exact absurd (unexpired.symm.trans hrecorded) nofun
  · apply run.invariant (P := ReleasesRejected)
    · intro id attempt claim err h
      cases h
    · intro s e s' hreaches h hserved hstep
      exact h.step (inv_of_reaches hreaches) (clock_ne_zero start hreaches) hserved.2
        (step_cases hstep)

/-- The bank answers at once. -/
def Sample.responds (statusCode : ℕ) (body : GoString) : BankClient.Encounter :=
  ⟨Sample.answering (Sample.response statusCode body), none,
    Sample.answering (Sample.response statusCode body)⟩

/-- The bank rejects the card. -/
def Sample.rejects : BankClient.Encounter :=
  Sample.responds 400 (ascii "\x7b\"error\":\"invalid_card\",\"message\":\"\"\x7d")

/-- The bank authorizes the payment. -/
def Sample.approves : BankClient.Encounter :=
  Sample.responds 200 (ascii
    "\x7b\"authorization_id\":\"auth-1\",\"expires_at\":\"2030-01-01T00:00:00Z\"\x7d")

/-- The clock stays as it is, and every answer is what the client makes of one encounter. -/
def servedWith (client : BankClient) (encounter : BankClient.Encounter) (s : State) :
    Event → Bool
  | .tick _ => false
  | .act id (.answer answer) => (s.attempts id).all fun attempt =>
      match attempt.phase with
      | .calling claim | .awaiting claim =>
        (client.call (attempt.command.bankRequest claim.payment) encounter).1 == answer
      | _ => true
  | _ => true

theorem servedBy_of_servedWith (client : BankClient) (encounter : BankClient.Encounter)
    (h : servedWith client encounter s e = true) : ServedBy client s e := by
  constructor
  · rintro clock rfl
    cases h
  · rintro id _ attempt rfl running answer claim rfl phase
    refine ⟨encounter, ?_⟩
    simp only [servedWith, running, Option.all_some] at h
    rcases phase with phase | phase <;> simpa only [phase, beq_iff_eq] using h

/-- A rejected card is about to be released, while an approval can be recorded on another new
payment. -/
theorem released_only_after_rejection_of_card :
    ∃ s rejected held err waiting claim m kind,
      Reaches (step Sample.service) (ServedBy Sample.bankClient) (State.initial 1) s ∧
      s.attempts 0 = some rejected ∧ rejected.phase = .releasing held err ∧
      RejectedByBank s.log 0 held err ∧
      s.attempts 1 = some waiting ∧ waiting.phase.Waits claim ∧
      Marked claim.payment s.clock claim.operation
        (Sample.bankClient.call (waiting.command.bankRequest claim.payment)
          Sample.approves).1 m kind := by
  obtain ⟨s, hrun, hproperty⟩ := exists_reaches_of_execWhere
    (fun s e => servedBy_of_servedWith Sample.bankClient Sample.rejects (s := s) (e := e))
    (Sample.call 0 (Sample.authorize (ascii "k0") (by decide)) ++
      [.act 0 (.answer (.failed (newInvalidPaymentInputError (ascii "card details are invalid")
        .none)))] ++ Sample.call 1 (Sample.authorize (ascii "k1") (by decide)))
    (show (execWhere (step Sample.service) _ (State.initial 1) _).any
      (fun s =>
        (s.attempts 0).any (fun attempt => match attempt.phase with
          | .releasing _ _ => true
          | _ => false) &&
        (s.attempts 1).any (fun attempt => match attempt.phase with
          | .awaiting claim => (Sample.bankClient.call (attempt.command.bankRequest claim.payment)
              Sample.approves).1 ==
                .authorization ⟨ascii "auth-1", 64029052800 * 1000000000, []⟩
          | _ => false)) = true by decide +kernel)
  simp only [Bool.and_eq_true, Option.any_eq_true] at hproperty
  obtain ⟨⟨rejected, hrejected, hreleasing⟩, waiting, hwaiting, hawaiting⟩ := hproperty
  obtain ⟨-, hrecorded, hreleased⟩ := released_only_after_rejection Sample.service Sample.bankClient
    Sample.generates 1 (by decide) s hrun
  split at hreleasing
  · next held err hphase =>
    split at hawaiting
    · next claim hphase' =>
      obtain ⟨m, kind, hmarked, -⟩ := hrecorded 1 waiting claim _ hwaiting (.inr hphase') _ rfl
        (by rw [beq_iff_eq.mp hawaiting]; trivial)
      exact ⟨s, rejected, held, err, waiting, claim, m, kind, hrun, hrejected, hphase,
        hreleased 0 rejected held err hrejected hphase, hwaiting, .inr hphase', hmarked⟩
    · cases hawaiting
  · cases hreleasing

end PaymentGateway
