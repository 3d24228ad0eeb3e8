/-
# Replay fidelity

A completed record is not touched by any claim, completion or release, and a cleanup
removes it only after the replay window, because the cutoff of a cleanup was read from
the clock before the cleanup ran. Until then every request with the record's operation
and key is answered from it: with the very outcome that the attempt returned that
completed the record, or with a conflict if the request is another one. None of the
steps of such a request reaches the bank or changes a table.

The window is that of the claim. A request that is made within it and claims after its end
may find that a cleanup was faster, and then it is carried out again.
-/

import PaymentGateway.Invariant.Ownership

namespace PaymentGateway

open Lib

variable {service : PaymentService} {s s' : State} {e : Event} {recordKey : Operation × GoString}
  {record : IdempotencyRecord}

/-! ## Records within the replay window -/

/-- Cleanups read the clock before they run, and completion times are in the past. -/
structure ClockInv (s : State) : Prop where
  cutoffs : ∀ completedBefore ∈ s.cleanups, completedBefore ≤ s.clock - idempotencyReplayWindow
  stamped : ∀ id attempt claim result completedAt, s.attempts id = some attempt →
    attempt.phase = .persisting claim result completedAt → completedAt ≤ s.clock

theorem ClockInv.step (times : ClockInv s) (hstep : SystemStep service s e s')
    (forward : ClockForward s e) : ClockInv s' := by
  have hclock := hstep.clock_le forward
  constructor
  · intro completedBefore hmem
    cases hstep with
    | tick clock =>
      have hcutoff := times.cutoffs completedBefore hmem
      have hle : (s.clock : ℤ) ≤ clock := Int.ofNat_le.mpr hclock
      exact hcutoff.trans (sub_le_sub_right hle _)
    | receive | act => exact times.cutoffs completedBefore hmem
    | scheduleCleanup =>
      rcases List.mem_cons.mp hmem with rfl | hmem
      · exact le_rfl
      · exact times.cutoffs completedBefore hmem
    | runCleanup => exact times.cutoffs completedBefore (List.mem_of_mem_erase hmem)
  · intro id attempt' claim result completedAt h phase
    rcases hstep.attempt_cases h with hold | ⟨command, _, _, rfl⟩ |
      ⟨action, attempt, effect, rfl, running, rule, rfl, rfl⟩
    · exact (times.stamped id attempt' claim result completedAt hold phase).trans hclock
    · cases phase
    · cases rule with
      | stamped =>
        cases phase
        exact le_rfl
      | _ => cases phase

theorem clockInv_of_reaches {clock : Time}
    (run : Reaches (PaymentGateway.step service) ClockForward (State.initial clock) s) :
    ClockInv s := by
  refine run.invariant ⟨?_, ?_⟩ fun s e s' _ times forward taken =>
    times.step (step_cases taken) forward
  · intro _ h
    cases h
  · intro _ _ _ _ _ h
    cases h

/-- The replay window of a record is open. -/
def IdempotencyRecord.InWindow (record : IdempotencyRecord) (now : Time) : Prop :=
  ∀ completedAt ∈ record.completedAt, (now : ℤ) - completedAt ≤ idempotencyReplayWindow

instance (record : IdempotencyRecord) (now : Time) : Decidable (record.InWindow now) :=
  inferInstanceAs (Decidable (∀ completedAt ∈ record.completedAt, _))

theorem IdempotencyRecord.InWindow.mono {now later : Time} (h : record.InWindow later)
    (hle : now ≤ later) : record.InWindow now := by
  intro completedAt hat
  have hle : (now : ℤ) ≤ later := Int.ofNat_le.mpr hle
  exact (sub_le_sub_right hle _).trans (h completedAt hat)

/-- Within its replay window a completed record is kept. -/
theorem ClockInv.records_of_completed (times : ClockInv s) (inv : Inv service s)
    (hstep : SystemStep service s e s') (slot : s.db.records recordKey = some record)
    (completed : record.status = .completed) (window : record.InWindow s.clock) :
    s'.db.records recordKey = some record := by
  refine hstep.records_of_completed inv slot completed fun completedBefore completedAt he hat => ?_
  subst he
  cases hstep with
  | runCleanup _ scheduled =>
    have hcutoff := times.cutoffs completedBefore scheduled
    have hwindow := window completedAt hat
    omega

/-! ## Answers from a completed record -/

/-- What a request with a fingerprint is answered from a record whose command had an
outcome. -/
def IdempotencyRecord.answer (record : IdempotencyRecord) (outcome : Outcome)
    (fingerprint : GoString) : Outcome :=
  if fingerprint = record.requestFingerprint then outcome
  else .error (newPaymentIdempotencyConflictError .none)

/-- A claim on a completed record is replayed or refused, and changes nothing. -/
theorem Db.claim_of_completed {db : Db} {request : ClaimRequest} {result : PaymentCommandResult}
    (time : request.base.now ≠ 0) (slot : db.records request.base.recordKey = some record)
    (completed : record.status = .completed) (stored : storedResult record = .ok result) :
    db.claim request = (if request.base.requestFingerprint = record.requestFingerprint then
      .ok (.replayed result) else .error (newPaymentIdempotencyConflictError .none), db) := by
  split_ifs with hfingerprint
  · exact claim_eq_replayed.mpr
      ⟨time, ⟨record, slot, hfingerprint.symm, completed, stored⟩, rfl⟩
  · exact claim_of_other_fingerprint time slot (Ne.symm hfingerprint) fun _ => ⟨result, stored⟩

theorem Db.not_granted_of_completed {db db' : Db} {request : ClaimRequest}
    {claim : PaymentCommandClaim} {result : PaymentCommandResult}
    (time : request.base.now ≠ 0) (slot : db.records request.base.recordKey = some record)
    (completed : record.status = .completed) (stored : storedResult record = .ok result) :
    ¬ db.Granted request claim db' := by
  intro grant
  have hclaim := claim_eq_granted.mpr grant
  rw [claim_of_completed time slot completed stored] at hclaim
  split_ifs at hclaim <;> cases hclaim

/-- The claim step of an attempt on a completed record. -/
theorem step_claim_of_completed (service : PaymentService) {j : ℕ} {attempt : Attempt}
    {request : ClaimRequest} {result : PaymentCommandResult}
    (running : s.attempts j = some attempt)
    (phase : attempt.phase = .claiming request) (time : request.base.now ≠ 0)
    (slot : s.db.records request.base.recordKey = some record)
    (completed : record.status = .completed) (stored : storedResult record = .ok result) :
    PaymentGateway.step service s (.act j .claim) =
      some (s.after j ⟨attempt.goto (.returned (record.answer (replayPaymentCommand result)
        request.base.requestFingerprint)), s.db, s.drawn, []⟩) := by
  have hclaim := Db.claim_of_completed time slot completed stored
  unfold IdempotencyRecord.answer
  split_ifs at hclaim ⊢
  · simp [PaymentGateway.step, running, attemptStep, phase, hclaim]
  · simp only [PaymentGateway.step, running, attemptStep, phase, hclaim, Option.map_some]
    rfl

/-! ## Generators -/

/-- The generators return well-formed ids and keys, and digests are not blank. -/
structure PaymentService.Generates (service : PaymentService) : Prop where
  ids : ∀ n, validatePaymentID (service.newPaymentID n) = .ok ()
  keys : ∀ n, trimSpace (service.newBankOperationKey n) ≠ []
  digests : ∀ payload, trimSpace (service.mac payload) ≠ []

/-- With well-formed values to draw, a method gets to its claim. -/
theorem PaymentService.Generates.exists_prepare (generates : service.Generates) (command : Command)
    {now : Time} (time : now ≠ 0) (drawn : Draws) :
    ∃ request drawn', service.prepare command now drawn = (.ok request, drawn') := by
  cases command with
  | authorizePayment c =>
    have hcard : trimSpace (service.authorizationCardFingerprint c.card) ≠ [] := generates.digests _
    have hnew := newPendingPayment_eq_ok.mpr ⟨generates.ids drawn.paymentIDs,
      c.orderID_valid.trimSpace_eq ▸ c.orderID_valid.ne_nil,
      c.customerID_valid.trimSpace_eq ▸ c.customerID_valid.ne_nil, c.amount_valid,
      generates.keys drawn.bankOperationKeys, hcard, time, rfl⟩
    exact ⟨_, _, by rw [PaymentService.prepare]; simp only [hnew]; rfl⟩
  | retryAuthorization | capturePayment | voidPayment | refundPayment => exact ⟨_, _, rfl⟩

/-! ## Requests after the completion -/

/-- A request that is answered from a record: it has not reached its claim yet, or it has
been answered. -/
def Attempt.AnsweredFrom (service : PaymentService) (record : IdempotencyRecord)
    (outcome : Outcome) (attempt : Attempt) : Prop :=
  attempt.phase = .received ∨ (∃ request, attempt.phase = .claiming request) ∨
    attempt.phase = .returned (record.answer outcome (service.requestFingerprint attempt.command))

/-- An event that does not cut a request off. -/
def Uncut (j : ℕ) (e : Event) : Prop :=
  e ≠ .act j .die ∧ ∀ committed, e ≠ .act j (.storeFails committed)

instance (j : ℕ) (e : Event) : Decidable (Uncut j e) := inferInstanceAs (Decidable (_ ∧ _))

section Requests

variable {j : ℕ} {attempt : Attempt} {request : ClaimRequest} {result : PaymentCommandResult}

/-- A request that is built for a command carries its key, its fingerprint and its time. -/
theorem Inv.request_eq (inv : Inv service s) (running : s.attempts j = some attempt)
    (phase : attempt.phase = .claiming request) :
    request.base.recordKey = attempt.command.recordKey ∧
      request.base.requestFingerprint = service.requestFingerprint attempt.command ∧
      request.base.now = attempt.preparedAt := by
  obtain ⟨_, _, hbuilt⟩ := (inv.attempts j attempt running).built phase
  exact ⟨hbuilt.recordKey_eq, by rw [hbuilt.base_eq], by rw [hbuilt.base_eq]⟩

theorem Attempt.AnsweredFrom.held_eq_none {outcome : Outcome}
    (answered : attempt.AnsweredFrom service record outcome) : attempt.phase.held = none := by
  rcases answered with h | ⟨_, h⟩ | h <;> rw [h] <;> rfl

/-- A step of a request with the key of a completed record changes neither the tables nor
the log, and unless it cuts the request off it leaves the request to be answered or answers
it. -/
theorem AttemptStep.answered {action : Action} {effect : Effect}
    (rule : AttemptStep service s.clock s.drawn s.db j attempt action effect)
    (answered : attempt.AnsweredFrom service record (replayPaymentCommand result))
    (inv : Inv service s) (running : s.attempts j = some attempt)
    (same : attempt.command.recordKey = recordKey)
    (slot : s.db.records recordKey = some record) (completed : record.status = .completed)
    (stored : storedResult record = .ok result) (generates : service.Generates)
    (now : s.clock ≠ 0) (time : attempt.preparedAt ≠ 0) :
    effect.db = s.db ∧ effect.observed = [] ∧
      (Uncut j (.act j action) →
        effect.attempt.AnsweredFrom service record (replayPaymentCommand result)) := by
  have hnone := answered.held_eq_none
  -- Whatever request the attempt claims with, it finds the completed record.
  have hrequest : ∀ request, attempt.phase = .claiming request → request.base.now ≠ 0 ∧
      s.db.records request.base.recordKey = some record ∧
      request.base.requestFingerprint = service.requestFingerprint attempt.command := by
    intro request phase
    obtain ⟨hkey, hfingerprint, hnow⟩ := inv.request_eq running phase
    exact ⟨hnow ▸ time, by rw [hkey, same, slot], hfingerprint⟩
  cases rule with
  | prepared request drawn' phase built => exact ⟨rfl, rfl, fun _ => .inr (.inl ⟨request, rfl⟩)⟩
  | unprepared err drawn' phase failed =>
    obtain ⟨request, _, hprepare⟩ := generates.exists_prepare attempt.command now s.drawn
    rw [failed] at hprepare
    cases hprepare
  | granted request claim db' phase grant =>
    obtain ⟨hnow, hslot, _⟩ := hrequest request phase
    exact absurd grant (Db.not_granted_of_completed hnow hslot completed stored)
  | replayed request result' phase _ replay =>
    obtain ⟨_, hslot, hfingerprint⟩ := hrequest request phase
    obtain ⟨record', hslot', hsame, _, hstored⟩ := replay
    rw [hslot, Option.some_inj] at hslot'
    subst hslot'
    rw [stored, Except.ok.injEq] at hstored
    subst hstored
    refine ⟨rfl, rfl, fun _ => .inr (.inr ?_)⟩
    exact congrArg Phase.returned (if_pos (hfingerprint.symm.trans hsame.symm)).symm
  | refused request err phase refusal =>
    obtain ⟨hnow, hslot, hfingerprint⟩ := hrequest request phase
    rw [Db.claim_of_completed hnow hslot completed stored] at refusal
    split_ifs at refusal with hsame
    · cases refusal
    · cases refusal
      refine ⟨rfl, rfl, fun _ => .inr (.inr ?_)⟩
      exact congrArg Phase.returned (if_neg (hfingerprint ▸ hsame)).symm
  | claimFailed request committed phase => exact ⟨rfl, rfl, fun h => absurd rfl (h.2 committed)⟩
  | claimLost request claim db' phase grant =>
    obtain ⟨hnow, hslot, _⟩ := hrequest request phase
    exact absurd grant (Db.not_granted_of_completed hnow hslot completed stored)
  | died => exact ⟨rfl, rfl, fun h => absurd rfl h.1⟩
  -- The other rules are for attempts that hold a claim, which this one never does.
  | sent claim phase | marked claim _ _ _ phase | withdrawn claim _ _ phase =>
    exact absurd (hnone.symm.trans phase.held) nofun
  | stamped _ _ phase | completed _ _ _ _ _ _ phase | uncompleted _ _ _ _ phase
  | completionFailed _ _ _ _ phase | completionLost _ _ _ _ _ _ phase | released _ _ phase
  | releaseFailed _ _ _ phase =>
    rw [phase] at hnone
    cases hnone

/-- What holds after a completion of a record and of the requests received since. -/
structure ReplayInv (service : PaymentService) (start : Time) (recordKey : Operation × GoString)
    (record : IdempotencyRecord) (outcome : Outcome) (j : ℕ) (s : State) : Prop where
  clock : start ≤ s.clock
  slot : record.InWindow s.clock → s.db.records recordKey = some record
  prepared : ∀ attempt, s.attempts j = some attempt → start ≤ attempt.preparedAt
  answered : ∀ attempt, s.attempts j = some attempt → attempt.command.recordKey = recordKey →
    record.InWindow s.clock → attempt.AnsweredFrom service record outcome

theorem ReplayInv.step {start : Time}
    (replay : ReplayInv service start recordKey record (replayPaymentCommand result) j s)
    (times : ClockInv s) (inv : Inv service s) (hstep : SystemStep service s e s')
    (forward : ClockForward s e) (uncut : Uncut j e) (positive : start ≠ 0)
    (completed : record.status = .completed) (stored : storedResult record = .ok result)
    (generates : service.Generates) :
    ReplayInv service start recordKey record (replayPaymentCommand result) j s' := by
  have hclock := hstep.clock_le forward
  have hpositive : ∀ {time : Time}, start ≤ time → time ≠ 0 := by
    rintro time hle rfl
    exact positive (Nat.le_zero.mp hle)
  refine ⟨replay.clock.trans hclock, fun window => ?_, fun attempt' h => ?_,
    fun attempt' h same window => ?_⟩
  · have hwindow := window.mono hclock
    exact times.records_of_completed inv hstep (replay.slot hwindow) completed hwindow
  · rcases hstep.attempt_cases h with hold | ⟨command, _, _, rfl⟩ |
      ⟨action, attempt, effect, rfl, running, rule, rfl, rfl⟩
    · exact replay.prepared attempt' hold
    · exact replay.clock
    · cases rule with
      | prepared => exact replay.clock
      | _ => exact replay.prepared attempt running
  · have hwindow := window.mono hclock
    rcases hstep.attempt_cases h with hold | ⟨command, _, _, rfl⟩ |
      ⟨action, attempt, effect, rfl, running, rule, rfl, rfl⟩
    · exact replay.answered attempt' hold same hwindow
    · exact .inl rfl
    · rw [rule.command_eq] at same
      exact (rule.answered (replay.answered attempt running same hwindow) inv running same
        (replay.slot hwindow) completed stored generates (hpositive replay.clock)
        (hpositive (replay.prepared attempt running))).2.2 uncut

end Requests

/-- The record that a completion leaves stores what the attempt returns, and the completion
happened after the zero time. -/
theorem exists_stored_of_completes {id : ℕ} {outcome : Outcome} (times : ClockInv s)
    (taken : PaymentGateway.step service s (.act id .complete) = some s')
    (completes : CompletesRecord s s' recordKey) (stored : s'.db.records recordKey = some record)
    (returned : (s'.attempts id).map (·.phase) = some (.returned outcome)) :
    ∃ result, storedResult record = .ok result ∧ record.status = .completed ∧
      outcome = replayPaymentCommand result ∧ s'.clock ≠ 0 := by
  cases step_cases taken with
  | act _ _ attempt effect running rule =>
    cases rule with
    | completed claim result completedAt row record' db' phase completion =>
      obtain rfl := (completion.completesRecord_iff recordKey).mp completes
      have hslot : db'.records claim.recordKey = some record := stored
      rw [completion.after, Db.setRecord_records_self, Option.some_inj] at hslot
      subst hslot
      rw [State.attempts_after_self] at returned
      cases returned
      refine ⟨result, completion.storedResult, rfl, rfl, fun hzero => completion.time ?_⟩
      have hle := times.stamped id attempt claim result completedAt running phase
      rw [show s.clock = 0 from hzero] at hle
      exact Nat.le_zero.mp hle
    | uncompleted _ _ _ err phase refusal =>
      obtain ⟨before, after, hbefore, hopen, hafter, hdone⟩ := completes
      have hafter : s.db.records recordKey = some after := hafter
      rw [hbefore, Option.some_inj] at hafter
      rw [← hafter, hopen] at hdone
      cases hdone

/-- **Replay fidelity.** An attempt completes a record and returns an outcome. Within the
replay window of the record, whatever happens in between, a request received since then with
the record's operation and key is on its way to its claim or answered: with that outcome if
it has the record's fingerprint, and with a conflict otherwise. Its next step is enabled, its
claim answers it, and none of its steps changes a table or the log. -/
theorem replay_fidelity (service : PaymentService) (generates : service.Generates) (clock : Time)
    (s s₁ s₂ : State) (id j : ℕ) (recordKey : Operation × GoString) (record : IdempotencyRecord)
    (outcome : Outcome)
    (before : Reaches (PaymentGateway.step service) ClockForward (State.initial clock) s)
    (taken : PaymentGateway.step service s (.act id .complete) = some s₁)
    (completes : CompletesRecord s s₁ recordKey)
    (stored : s₁.db.records recordKey = some record)
    (returned : (s₁.attempts id).map (·.phase) = some (.returned outcome))
    (unborn : s₁.attempts j = none)
    (later : Reaches (PaymentGateway.step service) (fun s e => ClockForward s e ∧ Uncut j e) s₁ s₂)
    (window : record.InWindow s₂.clock) (attempt : Attempt)
    (running : s₂.attempts j = some attempt) (same : attempt.command.recordKey = recordKey) :
    attempt.AnsweredFrom service record outcome ∧
    (∀ action s₃, PaymentGateway.step service s₂ (.act j action) = some s₃ →
      s₃.db = s₂.db ∧ s₃.log = s₂.log) ∧
    (attempt.phase = .received → ∃ s₃ request,
      PaymentGateway.step service s₂ (.act j .prepare) = some s₃ ∧
      (s₃.attempts j).map (·.phase) = some (.claiming request)) ∧
    (∀ request, attempt.phase = .claiming request → ∃ s₃,
      PaymentGateway.step service s₂ (.act j .claim) = some s₃ ∧
      (s₃.attempts j).map (·.phase) = some (.returned
        (record.answer outcome (service.requestFingerprint attempt.command)))) := by
  obtain ⟨result, hstored, hcompleted, rfl, hpositive⟩ :=
    exists_stored_of_completes (clockInv_of_reaches before) taken completes stored returned
  have hstart := before.tail _ (fun _ he => by cases he) taken
  have hreaches : ∀ {t}, Reaches (PaymentGateway.step service)
      (fun s e => ClockForward s e ∧ Uncut j e) s₁ t →
      Reaches (PaymentGateway.step service) ClockForward (State.initial clock) t :=
    fun run => hstart.trans (run.mono fun _ _ allowed => allowed.1)
  have replay : ReplayInv service s₁.clock recordKey record (replayPaymentCommand result) j s₂ := by
    refine later.invariant ⟨le_rfl, fun _ => stored, ?_, ?_⟩ fun t e t' run replay allowed taken =>
      replay.step (clockInv_of_reaches (hreaches run)) (inv_of_reaches (hreaches run))
        (step_cases taken) allowed.1 allowed.2 hpositive hcompleted hstored generates
    -- The attempt was not there yet when the record was completed.
    all_goals
      intro attempt h
      rw [unborn] at h
      cases h
  have inv := inv_of_reaches (hreaches later)
  have hslot := replay.slot window
  have hanswered := replay.answered attempt running same window
  -- The clock has not gone back since the completion, which had a time.
  have hnow : s₂.clock ≠ 0 := fun h => hpositive (Nat.le_zero.mp (h ▸ replay.clock))
  have htime : attempt.preparedAt ≠ 0 := fun h =>
    hpositive (Nat.le_zero.mp (h ▸ replay.prepared attempt running))
  refine ⟨hanswered, ?_, ?_, ?_⟩
  · intro action s₃ hstep
    obtain ⟨effect, rfl, rule⟩ := (step_cases hstep).exists_effect running
    obtain ⟨hdb, hlog, _⟩ := rule.answered hanswered inv running same hslot hcompleted hstored
      generates hnow htime
    exact ⟨hdb, by simp [State.after, hlog]⟩
  · intro phase
    obtain ⟨request, drawn', hprepare⟩ := generates.exists_prepare attempt.command hnow s₂.drawn
    have hstep : PaymentGateway.step service s₂ (.act j .prepare) =
        some (s₂.after j ⟨{ attempt with phase := .claiming request, preparedAt := s₂.clock },
          s₂.db, drawn', []⟩) := by
      simp only [PaymentGateway.step, running, attemptStep, phase, hprepare, Option.map_some]
    exact ⟨_, request, hstep, by rw [State.attempts_after_self]; rfl⟩
  · intro request phase
    obtain ⟨hkey, hfingerprint, hprepared⟩ := inv.request_eq running phase
    have hclaim := step_claim_of_completed service running phase (hprepared ▸ htime)
      (by rw [hkey, same, hslot]) hcompleted hstored
    refine ⟨_, hclaim, ?_⟩
    rw [State.attempts_after_self, ← hfingerprint]
    rfl

theorem Sample.validatePaymentID_of_lt {digit : ℕ} (h : digit < 10) :
    validatePaymentID (ascii "pay_00000000-0000-4000-8000-00000000000" ++ formatNat digit) =
      .ok () := by
  revert digit
  decide +kernel

theorem Sample.generates : Sample.service.Generates where
  ids n := Sample.validatePaymentID_of_lt (Nat.mod_lt n (by decide))
  keys n := by
    have hletter : (0x6B : UInt8) ∈ trimSpace (Sample.service.newBankOperationKey n) :=
      mem_trim (by decide) (by simp [Sample.service, ascii])
    exact List.ne_nil_of_mem hletter
  digests payload := by
    have hletter : (0x6D : UInt8) ∈ trimSpace (Sample.service.mac payload) :=
      mem_trim (by decide) List.mem_cons_self
    exact List.ne_nil_of_mem hletter

/-- An authorization is completed, and the same request is received again: its claim answers
it with the result that the first one returned. -/
theorem replay_fidelity_repeated :
    ∃ s₁ s₂ s₃ outcome, (s₁.attempts 0).map (·.phase) = some (.returned outcome) ∧
      Reaches (PaymentGateway.step Sample.service) (fun s e => ClockForward s e ∧ Uncut 1 e) s₁ s₂ ∧
      PaymentGateway.step Sample.service s₂ (.act 1 .claim) = some s₃ ∧
      (s₃.attempts 1).map (·.phase) = some (.returned outcome) ∧ s₃.db = s₂.db := by
  let recordKey : Operation × GoString := (.authorizePayment, ascii "k0")
  let command := Sample.authorize (ascii "k0") (by decide)
  obtain ⟨s, hs, hproperty⟩ := exists_reaches_of_execWhere (fun _ _ => of_decide_eq_true)
    Sample.authorized.dropLast
    (show (execWhere (PaymentGateway.step Sample.service) (fun s e => decide (ClockForward s e))
      (State.initial 1) _).any (fun s => (s.db.records recordKey).any (·.status = .inProgress) &&
        (PaymentGateway.step Sample.service s (.act 0 .complete)).any fun s₁ =>
          ((s₁.attempts 0).any (·.phase.isReturned) && (s₁.attempts 1).isNone) &&
          (s₁.db.records recordKey).any fun record => (record.status = .completed &&
            record.requestFingerprint = Sample.service.requestFingerprint command) &&
            (execWhere (PaymentGateway.step Sample.service)
              (fun s e => decide (ClockForward s e ∧ Uncut 1 e)) s₁
              ((Sample.call 1 command).take 2)).any fun s₂ => record.InWindow s₂.clock &&
                (s₂.attempts 1).any fun attempt => attempt.phase.isClaiming &&
                  attempt.command = command) = true by decide +kernel)
  simp only [Option.any_eq_true, Bool.and_eq_true, decide_eq_true_eq, Option.isNone_iff_eq_none]
    at hproperty
  obtain ⟨⟨record, hopen, hstatus⟩, s₁, taken, ⟨⟨finished, hfinished, hreturned⟩, hunborn⟩, record',
    hrecord, ⟨hcompleted, hfingerprint⟩, s₂, hlater, hwindow, attempt, hrunning, hclaiming,
    hcommand⟩ := hproperty
  -- The first attempt has returned an outcome, and the second is about to claim.
  obtain ⟨outcome, houtcome⟩ := Phase.exists_of_isReturned hreturned
  obtain ⟨request, hrequest⟩ := Phase.exists_of_isClaiming hclaiming
  have hphase : (s₁.attempts 0).map (·.phase) = some (.returned outcome) := by
    rw [hfinished, Option.map_some, houtcome]
  have hrun := reaches_of_execWhere (fun _ _ => of_decide_eq_true) hlater
  obtain ⟨_, hquiet, _, hanswer⟩ := replay_fidelity Sample.service Sample.generates 1 s s₁ s₂ 0 1
    recordKey record' outcome hs taken ⟨record, record', hopen, hstatus, hrecord, hcompleted⟩
    hrecord hphase hunborn hrun hwindow attempt hrunning (by rw [hcommand]; rfl)
  obtain ⟨s₃, hclaim, hreplayed⟩ := hanswer request hrequest
  rw [hcommand, IdempotencyRecord.answer, if_pos hfingerprint.symm] at hreplayed
  exact ⟨s₁, s₂, s₃, outcome, hphase, hrun, hclaim, hreplayed, (hquiet _ _ hclaim).1⟩

/-- A command again, up to its claim, 24 hours after its completion. The claim comes a nanosecond
later, after a cleanup. -/
def Sample.claimAfterCleanup (command : Command) : List Event × List Event :=
  (.tick 86400000000001 :: (Sample.call 1 command).take 2,
    [.tick 86400000000002, .scheduleCleanup, .runCleanup 2, .act 1 .claim, .act 1 .send])

/-- A request that is made within the replay window is not always replayed: here the record is
cleaned up before the request claims, and the bank is asked for a second authorization, of a
payment that is new. -/
theorem replay_lost_to_cleanup :
    ∃ s s₁ s₂ s₃ record outcome attempt, ∃ claim : PaymentCommandClaim,
      Reaches (PaymentGateway.step Sample.service) ClockForward (State.initial 1) s ∧
      PaymentGateway.step Sample.service s (.act 0 .complete) = some s₁ ∧
      CompletesRecord s s₁ (.authorizePayment, ascii "k0") ∧
      s₁.db.records (.authorizePayment, ascii "k0") = some record ∧
      (s₁.attempts 0).map (·.phase) = some (.returned outcome) ∧ s₁.attempts 1 = none ∧
      Reaches (PaymentGateway.step Sample.service) (fun s e => ClockForward s e ∧ Uncut 1 e) s₁ s₂ ∧
      s₂.attempts 1 = some attempt ∧ record.InWindow attempt.startedAt ∧
      attempt.command.recordKey = (.authorizePayment, ascii "k0") ∧
      Sample.service.requestFingerprint attempt.command = record.requestFingerprint ∧
      Reaches (PaymentGateway.step Sample.service) (fun s e => ClockForward s e ∧ Uncut 1 e) s₂ s₃ ∧
      s₁.db.payments claim.payment.id = none ∧ s₃.db.payments claim.payment.id ≠ none ∧
      .sent 1 claim.payment.id (attempt.command.bankRequest claim.payment) ∈ s₃.log := by
  let recordKey : Operation × GoString := (.authorizePayment, ascii "k0")
  let again := Sample.claimAfterCleanup (Sample.authorize (ascii "k0") (by decide))
  obtain ⟨s, hs, hproperty⟩ := exists_reaches_of_execWhere (fun _ _ => of_decide_eq_true)
    Sample.authorized.dropLast
    (show (execWhere (PaymentGateway.step Sample.service) (fun s e => decide (ClockForward s e))
      (State.initial 1) _).any (fun s => (s.db.records recordKey).any (·.status = .inProgress) &&
        (PaymentGateway.step Sample.service s (.act 0 .complete)).any fun s₁ =>
          ((s₁.attempts 0).any (·.phase.isReturned) && (s₁.attempts 1).isNone) &&
          (s₁.db.records recordKey).any fun record => record.status = .completed &&
            (execWhere (PaymentGateway.step Sample.service)
              (fun s e => decide (ClockForward s e ∧ Uncut 1 e)) s₁
              again.1).any fun s₂ => (s₂.attempts 1).any fun attempt =>
                decide (record.InWindow attempt.startedAt ∧ attempt.command.recordKey = recordKey ∧
                  Sample.service.requestFingerprint attempt.command = record.requestFingerprint) &&
                (execWhere (PaymentGateway.step Sample.service)
                  (fun s e => decide (ClockForward s e ∧ Uncut 1 e)) s₂
                  again.2).any fun s₃ =>
                    ((s₃.attempts 1).bind (·.phase.held)).any fun claim =>
                      decide (s₁.db.payments claim.payment.id = none ∧
                        s₃.db.payments claim.payment.id ≠ none ∧
                        .sent 1 claim.payment.id (attempt.command.bankRequest claim.payment) ∈
                          s₃.log)) = true by decide +kernel)
  simp only [Option.any_eq_true, Bool.and_eq_true, decide_eq_true_eq, Option.isNone_iff_eq_none]
    at hproperty
  obtain ⟨⟨record, hopen, hstatus⟩, s₁, taken, ⟨⟨finished, hfinished, hreturned⟩, hunborn⟩, record',
    hrecord, hcompleted, s₂, hlater, attempt, hrunning, ⟨hwindow, hkey, hfingerprint⟩, s₃, hlast,
    claim, hclaim, hnew, hinserted, hsent⟩ := hproperty
  obtain ⟨outcome, houtcome⟩ := Phase.exists_of_isReturned hreturned
  exact ⟨s, s₁, s₂, s₃, record', outcome, attempt, claim, hs, taken,
    ⟨record, record', hopen, hstatus, hrecord, hcompleted⟩, hrecord,
    by rw [hfinished, Option.map_some, houtcome], hunborn,
    reaches_of_execWhere (fun _ _ => of_decide_eq_true) hlater, hrunning, hwindow, hkey,
    hfingerprint, reaches_of_execWhere (fun _ _ => of_decide_eq_true) hlast, hnew, hinserted, hsent⟩

end PaymentGateway
