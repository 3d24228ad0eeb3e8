/-
# What the log says

The log tells which attempt was granted which claim and which attempt sent which request.
An attempt that holds a claim was granted it, and a request that was sent is the one that
the attempt's command makes of a stored version of the payment it was granted. No attempt
is granted a claim twice.
-/

import PaymentGateway.Invariant.Keys
import PaymentGateway.Invariant.Ownership

namespace PaymentGateway

open Lib

/-! ## Commands -/

/-- The command of an attempt. -/
def State.command? (s : State) (id : ℕ) : Option Command := (s.attempts id).map (·.command)

variable {service : PaymentService} {s s' : State} {e : Event} {i : ℕ} {attempt : Attempt}
  {command : Command} {claim : PaymentCommandClaim}

theorem State.command?_eq (running : s.attempts i = some attempt) :
    s.command? i = some attempt.command := by
  rw [State.command?, running, Option.map_some]

/-- An attempt keeps its command. -/
theorem SystemStep.command?_kept (hstep : SystemStep service s e s')
    (h : s.command? i = some command) : s'.command? i = some command := by
  obtain ⟨attempt, running, rfl⟩ := Option.map_eq_some_iff.mp h
  by_cases hact : ∃ action, e = .act i action
  · obtain ⟨action, rfl⟩ := hact
    obtain ⟨effect, rfl, rule⟩ := hstep.exists_effect running
    rw [State.command?_eq (State.attempts_after_self ..), rule.command_eq]
  · rw [not_exists] at hact
    exact State.command?_eq (hstep.attempts_kept running hact)

/-! ## Claims in the log -/

theorem Db.Granted.time {db db' : Db} {request : ClaimRequest}
    (grant : db.Granted request claim db') : request.base.now ≠ 0 := by
  cases grant <;> assumption

/-- A claim in the log was there before, or the step grants it. -/
theorem SystemStep.claimed_cases (hstep : SystemStep service s e s')
    (h : .claimed i claim ∈ s'.log) :
    .claimed i claim ∈ s.log ∨ ∃ action attempt request, e = .act i action ∧
      s.attempts i = some attempt ∧ attempt.phase = .claiming request ∧
      s.db.Granted request claim s'.db := by
  cases hstep with
  | tick | receive | scheduleCleanup | runCleanup => exact .inl h
  | act id action attempt effect running rule =>
    rcases List.mem_append.mp h with hnew | hold
    · cases rule with
      | granted request claimed db' phase grant =>
        unfold grantObservations at hnew
        split_ifs at hnew <;> simp at hnew <;> obtain ⟨rfl, rfl⟩ := hnew
        · exact .inr ⟨_, attempt, request, rfl, running, phase, grant⟩
        · exact .inr ⟨_, attempt, request, rfl, running, phase, grant⟩
      | claimLost request claimed db' phase grant =>
        rw [List.mem_singleton] at hnew
        cases hnew
        exact .inr ⟨_, attempt, request, rfl, running, phase, grant⟩
      | refused request err phase refusal =>
        unfold refusalObservations at hnew
        split at hnew <;> simp at hnew
      | completed claim result completedAt row record db' phase completion =>
        dsimp only at hnew
        split_ifs at hnew <;> simp at hnew
      | _ => simp at hnew
    · exact .inl hold

/-- What the log says of claims and requests. -/
structure LogInv (service : PaymentService) (s : State) : Prop where
  claimed : ∀ i claim, .claimed i claim ∈ s.log →
    ∃ command, s.command? i = some command ∧ ClaimFor service s.db command claim
  held : ∀ i attempt claim, s.Holds i attempt claim → attempt.preparedAt ≠ 0 ∧
    ∃ granted, .claimed i granted ∈ s.log ∧ SameClaim granted claim
  sent : ∀ i paymentID request, .sent i paymentID request ∈ s.log →
    ∃ command granted p, s.command? i = some command ∧ .claimed i granted ∈ s.log ∧
      granted.payment.id = paymentID ∧ p.id = paymentID ∧ s.db.Wrote p ∧
      request = command.bankRequest p

theorem LogInv.step (log : LogInv service s) (inv : Inv service s)
    (hstep : SystemStep service s e s') : LogInv service s' := by
  have hwrote : ∀ {p}, s.db.Wrote p → s'.db.Wrote p := (hstep.ledgerStep inv).wrote
  refine ⟨?_, ?_, ?_⟩
  · intro i claim h
    -- A claim enters the log when it is granted.
    rcases hstep.claimed_cases h with hold | ⟨_, attempt, request, _, running, phase, grant⟩
    · obtain ⟨command, hcommand, hclaim⟩ := log.claimed i claim hold
      exact ⟨command, hstep.command?_kept hcommand, hclaim.mono hwrote⟩
    · obtain ⟨_, _, hbuilt⟩ := (inv.attempts i attempt running).built phase
      exact ⟨attempt.command, hstep.command?_kept (State.command?_eq running),
        grant.claimFor inv.sound hbuilt⟩
  · rintro i attempt' claim' ⟨h, held⟩
    rcases hstep.attempt_cases h with hold | ⟨command, _, _, rfl⟩ |
      ⟨action, attempt, effect, rfl, running, rule, rfl, rfl⟩
    · obtain ⟨htime, granted, hgranted, hsame⟩ := log.held i attempt' claim' ⟨hold, held⟩
      exact ⟨htime, granted, hstep.log_subset hgranted, hsame⟩
    · cases held
    · rcases rule.held_cases held with ⟨claim, held', hsame, _, hprepared⟩ |
        ⟨request, phase, grant, hprepared, hobserved⟩
      · -- A claim that is held changes only in the copy of its payment.
        obtain ⟨htime, granted, hgranted, hfirst⟩ := log.held i attempt claim ⟨running, held'⟩
        exact ⟨hprepared ▸ htime, granted, hstep.log_subset hgranted, hfirst.trans hsame⟩
      · obtain ⟨_, _, hbuilt⟩ := (inv.attempts i attempt running).built phase
        have htime := grant.time
        rw [hbuilt.base_eq] at htime
        exact ⟨hprepared ▸ htime, claim', List.mem_append_left _ hobserved, .refl _⟩
  · intro i paymentID request h
    rcases hstep.sent_cases h with hold | ⟨attempt, claim, running, phase, _, hid, hrequest⟩
    · obtain ⟨command, granted, p, hcommand, hgranted, hgid, hid, hp, hrequest⟩ :=
        log.sent i paymentID request hold
      exact ⟨command, granted, p, hstep.command?_kept hcommand, hstep.log_subset hgranted, hgid,
        hid, hwrote hp, hrequest⟩
    · -- The sender holds a claim, and the claim it was granted is on the same payment.
      have hclaim := (inv.attempts i attempt running).claimFor_of_waits phase
      obtain ⟨_, granted, hgranted, hsame⟩ := log.held i attempt claim ⟨running, phase.held⟩
      exact ⟨attempt.command, granted, claim.payment,
        hstep.command?_kept (State.command?_eq running), hstep.log_subset hgranted,
        hsame.paymentID.symm.trans hid, hid, hwrote hclaim.wrote, hrequest⟩

theorem logInv_of_reaches {guard : State → Event → Prop} {clock : Time}
    (run : Reaches (PaymentGateway.step service) guard (State.initial clock) s) :
    LogInv service s := by
  refine run.invariant ⟨?_, ?_, ?_⟩ fun s e s' run log _ taken =>
    log.step (inv_of_reaches run) (step_cases taken)
  · intro _ _ h
    cases h
  · rintro _ _ _ ⟨h, _⟩
    cases h
  · intro _ _ _ h
    cases h

/-! ## One claim for each attempt -/

/-- An attempt is granted a claim at most once. -/
structure GrantedOnce (s : State) : Prop where
  before : ∀ i attempt, s.attempts i = some attempt →
    attempt.phase = .received ∨ (∃ request, attempt.phase = .claiming request) →
    ∀ claim, .claimed i claim ∉ s.log
  unique : ∀ i claim claim', .claimed i claim ∈ s.log → .claimed i claim' ∈ s.log → claim = claim'

/-- An attempt that has not claimed yet has just been prepared, which is not observed. -/
theorem AttemptStep.observed_of_unclaimed {clock : Time} {drawn : Draws} {db : Db}
    {action : Action} {effect : Effect}
    (rule : AttemptStep service clock drawn db i attempt action effect)
    (h : effect.attempt.phase = .received ∨ ∃ request, effect.attempt.phase = .claiming request) :
    attempt.phase = .received ∧ effect.observed = [] := by
  cases rule with
  | prepared _ _ phase => exact ⟨phase, rfl⟩
  | _ => rcases h with h | ⟨_, h⟩ <;> cases h

theorem GrantedOnce.step (once : GrantedOnce s) (log : LogInv service s)
    (hstep : SystemStep service s e s') : GrantedOnce s' := by
  -- What a step grants is granted to an attempt that had no claim.
  have hfresh : ∀ i claim claim', .claimed i claim ∈ s.log →
      (∃ action attempt request, e = .act i action ∧ s.attempts i = some attempt ∧
        attempt.phase = .claiming request ∧ s.db.Granted request claim' s'.db) → False := by
    rintro i claim claim' hold ⟨_, attempt, request, _, running, phase, _⟩
    exact once.before i attempt running (.inr ⟨request, phase⟩) claim hold
  constructor
  · intro i attempt' h unclaimed claim hclaimed
    rcases hstep.attempt_cases h with hold | ⟨command, rfl, hfree, rfl⟩ |
      ⟨action, attempt, effect, rfl, running, rule, rfl, rfl⟩
    · rcases hstep.claimed_cases hclaimed with hclaimed | ⟨action, _, _, rfl, running, phase, _⟩
      · exact once.before i attempt' hold unclaimed claim hclaimed
      · obtain ⟨effect, rfl, rule⟩ := hstep.exists_effect running
        rw [State.attempts_after_self, Option.some_inj] at h
        subst h
        rw [(rule.observed_of_unclaimed unclaimed).1] at phase
        cases phase
    · cases hstep with
      | receive =>
        obtain ⟨command, hcommand, _⟩ := log.claimed i claim hclaimed
        rw [State.command?, hfree] at hcommand
        cases hcommand
    · obtain ⟨hreceived, hobserved⟩ := rule.observed_of_unclaimed unclaimed
      rw [State.after, hobserved, List.nil_append] at hclaimed
      exact once.before i attempt running (.inl hreceived) claim hclaimed
  · intro i claim claim' h h'
    rcases hstep.claimed_cases h with hold | hnew <;>
      rcases hstep.claimed_cases h' with hold' | hnew'
    · exact once.unique i claim claim' hold hold'
    · exact (hfresh i claim claim' hold hnew').elim
    · exact (hfresh i claim' claim hold' hnew).elim
    · obtain ⟨_, attempt, request, _, running, phase, grant⟩ := hnew
      obtain ⟨_, attempt', request', _, running', phase', grant'⟩ := hnew'
      rw [running, Option.some_inj] at running'
      subst running'
      rw [phase] at phase'
      cases phase'
      -- The store answers one request in one way.
      cases (Db.claim_eq_granted.mpr grant).symm.trans (Db.claim_eq_granted.mpr grant')
      rfl

theorem grantedOnce_of_reaches {guard : State → Event → Prop} {clock : Time}
    (run : Reaches (PaymentGateway.step service) guard (State.initial clock) s) :
    GrantedOnce s := by
  refine run.invariant ⟨?_, ?_⟩ fun s e s' run once _ taken =>
    once.step (logInv_of_reaches run) (step_cases taken)
  · intro _ _ h
    cases h
  · intro _ _ _ h
    cases h

end PaymentGateway
