/-
# Accounting for recoveries

The service records an event when a call takes over a stuck record, and another one
when the recovery is refused or the call completes the record. A refusal reaches the
service as an error, and the service looks for the marker of a failed recovery in it.

`ClaimExistingPaymentCommand` marks every refusal of a stuck record. The other claim
method, `ClaimAuthorizationStart`, marks a missing payment and leaves out the status
conflict. So an authorization that finds its stuck record after a retry has settled
the payment is refused without a trace, and that is the only gap: every other call
has exactly the events it should have.

The books of a call are kept along the run, from the states it went through.
-/

import PaymentGateway.Invariant.Attempts

namespace PaymentGateway

open Lib

variable {service : PaymentService} {s s' : State} {e : Event} {db db' : Db}

/-! ## Refused recoveries -/

/-- A result that says why a recovery was refused. -/
def IdempotencyRecovery.IsRefusal (result : IdempotencyRecovery) : Prop :=
  result = .conflict ∨ result = .unrecoverable

instance (result : IdempotencyRecovery) : Decidable result.IsRefusal :=
  inferInstanceAs (Decidable (_ ∨ _))

/-- An authorization that finds its record stuck and the payment of the record no longer in the
status it expects. -/
def Db.overlooks (db : Db) : ClaimRequest → Bool
  | .start request =>
    match db.stuckPaymentID? (.start request) with
    | some paymentID =>
      match db.findPaymentByID paymentID with
      | .ok payment => payment.status != request.expectedStatus
      | .error _ => false
    | none => false
  | .existing _ => false

theorem Db.overlooks_of_not_stuck {request : ClaimRequest}
    (stuck : db.stuckPaymentID? request = none) : db.overlooks request = false := by
  cases request with
  | start request => rw [overlooks, stuck]
  | existing request => rfl

theorem Db.overlooks_of_found {request : AuthorizationStartClaimRequest} {paymentID : GoString}
    {payment : Payment} (stuck : db.stuckPaymentID? (.start request) = some paymentID)
    (found : db.findPaymentByID paymentID = .ok payment) :
    db.overlooks (.start request) = (payment.status != request.expectedStatus) := by
  simp only [overlooks, stuck, found]

theorem Db.overlooks_of_unfound {request : AuthorizationStartClaimRequest} {paymentID : GoString}
    {err : GoError} (stuck : db.stuckPaymentID? (.start request) = some paymentID)
    (unfound : db.findPaymentByID paymentID = .error err) :
    db.overlooks (.start request) = false := by
  simp only [overlooks, stuck, unfound]

theorem Db.Granted.not_overlooks {request : ClaimRequest} {claim : PaymentCommandClaim}
    (grant : db.Granted request claim db') : db.overlooks request = false := by
  cases hstuck : db.stuckPaymentID? request with
  | none => exact Db.overlooks_of_not_stuck hstuck
  | some paymentID =>
    cases grant with
    | acquire | recover => rfl
    | start request _ absent =>
      obtain ⟨-, record, hslot, -⟩ := Db.stuckPaymentID?_eq_some.mp hstuck
      cases absent.symm.trans hslot
    | restart request record payment _ slot _ found status =>
      obtain ⟨-, record', hslot, -, rfl⟩ := Db.stuckPaymentID?_eq_some.mp hstuck
      cases slot.symm.trans hslot
      rw [Db.overlooks_of_found hstuck found]
      simp [status]

/-- A stored payment can always be read, so a recovery that finds none is marked. -/
theorem Db.Sound.recoveryResultOf_findRecovered (sound : db.Sound) {paymentID : GoString}
    {err : GoError} (h : db.findRecoveredPayment paymentID = .error err) :
    recoveryResultOf err = some .unrecoverable := by
  cases hcurrent : db.current paymentID with
  | some payment =>
    rw [Db.findRecoveredPayment_eq_ok.mpr (sound.findPaymentByID_eq_ok.mpr hcurrent)] at h
    cases h
  | none =>
    have hfind : db.findPaymentByID paymentID =
        .error (newPaymentNotFoundError paymentID .noRows) := by
      rw [Db.findPaymentByID, sound.payments_eq, hcurrent]
      rfl
    rw [Db.findRecoveredPayment, hfind] at h
    cases h
    rfl

/-- Every refusal of `validateRecoveredPaymentCommand` is marked. -/
theorem Db.recoveryResultOf_validateRecovered {request : ExistingPaymentCommandClaimRequest}
    {recordPaymentID : GoString} {payment : Payment} {err : GoError}
    (h : Db.validateRecoveredPaymentCommand request recordPaymentID payment = .error err) :
    ∃ result, result.IsRefusal ∧ recoveryResultOf err = some result := by
  rcases bind_eq_error.mp h with hid | ⟨_, -, h⟩
  · obtain ⟨-, rfl⟩ := rejectIf_eq_error.mp hid
    exact ⟨.conflict, .inl rfl, rfl⟩
  rcases bind_eq_error.mp h with hstatus | ⟨_, -, h⟩
  · obtain ⟨-, rfl⟩ := rejectIf_eq_error.mp hstatus
    exact ⟨.conflict, .inl rfl, rfl⟩
  rcases bind_eq_error.mp h with hcard | ⟨_, -, h⟩
  · obtain ⟨-, rfl⟩ := rejectIf_eq_error.mp hcard
    exact ⟨.conflict, .inl rfl, rfl⟩
  split at h
  · cases h
  · cases h
    exact ⟨.unrecoverable, .inr rfl, rfl⟩
  · obtain ⟨-, rfl⟩ := rejectIf_eq_error.mp h
    exact ⟨.unrecoverable, .inr rfl, rfl⟩

/-- A refused recovery is marked, unless it is one that is overlooked. -/
theorem Db.Sound.refusal_of_stuck (sound : db.Sound) {request : ClaimRequest} {err : GoError}
    {paymentID : GoString} (stuck : db.stuckPaymentID? request = some paymentID)
    (h : db.claim request = (.error err, db')) :
    (db.overlooks request = false ∧
        ∃ result, result.IsRefusal ∧ recoveryResultOf err = some result) ∨
      db.overlooks request = true ∧ recoveryResultOf err = none := by
  have hanswer := Db.claim_of_stuck stuck
  rw [h] at hanswer
  have hrecover := map_eq_error.mp hanswer.symm
  cases request with
  | existing request =>
    -- Both errors of this branch are marked.
    left
    refine ⟨rfl, ?_⟩
    rcases bind_eq_error.mp hrecover with hfind | ⟨_, -, hrest⟩
    · exact ⟨_, .inr rfl, sound.recoveryResultOf_findRecovered hfind⟩
    rcases bind_eq_error.mp hrest with hvalidate | ⟨_, -, hpure⟩
    · exact Db.recoveryResultOf_validateRecovered hvalidate
    · cases hpure
  | start request =>
    rcases bind_eq_error.mp hrecover with hfind | ⟨payment, hfound, hrest⟩
    · left
      refine ⟨?_, _, .inr rfl, sound.recoveryResultOf_findRecovered hfind⟩
      cases hpayment : db.findPaymentByID paymentID with
      | error cause => exact Db.overlooks_of_unfound stuck hpayment
      | ok payment =>
        rw [Db.findRecoveredPayment_eq_ok.mpr hpayment] at hfind
        cases hfind
    rcases bind_eq_error.mp hrest with hstatus | ⟨_, -, hpure⟩
    · right
      -- This is the status conflict that is not marked.
      obtain ⟨hmoved, rfl⟩ := rejectIf_eq_error.mp hstatus
      refine ⟨?_, rfl⟩
      rw [Db.overlooks_of_found stuck (Db.findRecoveredPayment_eq_ok.mp hfound)]
      simpa using hmoved
    · cases hpure

/-! ## The books of a call -/

/-- What is known about a call: whether its claim decided to recover a stuck record, was refused,
was refused unmarked, whether it completed its record, and the recovery events it recorded,
oldest first. -/
structure Tally where
  recovers : Bool
  refuses : Bool
  overlooks : Bool
  completes : Bool
  events : List (Operation × IdempotencyRecovery)
  deriving DecidableEq

namespace Tally

/-- The books of a call that has done nothing yet. -/
def empty : Tally := ⟨false, false, false, false, []⟩

/-- The books after one more step. -/
def add (before now : Tally) : Tally where
  recovers := now.recovers || before.recovers
  refuses := now.refuses || before.refuses
  overlooks := now.overlooks || before.overlooks
  completes := now.completes || before.completes
  events := before.events ++ now.events

@[simp] theorem add_empty (t : Tally) : t.add .empty = t := by
  simp [add, empty]

@[simp] theorem empty_add (t : Tally) : empty.add t = t := by
  simp [add, empty]

/-- A call is accounted for. Where its decision was not to recover, it has no event. Otherwise the
first event is an attempt and the only one of its kind, a refusal is recorded once exactly where
the claim was refused, and a recovery once exactly where the call completed the record; there is
no event of another operation. -/
structure Accounted (t : Tally) (operation : Operation) : Prop where
  quiet : t.recovers = false → t.events = []
  own : ∀ event ∈ t.events, event.1 = operation
  attempted : t.recovers = true → t.events.head? = some (operation, .attempted) ∧
    t.events.count (operation, .attempted) = 1
  refused : t.recovers = true →
    t.events.countP (fun event => event.2.IsRefusal) = if t.refuses then 1 else 0
  recovered : t.recovers = true →
    t.events.count (operation, .recovered) = if t.completes then 1 else 0

/-- The books of a call that has returned or died. -/
inductive Closed (operation : Operation) : Tally → Prop
  | quiet (refuses completes : Bool) : Closed operation ⟨false, refuses, false, completes, []⟩
  | abandoned : Closed operation ⟨true, false, false, false, [(operation, .attempted)]⟩
  | completed :
      Closed operation
        ⟨true, false, false, true, [(operation, .attempted), (operation, .recovered)]⟩
  | refused (result : IdempotencyRecovery) (refusal : result.IsRefusal) :
      Closed operation ⟨true, true, false, false, [(operation, .attempted), (operation, result)]⟩
  | overlooked (authorizes : operation = .authorizePayment) :
      Closed operation ⟨true, true, true, false, []⟩

/-- The books of a call that holds a claim. -/
def held (operation : Operation) (recovered : Bool) : Tally where
  recovers := recovered
  refuses := false
  overlooks := false
  completes := false
  events := if recovered then [(operation, .attempted)] else []

theorem closed_held (operation : Operation) (recovered : Bool) :
    Closed operation (held operation recovered) := by
  cases recovered with
  | false => exact .quiet false false
  | true => exact .abandoned

theorem closed_empty (operation : Operation) : Closed operation empty := .quiet false false

/-- Closed books account for the call, unless it was overlooked. -/
theorem Closed.accounted_iff {t : Tally} {operation : Operation} (h : t.Closed operation) :
    (t.Accounted operation ↔ t.overlooks = false) ∧
      (t.overlooks = true → operation = .authorizePayment ∧ t.recovers = true ∧
        t.refuses = true ∧ t.events = []) := by
  refine ⟨⟨fun accounted => ?_, fun seen => ?_⟩, fun overlooked => ?_⟩
  · cases h with
    | overlooked =>
      have hhead := (accounted.attempted rfl).1
      cases hhead
    | quiet | abandoned | completed | refused => rfl
  · cases h with
    | overlooked => cases seen
    | quiet | abandoned | completed =>
      exact {
        quiet := by simp
        own := by simp
        attempted := by simp
        refused := by simp [IdempotencyRecovery.IsRefusal]
        recovered := by simp }
    | refused result refusal =>
      rcases refusal with rfl | rfl
      all_goals exact {
        quiet := by simp
        own := by simp
        attempted := by simp
        refused := by simp [IdempotencyRecovery.IsRefusal]
        recovered := by simp }
  · cases h with
    | overlooked authorizes => exact ⟨authorizes, rfl, rfl, rfl⟩
    | quiet | abandoned | completed | refused => cases overlooked

end Tally

/-! ## Keeping the books -/

/-- A recovery event of a call. -/
def Observation.recoveryOf (id : ℕ) : Observation → Option (Operation × IdempotencyRecovery)
  | .recovery attempt operation result => if attempt = id then some (operation, result) else none
  | _ => none

/-- The recovery events of a call in a log, oldest first. -/
def recoveryEvents (id : ℕ) (log : List Observation) : List (Operation × IdempotencyRecovery) :=
  (log.filterMap (Observation.recoveryOf id)).reverse

theorem recoveryEvents_append (id : ℕ) (newer older : List Observation) :
    recoveryEvents id (newer ++ older) = recoveryEvents id older ++ recoveryEvents id newer := by
  simp [recoveryEvents]

/-- What a step of an attempt says about its call, read off the state in which it is taken. -/
def Attempt.tally (attempt : Attempt) (db : Db) (action : Action) : Tally :=
  match attempt.phase, action with
  | .claiming request, .claim =>
    ⟨(db.stuckPaymentID? request).isSome, !(db.claim request).1.isOk, db.overlooks request, false,
      []⟩
  | .persisting claim result completedAt, .complete =>
    ⟨false, false, false, (db.completePaymentCommand claim result completedAt).1.isOk, []⟩
  | _, _ => .empty

/-- What a step of the system says about a call. -/
def stepTally (id : ℕ) : State × Event → Tally
  | (s, .act other action) =>
    if other = id then ((s.attempts id).map (·.tally s.db action)).getD .empty else .empty
  | _ => .empty

/-- The books of a call after a run. -/
def tally (id : ℕ) (trace : List (State × Event)) (s : State) : Tally where
  recovers := trace.any fun taken => (stepTally id taken).recovers
  refuses := trace.any fun taken => (stepTally id taken).refuses
  overlooks := trace.any fun taken => (stepTally id taken).overlooks
  completes := trace.any fun taken => (stepTally id taken).completes
  events := recoveryEvents id s.log

theorem Attempt.tally_of_ne (attempt : Attempt) (db : Db) {action : Action}
    (claim : action ≠ .claim) (complete : action ≠ .complete) :
    attempt.tally db action = .empty := by
  unfold tally
  split
  · exact absurd rfl claim
  · exact absurd rfl complete
  · rfl

/-- A step of one attempt records nothing for the call of another. -/
theorem AttemptStep.recoveryEvents_of_ne {clock : Time} {drawn : Draws} {id other : ℕ}
    {attempt : Attempt} {action : Action} {effect : Effect}
    (rule : AttemptStep service clock drawn db other attempt action effect) (ne : other ≠ id) :
    recoveryEvents id effect.observed = [] := by
  cases rule with
  | granted request claim =>
    simp only [grantObservations]
    split_ifs <;> simp [recoveryEvents, Observation.recoveryOf, ne]
  | refused request err =>
    simp only [refusalObservations]
    split <;> simp [recoveryEvents, Observation.recoveryOf, ne]
  | completed =>
    dsimp only
    split_ifs <;> simp [recoveryEvents, Observation.recoveryOf, ne]
  | _ => rfl

/-- A step that is not the call's own leaves its books as they are. -/
theorem SystemStep.tally_of_ne (hstep : SystemStep service s e s') {id : ℕ}
    (idle : ∀ action, e ≠ .act id action) (trace : List (State × Event)) :
    tally id ((s, e) :: trace) s' = tally id trace s := by
  have hbooks : stepTally id (s, e) = .empty := by
    unfold stepTally
    split
    · next _ other action heq =>
      cases heq
      exact if_neg fun h : other = id => idle action (h ▸ rfl)
    · rfl
  have hevents : recoveryEvents id s'.log = recoveryEvents id s.log := by
    cases hstep with
    | tick | receive | scheduleCleanup | runCleanup => rfl
    | act other action attempt effect running rule =>
      have hne : other ≠ id := fun h => idle action (h ▸ rfl)
      simp only [State.after, recoveryEvents_append, rule.recoveryEvents_of_ne hne, List.append_nil]
  simp [tally, hbooks, hevents, Tally.empty]

/-- A step of the call's own adds what it says about the call and what it records. -/
theorem tally_after {id : ℕ} {attempt : Attempt} (running : s.attempts id = some attempt)
    (action : Action) (effect : Effect) (trace : List (State × Event)) :
    tally id ((s, .act id action) :: trace) (s.after id effect) =
      (tally id trace s).add
        { attempt.tally s.db action with events := recoveryEvents id effect.observed } := by
  have hbooks : stepTally id (s, .act id action) = attempt.tally s.db action := by
    simp [stepTally, running]
  simp only [tally, Tally.add, List.any_cons, hbooks, State.after, recoveryEvents_append]

/-! ## The books of every call balance -/

/-- The books of a call that holds a claim. -/
def Tally.Holds (t : Tally) (operation : Operation) (claim : PaymentCommandClaim) : Prop :=
  claim.operation = operation ∧ t = .held operation claim.recovered

/-- The books of a call fit the phase it is in. -/
def Phase.Balanced (phase : Phase) (operation : Operation) (t : Tally) : Prop :=
  match phase with
  | .received => t = .empty
  | .claiming _ => t = .empty
  | .calling claim => t.Holds operation claim
  | .awaiting claim => t.Holds operation claim
  | .completing claim _ => t.Holds operation claim
  | .persisting claim _ _ => t.Holds operation claim
  | .releasing claim _ => t.Holds operation claim
  | .returned _ => t.Closed operation
  | .died => t.Closed operation

theorem Tally.Holds.closed {t : Tally} {operation : Operation} {claim : PaymentCommandClaim}
    (h : t.Holds operation claim) : t.Closed operation :=
  h.2 ▸ closed_held operation claim.recovered

theorem Phase.Balanced.closed {phase : Phase} {operation : Operation} {t : Tally}
    (h : phase.Balanced operation t) : t.Closed operation := by
  cases phase with
  | received | claiming => exact h ▸ Tally.closed_empty operation
  | calling | awaiting | completing | persisting | releasing => exact Tally.Holds.closed h
  | returned | died => exact h

theorem Phase.Waits.holds {phase : Phase} {operation : Operation} {t : Tally}
    {claim : PaymentCommandClaim} (waits : phase.Waits claim) (h : phase.Balanced operation t) :
    t.Holds operation claim := by
  rcases waits with rfl | rfl
  · exact h
  · exact h

/-- What a call records when its claim is granted. -/
theorem recoveryEvents_grant (id : ℕ) (claim : PaymentCommandClaim) :
    recoveryEvents id (grantObservations id claim) =
      if claim.recovered then [(claim.operation, .attempted)] else [] := by
  unfold grantObservations
  split_ifs <;> simp [recoveryEvents, Observation.recoveryOf]

/-- What a call records when its claim is refused. -/
theorem recoveryEvents_refusal (id : ℕ) (operation : Operation) (err : GoError) :
    recoveryEvents id (refusalObservations id operation err) =
      (recoveryResultOf err).elim []
        fun result => [(operation, .attempted), (operation, result)] := by
  unfold refusalObservations
  cases recoveryResultOf err with
  | none => rfl
  | some result => simp [recoveryEvents, Observation.recoveryOf]

/-- A granted claim opens the books with an attempt, if it is a recovery. -/
theorem Tally.holds_of_grant {request : ClaimRequest} {claim : PaymentCommandClaim} {id : ℕ}
    {attempt : Attempt} {operation : Operation} (phase : attempt.phase = .claiming request)
    (grant : db.Granted request claim db') (own : claim.operation = operation) :
    Tally.Holds { attempt.tally db .claim with
      events := recoveryEvents id (grantObservations id claim) } operation claim := by
  have hok : (db.claim request).1.isOk = true := by rw [Db.claim_eq_granted.mpr grant]; rfl
  refine ⟨own, ?_⟩
  subst own
  simp only [Attempt.tally, phase, Tally.held, hok, grant.not_overlooks, ← grant.recovered_eq,
    recoveryEvents_grant, Bool.not_true]

/-- A refused claim closes the books. -/
theorem Tally.closed_of_refusal (sound : db.Sound) {request : ClaimRequest} {err : GoError} {id : ℕ}
    {attempt : Attempt} {operation : Operation} (phase : attempt.phase = .claiming request)
    (refusal : db.claim request = (.error err, db'))
    (start : ∀ start, request = .start start → operation = .authorizePayment) :
    Tally.Closed operation { attempt.tally db .claim with
      events := recoveryEvents id (refusalObservations id operation err) } := by
  have herror : (db.claim request).1.isOk = false := by rw [refusal]; rfl
  simp only [Attempt.tally, phase, herror, Bool.not_false, recoveryEvents_refusal]
  cases hstuck : db.stuckPaymentID? request with
  | none =>
    rw [Db.overlooks_of_not_stuck hstuck, Db.recoveryResultOf_of_not_stuck refusal hstuck]
    exact .quiet true false
  | some paymentID =>
    obtain ⟨hseen, result, hresult, hmark⟩ | ⟨hoverlooked, hmark⟩ :=
      sound.refusal_of_stuck hstuck refusal
    · rw [hseen, hmark]
      exact .refused result hresult
    · rw [hoverlooked, hmark]
      cases request with
      | start request => exact .overlooked (start request rfl)
      | existing request => cases hoverlooked

/-- The books still balance after a step of the call, as long as the store works. -/
theorem AttemptStep.balanced {clock : Time} {drawn : Draws} {id : ℕ} {attempt : Attempt}
    {action : Action} {effect : Effect} {t : Tally}
    (rule : AttemptStep service clock drawn db id attempt action effect) (sound : db.Sound)
    (inv : attempt.Inv service db) (works : ∀ committed, action ≠ .storeFails committed)
    (h : attempt.phase.Balanced attempt.command.operation t) :
    effect.attempt.phase.Balanced effect.attempt.command.operation
      (t.add { attempt.tally db action with events := recoveryEvents id effect.observed }) := by
  -- The steps that are neither a claim nor a completion add nothing to the books.
  have hkept : ∀ observed, action ≠ .claim → action ≠ .complete → recoveryEvents id observed = [] →
      t.add { attempt.tally db action with events := recoveryEvents id observed } = t := by
    intro observed hclaim hcomplete hevents
    rw [attempt.tally_of_ne db hclaim hcomplete, hevents]
    exact t.add_empty
  have hrefused : t = .empty → ∀ now : Tally, t.add now = now := by
    rintro rfl now
    exact now.empty_add
  cases rule with
  | prepared request drawn' phase built =>
    rw [hkept [] (by decide) (by decide) rfl]
    rw [phase] at h
    exact h
  | unprepared err drawn' phase failed =>
    rw [hkept [] (by decide) (by decide) rfl]
    exact h.closed
  | granted request claim after phase grant =>
    obtain ⟨_, _, hbuilt⟩ : ∃ drawn drawn', Built service attempt.preparedAt drawn attempt.command
        request drawn' := by simpa only [Attempt.Inv, phase] using inv
    rw [phase] at h
    rw [hrefused h]
    exact Tally.holds_of_grant phase grant (grant.claimFor sound hbuilt).operation
  | replayed request result phase time replay =>
    rw [phase] at h
    rw [hrefused h]
    have hok : (db.claim request).1.isOk = true := by
      rw [Db.claim_eq_replayed.mpr ⟨time, replay, rfl⟩]; rfl
    have hstuck := Db.Replays.not_stuck replay
    simp only [Attempt.tally, phase, hok, hstuck, Db.overlooks_of_not_stuck hstuck]
    exact .quiet false false
  | refused request err phase refusal =>
    obtain ⟨_, _, hbuilt⟩ : ∃ drawn drawn', Built service attempt.preparedAt drawn attempt.command
        request drawn' := by simpa only [Attempt.Inv, phase] using inv
    have hoperation : request.base.operation = attempt.command.operation := by rw [hbuilt.base_eq]
    rw [phase] at h
    rw [hrefused h, hoperation]
    refine Tally.closed_of_refusal sound phase refusal ?_
    rintro start rfl
    exact hbuilt.start_operation
  | claimFailed _ committed => exact absurd rfl (works committed)
  | claimLost => exact absurd rfl (works true)
  | sent claim phase =>
    rw [hkept _ (by decide) (by decide) rfl]
    exact phase.holds h
  | marked claim answer m kind phase =>
    rw [hkept _ (by simp) (by simp) rfl]
    exact phase.holds h
  | withdrawn claim answer err phase =>
    rw [hkept _ (by simp) (by simp) rfl]
    exact phase.holds h
  | stamped claim result phase =>
    rw [hkept _ (by decide) (by decide) rfl]
    rw [phase] at h
    exact h
  | completed claim result completedAt row record after phase completion =>
    rw [phase] at h
    -- A completion records an event where its claim was a recovery.
    obtain ⟨hown, rfl⟩ := h
    have hok : (db.completePaymentCommand claim result completedAt).1.isOk = true := by
      rw [Db.completePaymentCommand_eq_ok.mpr ⟨row, record, completion⟩]; rfl
    change Tally.Closed attempt.command.operation _
    simp only [Attempt.tally, phase, hok, ← hown]
    cases claim.recovered with
    | false => exact .quiet false true
    | true => simpa [Tally.add, Tally.held, recoveryEvents, Observation.recoveryOf] using .completed
  | uncompleted claim result completedAt err phase refusal =>
    -- A refused completion records nothing and completes nothing.
    have herror : (db.completePaymentCommand claim result completedAt).1.isOk = false := by
      rw [refusal]; rfl
    have hnothing : { attempt.tally db .complete with events := recoveryEvents id [] } =
        Tally.empty := by
      simp only [Attempt.tally, phase, herror]
      rfl
    rw [hnothing, t.add_empty]
    exact h.closed
  | completionFailed _ _ _ committed => exact absurd rfl (works committed)
  | completionLost => exact absurd rfl (works true)
  | released claim err phase =>
    rw [hkept _ (by decide) (by decide) rfl]
    exact h.closed
  | releaseFailed _ _ committed => exact absurd rfl (works committed)
  | died =>
    rw [hkept _ (by decide) (by decide) rfl]
    exact h.closed

/-- An event in which no call of the store fails. An attempt may still die. -/
def Event.storeWorks : Event → Bool
  | .act _ (.storeFails _) => false
  | _ => true

/-- The books of every call fit the phase it is in. -/
structure BooksInv (trace : List (State × Event)) (s : State) : Prop where
  unknown : ∀ id, s.attempts id = none → tally id trace s = .empty
  running : ∀ id attempt, s.attempts id = some attempt →
    attempt.phase.Balanced attempt.command.operation (tally id trace s)

theorem BooksInv.step {trace : List (State × Event)} (books : BooksInv trace s)
    (inv : Inv service s) (hstep : SystemStep service s e s') (works : e.storeWorks = true) :
    BooksInv ((s, e) :: trace) s' := by
  refine ⟨fun id absent => ?_, fun id attempt' running => ?_⟩
  · -- A call that is still unknown after the step was unknown before it.
    have hidle : ∀ action, e ≠ .act id action := by
      rintro action rfl
      cases hstep with
      | act _ _ attempt effect running rule =>
        rw [State.attempts_after_self] at absent
        cases absent
    have habsent : s.attempts id = none := by
      by_contra hsome
      obtain ⟨attempt, hrunning⟩ := Option.ne_none_iff_exists'.mp hsome
      rw [hstep.attempts_kept hrunning hidle] at absent
      cases absent
    rw [hstep.tally_of_ne hidle]
    exact books.unknown id habsent
  · by_cases hidle : ∀ action, e ≠ .act id action
    · -- The step is not of the call, unless it is the one that receives it.
      rw [hstep.tally_of_ne hidle]
      rcases hstep.attempt_cases running with hrunning | ⟨command, -, hfree, rfl⟩ |
        ⟨action, _, _, rfl, -⟩
      · exact books.running id attempt' hrunning
      · exact books.unknown id hfree
      · exact absurd rfl (hidle action)
    · simp only [not_forall, not_not] at hidle
      obtain ⟨action, rfl⟩ := hidle
      cases hstep with
      | act _ _ attempt effect hrunning rule =>
        rw [State.attempts_after_self, Option.some_inj] at running
        subst running
        have hworks : ∀ committed, action ≠ .storeFails committed := by
          rintro committed rfl
          cases works
        rw [tally_after hrunning]
        exact rule.balanced inv.sound (inv.attempts id _ hrunning) hworks
          (books.running id _ hrunning)

/-- The runs in which no call of the store fails, with their history. -/
def RunsSmoothly (service : PaymentService) (clock : Time) (trace : List (State × Event))
    (s : State) : Prop :=
  Reaches (traced (PaymentGateway.step service)) (fun _ e => e.storeWorks = true)
    ([], State.initial clock) (trace, s)

theorem booksInv_of_run {clock : Time} {trace : List (State × Event)}
    (run : RunsSmoothly service clock trace s) : BooksInv trace s := by
  suffices ∀ run : List (State × Event) × State,
      Reaches (traced (PaymentGateway.step service)) (fun _ e => e.storeWorks = true)
        ([], State.initial clock) run → BooksInv run.1 run.2 from this _ run
  intro run h
  induction h with
  | refl =>
    refine ⟨fun id _ => rfl, fun id attempt running => ?_⟩
    cases running
  | tail e run allowed taken ih =>
    obtain ⟨s', hstep, rfl⟩ := traced_eq_some taken
    have hreaches : Reaches (PaymentGateway.step service) (fun _ _ => True) (State.initial clock)
        _ := run.of_traced fun _ _ _ => trivial
    exact ih.step (inv_of_reaches hreaches) (step_cases hstep) allowed

/-- In every run in which no call of the store fails, each call is accounted for exactly where it
was not overlooked. A call is overlooked only if it is an authorization that decided to recover
its record, was refused, and recorded nothing. -/
theorem recoveries_accounted (service : PaymentService) (clock : Time)
    (trace : List (State × Event)) (s : State) (run : RunsSmoothly service clock trace s) (id : ℕ)
    (attempt : Attempt) (running : s.attempts id = some attempt) :
    ((tally id trace s).Accounted attempt.command.operation ↔
        (tally id trace s).overlooks = false) ∧
      ((tally id trace s).overlooks = true →
        attempt.command.operation = .authorizePayment ∧ (tally id trace s).recovers = true ∧
          (tally id trace s).refuses = true ∧ (tally id trace s).events = []) :=
  ((booksInv_of_run run).running id attempt running).closed.accounted_iff

/-- A computed run of the sample service, with what its last state and history show. -/
theorem Sample.exists_run (events : List Event) (property : List (State × Event) × State → Bool)
    (h : (execWhere (traced (PaymentGateway.step Sample.service)) (fun _ e => e.storeWorks)
      ([], State.initial 1) events).any property = true) :
    ∃ trace s, RunsSmoothly Sample.service 1 trace s ∧ property (trace, s) = true := by
  obtain ⟨⟨trace, s⟩, hrun, hproperty⟩ := exists_reaches_of_execWhere (fun _ _ h => h) events h
  exact ⟨trace, s, hrun, hproperty⟩

/-- A capture dies at the bank; the same request takes its record over and completes it. -/
theorem recoveries_accounted_capture :
    ∃ trace s attempt, RunsSmoothly Sample.service 1 trace s ∧ s.attempts 2 = some attempt ∧
      attempt.command.operation = .capturePayment ∧
      tally 2 trace s = ⟨true, false, false, true,
        [(.capturePayment, .attempted), (.capturePayment, .recovered)]⟩ ∧
      (tally 2 trace s).Accounted .capturePayment := by
  let command := Sample.capture (ascii "k1") (by decide)
  obtain ⟨trace, s, hrun, hproperty⟩ := Sample.exists_run
    (Sample.authorized ++ Sample.call 1 command ++ [.act 1 .die, .tick 100] ++
      Sample.call 2 command ++ Sample.finish 2 (.capture (ascii "cap-1")))
    (fun run => (run.2.attempts 2).any (·.command.operation = .capturePayment) &&
      decide (tally 2 run.1 run.2 = ⟨true, false, false, true,
        [(.capturePayment, .attempted), (.capturePayment, .recovered)]⟩))
    (by decide +kernel)
  simp only [Bool.and_eq_true, decide_eq_true_eq, Option.any_eq_true] at hproperty
  obtain ⟨⟨attempt, hrunning, hoperation⟩, hbooks⟩ := hproperty
  have haccounted := (recoveries_accounted Sample.service 1 trace s hrun 2 attempt hrunning).1.mpr
    (by rw [hbooks])
  exact ⟨trace, s, attempt, hrun, hrunning, hoperation, hbooks, hoperation ▸ haccounted⟩

/-- A retry authorizes the payment while the authorization still waits for the bank. When that
counts as stuck, the same request decides to recover its record, is refused for the status of the
payment, and records nothing. -/
theorem recovery_overlooked :
    ∃ trace s attempt, RunsSmoothly Sample.service 1 trace s ∧ s.attempts 2 = some attempt ∧
      attempt.command.operation = .authorizePayment ∧
      (tally 2 trace s).recovers = true ∧ (tally 2 trace s).refuses = true ∧
      (tally 2 trace s).events = [] ∧ ¬ (tally 2 trace s).Accounted .authorizePayment := by
  let command := Sample.authorize (ascii "k0") (by decide)
  obtain ⟨trace, s, hrun, hproperty⟩ := Sample.exists_run
    (Sample.call 0 command ++ Sample.call 1 (Sample.retryAuthorization (ascii "k1") (by decide)) ++
      Sample.finish 1 Sample.approval ++
      [.tick 100, .receive 2 command, .act 2 .prepare, .act 2 .claim])
    (fun run => (run.2.attempts 2).any (·.command.operation = .authorizePayment) &&
      decide (tally 2 run.1 run.2 = ⟨true, true, true, false, []⟩))
    (by decide +kernel)
  simp only [Bool.and_eq_true, decide_eq_true_eq, Option.any_eq_true] at hproperty
  obtain ⟨⟨attempt, hrunning, hoperation⟩, hbooks⟩ := hproperty
  refine ⟨trace, s, attempt, hrun, hrunning, hoperation, ?_⟩
  rw [hbooks]
  refine ⟨rfl, rfl, rfl, fun accounted => ?_⟩
  cases (accounted.attempted rfl).1

end PaymentGateway
