/-
# The system

Any number of attempts, each one call of a command method, run against one
database and one bank, together with the cleanup of completed records. An attempt
goes through the phases between its calls; each store call and each bank call is a
step of its own, so the steps of different attempts interleave in every order.

The clock shows whatever the environment sets it to. A bank answer is any answer;
a request may be sent again before it is answered, as the bank client does after
an ambiguous exchange. A store call may fail before or after its transaction
committed, and an attempt may die in any phase.

The log keeps what can be observed from outside: claims, bank traffic and the
operational metrics. No step reads it.
-/

import PaymentGateway.Lib.Run
import PaymentGateway.Service.Methods
import PaymentGateway.Store.Timestamps

namespace PaymentGateway

open Lib

/-- Where an attempt stands. -/
inductive Phase
  /-- The method was entered. -/
  | received
  /-- The claim request is built. -/
  | claiming (request : ClaimRequest)
  /-- The claim is held and no bank request was sent. -/
  | calling (claim : PaymentCommandClaim)
  /-- The claim is held and the bank request was sent. -/
  | awaiting (claim : PaymentCommandClaim)
  /-- The payment of the claim is marked with the bank's answer. -/
  | completing (claim : PaymentCommandClaim) (result : PaymentCommandResult)
  /-- The completion time is read. -/
  | persisting (claim : PaymentCommandClaim) (result : PaymentCommandResult) (completedAt : Time)
  /-- The claim is to be released before the error is returned. -/
  | releasing (claim : PaymentCommandClaim) (err : GoError)
  | returned (outcome : Outcome)
  | died
  deriving DecidableEq

/-- A method has returned. -/
def Phase.isReturned : Phase → Bool
  | .returned _ => true
  | _ => false

theorem Phase.exists_of_isReturned {phase : Phase} (h : phase.isReturned = true) :
    ∃ outcome, phase = .returned outcome := by
  cases phase with
  | returned outcome => exact ⟨outcome, rfl⟩
  | _ => cases h

/-- A method is about to claim. -/
def Phase.isClaiming : Phase → Bool
  | .claiming _ => true
  | _ => false

theorem Phase.exists_of_isClaiming {phase : Phase} (h : phase.isClaiming = true) :
    ∃ request, phase = .claiming request := by
  cases phase with
  | claiming request => exact ⟨request, rfl⟩
  | _ => cases h

/-- One call of a command method. `startedAt` is when it was received, `preparedAt`
the instant its claim request carries. -/
structure Attempt where
  command : Command
  startedAt : Time
  preparedAt : Time
  phase : Phase
  deriving DecidableEq

/-- The attempt in another phase. -/
def Attempt.goto (attempt : Attempt) (phase : Phase) : Attempt := { attempt with phase }

/-- What can be observed from outside. -/
inductive Observation
  /-- A claim was granted by a committed transaction. -/
  | claimed (attempt : ℕ) (claim : PaymentCommandClaim)
  /-- A request was sent to the bank for a payment. -/
  | sent (attempt : ℕ) (paymentID : GoString) (request : BankRequest)
  /-- The bank client returned an answer for a payment. -/
  | answered (attempt : ℕ) (paymentID : GoString) (answer : BankAnswer)
  /-- `RecordIdempotencyRecovery`. -/
  | recovery (attempt : ℕ) (operation : Operation) (result : IdempotencyRecovery)
  /-- `RecordPaymentCommandReleaseFailure`. -/
  | releaseFailure (attempt : ℕ) (operation : Operation)
  deriving DecidableEq

/-- The steps of an attempt. -/
inductive Action
  | prepare
  | claim
  | send
  | answer (answer : BankAnswer)
  | stamp
  | complete
  | release
  /-- The store call of the phase fails, after or without its transaction having
  committed. -/
  | storeFails (committed : Bool)
  | die
  deriving DecidableEq

/-- What a step of an attempt changes. -/
structure Effect where
  attempt : Attempt
  db : Db
  drawn : Draws
  observed : List Observation

/-- The error of a store call that failed. -/
def storeFailure : GoError := newInternalPaymentError .connection

/-- What is observed when a claim is granted. -/
def grantObservations (id : ℕ) (claim : PaymentCommandClaim) : List Observation :=
  if claim.recovered then [.recovery id claim.operation .attempted, .claimed id claim]
  else [.claimed id claim]

/-- What is observed when a claim is refused. -/
def refusalObservations (id : ℕ) (operation : Operation) (err : GoError) : List Observation :=
  match recoveryResultOf err with
  | some result => [.recovery id operation result, .recovery id operation .attempted]
  | none => []

/-- The claim a claim request would be granted. -/
def Db.grant? (db : Db) (request : ClaimRequest) : Option PaymentCommandClaim :=
  match db.claim request with
  | (.ok (.granted claim), _) => some claim
  | _ => none

/-- An attempt's step on the answer of the bank client. -/
def answerStep (clock : Time) (drawn : Draws) (db : Db) (id : ℕ) (attempt : Attempt)
    (claim : PaymentCommandClaim) (answer : BankAnswer) : Option Effect :=
  match claim.operation.verdict claim.payment clock answer with
  | some (.complete marked failureKind) =>
    some ⟨attempt.goto (.completing { claim with payment := marked }
        ⟨newPaymentResult marked, failureKind⟩), db, drawn,
      [.answered id claim.payment.id answer]⟩
  | some (.release err) =>
    some ⟨attempt.goto (.releasing claim err), db, drawn,
      [.answered id claim.payment.id answer]⟩
  | none => none

/-- One step of an attempt, where it is enabled. -/
def attemptStep (service : PaymentService) (clock : Time) (drawn : Draws) (db : Db) (id : ℕ)
    (attempt : Attempt) (action : Action) : Option Effect :=
  match attempt.phase, action with
  | .received, .prepare =>
    match service.prepare attempt.command clock drawn with
    | (.ok request, drawn') =>
      some ⟨{ attempt with phase := .claiming request, preparedAt := clock }, db, drawn', []⟩
    | (.error err, drawn') => some ⟨attempt.goto (.returned (.error err)), db, drawn', []⟩
  | .claiming request, .claim =>
    match db.claim request with
    | (.ok (.granted claim), db') =>
      some ⟨attempt.goto (.calling claim), db', drawn, grantObservations id claim⟩
    | (.ok (.replayed result), db') =>
      some ⟨attempt.goto (.returned (replayPaymentCommand result)), db', drawn, []⟩
    | (.error err, db') =>
      some ⟨attempt.goto (.returned (.error (ensurePaymentError err))), db', drawn,
        refusalObservations id request.base.operation err⟩
  | .claiming request, .storeFails committed =>
    if committed then
      some ⟨attempt.goto (.returned (.error storeFailure)), (db.claim request).2, drawn,
        ((db.grant? request).map (.claimed id)).toList⟩
    else some ⟨attempt.goto (.returned (.error storeFailure)), db, drawn, []⟩
  | .calling claim, .send =>
    some ⟨attempt.goto (.awaiting claim), db, drawn,
      [.sent id claim.payment.id (attempt.command.bankRequest claim.payment)]⟩
  | .awaiting claim, .send =>
    some ⟨attempt.goto (.awaiting claim), db, drawn,
      [.sent id claim.payment.id (attempt.command.bankRequest claim.payment)]⟩
  | .calling claim, .answer (.failed err) =>
    answerStep clock drawn db id attempt claim (.failed err)
  | .awaiting claim, .answer answer => answerStep clock drawn db id attempt claim answer
  | .completing claim result, .stamp =>
    some ⟨attempt.goto (.persisting claim result clock), db, drawn, []⟩
  | .persisting claim result completedAt, .complete =>
    match db.completePaymentCommand claim result completedAt with
    | (.ok (), db') =>
      some ⟨attempt.goto (.returned (completedOutcome result)), db', drawn,
        if claim.recovered then [.recovery id claim.operation .recovered] else []⟩
    | (.error err, db') =>
      some ⟨attempt.goto (.returned (.error (ensurePaymentError err))), db', drawn, []⟩
  | .persisting claim result completedAt, .storeFails committed =>
    some ⟨attempt.goto (.returned (.error storeFailure)),
      if committed then (db.completePaymentCommand claim result completedAt).2 else db, drawn, []⟩
  | .releasing claim err, .release =>
    some ⟨attempt.goto (.returned (.error err)), db.releasePaymentCommand claim, drawn, []⟩
  | .releasing claim err, .storeFails committed =>
    some ⟨attempt.goto (.returned (.error err)),
      if committed then db.releasePaymentCommand claim else db, drawn,
      [.releaseFailure id claim.operation]⟩
  | .returned _, .die => none
  | .died, .die => none
  | _, .die => some ⟨attempt.goto .died, db, drawn, []⟩
  | _, _ => none

/-! ## Runs -/

/-- The state of the system. `cleanups` holds the cutoffs of cleanup runs that read
the clock and have not reached the database yet. -/
structure State where
  clock : Time
  db : Db
  attempts : ℕ → Option Attempt
  drawn : Draws
  cleanups : List ℤ
  log : List Observation

/-- The state in which the service starts, with the clock at a given time. -/
def State.initial (clock : Time) : State where
  clock := clock
  db := .empty
  attempts := fun _ => none
  drawn := ⟨0, 0⟩
  cleanups := []
  log := []

/-- `idempotencyReplayWindow`, in nanoseconds. -/
def idempotencyReplayWindow : Duration := 24 * 60 * 60 * 1000000000

/-- What happens in the system. -/
inductive Event
  | tick (clock : Time)
  | receive (id : ℕ) (command : Command)
  | act (id : ℕ) (action : Action)
  /-- `CleanupCompletedIdempotencyReplays` reads the clock. -/
  | scheduleCleanup
  /-- The cleanup statement runs with a cutoff that was read earlier. -/
  | runCleanup (completedBefore : ℤ)
  deriving DecidableEq

/-- The state after a step of an attempt. -/
def State.after (s : State) (id : ℕ) (effect : Effect) : State where
  clock := s.clock
  db := effect.db
  attempts := Function.update s.attempts id (some effect.attempt)
  drawn := effect.drawn
  cleanups := s.cleanups
  log := effect.observed ++ s.log

theorem State.attempts_after_self (s : State) (id : ℕ) (effect : Effect) :
    (s.after id effect).attempts id = some effect.attempt :=
  Function.update_self ..

theorem State.attempts_after_of_ne (s : State) {id other : ℕ} (effect : Effect) (h : id ≠ other) :
    (s.after other effect).attempts id = s.attempts id :=
  Function.update_of_ne h ..

/-- One step of the system, where the event is enabled. -/
def step (service : PaymentService) (s : State) : Event → Option State
  | .tick clock => some { s with clock }
  | .receive id command =>
    match s.attempts id with
    | some _ => none
    | none =>
      let attempt : Attempt := ⟨command, s.clock, s.clock, .received⟩
      some { s with attempts := Function.update s.attempts id (some attempt) }
  | .act id action =>
    match s.attempts id with
    | some attempt =>
      (attemptStep service s.clock s.drawn s.db id attempt action).map (s.after id)
    | none => none
  | .scheduleCleanup =>
    some { s with cleanups := ((s.clock : ℤ) - idempotencyReplayWindow) :: s.cleanups }
  | .runCleanup completedBefore =>
    if completedBefore ∈ s.cleanups then
      some { s with db := s.db.cleanupCompletedIdempotencyRecords completedBefore,
                    cleanups := s.cleanups.erase completedBefore }
    else none

/-- One step of the system whose tables keep what their columns can hold. No transaction reads
an instant that it has written itself, so it is enough to cut them off at its end. -/
def storedStep (service : PaymentService) (s : State) (e : Event) : Option State :=
  (step service s e).map fun s' => { s' with db := s'.db.stored }

/-- The states that some run of the service reaches. -/
def Reachable (service : PaymentService) (s : State) : Prop :=
  ∃ clock, Reaches (step service) (fun _ _ => True) (State.initial clock) s

/-- A run that can be computed reaches a state in which a property can be computed. -/
theorem exists_reachable (service : PaymentService) (clock : Time) (events : List Event)
    (property : State → Bool)
    (h : (execWhere (step service) (fun _ _ => true) (State.initial clock) events).any property =
      true) : ∃ s, Reachable service s ∧ property s = true := by
  obtain ⟨s, hs, hproperty⟩ := exists_reaches_of_execWhere (fun _ _ _ => trivial) events h
  exact ⟨s, ⟨clock, hs⟩, hproperty⟩

/-! ## A concrete service

Digests, ids and keys that can be computed, and the commands of one customer. -/

namespace Sample

def service : PaymentService where
  mac payload := 0x6D :: payload ++ [0x6D]
  newPaymentID n := ascii "pay_00000000-0000-4000-8000-00000000000" ++ formatNat (n % 10)
  newBankOperationKey n := ascii "key-" ++ List.replicate n 0x31
  claimStuckAfter := 60
  claimStuckAfter_pos := by decide

/-- The id of the first payment. -/
def paymentID : GoString := service.newPaymentID 0

def card : CardDetails :=
  ⟨ascii "4111111111111111", ascii "123", 12, 2030, by decide, by decide, by decide, by decide⟩

def authorize (key : GoString) (valid : Normalized key) : Command :=
  .authorizePayment ⟨ascii "order", ascii "customer", 1000, card, key, by decide, by decide,
    by decide, valid⟩

def retryAuthorization (key : GoString) (valid : Normalized key) : Command :=
  .retryAuthorization ⟨paymentID, card, key, by decide, valid⟩

def capture (key : GoString) (valid : Normalized key) : Command :=
  .capturePayment ⟨paymentID, key, by decide, valid⟩

/-- An attempt up to its bank call. -/
def call (id : ℕ) (command : Command) : List Event :=
  [.receive id command, .act id .prepare, .act id .claim, .act id .send]

/-- An attempt from the bank's answer to the completion. -/
def finish (id : ℕ) (answer : BankAnswer) : List Event :=
  [.act id (.answer answer), .act id .stamp, .act id .complete]

/-- An approval. -/
def approval : BankAnswer := .authorization ⟨ascii "auth-1", 500, []⟩

/-- The first payment is authorized by attempt 0. -/
def authorized : List Event :=
  call 0 (authorize (ascii "k0") (by decide)) ++ finish 0 approval

end Sample

end PaymentGateway
