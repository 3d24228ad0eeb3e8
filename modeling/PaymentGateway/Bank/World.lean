/-
# The gateway and the bank

The bank is known by what it has executed: the requests to which it gave a definitive
outcome, one for each endpoint and operation key. It may execute a request at any
time after it was sent, whether or not the attempt that sent it still waits, and it
may never execute it.

`BankLaw` is what is assumed of the bank. It executes only what was sent and never
decides one key of one endpoint twice; an authorization is captured, voided or found
expired, and never two of these; the ids it returns carry no surrounding space. A
definitive answer reports what was executed under the key of the request. Every
other answer is an error, which may come at any time and says nothing.
-/

import PaymentGateway.Invariant.Keys

namespace PaymentGateway

open Lib

/-! ## What the bank executes -/

/-- A request with the definitive outcome the bank gave it. -/
inductive Execution
  | authorization (request : BankAuthorizationRequest) (result : BankAuthorizationResult)
  | capture (request : BankCaptureRequest) (bankCaptureID : GoString)
  | void (request : BankVoidRequest) (bankVoidID : GoString)
  | refund (request : BankRefundRequest) (bankRefundID : GoString)
  | captureExpired (request : BankCaptureRequest)
  | voidExpired (request : BankVoidRequest)
  deriving DecidableEq

/-- What can become of an authorization. -/
inductive Fate
  | captured
  | voided
  | expired
  deriving DecidableEq

namespace Execution

def request : Execution → BankRequest
  | authorization request _ => .authorization request
  | capture request _ => .capture request
  | void request _ => .void request
  | refund request _ => .refund request
  | captureExpired request => .capture request
  | voidExpired request => .void request

/-- The authorization that an execution settles, and how. -/
def fate : Execution → Option (GoString × Fate)
  | capture request _ => some (request.bankAuthorizationID, .captured)
  | void request _ => some (request.bankAuthorizationID, .voided)
  | captureExpired request => some (request.bankAuthorizationID, .expired)
  | voidExpired request => some (request.bankAuthorizationID, .expired)
  | authorization _ _ => none
  | refund _ _ => none

/-- The id that the bank returns. -/
def bankID : Execution → GoString
  | authorization _ result => result.bankAuthorizationID
  | capture _ id => id
  | void _ id => id
  | refund _ id => id
  | captureExpired _ => []
  | voidExpired _ => []

/-- The answers of the bank client that report an execution. -/
def Reports : Execution → BankAnswer → Prop
  | authorization _ result, answer => answer = .authorization result
  | capture _ id, answer => answer = .capture id
  | void _ id, answer => answer = .void id
  | refund _ id, answer => answer = .refund id
  | captureExpired _, .failed err => hasPaymentErrorKind err .authorizationExpired = true
  | voidExpired _, .failed err => hasPaymentErrorKind err .authorizationExpired = true
  | _, _ => False

instance (x : Execution) (answer : BankAnswer) : Decidable (x.Reports answer) := by
  cases x <;> cases answer <;> unfold Reports <;> infer_instance

/-- The same operation, as far as the bank can tell. -/
def SameOperation (x : Execution) (request : BankRequest) : Prop :=
  x.request.endpoint = request.endpoint ∧ x.request.operationKey = request.operationKey

instance (x : Execution) (request : BankRequest) : Decidable (x.SameOperation request) :=
  inferInstanceAs (Decidable (_ ∧ _))

/-- Two executions do not give one authorization two fates. -/
def compatible (x y : Execution) : Bool :=
  match x.fate, y.fate with
  | some (id, f), some (other, g) => id != other || f == g
  | _, _ => true

/-- What the bank may execute after what it has executed. -/
structure Admissible (executions : List Execution) (x : Execution) : Prop where
  undecided : ∀ y ∈ executions, ¬ y.SameOperation x.request
  compatible : ∀ y ∈ executions, x.compatible y = true
  trimmed : trimSpace x.bankID = x.bankID

instance (executions : List Execution) (x : Execution) : Decidable (x.Admissible executions) :=
  decidable_of_iff ((∀ y ∈ executions, ¬ y.SameOperation x.request) ∧
      (∀ y ∈ executions, x.compatible y = true) ∧ trimSpace x.bankID = x.bankID)
    ⟨fun h => ⟨h.1, h.2.1, h.2.2⟩, fun h => ⟨h.undecided, h.compatible, h.trimmed⟩⟩

theorem Admissible.oneFate {executions : List Execution} {x y : Execution}
    (h : x.Admissible executions) (hy : y ∈ executions) {authorization : GoString} {f g : Fate}
    (hf : x.fate = some (authorization, f)) (hg : y.fate = some (authorization, g)) : f = g := by
  have hcompatible := h.compatible y hy
  simpa [Execution.compatible, hf, hg] using hcompatible

end Execution

/-- An answer that decides a request: a result, or the expiration of the authorization that
a capture or a void was to settle. -/
def BankAnswer.Definitive (request : BankRequest) : BankAnswer → Prop
  | .failed err => hasPaymentErrorKind err .authorizationExpired = true ∧
    (request.endpoint = .capture ∨ request.endpoint = .void)
  | _ => True

instance (request : BankRequest) (answer : BankAnswer) : Decidable (answer.Definitive request) := by
  cases answer <;> unfold BankAnswer.Definitive <;> infer_instance

/-- A definitive answer to a request reports the execution of the same operation. -/
def Truthful (executions : List Execution) (request : BankRequest) (answer : BankAnswer) : Prop :=
  answer.Definitive request → ∃ x ∈ executions, x.SameOperation request ∧ x.Reports answer

instance (executions : List Execution) (request : BankRequest) (answer : BankAnswer) :
    Decidable (Truthful executions request answer) :=
  inferInstanceAs (Decidable (_ → _))

/-! ## Runs of the gateway with the bank -/

structure World where
  gateway : State
  executions : List Execution

def World.initial (clock : Time) : World := ⟨State.initial clock, []⟩

inductive WorldEvent
  | gateway (e : Event)
  | execute (x : Execution)

def World.step (service : PaymentService) (w : World) : WorldEvent → Option World
  | .gateway e => (PaymentGateway.step service w.gateway e).map fun s => { w with gateway := s }
  | .execute x => some { w with executions := x :: w.executions }

/-- The claim with which an attempt waits for the bank. -/
def Phase.waiting : Phase → Option PaymentCommandClaim
  | .calling claim => some claim
  | .awaiting claim => some claim
  | _ => none

/-- A request is sent. -/
def Observation.sends (request : BankRequest) : Observation → Bool
  | .sent _ _ other => other == request
  | _ => false

theorem exists_sent_of_sends {log : List Observation} {request : BankRequest}
    (h : log.any (·.sends request) = true) : ∃ i paymentID, .sent i paymentID request ∈ log := by
  obtain ⟨observed, hmem, hsends⟩ := List.any_eq_true.mp h
  cases observed with
  | sent i paymentID other =>
    obtain rfl : other = request := beq_iff_eq.mp hsends
    exact ⟨i, paymentID, hmem⟩
  | claimed | answered | recovery | releaseFailure => cases hsends

theorem Phase.Waits.waiting {phase : Phase} {claim : PaymentCommandClaim} (h : phase.Waits claim) :
    claim ∈ phase.waiting := by
  rcases h with rfl | rfl <;> rfl

/-- What is assumed of the bank. -/
def BankLaw (w : World) : WorldEvent → Prop
  | .gateway (.act id (.answer answer)) => ∀ attempt ∈ w.gateway.attempts id,
    ∀ claim ∈ attempt.phase.waiting,
      Truthful w.executions (attempt.command.bankRequest claim.payment) answer
  | .gateway _ => True
  | .execute x => w.gateway.log.any (·.sends x.request) = true ∧ x.Admissible w.executions

instance (w : World) (e : WorldEvent) : Decidable (BankLaw w e) := by
  unfold BankLaw
  split <;> infer_instance

/-- The worlds that some run of the gateway with a lawful bank reaches. -/
def WorldReachable (service : PaymentService) (w : World) : Prop :=
  ∃ clock, Reaches (World.step service) BankLaw (World.initial clock) w

variable {service : PaymentService} {w w' : World}

theorem World.step_gateway {e : Event} (h : w.step service (.gateway e) = some w') :
    PaymentGateway.step service w.gateway e = some w'.gateway ∧
      w'.executions = w.executions := by
  obtain ⟨s, hs, rfl⟩ := Option.map_eq_some_iff.mp h
  exact ⟨hs, rfl⟩

/-- The gateway of a reachable world is reachable. -/
theorem WorldReachable.gateway (h : WorldReachable service w) : Reachable service w.gateway := by
  obtain ⟨clock, run⟩ := h
  refine ⟨clock, run.invariant (P := fun w => Reaches (PaymentGateway.step service)
    (fun _ _ => True) (State.initial clock) w.gateway) .refl ?_⟩
  intro w e w' _ hw _ htaken
  cases e with
  | gateway e => exact hw.tail e trivial (World.step_gateway htaken).1
  | execute x =>
    cases htaken
    exact hw

/-! ## What the law keeps -/

/-- The executions of a lawful bank. -/
structure LawfulExecutions (w : World) : Prop where
  sent : ∀ x ∈ w.executions, ∃ i paymentID, .sent i paymentID x.request ∈ w.gateway.log
  once : ∀ x ∈ w.executions, ∀ y ∈ w.executions, x.SameOperation y.request → x = y
  oneFate : ∀ x ∈ w.executions, ∀ y ∈ w.executions, ∀ authorization f g,
    x.fate = some (authorization, f) → y.fate = some (authorization, g) → f = g
  trimmed : ∀ x ∈ w.executions, trimSpace x.bankID = x.bankID

/-- The part of it that the agreement of stored payments rests on. -/
structure SentExecutions (w : World) : Prop where
  sent : ∀ x ∈ w.executions, ∃ i paymentID, .sent i paymentID x.request ∈ w.gateway.log
  trimmed : ∀ x ∈ w.executions, trimSpace x.bankID = x.bankID

theorem LawfulExecutions.sentExecutions (lawful : LawfulExecutions w) : SentExecutions w :=
  ⟨lawful.sent, lawful.trimmed⟩

theorem LawfulExecutions.step {e : WorldEvent} (lawful : LawfulExecutions w) (law : BankLaw w e)
    (taken : w.step service e = some w') : LawfulExecutions w' := by
  cases e with
  | gateway e =>
    -- The gateway executes nothing, and its log only grows.
    obtain ⟨hstep, heq⟩ := World.step_gateway taken
    refine ⟨?_, heq ▸ lawful.once, heq ▸ lawful.oneFate, heq ▸ lawful.trimmed⟩
    intro x hx
    obtain ⟨i, paymentID, hsent⟩ := lawful.sent x (heq ▸ hx)
    exact ⟨i, paymentID, (step_cases hstep).log_subset hsent⟩
  | execute x =>
    cases taken
    obtain ⟨hsent, hadmissible⟩ := law
    refine ⟨?_, ?_, ?_, ?_⟩
    · intro y hy
      rcases List.mem_cons.mp hy with rfl | hy
      · exact exists_sent_of_sends hsent
      · exact lawful.sent y hy
    · -- The bank executes an operation that it has not decided yet, so it is decided once.
      intro y hy z hz hsame
      rcases List.mem_cons.mp hy with rfl | hold <;> rcases List.mem_cons.mp hz with rfl | hold'
      · rfl
      · exact absurd ⟨hsame.1.symm, hsame.2.symm⟩ (hadmissible.undecided z hold')
      · exact absurd hsame (hadmissible.undecided y hold)
      · exact lawful.once y hold z hold' hsame
    · -- An authorization that is decided keeps its fate.
      intro y hy z hz authorization f g hf hg
      rcases List.mem_cons.mp hy with rfl | hold <;> rcases List.mem_cons.mp hz with rfl | hold'
      · rw [hf, Option.some_inj] at hg
        exact congrArg Prod.snd hg
      · exact hadmissible.oneFate hold' hf hg
      · exact (hadmissible.oneFate hold hg hf).symm
      · exact lawful.oneFate y hold z hold' authorization f g hf hg
    · intro y hy
      rcases List.mem_cons.mp hy with rfl | hy
      · exact hadmissible.trimmed
      · exact lawful.trimmed y hy

theorem WorldReachable.lawful (h : WorldReachable service w) : LawfulExecutions w := by
  obtain ⟨clock, run⟩ := h
  refine run.invariant ⟨?_, ?_, ?_, ?_⟩ fun w e w' _ lawful law taken => lawful.step law taken
  · exact fun x hx => (nomatch hx)
  · exact fun x hx => (nomatch hx)
  · exact fun x hx => (nomatch hx)
  · exact fun x hx => (nomatch hx)

/-- A run that can be computed reaches a world in which a property can be computed. -/
theorem exists_worldReachable (service : PaymentService) (clock : Time) (events : List WorldEvent)
    (property : World → Bool)
    (h : (execWhere (World.step service) (fun w e => decide (BankLaw w e)) (World.initial clock)
      events).any property = true) : ∃ w, WorldReachable service w ∧ property w = true := by
  obtain ⟨w, hw, hproperty⟩ :=
    exists_reaches_of_execWhere (fun _ _ => of_decide_eq_true) events h
  exact ⟨w, ⟨clock, hw⟩, hproperty⟩

end PaymentGateway
