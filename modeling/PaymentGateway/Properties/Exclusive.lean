/-
# One attempt at a time

A service that runs under an accepted configuration gives an attempt less time than its
claim needs to get stuck. An attempt reads the instant of its claim after it has started,
so whatever it commits before its deadline it commits in time, and the record is its own:
no other attempt holds a claim on it, it is completed and released only by the attempt
that was granted it last, and the snapshot it keeps when it is completed is one of the
payment that it was opened for.

The column of the claim time keeps whole microseconds, so a claim gets stuck up to a
microsecond early. An accepted configuration need not leave that much time between the
deadline and the end of the claim, and then a second attempt can take over the claim of
one that is still running. The results are about runs over columns in which the instant
of a claim is read precisely enough for the configuration.

The deadline binds commits only. A bank call may end later, and so may a store call that
fails without having committed.
-/

import PaymentGateway.Config.Wiring
import PaymentGateway.Invariant.Ownership

namespace PaymentGateway

open Lib

/-- The service that is built from an accepted configuration. -/
def Config.paymentService (cfg : Config) (valid : cfg.validate = .ok ())
    (mac : GoString → GoString) (newPaymentID newBankOperationKey : ℕ → GoString) :
    PaymentService where
  mac := mac
  newPaymentID := newPaymentID
  newBankOperationKey := newBankOperationKey
  claimStuckAfter := cfg.idempotencyClaimStuckAfter
  claimStuckAfter_pos :=
    (cfg.paymentCommandTimeout_pos valid).trans (cfg.paymentCommandTimeout_lt valid)

/-- It is the service that `NewPaymentService` constructs from the configuration, where it does
not panic on the secret. -/
theorem Config.newPaymentService_eq (cfg : Config) (valid : cfg.validate = .ok ())
    (hmac : GoString → GoString → GoString) (newPaymentID newBankOperationKey : ℕ → GoString)
    (present : trimSpace cfg.fingerprintSecret ≠ []) :
    newPaymentService hmac newPaymentID newBankOperationKey cfg.fingerprintSecret
        cfg.idempotencyClaimStuckAfter =
      .ok (cfg.paymentService valid (hmac (trimSpace cfg.fingerprintSecret)) newPaymentID
        newBankOperationKey) := by
  have hpositive : ¬ cfg.idempotencyClaimStuckAfter ≤ 0 :=
    not_le.mpr (accepted_of_validate valid).claimStuckAfter
  rw [newPaymentService, rejectIf_of_not _ present, ok_bind, dif_neg hpositive]
  rfl

/-! ## Deadlines -/

/-- The deadline of an attempt has not passed. -/
def State.Unfinished (cfg : Config) (s : State) (attempt : Attempt) : Prop :=
  (s.clock : ℤ) < attempt.startedAt + cfg.paymentCommandTimeout

instance (cfg : Config) (s : State) (attempt : Attempt) : Decidable (s.Unfinished cfg attempt) :=
  inferInstanceAs (Decidable ((s.clock : ℤ) < _))

/-- The clock does not go backwards, and what an attempt commits it commits before its
deadline. -/
def BeforeDeadline (cfg : Config) (s : State) (e : Event) : Prop :=
  ClockForward s e ∧
    ActsWhen (fun _ action attempt => action.Commits → s.Unfinished cfg attempt) s e

instance (cfg : Config) (s : State) (e : Event) : Decidable (BeforeDeadline cfg s e) :=
  inferInstanceAs (Decidable (_ ∧ _))

/-- When an attempt reads the instant of its claim, what the column cuts off is no more than the
time between the deadline of an attempt and the end of its claim. -/
def PreparesPrecisely (cfg : Config) (s : State) (e : Event) : Prop :=
  ActsWhen (fun _ action _ => action = .prepare → (s.clock : ℤ) - timestamptz s.clock ≤
    cfg.idempotencyClaimStuckAfter - cfg.paymentCommandTimeout) s e

/-- Attempts keep their deadlines and read the instants of their claims precisely. -/
structure Punctual (cfg : Config) (s : State) (e : Event) : Prop where
  beforeDeadline : BeforeDeadline cfg s e
  precise : PreparesPrecisely cfg s e

/-- Two durations that differ by a microsecond are always precise enough, and so are whole
instants. -/
theorem preparesPrecisely_of_margin {cfg : Config} {s : State} (e : Event)
    (h : 1000 ≤ cfg.idempotencyClaimStuckAfter - cfg.paymentCommandTimeout ∨
      s.clock.Whole ∧ cfg.validate = .ok ()) : PreparesPrecisely cfg s e := by
  intro _ _ _ _ _ _
  rcases h with hmargin | ⟨hwhole, hvalid⟩
  · have hcut : (s.clock : ℤ) < timestamptz s.clock + 1000 := by
      unfold timestamptz
      omega
    linarith
  · rw [timestamptz_of_whole hwhole, sub_self]
    exact sub_nonneg.mpr (cfg.paymentCommandTimeout_lt hvalid).le

variable {service : PaymentService} {cfg : Config} {s s' : State} {e : Event} {attempt : Attempt}

/-- The claim of an attempt gets stuck, according to its column, only after the deadline. -/
def Attempt.Precise (cfg : Config) (attempt : Attempt) : Prop :=
  (attempt.preparedAt : ℤ) + cfg.paymentCommandTimeout ≤
    timestamptz attempt.preparedAt + cfg.idempotencyClaimStuckAfter

/-- Attempts that claim or hold a claim have read its instant precisely. -/
def PreciseInv (cfg : Config) (s : State) : Prop :=
  ∀ id attempt, s.attempts id = some attempt →
    attempt.phase.isClaiming = true ∨ attempt.phase.held ≠ none → attempt.Precise cfg

theorem PreciseInv.step (precise : PreciseInv cfg s) (hstep : SystemStep service s e s')
    (prepares : PreparesPrecisely cfg s e) : PreciseInv cfg s' := by
  intro id attempt' h hclaims
  rcases hstep.attempt_cases h with hkept | ⟨command, _, _, rfl⟩ |
    ⟨action, attempt, effect, rfl, running, rule, rfl, rfl⟩
  · exact precise id attempt' hkept hclaims
  · simp [Phase.isClaiming, Phase.held] at hclaims
  · cases hheld : effect.attempt.phase.held with
    | some claim =>
      -- The instant is the one with which the attempt claimed.
      rcases rule.held_cases hheld with ⟨claim', hheld', -, -, hprepared⟩ |
        ⟨request, phase, -, hprepared, -⟩
      · have hprecise := precise id attempt running (.inr (by simp [hheld']))
        unfold Attempt.Precise at hprecise ⊢
        rwa [hprepared]
      · have hprecise := precise id attempt running (.inl (by rw [phase]; rfl))
        unfold Attempt.Precise at hprecise ⊢
        rwa [hprepared]
    | none =>
      have hclaiming := hclaims.resolve_right (not_not.mpr hheld)
      cases rule with
      | prepared request drawn' phase built =>
        have hcut := prepares id .prepare attempt rfl running rfl
        change (s.clock : ℤ) + _ ≤ _
        linarith
      | _ => cases hclaiming

/-- An attempt that has not passed its deadline holds a claim that is not stuck. -/
theorem State.Unfinished.live (h : s.Unfinished cfg attempt)
    (started : attempt.startedAt ≤ attempt.preparedAt) (precise : attempt.Precise cfg)
    (stuckAfter : service.claimStuckAfter = cfg.idempotencyClaimStuckAfter) :
    s.LiveUnder timestamptz service attempt := by
  have hstarted : (attempt.startedAt : ℤ) ≤ attempt.preparedAt := Int.ofNat_le.mpr started
  unfold State.LiveUnder
  rw [stuckAfter]
  calc (s.clock : ℤ) < attempt.startedAt + cfg.paymentCommandTimeout := h
    _ ≤ attempt.preparedAt + cfg.paymentCommandTimeout := add_le_add_left hstarted _
    _ ≤ timestamptz attempt.preparedAt + cfg.idempotencyClaimStuckAfter := precise

/-! ## Runs over columns -/

/-- A completed record keeps a snapshot of the payment that it was opened for. -/
def IdempotencyRecord.KeepsSnapshot (record : IdempotencyRecord) : Prop :=
  record.status = .completed → ∃ snapshot, record.paymentResult = some snapshot ∧
    record.paymentID = some snapshot.id

/-- What holds in a run over columns whose attempts are punctual. -/
structure PunctualInv (cfg : Config) (service : PaymentService) (s : State) : Prop where
  owner : OwnerInv timestamptz service s
  made : s.Made service
  precise : PreciseInv cfg s
  columns : s.db.stored.records = s.db.records
  snapshots : ∀ recordKey record, s.db.records recordKey = some record → record.KeepsSnapshot

namespace PunctualInv

theorem live (inv : PunctualInv cfg service s)
    (stuckAfter : service.claimStuckAfter = cfg.idempotencyClaimStuckAfter) {id : ℕ}
    {claim : PaymentCommandClaim} (holds : s.Holds id attempt claim)
    (unfinished : s.Unfinished cfg attempt) : s.LiveUnder timestamptz service attempt :=
  unfinished.live (inv.owner.prepared id attempt holds.running).1
    (inv.precise id attempt holds.running (.inr (by simp [holds.held]))) stuckAfter

theorem commitsLive (inv : PunctualInv cfg service s)
    (stuckAfter : service.claimStuckAfter = cfg.idempotencyClaimStuckAfter)
    (allowed : BeforeDeadline cfg s e) : CommitsLive timestamptz service s e :=
  fun id action attempt _ he holds commits =>
    inv.live stuckAfter holds (allowed.2 id action attempt he holds.running commits)

/-- A step keeps every completed record with a snapshot of its own payment. -/
theorem snapshots_step (inv : PunctualInv cfg service s)
    (live : CommitsLive timestamptz service s e) (hstep : SystemStep service s e s')
    {recordKey : Operation × GoString} {record' : IdempotencyRecord}
    (h : s'.db.records recordKey = some record') : record'.KeepsSnapshot := by
  have hrecord := hstep.recordStep_of_made inv.made recordKey
  generalize hbefore : s.db.records recordKey = before at hrecord
  rw [h] at hrecord
  cases hrecord with
  | kept => exact inv.snapshots recordKey record' hbefore
  | granted _ _ _ _ _ _ _ _ _ _ _ _ _ slotGrant =>
    exact fun completed => absurd (slotGrant.inProgress.symm.trans completed) nofun
  | completed id action attempt claim result completedAt row record running phase completion
      commits hkey =>
    -- The completing attempt owns the record, so the record was opened for its payment.
    have hholds : s.Holds id attempt claim := ⟨running, by rw [phase]; rfl⟩
    obtain ⟨record₀, howned⟩ := inv.owner.owned id attempt claim hholds
      (live id action attempt claim rfl hholds commits)
    obtain rfl := Option.some_inj.mp (howned.slot.symm.trans completion.slot)
    have hresult := (inv.made id attempt running).result_eq phase
    exact fun _ => ⟨result.payment, rfl, by rw [hresult]; exact howned.paymentID⟩

theorem initial (cfg : Config) (service : PaymentService) (clock : Time) :
    PunctualInv cfg service (State.initial clock) where
  owner := ownerInv_initial timestamptz service clock
  made _ _ h := by cases h
  precise _ _ h := by cases h
  columns := rfl
  snapshots _ _ h := by cases h

theorem step (inv : PunctualInv cfg service s)
    (stuckAfter : service.claimStuckAfter = cfg.idempotencyClaimStuckAfter)
    (punctual : Punctual cfg s e) (taken : storedStep service s e = some s') :
    PunctualInv cfg service s' := by
  have hlive := inv.commitsLive stuckAfter punctual.beforeDeadline
  have howner := inv.owner.storedStep inv.made punctual.beforeDeadline.1 hlive taken
  have hmade := inv.made.storedStep taken
  obtain ⟨after, htaken, rfl⟩ := Option.map_eq_some_iff.mp taken
  have hstep := step_cases htaken
  have hprecise : PreciseInv cfg after := inv.precise.step hstep punctual.precise
  refine ⟨howner, hmade, hprecise, ?_, ?_⟩
  · funext recordKey
    change ((after.db.records recordKey).map _).map _ = (after.db.records recordKey).map _
    rw [Option.map_map]
    exact congrArg (Option.map · _) (funext fun record => record.stored_stored)
  · intro recordKey record' h
    obtain ⟨record, hrecord, rfl⟩ := Option.map_eq_some_iff.mp h
    have hkeeps : record.KeepsSnapshot := inv.snapshots_step hlive hstep hrecord
    exact hkeeps

end PunctualInv

theorem punctualInv_of_reaches {clock : Time}
    (stuckAfter : service.claimStuckAfter = cfg.idempotencyClaimStuckAfter)
    (run : Reaches (storedStep service) (Punctual cfg) (State.initial clock) s) :
    PunctualInv cfg service s :=
  run.invariant (.initial cfg service clock) fun _ _ _ _ inv punctual taken =>
    inv.step stuckAfter punctual taken

/-! ## Exclusive ownership -/

/-- What a store call of the owner makes of a record: the call fails, or it completes or
releases the record. -/
inductive Settled (record : IdempotencyRecord) : Option IdempotencyRecord → Prop
  | kept : Settled record (some record)
  | completed (result : PaymentCommandResult) (completedAt : Time) :
      Settled record (some (Db.completedRecord record result completedAt))
  | released : Settled record none

/-- What the columns keep of a settled record. -/
theorem Settled.stored {record : IdempotencyRecord} {slot : Option IdempotencyRecord}
    (h : Settled record slot) (columns : record.stored = record) :
    Settled record (slot.map IdempotencyRecord.stored) := by
  cases h with
  | kept =>
    rw [Option.map_some, columns]
    exact .kept
  | completed result completedAt =>
    have hclaimed : timestamptz record.claimedAt = record.claimedAt :=
      congrArg IdempotencyRecord.claimedAt columns
    have heq : (Db.completedRecord record result completedAt).stored =
        Db.completedRecord record result (timestamptz completedAt) := by
      simp [IdempotencyRecord.stored, Db.completedRecord, hclaimed]
    rw [Option.map_some, heq]
    exact .completed result (timestamptz completedAt)
  | released => exact .released

/-- A step of the owner settles the record it owns and touches no other. -/
theorem OwnedRecord.settled {id : ℕ} {action : Action} {claim : PaymentCommandClaim}
    {record : IdempotencyRecord} (owned : OwnedRecord timestamptz s id attempt claim record)
    (holds : s.Holds id attempt claim) (hstep : SystemStep service s (.act id action) s') :
    ∃ slot, Settled record slot ∧
      s'.db.records = Function.update s.db.records claim.recordKey slot := by
  obtain ⟨running, held⟩ := holds
  cases hstep.storeStep with
  | idle _ same =>
    exact ⟨some record, .kept, by rw [same, ← owned.slot, Function.update_eq_self]⟩
  | granted _ _ attempt' request _ running' phase =>
    rw [running, Option.some_inj] at running'
    rw [running', phase] at held
    cases held
  | completed _ _ attempt' claim' result completedAt row record' running' phase completion =>
    rw [running, Option.some_inj] at running'
    rw [running', phase] at held
    cases held
    obtain rfl := Option.some_inj.mp (owned.slot.symm.trans completion.slot)
    exact ⟨_, .completed result completedAt, by rw [completion.after]; rfl⟩
  | released _ _ attempt' claim' err running' phase after =>
    rw [running, Option.some_inj] at running'
    rw [running', phase] at held
    cases held
    refine ⟨none, .released, funext fun recordKey => ?_⟩
    rw [after, Db.releasePaymentCommand_records]
    split_ifs with hkey
    · rw [hkey, owned.slot, Function.update_self]
      simp [owned.inProgress]
    · rw [Function.update_of_ne hkey]

/-- The same over columns. -/
theorem PunctualInv.settled (inv : PunctualInv cfg service s) {id : ℕ} {action : Action}
    {claim : PaymentCommandClaim} {record : IdempotencyRecord}
    (owned : OwnedRecord timestamptz s id attempt claim record) (holds : s.Holds id attempt claim)
    (taken : storedStep service s (.act id action) = some s') :
    ∃ slot, Settled record slot ∧
      s'.db.records = Function.update s.db.records claim.recordKey slot := by
  obtain ⟨after, htaken, rfl⟩ := Option.map_eq_some_iff.mp taken
  obtain ⟨slot, hsettled, hrecords⟩ := owned.settled holds (step_cases htaken)
  have hcolumns : ∀ recordKey, (s.db.records recordKey).map IdempotencyRecord.stored =
      s.db.records recordKey := congrFun inv.columns
  have hstored : record.stored = record := by
    have h := hcolumns claim.recordKey
    rwa [owned.slot, Option.map_some, Option.some_inj] at h
  refine ⟨slot.map IdempotencyRecord.stored, hsettled.stored hstored, funext fun recordKey => ?_⟩
  change (after.db.records recordKey).map IdempotencyRecord.stored = _
  rw [hrecords]
  by_cases hkey : recordKey = claim.recordKey
  · rw [hkey, Function.update_self, Function.update_self]
  · rw [Function.update_of_ne hkey, Function.update_of_ne hkey, hcolumns]

/-- **Exclusive claim ownership.** Under an accepted configuration and a clock that does not
go backwards, let every attempt commit only before its deadline, and let the configuration
leave room for what the column cuts off the instants of claims. Then at most one attempt
that has not passed its deadline holds a claim on a record. A completion or release that
commits finds the record as the claim of its caller left it: in progress, with the caller's
fingerprint, payment and claim time, and granted to nobody since; this is the record that it
settles. A completed record keeps a snapshot of the payment it was opened for. -/
theorem exclusive_claims (cfg : Config) (valid : cfg.validate = .ok ())
    (mac : GoString → GoString) (newPaymentID newBankOperationKey : ℕ → GoString) (clock : Time)
    (s : State)
    (run : Reaches (storedStep (cfg.paymentService valid mac newPaymentID newBankOperationKey))
      (Punctual cfg) (State.initial clock) s) :
    (∀ i j first second claim claim', s.Holds i first claim → s.Holds j second claim' →
      s.Unfinished cfg first → s.Unfinished cfg second →
      claim.recordKey = claim'.recordKey → i = j) ∧
    (∀ id action attempt claim s', BeforeDeadline cfg s (.act id action) →
      storedStep (cfg.paymentService valid mac newPaymentID newBankOperationKey) s
        (.act id action) = some s' →
      s.Holds id attempt claim → action.Commits →
      ∃ record slot, OwnedRecord timestamptz s id attempt claim record ∧ Settled record slot ∧
        s'.db.records = Function.update s.db.records claim.recordKey slot) ∧
    (∀ recordKey record, s.db.records recordKey = some record → record.KeepsSnapshot) := by
  have inv := punctualInv_of_reaches rfl run
  refine ⟨?_, ?_, inv.snapshots⟩
  · intro i j first second claim claim' hfirst hsecond unfinished unfinished' same
    exact inv.owner.unique hfirst hsecond (inv.live rfl hfirst unfinished)
      (inv.live rfl hsecond unfinished') same
  · intro id action attempt claim s' allowed taken holds commits
    have hunfinished := allowed.2 id action attempt rfl holds.running commits
    obtain ⟨record, howned⟩ :=
      inv.owner.owned id attempt claim holds (inv.live rfl holds hunfinished)
    obtain ⟨slot, hsettled, hrecords⟩ := inv.settled howned holds taken
    exact ⟨record, slot, howned, hsettled, hrecords⟩

/-- The sample service with the default durations. -/
def Sample.configured : PaymentService :=
  Config.sample.paymentService Config.validate_sample Sample.service.mac
    Sample.service.newPaymentID Sample.service.newBankOperationKey

/-- An attempt dies after its bank call, and after the stuck-after duration the same request
is received again. It takes the claim over and nobody else holds it. -/
theorem exclusive_claims_taken_over :
    ∃ (s : State) (attempt : Attempt) (claim : PaymentCommandClaim),
      Reaches (storedStep Sample.configured) (Punctual Config.sample) (State.initial 1001) s ∧
      s.Holds 1 attempt claim ∧ claim.recovered = true ∧
      s.Unfinished Config.sample attempt ∧
      ∀ (j : ℕ) (other : Attempt) (claim' : PaymentCommandClaim), s.Holds j other claim' →
        s.Unfinished Config.sample other → claim'.recordKey = claim.recordKey → j = 1 := by
  let command := Sample.authorize (ascii "k0") (by decide)
  obtain ⟨s, hrun, hproperty⟩ := exists_reaches_of_execWhere (fun _ _ => of_decide_eq_true)
    (Sample.call 0 command ++ [.act 0 .die, .tick 400000000000] ++ Sample.call 1 command)
    (show (execWhere (storedStep Sample.configured)
      (fun s e => decide (BeforeDeadline Config.sample s e)) (State.initial 1001) _).any (fun s =>
        (s.attempts 1).any fun attempt => attempt.phase.held.any (fun claim => claim.recovered) &&
          s.Unfinished Config.sample attempt) = true by decide +kernel)
  simp only [Option.any_eq_true, Bool.and_eq_true, decide_eq_true_eq] at hproperty
  obtain ⟨attempt, hrunning, ⟨claim, hheld, hrecovered⟩, hunfinished⟩ := hproperty
  have hs : Reaches (storedStep Sample.configured) (Punctual Config.sample) (State.initial 1001)
      s :=
    hrun.mono fun _ e allowed => ⟨allowed, preparesPrecisely_of_margin e (.inl (by decide))⟩
  obtain ⟨hunique, _, _⟩ := exclusive_claims Config.sample Config.validate_sample
    Sample.service.mac Sample.service.newPaymentID Sample.service.newBankOperationKey 1001 s hs
  exact ⟨s, attempt, claim, hs, ⟨hrunning, hheld⟩, hrecovered, hunfinished,
    fun j other claim' holds unfinished same =>
      hunique j 1 other attempt claim' claim holds ⟨hrunning, hheld⟩ unfinished hunfinished same⟩

/-! ## A margin of a nanosecond -/

namespace Sample

/-- The defaults, with claims that get stuck a nanosecond after the deadline of their attempt. -/
def tightConfig : Config :=
  { Config.sample with
    paymentCommandTimeout := 10000000000
    idempotencyClaimStuckAfter := 10000000001 }

theorem tightConfig_valid : tightConfig.validate = .ok () := by decide +kernel

def tight : PaymentService :=
  tightConfig.paymentService tightConfig_valid Sample.service.mac Sample.service.newPaymentID
    Sample.service.newBankOperationKey

end Sample

/-- Under an accepted configuration with a margin of a nanosecond, the claim of an attempt is
taken over before its deadline, and two attempts send their requests to the bank. -/
theorem claim_taken_over_early :
    ∃ (s : State) (first second : Attempt) (claim claim' : PaymentCommandClaim),
      Sample.tightConfig.validate = .ok () ∧
      Reaches (storedStep Sample.tight) (BeforeDeadline Sample.tightConfig)
        (State.initial 1000000999) s ∧
      s.Holds 0 first claim ∧ s.Holds 1 second claim' ∧ claim.recordKey = claim'.recordKey ∧
      s.Unfinished Sample.tightConfig first ∧ s.Unfinished Sample.tightConfig second := by
  let command := Sample.authorize (ascii "k0") (by decide)
  obtain ⟨s, hs, hproperty⟩ := exists_reaches_of_execWhere (fun _ _ => of_decide_eq_true)
    (Sample.call 0 command ++ [.tick 11000000001] ++ Sample.call 1 command)
    (show (execWhere (storedStep Sample.tight)
      (fun s e => decide (BeforeDeadline Sample.tightConfig s e)) (State.initial 1000000999)
        _).any (fun s => (s.attempts 0).any fun first => first.phase.held.any fun claim =>
          (s.attempts 1).any fun second => second.phase.held.any fun claim' =>
            decide (claim.recordKey = claim'.recordKey ∧ s.Unfinished Sample.tightConfig first ∧
              s.Unfinished Sample.tightConfig second)) = true by decide +kernel)
  simp only [Option.any_eq_true, decide_eq_true_eq] at hproperty
  obtain ⟨first, hfirst, claim, hheld, second, hsecond, claim', hheld', hkey, hunfinished,
    hunfinished'⟩ := hproperty
  exact ⟨s, first, second, claim, claim', Sample.tightConfig_valid, hs, ⟨hfirst, hheld⟩,
    ⟨hsecond, hheld'⟩, hkey, hunfinished, hunfinished'⟩

end PaymentGateway
