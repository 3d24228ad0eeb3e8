/-
# Who owns a record

An attempt holds its claim from the grant until it returns or dies. Nothing in the
database says who holds a claim: a record only has the fingerprint of its request
and the time at which it was last claimed.

A claim can be taken over once the stuck-after duration has passed since it was made.
As long as every attempt is finished by then, the attempt that was last granted a
record is the only one that holds it: the record is in progress with that attempt's
claim time, so nobody else was granted it, and nobody else completes or releases it.

What counts as the time of a claim is what the column keeps of it, `keep`. Where storage
is exact that is the time itself.
-/

import PaymentGateway.Invariant.Records

namespace PaymentGateway

open Lib

/-! ## Held claims -/

/-- The claim that an attempt holds in a phase. -/
def Phase.held : Phase → Option PaymentCommandClaim
  | .calling claim => some claim
  | .awaiting claim => some claim
  | .completing claim _ => some claim
  | .persisting claim _ _ => some claim
  | .releasing claim _ => some claim
  | _ => none

theorem Phase.Waits.held {phase : Phase} {claim : PaymentCommandClaim} (h : phase.Waits claim) :
    phase.held = some claim := by
  rcases h with rfl | rfl <;> rfl

/-- An attempt holds a claim. -/
structure State.Holds (s : State) (id : ℕ) (attempt : Attempt) (claim : PaymentCommandClaim) :
    Prop where
  running : s.attempts id = some attempt
  held : attempt.phase.held = some claim

/-- One claim, whose payment may have been marked. -/
structure SameClaim (claim claim' : PaymentCommandClaim) : Prop where
  rest : claim' = { claim with payment := claim'.payment }
  paymentID : claim'.payment.id = claim.payment.id

namespace SameClaim

variable {claim claim' : PaymentCommandClaim}

theorem refl (claim : PaymentCommandClaim) : SameClaim claim claim := ⟨rfl, rfl⟩

theorem trans {claim'' : PaymentCommandClaim} (first : SameClaim claim claim')
    (second : SameClaim claim' claim'') : SameClaim claim claim'' :=
  ⟨by rw [second.rest, first.rest], second.paymentID.trans first.paymentID⟩

theorem recordKey (h : SameClaim claim claim') : claim'.recordKey = claim.recordKey := by
  rw [h.rest]
  rfl

theorem fingerprint (h : SameClaim claim claim') :
    claim'.requestFingerprint = claim.requestFingerprint := by
  rw [h.rest]

end SameClaim

/-- The actions by which an attempt gives its claim up. -/
def Action.GivesUp : Action → Prop
  | .complete => True
  | .release => True
  | .storeFails _ => True
  | .die => True
  | _ => False

namespace AttemptStep

variable {service : PaymentService} {clock : Time} {drawn : Draws} {db : Db} {id : ℕ}
  {attempt : Attempt} {action : Action} {effect : Effect} {claim claim' : PaymentCommandClaim}

/-- A claim that is held after a step was held before, or it has just been granted. -/
theorem held_cases (rule : AttemptStep service clock drawn db id attempt action effect)
    (h : effect.attempt.phase.held = some claim') :
    (∃ claim, attempt.phase.held = some claim ∧ SameClaim claim claim' ∧ effect.db = db ∧
      effect.attempt.preparedAt = attempt.preparedAt) ∨
    ∃ request, attempt.phase = .claiming request ∧ db.Granted request claim' effect.db ∧
      effect.attempt.preparedAt = attempt.preparedAt ∧ .claimed id claim' ∈ effect.observed := by
  cases rule with
  | granted request claim db' phase grant =>
    cases h
    exact .inr ⟨request, phase, grant, rfl, claimed_mem_grantObservations id _⟩
  | sent claim phase =>
    cases h
    exact .inl ⟨_, phase.held, .refl _, rfl, rfl⟩
  | marked claim answer m kind phase _ mark =>
    cases h
    exact .inl ⟨claim, phase.held, ⟨rfl, mark.id_eq⟩, rfl, rfl⟩
  | withdrawn claim answer err phase _ =>
    cases h
    exact .inl ⟨_, phase.held, .refl _, rfl, rfl⟩
  | stamped claim result phase =>
    cases h
    exact .inl ⟨_, by rw [phase]; rfl, .refl _, rfl, rfl⟩
  | _ => cases h

/-- A held claim stays held, unless the attempt gives it up. -/
theorem held_of_not_givesUp (rule : AttemptStep service clock drawn db id attempt action effect)
    (h : attempt.phase.held = some claim) (kept : ¬ action.GivesUp) :
    ∃ claim', effect.attempt.phase.held = some claim' ∧ SameClaim claim claim' ∧
      effect.db = db := by
  cases rule with
  | prepared _ _ phase | unprepared _ _ phase | granted _ _ _ phase | replayed _ _ phase
  | refused _ _ phase =>
    rw [phase] at h
    cases h
  | sent claimed phase =>
    rw [phase.held, Option.some_inj] at h
    exact ⟨claimed, rfl, h ▸ .refl _, rfl⟩
  | marked claimed answer m kind phase _ mark =>
    rw [phase.held, Option.some_inj] at h
    subst h
    exact ⟨_, rfl, ⟨rfl, mark.id_eq⟩, rfl⟩
  | withdrawn claimed answer err phase _ =>
    rw [phase.held, Option.some_inj] at h
    exact ⟨claimed, rfl, h ▸ .refl _, rfl⟩
  | stamped claimed result phase =>
    rw [phase] at h
    cases h
    exact ⟨claim, rfl, .refl _, rfl⟩
  | _ => exact absurd trivial kept

end AttemptStep

/-- An attempt goes on holding its claim, unless it gives it up. -/
theorem State.Holds.step {service : PaymentService} {s s' : State} {e : Event} {id : ℕ}
    {attempt : Attempt} {claim : PaymentCommandClaim} (h : s.Holds id attempt claim)
    (hstep : SystemStep service s e s') (kept : ∀ action, e = .act id action → ¬ action.GivesUp) :
    ∃ attempt' claim', s'.Holds id attempt' claim' ∧ attempt'.command = attempt.command ∧
      SameClaim claim claim' := by
  by_cases hact : ∃ action, e = .act id action
  · obtain ⟨action, rfl⟩ := hact
    obtain ⟨effect, rfl, rule⟩ := hstep.exists_effect h.running
    obtain ⟨claim', held', hsame, _⟩ := rule.held_of_not_givesUp h.held (kept action rfl)
    exact ⟨effect.attempt, claim', ⟨s.attempts_after_self id effect, held'⟩, rule.command_eq,
      hsame⟩
  · rw [not_exists] at hact
    exact ⟨attempt, claim, ⟨hstep.attempts_kept h.running hact, h.held⟩, rfl, .refl claim⟩

/-! ## Who was granted a record last -/

/-- The attempt that an observation says was granted a record. -/
def Observation.claimant (recordKey : Operation × GoString) : Observation → Option ℕ
  | .claimed id claim => if claim.recordKey = recordKey then some id else none
  | _ => none

/-- The attempt that was granted a record last. -/
def State.lastClaim (s : State) (recordKey : Operation × GoString) : Option ℕ :=
  s.log.findSome? (Observation.claimant recordKey)

/-- A step shows a grant of a record to its attempt, or none. -/
theorem AttemptStep.claimant_cases {service : PaymentService} {clock : Time} {drawn : Draws}
    {db : Db} {id : ℕ} {attempt : Attempt} {action : Action} {effect : Effect}
    (rule : AttemptStep service clock drawn db id attempt action effect)
    (recordKey : Operation × GoString) :
    effect.observed.findSome? (Observation.claimant recordKey) = none ∨
    ∃ request claim, attempt.phase = .claiming request ∧ db.Granted request claim effect.db ∧
      claim.recordKey = recordKey ∧
      effect.observed.findSome? (Observation.claimant recordKey) = some id := by
  cases rule with
  | granted request claim db' phase grant =>
    by_cases hkey : claim.recordKey = recordKey
    · refine .inr ⟨request, claim, phase, grant, hkey, ?_⟩
      dsimp only [grantObservations]
      split_ifs <;> simp [List.findSome?, Observation.claimant, hkey]
    · left
      dsimp only [grantObservations]
      split_ifs <;> simp [List.findSome?, Observation.claimant, hkey]
  | claimLost request claim db' phase grant =>
    by_cases hkey : claim.recordKey = recordKey
    · exact .inr ⟨request, claim, phase, grant, hkey, by simp [Observation.claimant, hkey]⟩
    · exact .inl (by simp [Observation.claimant, hkey])
  | refused request err phase refusal =>
    left
    dsimp only [refusalObservations]
    split <;> rfl
  | completed claim result completedAt row record db' phase completion =>
    left
    dsimp only
    split_ifs <;> rfl
  | _ => exact .inl rfl

/-- The attempt that a step shows to be granted a record is the one granted it last. -/
theorem AttemptStep.claimant_of_claimed {service : PaymentService} {clock : Time} {drawn : Draws}
    {db : Db} {id : ℕ} {attempt : Attempt} {action : Action} {effect : Effect}
    {claim : PaymentCommandClaim}
    (rule : AttemptStep service clock drawn db id attempt action effect)
    (h : .claimed id claim ∈ effect.observed) :
    effect.observed.findSome? (Observation.claimant claim.recordKey) = some id := by
  rcases rule.claimant_cases claim.recordKey with hnone | ⟨_, _, _, _, _, hsome⟩
  · have hentry := List.findSome?_eq_none_iff.mp hnone _ h
    simp [Observation.claimant] at hentry
  · exact hsome

variable {s s' : State} {e : Event}

/-- Who was granted a record last changes only when it is granted. -/
theorem SystemStep.lastClaim_cases (hstep : SystemStep service s e s')
    (recordKey : Operation × GoString) :
    s'.lastClaim recordKey = s.lastClaim recordKey ∨
    ∃ id action attempt request claim, e = .act id action ∧ s.attempts id = some attempt ∧
      attempt.phase = .claiming request ∧ s.db.Granted request claim s'.db ∧
      claim.recordKey = recordKey ∧ s'.lastClaim recordKey = some id := by
  cases hstep with
  | tick | receive | scheduleCleanup | runCleanup => exact .inl rfl
  | act id action attempt effect running rule =>
    rcases rule.claimant_cases recordKey with hnone | ⟨request, claim, phase, grant, hkey, hsome⟩
    · left
      rw [State.lastClaim, State.after, List.findSome?_append, hnone]
      rfl
    · refine .inr ⟨id, action, attempt, request, claim, rfl, running, phase, grant, hkey, ?_⟩
      rw [State.lastClaim, State.after, List.findSome?_append, hsome]
      rfl

/-! ## Attempts that finish in time -/

/-- Less than the stuck-after duration has passed since what is kept of the instant that an
attempt's claim carries. -/
def State.LiveUnder (keep : Time → Time) (service : PaymentService) (s : State)
    (attempt : Attempt) : Prop :=
  (s.clock : ℤ) < keep attempt.preparedAt + service.claimStuckAfter

/-- Less than the stuck-after duration has passed since the instant that an attempt's claim
carries. -/
def State.Live (service : PaymentService) (s : State) (attempt : Attempt) : Prop :=
  s.LiveUnder id service attempt

instance (service : PaymentService) (s : State) (attempt : Attempt) :
    Decidable (s.Live service attempt) :=
  inferInstanceAs (Decidable ((s.clock : ℤ) < _))

/-- The clock does not go backwards, and what an attempt commits it commits in time. -/
def InTime (service : PaymentService) (s : State) (e : Event) : Prop :=
  ClockForward s e ∧ ActsWhen (fun _ action attempt => action.Commits → s.Live service attempt) s e

instance (service : PaymentService) (s : State) (e : Event) : Decidable (InTime service s e) :=
  inferInstanceAs (Decidable (_ ∧ _))

/-- What an attempt commits while it holds a claim it commits in time. -/
def CommitsLive (keep : Time → Time) (service : PaymentService) (s : State) (e : Event) : Prop :=
  ∀ id action attempt claim, e = .act id action → s.Holds id attempt claim → action.Commits →
    s.LiveUnder keep service attempt

theorem InTime.commitsLive (h : InTime service s e) : CommitsLive id service s e :=
  fun id action attempt _ he holds commits => h.2 id action attempt he holds.running commits

variable {keep : Time → Time}

/-- A record as the attempt that holds a claim on it left it. -/
structure OwnedRecord (keep : Time → Time) (s : State) (id : ℕ) (attempt : Attempt)
    (claim : PaymentCommandClaim) (record : IdempotencyRecord) : Prop where
  slot : s.db.records claim.recordKey = some record
  inProgress : record.status = .inProgress
  fingerprint : record.requestFingerprint = claim.requestFingerprint
  claimedAt : keep record.claimedAt = keep attempt.preparedAt
  paymentID : record.paymentID = some claim.payment.id
  last : s.lastClaim claim.recordKey = some id

/-- In time, an attempt that holds a claim owns its record. -/
structure OwnerInv (keep : Time → Time) (service : PaymentService) (s : State) : Prop where
  prepared : ∀ id attempt, s.attempts id = some attempt →
    attempt.startedAt ≤ attempt.preparedAt ∧ attempt.preparedAt ≤ s.clock
  owned : ∀ id attempt claim, s.Holds id attempt claim → s.LiveUnder keep service attempt →
    ∃ record, OwnedRecord keep s id attempt claim record

theorem State.LiveUnder.mono {attempt : Attempt} (h : s'.LiveUnder keep service attempt)
    (hle : s.clock ≤ s'.clock) : s.LiveUnder keep service attempt :=
  (Int.ofNat_le.mpr hle).trans_lt h

/-- In time, one attempt at a time holds a claim on a record. -/
theorem OwnerInv.unique (owner : OwnerInv keep service s) {i j : ℕ} {first second : Attempt}
    {claim claim' : PaymentCommandClaim} (hfirst : s.Holds i first claim)
    (hsecond : s.Holds j second claim') (live : s.LiveUnder keep service first)
    (live' : s.LiveUnder keep service second) (same : claim.recordKey = claim'.recordKey) :
    i = j := by
  obtain ⟨_, howned⟩ := owner.owned i first claim hfirst live
  obtain ⟨_, howned'⟩ := owner.owned j second claim' hsecond live'
  have hlast := howned.last
  rw [same, howned'.last, Option.some_inj] at hlast
  exact hlast.symm

/-- The record of a live owner is granted to nobody. -/
theorem OwnerInv.ne_of_granted (owner : OwnerInv keep service s) (made : s.Made service) {i j : ℕ}
    {attempt other : Attempt} {claim granted : PaymentCommandClaim} {request : ClaimRequest}
    {db' : Db} (below : ∀ time, keep time ≤ time) (holds : s.Holds i attempt claim)
    (live : s.LiveUnder keep service attempt)
    (running : s.attempts j = some other) (phase : other.phase = .claiming request)
    (grant : s.db.Granted request granted db') : claim.recordKey ≠ request.base.recordKey := by
  intro hkey
  obtain ⟨record, howned⟩ := owner.owned i attempt claim holds live
  obtain ⟨_, _, hbuilt⟩ := (made j other running).built phase
  obtain ⟨record', hslot, _⟩ := grant.slot hbuilt
  rw [← hkey, howned.slot] at hslot
  generalize granted.recovered = recovered at hslot
  cases hslot with
  | recovered _ stuck _ =>
    -- The other attempt prepared its request after the owner's claim had become stuck.
    have hstuck := stuck.2.2
    have hprepared : (other.preparedAt : ℤ) ≤ s.clock :=
      Int.ofNat_le.mpr (owner.prepared j other running).2
    have hkept : (keep attempt.preparedAt : ℤ) ≤ record.claimedAt :=
      Int.ofNat_le.mpr (howned.claimedAt ▸ below record.claimedAt)
    rw [hbuilt.base_eq] at hstuck
    simp only at hstuck
    unfold State.LiveUnder at live
    linarith

/-- Nobody else touches the record of a live owner. -/
theorem OwnerInv.kept (owner : OwnerInv keep service s) (made : s.Made service)
    (below : ∀ time, keep time ≤ time) (commitsLive : CommitsLive keep service s e)
    (hstep : SystemStep service s e s') {id : ℕ} {attempt : Attempt}
    {claim : PaymentCommandClaim} {record : IdempotencyRecord}
    (holds : s.Holds id attempt claim) (live : s.LiveUnder keep service attempt)
    (owned : OwnedRecord keep s id attempt claim record) (idle : ∀ action, e ≠ .act id action) :
    OwnedRecord keep s' id attempt claim record := by
  -- An attempt that completes or releases a record holds it, so it is the owner itself.
  have hother : ∀ j action attempt' claim', e = .act j action → s.Holds j attempt' claim' →
      action.Commits → claim.recordKey ≠ claim'.recordKey := by
    rintro j action attempt' claim' rfl holds' commits hkey
    have hlive := commitsLive j action attempt' claim' rfl holds' commits
    exact idle action (owner.unique holds holds' live hlive hkey ▸ rfl)
  have hslot : s'.db.records claim.recordKey = some record := by
    have hrecord := hstep.recordStep_of_made made claim.recordKey
    rw [owned.slot] at hrecord
    generalize s'.db.records claim.recordKey = after at hrecord
    cases hrecord with
    | kept => rfl
    | granted j _ attempt' request _ _ _ running phase grant _ hkey =>
      -- The record of a live attempt is not stuck, so it is granted to nobody else.
      obtain ⟨_, _, hbuilt⟩ := (made j attempt' running).built phase
      have hne := owner.ne_of_granted made below holds live running phase grant
      exact absurd (hbuilt.recordKey_eq.trans hkey).symm hne
    | completed j action attempt' claim' _ _ _ _ running phase _ commits hkey =>
      exact absurd hkey.symm
        (hother j action attempt' claim' rfl ⟨running, by rw [phase]; rfl⟩ commits)
    | released j action attempt' claim' _ _ running phase commits hkey =>
      exact absurd hkey.symm
        (hother j action attempt' claim' rfl ⟨running, by rw [phase]; rfl⟩ commits)
    | cleaned _ _ _ completed => exact absurd (owned.inProgress.symm.trans completed) nofun
  refine { owned with slot := hslot, last := ?_ }
  rcases hstep.lastClaim_cases claim.recordKey with heq |
    ⟨j, action, attempt', request, claim', rfl, running, phase, grant, hkey, _⟩
  · exact heq.trans owned.last
  · have hne := owner.ne_of_granted made below holds live running phase grant
    rw [← grant.recordKey_eq.1, hkey] at hne
    exact absurd rfl hne

/-- An attempt that is granted a claim owns its record. -/
theorem Db.Granted.ownedRecord {id : ℕ} {action : Action} {attempt : Attempt} {effect : Effect}
    {request : ClaimRequest} {claim : PaymentCommandClaim} (made : s.Made service)
    (running : s.attempts id = some attempt) (phase : attempt.phase = .claiming request)
    (rule : AttemptStep service s.clock s.drawn s.db id attempt action effect)
    (grant : s.db.Granted request claim effect.db)
    (prepared : effect.attempt.preparedAt = attempt.preparedAt)
    (observed : .claimed id claim ∈ effect.observed) :
    ∃ record, OwnedRecord keep (s.after id effect) id effect.attempt claim record := by
  obtain ⟨_, _, hbuilt⟩ := (made id attempt running).built phase
  obtain ⟨record, hslot, heq⟩ := grant.slot hbuilt
  obtain ⟨hkey, hfingerprint⟩ := grant.recordKey_eq
  refine ⟨record, ?_, hslot.inProgress, ?_, ?_, hslot.paymentID_eq, ?_⟩
  · rw [hkey]
    exact (congrFun heq _).trans (Function.update_self ..)
  · rw [hslot.fingerprint, hfingerprint]
  · rw [hslot.claimedAt, prepared, hbuilt.base_eq]
  · rw [State.lastClaim, State.after, List.findSome?_append, rule.claimant_of_claimed observed]
    rfl

theorem OwnerInv.step (owner : OwnerInv keep service s) (made : s.Made service)
    (below : ∀ time, keep time ≤ time) (forward : ClockForward s e)
    (commitsLive : CommitsLive keep service s e) (hstep : SystemStep service s e s') :
    OwnerInv keep service s' := by
  have hclock := hstep.clock_le forward
  constructor
  · intro id attempt' h
    -- An attempt reads the clock once more, when it prepares its request.
    rcases hstep.attempt_cases h with hold | ⟨command, _, _, rfl⟩ |
      ⟨action, attempt, effect, rfl, running, rule, rfl, rfl⟩
    · obtain ⟨hstarted, hprepared⟩ := owner.prepared id attempt' hold
      exact ⟨hstarted, hprepared.trans hclock⟩
    · exact ⟨le_rfl, hclock⟩
    · obtain ⟨hstarted, hprepared⟩ := owner.prepared id attempt running
      cases rule with
      | prepared => exact ⟨hstarted.trans hprepared, le_rfl⟩
      | _ => exact ⟨hstarted, hprepared⟩
  · intro id attempt' claim' holds live
    by_cases hact : ∃ action, e = .act id action
    · obtain ⟨action, rfl⟩ := hact
      cases hstep with
      | act _ _ attempt effect running rule =>
        obtain ⟨running', held⟩ := holds
        rw [State.attempts_after_self, Option.some_inj] at running'
        subst running'
        rcases rule.held_cases held with ⟨claim, held', hsame, hdb, hprepared⟩ |
          ⟨request, phase, grant, hprepared, hobserved⟩
        · -- The attempt goes on with the claim it had, and leaves the tables alone.
          have hlive : s.LiveUnder keep service attempt := by
            unfold State.LiveUnder at live ⊢
            rwa [hprepared] at live
          obtain ⟨record, howned⟩ := owner.owned id attempt claim ⟨running, held'⟩ hlive
          refine ⟨record, ?_, howned.inProgress, ?_, ?_, ?_, ?_⟩
          · rw [hsame.recordKey]
            exact (congrArg (fun db : Db => db.records claim.recordKey) hdb).trans howned.slot
          · rw [hsame.fingerprint, howned.fingerprint]
          · rw [hprepared, howned.claimedAt]
          · rw [hsame.paymentID, howned.paymentID]
          · rw [hsame.recordKey]
            rcases (SystemStep.act id action attempt effect running rule).lastClaim_cases
              claim.recordKey with heq | ⟨_, _, _, _, _, he, _, _, _, _, hlast⟩
            · exact heq.trans howned.last
            · cases he
              exact hlast
        · -- The claim is new, and the grant has just written its record.
          exact grant.ownedRecord made running phase rule hprepared hobserved
    · -- Something else steps, which does not take the record of a live attempt away.
      rw [not_exists] at hact
      obtain ⟨running', held⟩ := holds
      rcases hstep.attempt_cases running' with hold | ⟨command, _, _, rfl⟩ | ⟨action, _, _, rfl, _⟩
      · have hlive := live.mono hclock
        obtain ⟨record, howned⟩ := owner.owned id attempt' claim' ⟨hold, held⟩ hlive
        exact ⟨record, owner.kept made below commitsLive hstep ⟨hold, held⟩ hlive howned hact⟩
      · cases held
      · exact absurd rfl (hact action)

theorem ownerInv_initial (keep : Time → Time) (service : PaymentService) (clock : Time) :
    OwnerInv keep service (State.initial clock) := by
  refine ⟨fun _ _ h => ?_, ?_⟩
  · cases h
  · rintro _ _ _ ⟨h, _⟩
    cases h

/-- Where storage is exact, attempts that are in time own what they hold. -/
theorem ownerInv_of_reaches {clock : Time}
    (run : Reaches (PaymentGateway.step service) (InTime service) (State.initial clock) s) :
    OwnerInv id service s :=
  run.invariant (ownerInv_initial id service clock) fun _ _ _ run owner intime taken =>
    owner.step (inv_of_reaches run).made (fun _ => le_rfl) intime.1 intime.commitsLive
      (step_cases taken)

/-! ## Claim times in columns -/

/-- What is written to the columns is kept of the record that was written. -/
theorem OwnerInv.stored (owner : OwnerInv timestamptz service s) :
    OwnerInv timestamptz service { s with db := s.db.stored } := by
  refine ⟨owner.prepared, fun id attempt claim holds live => ?_⟩
  obtain ⟨record, howned⟩ := owner.owned id attempt claim ⟨holds.running, holds.held⟩ live
  refine ⟨record.stored, ?_, howned.inProgress, howned.fingerprint, ?_, howned.paymentID,
    howned.last⟩
  · exact congrArg (Option.map IdempotencyRecord.stored) howned.slot
  · exact (timestamptz_timestamptz record.claimedAt).trans howned.claimedAt

theorem OwnerInv.storedStep (owner : OwnerInv timestamptz service s) (made : s.Made service)
    (forward : ClockForward s e) (commitsLive : CommitsLive timestamptz service s e)
    (taken : storedStep service s e = some s') : OwnerInv timestamptz service s' := by
  obtain ⟨after, htaken, rfl⟩ := Option.map_eq_some_iff.mp taken
  exact (owner.step made timestamptz_le forward commitsLive (step_cases htaken)).stored

theorem State.Made.storedStep (made : s.Made service)
    (taken : storedStep service s e = some s') : s'.Made service := by
  obtain ⟨after, htaken, rfl⟩ := Option.map_eq_some_iff.mp taken
  have hmade : after.Made service := made.step (step_cases htaken)
  exact hmade

end PaymentGateway
