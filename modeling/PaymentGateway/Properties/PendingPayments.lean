/-
# Pending payments

A payment is stored as pending before the bank is asked, and pending is meant to say
that the outcome of its authorization is not known: an attempt is at work, or the
last thing the bank client said about its operation key was that it could not tell.

It says less. When the bank rejects an authorization outright, the method releases
its claim and returns the error; the payment stays pending, and nobody is at work on
it. The same is left behind when the completion of a decided outcome finds its record
gone or completed, because the claim was taken over by another attempt in the
meantime. Without these two, and as long as operation keys do not repeat, pending
means what it is meant to: an attempt that waits for the bank, or that holds a
decision it has yet to store, is at work, or the last answer left the outcome open.
-/

import PaymentGateway.Invariant.Provenance
import PaymentGateway.Properties.OpenClaims

namespace PaymentGateway

open Lib

variable {service : PaymentService} {s s' : State} {e : Event} {id : ℕ} {pid key : GoString}
  {answer : BankAnswer}

/-! ## The last answer for a key -/

/-- An answer that leaves the outcome of an authorization unknown. -/
def BankAnswer.isUnknown : BankAnswer → Bool
  | .failed err => isUnknownAuthorizationOutcome err
  | _ => false

/-- An attempt was granted the authorization of a payment with an operation key. -/
def asksFor (key : GoString) (id : ℕ) (log : List Observation) : Bool :=
  log.any fun
    | .claimed other claim => other = id ∧ claim.operation.Authorizes ∧
        claim.payment.authorizationBankOperationKey = key
    | _ => false

/-- The last answer of the bank client for an authorization operation key. -/
def lastAnswer (key : GoString) : List Observation → Option BankAnswer
  | [] => none
  | .answered id _ answer :: earlier =>
    if asksFor key id earlier then some answer else lastAnswer key earlier
  | _ :: earlier => lastAnswer key earlier

/-- By the last answer for a key the outcome of its authorization is unknown. -/
def State.Unknown (s : State) (key : GoString) : Prop :=
  ∃ answer, lastAnswer key s.log = some answer ∧ answer.isUnknown = true

/-- An observation that is not an answer. -/
def Observation.IsSilent (observed : Observation) : Prop :=
  ∀ id pid answer, observed ≠ .answered id pid answer

theorem lastAnswer_append {news log : List Observation} (silent : ∀ o ∈ news, o.IsSilent) :
    lastAnswer key (news ++ log) = lastAnswer key log := by
  induction news with
  | nil => rfl
  | cons o news ih =>
    have hrest := ih fun o' h => silent o' (List.mem_cons_of_mem _ h)
    cases o with
    | answered id pid answer => exact absurd rfl (silent _ List.mem_cons_self id pid answer)
    | claimed | sent | recovery | releaseFailure => exact hrest

theorem grantObservations_silent (id : ℕ) (claim : PaymentCommandClaim) :
    ∀ o ∈ grantObservations id claim, o.IsSilent := by
  unfold grantObservations
  split_ifs <;> simp [Observation.IsSilent]

theorem refusalObservations_silent (id : ℕ) (operation : Operation) (err : GoError) :
    ∀ o ∈ refusalObservations id operation err, o.IsSilent := by
  unfold refusalObservations
  split <;> simp [Observation.IsSilent]

/-- Only an answer is observed as an answer. -/
theorem AttemptStep.silent {clock : Time} {drawn : Draws} {db : Db} {attempt : Attempt}
    {action : Action} {effect : Effect}
    (rule : AttemptStep service clock drawn db id attempt action effect)
    (quiet : ∀ answer, action ≠ .answer answer) : ∀ o ∈ effect.observed, o.IsSilent := by
  cases rule with
  | granted => exact grantObservations_silent _ _
  | refused => exact refusalObservations_silent _ _ _
  | marked _ answer => exact absurd rfl (quiet answer)
  | withdrawn _ answer => exact absurd rfl (quiet answer)
  | completed =>
    dsimp only
    split_ifs <;> simp [Observation.IsSilent]
  | _ => simp [Observation.IsSilent]

theorem SystemStep.lastAnswer_eq (hstep : SystemStep service s e s')
    (quiet : ∀ id answer, e ≠ .act id (.answer answer)) :
    lastAnswer key s'.log = lastAnswer key s.log := by
  cases hstep with
  | tick | receive | scheduleCleanup | runCleanup => rfl
  | act id action attempt effect running rule =>
    exact lastAnswer_append (rule.silent fun answer h => quiet id answer (h ▸ rfl))

theorem SystemStep.unknown_iff (hstep : SystemStep service s e s')
    (quiet : ∀ id answer, e ≠ .act id (.answer answer)) : s'.Unknown key ↔ s.Unknown key := by
  rw [State.Unknown, State.Unknown, hstep.lastAnswer_eq quiet]

/-- An answer is noted for the key of the attempt that gets it, and changes nothing else. -/
theorem SystemStep.of_answer (hstep : SystemStep service s (.act id (.answer answer)) s') :
    s'.db = s.db ∧ ∃ attempt claim, s.attempts id = some attempt ∧ attempt.phase.Waits claim ∧
      s'.log = .answered id claim.payment.id answer :: s.log := by
  cases hstep with
  | act _ _ attempt effect running rule =>
    cases rule with
    | marked claim _ _ _ phase => exact ⟨rfl, attempt, claim, running, phase, rfl⟩
    | withdrawn claim _ _ phase => exact ⟨rfl, attempt, claim, running, phase, rfl⟩

/-! ## Attempts at work -/

/-- An attempt is at work on the authorization of a payment. -/
def State.WorksOn (s : State) (id : ℕ) (pid : GoString) : Prop :=
  ∃ attempt claim, s.Holds id attempt claim ∧ attempt.command.operation.Authorizes ∧
    claim.payment.id = pid

/-- Some attempt is at work on the authorization of a payment. -/
def State.Worked (s : State) (pid : GoString) : Prop := ∃ id, s.WorksOn id pid

/-- An attempt that is at work after a step was at work before, or was granted its claim. -/
theorem State.WorksOn.before (h : s'.WorksOn id pid) (hstep : SystemStep service s e s')
    (idle : ∀ action attempt request, e = .act id action → s.attempts id = some attempt →
      attempt.phase ≠ .claiming request) : s.WorksOn id pid := by
  obtain ⟨attempt', claim', ⟨running', held'⟩, hauthorizes, hid⟩ := h
  rcases hstep.attempt_cases running' with hkept | ⟨command, _, _, rfl⟩ |
    ⟨action, attempt, effect, rfl, running, rule, rfl, rfl⟩
  · exact ⟨attempt', claim', ⟨hkept, held'⟩, hauthorizes, hid⟩
  · cases held'
  · rcases rule.held_cases held' with ⟨claim, held, hsame, _⟩ | ⟨request, phase, _⟩
    · exact ⟨attempt, claim, ⟨running, held⟩, rule.command_eq ▸ hauthorizes,
        hsame.paymentID.symm.trans hid⟩
    · exact absurd phase (idle action attempt request rfl running)

/-! ## Attempts that decide -/

/-- The claim of an attempt that waits for the bank, or whose payment is marked with a
decision. -/
def Phase.deciding : Phase → Option PaymentCommandClaim
  | .calling claim => some claim
  | .awaiting claim => some claim
  | .completing claim _ => if claim.payment.status = .pending then none else some claim
  | .persisting claim _ _ => if claim.payment.status = .pending then none else some claim
  | _ => none

/-- An attempt is to decide the authorization of a payment. -/
def State.DecidesOn (s : State) (id : ℕ) (pid : GoString) : Prop :=
  ∃ attempt claim, s.attempts id = some attempt ∧ attempt.phase.deciding = some claim ∧
    attempt.command.operation.Authorizes ∧ claim.payment.id = pid

theorem Phase.held_of_deciding {phase : Phase} {claim : PaymentCommandClaim}
    (h : phase.deciding = some claim) : phase.held = some claim := by
  cases phase with
  | calling | awaiting => exact h
  | completing | persisting =>
    simp only [Phase.deciding] at h
    split_ifs at h
    exact h
  | received | claiming | releasing | returned | died => cases h

theorem State.DecidesOn.worksOn (h : s.DecidesOn id pid) : s.WorksOn id pid := by
  obtain ⟨attempt, claim, running, deciding, hauthorizes, hid⟩ := h
  exact ⟨attempt, claim, ⟨running, Phase.held_of_deciding deciding⟩, hauthorizes, hid⟩

/-- Only an answer and a completion end it. -/
theorem State.DecidesOn.step (h : s.DecidesOn id pid) (hstep : SystemStep service s e s')
    (smooth : e.failureFree = true) (unanswered : ∀ answer, e ≠ .act id (.answer answer))
    (uncompleted : e ≠ .act id .complete) : s'.DecidesOn id pid := by
  obtain ⟨attempt, claim, running, deciding, hauthorizes, hid⟩ := h
  by_cases hact : ∃ action, e = .act id action
  swap
  · rw [not_exists] at hact
    exact ⟨attempt, claim, hstep.attempts_kept running hact, deciding, hauthorizes, hid⟩
  obtain ⟨action, rfl⟩ := hact
  obtain ⟨effect, rfl, rule⟩ := hstep.exists_effect running
  have hafter := s.attempts_after_self id effect
  cases rule with
  | sent claim' phase =>
    have hclaim : claim' = claim := by
      rcases phase with phase | phase <;> rw [phase] at deciding <;> cases deciding <;> rfl
    exact ⟨_, claim, hafter, congrArg some hclaim, hauthorizes, hid⟩
  | stamped claim' result phase =>
    rw [phase] at deciding
    exact ⟨_, claim, hafter, deciding, hauthorizes, hid⟩
  | marked _ answer | withdrawn _ answer => exact absurd rfl (unanswered answer)
  | completed | uncompleted => exact absurd rfl uncompleted
  | claimFailed | claimLost | completionFailed | completionLost | releaseFailed | died =>
    cases smooth
  | prepared _ _ phase | unprepared _ _ phase | granted _ _ _ phase | replayed _ _ phase
  | refused _ _ phase | released _ _ phase =>
    rw [phase] at deciding
    cases deciding

/-! ## Pending rows -/

/-- The row of a payment is pending, and has an authorization operation key. -/
def State.PendingRow (s : State) (pid key : GoString) : Prop :=
  ∃ row, s.db.payments pid = some row ∧ row.status = PaymentStatus.pending.text ∧
    row.authorizationBankOperationKey = key

theorem pendingRow_iff (sound : s.db.Sound) :
    s.PendingRow pid key ↔ ∃ p, s.db.current pid = some p ∧ p.status = .pending ∧
      p.authorizationBankOperationKey = key := by
  constructor
  · rintro ⟨row, hrow, hstatus, hkey⟩
    obtain ⟨p, hp, rfl⟩ := sound.exists_current_of_row hrow
    exact ⟨p, hp, PaymentStatus.text_injective hstatus, hkey⟩
  · rintro ⟨p, hp, hstatus, hkey⟩
    refine ⟨rowOf p, ?_, congrArg PaymentStatus.text hstatus, hkey⟩
    rw [sound.payments_eq, hp, Option.map_some]

/-- Nothing becomes pending. -/
theorem Evolves.pending_of_pending {p q : Payment} (h : Evolves p q)
    (pending : q.status = .pending) : p.status = .pending := by
  have hrank := h.rank_le
  rw [pending] at hrank
  cases hstatus : p.status <;> simp [hstatus, PaymentStatus.rank] at hrank ⊢

/-- A new payment is to be decided by the attempt that was granted it. -/
theorem SystemStep.decidesOn_of_inserted {action : Action} {attempt : Attempt}
    {request : AuthorizationStartClaimRequest} (hstep : SystemStep service s (.act id action) s')
    (inv : Inv service s) (smooth : (Event.act id action).failureFree = true)
    (running : s.attempts id = some attempt) (phase : attempt.phase = .claiming (.start request))
    (fresh : s.db.current request.payment.id = none)
    (stores : s.db.Stores s'.db request.payment) : s'.DecidesOn id request.payment.id := by
  have hchanged : s'.db.current request.payment.id ≠ s.db.current request.payment.id := by
    rw [stores.current_self, fresh]
    nofun
  obtain ⟨effect, rfl, rule⟩ := hstep.exists_effect running
  cases rule with
  | granted request' claim db' phase' grant =>
    rw [phase] at phase'
    cases phase'
    obtain ⟨_, _, hbuilt⟩ := (inv.attempts id attempt running).built phase
    cases grant with
    | start =>
      exact ⟨_, _, s.attempts_after_self id _, rfl, .inl hbuilt.start_operation, rfl⟩
    | restart => exact absurd rfl hchanged
  | claimFailed | claimLost | completionFailed | completionLost | releaseFailed | died =>
    cases smooth
  | completed _ _ _ _ _ _ phase' | released _ _ phase' =>
    rw [phase] at phase'
    cases phase'
  | prepared | unprepared | replayed | refused | sent | marked | withdrawn | stamped
  | uncompleted => exact absurd rfl hchanged

/-- A row that is pending after a step was pending before, under the same key, or it is new and
to be decided. -/
theorem SystemStep.pendingRow_before (hstep : SystemStep service s e s') (inv : Inv service s)
    (smooth : e.failureFree = true) (h : s'.PendingRow pid key) :
    s.PendingRow pid key ∨ ∃ id, s'.DecidesOn id pid := by
  obtain ⟨p', hp', hpending, hkey⟩ := (pendingRow_iff (inv.step hstep).sound).mp h
  -- Where a version of some payment is stored, it is this one or another one.
  have hstored : ∀ q m, s.db.current m.id = some q → Evolves q m → s.db.Stores s'.db m →
      s.PendingRow pid key := by
    intro q m hq hevolves hstores
    rw [pendingRow_iff inv.sound]
    by_cases hid : pid = m.id
    · subst hid
      rw [hstores.current_self, Option.some_inj] at hp'
      subst hp'
      exact ⟨q, hq, hevolves.pending_of_pending hpending,
        hevolves.sameIdentity.authorizationKey.symm.trans hkey⟩
    · rw [hstores.current_of_ne hid] at hp'
      exact ⟨p', hp', hpending, hkey⟩
  cases hstep.writeStep inv with
  | nothing _ payments _ =>
    refine .inl ?_
    rwa [State.PendingRow, ← payments]
  | inserted id action attempt request running phase fresh stores =>
    by_cases hid : pid = request.payment.id
    · subst hid
      exact .inr ⟨id, hstep.decidesOn_of_inserted inv smooth running phase fresh stores⟩
    · rw [stores.current_of_ne hid] at hp'
      exact .inl ((pendingRow_iff inv.sound).mpr ⟨p', hp', hpending, hkey⟩)
  | keyed id action attempt request p m running phase current _ keyed stores =>
    exact .inl (hstored p m (keyed.id ▸ current) (.single keyed.step) stores)
  | completed id action attempt claim result completedAt q running phase current _ transition
      stores =>
    refine .inl (hstored q claim.payment current ?_ stores)
    rcases transition with ⟨rfl, _⟩ | hmove
    · exact .refl
    · exact .single hmove.step

/-! ## Whose answer it is -/

/-- An attempt at work on a pending payment asks with the key of its row. -/
theorem State.WorksOn.asksFor (h : s.WorksOn id pid) (inv : Inv service s)
    (log : LogInv service s) (hrow : s.PendingRow pid key) : asksFor key id s.log = true := by
  obtain ⟨attempt, claim, hholds, hauthorizes, rfl⟩ := h
  obtain ⟨-, granted, hgranted, hsame⟩ := log.held id attempt claim hholds
  obtain ⟨command, hcommand, hclaim⟩ := log.claimed id granted hgranted
  obtain ⟨p, hp, -, rfl⟩ := (pendingRow_iff inv.sound).mp hrow
  rw [State.command?_eq hholds.running, Option.some_inj] at hcommand
  subst hcommand
  have hid : p.id = granted.payment.id := (inv.sound.id_of_current hp).trans hsame.paymentID
  have hidentity := inv.sound.sameIdentity (inv.sound.wrote_of_current hp) hclaim.wrote hid
  refine List.any_eq_true.mpr ⟨_, hgranted, decide_eq_true ⟨rfl, ?_, hidentity.authorizationKey⟩⟩
  exact hclaim.operation ▸ hauthorizes

/-- An attempt that asks with the key of a pending row authorizes its payment. -/
theorem worksOn_of_asksFor {attempt : Attempt} {claim : PaymentCommandClaim} (inv : Inv service s)
    (log : LogInv service s) (once : GrantedOnce s) (keys : KeyInv service s)
    (hrow : s.PendingRow pid key) (hasks : asksFor key id s.log = true)
    (hholds : s.Holds id attempt claim) : s.WorksOn id pid := by
  obtain ⟨observed, hmem, hobserved⟩ := List.any_eq_true.mp hasks
  cases observed with
  | claimed other asked =>
    obtain ⟨rfl, hauthorizes, hkey⟩ := of_decide_eq_true hobserved
    obtain ⟨-, granted, hgranted, hsame⟩ := log.held other attempt claim hholds
    obtain rfl := once.unique other asked granted hmem hgranted
    obtain ⟨command, hcommand, hclaim⟩ := log.claimed other asked hmem
    rw [State.command?_eq hholds.running, Option.some_inj] at hcommand
    subst hcommand
    refine ⟨attempt, claim, hholds, hclaim.operation ▸ hauthorizes, ?_⟩
    -- Both payments have the key, so they are one.
    obtain ⟨p, hp, -, hpkey⟩ := (pendingRow_iff inv.sound).mp hrow
    have hwrote := inv.sound.wrote_of_current hp
    have hne : key ≠ [] := hpkey ▸ (inv.sound.wellFormed_of_wrote hwrote).authorizationKey.ne_nil
    have huse := keys.unique key (.stored asked.payment.id .authorization)
      (.stored pid .authorization) hne ⟨asked.payment, hclaim.wrote, rfl, hkey⟩
      ⟨p, hwrote, inv.sound.id_of_current hp, hpkey⟩
    cases huse
    exact hsame.paymentID
  | sent | answered | recovery | releaseFailure => cases hobserved

/-- The last answer after an answer. -/
theorem SystemStep.unknown_of_answer (hstep : SystemStep service s (.act id (.answer answer)) s') :
    s'.Unknown key ↔
      if asksFor key id s.log = true then answer.isUnknown = true else s.Unknown key := by
  obtain ⟨-, attempt, claim, -, -, hlog⟩ := hstep.of_answer
  rw [State.Unknown, hlog, lastAnswer]
  split_ifs
  · simp
  · rfl

/-! ## Decisions -/

/-- An answer to an authorization that is no definite rejection: the outcome is unknown, or the
bank has approved the authorization, with an id and an expiration time, or declined it. -/
def BankAnswer.Unrejected : BankAnswer → Prop
  | .failed err => isUnknownAuthorizationOutcome err = true
  | .authorization result => result.declineReason = [] ∧
      trimSpace result.bankAuthorizationID ≠ [] ∧ result.authorizationExpiresAt ≠ 0 ∨
        result.declineReason ∈ declineReasons
  | _ => False

/-- What keeps pending rows explained. The bank client answers an authorization with no definite
rejection. A decision on a payment whose row is still pending is stored at a time, while its
record is still in progress for the request. -/
def Decisive (s : State) : Event → Prop
  | .act id (.answer answer) => ∀ attempt, s.attempts id = some attempt →
      attempt.command.operation.Authorizes → answer.Unrejected ∧ s.clock ≠ 0
  | .act id .complete => ∀ attempt claim result completedAt key,
      s.attempts id = some attempt → attempt.phase = .persisting claim result completedAt →
      attempt.command.operation.Authorizes → claim.payment.status ≠ .pending →
      s.PendingRow claim.payment.id key →
      completedAt ≠ 0 ∧ ∃ record, s.db.records claim.recordKey = some record ∧
        record.status = .inProgress ∧ record.requestFingerprint = claim.requestFingerprint
  | _ => True

/-- The mark of an answer that decides takes the payment out of pending. -/
theorem Marked.status_ne_pending {p m : Payment} {now : Time} {operation : Operation}
    {kind : Option PaymentErrorKind} (mark : Marked p now operation answer m kind)
    (authorizes : operation.Authorizes) (decided : answer.isUnknown = false) :
    m.status ≠ .pending := by
  cases mark with
  | unknown err hunknown => exact absurd (hunknown.symm.trans decided) nofun
  | authorized _ _ _ _ _ hmark =>
    obtain ⟨_, _, _, _, rfl⟩ := Payment.markAuthorized_eq_ok.mp hmark
    nofun
  | declined _ _ _ _ _ hmark =>
    obtain ⟨_, _, _, rfl⟩ := Payment.markDeclined_eq_ok.mp hmark
    nofun
  | captured | voided | refunded => exact absurd authorizes (by decide)
  | expired _ _ _ settles => rcases settles with rfl | rfl <;> exact absurd authorizes (by decide)

/-- A decision of the bank can be recorded. -/
theorem not_release_of_unrejected {operation : Operation} {p : Payment} {now : Time}
    {err : GoError} (authorizes : operation.Authorizes) (pending : p.status = .pending)
    (time : now ≠ 0) (unrejected : answer.Unrejected) (decided : answer.isUnknown = false) :
    operation.verdict p now answer ≠ some (.release err) := by
  cases answer with
  | failed err => exact absurd (unrejected.symm.trans decided) nofun
  | authorization result =>
    obtain ⟨m, hm⟩ := exists_applyAuthorizationOutcome pending time unrejected
    rcases authorizes with rfl | rfl <;>
      simp [Operation.verdict, authorizePaymentVerdict, retryAuthorizationVerdict, hm, settle]
  | capture | void | refund => exact unrejected.elim

/-- An attempt that gets a decision is to store it. -/
theorem SystemStep.decidesOn_of_answer
    (hstep : SystemStep service s (.act id (.answer answer)) s') (inv : Inv service s)
    (h : s.WorksOn id pid) (decisive : Decisive s (.act id (.answer answer)))
    (decided : answer.isUnknown = false) : s'.DecidesOn id pid := by
  obtain ⟨attempt, claim, ⟨running, held⟩, hauthorizes, rfl⟩ := h
  obtain ⟨hunrejected, htime⟩ := decisive attempt running hauthorizes
  obtain ⟨effect, rfl, rule⟩ := hstep.exists_effect running
  cases rule with
  | marked claim' _ m kind phase _ mark =>
    obtain rfl := Option.some.inj (phase.held.symm.trans held)
    have hclaim := (inv.attempts id attempt running).claimFor_of_waits phase
    have hdecided := mark.status_ne_pending (hclaim.operation ▸ hauthorizes) decided
    exact ⟨_, { claim' with payment := m }, s.attempts_after_self id _, if_neg hdecided,
      hauthorizes, mark.id_eq⟩
  | withdrawn claim' _ err phase verdict =>
    have hclaim := (inv.attempts id attempt running).claimFor_of_waits phase
    have hpending : claim'.payment.status = .pending := by
      rw [hclaim.status]
      rcases hauthorizes with h | h <;> rw [h] <;> rfl
    exact absurd verdict (not_release_of_unrejected (hclaim.operation ▸ hauthorizes) hpending htime
      hunrejected decided)

/-- A decision that is stored takes the row out of pending. -/
theorem SystemStep.not_pendingRow_of_complete
    (hstep : SystemStep service s (.act id .complete) s') (inv : Inv service s)
    (records : RecordsInv service s) (decides : s.DecidesOn id pid)
    (decisive : Decisive s (.act id .complete)) (hrow : s.PendingRow pid key) :
    ¬ s'.PendingRow pid key := by
  obtain ⟨attempt, claim, running, deciding, hauthorizes, rfl⟩ := decides
  obtain ⟨effect, rfl, rule⟩ := hstep.exists_effect running
  -- The attempt is about to store a payment that is marked with the decision.
  have hphase : ∃ result completedAt, attempt.phase = .persisting claim result completedAt ∧
      claim.payment.status ≠ .pending := by
    cases rule with
    | completed claim' result completedAt _ _ _ phase
    | uncompleted claim' result completedAt _ phase =>
      simp only [phase, Phase.deciding] at deciding
      split_ifs at deciding with hdecided
      cases deciding
      exact ⟨result, completedAt, phase, hdecided⟩
  obtain ⟨result, completedAt, phase, hdecided⟩ := hphase
  obtain ⟨htime, record, slot, inProgress, fingerprint⟩ :=
    decisive attempt claim result completedAt key running phase hauthorizes hdecided hrow
  obtain ⟨row, found, rowStatus, -⟩ := hrow
  have hmarked := (inv.attempts id attempt running).markedFor phase
  have hexpected : row.status = claim.expectedStatus.text := by
    obtain ⟨p, answer, now, kind, hclaim, -⟩ := hmarked
    have hexpected : claim.expectedStatus = _ := hclaim.expected
    rw [rowStatus, hexpected]
    rcases hauthorizes with h | h <;> rw [h] <;> rfl
  obtain ⟨db', hcompleted⟩ := inv.exists_completed records running phase htime found hexpected slot
    inProgress fingerprint
  cases rule with
  | completed _ _ _ row' record' db'' phase' completion =>
    rw [phase] at phase'
    cases phase'
    intro hrow'
    obtain ⟨p, hp, hpending, -⟩ := (pendingRow_iff (inv.step hstep).sound).mp hrow'
    have hcurrent := (completion.stores inv.sound hmarked).current_self
    exact hdecided (Option.some.inj (hp.symm.trans hcurrent) ▸ hpending)
  | uncompleted _ _ _ err phase' refusal =>
    rw [phase] at phase'
    cases phase'
    rw [Db.completePaymentCommand_eq_ok.mpr ⟨row, record, hcompleted⟩] at refusal
    cases refusal

/-! ## Runs -/

/-- Every pending row is at work on, or the outcome of its authorization is unknown. -/
def State.PendingExplained (s : State) : Prop :=
  ∀ pid key, s.PendingRow pid key → s.Worked pid ∨ s.Unknown key

/-- Every pending row is to be decided, or the outcome of its authorization is unknown. -/
def State.PendingDecided (s : State) : Prop :=
  ∀ pid key, s.PendingRow pid key → (∃ id, s.DecidesOn id pid) ∨ s.Unknown key

theorem State.PendingDecided.explained (h : s.PendingDecided) : s.PendingExplained := by
  intro pid key hrow
  exact (h pid key hrow).imp_left fun ⟨id, hdecides⟩ => ⟨id, hdecides.worksOn⟩

theorem State.PendingDecided.step (h : s.PendingDecided) (inv : Inv service s)
    (records : RecordsInv service s) (log : LogInv service s) (once : GrantedOnce s)
    (keys : KeyInv service s) (hstep : SystemStep service s e s') (smooth : e.failureFree = true)
    (decisive : Decisive s e) : s'.PendingDecided := by
  intro pid key hrow
  -- A row that has just been inserted is to be decided by the attempt that inserted it.
  rcases hstep.pendingRow_before inv smooth hrow with hbefore | hdecides
  swap
  · exact .inl hdecides
  by_cases hanswer : ∃ id answer, e = .act id (.answer answer)
  · obtain ⟨id, answer, rfl⟩ := hanswer
    rw [hstep.unknown_of_answer]
    split_ifs with hasks
    · -- The answer is for this payment: it is unknown, or the attempt holds the decision.
      cases hunknown : answer.isUnknown with
      | true => exact .inr rfl
      | false =>
        obtain ⟨-, attempt, claim, running, phase, -⟩ := hstep.of_answer
        have hworks := worksOn_of_asksFor inv log once keys hbefore hasks ⟨running, phase.held⟩
        exact .inl ⟨id, hstep.decidesOn_of_answer inv hworks decisive hunknown⟩
    · rcases h pid key hbefore with ⟨other, hdecides⟩ | hunknown
      swap
      · exact .inr hunknown
      have hne : other ≠ id := by
        rintro rfl
        exact hasks (hdecides.worksOn.asksFor inv log hbefore)
      exact .inl ⟨other, hdecides.step hstep smooth (fun _ he => by cases he; exact hne rfl) nofun⟩
  rw [hstep.unknown_iff fun id answer he => hanswer ⟨id, answer, he⟩]
  rcases h pid key hbefore with ⟨id, hdecides⟩ | hunknown
  swap
  · exact .inr hunknown
  by_cases hcomplete : e = .act id .complete
  · subst hcomplete
    exact absurd hrow (hstep.not_pendingRow_of_complete inv records hdecides decisive hbefore)
  · exact .inl ⟨id, hdecides.step hstep smooth (fun answer he => hanswer ⟨id, answer, he⟩)
      hcomplete⟩

/-- An answer does not change who is at work. -/
theorem SystemStep.worked_of_answer (hstep : SystemStep service s (.act id (.answer answer)) s')
    {other : ℕ} (h : s'.WorksOn other pid) : s.WorksOn other pid := by
  obtain ⟨-, attempt, claim, running, phase, -⟩ := hstep.of_answer
  refine h.before hstep ?_
  rintro action attempt' request he running' hclaiming
  cases he
  rw [running, Option.some_inj] at running'
  subst running'
  rcases phase with phase | phase <;> rw [phase] at hclaiming <;> cases hclaiming

/-- Whoever is at work after a release was at work before, and is not the one that released. -/
theorem SystemStep.worked_of_release (hstep : SystemStep service s (.act id .release) s')
    {other : ℕ} (h : s'.WorksOn other pid) : other ≠ id ∧ s.WorksOn other pid := by
  have hne : other ≠ id := by
    rintro rfl
    obtain ⟨attempt', claim', ⟨running', held'⟩, -, -⟩ := h
    cases hstep with
    | act _ _ attempt effect running rule =>
      rw [s.attempts_after_self, Option.some_inj] at running'
      subst running'
      cases rule
      cases held'
  exact ⟨hne, h.before hstep fun action attempt request he => by cases he; exact absurd rfl hne⟩

theorem SystemStep.payments_of_release (hstep : SystemStep service s (.act id .release) s') :
    s'.db.payments = s.db.payments := by
  cases hstep with
  | act _ _ attempt effect running rule =>
    cases rule with
    | released claim err phase => exact s.db.releasePaymentCommand_payments claim

/-- An attempt alone at work on a pending payment that gets a definite answer and releases its
claim leaves the row pending, with neither. -/
theorem not_pendingExplained_of_rejected {s₁ s₂ : State} (inv : Inv service s)
    (log : LogInv service s) (hrow : s.PendingRow pid key) (hworks : s.WorksOn id pid)
    (alone : ∀ other ≠ id, ¬ s.WorksOn other pid) (definite : answer.isUnknown = false)
    (answered : SystemStep service s (.act id (.answer answer)) s₁)
    (released : SystemStep service s₁ (.act id .release) s₂) : ¬ s₂.PendingExplained := by
  intro hexplained
  have hrow₂ : s₂.PendingRow pid key := by
    rwa [State.PendingRow, released.payments_of_release, answered.of_answer.1]
  rcases hexplained pid key hrow₂ with ⟨other, hother⟩ | hunknown
  · obtain ⟨hne, hother⟩ := released.worked_of_release hother
    exact alone other hne (answered.worked_of_answer hother)
  · rw [released.unknown_iff nofun, answered.unknown_of_answer,
      if_pos (hworks.asksFor inv log hrow), definite] at hunknown
    cases hunknown

/-- **When pending means unknown.** In a run without infrastructure failures whose keys do not
repeat, in which no authorization is answered with a definite rejection and every decision finds
its record still in progress, every pending payment is at work on or its outcome is unknown. And
from there a definite answer to the only attempt at work on a pending payment, upon which it
releases its claim, leaves the payment pending with neither. -/
theorem pending_explained_of_decisive (service : PaymentService) (clock : Time) (s : State)
    (distinct : service.KeysDistinct s.drawn.bankOperationKeys)
    (run : Reaches (PaymentGateway.step service)
      (fun s e => e.failureFree = true ∧ Decisive s e) (State.initial clock) s) :
    s.PendingExplained ∧ ∀ id answer pid key s₁ s₂, s.PendingRow pid key → s.WorksOn id pid →
      (∀ other ≠ id, ¬ s.WorksOn other pid) → answer.isUnknown = false →
      PaymentGateway.step service s (.act id (.answer answer)) = some s₁ →
      PaymentGateway.step service s₁ (.act id .release) = some s₂ → ¬ s₂.PendingExplained := by
  constructor
  · apply State.PendingDecided.explained
    revert distinct
    refine run.invariant
      (P := fun t => service.KeysDistinct t.drawn.bankOperationKeys → t.PendingDecided) ?_ ?_
    · rintro - pid key ⟨row, hrow, -⟩
      cases hrow
    · intro s e s' before decided allowed taken distinct
      have hstep := step_cases taken
      have hbefore : service.KeysDistinct s.drawn.bankOperationKeys := fun i hi j hj =>
        distinct i (hi.trans_le hstep.drawn_le) j (hj.trans_le hstep.drawn_le)
      exact (decided hbefore).step (inv_of_reaches before) (recordsInv_of_reaches before)
        (logInv_of_reaches before) (grantedOnce_of_reaches before)
        (keyInv_of_reaches before hbefore) hstep allowed.1 allowed.2
  · intro id answer pid key s₁ s₂ hrow hworks alone definite answered released
    exact not_pendingExplained_of_rejected (inv_of_reaches run) (logInv_of_reaches run) hrow hworks
      alone definite (step_cases answered) (step_cases released)

/-- A check for decisive steps, with one approval, which asks of every completion what is asked of
a decision. -/
def decisiveCheck (s : State) : Event → Bool
  | .act _ (.answer answer) => (answer.isUnknown || answer = Sample.approval) && s.clock ≠ 0
  | .act id .complete => (s.attempts id).all fun attempt => match attempt.phase with
      | .persisting claim _ completedAt => completedAt ≠ 0 ∧
          (s.db.records claim.recordKey).any fun record => record.status = .inProgress ∧
            record.requestFingerprint = claim.requestFingerprint
      | _ => true
  | e => e.failureFree

theorem decisive_of_check (s : State) (e : Event) (h : decisiveCheck s e = true) :
    e.failureFree = true ∧ Decisive s e := by
  cases e with
  | act id action =>
    cases action with
    | answer answer =>
      obtain ⟨hanswer, htime⟩ := Bool.and_eq_true_iff.mp h
      refine ⟨rfl, fun _ _ _ => ⟨?_, of_decide_eq_true htime⟩⟩
      rcases Bool.or_eq_true_iff.mp hanswer with hunknown | happroval
      · cases answer with
        | failed err => exact hunknown
        | authorization | capture | void | refund => cases hunknown
      · rw [of_decide_eq_true happroval]
        exact .inl ⟨rfl, by decide, by decide⟩
    | complete =>
      refine ⟨rfl, fun attempt claim result completedAt _ running phase _ _ _ => ?_⟩
      simp only [decisiveCheck, running, Option.all_some, phase] at h
      obtain ⟨htime, hrecord⟩ := of_decide_eq_true h
      obtain ⟨record, slot, hopen⟩ := (Option.any_eq_true _ _).mp hrecord
      exact ⟨htime, record, slot, of_decide_eq_true hopen⟩
    | _ => exact ⟨h, trivial⟩
  | _ => exact ⟨h, trivial⟩

/-- Two authorizations, of which the bank approves the first and the second meets a timeout.
Both methods have returned; the second payment is pending, and its outcome is unknown. -/
theorem pending_explained_of_decisive_timeout :
    ∃ s attempt outcome key, Reaches (PaymentGateway.step Sample.service)
        (fun s e => e.failureFree = true ∧ Decisive s e) (State.initial 1) s ∧
      Sample.service.KeysDistinct s.drawn.bankOperationKeys ∧
      (s.db.payments Sample.paymentID).any (·.status = PaymentStatus.authorized.text) = true ∧
      s.attempts 1 = some attempt ∧ attempt.phase = .returned outcome ∧
      s.PendingRow (Sample.service.newPaymentID 1) key ∧
      (s.Worked (Sample.service.newPaymentID 1) ∨ s.Unknown key) := by
  obtain ⟨s, hrun, hproperty⟩ := exists_reaches_of_execWhere decisive_of_check
    (Sample.authorized ++ Sample.call 1 (Sample.authorize (ascii "k1") (by decide)) ++
      Sample.finish 1 (.failed (newPaymentBankTimeoutError .none)))
    (show (execWhere (PaymentGateway.step Sample.service) _ (State.initial 1) _).any (fun s =>
      s.drawn.bankOperationKeys = 2 ∧
      (s.db.payments Sample.paymentID).any (·.status = PaymentStatus.authorized.text) ∧
      (s.attempts 1).any (·.phase.isReturned) ∧
      (s.db.payments (Sample.service.newPaymentID 1)).any
        (·.status = PaymentStatus.pending.text)) = true by decide +kernel)
  obtain ⟨hdrawn, hauthorized, hreturned, hpending⟩ := of_decide_eq_true hproperty
  obtain ⟨attempt, hattempt, hreturned⟩ := (Option.any_eq_true _ _).mp hreturned
  obtain ⟨outcome, hphase⟩ := Phase.exists_of_isReturned hreturned
  obtain ⟨row, hrow, hstatus⟩ := (Option.any_eq_true _ _).mp hpending
  have hdistinct : Sample.service.KeysDistinct s.drawn.bankOperationKeys := by
    rw [hdrawn]
    unfold PaymentService.KeysDistinct
    decide +kernel
  have hpending : s.PendingRow (Sample.service.newPaymentID 1) row.authorizationBankOperationKey :=
    ⟨row, hrow, of_decide_eq_true hstatus, rfl⟩
  exact ⟨s, attempt, outcome, _, hrun, hdistinct, hauthorized, hattempt, hphase, hpending,
    (pending_explained_of_decisive Sample.service 1 s hdistinct hrun).1 _ _ hpending⟩

/-- The bank rejects the card of a new authorization. The claim is released and the method
returns the error, nothing has failed and no time has passed; but the payment is still there,
pending, with nobody at work on it and a last answer that is definite. -/
theorem rejected_authorization_stays_pending :
    ∃ s key, Reaches (PaymentGateway.step Sample.service)
        (fun _ e => e.failureFree = true ∧ ∀ clock, e ≠ .tick clock) (State.initial 1) s ∧
      (∀ id attempt, s.attempts id = some attempt →
        ∃ err, attempt.phase = .returned (.error err)) ∧
      s.PendingRow Sample.paymentID key ∧
      lastAnswer key s.log = some (.failed (newInvalidPaymentInputError
        (ascii "card details are invalid") .none)) ∧
      ¬ s.PendingExplained := by
  let rejection : GoError := newInvalidPaymentInputError (ascii "card details are invalid") .none
  obtain ⟨s, hrun, hproperty⟩ := exists_reaches_of_execWhere
    (fun _ _ h => Event.of_smoothBelow h)
    (Sample.call 0 (Sample.authorize (ascii "k0") (by decide)) ++
      [.act 0 (.answer (.failed rejection)), .act 0 .release])
    (show (execWhere (PaymentGateway.step Sample.service) (fun _ e => e.smoothBelow 1)
      (State.initial 1) _).any (fun s =>
        s.attempts 0 = some ⟨Sample.authorize (ascii "k0") (by decide), 1, 1,
          .returned (.error rejection)⟩ ∧
        (s.db.payments Sample.paymentID).any (fun row =>
          row.status = PaymentStatus.pending.text ∧
            lastAnswer row.authorizationBankOperationKey s.log = some (.failed rejection))) =
      true by decide +kernel)
  obtain ⟨hattempt, hrow⟩ := of_decide_eq_true hproperty
  obtain ⟨row, hrow, hlast⟩ := (Option.any_eq_true _ _).mp hrow
  obtain ⟨hpending, hanswer⟩ := of_decide_eq_true hlast
  have hreturned : ∀ id attempt, s.attempts id = some attempt →
      ∃ err, attempt.phase = .returned (.error err) := by
    refine forall_attempts_of_smoothBelow hrun fun id hid attempt running => ?_
    obtain rfl : id = 0 := by omega
    rw [hattempt, Option.some_inj] at running
    subst running
    exact ⟨rejection, rfl⟩
  refine ⟨s, row.authorizationBankOperationKey, hrun.mono fun _ _ h => h.1, hreturned,
    ⟨row, hrow, hpending, rfl⟩, hanswer, fun hexplained => ?_⟩
  -- Nobody works on the payment, and the last answer is a rejection.
  rcases hexplained Sample.paymentID _ ⟨row, hrow, hpending, rfl⟩ with
    ⟨id, attempt, claim, ⟨running, held⟩, -⟩ | ⟨answer, hlast, hunknown⟩
  · obtain ⟨err, hphase⟩ := hreturned id attempt running
    rw [hphase] at held
    cases held
  · rw [hanswer, Option.some_inj] at hlast
    subst hlast
    cases hunknown

end PaymentGateway
