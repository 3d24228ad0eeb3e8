/-
# How far a command has come

The attempts of one command on an existing payment share what they leave in the
database. As long as nothing else touches the payment and the record, and the bank
gives the command one conclusive answer however often it is asked, there are only a
few places to be at: no claim was granted yet; the payment has the operation's key,
with or without a record in progress; or the payment is marked as the answer says
and the record stores the result. Which attempts got there, where each of them was
cut off, and whether they overlapped, makes no difference.
-/

import PaymentGateway.Invariant.Ownership
import PaymentGateway.Service.Erasure

namespace PaymentGateway

open Lib

/-! ## Keys -/

/-- The payment as a claim leaves it: with some key of the operation. -/
def Payment.keyed (p : Payment) (operation : Operation) : Payment :=
  if Db.settlementKey operation p = [] then p.withKey (ascii "key") operation else p

theorem Db.settlementKey_erase (operation : Operation) (p : Payment) :
    Db.settlementKey operation p.erase = eraseKey (Db.settlementKey operation p) := by
  cases operation <;> rfl

theorem Operation.hasKey_erase {operation : Operation} {p : Payment} :
    operation.HasKey p.erase ↔ operation.HasKey p := by
  rw [Operation.HasKey, Operation.HasKey, Db.settlementKey_erase, ne_eq, eraseKey_eq_nil]

theorem Payment.withKey_of_authorizes {operation : Operation} (h : operation.Authorizes)
    (p : Payment) (key : GoString) : p.withKey key operation = p := by
  rcases h with rfl | rfl <;> rfl

theorem Operation.hasKey_keyed (operation : Operation) (p : Payment) :
    operation.HasKey (p.keyed operation) := by
  unfold Payment.keyed
  split_ifs with h
  · cases operation with
    | authorizePayment => exact .inl (.inl rfl)
    | retryAuthorization => exact .inl (.inr rfl)
    | capturePayment | voidPayment | refundPayment => exact .inr (show ascii "key" ≠ [] by decide)
  · exact .inr h

theorem Operation.HasKey.keyed_eq {operation : Operation} {p : Payment}
    (key : operation.HasKey p) : p.keyed operation = p := by
  unfold Payment.keyed
  split_ifs with h
  · exact Payment.withKey_of_authorizes (key.resolve_right (not_not.mpr h)) p _
  · rfl

theorem Payment.keyed_status (p : Payment) (operation : Operation) :
    (p.keyed operation).status = p.status := by
  unfold Payment.keyed
  split_ifs
  · cases operation <;> rfl
  · rfl

theorem Payment.keyed_cardFingerprint (p : Payment) (operation : Operation) :
    (p.keyed operation).authorizationCardFingerprint = p.authorizationCardFingerprint := by
  unfold Payment.keyed
  split_ifs
  · cases operation <;> rfl
  · rfl

/-- A key leaves the status of a payment alone. -/
theorem Payment.status_of_keyed {operation : Operation} {p p₀ : Payment}
    (h : p.erase = (p₀.keyed operation).erase) : p.status = p₀.status :=
  (congrArg Payment.status h :).trans (p₀.keyed_status operation)

/-- Which key a claim sets is forgotten. -/
theorem Keyed.erase_eq {request : ExistingPaymentCommandClaimRequest} {p p' : Payment}
    (keyed : Keyed request p p') : p'.erase = (p.keyed request.operation).erase := by
  obtain ⟨hunset, rfl, _, hkey, _, _⟩ := keyed
  rw [Payment.keyed, if_pos hunset]
  generalize request.operation = operation at hkey
  generalize trimSpace request.bankOperationKey = key at hkey
  cases operation with
  | authorizePayment | retryAuthorization => rfl
  | capturePayment | voidPayment | refundPayment =>
    have hne : key ≠ [] := hkey.resolve_left (by simp [Operation.Authorizes])
    simp only [Payment.withKey, Payment.erase, eraseKey_of_ne hne]
    rfl

/-! ## Progress -/

variable {service : PaymentService} {command : Command} {answer : BankAnswer} {p₀ : Payment}
  {paymentID : GoString}

/-- The verdict on the bank's answer, up to times and keys, for a command on a payment. -/
def Command.expected (command : Command) (answer : BankAnswer) (p₀ : Payment) : Option Verdict :=
  (command.operation.verdict (p₀.keyed command.operation).erase 1 answer).map Verdict.erase

theorem Command.expected_eq {p : Payment} {now : Time}
    (same : p.erase = (p₀.keyed command.operation).erase) (time : now ≠ 0) :
    command.expected answer p₀ = (command.operation.verdict p now answer).map Verdict.erase := by
  rw [Operation.verdict_erase _ _ _ time, same]
  rfl

/-- What the attempts of a command have made of its payment and its record. -/
inductive Progress (service : PaymentService) (command : Command) (answer : BankAnswer)
    (p₀ : Payment) : Option Payment → Option IdempotencyRecord → Prop
  | untouched : Progress service command answer p₀ (some p₀) none
  | released (p : Payment) (keyed : p.erase = (p₀.keyed command.operation).erase) :
      Progress service command answer p₀ (some p) none
  | claimed (p : Payment) (record : IdempotencyRecord)
      (keyed : p.erase = (p₀.keyed command.operation).erase)
      (fingerprint : record.requestFingerprint = service.requestFingerprint command)
      (inProgress : record.status = .inProgress) (named : record.paymentID = command.paymentID?) :
      Progress service command answer p₀ (some p) (some record)
  | completed (m : Payment) (record : IdempotencyRecord) (kind : Option PaymentErrorKind)
      (expected : command.expected answer p₀ = some (.complete m.erase kind))
      (fingerprint : record.requestFingerprint = service.requestFingerprint command)
      (completed : record.status = .completed)
      (stored : storedResult record = .ok ⟨newPaymentResult m, kind⟩) :
      Progress service command answer p₀ (some m) (some record)

/-- An open record is on the payment with its key. -/
theorem Progress.exists_of_inProgress {current : Option Payment} {record : IdempotencyRecord}
    (progress : Progress service command answer p₀ current (some record))
    (inProgress : record.status = .inProgress) :
    ∃ p, current = some p ∧ p.erase = (p₀.keyed command.operation).erase ∧
      record.requestFingerprint = service.requestFingerprint command ∧
      record.paymentID = command.paymentID? := by
  cases progress with
  | claimed p _ keyed fingerprint _ named => exact ⟨p, rfl, keyed, fingerprint, named⟩
  | completed _ _ _ _ _ completed => exact absurd (inProgress.symm.trans completed) nofun

/-- A completed record stores the result for the payment as it is marked. -/
theorem Progress.exists_of_completed {current : Option Payment} {record : IdempotencyRecord}
    (progress : Progress service command answer p₀ current (some record))
    (completed : record.status = .completed) :
    ∃ m kind, current = some m ∧ command.expected answer p₀ = some (.complete m.erase kind) ∧
      record.requestFingerprint = service.requestFingerprint command ∧
      storedResult record = .ok ⟨newPaymentResult m, kind⟩ := by
  cases progress with
  | claimed _ _ _ _ inProgress => exact absurd (inProgress.symm.trans completed) nofun
  | completed m _ kind expected fingerprint _ stored =>
    exact ⟨m, kind, rfl, expected, fingerprint, stored⟩

/-- Without a record no claim was granted yet, or the last one was released. -/
theorem Progress.exists_of_none {current : Option Payment}
    (progress : Progress service command answer p₀ current none) :
    ∃ p, current = some p ∧ (p = p₀ ∨ p.erase = (p₀.keyed command.operation).erase) := by
  cases progress with
  | untouched => exact ⟨p₀, rfl, .inl rfl⟩
  | released p keyed => exact ⟨p, rfl, .inr keyed⟩

section Grants

variable {now : Time} {drawn drawn' : Draws} {request : ClaimRequest}
  {claim : PaymentCommandClaim} {db db' : Db}

/-- A request that is built for a command on an existing payment is about that payment. -/
theorem Built.exists_existing (built : Built service now drawn command request drawn')
    (existing : command.paymentID? = some paymentID) :
    ∃ existingRequest, request = .existing existingRequest ∧
      existingRequest.paymentID = paymentID := by
  cases request with
  | start request => exact absurd (built.start_payment.2.2.symm.trans existing) nofun
  | existing request =>
    exact ⟨request, rfl, Option.some.inj (built.paymentID_eq.symm.trans existing)⟩

/-- A granted claim holds the payment with its key, and opens the record or takes it over. -/
theorem Progress.granted
    (progress : Progress service command answer p₀ (db.current paymentID)
      (db.records command.recordKey))
    (existing : command.paymentID? = some paymentID) (sound : db.Sound)
    (built : Built service now drawn command request drawn')
    (grant : db.Granted request claim db') :
    claim.payment.erase = (p₀.keyed command.operation).erase ∧
      Progress service command answer p₀ (db'.current paymentID)
        (db'.records command.recordKey) := by
  obtain ⟨record, hslot, hrecords⟩ := grant.slot built
  have hfingerprint : record.requestFingerprint = service.requestFingerprint command := by
    rw [hslot.fingerprint, built.base_eq]
  obtain ⟨request, rfl, hid⟩ := built.exists_existing existing
  have hbase : request.toPaymentCommandClaimRequest = _ := built.base_eq
  have hoperation : request.operation = command.operation := by rw [hbase]
  -- It is enough to find the payment of the claim stored, with its key.
  have hclaimed : ∀ p, claim.payment = p → db'.current paymentID = some p →
      p.erase = (p₀.keyed command.operation).erase →
      claim.payment.erase = (p₀.keyed command.operation).erase ∧
        Progress service command answer p₀ (db'.current paymentID)
          (db'.records command.recordKey) := by
    rintro p rfl hcurrent hkeyed
    have hclaim := (grant.claimFor sound built).paymentID paymentID existing
    have hnamed : record.paymentID = command.paymentID? := by
      rw [hslot.paymentID_eq, hclaim, existing]
    rw [hrecords, ← built.recordKey_eq, Function.update_self, hcurrent]
    exact ⟨hkeyed, .claimed _ record hkeyed hfingerprint hslot.inProgress hnamed⟩
  cases grant with
  | acquire _ p p' _ _ absent _ found _ ensured =>
    -- Without a record the payment is as it was, or it has kept the key of a released claim.
    have hcurrent := sound.findPaymentByID_eq_ok.mp found
    rw [hid] at hcurrent
    have hpid := sound.id_of_current hcurrent
    have habsent : db.records command.recordKey = none := built.recordKey_eq ▸ absent
    rw [habsent] at progress
    obtain ⟨q, hq, hstart⟩ := progress.exists_of_none
    obtain rfl : p = q := Option.some.inj (hcurrent.symm.trans hq)
    have hensured := (sound.setRecord _ _).keyEnsured (hpid.symm ▸ hcurrent) ensured
    cases hensured with
    | present key =>
      refine hclaimed p rfl hcurrent ?_
      rw [hoperation] at key
      rcases hstart with rfl | hkeyed
      · rw [key.keyed_eq]
      · exact hkeyed
    | set _ keyed =>
      refine hclaimed p' rfl ?_ ?_
      · rw [← hpid, ← keyed.id]
        exact (Db.Stores.current_self ⟨rfl, rfl⟩ :)
      · rw [keyed.erase_eq, hoperation]
        rcases hstart with rfl | hkeyed
        · rfl
        · -- A payment that had its key already keeps it.
          have hkey := Operation.hasKey_keyed command.operation p₀
          rw [← Operation.hasKey_erase, ← hkeyed, Operation.hasKey_erase] at hkey
          rw [hkey.keyed_eq, hkeyed]
  | recover _ record' payment _ slot stuck found _ =>
    -- The record was opened together with the key.
    rw [show db.records command.recordKey = some record' from built.recordKey_eq ▸ slot] at progress
    obtain ⟨p, hp, hkeyed, _, hnamed⟩ := progress.exists_of_inProgress stuck.2.1
    rw [hnamed, existing] at found
    have hcurrent := sound.findPaymentByID_eq_ok.mp found
    obtain rfl : payment = p := Option.some.inj (hcurrent.symm.trans hp)
    exact hclaimed payment rfl hcurrent hkeyed

end Grants

/-! ## Runs of one command's attempts -/

/-- The payment row and the idempotency record that a command works on. -/
def State.view (s : State) (command : Command) :
    Option PaymentRow × Option IdempotencyRecord :=
  (command.paymentID?.bind s.db.payments, s.db.records command.recordKey)

/-- An event is a step of an attempt of a command. -/
def Event.IsOf (s : State) (command : Command) (e : Event) : Prop :=
  ∃ id action attempt, e = .act id action ∧ s.attempts id = some attempt ∧
    attempt.command = command

/-- A failure that an operation releases its claim upon. -/
def Inconclusive (operation : Operation) (answer : BankAnswer) : Prop :=
  ∃ err, answer = .failed err ∧
    (operation.Settles → hasPaymentErrorKind err .authorizationExpired = false)

/-- Only attempts of a command touch its payment and its record, and the bank gives them one
answer, unless it fails. -/
structure Undisturbed (service : PaymentService) (command : Command) (answer : BankAnswer)
    (s : State) (e : Event) : Prop where
  apart : ¬ e.IsOf s command → ∀ s', step service s e = some s' → s'.view command = s.view command
  bank : ∀ id attempt answer', e = .act id (.answer answer') → s.attempts id = some attempt →
    attempt.command = command → answer' = answer ∨ Inconclusive command.operation answer'

/-- What an attempt of a command holds. -/
structure Attempt.Works (command : Command) (answer : BankAnswer) (p₀ : Payment)
    (attempt : Attempt) : Prop where
  waits : ∀ claim, attempt.phase.Waits claim →
    claim.payment.erase = (p₀.keyed command.operation).erase
  marks : ∀ claim result, attempt.phase = .completing claim result ∨
      (∃ completedAt, attempt.phase = .persisting claim result completedAt) →
    ∃ kind, command.expected answer p₀ = some (.complete claim.payment.erase kind) ∧
      result = ⟨newPaymentResult claim.payment, kind⟩

theorem Attempt.Works.of_held {attempt : Attempt} (h : attempt.phase.held = none) :
    attempt.Works command answer p₀ := by
  constructor
  · intro claim hwaits
    exact absurd (h.symm.trans hwaits.held) nofun
  · rintro claim result (hphase | ⟨_, hphase⟩) <;> rw [hphase] at h <;> cases h

/-- The progress of a command, and what its attempts hold. -/
structure CommandInv (service : PaymentService) (command : Command) (answer : BankAnswer)
    (p₀ : Payment) (paymentID : GoString) (s : State) : Prop where
  progress : Progress service command answer p₀ (s.db.current paymentID)
    (s.db.records command.recordKey)
  works : ∀ id attempt, s.attempts id = some attempt → attempt.command = command →
    attempt.Works command answer p₀

variable {s s' : State} {e : Event} {id : ℕ} {attempt : Attempt} {action : Action}
  {effect : Effect}

theorem CommandInv.exists_of_inProgress {record : IdempotencyRecord}
    (h : CommandInv service command answer p₀ paymentID s)
    (slot : s.db.records command.recordKey = some record)
    (inProgress : record.status = .inProgress) :
    ∃ p, s.db.current paymentID = some p ∧ p.erase = (p₀.keyed command.operation).erase ∧
      record.requestFingerprint = service.requestFingerprint command := by
  have hprogress := h.progress
  rw [slot] at hprogress
  obtain ⟨p, hcurrent, hkeyed, hfingerprint, _⟩ := hprogress.exists_of_inProgress inProgress
  exact ⟨p, hcurrent, hkeyed, hfingerprint⟩

/-- A claim may be marked by the answer alone. -/
theorem Marked.expected_eq {p m : Payment} {now : Time} {answer' : BankAnswer}
    {kind : Option PaymentErrorKind} (mark : Marked p now command.operation answer' m kind)
    (existing : command.paymentID? = some paymentID)
    (keyed : p.erase = (p₀.keyed command.operation).erase)
    (bank : answer' = answer ∨ Inconclusive command.operation answer') :
    command.expected answer p₀ = some (.complete m.erase kind) := by
  have hexisting : command.operation ≠ .authorizePayment := by
    intro h
    cases command <;> cases h
    cases existing
  rcases bank with rfl | ⟨err, rfl, hfailure⟩
  · rw [Command.expected_eq keyed (mark.time_ne_zero hexisting), mark.verdict_eq]
    rfl
  · -- An inconclusive failure marks nothing.
    generalize command.operation = operation at mark hexisting hfailure
    cases mark with
    | unknown => exact absurd rfl hexisting
    | expired _ _ _ settles expired => exact absurd (expired.symm.trans (hfailure settles)) nofun

/-- A step of the command's attempt leaves it with what its new phase holds. -/
theorem Attempt.Works.step (works : attempt.Works command answer p₀)
    (rule : AttemptStep service s.clock s.drawn s.db id attempt action effect)
    (inv : PaymentGateway.Inv service s) (running : s.attempts id = some attempt)
    (own : attempt.command = command) (existing : command.paymentID? = some paymentID)
    (progress : Progress service command answer p₀ (s.db.current paymentID)
      (s.db.records command.recordKey))
    (bank : ∀ answer', action = .answer answer' →
      answer' = answer ∨ Inconclusive command.operation answer') :
    effect.attempt.Works command answer p₀ := by
  have hinv := inv.attempts id attempt running
  constructor
  · intro claim hwaits
    rcases rule.of_waits hwaits with hwaits | ⟨request, phase, grant⟩
    · exact works.waits claim hwaits
    · obtain ⟨_, _, hbuilt⟩ := hinv.built phase
      exact (progress.granted existing inv.sound (own ▸ hbuilt) grant).1
  · intro claim result hphase
    cases rule with
    | marked claimed answer' m kind phase _ mark =>
      rcases hphase with hphase | ⟨_, hphase⟩ <;> cases hphase
      have hoperation : claimed.operation = command.operation :=
        own ▸ (hinv.claimFor_of_waits phase).operation
      rw [hoperation] at mark
      exact ⟨kind, mark.expected_eq existing (works.waits claimed phase) (bank answer' rfl), rfl⟩
    | stamped claimed _ phase =>
      rcases hphase with hphase | ⟨_, hphase⟩ <;> cases hphase
      exact works.marks claim result (.inl phase)
    | _ => rcases hphase with hphase | ⟨_, hphase⟩ <;> cases hphase

/-- What a step of the command's attempt makes of its payment and its record. -/
theorem CommandInv.progress_act (h : CommandInv service command answer p₀ paymentID s)
    (inv : Inv service s) (hstep : SystemStep service s (.act id action) s')
    (existing : command.paymentID? = some paymentID) (running : s.attempts id = some attempt)
    (own : attempt.command = command) :
    Progress service command answer p₀ (s'.db.current paymentID)
      (s'.db.records command.recordKey) := by
  have hinv := inv.attempts id attempt running
  cases hstep.storeStep with
  | idle _ same => exact same ▸ h.progress
  | granted _ _ attempt' request claim running' phase grant =>
    obtain rfl : attempt = attempt' := Option.some.inj (running.symm.trans running')
    obtain ⟨_, _, hbuilt⟩ := hinv.built phase
    exact (h.progress.granted existing inv.sound (own ▸ hbuilt) grant).2
  | completed _ _ attempt' claim result completedAt row record running' phase completion =>
    obtain rfl : attempt = attempt' := Option.some.inj (running.symm.trans running')
    -- The row becomes the marked copy and the record keeps its snapshot.
    have hfor : MarkedFor service s.db command claim result := own ▸ hinv.markedFor phase
    have hstores := completion.stores inv.sound hfor
    have hid := hfor.payment_id existing
    obtain ⟨_, _, _, _, hclaim, _⟩ := hfor
    obtain ⟨kind, hexpected, rfl⟩ := (h.works id attempt running own).marks claim result
      (.inr ⟨completedAt, phase⟩)
    have hkey : claim.recordKey = command.recordKey := hclaim.recordKey_eq
    have hfingerprint : claim.requestFingerprint = service.requestFingerprint command :=
      hclaim.fingerprint
    have hrecord : s'.db.records command.recordKey = some (Db.completedRecord record
        ⟨newPaymentResult claim.payment, kind⟩ completedAt) := by
      rw [completion.after, ← hkey, Db.setRecord_records_self]
    rw [hrecord, ← hid, hstores.current_self]
    exact .completed _ _ kind hexpected (completion.fingerprint.trans hfingerprint) rfl
      completion.storedResult
  | released _ _ attempt' claim err running' phase after =>
    -- A release removes an open record and leaves the payment with the key it was given.
    have hcurrent : s'.db.current paymentID = s.db.current paymentID :=
      Db.current_of_history_eq (by rw [after, Db.releasePaymentCommand_history]) paymentID
    rw [hcurrent, after]
    rcases s.db.releasePaymentCommand_records_cases claim command.recordKey with hsame |
      ⟨hnone, _, record, hslot, hopen⟩
    · rw [hsame]
      exact h.progress
    · obtain ⟨p, hp, hkeyed, _⟩ := h.exists_of_inProgress hslot hopen
      rw [hnone, hp]
      exact .released p hkeyed

/-- Rows tell stored payments apart. -/
theorem Db.Sound.current_eq {db db' : Db} (sound : db.Sound) (sound' : db'.Sound) {id : GoString}
    (h : db'.payments id = db.payments id) : db'.current id = db.current id := by
  rw [sound.payments_eq, sound'.payments_eq] at h
  cases hp : db.current id with
  | none =>
    rw [hp] at h
    exact Option.map_eq_none_iff.mp h
  | some p =>
    rw [hp] at h
    obtain ⟨q, hq, hrow⟩ := Option.map_eq_some_iff.mp h
    rw [hq, rowOf_inj (sound'.wellFormed_of_current hq) (sound.wellFormed_of_current hp) hrow]

/-- What is no step of the command leaves its payment and its record as they are. -/
theorem Undisturbed.db_eq (guard : Undisturbed service command answer s e) (inv : Inv service s)
    (existing : command.paymentID? = some paymentID) (other : ¬ e.IsOf s command)
    (taken : PaymentGateway.step service s e = some s') :
    s'.db.current paymentID = s.db.current paymentID ∧
      s'.db.records command.recordKey = s.db.records command.recordKey := by
  have hview := guard.apart other s' taken
  simp only [State.view, existing, Option.bind_some, Prod.mk.injEq] at hview
  exact ⟨inv.sound.current_eq (inv.step (step_cases taken)).sound hview.1, hview.2⟩

/-- An undisturbed step keeps track of the command's progress. -/
theorem CommandInv.step (h : CommandInv service command answer p₀ paymentID s)
    (inv : Inv service s) (existing : command.paymentID? = some paymentID)
    (guard : Undisturbed service command answer s e)
    (taken : PaymentGateway.step service s e = some s') :
    CommandInv service command answer p₀ paymentID s' := by
  have hstep := step_cases taken
  constructor
  · by_cases hof : e.IsOf s command
    · obtain ⟨id, action, attempt, rfl, running, own⟩ := hof
      exact h.progress_act inv hstep existing running own
    · obtain ⟨hcurrent, hrecords⟩ := guard.db_eq inv existing hof taken
      rw [hcurrent, hrecords]
      exact h.progress
  · intro id attempt' hattempt own
    rcases hstep.attempt_cases hattempt with hkept | ⟨_, _, _, rfl⟩ |
      ⟨action, attempt, effect, rfl, running, rule, rfl, rfl⟩
    · exact h.works id attempt' hkept own
    · exact .of_held rfl
    · rw [rule.command_eq] at own
      exact (h.works id attempt running own).step rule inv running own existing h.progress
        fun answer' hanswer => guard.bank id attempt answer' (hanswer ▸ rfl) running own

end PaymentGateway
