/-
# What a claim returns, under any schedule

`claimIdempotency` answers as if it had decided on the row at one instant, except in two
schedules. Its INSERT meets a row and its SELECT does not find one any more, because the
row was released or cleaned up in between: then it fails. And the row that its SELECT
finds is one that it would have taken over: a claim with an older time has inserted it
since the UPDATE.
-/

import PaymentGateway.Store.Interleaving

namespace PaymentGateway

open Lib

namespace ClaimRun

/-- A run returns the outcome of the decision on one of the rows it could see, and leaves the
row that the decision leaves. -/
def Linearizes (run : ClaimRun) (reply : Except GoError IdempotencyClaimOutcome)
    (written : Option IdempotencyRecord) : Prop :=
  ∃ slot ∈ run.window, ∃ outcome, reply = .ok outcome ∧
    ClaimDecision run.request run.paymentID slot outcome (written.or slot)

/-- The INSERT adds a row that the table accepts. The SELECT finds a row, and if it finds one
that it would have taken over, there was a claim in progress at another instant. -/
def Undisturbed (run : ClaimRun) : ClaimStatement → Prop
  | .update => True
  | .insert =>
    idempotencyRecordsCheck run.request.recordKey (newRecord run.request run.paymentID) = true
  | .select => ∃ record, run.window.head? = some (some record) ∧
    (stuckFor run.request record → ∃ fresh, some fresh ∈ run.window ∧
      fresh.requestFingerprint = run.request.requestFingerprint ∧ fresh.status = .inProgress ∧
      ¬ stuckFor run.request fresh)

end ClaimRun

/-- A completed row can be replayed. -/
def Readable (slot : Option IdempotencyRecord) : Prop :=
  ∀ record ∈ slot, record.status = .completed → ∃ result, storedResult record = .ok result

variable {request : PaymentCommandClaimRequest} {paymentID : GoString}
  {slot slot' committed : Option IdempotencyRecord} {outcome : IdempotencyClaimOutcome}
  {record : IdempotencyRecord} {run : ClaimRun}

theorem readable_of_inProgress (h : record.status = .inProgress) : Readable (some record) := by
  intro _ hmem completed
  cases hmem
  exact absurd (h.symm.trans completed) nofun

theorem ClaimDecision.readable (decision : ClaimDecision request paymentID slot outcome slot')
    (h : Readable slot) : Readable slot' := by
  cases decision with
  | acquired => exact readable_of_inProgress rfl
  | recovered record stuck => exact readable_of_inProgress stuck.2.1
  | replayed | inProgress | conflict => exact h

/-! ## Decisions of the statements -/

theorem recoverStatement_decision (h : recoverStatement request committed = some record) :
    ClaimDecision request paymentID committed (.recovered (nullStringValue record.paymentID))
      (some record) := by
  cases committed with
  | none => cases h
  | some before =>
    rw [recoverStatement] at h
    split_ifs at h with hstuck
    cases h
    exact .recovered before hstuck

theorem insertStatement_decision (h : insertStatement request paymentID committed = some record)
    (valid : idempotencyRecordsCheck request.recordKey record = true) :
    ClaimDecision request paymentID committed .acquired (some record) := by
  cases committed with
  | some _ => cases h
  | none =>
    cases h
    exact .acquired valid

/-- The SELECT decides as the decision on the row it finds does, except that it does not look
at the time of a claim in progress. -/
theorem selectStatement_cases (request : PaymentCommandClaimRequest) (paymentID : GoString)
    (readable : Readable (some record)) :
    (¬ stuckFor request record ∧ ∃ outcome, selectStatement request (some record) = .ok outcome ∧
      ClaimDecision request paymentID (some record) outcome (some record)) ∨
    stuckFor request record ∧ selectStatement request (some record) = .ok .inProgress := by
  by_cases hsame : record.requestFingerprint = request.requestFingerprint
  · cases hstatus : record.status with
    | inProgress =>
      have hselect : selectStatement request (some record) = .ok .inProgress := by
        simp [selectStatement, hstatus, hsame, pure, Except.pure]
      by_cases hstuck : stuckFor request record
      · exact .inr ⟨hstuck, hselect⟩
      · exact .inl ⟨hstuck, _, hselect, .inProgress record hsame hstatus hstuck⟩
    | completed =>
      obtain ⟨result, hresult⟩ := readable record rfl hstatus
      refine .inl ⟨?_, .replayed result, ?_, .replayed record result hsame hstatus hresult⟩
      · intro hstuck
        cases hstuck.2.1.symm.trans hstatus
      · simp [selectStatement, hstatus, hsame, hresult, bind, Except.bind, pure, Except.pure]
  · refine .inl ⟨fun hstuck => hsame hstuck.1, .conflict, ?_,
      .conflict record hsame (readable record rfl)⟩
    cases hstatus : record.status with
    | inProgress => simp [selectStatement, hstatus, hsame, pure, Except.pure]
    | completed =>
      obtain ⟨result, hresult⟩ := readable record rfl hstatus
      simp [selectStatement, hstatus, hsame, hresult, bind, Except.bind, pure, Except.pure]

/-- A run that returns from its SELECT. -/
theorem ClaimRun.linearizes_select_iff (readable : Readable committed) {rest}
    (window : run.window = committed :: rest) :
    run.Linearizes (selectStatement run.request committed) none ↔ run.Undisturbed .select := by
  cases committed with
  | none =>
    refine ⟨?_, ?_⟩
    · rintro ⟨_, _, _, hreply, _⟩
      cases hreply
    · rintro ⟨record, hhead, _⟩
      rw [window] at hhead
      cases hhead
  | some record =>
    have hmem : some record ∈ run.window := window ▸ List.mem_cons_self
    have hhead : run.window.head? = some (some record) := by rw [window, List.head?_cons]
    rcases selectStatement_cases run.request run.paymentID readable with
      ⟨hfresh, outcome, hselect, hdecision⟩ | ⟨hstuck, hselect⟩
    · exact iff_of_true ⟨some record, hmem, outcome, hselect, hdecision⟩
        ⟨record, hhead, fun hstuck => absurd hstuck hfresh⟩
    · rw [hselect]
      constructor
      · rintro ⟨slot, hslot, outcome, hreply, hdecision⟩
        cases hreply
        refine ⟨record, hhead, fun _ => ?_⟩
        cases hdecision with
        | inProgress fresh hsame hopen hfresh => exact ⟨fresh, hslot, hsame, hopen, hfresh⟩
      · rintro ⟨record', hhead', hfresh⟩
        rw [hhead, Option.some_inj, Option.some_inj] at hhead'
        subst hhead'
        obtain ⟨fresh, hslot, hsame, hopen, hnot⟩ := hfresh hstuck
        exact ⟨some fresh, hslot, .inProgress, rfl, .inProgress fresh hsame hopen hnot⟩

/-! ## Schedules -/

/-- What a step of a schedule does. -/
inductive RowStep (s : RowState) : RowState → Prop
  | idle : RowStep s s
  | started (id : ℕ) (request : PaymentCommandClaimRequest) (paymentID : GoString)
      (free : s.claims id = none) : RowStep s (s.goto id ⟨request, paymentID, .before .update, []⟩)
  | advanced (id : ℕ) (run : ClaimRun) (statement : ClaimStatement)
      (running : s.claims id = some run) (stage : run.stage = .before statement)
      (unwritten : (run.next s.committed).written = none) :
      RowStep s (s.goto id (run.next s.committed))
  | wrote (id : ℕ) (run : ClaimRun) (statement : ClaimStatement) (record : IdempotencyRecord)
      (running : s.claims id = some run) (stage : run.stage = .before statement)
      (written : (run.next s.committed).written = some record) (unlocked : s.lock = none) :
      RowStep s { s.goto id (run.next s.committed) with lock := some (id, record) }
  | committed (id : ℕ) (record : IdempotencyRecord) (locked : s.lock = some (id, record)) :
      RowStep s { s.publish (some record) with lock := none }
  | rolledBack : RowStep s { s with lock := none }
  | overwritten (slot : Option IdempotencyRecord) (unlocked : s.lock = none)
      (readable : Readable s.committed → Readable slot) : RowStep s (s.publish slot)

theorem Readable.filter (h : Readable slot) (keep : IdempotencyRecord → Bool) :
    Readable (slot.filter keep) :=
  fun record hmem => h record (Option.filter_eq_some_iff.mp hmem).1

theorem Readable.completeSlot (h : Readable slot) (recordKey : Operation × GoString)
    (fingerprint : GoString) (result : PaymentCommandResult) (completedAt : Time) :
    Readable (completeSlot recordKey fingerprint result completedAt slot) := by
  cases slot with
  | none => exact h
  | some record =>
    rw [PaymentGateway.completeSlot]
    split_ifs with hcompletes
    · intro _ hmem _
      cases hmem
      obtain ⟨payment, kind⟩ := result
      cases kind with
      | none => exact ⟨_, rfl⟩
      | some kind =>
        have hkind : isTerminalFailureKind kind = true := hcompletes.1 kind rfl
        exact ⟨⟨payment, some kind⟩, by simp [storedResult, Db.completedRecord, hkind]⟩
    · exact h

theorem RowState.overwrite_cases {s s' : RowState} (h : s.overwrite slot = some s')
    (readable : Readable s.committed → Readable slot) : RowStep s s' := by
  unfold RowState.overwrite at h
  split_ifs at h with hsame hlock
  · cases h
    exact .idle
  · cases h
    exact .overwritten slot (by simpa using hlock) readable

theorem RowState.statement_cases {s s' : RowState} {id : ℕ} {statement : ClaimStatement}
    (running : s.claims id = some run) (stage : run.stage = .before statement)
    (h : s.statement id run = some s') : RowStep s s' := by
  unfold RowState.statement at h
  dsimp only at h
  split at h
  · next hwritten =>
    cases h
    exact .advanced id run statement running stage hwritten
  · next record hwritten hlock =>
    cases h
    exact .wrote id run statement record running stage hwritten hlock
  · cases h

theorem RowState.step_cases {recordKey : Operation × GoString} {s s' : RowState} {e : RowEvent}
    (h : s.step recordKey e = some s') : RowStep s s' := by
  cases e with
  | start id request paymentID =>
    simp only [RowState.step, Option.isNone_iff_eq_none] at h
    split_ifs at h with hstart
    cases h
    exact .started id request paymentID hstart.1
  | statement id =>
    simp only [RowState.step] at h
    split at h
    · next run hrunning =>
      split at h
      · next statement hstage => exact RowState.statement_cases hrunning hstage h
      · cases h
    · cases h
  | commit id =>
    simp only [RowState.step] at h
    split at h
    · next owner record hlock =>
      split_ifs at h
      cases h
      exact .committed owner record hlock
    · cases h
  | rollback id =>
    simp only [RowState.step] at h
    split at h
    · split_ifs at h
      cases h
      exact .rolledBack
    · cases h
  | complete fingerprint result completedAt =>
    -- Outside the claims a row is overwritten in one statement.
    exact RowState.overwrite_cases h fun readable =>
      readable.completeSlot recordKey fingerprint result completedAt
  | release => exact RowState.overwrite_cases h fun readable => readable.filter _
  | cleanup completedBefore =>
    refine RowState.overwrite_cases h fun readable => ?_
    unfold cleanupSlot
    split_ifs
    · exact readable
    · exact readable.filter _

/-! ## Runs -/

/-- What is known of a run: between its statements the committed row is the newest it sees, and
once it has returned it linearizes as far as it was undisturbed. -/
def ClaimRun.Inv (committed : Option IdempotencyRecord) (run : ClaimRun) : Prop :=
  match run.stage with
  | .before .update => True
  | .before _ => ∃ rest, run.window = committed :: rest
  | .returned statement reply written =>
    run.Linearizes reply written ↔ run.Undisturbed statement

theorem ClaimRun.Inv.observe (h : run.Inv slot) (committed : Option IdempotencyRecord) :
    (run.observe committed).Inv committed := by
  obtain ⟨request, paymentID, stage, window⟩ := run
  cases stage with
  | returned => exact h
  | before statement =>
    cases statement with
    | update => trivial
    | insert | select => exact ⟨window, rfl⟩

/-- A statement keeps what is known of its run. -/
theorem ClaimRun.Inv.next (h : run.Inv committed) (readable : Readable committed) :
    (run.next committed).Inv committed := by
  obtain ⟨request, paymentID, stage, window⟩ := run
  cases stage with
  | returned => exact h
  | before statement =>
    cases statement with
    | update =>
      cases hrecover : recoverStatement request committed with
      | some record =>
        simp only [ClaimRun.next, hrecover]
        exact iff_of_true ⟨committed, List.mem_cons_self, _, rfl,
          recoverStatement_decision hrecover⟩ trivial
      | none =>
        simp only [ClaimRun.next, hrecover]
        exact ⟨[], rfl⟩
    | insert =>
      obtain ⟨rest, rfl⟩ : ∃ rest, window = committed :: rest := h
      cases committed with
      | some record => exact ⟨rest, rfl⟩
      | none =>
        by_cases hvalid :
            idempotencyRecordsCheck request.recordKey (newRecord request paymentID) = true
        · simp only [ClaimRun.next, insertStatement, if_pos hvalid]
          exact iff_of_true ⟨none, List.mem_cons_self, _, rfl, .acquired hvalid⟩ hvalid
        · simp only [ClaimRun.next, insertStatement, if_neg hvalid]
          refine iff_of_false ?_ hvalid
          rintro ⟨_, _, _, hreply, _⟩
          cases hreply
    | select =>
      obtain ⟨rest, hwindow⟩ := h
      exact ClaimRun.linearizes_select_iff readable hwindow

/-- A statement that writes has decided on the committed row. -/
theorem ClaimRun.decision_of_written (h : (run.next committed).written = some record)
    {statement : ClaimStatement} (stage : run.stage = .before statement) :
    ∃ outcome, (run.next committed).stage = .returned statement (.ok outcome) (some record) ∧
      ClaimDecision (run.next committed).request (run.next committed).paymentID committed outcome
        (some record) := by
  obtain ⟨request, paymentID, _, window⟩ := run
  cases stage
  cases statement with
  | update =>
    cases hrecover : recoverStatement request committed with
    | none =>
      simp only [ClaimRun.next, hrecover] at h
      cases h
    | some record' =>
      simp only [ClaimRun.next, hrecover] at h ⊢
      cases h
      exact ⟨_, rfl, recoverStatement_decision hrecover⟩
  | insert =>
    cases hinsert : insertStatement request paymentID committed with
    | none =>
      simp only [ClaimRun.next, hinsert] at h
      cases h
    | some record' =>
      by_cases hvalid : idempotencyRecordsCheck request.recordKey record' = true
      · simp only [ClaimRun.next, hinsert, if_pos hvalid] at h ⊢
        cases h
        exact ⟨_, rfl, insertStatement_decision hinsert hvalid⟩
      · simp only [ClaimRun.next, hinsert, if_neg hvalid] at h
        cases h
  | select => cases h

/-- The claim whose transaction has written the row. -/
structure LockInv (s : RowState) (id : ℕ) (record : IdempotencyRecord) : Prop where
  decided : ∃ run statement outcome, s.claims id = some run ∧
    run.stage = .returned statement (.ok outcome) (some record) ∧
    ClaimDecision run.request run.paymentID s.committed outcome (some record)

structure RowInv (s : RowState) : Prop where
  readable : Readable s.committed
  lock : ∀ id record, s.lock = some (id, record) → LockInv s id record
  runs : ∀ id run, s.claims id = some run → run.Inv s.committed

/-- The lock is kept while another run goes on. -/
theorem LockInv.goto {s : RowState} {id other : ℕ} (h : LockInv s id record) (run : ClaimRun)
    (hne : id ≠ other) : LockInv (s.goto other run) id record := by
  obtain ⟨run', statement, outcome, hrunning, hstage, hdecision⟩ := h
  exact ⟨run', statement, outcome, (s.claims_goto_of_ne run hne).trans hrunning, hstage, hdecision⟩

/-- A run that is not the one that goes on stays as it is. -/
theorem RowInv.runs_goto {s : RowState} (inv : RowInv s) {id : ℕ} {run : ClaimRun}
    (h : run.Inv s.committed) :
    ∀ other run', (s.goto id run).claims other = some run' → run'.Inv s.committed := by
  intro other run' hrunning
  rcases eq_or_ne other id with rfl | hne
  · rw [RowState.claims_goto_self, Option.some_inj] at hrunning
    exact hrunning ▸ h
  · rw [RowState.claims_goto_of_ne s run hne] at hrunning
    exact inv.runs other run' hrunning

theorem RowInv.runs_publish {s : RowState} (inv : RowInv s) (slot : Option IdempotencyRecord) :
    ∀ id run, (s.publish slot).claims id = some run → run.Inv slot := by
  intro id run hrunning
  obtain ⟨run', hrunning', rfl⟩ := Option.map_eq_some_iff.mp hrunning
  exact (inv.runs id run' hrunning').observe slot

/-- The run that holds the lock has returned. -/
theorem LockInv.ne_of_before {s : RowState} {id other : ℕ} {statement : ClaimStatement}
    (h : LockInv s id record) (running : s.claims other = some run)
    (stage : run.stage = .before statement) : id ≠ other := by
  rintro rfl
  obtain ⟨run', _, _, hrunning, hstage, _⟩ := h
  rw [running, Option.some_inj] at hrunning
  rw [← hrunning, stage] at hstage
  cases hstage

theorem RowInv.step {s s' : RowState} (inv : RowInv s) (hstep : RowStep s s') : RowInv s' := by
  cases hstep with
  | idle => exact inv
  | started id request paymentID free =>
    refine ⟨inv.readable, fun owner record hlock => ?_, inv.runs_goto trivial⟩
    have hlocked := inv.lock owner record hlock
    refine hlocked.goto _ ?_
    rintro rfl
    obtain ⟨_, _, _, hrunning, _⟩ := hlocked
    exact absurd (free.symm.trans hrunning) nofun
  | advanced id run statement running stage unwritten =>
    refine ⟨inv.readable, fun owner record hlock => ?_,
      inv.runs_goto ((inv.runs id run running).next inv.readable)⟩
    have hlocked := inv.lock owner record hlock
    exact hlocked.goto _ (hlocked.ne_of_before running stage)
  | wrote id run statement record running stage written unlocked =>
    refine ⟨inv.readable, fun owner record' hlock => ?_,
      inv.runs_goto ((inv.runs id run running).next inv.readable)⟩
    cases hlock
    obtain ⟨outcome, hstage, hdecision⟩ := ClaimRun.decision_of_written written stage
    exact ⟨_, statement, outcome, RowState.claims_goto_self .., hstage, hdecision⟩
  | committed id record locked =>
    obtain ⟨_, _, _, _, _, hdecision⟩ := inv.lock id record locked
    exact ⟨hdecision.readable inv.readable, fun _ _ h => (by cases h), inv.runs_publish _⟩
  | rolledBack => exact ⟨inv.readable, fun _ _ h => (by cases h), inv.runs⟩
  | overwritten slot unlocked readable =>
    refine ⟨readable inv.readable, fun owner record hlock => ?_, inv.runs_publish _⟩
    exact absurd (unlocked.symm.trans hlock) nofun

theorem rowInv_of_reaches {recordKey : Operation × GoString} {s : RowState}
    (run : Reaches (RowState.step recordKey) (fun _ _ => True) RowState.initial s) : RowInv s := by
  refine run.invariant ⟨?_, ?_, ?_⟩ fun s e s' _ inv _ taken => inv.step (RowState.step_cases taken)
  · intro _ h
    cases h
  · intro _ _ h
    cases h
  · intro _ _ h
    cases h

/-- **Claims, statement by statement.** In every schedule, a claim that has returned did so
with the outcome and the row of the decision at one instant from its first statement to its
last if and only if it was undisturbed. The row that it writes is the one that the decision
leaves of the committed row, up to the end of its transaction. -/
theorem claims_linearize_iff (recordKey : Operation × GoString) (s : RowState)
    (schedule : Reaches (RowState.step recordKey) (fun _ _ => True) RowState.initial s) :
    (∀ id run statement reply written, s.claims id = some run →
      run.stage = .returned statement reply written →
      (run.Linearizes reply written ↔ run.Undisturbed statement)) ∧
    (∀ id record, s.lock = some (id, record) →
      ∃ run statement outcome, s.claims id = some run ∧
        run.stage = .returned statement (.ok outcome) (some record) ∧
        ClaimDecision run.request run.paymentID s.committed outcome (some record)) := by
  have inv := rowInv_of_reaches schedule
  refine ⟨fun id run statement reply written running stage => ?_, fun id record locked => ?_⟩
  · have hrun := inv.runs id run running
    unfold ClaimRun.Inv at hrun
    rwa [stage] at hrun
  · exact (inv.lock id record locked).decided

namespace Sample

/-- A claim of one capture at a time. -/
def claimAt (now : Time) : PaymentCommandClaimRequest :=
  ⟨.capturePayment, ascii "k1", ascii "f", .authorized, now, 60⟩

/-- A claim is acquired and committed, and ten ticks later a second one meets its row. -/
def metClaims : List RowEvent :=
  let paymentID := ascii "pay_00000000-0000-4000-8000-000000000000"
  [.start 0 (claimAt 100) paymentID, .statement 0, .statement 0, .commit 0,
    .start 1 (claimAt 110) paymentID, .statement 1, .statement 1]

end Sample

/-- The row is still there when the second claim looks: it reports the first one. -/
theorem claims_linearize_iff_inProgress :
    ∃ s run, Reaches (RowState.step (.capturePayment, ascii "k1")) (fun _ _ => True)
        RowState.initial s ∧ s.claims 1 = some run ∧
      run.stage = .returned .select (.ok .inProgress) none ∧
      run.Linearizes (.ok .inProgress) none := by
  obtain ⟨s, hs, hproperty⟩ := exists_reaches_of_execWhere (fun _ _ _ => trivial)
    (Sample.metClaims ++ [.statement 1])
    (show (execWhere (RowState.step (.capturePayment, ascii "k1")) (fun _ _ => true)
      RowState.initial _).any (fun s => (s.claims 1).any fun run =>
        run.stage = .returned .select (.ok .inProgress) none &&
          run.window.head?.any fun slot => slot.any fun record => !stuckFor run.request record) =
      true by decide +kernel)
  simp only [Option.any_eq_true, Bool.and_eq_true, decide_eq_true_eq, Bool.not_eq_true',
    decide_eq_false_iff_not] at hproperty
  obtain ⟨run, hrunning, hstage, _, hhead, record, rfl, hfresh⟩ := hproperty
  obtain ⟨hlinearizes, _⟩ := claims_linearize_iff (.capturePayment, ascii "k1") s hs
  exact ⟨s, run, hs, hrunning, hstage, (hlinearizes 1 run _ _ _ hrunning hstage).mpr
    ⟨record, hhead, fun hstuck => absurd hstuck hfresh⟩⟩

/-- The first claim is released between the INSERT and the SELECT of the second one, which
then fails. -/
theorem released_claim_fails_select :
    ∃ s run, Reaches (RowState.step (.capturePayment, ascii "k1")) (fun _ _ => True)
        RowState.initial s ∧ s.claims 1 = some run ∧
      run.stage = .returned .select (.error .noRows) none ∧
      ¬ run.Linearizes (.error .noRows) none := by
  obtain ⟨s, hs, hproperty⟩ := exists_reaches_of_execWhere (fun _ _ _ => trivial)
    (Sample.metClaims ++ [.release, .statement 1])
    (show (execWhere (RowState.step (.capturePayment, ascii "k1")) (fun _ _ => true)
      RowState.initial _).any (fun s => (s.claims 1).any fun run =>
        run.stage = .returned .select (.error .noRows) none) = true by decide +kernel)
  simp only [Option.any_eq_true, decide_eq_true_eq] at hproperty
  obtain ⟨run, hrunning, hstage⟩ := hproperty
  refine ⟨s, run, hs, hrunning, hstage, ?_⟩
  rintro ⟨_, _, _, hreply, _⟩
  cases hreply

end PaymentGateway
