/-
# Read your writes

A command answers from the payment in memory, whose instants have nanoseconds; a
query answers from the row, whose columns keep microseconds. So the two answers
differ in every instant that is not a whole microsecond, and a client that compares
or deduplicates on timestamps sees a change that nobody made.

A second difference is meant: a repeated request is answered with the stored result
of the first one, whatever has become of the payment since.

Where neither occurs, a query returns what the command returned for as long as the
row stays as it is. If the clock and the bank only show whole microseconds, the
columns lose nothing, and a run of the system with columns is a run of the system
with exact storage.
-/

import PaymentGateway.Http.Envelope
import PaymentGateway.Properties.OpenClaims
import PaymentGateway.Service.Queries

namespace PaymentGateway

open Lib

variable {service : PaymentService} {s s' t : State} {e : Event} {p m : Payment}

/-! ## Runs over columns -/

/-- The instants that enter a run with an event are whole microseconds: what the clock shows, and
when an authorization expires according to the bank. -/
def WholeInstants : Event → Prop
  | .tick clock => clock.Whole
  | .act _ (.answer (.authorization result)) => result.authorizationExpiresAt.Whole
  | _ => True

/-! ## Whole instants stay whole -/

/-- Marking a payment at a whole instant, with a whole expiration, keeps its instants whole. -/
theorem Marked.wholeTimes {now : Time} {operation : Operation} {answer : BankAnswer}
    {kind : Option PaymentErrorKind} (mark : Marked p now operation answer m kind)
    (whole : p.WholeTimes) (time : now.Whole)
    (expires : ∀ result, answer = .authorization result → result.authorizationExpiresAt.Whole) :
    m.WholeTimes := by
  cases mark with
  | unknown => exact whole
  | authorized _ result _ _ _ hmark =>
    obtain ⟨-, -, -, -, rfl⟩ := Payment.markAuthorized_eq_ok.mp hmark
    exact ⟨expires result rfl, whole.createdAt, time⟩
  | declined _ _ _ _ _ hmark =>
    obtain ⟨-, -, -, rfl⟩ := Payment.markDeclined_eq_ok.mp hmark
    exact ⟨dvd_zero 1000, whole.createdAt, time⟩
  | captured _ _ hmark =>
    obtain ⟨-, -, -, rfl⟩ := Payment.markCaptured_eq_ok.mp hmark
    exact { whole with updatedAt := time }
  | voided _ _ hmark =>
    obtain ⟨-, -, -, rfl⟩ := Payment.markVoided_eq_ok.mp hmark
    exact { whole with updatedAt := time }
  | refunded _ _ hmark =>
    obtain ⟨-, -, -, rfl⟩ := Payment.markRefunded_eq_ok.mp hmark
    exact { whole with updatedAt := time }
  | expired _ _ _ _ _ hmark =>
    obtain ⟨-, -, rfl⟩ := Payment.markExpired_eq_ok.mp hmark
    exact { whole with updatedAt := time }

theorem Keyed.wholeTimes {request : ExistingPaymentCommandClaimRequest} (keyed : Keyed request p m)
    (whole : p.WholeTimes) : m.WholeTimes := by
  rw [keyed.eq]
  cases request.operation <;> exact { whole with }

theorem Built.start_wholeTimes {now : Time} {drawn drawn' : Draws} {command : Command}
    {request : AuthorizationStartClaimRequest}
    (built : Built service now drawn command (.start request) drawn') (time : now.Whole) :
    request.payment.WholeTimes := by
  cases built with
  | authorizePayment c payment new =>
    obtain ⟨-, -, -, -, -, -, -, rfl⟩ := newPendingPayment_eq_ok.mp new
    exact ⟨dvd_zero 1000, time, time⟩

/-- Every instant of a state is whole, wherever it came from. -/
structure WholeInv (s : State) : Prop where
  clock : s.clock.Whole
  written : ∀ p, s.db.Wrote p → p.WholeTimes
  records : ∀ recordKey record, s.db.records recordKey = some record → record.WholeTimes
  prepared : ∀ id attempt, s.attempts id = some attempt → attempt.preparedAt.Whole
  marked : ∀ id attempt claim, s.attempts id = some attempt → attempt.phase.Marks claim →
    claim.payment.WholeTimes
  stamped : ∀ id attempt claim result completedAt, s.attempts id = some attempt →
    attempt.phase = .persisting claim result completedAt → completedAt.Whole

namespace WholeInv

theorem clock_step (whole : WholeInv s) (hstep : SystemStep service s e s')
    (instants : WholeInstants e) : s'.clock.Whole := by
  cases hstep with
  | tick clock => exact instants
  | receive | act | scheduleCleanup | runCleanup => exact whole.clock

theorem written_step (whole : WholeInv s) (inv : Inv service s)
    (hstep : SystemStep service s e s') (hwrote : s'.db.Wrote p) : p.WholeTimes := by
  cases hstep.writeStep inv with
  | nothing _ _ history => exact whole.written p ((Db.wrote_of_history_eq history p).mp hwrote)
  | inserted id action attempt request running phase fresh stores =>
    rcases stores.wrote_iff.mp hwrote with rfl | hwrote
    · obtain ⟨_, _, hbuilt⟩ := (inv.attempts id attempt running).built phase
      exact hbuilt.start_wholeTimes (whole.prepared id attempt running)
    · exact whole.written p hwrote
  | keyed id action attempt request q q' running phase current _ keyed stores =>
    rcases stores.wrote_iff.mp hwrote with rfl | hwrote
    · exact keyed.wholeTimes (whole.written q (inv.sound.wrote_of_current current))
    · exact whole.written p hwrote
  | completed id action attempt claim result completedAt q running phase _ _ _ stores =>
    rcases stores.wrote_iff.mp hwrote with rfl | hwrote
    · exact whole.marked id attempt claim running ⟨result, .inr ⟨completedAt, phase⟩⟩
    · exact whole.written p hwrote

theorem records_step (whole : WholeInv s) (inv : Inv service s)
    (hstep : SystemStep service s e s') {recordKey : Operation × GoString}
    {record : IdempotencyRecord} (h : s'.db.records recordKey = some record) :
    record.WholeTimes := by
  have hrecord := hstep.recordStep inv recordKey
  generalize hbefore : s.db.records recordKey = before at hrecord
  rw [h] at hrecord
  cases hrecord with
  | kept => exact whole.records recordKey record hbefore
  | granted id action attempt request claim _ _ running phase _ _ _ _ slotGrant =>
    obtain ⟨_, _, hbuilt⟩ := (inv.attempts id attempt running).built phase
    have hnow : request.base.now.Whole := by
      rw [hbuilt.base_eq]
      exact whole.prepared id attempt running
    generalize claim.recovered = recovered at slotGrant
    cases slotGrant with
    | acquired => exact ⟨hnow, nofun⟩
    | recovered record _ _ =>
      exact { whole.records recordKey record hbefore with claimedAt := hnow }
  | completed id action attempt claim result completedAt row record running phase _ _ _ =>
    refine ⟨(whole.records recordKey record hbefore).claimedAt, ?_⟩
    rintro _ ⟨⟩
    exact whole.stamped id attempt claim result completedAt running phase

theorem attempts_step (whole : WholeInv s) (inv : Inv service s)
    (hstep : SystemStep service s e s') (instants : WholeInstants e) {id : ℕ} {attempt' : Attempt}
    (running' : s'.attempts id = some attempt') :
    attempt'.preparedAt.Whole ∧
      (∀ claim, attempt'.phase.Marks claim → claim.payment.WholeTimes) ∧
      ∀ claim result completedAt, attempt'.phase = .persisting claim result completedAt →
        completedAt.Whole := by
  rcases hstep.attempt_cases running' with hkept | ⟨command, _, _, rfl⟩ |
    ⟨action, attempt, effect, rfl, running, rule, rfl, rfl⟩
  · exact ⟨whole.prepared id attempt' hkept, fun claim => whole.marked id attempt' claim hkept,
      fun claim result completedAt => whole.stamped id attempt' claim result completedAt hkept⟩
  · refine ⟨whole.clock, ?_, fun _ _ _ h => by cases h⟩
    rintro claim ⟨_, h | ⟨_, h⟩⟩ <;> cases h
  · refine ⟨?_, ?_, ?_⟩
    · cases rule with
      | prepared => exact whole.clock
      | _ => exact whole.prepared id attempt running
    · intro claim hmarks
      rcases rule.of_marks hmarks with hmarks | ⟨claimed, answer, kind, rfl, phase, _, hmark⟩
      · exact whole.marked id attempt claim running hmarks
      · have hfor := (inv.attempts id attempt running).claimFor_of_waits phase
        apply hmark.wholeTimes (whole.written _ hfor.wrote) whole.clock
        rintro result rfl
        exact instants
    · intro claim result completedAt hpersisting
      cases rule with
      | stamped =>
        cases hpersisting
        exact whole.clock
      | _ => cases hpersisting

theorem step (whole : WholeInv s) (inv : Inv service s) (hstep : SystemStep service s e s')
    (instants : WholeInstants e) : WholeInv s' where
  clock := whole.clock_step hstep instants
  written _ hwrote := whole.written_step inv hstep hwrote
  records _ _ h := whole.records_step inv hstep h
  prepared _ _ running := (whole.attempts_step inv hstep instants running).1
  marked _ _ claim running := (whole.attempts_step inv hstep instants running).2.1 claim
  stamped _ _ claim result completedAt running :=
    (whole.attempts_step inv hstep instants running).2.2 claim result completedAt

theorem initial {clock : Time} (h : clock.Whole) : WholeInv (State.initial clock) where
  clock := h
  written p hwrote := by
    obtain ⟨version, hmem, -⟩ := hwrote
    cases hmem
  records _ _ h := by cases h
  prepared _ _ h := by cases h
  marked _ _ _ h := by cases h
  stamped _ _ _ _ _ h := by cases h

/-- Columns lose nothing of tables whose instants are whole. -/
theorem stored_eq (whole : WholeInv s) (sound : s.db.Sound) : s.db.stored = s.db := by
  have hpayments : ∀ id, (s.db.payments id).map PaymentRow.stored = s.db.payments id := by
    intro id
    rw [sound.payments_eq]
    cases hcurrent : s.db.current id with
    | none => rfl
    | some p =>
      have hwhole := whole.written p (sound.wrote_of_current hcurrent)
      exact congrArg some hwhole.stored_rowOf
  have hrecords : ∀ recordKey,
      (s.db.records recordKey).map IdempotencyRecord.stored = s.db.records recordKey := by
    intro recordKey
    cases hslot : s.db.records recordKey with
    | none => rfl
    | some record => exact congrArg some (whole.records recordKey record hslot).stored_eq
  rw [Db.stored, funext hpayments, funext hrecords]

end WholeInv

/-- A step over columns is a step over exact storage. -/
theorem WholeInv.step_of_stored (whole : WholeInv s) (inv : Inv service s)
    (instants : WholeInstants e) (taken : storedStep service s e = some s') :
    PaymentGateway.step service s e = some s' := by
  obtain ⟨after, htaken, rfl⟩ := Option.map_eq_some_iff.mp taken
  have hwhole := whole.step inv (step_cases htaken) instants
  have hsame : ({ after with db := after.db.stored } : State) = after := by
    rw [hwhole.stored_eq (inv.step (step_cases htaken)).sound]
  rw [hsame]
  exact htaken

/-- **A run over columns is a run over exact storage**, as long as every instant that enters it
is whole. -/
theorem reaches_of_stored {guard : State → Event → Prop} {clock : Time} (start : clock.Whole)
    (instants : ∀ s e, guard s e → WholeInstants e)
    (run : Reaches (storedStep service) guard (State.initial clock) s) :
    Reaches (step service) guard (State.initial clock) s ∧ WholeInv s := by
  induction run with
  | refl => exact ⟨.refl, .initial start⟩
  | @tail s e s' _ allowed taken ih =>
    obtain ⟨hreaches, hwhole⟩ := ih
    have hinv : Inv service s := inv_of_reaches hreaches
    have htaken := hwhole.step_of_stored hinv (instants s e allowed) taken
    exact ⟨hreaches.tail e allowed htaken,
      hwhole.step hinv (step_cases htaken) (instants s e allowed)⟩

/-! ## Reading back -/

/-- Both queries return a result for its payment, the second wherever it finds the payment. -/
structure Db.ReadsBack (db : Db) (result : PaymentResult) : Prop where
  get : db.getPayment result.id = .ok result
  search : ∀ query results, db.searchPayments query = .ok results → ∀ entry ∈ results,
    entry.id = result.id → entry = result

/-- A stored payment is read back. -/
theorem Db.Sound.readsBack {db : Db} {id : GoString} (sound : db.Sound)
    (current : db.current id = some p) : db.ReadsBack (newPaymentResult p) := by
  have hid : (newPaymentResult p).id = id := sound.id_of_current current
  constructor
  · rw [hid]
    exact Db.getPayment_eq_ok.mpr ⟨p, sound.findPaymentByID_eq_ok.mpr current, rfl⟩
  · intro query results hsearch entry hentry hsame
    obtain ⟨id', row, q, hrow, hscan, rfl⟩ := Db.exists_row_of_searchPayments hsearch hentry
    obtain ⟨q', hcurrent', rfl⟩ := sound.exists_current_of_row hrow
    -- The row found is read as the payment it was written from, which is the one asked for.
    have hload : scanPayment (rowOf q') = .ok q' :=
      loadRow_rowOf (sound.wellFormed_of_current hcurrent')
    rw [hload, Except.ok.injEq] at hscan
    subst hscan
    have hid' : id' = id :=
      (sound.id_of_current hcurrent').symm.trans (hsame.trans hid)
    rw [hid', current, Option.some_inj] at hcurrent'
    rw [hcurrent']

/-- An attempt returns a result with a step. -/
structure Returns (s s' : State) (id : ℕ) (result : PaymentCommandResult) : Prop where
  after : ∃ attempt, s'.attempts id = some attempt ∧ attempt.phase = .returned (.ok result)
  before : ∀ attempt, s.attempts id = some attempt → attempt.phase ≠ .returned (.ok result)

/-- A result is returned when the payment it was made from is stored, or from a record. -/
theorem Returns.cases {id : ℕ} {result : PaymentCommandResult} (h : Returns s s' id result)
    (inv : Inv service s) (hstep : SystemStep service s e s') :
    (∃ p, s'.db.current p.id = some p ∧ newPaymentResult p = result.payment) ∨
      ∃ attempt request, e = .act id .claim ∧ s.attempts id = some attempt ∧
        attempt.phase = .claiming request ∧ s.db.Replays request.base result ∧
        result.failureKind = none ∧ s'.db = s.db := by
  obtain ⟨⟨attempt', running', phase'⟩, hbefore⟩ := h
  rcases hstep.attempt_cases running' with hkept | ⟨command, _, _, rfl⟩ |
    ⟨action, attempt, effect, rfl, running, rule, rfl, rfl⟩
  · exact absurd phase' (hbefore attempt' hkept)
  · cases phase'
  · cases rule with
    | replayed request result' phase _ replay =>
      have houtcome : replayPaymentCommand result' = .ok result := Phase.returned.inj phase'
      unfold replayPaymentCommand at houtcome
      split at houtcome
      · next hkind =>
        cases houtcome
        exact .inr ⟨attempt, request, rfl, running, phase, replay, hkind, rfl⟩
      · cases houtcome
    | completed claim result' completedAt row record db' phase completion =>
      have houtcome : completedOutcome result' = .ok result := Phase.returned.inj phase'
      unfold completedOutcome at houtcome
      split at houtcome
      · cases houtcome
        have hfor := (inv.attempts id attempt running).markedFor phase
        have hstores := completion.stores inv.sound hfor
        obtain ⟨_, _, _, _, _, _, rfl⟩ := hfor
        exact .inl ⟨claim.payment, hstores.current_self, rfl⟩
      · cases houtcome
    | _ => cases phase'

/-! ## Rows that stay as they are -/

/-- A step does not change the row of a payment. -/
def KeepsRow (service : PaymentService) (id : GoString) (s : State) (e : Event) : Prop :=
  ∀ s', storedStep service s e = some s' → s'.db.payments id = s.db.payments id

/-- A step does not change the record of an operation and key. -/
def KeepsRecord (service : PaymentService) (recordKey : Operation × GoString) (s : State)
    (e : Event) : Prop :=
  ∀ s', storedStep service s e = some s' → s'.db.records recordKey = s.db.records recordKey

/-- The record of an operation and key was completed in a run with whole instants, and since then
no step has changed the record or the row of a payment. -/
def UnchangedSinceCompletion (service : PaymentService) (recordKey : Operation × GoString)
    (id : GoString) (s : State) : Prop :=
  ∃ clock s₀ e s₁, Time.Whole clock ∧
    Reaches (storedStep service) (fun _ e => WholeInstants e) (State.initial clock) s₀ ∧
    WholeInstants e ∧ storedStep service s₀ e = some s₁ ∧ CompletesRecord s₀ s₁ recordKey ∧
    Reaches (storedStep service) (fun s e => WholeInstants e ∧ KeepsRecord service recordKey s e ∧
      KeepsRow service id s e) s₁ s

/-- A request is answered with a stored result only if no step has changed the row of its payment
since the completion that stored the result. -/
def FreshReplay (service : PaymentService) (s : State) : Event → Prop
  | .act id .claim => ∀ attempt request result, s.attempts id = some attempt →
      attempt.phase = .claiming request → s.db.Replays request.base result →
      result.failureKind = none →
      UnchangedSinceCompletion service request.base.recordKey result.payment.id s
  | _ => True

/-- The conditions on a run: whole instants, and no stored result that the row has left behind. -/
def LosesNothing (service : PaymentService) (s : State) (e : Event) : Prop :=
  WholeInstants e ∧ FreshReplay service s e

theorem payments_of_keepsRow {guard : State → Event → Prop} {id : GoString}
    (run : Reaches (storedStep service) guard s t)
    (keeps : ∀ s e, guard s e → KeepsRow service id s e) :
    t.db.payments id = s.db.payments id := by
  induction run with
  | refl => rfl
  | tail e _ allowed taken ih => exact (keeps _ _ allowed _ taken).trans ih

theorem records_of_keepsRecord {guard : State → Event → Prop} {recordKey : Operation × GoString}
    (run : Reaches (storedStep service) guard s t)
    (keeps : ∀ s e, guard s e → KeepsRecord service recordKey s e) :
    t.db.records recordKey = s.db.records recordKey := by
  induction run with
  | refl => rfl
  | tail e _ allowed taken ih => exact (keeps _ _ allowed _ taken).trans ih

/-- A row that stays as it is stays the row of its payment. -/
theorem Db.Sound.current_of_row {db db' : Db} (sound : db.Sound) (sound' : db'.Sound)
    (current : db.current p.id = some p) (row : db'.payments p.id = db.payments p.id) :
    db'.current p.id = some p := by
  rw [sound.payments_eq, current, Option.map_some] at row
  obtain ⟨q, hq, hsame⟩ := sound'.exists_current_of_row row
  obtain rfl := rowOf_inj (sound'.wellFormed_of_current hq) (sound.wellFormed_of_current current)
    hsame
  exact hq

/-- A completion stores the payment that it keeps the result of. -/
theorem SystemStep.current_of_completes {recordKey : Operation × GoString}
    (hstep : SystemStep service s e s') (inv : Inv service s)
    (completes : CompletesRecord s s' recordKey) :
    ∃ record p, s'.db.records recordKey = some record ∧
      record.paymentResult = some (newPaymentResult p) ∧ s'.db.current p.id = some p := by
  obtain ⟨before, after, hbefore, hopen, hafter, hdone⟩ := completes
  have hrecord := hstep.recordStep inv recordKey
  rw [hbefore, hafter] at hrecord
  cases hrecord with
  | kept => exact absurd (hopen.symm.trans hdone) nofun
  | granted _ _ _ _ _ _ _ _ _ _ _ _ _ slotGrant =>
    exact absurd (slotGrant.inProgress.symm.trans hdone) nofun
  | completed id action attempt claim result completedAt row record running phase completion =>
    have hfor := (inv.attempts id attempt running).markedFor phase
    have hstores := completion.stores inv.sound hfor
    obtain ⟨_, _, _, _, _, _, rfl⟩ := hfor
    exact ⟨_, claim.payment, hafter, rfl, hstores.current_self⟩

/-- What a record keeps is in the row, if neither has changed since the record was completed. -/
theorem UnchangedSinceCompletion.current {recordKey : Operation × GoString}
    {record : IdempotencyRecord} {snapshot : PaymentResult} (inv : Inv service s)
    (h : UnchangedSinceCompletion service recordKey snapshot.id s)
    (slot : s.db.records recordKey = some record)
    (kept : record.paymentResult = some snapshot) :
    ∃ p, s.db.current p.id = some p ∧ newPaymentResult p = snapshot := by
  obtain ⟨clock, s₀, e, s₁, hclock, hrun, hinstants, htaken, hcompletes, hlater⟩ := h
  obtain ⟨hreaches, hwhole⟩ := reaches_of_stored hclock (fun _ _ h => h) hrun
  have hinv₀ : Inv service s₀ := inv_of_reaches hreaches
  have hstep := step_cases (hwhole.step_of_stored hinv₀ hinstants htaken)
  obtain ⟨record₁, p, hslot₁, hresult, hcurrent⟩ := hstep.current_of_completes hinv₀ hcompletes
  -- The record is the one that was completed, so its snapshot is of that payment.
  have hrecord := records_of_keepsRecord hlater fun _ _ h => h.2.1
  rw [slot, hslot₁, Option.some_inj] at hrecord
  subst hrecord
  rw [kept, Option.some_inj] at hresult
  have hrow := payments_of_keepsRow hlater fun _ _ h => h.2.2
  rw [show snapshot.id = p.id from hresult ▸ rfl] at hrow
  exact ⟨p, (hinv₀.step hstep).sound.current_of_row inv.sound hcurrent hrow, hresult.symm⟩

/-- **Read your writes.** In a run whose instants are whole microseconds and whose replays are
fresh, once a command has returned a result, and for as long as no step changes the row of its
payment, both queries return that result. -/
theorem read_your_writes (service : PaymentService) (clock : Time) (start : clock.Whole)
    (s s' t : State) (e : Event) (id : ℕ) (result : PaymentCommandResult)
    (run : Reaches (storedStep service) (LosesNothing service) (State.initial clock) s)
    (allowed : LosesNothing service s e) (taken : storedStep service s e = some s')
    (returns : Returns s s' id result)
    (later : Reaches (storedStep service)
      (fun s e => LosesNothing service s e ∧ KeepsRow service result.payment.id s e) s' t) :
    t.db.ReadsBack result.payment := by
  have hrun' := run.tail e allowed taken
  have hrun : Reaches (storedStep service) (LosesNothing service) (State.initial clock) t :=
    hrun'.trans (later.mono fun _ _ h => h.1)
  obtain ⟨hreaches, hwhole⟩ := reaches_of_stored start (fun _ _ h => h.1) run
  obtain ⟨hreaches', -⟩ := reaches_of_stored start (fun _ _ h => h.1) hrun'
  obtain ⟨hreachesT, -⟩ := reaches_of_stored start (fun _ _ h => h.1) hrun
  have hinv : Inv service s := inv_of_reaches hreaches
  have hinv' : Inv service s' := inv_of_reaches hreaches'
  have hinvT : Inv service t := inv_of_reaches hreachesT
  have hstep := step_cases (hwhole.step_of_stored hinv allowed.1 taken)
  -- When the command returns, the row holds the payment that its result was made from.
  have hcurrent : ∃ p, s'.db.current p.id = some p ∧ newPaymentResult p = result.payment := by
    rcases returns.cases hinv hstep with hstored |
      ⟨attempt, request, rfl, running, phase, replay, hkind, hdb⟩
    · exact hstored
    · have hfresh := allowed.2 attempt request result running phase replay hkind
      obtain ⟨record, hslot, -, -, hresult⟩ := replay
      rw [hdb]
      exact hfresh.current hinv hslot (paymentResult_of_storedResult hresult)
  obtain ⟨p, hp, hresult⟩ := hcurrent
  -- From there on the row is kept, and a row determines its payment.
  have hrow := payments_of_keepsRow later fun _ _ h => h.2
  rw [show result.payment.id = p.id from hresult ▸ rfl] at hrow
  exact hresult ▸ hinvT.sound.readsBack (hinv'.sound.current_of_row hinvT.sound hp hrow)

/-- A check for runs without replays. -/
def losesNothingCheck (s : State) : Event → Bool
  | .tick clock => clock.Whole
  | .act _ (.answer (.authorization result)) => result.authorizationExpiresAt.Whole
  | .act id .claim => (s.attempts id).all fun attempt => match attempt.phase with
      | .claiming request => (s.db.records request.base.recordKey).isNone
      | _ => true
  | _ => true

theorem losesNothing_of_check (s : State) (e : Event) (h : losesNothingCheck s e = true) :
    LosesNothing Sample.service s e := by
  cases e with
  | tick clock =>
    have hwhole : clock.Whole := of_decide_eq_true h
    exact ⟨hwhole, trivial⟩
  | act id action =>
    cases action with
    | answer answer =>
      cases answer with
      | authorization result =>
        have hwhole : result.authorizationExpiresAt.Whole := of_decide_eq_true h
        exact ⟨hwhole, trivial⟩
      | _ => exact ⟨trivial, trivial⟩
    | claim =>
      refine ⟨trivial, ?_⟩
      rintro attempt request result running phase ⟨record, hslot, -⟩
      simp [losesNothingCheck, running, phase, hslot] at h
    | _ => exact ⟨trivial, trivial⟩
  | _ => exact ⟨trivial, trivial⟩

/-- An attempt returns a result with a step. -/
def Sample.returnsNow (s : State) (id : ℕ) (action : Action) : Bool :=
  (s.attempts id).any (fun attempt => !attempt.phase.isReturned) &&
  (storedStep Sample.service s (.act id action)).any fun s' =>
    (s'.attempts id).any fun attempt => match attempt.phase with
      | .returned (.ok _) => true
      | _ => false

theorem Sample.returns_of_returnsNow {s : State} {id : ℕ} {action : Action}
    (h : Sample.returnsNow s id action = true) :
    ∃ s' result, storedStep Sample.service s (.act id action) = some s' ∧
      Returns s s' id result := by
  simp only [Sample.returnsNow, Bool.and_eq_true, Option.any_eq_true] at h
  obtain ⟨⟨before, hbefore, hrunning⟩, s', htaken, after, hafter, hphase⟩ := h
  split at hphase
  · next result hreturned =>
    refine ⟨s', result, htaken, ⟨after, hafter, hreturned⟩, ?_⟩
    intro attempt hattempt hphase'
    rw [hbefore, Option.some_inj] at hattempt
    subst hattempt
    rw [hphase'] at hrunning
    cases hrunning
  · cases hphase

namespace Sample

/-- The record and the payment of the sample authorization. -/
def authorizationRecord : Operation × GoString := (.authorizePayment, ascii "k0")

/-- A step without a replay that changes neither of them. -/
def keepsCheck (s : State) (e : Event) : Bool :=
  losesNothingCheck s e && (storedStep Sample.service s e).all fun s' =>
    s'.db.records authorizationRecord = s.db.records authorizationRecord &&
      s'.db.payments paymentID = s.db.payments paymentID

theorem keeps_of_check (s : State) (e : Event) (h : keepsCheck s e = true) :
    LosesNothing Sample.service s e ∧ KeepsRecord Sample.service authorizationRecord s e ∧
      KeepsRow Sample.service paymentID s e := by
  rw [keepsCheck, Bool.and_eq_true] at h
  refine ⟨losesNothing_of_check s e h.1, fun s' taken => ?_, fun s' taken => ?_⟩
  all_goals
    have hkeeps := h.2
    rw [taken, Option.all_some, Bool.and_eq_true, decide_eq_true_eq, decide_eq_true_eq] at hkeeps
  · exact hkeeps.1
  · exact hkeeps.2

/-- An attempt claims the record, which keeps a result of the payment. -/
def claimsRecord (s : State) : Bool :=
  (s.attempts 1).all (fun attempt => match attempt.phase with
    | .claiming request => request.base.recordKey = authorizationRecord
    | _ => true) &&
  (s.db.records authorizationRecord).all fun record =>
    record.paymentResult.all fun snapshot => snapshot.id = paymentID

theorem freshReplay_of_claimsRecord {s : State} (h : claimsRecord s = true)
    (unchanged : UnchangedSinceCompletion Sample.service authorizationRecord paymentID s) :
    FreshReplay Sample.service s (.act 1 .claim) := by
  rintro attempt request result running phase ⟨record, hslot, -, -, hresult⟩ -
  simp only [claimsRecord, Bool.and_eq_true, running, Option.all_some, phase,
    decide_eq_true_eq] at h
  obtain ⟨hkey, hsnapshot⟩ := h
  rw [hkey] at hslot ⊢
  rw [hslot, Option.all_some, paymentResult_of_storedResult hresult, Option.all_some,
    decide_eq_true_eq] at hsnapshot
  rwa [hsnapshot]

end Sample

/-- An authorization at a whole instant, and the same request again. Both return the result that
is read back. -/
theorem read_your_writes_replayed :
    ∃ s s' result,
      Reaches (storedStep Sample.service) (LosesNothing Sample.service) (State.initial 1000) s ∧
      storedStep Sample.service s (.act 1 .claim) = some s' ∧ Returns s s' 1 result ∧
      s'.db.ReadsBack result.payment := by
  let command := Sample.authorize (ascii "k0") (by decide)
  obtain ⟨s₀, hrun₀, hproperty⟩ := exists_reaches_of_execWhere losesNothing_of_check
    (Sample.call 0 command ++
      [.act 0 (.answer (.authorization ⟨ascii "auth-1", 5000, []⟩)), .act 0 .stamp])
    (show (execWhere (storedStep Sample.service) _ (State.initial 1000) _).any (fun s₀ =>
      (s₀.db.records Sample.authorizationRecord).any (·.status = .inProgress) &&
        (storedStep Sample.service s₀ (.act 0 .complete)).any fun s₁ =>
          (s₁.db.records Sample.authorizationRecord).any (·.status = .completed) &&
            (execWhere (storedStep Sample.service) Sample.keepsCheck s₁
              ((Sample.call 1 command).take 2)).any fun s =>
                Sample.claimsRecord s && Sample.returnsNow s 1 .claim) = true by decide +kernel)
  simp only [Option.any_eq_true, Bool.and_eq_true, decide_eq_true_eq] at hproperty
  obtain ⟨⟨record, hopen, hstatus⟩, s₁, htaken, ⟨record', hclosed, hstatus'⟩, s, hexec, hclaims,
    hreturns⟩ := hproperty
  have hlater := reaches_of_execWhere Sample.keeps_of_check hexec
  obtain ⟨s', result, htaken', hreturns⟩ := Sample.returns_of_returnsNow hreturns
  have hcompletes : LosesNothing Sample.service s₀ (.act 0 .complete) := ⟨trivial, trivial⟩
  have hrun := (hrun₀.tail _ hcompletes htaken).trans (hlater.mono fun _ _ h => h.1)
  have hfresh : FreshReplay Sample.service s (.act 1 .claim) :=
    Sample.freshReplay_of_claimsRecord hclaims ⟨1000, s₀, .act 0 .complete, s₁, by decide,
      hrun₀.mono fun _ _ h => h.1, trivial, htaken,
      ⟨record, record', hopen, hstatus, hclosed, hstatus'⟩,
      hlater.mono fun _ _ h => ⟨h.1.1, h.2⟩⟩
  exact ⟨s, s', result, hrun, htaken', hreturns, read_your_writes Sample.service 1000 (by decide)
    s s' s' (.act 1 .claim) 1 result hrun ⟨trivial, hfresh⟩ htaken' hreturns .refl⟩

/-- An authorization in the middle of a microsecond. The client is told that the payment was
created at one instant, and right afterwards a query says it was at another. -/
theorem created_at_not_read_back :
    ∃ s s' result got, Reaches (storedStep Sample.service) (fun _ e => e.failureFree = true)
        (State.initial 63904069805123456789) s ∧
      storedStep Sample.service s (.act 0 .complete) = some s' ∧ Returns s s' 0 result ∧
      s'.db.getPayment result.payment.id = .ok got ∧
      (newPaymentEnvelope result.payment).createdAt = ascii "2026-01-15T10:30:05.123456789Z" ∧
      (newPaymentEnvelope got).createdAt = ascii "2026-01-15T10:30:05.123456Z" := by
  obtain ⟨s, hrun, hproperty⟩ := exists_reaches_of_execWhere (fun _ _ h => h)
    (Sample.call 0 (Sample.authorize (ascii "k0") (by decide)) ++
      [.act 0 (.answer (.authorization ⟨ascii "auth-1", 63904073405000000000, []⟩)),
        .act 0 .stamp])
    (show (execWhere (storedStep Sample.service) (fun _ e => e.failureFree)
      (State.initial 63904069805123456789) _).any (fun s => Sample.returnsNow s 0 .complete &&
        (storedStep Sample.service s (.act 0 .complete)).all fun s' =>
          (s'.attempts 0).all fun attempt => match attempt.phase with
            | .returned (.ok result) =>
              (newPaymentEnvelope result.payment).createdAt ==
                ascii "2026-01-15T10:30:05.123456789Z" &&
              match s'.db.getPayment result.payment.id with
              | .ok got => (newPaymentEnvelope got).createdAt == ascii "2026-01-15T10:30:05.123456Z"
              | .error _ => false
            | _ => true) = true by decide +kernel)
  rw [Bool.and_eq_true] at hproperty
  obtain ⟨s', result, htaken, hreturns⟩ := Sample.returns_of_returnsNow hproperty.1
  obtain ⟨attempt, hattempt, hphase⟩ := hreturns.after
  have hread := hproperty.2
  simp only [htaken, Option.all_some, hattempt, hphase, Bool.and_eq_true, beq_iff_eq] at hread
  obtain ⟨hreturned, hgot⟩ := hread
  split at hgot
  · next got hget =>
    exact ⟨s, s', result, got, hrun, htaken, hreturns, hget, hreturned, beq_iff_eq.mp hgot⟩
  · cases hgot

end PaymentGateway
