/-
# Expired holds

A capture reads the time after it has locked the row of its hold. Once the bank has
refused a capture because the hold had expired, a capture that had the lock before is
over, and one that gets it later reads a later time. So the hold is never captured. It
may still be voided, since a void does not look at the time.
-/

import PaymentGateway.MockBank.Answers
import PaymentGateway.MockBank.Refinement

namespace PaymentGateway.MockBank

open Lib

variable {bank : Bank} {start db db' : Db} {s s' : BankSessions} {clock : Time} {id : UUID}
  {amount : ℤ} {hold t : Transaction} {request : ServiceRequest}

/-! ## What a capture reads -/

/-- However its calls are answered, a script does not end with an expired hold. -/
def NeverExpires : BankScript → Prop
  | .done result => ∀ message, result ≠ .error (.service .authExpired message)
  | .call _ next => ∀ reply, NeverExpires (next reply)

theorem neverExpires_recordCapture (t : Transaction) : NeverExpires (recordCapture t) := by
  intro captureID capturedAt created
  rcases created with (_ | _) | _
  · exact fun _ => by simp
  · exact fun _ => by simp
  · rintro (_ | _)
    · exact fun _ => by simp
    · rintro (_ | _) <;> exact fun _ => by simp

theorem neverExpires_performVoid (authorizationID : UUID) :
    NeverExpires (performVoid authorizationID) := by
  have record : ∀ hold, NeverExpires (recordVoid hold) := by
    intro hold voidID voidedAt created
    rcases created with (_ | _) | _
    · exact fun _ => by simp
    · exact fun _ => by simp
    · rintro (_ | _)
      · exact fun _ => by simp
      · rintro (_ | _) <;> exact fun _ => by simp
  simp only [performVoid, Script.ask_bind]
  rintro (_ | hold)
  · exact fun _ => by simp
  · dsimp only
    split
    · exact fun _ => by simp
    · split
      · exact fun _ => by simp
      · rintro (_ | _ | _)
        · exact fun _ => by simp
        · exact record hold
        · exact fun _ => by simp

theorem NeverExpires.foldl {conf : Conf Db Lock Call Reply Result} (h : NeverExpires conf.script)
    (envs : List Env) : NeverExpires (envs.foldl (Conf.advance backend db) conf).script := by
  induction envs generalizing conf with
  | nil => exact h
  | cons env envs ih =>
    refine ih ?_
    cases hscript : conf.script with
    | done a => rwa [Conf.advance_of_done hscript]
    | call c next =>
      rw [Conf.advance_of_call hscript]
      rw [hscript] at h
      exact h _

theorem held_subset_foldl (conf : Conf Db Lock Call Reply Result) (envs : List Env) :
    conf.held ⊆ (envs.foldl (Conf.advance backend db) conf).held := by
  induction envs generalizing conf with
  | nil => exact List.Subset.refl _
  | cons env envs ih => exact fun l hl => ih _ (Conf.held_subset_advance backend db conf env hl)

/-- A script that has failed stays where it is. -/
theorem fails_foldl {conf : Conf Db Lock Call Reply Result} {failure : ServiceFailure}
    (h : conf.script = .done (.error failure)) (envs : List Env) :
    (envs.foldl (Conf.advance backend db) conf).script.Fails commits := by
  rw [Conf.foldl_advance_of_done h, h]
  rfl

/-- What a capture makes of its hold: it is refused, but not as expired, or it has found the
hold active, and has locked it. -/
theorem advance_performCapture (db : Db) (id : UUID) (amount : ℤ) (env : Env) :
    (∃ failure, ((Conf.start (performCapture id amount)).advance backend db env).script =
      .done (.error failure) ∧ ∀ message, failure ≠ .service .authExpired message) ∨
    ∃ hold, db.transaction? id = some hold ∧ hold.type = .authHold ∧ hold.status = .active ∧
      (Conf.start (performCapture id amount)).advance backend db env =
        ⟨captureActive hold amount, fun x => x, [.transaction id]⟩ := by
  cases hfailure : env.failure with
  | some text =>
    refine .inl ⟨.service .authNotFound (ascii "authorization not found"), ?_, by simp⟩
    rw [Conf.advance_of_call rfl]
    simp only [backend, exec, hfailure]
    rfl
  | none =>
    cases hfound : db.transaction? id with
    | none =>
      refine .inl ⟨.service .authNotFound (ascii "authorization not found"), ?_, by simp⟩
      rw [Conf.advance_of_call rfl]
      simp only [backend, Conf.start, id_eq, exec, hfailure, Db.findByIDForUpdate, hfound]
      rfl
    | some hold =>
      have hneeds : needs (.findByIDForUpdate id) env db = [.transaction id] := by
        simp [needs, hfailure, Call.locks, hfound]
      have hfirst : (Conf.start (performCapture id amount)).advance backend db env =
          ⟨if hold.type ≠ .authHold then refuse .authNotFound "authorization not found"
            else if hold.status ≠ .active then
              refuse .authAlreadyUsed "authorization has already been completed or cancelled"
            else captureActive hold amount, fun x => x, [.transaction id]⟩ := by
        rw [Conf.advance_of_call rfl]
        simp only [backend, Conf.start, id_eq, exec, hfailure, Db.findByIDForUpdate, hfound, hneeds]
        rfl
      rw [hfirst]
      by_cases htype : hold.type ≠ .authHold
      · rw [if_pos htype]
        exact .inl ⟨_, rfl, by simp⟩
      · by_cases hstatus : hold.status ≠ .active
        · rw [if_neg htype, if_pos hstatus]
          exact .inl ⟨_, rfl, by simp⟩
        · rw [if_neg htype, if_neg hstatus]
          exact .inr ⟨hold, rfl, not_not.mp htype, not_not.mp hstatus, rfl⟩

/-- A capture that goes on after its first call has found its hold active and locked it. -/
theorem replay_capture {env : Env} {rest : List Env}
    (live : ¬ (replay backend db (performCapture id amount) (env :: rest)).script.Fails commits) :
    ∃ hold, db.transaction? id = some hold ∧ hold.type = .authHold ∧ hold.status = .active ∧
      replay backend db (performCapture id amount) (env :: rest) =
        rest.foldl (Conf.advance backend db) ⟨captureActive hold amount, fun x => x,
          [.transaction id]⟩ := by
  rw [replay, List.foldl_cons] at live ⊢
  obtain ⟨failure, hfailed, -⟩ | ⟨hold, hfound, htype, hactive, hconf⟩ :=
    advance_performCapture db id amount env
  · exact absurd (fails_foldl hfailed rest) live
  · exact ⟨hold, hfound, htype, hactive, by rw [hconf]⟩

/-- Before it has read the time, a capture of an active hold only ends over the amount. -/
theorem mismatch_of_captureActive {result : Result} (h : captureActive hold amount = .done result) :
    ∃ text, result = .error (.service .amountMismatch text) := by
  unfold captureActive at h
  split at h
  · cases h
  · split at h
    · cases h
      exact ⟨_, rfl⟩
    · cases h

theorem advance_of_expired {conf : Conf Db Lock Call Reply Result} {env : Env} {expiresAt : Time}
    (script : conf.script = captureActive hold amount) (expires : hold.expiresAt = some expiresAt)
    (late : expiresAt < env.now) :
    (conf.advance backend db env).script = refuse .authExpired "authorization has expired" := by
  rw [captureActive, expires] at script
  rw [Conf.advance_of_call script]
  exact if_pos late

theorem neverExpires_advance {conf : Conf Db Lock Call Reply Result} {env : Env}
    (script : conf.script = captureActive hold amount)
    (early : ∀ expiresAt, hold.expiresAt = some expiresAt → ¬ expiresAt < env.now) :
    NeverExpires (conf.advance backend db env).script := by
  have record : NeverExpires (if amount ≠ hold.amountCents then
      refuse .amountMismatch "capture amount does not match authorized amount"
      else recordCapture hold) := by
    split
    · exact fun _ => by simp
    · exact neverExpires_recordCapture hold
  cases hexpires : hold.expiresAt with
  | none =>
    rw [captureActive, hexpires] at script
    have hconf : NeverExpires conf.script := script ▸ record
    exact hconf.foldl [env]
  | some expiresAt =>
    rw [captureActive, hexpires] at script
    rw [Conf.advance_of_call script]
    have hrest : ∀ rest : BankScript, NeverExpires rest → NeverExpires
        (if expiresAt < env.now then refuse .authExpired "authorization has expired"
          else rest) := by
      intro rest h
      rwa [if_neg (early expiresAt hexpires)]
    exact hrest _ record

/-- A capture is not granted before it has read the time. -/
theorem two_le_of_granted {envs : List Env}
    (ended : (replay backend db (performCapture id amount) envs).script = .done (.ok t)) :
    2 ≤ envs.length := by
  rcases envs with _ | ⟨first, _ | ⟨second, rest⟩⟩
  · cases ended
  · have hlive : ¬ (replay backend db (performCapture id amount) [first]).script.Fails commits := by
      rw [ended]
      exact Bool.true_eq_false.mp
    obtain ⟨hold, -, -, -, hconf⟩ := replay_capture hlive
    rw [hconf] at ended
    obtain ⟨text, htext⟩ := mismatch_of_captureActive ended
    cases htext
  · simp

/-- A capture of a hold has read the time and goes on. -/
structure Passed (id : UUID) (session : Session Db Env Lock Call Reply Result) : Prop where
  start : ∃ amount, session.start = performCapture id amount
  reads : 2 ≤ session.envs.length
  live : ¬ session.conf.script.Fails commits

theorem Passed.locked {session : Session Db Env Lock Call Reply Result} (h : Passed id session)
    (replays : session.conf = replay backend db session.start session.envs) :
    .transaction id ∈ session.conf.held ∧ NeverExpires session.conf.script := by
  obtain ⟨⟨amount, hstart⟩, hreads, hlive⟩ := h
  rcases henvs : session.envs with _ | ⟨first, _ | ⟨second, rest⟩⟩
  · simp [henvs] at hreads
  · simp [henvs] at hreads
  rw [hstart, henvs] at replays
  rw [replays] at hlive ⊢
  obtain ⟨hold, -, -, -, hconf⟩ := replay_capture hlive
  rw [hconf] at hlive ⊢
  refine ⟨held_subset_foldl _ _ (List.mem_singleton_self _), ?_⟩
  refine NeverExpires.foldl (neverExpires_advance rfl fun expiresAt hexpires late => ?_) rest
  exact hlive (fails_foldl (advance_of_expired rfl hexpires late) rest)

/-! ## Holds that were found expired -/

/-- A hold has expired, it is not captured, and no capture of it goes on. -/
structure Lapsed (s : BankSessions) (clock : Time) (id : UUID) : Prop where
  expired : ∃ hold expiresAt, s.db.transaction? id = some hold ∧
    hold.expiresAt = some expiresAt ∧ expiresAt < clock
  uncaptured : s.db.settlement? (id, .capture) = none
  behind : ∀ i session, s.session i = some session → ¬ Passed id session

theorem Lapsed.tick {later : Time} (h : Lapsed s clock id) (le : clock ≤ later) :
    Lapsed s later id := by
  obtain ⟨⟨hold, expiresAt, hfound, hexpires, hlate⟩, huncaptured, hbehind⟩ := h
  exact ⟨⟨hold, expiresAt, hfound, hexpires, hlate.trans_le le⟩, huncaptured, hbehind⟩

/-- Rows keep their expiry. -/
theorem Bank.Posts.expiresAt_eq (posts : bank.Posts db request t db')
    (found : db.transaction? id = some hold) :
    ∃ hold', db'.transaction? id = some hold' ∧ hold'.expiresAt = hold.expiresAt := by
  have hinsert : ∀ {new : Transaction}, db.create new = .ok () →
      (db.insert new).transaction? id = some hold := by
    intro new created
    rw [Db.transaction?_insert, if_neg, found]
    rintro rfl
    cases (Db.create_eq_ok created).1.symm.trans found
  have hcomplete : ∀ {new : Transaction} {other : UUID}, db.create new = .ok () →
      ((db.insert new).setStatus other .completed).transaction? id =
        some (hold.withStatus other .completed) := by
    intro new other created
    rw [Db.transaction?_setStatus, hinsert created, Option.map_some]
  cases posts with
  | authorize _ _ _ _ created | refund _ _ _ created => exact ⟨hold, hinsert created, rfl⟩
  | capture _ _ _ created | void _ _ _ _ created =>
    exact ⟨_, hcomplete created, Transaction.withStatus_expiresAt ..⟩

/-- Only a capture of a hold settles it as captured. -/
theorem Bank.Posts.settlement?_eq (posts : bank.Posts db request t db')
    (other : ∀ amount, request ≠ .capture id amount) :
    db'.settlement? (id, .capture) = db.settlement? (id, .capture) := by
  cases posts with
  | authorize =>
    rw [Db.settlement?_adjust, Db.settlement?_insert, if_neg (by simp [Transaction.indexKey,
      Bank.holdRow])]
  | capture found =>
    rw [Db.settlement?_adjust, Db.settlement?_setStatus, Db.settlement?_insert, if_neg]
    intro hkey
    have hid := (Transaction.indexKey_eq hkey).1
    simp only [Transaction.settle, Option.some_inj] at hid
    rw [Db.id_of_transaction? found] at hid
    exact other _ (by rw [hid])
  | void =>
    rw [Db.settlement?_adjust, Db.settlement?_setStatus, Db.settlement?_insert, if_neg]
    intro hkey
    cases (Transaction.indexKey_eq hkey).2.1
  | refund =>
    rw [Db.settlement?_adjust, Db.settlement?_insert, if_neg]
    intro hkey
    cases (Transaction.indexKey_eq hkey).2.1

/-- A hold that was found expired stays so, as long as calls read the clock. -/
theorem Lapsed.step {e : BankEvent} (lapsed : Lapsed s clock id) (h : bank.Reachable start s)
    (timed : ∀ i env, e = .call i env → env.now = clock) (taken : bank.step s e = some s') :
    Lapsed s' clock id := by
  have hinv := h.inv
  have rule := Sessions.step_cases taken
  have hput : ∀ {i moved acquired}, ¬ Passed id moved →
      Lapsed (s.put commits i moved acquired) clock id := by
    intro i moved acquired hmoved
    refine ⟨lapsed.expired, lapsed.uncaptured, fun j session hj => ?_⟩
    rcases eq_or_ne j i with rfl | hne
    · rw [Sessions.put_session_self, Option.some_inj] at hj
      exact hj ▸ hmoved
    · exact lapsed.behind j session ((Sessions.put_session_of_ne hne).symm.trans hj)
  have hdrop : ∀ {i j session}, (s.drop i).session j = some session → ¬ Passed id session :=
    fun hj => lapsed.behind _ _ (Sessions.exists_of_drop hj).1
  generalize hevent : bank.event e = event at rule
  cases rule with
  | start i script idle => exact hput fun passed => absurd passed.reads (by simp)
  | call i env session c next running script free =>
    refine hput fun passed => ?_
    obtain ⟨⟨amount, hstart⟩, hreads, hlive⟩ := passed
    have hbefore : ¬ session.conf.script.Fails commits := by
      rw [script]
      exact not_false
    -- The session has just read the time, since it had not passed before.
    rcases henvs : session.envs with _ | ⟨first, _ | ⟨second, rest⟩⟩
    · simp [henvs] at hreads
    · have hreplay := hinv.replays i session running hbefore
      rw [hstart, henvs] at hreplay
      rw [hreplay] at hbefore
      obtain ⟨hold, hfound, -, -, hconf⟩ := replay_capture hbefore
      obtain ⟨row, expiresAt, hrow, hexpires, hlate⟩ := lapsed.expired
      obtain rfl := Option.some.inj (hfound.symm.trans hrow)
      have hnow : env.now = clock := by
        cases e <;> cases hevent
        exact timed _ _ rfl
      refine hlive ?_
      rw [advance_of_expired (by rw [hreplay, hconf]; rfl) hexpires (hnow ▸ hlate)]
      rfl
    · exact lapsed.behind i session running ⟨⟨amount, hstart⟩, by simp [henvs], hbefore⟩
  | commit i session result running script granted =>
    cases result with
    | error failure => cases granted
    | ok t =>
      obtain ⟨request, hstart, posts⟩ := h.posts_of_commit running script
      have hlive : ¬ session.conf.script.Fails commits := by
        rw [script]
        exact Bool.true_eq_false.mp
      have hother : ∀ amount, request ≠ .capture id amount := by
        rintro amount rfl
        refine lapsed.behind i session running ⟨⟨amount, hstart⟩, ?_, hlive⟩
        have hreplay := hinv.replays i session running hlive
        rw [hstart] at hreplay
        exact two_le_of_granted (hreplay ▸ script)
      obtain ⟨hold, expiresAt, hfound, hexpires, hlate⟩ := lapsed.expired
      obtain ⟨hold', hfound', hsame⟩ := posts.expiresAt_eq hfound
      exact ⟨⟨hold', expiresAt, hfound', hsame.trans hexpires, hlate⟩,
        (posts.settlement?_eq hother).trans lapsed.uncaptured, fun j _ hj => hdrop hj⟩
  | rollback | abort => exact ⟨lapsed.expired, lapsed.uncaptured, fun j _ hj => hdrop hj⟩

/-- A hold that a capture finds expired has lapsed. -/
theorem lapsed_of_refused {i : ℕ} {env : Env} {acquired : List Lock} {message : GoString}
    {session : Session Db Env Lock Call Reply Result} {c : Call} {next : Reply c → BankScript}
    (h : bank.Reachable start s) (sound : s.db.Sound) (running : s.session i = some session)
    (script : session.conf.script = .call c next)
    (hstart : session.start = performCapture id amount)
    (hnow : env.now = clock) (refused : (session.conf.advance backend s.db env).script =
      .done (.error (.service .authExpired message))) :
    Lapsed (s.put commits i
      ⟨session.start, session.envs ++ [env], session.conf.advance backend s.db env⟩ acquired)
      clock id := by
  have hinv := h.inv
  have hlive : ¬ session.conf.script.Fails commits := by
    rw [script]
    exact not_false
  have hreplay := hinv.replays i session running hlive
  have hnever : ¬ NeverExpires (session.conf.advance backend s.db env).script := by
    rw [refused]
    exact fun hnever => hnever message rfl
  rcases henvs : session.envs with _ | ⟨first, _ | ⟨second, rest⟩⟩
  · -- The first call reads the hold, and not the time.
    rw [hstart, henvs] at hreplay
    rw [hreplay, replay_nil] at refused
    obtain ⟨failure, hfailed, hother⟩ | ⟨hold, -, -, -, hconf⟩ :=
      advance_performCapture s.db id amount env
    · cases hfailed.symm.trans refused
      exact absurd rfl (hother message)
    · rw [hconf] at refused
      obtain ⟨text, htext⟩ := mismatch_of_captureActive refused
      cases htext
  · rw [hstart, henvs] at hreplay
    obtain ⟨hold, hfound, htype, hactive, hconf⟩ := replay_capture (hreplay ▸ hlive)
    have hsession : session.conf = ⟨captureActive hold amount, fun x => x, [.transaction id]⟩ :=
      hreplay.trans hconf
    obtain ⟨expiresAt, hexpires, hlate⟩ : ∃ expiresAt, hold.expiresAt = some expiresAt ∧
        expiresAt < env.now := by
      by_contra hearly
      refine hnever (neverExpires_advance (congrArg (·.script) hsession) ?_)
      exact fun expiresAt hexpires hlate => hearly ⟨expiresAt, hexpires, hlate⟩
    have hid := Db.id_of_transaction? hfound
    have hdisposed := sound.disposed hold (Db.mem_of_transaction? hfound) htype
    refine ⟨⟨hold, expiresAt, hfound, hexpires, hnow ▸ hlate⟩,
      hid ▸ (hdisposed.active.mp hactive).1, fun j other hj passed => ?_⟩
    rcases eq_or_ne j i with rfl | hne
    · rw [Sessions.put_session_self, Option.some_inj] at hj
      subst hj
      refine passed.live ?_
      rw [refused]
      rfl
    · -- Two captures cannot both have locked the hold.
      rw [Sessions.put_session_of_ne hne] at hj
      have hlocked := (passed.locked (hinv.replays j other hj passed.live)).1
      have hmine : .transaction id ∈ session.conf.held := by
        rw [hsession]
        exact List.mem_singleton_self _
      have hapart := hinv.apart_held hj running hne _ hlocked _ hmine
      simp [backend, Lock.conflict] at hapart
  · have hpassed : Passed id session := ⟨⟨amount, hstart⟩, by simp [henvs], hlive⟩
    exact absurd ((hpassed.locked hreplay).2.foldl [env]) hnever

/-- The holds that captures have found expired have lapsed. -/
def Expiries (bank : Bank) (s : BankSessions) (clock : Time) : Prop :=
  ∀ e ∈ s.history, ∀ id amount message, e.start = bank.script (.capture id amount) →
    e.result = .error (.service .authExpired message) → Lapsed s clock id

theorem Expiries.step {e : BankEvent} (expiries : Expiries bank s clock)
    (h : bank.Reachable start s) (sound : s.db.Sound)
    (timed : ∀ i env, e = .call i env → env.now = clock) (taken : bank.step s e = some s') :
    Expiries bank s' clock := by
  have rule := Sessions.step_cases taken
  intro entry hentry id amount message hstart hresult
  -- What was recorded before is kept.
  suffices hnew : entry ∈ s.history ∨ Lapsed s' clock id by
    rcases hnew with hold | hlapsed
    · exact (expiries entry hold id amount message hstart hresult).step h timed taken
    · exact hlapsed
  generalize hevent : bank.event e = event at rule
  cases rule with
  | start i script idle =>
    rcases List.mem_append.mp hentry with hmem | hold
    · obtain ⟨hdone, -, heq⟩ := Sessions.mem_failure hmem
      rw [heq] at hstart
      have hscript : bank.script (.capture id amount) = .done entry.result := hstart ▸ hdone
      cases hscript
    · exact .inl hold
  | call i env session c next running script free =>
    rcases List.mem_append.mp hentry with hmem | hold
    · obtain ⟨hdone, -, heq⟩ := Sessions.mem_failure hmem
      rw [heq] at hstart
      have hnow : env.now = clock := by
        cases e <;> cases hevent
        exact timed _ _ rfl
      exact .inr (lapsed_of_refused h sound running script hstart hnow (hresult ▸ hdone))
    · exact .inl hold
  | commit i session result running script granted =>
    rcases List.mem_cons.mp hentry with rfl | hold
    · dsimp only at hresult
      rw [hresult] at granted
      cases granted
    · exact .inl hold
  | rollback | abort => exact .inl hentry

theorem Server.Reachable.expiries {s : Server} (h : Server.Reachable bank start s)
    (empty : start.transactions = []) : Expiries bank s.sessions s.clock := by
  obtain ⟨clock, run⟩ := h
  refine run.invariant (P := fun s => Expiries bank s.sessions s.clock) ?_ ?_
  · intro entry hentry
    cases hentry
  · intro s e s' before expiries _ taken
    have hreachable : Server.Reachable bank start s := ⟨clock, before⟩
    have hsessions := hreachable.inv.reachable
    obtain ⟨hsame, hclock⟩ | ⟨hclock, inner, htaken, timed⟩ :=
      (Server.step_cases taken).sessions_cases
    · rw [hsame]
      exact fun entry hentry id amount message hstart hresult =>
        (expiries entry hentry id amount message hstart hresult).tick hclock
    · rw [hclock]
      refine expiries.step hsessions ?_ timed htaken
      exact hsessions.invariant (.empty empty) fun _ _ _ _ sound posts => sound.post posts

end PaymentGateway.MockBank
