/-
# Sessions that run scripts under locks

A script makes calls to a database, one after the other, and what it calls next
depends on the replies. Any number of sessions run scripts at the same time. A call
sees the committed database with the changes of its own session, it waits for the
locks it needs, and a session keeps its locks and its changes to itself until it
ends. A call may also depend on things outside of the database, such as the time.

The locks of a session shelter what it has read and confine what it writes, if its
script respects them. Then the sessions are serializable: the committed database is
what the scripts make of it one after the other, in the order in which they took
effect, and each ends with the result that it has there. A script that is to commit
takes effect when it commits. One that fails takes effect when it learns that it
fails, since what it read need not be sheltered any more.

Locks may have modes, so that two locks conflict or do not.
-/

import PaymentGateway.Lib.Run
import Mathlib.Data.List.Induction
import Mathlib.Logic.Function.Basic

namespace PaymentGateway.Lib

/-! ## Scripts -/

/-- A program that makes calls and ends with a value. -/
inductive Script (Call : Type) (Reply : Call → Type) (α : Type) : Type
  | done (a : α)
  | call (c : Call) (next : Reply c → Script Call Reply α)

namespace Script

variable {Call : Type} {Reply : Call → Type} {α β : Type}

protected def bind : Script Call Reply α → (α → Script Call Reply β) → Script Call Reply β
  | done a, f => f a
  | call c next, f => call c fun reply => (next reply).bind f

instance : Monad (Script Call Reply) where
  pure := done
  bind := Script.bind

/-- One call. -/
def ask (c : Call) : Script Call Reply (Reply c) := call c done

@[simp] theorem pure_eq (a : α) : (pure a : Script Call Reply α) = done a := rfl

@[simp] theorem ask_bind (c : Call) (f : Reply c → Script Call Reply α) :
    (ask c >>= f : Script Call Reply α) = call c f := rfl

/-- A script has ended with a result that is not to be committed. -/
def Fails (commits : α → Bool) : Script Call Reply α → Prop
  | done a => commits a = false
  | call _ _ => False

instance (commits : α → Bool) (script : Script Call Reply α) :
    Decidable (script.Fails commits) :=
  match script with
  | done a => inferInstanceAs (Decidable (commits a = false))
  | call _ _ => inferInstanceAs (Decidable False)

end Script

/-! ## One session -/

/-- What answers the calls of scripts. A call is executed on the database as its session
sees it, in an environment; it yields a reply and a change of the database. -/
structure Backend (Db Env Lock Call : Type) (Reply : Call → Type) where
  exec : (c : Call) → Env → Db → Reply c × (Db → Db)
  needs : Call → Env → Db → List Lock
  conflict : Lock → Lock → Bool

/-- How far a session has come: what is left of its script, the changes it has made and
the locks it holds. -/
structure Conf (Db Lock Call : Type) (Reply : Call → Type) (α : Type) where
  script : Script Call Reply α
  change : Db → Db
  held : List Lock

variable {Db Env Lock Call : Type} {Reply : Call → Type} {α : Type}

/-- Before the first call. -/
def Conf.start (script : Script Call Reply α) : Conf Db Lock Call Reply α := ⟨script, id, []⟩

/-- The next call of a session. -/
def Conf.advance (B : Backend Db Env Lock Call Reply) (db : Db) (conf : Conf Db Lock Call Reply α)
    (env : Env) : Conf Db Lock Call Reply α :=
  match conf.script with
  | .done _ => conf
  | .call c next =>
    ⟨next (B.exec c env (conf.change db)).1,
      fun x => (B.exec c env (conf.change db)).2 (conf.change x),
      conf.held ++ B.needs c env (conf.change db)⟩

/-- The calls of a script in given environments, while the committed database stays as it
is. -/
def replay (B : Backend Db Env Lock Call Reply) (db : Db) (script : Script Call Reply α)
    (envs : List Env) : Conf Db Lock Call Reply α :=
  envs.foldl (Conf.advance B db) (.start script)

section Replay

variable {B : Backend Db Env Lock Call Reply} {db db' : Db} {script : Script Call Reply α}
  {conf : Conf Db Lock Call Reply α} {env : Env} {envs : List Env}

@[simp] theorem replay_nil : replay B db script [] = .start script := rfl

@[simp] theorem replay_concat :
    replay B db script (envs ++ [env]) = (replay B db script envs).advance B db env := by
  simp [replay]

theorem Conf.advance_of_done {a : α} (h : conf.script = .done a) :
    conf.advance B db env = conf := by
  simp [Conf.advance, h]

theorem Conf.advance_of_call {c : Call} {next : Reply c → Script Call Reply α}
    (h : conf.script = .call c next) :
    conf.advance B db env = ⟨next (B.exec c env (conf.change db)).1,
      fun x => (B.exec c env (conf.change db)).2 (conf.change x),
      conf.held ++ B.needs c env (conf.change db)⟩ := by
  simp [Conf.advance, h]

theorem Conf.foldl_advance_of_done {a : α} (h : conf.script = .done a) :
    envs.foldl (Conf.advance B db) conf = conf := by
  induction envs with
  | nil => rfl
  | cons env envs ih => rw [List.foldl_cons, advance_of_done h, ih]

theorem Conf.held_subset_advance (B : Backend Db Env Lock Call Reply) (db : Db)
    (conf : Conf Db Lock Call Reply α) (env : Env) :
    conf.held ⊆ (conf.advance B db env).held := by
  cases h : conf.script with
  | done a => rw [advance_of_done h]; exact List.Subset.refl _
  | call c next => rw [advance_of_call h]; exact List.subset_append_left _ _

/-- The rule of induction for the sessions of a script. -/
theorem replay_induction {P : Conf Db Lock Call Reply α → Prop} (start : P (.start script))
    (step : ∀ conf env, P conf → P (conf.advance B db env)) (envs : List Env) :
    P (replay B db script envs) := by
  induction envs using List.reverseRecOn with
  | nil => exact start
  | append_singleton envs env ih => rw [replay_concat]; exact step _ env ih

end Replay

/-! ## What a script does when it runs alone -/

/-- If a script that runs alone ends, its result and the database then satisfy `Q`. -/
def Ensures (B : Backend Db Env Lock Call Reply) (Q : α → Db → Prop) :
    Db → Script Call Reply α → Prop
  | db, .done a => Q a db
  | db, .call c next => ∀ env, Ensures B Q ((B.exec c env db).2 db) (next (B.exec c env db).1)

theorem Ensures.replay {B : Backend Db Env Lock Call Reply} {Q : α → Db → Prop} {db : Db}
    {script : Script Call Reply α} {envs : List Env} {a : α} (h : Ensures B Q db script)
    (ended : (replay B db script envs).script = .done a) :
    Q a ((replay B db script envs).change db) := by
  have hreplay : Ensures B Q ((Lib.replay B db script envs).change db)
      (Lib.replay B db script envs).script := by
    refine replay_induction (P := fun conf => Ensures B Q (conf.change db) conf.script) h ?_ envs
    intro conf env ih
    cases hscript : conf.script with
    | done a => rwa [Conf.advance_of_done hscript]
    | call c next =>
      rw [Conf.advance_of_call hscript]
      rw [hscript] at ih
      exact ih env
  rwa [ended] at hreplay

/-! ## What locks are good for -/

/-- No lock of one list conflicts with one of the other. -/
def Apart (B : Backend Db Env Lock Call Reply) (held other : List Lock) : Prop :=
  ∀ l ∈ held, ∀ l' ∈ other, B.conflict l l' = false

theorem Apart.mono {B : Backend Db Env Lock Call Reply} {held more other : List Lock}
    (h : Apart B more other) (hsub : held ⊆ more) : Apart B held other :=
  fun l hl => h l (hsub hl)

/-- What locks shelter. Two databases agree for a session where its locks keep others from
changing them. A call that is `ok` with the locks its session holds changes nothing that
locks of others shelter. -/
structure Discipline (B : Backend Db Env Lock Call Reply) where
  Agree : List Lock → Db → Db → Prop
  ok : Call → List Lock → Prop
  symm : ∀ l l', B.conflict l l' = B.conflict l' l
  refl : ∀ held db, Agree held db db
  trans : ∀ {held db₁ db₂ db₃}, Agree held db₁ db₂ → Agree held db₂ db₃ → Agree held db₁ db₃
  mono : ∀ {held more db db'}, held ⊆ more → Agree more db db' → Agree held db db'
  keeps : ∀ c env view {held db db'}, Agree held db db' →
    Agree held ((B.exec c env view).2 db) ((B.exec c env view).2 db')
  confined : ∀ c env view {held other}, ok c held → Apart B (held ++ B.needs c env view) other →
    ∀ db, Agree other db ((B.exec c env view).2 db)

namespace Discipline

variable {B : Backend Db Env Lock Call Reply} (D : Discipline B) (commits : α → Bool)

/-- A call is executed in the same way on every database that agrees on what the session
then shelters. -/
def Shelters (held : List Lock) (c : Call) (env : Env) (view : Db) : Prop :=
  ∀ view', D.Agree (held ++ B.needs c env view) view view' →
    B.exec c env view' = B.exec c env view ∧ B.needs c env view' = B.needs c env view

/-- A script respects the locks: it makes only calls that are `ok`, and goes on only after
replies that are sheltered. -/
def Guarded : List Lock → Script Call Reply α → Prop
  | _, .done _ => True
  | held, .call c next => D.ok c held ∧ ∀ env view,
      Guarded (held ++ B.needs c env view) (next (B.exec c env view).1) ∧
        ((next (B.exec c env view).1).Fails commits ∨ D.Shelters held c env view)

variable {D commits} {script : Script Call Reply α} {db db' : Db} {envs : List Env}

theorem Guarded.replay (h : D.Guarded commits [] script) (db : Db) (envs : List Env) :
    D.Guarded commits (replay B db script envs).held (replay B db script envs).script := by
  refine replay_induction (P := fun conf => D.Guarded commits conf.held conf.script) h ?_ envs
  intro conf env ih
  cases hscript : conf.script with
  | done a => rw [Conf.advance_of_done hscript]; exact ih
  | call c next =>
    rw [Conf.advance_of_call hscript]
    rw [hscript] at ih
    exact (ih.2 env (conf.change db)).1

/-- The changes of a session are confined to what its locks shelter. -/
theorem Guarded.confined (h : D.Guarded commits [] script) {other : List Lock}
    (apart : Apart B (Lib.replay B db script envs).held other) (x : Db) :
    D.Agree other x ((Lib.replay B db script envs).change x) := by
  induction envs using List.reverseRecOn with
  | nil => exact D.refl other x
  | append_singleton envs env ih =>
    have hguarded := h.replay db envs
    rw [replay_concat] at apart ⊢
    have hbefore := ih (apart.mono (Conf.held_subset_advance B db _ env))
    cases hscript : (Lib.replay B db script envs).script with
    | done a => rwa [Conf.advance_of_done hscript]
    | call c next =>
      rw [Conf.advance_of_call hscript] at apart ⊢
      rw [hscript] at hguarded
      exact D.trans hbefore (D.confined c env _ hguarded.1 apart _)

/-- The changes of a session keep agreement. -/
theorem agree_change (D : Discipline B) (script : Script Call Reply α) (db : Db) (envs : List Env)
    {held : List Lock} {x y : Db} (h : D.Agree held x y) :
    D.Agree held ((Lib.replay B db script envs).change x)
      ((Lib.replay B db script envs).change y) := by
  refine replay_induction (P := fun conf => D.Agree held (conf.change x) (conf.change y)) h ?_ envs
  intro conf env ih
  cases hscript : conf.script with
  | done a => rw [Conf.advance_of_done hscript]; exact ih
  | call c next => rw [Conf.advance_of_call hscript]; exact D.keeps c env _ ih

/-- A session that has not failed would have come to the same point on every database that
agrees on what it shelters. -/
theorem Guarded.replay_eq (h : D.Guarded commits [] script)
    (live : ¬ (Lib.replay B db script envs).script.Fails commits)
    (agree : D.Agree (Lib.replay B db script envs).held db db') :
    Lib.replay B db' script envs = Lib.replay B db script envs := by
  induction envs using List.reverseRecOn with
  | nil => rfl
  | append_singleton envs env ih =>
    have hguarded := h.replay db envs
    rw [replay_concat] at live agree ⊢
    have hbefore := D.mono (Conf.held_subset_advance B db _ env) agree
    rw [replay_concat]
    cases hscript : (Lib.replay B db script envs).script with
    | done a =>
      rw [Conf.advance_of_done hscript] at live ⊢
      rw [ih live hbefore, Conf.advance_of_done hscript]
    | call c next =>
      rw [ih (by rw [hscript]; exact id) hbefore, Conf.advance_of_call hscript,
        Conf.advance_of_call hscript]
      rw [Conf.advance_of_call hscript] at live agree
      rw [hscript] at hguarded
      -- The script goes on, so its reply was sheltered.
      obtain hfails | hshelters := (hguarded.2 env _).2
      · exact absurd hfails live
      · obtain ⟨hexec, hneeds⟩ := hshelters _ (D.agree_change script db envs agree)
        rw [hexec, hneeds]

end Discipline

/-! ## Many sessions -/

/-- A script with the environments of its calls so far. -/
structure Session (Db Env Lock Call : Type) (Reply : Call → Type) (α : Type) where
  start : Script Call Reply α
  envs : List Env
  conf : Conf Db Lock Call Reply α

/-- A script that took effect, with its environments and its result. -/
structure Entry (Env Call : Type) (Reply : Call → Type) (α : Type) where
  id : ℕ
  start : Script Call Reply α
  envs : List Env
  result : α

/-- The committed database, the sessions, the table of locks with their owners, and what
took effect, newest first. No step reads the history. -/
structure Sessions (Db Env Lock Call : Type) (Reply : Call → Type) (α : Type) where
  db : Db
  session : ℕ → Option (Session Db Env Lock Call Reply α)
  locks : List (ℕ × Lock)
  history : List (Entry Env Call Reply α)

inductive SessionEvent (Env Call : Type) (Reply : Call → Type) (α : Type)
  | start (id : ℕ) (script : Script Call Reply α)
  | call (id : ℕ) (env : Env)
  /-- The script has ended; it is committed or rolled back. -/
  | finish (id : ℕ)
  /-- The session is cut off. -/
  | abort (id : ℕ)

namespace Sessions

variable (B : Backend Db Env Lock Call Reply) (commits : α → Bool)

/-- Before the first session. -/
def initial (db : Db) : Sessions Db Env Lock Call Reply α := ⟨db, fun _ => none, [], []⟩

/-- The locks that a session needs can be had. -/
def free (s : Sessions Db Env Lock Call Reply α) (id : ℕ) (needed : List Lock) : Bool :=
  s.locks.all fun held => held.1 == id || needed.all fun l => !B.conflict l held.2

/-- What is recorded when a session has come to a point. -/
def failure (id : ℕ) (session : Session Db Env Lock Call Reply α) :
    List (Entry Env Call Reply α) :=
  match session.conf.script with
  | .done a => if commits a then [] else [⟨id, session.start, session.envs, a⟩]
  | .call _ _ => []

/-- A session comes to a point. -/
def put (s : Sessions Db Env Lock Call Reply α) (id : ℕ)
    (session : Session Db Env Lock Call Reply α) (acquired : List Lock) :
    Sessions Db Env Lock Call Reply α where
  db := s.db
  session := Function.update s.session id (some session)
  locks := acquired.map (id, ·) ++ s.locks
  history := failure commits id session ++ s.history

/-- A session ends and gives its locks back. -/
def drop (s : Sessions Db Env Lock Call Reply α) (id : ℕ) : Sessions Db Env Lock Call Reply α :=
  { s with
    session := Function.update s.session id none
    locks := s.locks.filter fun held => held.1 != id }

/-- A session commits. -/
def commit (s : Sessions Db Env Lock Call Reply α) (id : ℕ)
    (session : Session Db Env Lock Call Reply α) (a : α) : Sessions Db Env Lock Call Reply α :=
  { s.drop id with
    db := session.conf.change s.db
    history := ⟨id, session.start, session.envs, a⟩ :: s.history }

/-- One step of the sessions, where it is enabled. -/
def step (s : Sessions Db Env Lock Call Reply α) :
    SessionEvent Env Call Reply α → Option (Sessions Db Env Lock Call Reply α)
  | .start id script =>
    match s.session id with
    | some _ => none
    | none => some (s.put commits id ⟨script, [], .start script⟩ [])
  | .call id env =>
    match s.session id with
    | none => none
    | some session =>
      match session.conf.script with
      | .done _ => none
      | .call c _ =>
        if s.free B id (B.needs c env (session.conf.change s.db)) then
          some (s.put commits id
            ⟨session.start, session.envs ++ [env], session.conf.advance B s.db env⟩
            (B.needs c env (session.conf.change s.db)))
        else none
  | .finish id =>
    match s.session id with
    | none => none
    | some session =>
      match session.conf.script with
      | .done a => some (if commits a then s.commit id session a else s.drop id)
      | .call _ _ => none
  | .abort id =>
    match s.session id with
    | none => none
    | some _ => some (s.drop id)

variable {B commits} {s s' : Sessions Db Env Lock Call Reply α}

/-- What a step does, case by case. -/
inductive Rule (B : Backend Db Env Lock Call Reply) (commits : α → Bool)
    (s : Sessions Db Env Lock Call Reply α) :
    SessionEvent Env Call Reply α → Sessions Db Env Lock Call Reply α → Prop
  | start (id : ℕ) (script : Script Call Reply α) (idle : s.session id = none) :
      Rule B commits s (.start id script) (s.put commits id ⟨script, [], .start script⟩ [])
  | call (id : ℕ) (env : Env) (session : Session Db Env Lock Call Reply α) (c : Call)
      (next : Reply c → Script Call Reply α) (running : s.session id = some session)
      (script : session.conf.script = .call c next)
      (free : s.free B id (B.needs c env (session.conf.change s.db)) = true) :
      Rule B commits s (.call id env) (s.put commits id
        ⟨session.start, session.envs ++ [env], session.conf.advance B s.db env⟩
        (B.needs c env (session.conf.change s.db)))
  | commit (id : ℕ) (session : Session Db Env Lock Call Reply α) (a : α)
      (running : s.session id = some session) (script : session.conf.script = .done a)
      (ends : commits a = true) : Rule B commits s (.finish id) (s.commit id session a)
  | rollback (id : ℕ) (session : Session Db Env Lock Call Reply α) (a : α)
      (running : s.session id = some session) (script : session.conf.script = .done a)
      (fails : commits a = false) : Rule B commits s (.finish id) (s.drop id)
  | abort (id : ℕ) (session : Session Db Env Lock Call Reply α)
      (running : s.session id = some session) : Rule B commits s (.abort id) (s.drop id)

theorem step_cases {e : SessionEvent Env Call Reply α} (h : s.step B commits e = some s') :
    Rule B commits s e s' := by
  cases e with
  | start id script =>
    simp only [step] at h
    split at h
    · cases h
    · next idle =>
      cases h
      exact .start id script idle
  | call id env =>
    simp only [step] at h
    split at h
    · cases h
    · next session running =>
      split at h
      · cases h
      · next c next script =>
        split at h
        · next free =>
          cases h
          exact .call id env session c next running script free
        · cases h
  | finish id =>
    simp only [step] at h
    split at h
    · cases h
    · next session running =>
      split at h
      · next a script =>
        cases h
        split
        · next hcommits => exact .commit id session a running script hcommits
        · next hcommits => exact .rollback id session a running script (by simpa using hcommits)
      · cases h
  | abort id =>
    simp only [step] at h
    split at h
    · cases h
    · next session running =>
      cases h
      exact .abort id session running

theorem put_session_self {id : ℕ} {session : Session Db Env Lock Call Reply α}
    {acquired : List Lock} : (s.put commits id session acquired).session id = some session :=
  Function.update_self ..

theorem put_session_of_ne {id i : ℕ} {session : Session Db Env Lock Call Reply α}
    {acquired : List Lock} (hne : i ≠ id) :
    (s.put commits id session acquired).session i = s.session i :=
  Function.update_of_ne hne ..

theorem drop_session_of_ne {id i : ℕ} (hne : i ≠ id) : (s.drop id).session i = s.session i :=
  Function.update_of_ne hne ..

theorem mem_drop_locks {id i : ℕ} {l : Lock} :
    (i, l) ∈ (s.drop id).locks ↔ (i, l) ∈ s.locks ∧ i ≠ id := by
  simp [drop]

theorem exists_of_drop {id i : ℕ} {session : Session Db Env Lock Call Reply α}
    (h : (s.drop id).session i = some session) : s.session i = some session ∧ i ≠ id := by
  rcases eq_or_ne i id with rfl | hne
  · simp [drop] at h
  · exact ⟨(drop_session_of_ne hne).symm.trans h, hne⟩

/-- A session after a step ran before it, or it was started. -/
theorem Rule.session_cases {e : SessionEvent Env Call Reply α} (rule : Rule B commits s e s')
    {i : ℕ} {session' : Session Db Env Lock Call Reply α} (h : s'.session i = some session') :
    (∃ session, s.session i = some session ∧ session'.start = session.start) ∨
      e = .start i session'.start := by
  have hput : ∀ {id moved acquired}, (s.put commits id moved acquired).session i = some session' →
      i = id ∧ session' = moved ∨ s.session i = some session' := by
    intro id moved acquired h
    rcases eq_or_ne i id with rfl | hne
    · exact .inl ⟨rfl, (Option.some.inj (put_session_self.symm.trans h)).symm⟩
    · exact .inr ((put_session_of_ne hne).symm.trans h)
  cases rule with
  | start id script idle =>
    rcases hput h with ⟨rfl, rfl⟩ | hold
    · exact .inr rfl
    · exact .inl ⟨session', hold, rfl⟩
  | call id env session c next running script free =>
    rcases hput h with ⟨rfl, rfl⟩ | hold
    · exact .inl ⟨session, running, rfl⟩
    · exact .inl ⟨session', hold, rfl⟩
  | commit | rollback | abort => exact .inl ⟨session', (exists_of_drop h).1, rfl⟩

theorem mem_failure {id : ℕ} {session : Session Db Env Lock Call Reply α}
    {e : Entry Env Call Reply α} (h : e ∈ failure commits id session) :
    session.conf.script = .done e.result ∧ commits e.result = false ∧
      e = ⟨id, session.start, session.envs, e.result⟩ := by
  unfold failure at h
  split at h
  · next a hscript =>
    split at h
    · cases h
    · next hfails =>
      rw [List.mem_singleton.mp h]
      exact ⟨hscript, by simpa using hfails, rfl⟩
  · cases h

theorem start_of_mem_failure {id : ℕ} {session : Session Db Env Lock Call Reply α}
    {e : Entry Env Call Reply α} (h : e ∈ failure commits id session) :
    e.id = id ∧ e.start = session.start := by
  rw [(mem_failure h).2.2]
  exact ⟨rfl, rfl⟩

/-- What a step records ran before it, or is a script that it starts. -/
theorem Rule.history_cases {e : SessionEvent Env Call Reply α} (rule : Rule B commits s e s')
    {entry : Entry Env Call Reply α} (h : entry ∈ s'.history) :
    entry ∈ s.history ∨ (∃ session, s.session entry.id = some session ∧
      entry.start = session.start) ∨ e = .start entry.id entry.start := by
  cases rule with
  | start id script idle =>
    rcases List.mem_append.mp h with hnew | hold
    · obtain ⟨hid, hstart⟩ := start_of_mem_failure hnew
      rw [hid, hstart]
      exact .inr (.inr rfl)
    · exact .inl hold
  | call id env session c next running script free =>
    rcases List.mem_append.mp h with hnew | hold
    · obtain ⟨hid, hstart⟩ := start_of_mem_failure hnew
      exact .inr (.inl ⟨session, hid ▸ running, hstart⟩)
    · exact .inl hold
  | commit id session a running script ends =>
    rcases List.mem_cons.mp h with rfl | hold
    · exact .inr (.inl ⟨session, running, rfl⟩)
    · exact .inl hold
  | rollback | abort => exact .inl h

/-- Only a session that finishes is recorded with a result that is committed. -/
theorem Rule.committed_cases {e : SessionEvent Env Call Reply α} (rule : Rule B commits s e s')
    {entry : Entry Env Call Reply α} (h : entry ∈ s'.history)
    (committed : commits entry.result = true) : entry ∈ s.history ∨ e = .finish entry.id := by
  have hfailure : ∀ {id : ℕ} {session : Session Db Env Lock Call Reply α},
      entry ∈ failure commits id session ++ s.history → entry ∈ s.history := by
    intro id session hmem
    refine (List.mem_append.mp hmem).resolve_left fun hnew => ?_
    cases (mem_failure hnew).2.1.symm.trans committed
  cases rule with
  | start | call => exact .inl (hfailure h)
  | commit id session a running script ends =>
    rcases List.mem_cons.mp h with rfl | hold
    · exact .inr rfl
    · exact .inl hold
  | rollback | abort => exact .inl h

theorem Rule.history_subset {e : SessionEvent Env Call Reply α} (rule : Rule B commits s e s') :
    s.history ⊆ s'.history := by
  cases rule with
  | start | call => exact List.subset_append_right _ _
  | commit => exact List.subset_cons_self _ _
  | rollback | abort => exact List.Subset.refl _

/-! ## Serializability -/

/-- A database is what entries make of another one, one after the other. -/
inductive Serial (B : Backend Db Env Lock Call Reply) (commits : α → Bool) (start : Db) :
    List (Entry Env Call Reply α) → Db → Prop
  | nil : Serial B commits start [] start
  | cons {entries : List (Entry Env Call Reply α)} {db : Db} (e : Entry Env Call Reply α)
      (before : Serial B commits start entries db)
      (ran : (replay B db e.start e.envs).script = .done e.result) :
      Serial B commits start (e :: entries)
        (if commits e.result then (replay B db e.start e.envs).change db else db)

/-- Each entry has the result of its script on some database. -/
theorem Serial.exists_replay {start db : Db} {entries : List (Entry Env Call Reply α)}
    {e : Entry Env Call Reply α} (h : Serial B commits start entries db) (he : e ∈ entries) :
    ∃ db', (replay B db' e.start e.envs).script = .done e.result := by
  induction h with
  | nil => cases he
  | @cons entries db last before ran ih =>
    rcases List.mem_cons.mp he with rfl | hold
    · exact ⟨db, ran⟩
    · exact ih hold

/-- The invariant behind it, for sessions that run certain scripts. A session that has not
failed could have made its calls just now; the locks it holds are in the table, and locks of
different owners do not conflict. -/
structure Inv (B : Backend Db Env Lock Call Reply) (commits : α → Bool)
    (scripts : Script Call Reply α → Prop) (start : Db) (s : Sessions Db Env Lock Call Reply α) :
    Prop where
  running : ∀ i session, s.session i = some session → scripts session.start
  recorded : ∀ e ∈ s.history, scripts e.start
  failed : ∀ i session a, s.session i = some session → session.conf.script = .done a →
    commits a = false → ⟨i, session.start, session.envs, a⟩ ∈ s.history
  replays : ∀ i session, s.session i = some session → ¬ session.conf.script.Fails commits →
    session.conf = replay B s.db session.start session.envs
  held : ∀ i session, s.session i = some session → ∀ l ∈ session.conf.held, (i, l) ∈ s.locks
  owned : ∀ i l, (i, l) ∈ s.locks → ∃ session, s.session i = some session ∧ l ∈ session.conf.held
  apart : ∀ i j l l', (i, l) ∈ s.locks → (j, l') ∈ s.locks → i ≠ j → B.conflict l l' = false
  serial : Serial B commits start s.history s.db

variable {D : Discipline B} {scripts : Script Call Reply α → Prop} {start : Db}

theorem Inv.initial (db : Db) : Inv B commits scripts db (Sessions.initial db) where
  running := nofun
  recorded := nofun
  failed := nofun
  replays := nofun
  held := nofun
  owned := nofun
  apart := nofun
  serial := .nil

theorem Inv.apart_held (inv : Inv B commits scripts start s) {i j : ℕ}
    {first second : Session Db Env Lock Call Reply α} (hi : s.session i = some first)
    (hj : s.session j = some second) (hne : i ≠ j) :
    Apart B first.conf.held second.conf.held :=
  fun l hl l' hl' => inv.apart i j l l' (inv.held i first hi l hl) (inv.held j second hj l' hl') hne

/-- A failure is recorded as it would run alone. -/
theorem Serial.failure {entries : List (Entry Env Call Reply α)} {db : Db} {id : ℕ}
    {session : Session Db Env Lock Call Reply α} (h : Serial B commits start entries db)
    (replays : session.conf = replay B db session.start session.envs) :
    Serial B commits start (failure commits id session ++ entries) db := by
  unfold Sessions.failure
  split
  · next a script =>
    split
    · exact h
    · next hcommits =>
      have hentry := Serial.cons ⟨id, session.start, session.envs, a⟩ h (by rw [← replays, script])
      rwa [if_neg hcommits] at hentry
  · exact h

/-- A session that comes to a point by replaying keeps the invariant, if its new locks are
free. -/
theorem Inv.put (inv : Inv B commits scripts start s) {id : ℕ}
    {session : Session Db Env Lock Call Reply α} {acquired : List Lock}
    (symm : ∀ l l', B.conflict l l' = B.conflict l' l) (allowed : scripts session.start)
    (replays : session.conf = replay B s.db session.start session.envs)
    (held : ∀ l ∈ session.conf.held, l ∈ acquired ∨ (id, l) ∈ s.locks)
    (kept : ∀ l, (id, l) ∈ s.locks → l ∈ session.conf.held)
    (fresh : ∀ l ∈ acquired, l ∈ session.conf.held)
    (free : s.free B id acquired = true) :
    Inv B commits scripts start (s.put commits id session acquired) where
  running i other h := by
    rcases eq_or_ne i id with rfl | hne
    · cases put_session_self.symm.trans h
      exact allowed
    · exact inv.running i other ((put_session_of_ne hne).symm.trans h)
  recorded e he := by
    rcases List.mem_append.mp he with hnew | hold
    · rw [(start_of_mem_failure hnew).2]
      exact allowed
    · exact inv.recorded e hold
  failed i other a h script fails := by
    rcases eq_or_ne i id with rfl | hne
    · cases put_session_self.symm.trans h
      exact List.mem_append_left _ (by simp [failure, script, fails])
    · exact List.mem_append_right _
        (inv.failed i other a ((put_session_of_ne hne).symm.trans h) script fails)
  replays i other h live := by
    rcases eq_or_ne i id with rfl | hne
    · cases put_session_self.symm.trans h
      exact replays
    · exact inv.replays i other ((put_session_of_ne hne).symm.trans h) live
  held i other h l hl := by
    rcases eq_or_ne i id with rfl | hne
    · cases put_session_self.symm.trans h
      rcases held l hl with hnew | hold
      · exact List.mem_append_left _ (List.mem_map_of_mem hnew)
      · exact List.mem_append_right _ hold
    · exact List.mem_append_right _
        (inv.held i other ((put_session_of_ne hne).symm.trans h) l hl)
  owned i l h := by
    rcases eq_or_ne i id with rfl | hne
    · refine ⟨session, put_session_self, ?_⟩
      rcases List.mem_append.mp h with hnew | hold
      · obtain ⟨l', hl', heq⟩ := List.mem_map.mp hnew
        cases heq
        exact fresh l hl'
      · exact kept l hold
    · rw [put_session_of_ne hne]
      rcases List.mem_append.mp h with hnew | hold
      · obtain ⟨l', _, heq⟩ := List.mem_map.mp hnew
        cases heq
        exact absurd rfl hne
      · exact inv.owned i l hold
  apart i j l l' hl hl' hne := by
    -- A new lock was checked against the locks of the others.
    have hfree : ∀ {k m n}, m ∈ acquired → (k, n) ∈ s.locks → k ≠ id → B.conflict m n = false := by
      intro k m n hm hn hk
      have hheld := List.all_eq_true.mp free (k, n) hn
      simp only [Bool.or_eq_true, beq_iff_eq, hk, false_or] at hheld
      simpa using List.all_eq_true.mp hheld m hm
    have hcases : ∀ {k m}, (k, m) ∈ (s.put commits id session acquired).locks →
        k = id ∧ m ∈ acquired ∨ (k, m) ∈ s.locks := by
      intro k m h
      rcases List.mem_append.mp h with hnew | hold
      · obtain ⟨m', hm', heq⟩ := List.mem_map.mp hnew
        cases heq
        exact .inl ⟨rfl, hm'⟩
      · exact .inr hold
    rcases hcases hl with ⟨rfl, hnew⟩ | hold <;> rcases hcases hl' with ⟨rfl, hnew'⟩ | hold'
    · exact absurd rfl hne
    · exact hfree hnew hold' hne.symm
    · rw [symm]
      exact hfree hnew' hold hne
    · exact inv.apart i j l l' hold hold' hne
  serial := inv.serial.failure replays

/-- A session that ends keeps the invariant of the others, if it changes nothing that they
shelter. -/
theorem Inv.drop (inv : Inv B commits scripts start s)
    (respects : ∀ script, scripts script → D.Guarded commits [] script) {id : ℕ} {db : Db}
    {history : List (Entry Env Call Reply α)} (recorded : ∀ e ∈ history, scripts e.start)
    (grown : s.history ⊆ history)
    (agree : ∀ i session, s.session i = some session → i ≠ id →
      D.Agree session.conf.held s.db db)
    (serial : Serial B commits start history db) :
    Inv B commits scripts start { s.drop id with db, history } where
  running i session h := inv.running i session (exists_of_drop h).1
  recorded := recorded
  failed i session a h script fails :=
    grown (inv.failed i session a (exists_of_drop h).1 script fails)
  replays i session h live := by
    obtain ⟨hrunning, hne⟩ := exists_of_drop h
    have hreplays := inv.replays i session hrunning live
    have hagree := agree i session hrunning hne
    rw [hreplays] at hagree live
    rw [hreplays]
    exact ((respects _ (inv.running i session hrunning)).replay_eq live hagree).symm
  held i session h l hl := by
    obtain ⟨hrunning, hne⟩ := exists_of_drop h
    exact mem_drop_locks.mpr ⟨inv.held i session hrunning l hl, hne⟩
  owned i l h := by
    obtain ⟨hold, hne⟩ := mem_drop_locks.mp h
    obtain ⟨session, hrunning, hl⟩ := inv.owned i l hold
    exact ⟨session, (drop_session_of_ne hne).trans hrunning, hl⟩
  apart i j l l' hl hl' hne :=
    inv.apart i j l l' (mem_drop_locks.mp hl).1 (mem_drop_locks.mp hl').1 hne
  serial := serial

theorem Inv.step {e : SessionEvent Env Call Reply α} (inv : Inv B commits scripts start s)
    (respects : ∀ script, scripts script → D.Guarded commits [] script)
    (allowed : ∀ id script, e = .start id script → scripts script)
    (rule : Rule B commits s e s') : Inv B commits scripts start s' := by
  cases rule with
  | start id script idle =>
    refine inv.put D.symm (allowed id script rfl) rfl (fun l hl => (nomatch hl)) ?_
      (fun l hl => (nomatch hl)) (by simp [free])
    intro l hl
    obtain ⟨session, hrunning, _⟩ := inv.owned id l hl
    cases idle.symm.trans hrunning
  | call id env session c next running script hfree =>
    have hreplays := inv.replays id session running (by rw [script]; exact nofun)
    have hheld : (session.conf.advance B s.db env).held =
        session.conf.held ++ B.needs c env (session.conf.change s.db) := by
      rw [Conf.advance_of_call script]
    refine inv.put D.symm (inv.running id session running) ?_ ?_ ?_ ?_ hfree
    · rw [replay_concat, ← hreplays]
    · intro l hl
      rw [hheld] at hl
      rcases List.mem_append.mp hl with hold | hnew
      · exact .inr (inv.held id session running l hold)
      · exact .inl hnew
    · intro l hl
      obtain ⟨session', hrunning, hheld'⟩ := inv.owned id l hl
      cases running.symm.trans hrunning
      rw [hheld]
      exact List.mem_append_left _ hheld'
    · intro l hl
      rw [hheld]
      exact List.mem_append_right _ hl
  | commit id session a running script hcommits =>
    have hreplays := inv.replays id session running
      (by rw [script]; simp [Script.Fails, hcommits])
    refine inv.drop respects ?_ (List.subset_cons_self _ _) ?_ ?_
    · intro e he
      rcases List.mem_cons.mp he with rfl | hold
      · exact inv.running id session running
      · exact inv.recorded e hold
    · -- What the session changes is apart from the locks of every other session.
      intro i other hrunning hne
      rw [hreplays]
      refine (respects _ (inv.running id session running)).confined ?_ s.db
      rw [← hreplays]
      exact inv.apart_held running hrunning hne.symm
    · have hentry := Serial.cons ⟨id, session.start, session.envs, a⟩ inv.serial
        (by rw [← hreplays, script])
      rwa [if_pos hcommits, ← hreplays] at hentry
  | rollback id session a running script hfails =>
    exact inv.drop respects inv.recorded (List.Subset.refl _) (fun i other _ _ => D.refl _ _)
      inv.serial
  | abort id session running =>
    exact inv.drop respects inv.recorded (List.Subset.refl _) (fun i other _ _ => D.refl _ _)
      inv.serial

/-! ## No deadlock -/

/-- The next call of a session waits for a lock of another one, in some environment. -/
def Waits (B : Backend Db Env Lock Call Reply) (s : Sessions Db Env Lock Call Reply α)
    (i j : ℕ) : Prop :=
  ∃ session c next env l, s.session i = some session ∧ session.conf.script = .call c next ∧ j ≠ i ∧
    (j, l) ∈ s.locks ∧ ∃ n ∈ B.needs c env (session.conf.change s.db), B.conflict n l = true

/-- A session that waits for nobody can take a step. -/
theorem exists_step_of_not_waits {i : ℕ} {session : Session Db Env Lock Call Reply α}
    (running : s.session i = some session) (idle : ∀ j, ¬ Waits B s i j) (env : Env) :
    ∃ e, (e = .call i env ∨ e = .finish i) ∧ (s.step B commits e).isSome = true := by
  cases script : session.conf.script with
  | done a => exact ⟨.finish i, .inr rfl, by simp [step, running, script]⟩
  | call c next =>
    have hfree : s.free B i (B.needs c env (session.conf.change s.db)) = true := by
      rw [free, List.all_eq_true]
      intro held hheld
      rw [Bool.or_eq_true, beq_iff_eq]
      by_cases hown : held.1 = i
      · exact .inl hown
      · right
        rw [List.all_eq_true]
        intro n hn
        by_contra hconflict
        exact idle held.1 ⟨session, c, next, env, held.2, running, script, hown, hheld, n, hn,
          by simpa using hconflict⟩
    exact ⟨.call i env, .inl rfl, by simp [step, running, script, hfree]⟩

/-- Where a session waits only for sessions of a higher rank, and ranks are bounded, some
session waits for nobody. -/
theorem Inv.exists_not_waits (inv : Inv B commits scripts start s) (rank : ℕ → ℕ) (bound : ℕ)
    (bounded : ∀ i, rank i ≤ bound) (rises : ∀ i j, Waits B s i j → rank i < rank j) {i : ℕ}
    (active : (s.session i).isSome) : ∃ j, (s.session j).isSome ∧ ∀ k, ¬ Waits B s j k := by
  induction hn : bound - rank i using Nat.strongRecOn generalizing i with
  | _ n ih =>
    by_cases hidle : ∀ k, ¬ Waits B s i k
    · exact ⟨i, active, hidle⟩
    · simp only [not_forall, not_not] at hidle
      obtain ⟨j, hwaits⟩ := hidle
      have hlt := rises i j hwaits
      obtain ⟨_, _, _, _, l, _, _, _, hlock, _⟩ := hwaits
      obtain ⟨session, hrunning, _⟩ := inv.owned j l hlock
      exact ih (bound - rank j) (by have := bounded j; omega) (by rw [hrunning]; rfl) rfl

end Sessions

end PaymentGateway.Lib
