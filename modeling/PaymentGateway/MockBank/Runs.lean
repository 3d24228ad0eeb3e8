/-
# Runs of the bank's transactions

Requests are served at the same time, each in a transaction of its own. A statement may
fail or wait, and a transaction may be cut off at any point.

Every session keeps to the locks, so the invariant of sessions holds in every run. And
no sessions wait for each other in a circle, since they take their locks in the order of
`Lock.rank`.
-/

import PaymentGateway.MockBank.Locking

namespace PaymentGateway.MockBank

open Lib

abbrev BankSessions := Sessions Db Env Lock Call Reply Result

/-- What happens to the transactions of the bank. -/
inductive BankEvent
  | start (id : ℕ) (request : ServiceRequest)
  | call (id : ℕ) (env : Env)
  | finish (id : ℕ)
  | abort (id : ℕ)

namespace Bank

variable (bank : Bank)

def event : BankEvent → SessionEvent Env Call Reply Result
  | .start id request => .start id (bank.script request)
  | .call id env => .call id env
  | .finish id => .finish id
  | .abort id => .abort id

def step (s : BankSessions) (e : BankEvent) : Option BankSessions :=
  s.step backend commits (bank.event e)

/-- The states that transactions of the bank reach from given tables. -/
def Reachable (db : Db) : BankSessions → Prop :=
  Reaches bank.step (fun _ _ => True) (Sessions.initial db)

/-- A script of one of the operations. -/
def IsScript (script : BankScript) : Prop := ∃ request, script = bank.script request

variable {bank} {db : Db} {s : BankSessions}

theorem IsScript.guarded {script : BankScript} (h : bank.IsScript script) :
    discipline.Guarded commits [] script := by
  obtain ⟨request, rfl⟩ := h
  exact guarded_script bank request

theorem Reachable.inv (h : bank.Reachable db s) :
    Sessions.Inv backend commits bank.IsScript db s := by
  refine h.invariant (.initial db) fun s e s' _ inv _ taken => ?_
  refine inv.step (fun _ => IsScript.guarded) (fun id script hevent => ?_)
    (Sessions.step_cases taken)
  cases e with
  | start id' request =>
    cases hevent
    exact ⟨request, rfl⟩
  | call | finish | abort => cases hevent

/-! ## Ranks of sessions -/

/-- The highest rank among locks. -/
def heldRank (held : List Lock) : ℕ := held.foldr (fun l rank => max l.rank rank) 0

theorem heldRank_le_iff {held : List Lock} {n : ℕ} :
    heldRank held ≤ n ↔ ∀ l ∈ held, l.rank ≤ n := by
  induction held with
  | nil => simp [heldRank]
  | cons l held ih => simpa [heldRank] using fun _ => ih

theorem rank_le_heldRank {held : List Lock} {l : Lock} (h : l ∈ held) : l.rank ≤ heldRank held :=
  heldRank_le_iff.mp le_rfl l h

theorem rank_le_four (l : Lock) : l.rank ≤ 4 := by
  rcases l with ⟨_, _ | _ | _⟩ | _ | _ <;> simp [Lock.rank]

/-- A session that has ended its script comes last, since it waits for nobody. -/
def rank (s : BankSessions) (i : ℕ) : ℕ :=
  match s.session i with
  | none => 0
  | some session =>
    match session.conf.script with
    | .done _ => 5
    | .call _ _ => heldRank session.conf.held

theorem rank_le_five (s : BankSessions) (i : ℕ) : rank s i ≤ 5 := by
  unfold rank
  split
  · omega
  · split
    · omega
    · exact (heldRank_le_iff.mpr fun l _ => rank_le_four l).trans (by omega)

/-! A row that a session sees is committed, or the session has inserted it and holds the locks
of the insert. -/

section Rows

variable {id : UUID} {c : Call} {env : Env} {view x : Db} {change : Db → Db}

/-- Rows are never deleted. -/
theorem isSome_of_effect (effect : Effect env view c change)
    (h : (x.transaction? id).isSome = true) : ((change x).transaction? id).isSome = true := by
  cases effect with
  | none => exact h
  | insert t =>
    rw [Db.transaction?_insert]
    split
    · rfl
    · exact h
  | setStatus => rwa [Db.transaction?_setStatus, Option.isSome_map]
  | adjust => exact h

theorem isSome_or_of_effect (effect : Effect env view c change)
    (h : ((change x).transaction? id).isSome = true) :
    (x.transaction? id).isSome = true ∨ ∃ a, Lock.account a .keyShare ∈ needs c env view := by
  cases effect with
  | none => exact .inl h
  | insert t succeeds created =>
    refine .inr ⟨t.accountID, ?_⟩
    simp [needs_of_none succeeds, Call.locks_create (Db.not_duplicate_of_create created)]
  | setStatus =>
    rw [Db.transaction?_setStatus, Option.isSome_map] at h
    exact .inl h
  | adjust => exact .inl h

theorem mem_locks_of_needs {l : Lock} (h : l ∈ needs c env view) :
    env.failure = none ∧ l ∈ c.locks view := by
  unfold needs at h
  split at h
  · cases h
  · next hfailure => exact ⟨by simpa using hfailure, h⟩

theorem isSome_or_of_needs (h : Lock.transaction id ∈ needs c env view) :
    (view.transaction? id).isSome = true ∨ ∃ a, Lock.account a .keyShare ∈ needs c env view := by
  obtain ⟨succeeds, hlock⟩ := mem_locks_of_needs h
  rw [needs_of_none succeeds]
  cases c with
  | now | newID | findByReferenceID => cases hlock
  | findByAccountNumberForUpdate number => simp [Call.locks] at hlock
  | adjustBalances => simp [Call.locks] at hlock
  | create t =>
    simp only [Call.locks] at hlock ⊢
    split at hlock
    · cases hlock
    · next hduplicate => exact .inr ⟨t.accountID, by simp [hduplicate]⟩
  | findByIDForUpdate other | updateStatus other =>
    simp only [Call.locks, List.mem_ite_nil_right, List.mem_singleton, Lock.transaction.injEq]
      at hlock
    exact .inl (hlock.2 ▸ hlock.1)

/-- What a session sees and holds, next to the committed tables. -/
structure SeesRows (db : Db) (conf : Conf Db Lock Call Reply Result) : Prop where
  kept : ∀ id, (db.transaction? id).isSome = true →
    ((conf.change db).transaction? id).isSome = true
  seen : ∀ id, ((conf.change db).transaction? id).isSome = true →
    (db.transaction? id).isSome = true ∨ ∃ a, Lock.account a .keyShare ∈ conf.held
  locked : ∀ id, Lock.transaction id ∈ conf.held →
    (db.transaction? id).isSome = true ∨ ∃ a, Lock.account a .keyShare ∈ conf.held

theorem seesRows_replay (db : Db) (script : BankScript) (envs : List Env) :
    SeesRows db (replay backend db script envs) := by
  refine replay_induction (P := SeesRows db) ⟨fun _ h => h, fun _ => .inl, nofun⟩ ?_ envs
  intro conf env ih
  cases hscript : conf.script with
  | done a => rwa [Conf.advance_of_done hscript]
  | call c next =>
    rw [Conf.advance_of_call hscript]
    have hnew : ∀ {a}, Lock.account a .keyShare ∈ needs c env (conf.change db) →
        ∃ a, Lock.account a .keyShare ∈ conf.held ++ needs c env (conf.change db) :=
      fun h => ⟨_, List.mem_append_right _ h⟩
    have hseen : ∀ id, ((conf.change db).transaction? id).isSome = true →
        (db.transaction? id).isSome = true ∨
          ∃ a, Lock.account a .keyShare ∈ conf.held ++ needs c env (conf.change db) :=
      fun id h => (ih.seen id h).imp_right fun h => ⟨h.choose, List.mem_append_left _ h.choose_spec⟩
    have heffect := effect_exec c env (conf.change db)
    refine ⟨fun id h => ?_, fun id h => ?_, fun id h => ?_⟩
    · have hkept := isSome_of_effect heffect (ih.kept id h)
      exact hkept
    · obtain hbefore | ⟨a, ha⟩ := isSome_or_of_effect heffect h
      · exact hseen id hbefore
      · exact .inr (hnew ha)
    · rcases List.mem_append.mp h with hheld | hneeds
      · exact (ih.locked id hheld).imp_right fun h =>
          ⟨h.choose, List.mem_append_left _ h.choose_spec⟩
      · obtain hview | ⟨a, ha⟩ := isSome_or_of_needs hneeds
        · exact hseen id hview
        · exact .inr (hnew ha)

end Rows

theorem conflict_account {id : UUID} {mode : LockMode} {l : Lock}
    (h : (Lock.account id mode).conflict l = true) :
    ∃ mode', l = .account id mode' ∧ mode.conflict mode' = true := by
  cases l with
  | account other mode' =>
    simp only [Lock.conflict, Bool.and_eq_true, decide_eq_true_eq] at h
    exact ⟨mode', by rw [h.1], h.2⟩
  | transaction | index => cases h

theorem conflict_transaction {id : UUID} {l : Lock}
    (h : (Lock.transaction id).conflict l = true) : l = .transaction id := by
  cases l with
  | transaction other => simpa [Lock.conflict, eq_comm] using h
  | account | index => cases h

theorem conflict_index {key : UUID × TransactionType} {l : Lock}
    (h : (Lock.index key).conflict l = true) : l = .index key := by
  cases l with
  | index other => simpa [Lock.conflict, eq_comm] using h
  | account | transaction => cases h

/-- A lock that is waited for has a higher rank than those that are held. It is not so with
the id of a new row, if another session has locked or inserted a row of this id. -/
theorem heldRank_lt_of_conflict {c : Call} {held : List Lock} {view : Db} {n l : Lock}
    (respects : Respects c held) (apart : ∀ l' ∈ held, l'.conflict l = false)
    (needed : n ∈ c.locks view) (conflict : n.conflict l = true) :
    heldRank held < l.rank ∨
      ∃ t, c = .create t ∧ l = .transaction t.id ∧ view.duplicate t = false ∧
        heldRank held ≤ 2 := by
  cases c with
  | now | newID | findByReferenceID => cases needed
  | findByAccountNumberForUpdate number =>
    obtain ⟨id, -, rfl⟩ : ∃ id, _ ∧ Lock.account id .forUpdate = n := by
      simpa [Call.locks] using needed
    obtain ⟨mode, rfl, -⟩ := conflict_account conflict
    rw [show held = [] from respects]
    left
    cases mode <;> simp [heldRank, Lock.rank]
  | findByIDForUpdate id =>
    obtain ⟨-, rfl⟩ : _ ∧ n = Lock.transaction id := by simpa [Call.locks] using needed
    rw [show held = [] from respects, conflict_transaction conflict]
    exact .inl (by simp [heldRank, Lock.rank])
  | updateStatus id status =>
    -- The row is locked already, so nobody else has it.
    obtain ⟨-, rfl⟩ : _ ∧ n = Lock.transaction id := by simpa [Call.locks] using needed
    rw [apart _ respects] at conflict
    cases conflict
  | adjustBalances id =>
    obtain ⟨-, rfl⟩ : _ ∧ n = Lock.account id .noKeyUpdate := by simpa [Call.locks] using needed
    obtain ⟨mode, rfl, hmode⟩ := conflict_account conflict
    cases mode with
    | keyShare => cases hmode
    | forUpdate =>
      have hown := apart _ respects.1
      simp [Lock.conflict, LockMode.conflict] at hown
    | noKeyUpdate => exact .inl (Nat.lt_succ_of_le (heldRank_le_iff.mpr respects.2))
  | create t =>
    simp only [Call.locks, List.mem_ite_nil_left, Bool.not_eq_true, List.mem_cons,
      Option.mem_toList, Option.map_eq_some_iff] at needed
    obtain ⟨hduplicate, rfl | rfl | ⟨key, -, rfl⟩⟩ := needed
    · exact .inr ⟨t, rfl, conflict_transaction conflict, hduplicate,
        heldRank_le_iff.mpr respects.2.1⟩
    · obtain ⟨mode, rfl, hmode⟩ := conflict_account conflict
      cases mode with
      | keyShare | noKeyUpdate => cases hmode
      | forUpdate =>
        obtain hown | hlow := respects.2.2
        · have happart := apart _ hown
          simp [Lock.conflict, LockMode.conflict] at happart
        · exact .inl (Nat.lt_succ_of_le (heldRank_le_iff.mpr hlow))
    · rw [conflict_index conflict]
      exact .inl (Nat.lt_succ_of_le (heldRank_le_iff.mpr respects.2.1))

/-- A session that waits has a lower rank than the one it waits for. -/
theorem rank_lt_of_waits (inv : Sessions.Inv backend commits bank.IsScript db s) {i j : ℕ}
    (h : Sessions.Waits backend s i j) : rank s i < rank s j := by
  obtain ⟨session, c, next, env, l, hi, hscript, hne, hlock, n, hn, hconflict⟩ := h
  obtain ⟨other, hj, hl⟩ := inv.owned j l hlock
  have hranki : rank s i = heldRank session.conf.held := by simp [rank, hi, hscript]
  have hreplay := inv.replays i session hi (by rw [hscript]; exact nofun)
  have hguarded := (inv.running i session hi).guarded.replay s.db session.envs
  rw [← hreplay, hscript] at hguarded
  have hapart : ∀ l' ∈ session.conf.held, l'.conflict l = false := fun l' hl' =>
    inv.apart i j l' l (inv.held i session hi l' hl') hlock hne.symm
  rw [hranki]
  cases hother : other.conf.script with
  | done a =>
    rw [show rank s j = 5 by simp [rank, hj, hother]]
    exact Nat.lt_of_le_of_lt (heldRank_le_iff.mpr fun l _ => rank_le_four l) (by omega)
  | call c' next' =>
    have hrankj : rank s j = heldRank other.conf.held := by simp [rank, hj, hother]
    have hreplayj := inv.replays j other hj (by rw [hother]; exact nofun)
    rw [hrankj]
    obtain hlt | ⟨t, rfl, rfl, hduplicate, hle⟩ :=
      heldRank_lt_of_conflict hguarded.1 hapart (mem_locks_of_needs hn).2 hconflict
    · exact Nat.lt_of_lt_of_le hlt (rank_le_heldRank hl)
    · -- The other session has inserted the row, or it is committed and a duplicate.
      have hsees := seesRows_replay s.db other.start other.envs
      rw [← hreplayj] at hsees
      obtain hcommitted | ⟨a, ha⟩ := hsees.locked t.id hl
      · have hkept := (seesRows_replay s.db session.start session.envs).kept t.id hcommitted
        rw [← hreplay] at hkept
        rw [Db.duplicate, hkept, Bool.true_or] at hduplicate
        cases hduplicate
      · exact Nat.lt_of_le_of_lt hle (rank_le_heldRank ha)

end Bank

end PaymentGateway.MockBank
