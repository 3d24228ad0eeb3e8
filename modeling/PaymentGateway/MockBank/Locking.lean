/-
# The services respect their locks

What a transaction has locked stays as it saw it until it ends: the row of a
transaction and the settlements that refer to it, and the row of an account that it
is going to adjust. The settlements of a row are inserted only by transactions that
hold a lock on the row, which is why `performVoid` may look for a capture with a
plain `SELECT`.

The scripts of the four operations are therefore guarded, so the transactions of the
bank are serializable, although they run at READ COMMITTED.
-/

import PaymentGateway.MockBank.Services

namespace PaymentGateway.MockBank

open Lib

/-! ## What locks shelter -/

/-- Two states of the tables agree on what locks shelter. -/
structure Agree (held : List Lock) (x y : Db) : Prop where
  accountIDs : x.accountIDs = y.accountIDs
  present : ∀ id, (x.accounts id).isSome = (y.accounts id).isSome
  accounts : ∀ id mode, .account id mode ∈ held → mode ≠ .keyShare → x.accounts id = y.accounts id
  rows : ∀ id, .transaction id ∈ held → x.transaction? id = y.transaction? id
  referring : ∀ id type, .transaction id ∈ held →
    (x.referring? (id, type)).isSome = (y.referring? (id, type)).isSome

/-- The order in which locks are taken: the row of a transaction, the row of an account that
is to be read, what an insert takes, and the row of an account that is adjusted. -/
def Lock.rank : Lock → ℕ
  | transaction _ => 1
  | account _ .forUpdate => 2
  | account _ .keyShare => 3
  | index _ => 3
  | account _ .noKeyUpdate => 4

/-- How the services keep to this order. A service starts with the row that it looks for. It
inserts a row under the lock of the row it refers to, or of the account, and it adjusts the
balances of that account after the insert. -/
def Respects (c : Call) (held : List Lock) : Prop :=
  match c with
  | .now | .newID => True
  | .findByAccountNumberForUpdate _ | .findByIDForUpdate _ => held = []
  | .findByReferenceID id _ | .updateStatus id _ => .transaction id ∈ held
  | .create t => (∀ key ∈ t.indexKey, .transaction key.1 ∈ held) ∧ (∀ l ∈ held, l.rank ≤ 2) ∧
      (.account t.accountID .forUpdate ∈ held ∨ ∀ l ∈ held, l.rank ≤ 1)
  | .adjustBalances id _ _ => .account id .keyShare ∈ held ∧ ∀ l ∈ held, l.rank ≤ 3

variable {held other : List Lock} {x y : Db}

theorem LockMode.conflict_symm (mode mode' : LockMode) :
    mode.conflict mode' = mode'.conflict mode := by
  cases mode <;> cases mode' <;> rfl

theorem Lock.conflict_symm (l l' : Lock) : l.conflict l' = l'.conflict l := by
  cases l <;> cases l' <;>
    simp [Lock.conflict, LockMode.conflict_symm, eq_comm]

namespace Agree

theorem refl (held : List Lock) (db : Db) : Agree held db db :=
  ⟨rfl, fun _ => rfl, fun _ _ _ _ => rfl, fun _ _ => rfl, fun _ _ _ => rfl⟩

theorem trans {z : Db} (h : Agree held x y) (h' : Agree held y z) : Agree held x z where
  accountIDs := h.accountIDs.trans h'.accountIDs
  present id := (h.present id).trans (h'.present id)
  accounts id mode hl hmode := (h.accounts id mode hl hmode).trans (h'.accounts id mode hl hmode)
  rows id hl := (h.rows id hl).trans (h'.rows id hl)
  referring id type hl := (h.referring id type hl).trans (h'.referring id type hl)

theorem mono (hsub : held ⊆ other) (h : Agree other x y) : Agree held x y where
  accountIDs := h.accountIDs
  present := h.present
  accounts id mode hl := h.accounts id mode (hsub hl)
  rows id hl := h.rows id (hsub hl)
  referring id type hl := h.referring id type (hsub hl)

theorem insert (h : Agree held x y) (t : Transaction) : Agree held (x.insert t) (y.insert t) where
  accountIDs := h.accountIDs
  present := h.present
  accounts := h.accounts
  rows id hl := by rw [Db.transaction?_insert, Db.transaction?_insert, h.rows id hl]
  referring id type hl := by
    rw [Db.referring?_insert, Db.referring?_insert]
    split
    · rfl
    · exact h.referring id type hl

theorem setStatus (h : Agree held x y) (id : UUID) (status : TransactionStatus) :
    Agree held (x.setStatus id status) (y.setStatus id status) where
  accountIDs := h.accountIDs
  present := h.present
  accounts := h.accounts
  rows other hl := by rw [Db.transaction?_setStatus, Db.transaction?_setStatus, h.rows other hl]
  referring other type hl := by
    rw [Db.referring?_setStatus, Db.referring?_setStatus, Option.isSome_map, Option.isSome_map]
    exact h.referring other type hl

theorem adjust (h : Agree held x y) (id : UUID) (balanceDelta availableBalanceDelta : ℤ) :
    Agree held (x.adjust id balanceDelta availableBalanceDelta)
      (y.adjust id balanceDelta availableBalanceDelta) where
  accountIDs := h.accountIDs
  present other := by
    rw [Db.isSome_accounts_adjust, Db.isSome_accounts_adjust, h.present other]
  accounts other mode hl hmode := by
    rcases eq_or_ne other id with rfl | hne
    · rw [Db.accounts_adjust_self, Db.accounts_adjust_self, h.accounts other mode hl hmode]
    · rw [Db.accounts_adjust_of_ne _ _ _ hne, Db.accounts_adjust_of_ne _ _ _ hne,
        h.accounts other mode hl hmode]
  rows := h.rows
  referring := h.referring

/-- An insert is seen by nobody who locked the new row or the row it refers to. -/
theorem of_insert (db : Db) {t : Transaction} (hrow : .transaction t.id ∉ held)
    (hkey : ∀ key ∈ t.indexKey, .transaction key.1 ∉ held) : Agree held db (db.insert t) where
  accountIDs := rfl
  present _ := rfl
  accounts _ _ _ _ := rfl
  rows id hl := by
    rw [Db.transaction?_insert, if_neg]
    rintro rfl
    exact hrow hl
  referring id type hl := by
    rw [Db.referring?_insert, if_neg]
    intro hindex
    exact hkey (id, type) hindex hl

theorem of_setStatus (db : Db) {id : UUID} (status : TransactionStatus)
    (hrow : .transaction id ∉ held) : Agree held db (db.setStatus id status) where
  accountIDs := rfl
  present _ := rfl
  accounts _ _ _ _ := rfl
  rows other hl := by
    rw [Db.transaction?_setStatus]
    cases hfound : db.transaction? other with
    | none => rfl
    | some t =>
      rw [Option.map_some, t.withStatus_of_ne]
      rintro rfl
      rw [Db.id_of_transaction? hfound] at hrow
      exact hrow hl
  referring other type _ := by rw [Db.referring?_setStatus, Option.isSome_map]

theorem of_adjust (db : Db) {id : UUID} (balanceDelta availableBalanceDelta : ℤ)
    (hrow : ∀ mode, .account id mode ∈ held → mode = .keyShare) :
    Agree held db (db.adjust id balanceDelta availableBalanceDelta) where
  accountIDs := rfl
  present other := (db.isSome_accounts_adjust id other _ _).symm
  accounts other mode hl hmode := by
    rw [db.accounts_adjust_of_ne]
    rintro rfl
    exact hmode (hrow mode hl)
  rows _ _ := rfl
  referring _ _ _ := rfl

end Agree

/-! ## What a call changes -/

/-- The changes that a call makes in an environment, on what its transaction sees. -/
inductive Effect (env : Env) (view : Db) : Call → (Db → Db) → Prop
  | none (c : Call) : Effect env view c id
  | insert (t : Transaction) (succeeds : env.failure = Option.none)
      (created : view.create t = .ok ()) : Effect env view (.create t) (·.insert t)
  | setStatus (id : UUID) (status : TransactionStatus) (succeeds : env.failure = Option.none)
      (updated : view.updateStatus id = .ok ()) :
      Effect env view (.updateStatus id status) (·.setStatus id status)
  | adjust (id : UUID) (balanceDelta availableBalanceDelta : ℤ)
      (succeeds : env.failure = Option.none)
      (adjusted : view.adjustBalances id balanceDelta availableBalanceDelta = .ok ()) :
      Effect env view (.adjustBalances id balanceDelta availableBalanceDelta)
        (·.adjust id balanceDelta availableBalanceDelta)

theorem effect_exec (c : Call) (env : Env) (view : Db) : Effect env view c (exec c env view).2 := by
  cases c with
  | now | newID => exact .none _
  | findByAccountNumberForUpdate _ | findByIDForUpdate _ | findByReferenceID _ _ =>
    simp only [exec]
    split <;> exact .none _
  | adjustBalances id balanceDelta availableBalanceDelta =>
    simp only [exec]
    split
    · exact .none _
    · next succeeds =>
      cases adjusted : view.adjustBalances id balanceDelta availableBalanceDelta with
      | error text => exact .none _
      | ok _ => exact .adjust id _ _ succeeds adjusted
  | create t =>
    simp only [exec]
    split
    · exact .none _
    · next succeeds =>
      cases created : view.create t with
      | error err => exact .none _
      | ok _ => exact .insert t succeeds created
  | updateStatus id status =>
    simp only [exec]
    split
    · exact .none _
    · next succeeds =>
      cases updated : view.updateStatus id with
      | error text => exact .none _
      | ok _ => exact .setStatus id status succeeds updated

/-- What a call changes keeps agreement. -/
theorem Effect.agree {c : Call} {env : Env} {view : Db} {change : Db → Db}
    (effect : Effect env view c change) (h : Agree held x y) :
    Agree held (change x) (change y) := by
  cases effect with
  | none => exact h
  | insert t => exact h.insert t
  | setStatus id status => exact h.setStatus id status
  | adjust id => exact h.adjust id _ _

theorem not_mem_of_apart {l l' : Lock} (apart : Apart backend held other) (h : l ∈ held)
    (hconflict : l.conflict l' = true) : l' ∉ other := by
  intro h'
  rw [show l.conflict l' = false from apart l h l' h'] at hconflict
  cases hconflict

/-! What a statement that succeeds has found, and locked. -/

theorem needs_of_none {env : Env} (h : env.failure = none) (c : Call) (db : Db) :
    needs c env db = c.locks db := by
  simp [needs, h]

theorem Db.isSome_of_adjustBalances {db : Db} {id : UUID} {balanceDelta availableBalanceDelta : ℤ}
    (h : db.adjustBalances id balanceDelta availableBalanceDelta = .ok ()) :
    (db.accounts id).isSome = true := by
  cases hfound : db.accounts id with
  | none => simp [adjustBalances, hfound] at h
  | some account => rfl

theorem Db.isSome_of_updateStatus {db : Db} {id : UUID} (h : db.updateStatus id = .ok ()) :
    (db.transaction? id).isSome = true := by
  by_contra habsent
  simp [updateStatus, habsent] at h

theorem Db.not_duplicate_of_create {db : Db} {t : Transaction} (h : db.create t = .ok ()) :
    db.duplicate t = false := by
  by_contra hduplicate
  rw [Bool.not_eq_false] at hduplicate
  simp [create, hduplicate] at h

theorem Call.locks_create {db : Db} {t : Transaction} (h : db.duplicate t = false) :
    (Call.create t).locks db =
      .transaction t.id :: .account t.accountID .keyShare :: (t.indexKey.map .index).toList := by
  simp [locks, h]

/-- What a call changes is locked by nobody else. -/
theorem Effect.confined {c : Call} {env : Env} {view : Db} {change : Db → Db}
    (effect : Effect env view c change) (ok : Respects c held)
    (apart : Apart backend (held ++ needs c env view) other) (db : Db) :
    Agree other db (change db) := by
  cases effect with
  | none => exact .refl other db
  | insert t succeeds created =>
    have hlocked : Lock.transaction t.id ∈ held ++ needs (.create t) env view := by
      simp [needs_of_none succeeds, Call.locks_create (Db.not_duplicate_of_create created)]
    refine .of_insert db (not_mem_of_apart apart hlocked (by simp [Lock.conflict]))
      fun key hkey => ?_
    exact not_mem_of_apart apart (List.mem_append_left _ (ok.1 key hkey)) (by simp [Lock.conflict])
  | setStatus id status =>
    exact .of_setStatus db status
      (not_mem_of_apart apart (List.mem_append_left _ ok) (by simp [Lock.conflict]))
  | adjust id balanceDelta availableBalanceDelta succeeds adjusted =>
    have hlocked : Lock.account id .noKeyUpdate ∈
        held ++ needs (.adjustBalances id balanceDelta availableBalanceDelta) env view := by
      simp [needs_of_none succeeds, Call.locks, Db.isSome_of_adjustBalances adjusted]
    refine .of_adjust db _ _ fun mode hmode => ?_
    cases mode with
    | keyShare => rfl
    | forUpdate | noKeyUpdate =>
      exact absurd hmode (not_mem_of_apart apart hlocked
        (by simp [Lock.conflict, LockMode.conflict]))

/-- The locks of the bank. -/
def discipline : Discipline backend where
  Agree := Agree
  ok := Respects
  symm := Lock.conflict_symm
  refl := .refl
  trans := .trans
  mono := .mono
  keeps c env view _ _ _ h := (effect_exec c env view).agree h
  confined c env view _ _ ok apart db := (effect_exec c env view).confined ok apart db

/-! ## The scripts are guarded

A statement that fails ends its script with an error. So only statements that succeed
have to be sheltered. -/

section Guarded

variable {env : Env} {view : Db}

theorem guarded_fails {script : BankScript} (h : script.Fails commits) :
    discipline.Guarded commits held script := by
  cases script with
  | done result => trivial
  | call c next => exact h.elim

/-- A statement, if it succeeds, shelters what it has seen. -/
theorem guarded_call {c : Call} {next : Reply c → BankScript} (ok : Respects c held)
    (h : ∀ env view, (next (exec c env view).1).Fails commits ∨
      env.failure = none ∧
        discipline.Guarded commits (held ++ c.locks view) (next (exec c env view).1) ∧
        ∀ view', Agree (held ++ c.locks view) view view' →
          exec c env view' = exec c env view ∧ c.locks view' = c.locks view) :
    discipline.Guarded commits held (.call c next) := by
  refine ⟨ok, fun env view => ?_⟩
  obtain hfails | ⟨hfailure, hrest, hshelters⟩ := h env view
  · exact ⟨guarded_fails hfails, .inl hfails⟩
  · change discipline.Guarded commits (held ++ needs c env view) _ ∧ (_ ∨ ∀ view',
      Agree (held ++ needs c env view) view view' → _ ∧ needs c env view' = needs c env view)
    simp only [needs_of_none hfailure]
    exact ⟨hrest, .inr hshelters⟩

theorem guarded_now {next : Time → BankScript}
    (rest : ∀ instant, discipline.Guarded commits held (next instant)) :
    discipline.Guarded commits held (.call .now next) := by
  refine ⟨trivial, fun env view => ?_⟩
  have hneeds : ∀ view, backend.needs .now env view = [] := by simp [backend, needs, Call.locks]
  rw [hneeds, List.append_nil]
  exact ⟨rest _, .inr fun view' _ => ⟨rfl, by rw [hneeds, hneeds]⟩⟩

theorem guarded_newID {next : UUID → BankScript}
    (rest : ∀ id, discipline.Guarded commits held (next id)) :
    discipline.Guarded commits held (.call .newID next) := by
  refine ⟨trivial, fun env view => ?_⟩
  have hneeds : ∀ view, backend.needs .newID env view = [] := by simp [backend, needs, Call.locks]
  rw [hneeds, List.append_nil]
  exact ⟨rest _, .inr fun view' _ => ⟨rfl, by rw [hneeds, hneeds]⟩⟩

theorem guarded_findByAccountNumberForUpdate {accountNumber : GoString}
    {next : Except GoString Account → BankScript}
    (fails : ∀ text, (next (.error text)).Fails commits)
    (rest : ∀ account, discipline.Guarded commits [.account account.id .forUpdate]
      (next (.ok account))) :
    discipline.Guarded commits [] (.call (.findByAccountNumberForUpdate accountNumber) next) := by
  refine guarded_call rfl fun env view => ?_
  cases hfailure : env.failure with
  | some text =>
    simp only [exec, hfailure]
    exact .inl (fails _)
  | none =>
    simp only [exec, hfailure, Db.findByAccountNumberForUpdate, Db.accountByNumber?, Call.locks]
    cases hid : view.accountIDs accountNumber with
    | none => exact .inl (fails _)
    | some id =>
      obtain ⟨account, haccount, -⟩ := view.indexed accountNumber id hid
      simp only [Option.bind_some, haccount, Option.map_some, Option.toList_some, List.nil_append]
      refine .inr ⟨trivial, ?_, fun view' hagree => ?_⟩
      · rw [← view.keyed id account haccount]
        exact rest account
      · have haccount' := hagree.accounts id .forUpdate (by simp) nofun
        simp only [← hagree.accountIDs, hid, Option.bind_some, ← haccount', haccount,
          Option.map_some, Option.toList_some, and_self]

theorem guarded_findByIDForUpdate {id : UUID} {next : Except GoString Transaction → BankScript}
    (fails : ∀ text, (next (.error text)).Fails commits)
    (rest : ∀ t, t.id = id → discipline.Guarded commits [.transaction id] (next (.ok t))) :
    discipline.Guarded commits [] (.call (.findByIDForUpdate id) next) := by
  refine guarded_call rfl fun env view => ?_
  cases hfailure : env.failure with
  | some text =>
    simp only [exec, hfailure]
    exact .inl (fails _)
  | none =>
    simp only [exec, hfailure, Db.findByIDForUpdate, Call.locks]
    cases hfound : view.transaction? id with
    | none => exact .inl (fails _)
    | some t =>
      refine .inr ⟨trivial, rest t (Db.id_of_transaction? hfound), fun view' hagree => ?_⟩
      rw [← hagree.rows id (by simp), hfound]
      exact ⟨rfl, rfl⟩

/-- `performVoid` goes on where it finds no capture, and there cannot be one later. -/
theorem guarded_findByReferenceID {id : UUID} {type : TransactionType}
    {next : Except GoString (Option Transaction) → BankScript}
    (locked : .transaction id ∈ held) (fails : ∀ text, (next (.error text)).Fails commits)
    (found : ∀ t, (next (.ok (some t))).Fails commits)
    (rest : discipline.Guarded commits held (next (.ok none))) :
    discipline.Guarded commits held (.call (.findByReferenceID id type) next) := by
  refine guarded_call locked fun env view => ?_
  cases hfailure : env.failure with
  | some text =>
    simp only [exec, hfailure]
    exact .inl (fails _)
  | none =>
    simp only [exec, hfailure, Call.locks, List.append_nil]
    cases hfound : view.referring? (id, type) with
    | some t => exact .inl (found t)
    | none =>
      refine .inr ⟨trivial, rest, fun view' hagree => ?_⟩
      have hreferring := hagree.referring id type locked
      rw [hfound, Option.isSome_none] at hreferring
      rw [Option.isNone_iff_eq_none.mp (Option.isSome_eq_false_iff.mp hreferring.symm)]
      exact ⟨rfl, trivial⟩

theorem guarded_create {t : Transaction} {next : Except CreateError Unit → BankScript}
    (ok : Respects (.create t) held) (fails : ∀ err, (next (.error err)).Fails commits)
    (rest : discipline.Guarded commits (held ++ .transaction t.id ::
      .account t.accountID .keyShare :: (t.indexKey.map .index).toList) (next (.ok ()))) :
    discipline.Guarded commits held (.call (.create t) next) := by
  refine guarded_call ok fun env view => ?_
  cases hfailure : env.failure with
  | some text =>
    simp only [exec, hfailure]
    exact .inl (fails _)
  | none =>
    simp only [exec, hfailure]
    cases hreply : view.create t with
    | error err => exact .inl (fails err)
    | ok _ =>
      have hduplicate := Db.not_duplicate_of_create hreply
      rw [Call.locks_create hduplicate]
      refine .inr ⟨trivial, rest, fun view' hagree => ?_⟩
      -- No row has the new id, and none refers to the locked row with this type.
      have hduplicate' : view'.duplicate t = false := by
        rw [← hduplicate, Db.duplicate, Db.duplicate, hagree.rows t.id (by simp)]
        congr 1
        cases hindex : t.indexKey with
        | none => rfl
        | some key =>
          exact (hagree.referring key.1 key.2 (List.mem_append_left _ (ok.1 key hindex))).symm
      have hreply' : view'.create t = .ok () := by
        rw [← hreply, Db.create, Db.create, hduplicate, hduplicate', hagree.present]
      rw [hreply', Call.locks_create hduplicate']
      exact ⟨rfl, rfl⟩

theorem guarded_updateStatus {id : UUID} {status : TransactionStatus}
    {next : Except GoString Unit → BankScript} (locked : .transaction id ∈ held)
    (fails : ∀ text, (next (.error text)).Fails commits)
    (rest : discipline.Guarded commits (held ++ [.transaction id]) (next (.ok ()))) :
    discipline.Guarded commits held (.call (.updateStatus id status) next) := by
  refine guarded_call locked fun env view => ?_
  cases hfailure : env.failure with
  | some text =>
    simp only [exec, hfailure]
    exact .inl (fails _)
  | none =>
    simp only [exec, hfailure, Call.locks]
    cases hreply : view.updateStatus id with
    | error text => exact .inl (fails text)
    | ok _ =>
      rw [if_pos (Db.isSome_of_updateStatus hreply)]
      refine .inr ⟨trivial, rest, fun view' hagree => ?_⟩
      have hrow := hagree.rows id (List.mem_append_left _ locked)
      rw [Db.updateStatus, ← hrow, ← Db.updateStatus, hreply,
        if_pos (Db.isSome_of_updateStatus hreply)]
      exact ⟨rfl, rfl⟩

/-- The balances are adjusted by the last statement of a script. -/
theorem guarded_adjustBalances {id : UUID} {balanceDelta availableBalanceDelta : ℤ}
    {next : Except GoString Unit → BankScript}
    (ok : Respects (.adjustBalances id balanceDelta availableBalanceDelta) held)
    (fails : ∀ text, (next (.error text)).Fails commits) {result : Result}
    (last : next (.ok ()) = .done result) :
    discipline.Guarded commits held
      (.call (.adjustBalances id balanceDelta availableBalanceDelta) next) := by
  refine guarded_call ok fun env view => ?_
  cases hfailure : env.failure with
  | some text =>
    simp only [exec, hfailure]
    exact .inl (fails _)
  | none =>
    simp only [exec, hfailure, Call.locks]
    cases hreply : view.adjustBalances id balanceDelta availableBalanceDelta with
    | error text => exact .inl (fails text)
    | ok _ =>
      have hpresent := Db.isSome_of_adjustBalances hreply
      rw [if_pos hpresent, last]
      refine .inr ⟨trivial, trivial, fun view' hagree => ?_⟩
      have haccount := hagree.accounts id .noKeyUpdate (by simp) nofun
      rw [Db.adjustBalances, ← haccount, ← Db.adjustBalances, hreply, if_pos hpresent]
      exact ⟨rfl, rfl⟩

end Guarded

theorem guarded_hold (bank : Bank) (account : Account) (amount : ℤ) :
    discipline.Guarded commits [.account account.id .forUpdate] (bank.hold account amount) := by
  unfold Bank.hold
  split
  · trivial
  · refine guarded_newID fun authID => guarded_now fun expiryBase => guarded_now fun createdAt => ?_
    refine guarded_create ⟨nofun, by simp [Lock.rank], .inl (by simp)⟩ (fun _ => rfl) ?_
    exact guarded_adjustBalances ⟨by simp, by simp [Transaction.indexKey, Lock.rank]⟩
      (fun _ => rfl) rfl

theorem guarded_authorize (bank : Bank) (cardNumber cvv : GoString) (amount : ℤ) :
    discipline.Guarded commits [] (bank.authorize cardNumber cvv amount) := by
  unfold Bank.authorize
  split
  · trivial
  · simp only [Bank.performAuthorization, Script.ask_bind]
    refine guarded_findByAccountNumberForUpdate (fun _ => rfl) fun account => ?_
    dsimp only
    split
    · trivial
    · split
      · trivial
      · refine guarded_now fun instant => ?_
        split
        · trivial
        · exact guarded_hold bank account amount

/-- A settlement is inserted under the lock of the row that it refers to. -/
theorem respects_settle (t : Transaction) (id : UUID) {type : TransactionType} (createdAt : Time)
    (htype : type ≠ .authHold) :
    Respects (.create (t.settle id type createdAt)) [.transaction t.id] := by
  refine ⟨fun key hkey => ?_, by simp [Lock.rank], .inr (by simp [Lock.rank])⟩
  rw [Option.mem_def, t.indexKey_settle id type createdAt htype] at hkey
  cases hkey
  exact List.mem_singleton_self _

theorem guarded_recordCapture (t : Transaction) :
    discipline.Guarded commits [.transaction t.id] (recordCapture t) := by
  refine guarded_newID fun id => guarded_now fun createdAt => ?_
  refine guarded_create (respects_settle t id createdAt nofun)
    (fun err => by cases err <;> rfl) ?_
  refine guarded_updateStatus (by simp) (fun _ => rfl) ?_
  exact guarded_adjustBalances ⟨by simp [Transaction.settle],
    by simp [Transaction.settle, Transaction.indexKey, Lock.rank]⟩ (fun _ => rfl) rfl

theorem guarded_recordVoid (t : Transaction) :
    discipline.Guarded commits [.transaction t.id] (recordVoid t) := by
  refine guarded_newID fun id => guarded_now fun createdAt => ?_
  refine guarded_create (respects_settle t id createdAt nofun) (fun err => by cases err <;> rfl) ?_
  refine guarded_updateStatus (by simp) (fun _ => rfl) ?_
  exact guarded_adjustBalances ⟨by simp [Transaction.settle],
    by simp [Transaction.settle, Transaction.indexKey, Lock.rank]⟩ (fun _ => rfl) rfl

theorem guarded_recordRefund (t : Transaction) :
    discipline.Guarded commits [.transaction t.id] (recordRefund t) := by
  refine guarded_newID fun id => guarded_now fun createdAt => ?_
  refine guarded_create (respects_settle t id createdAt nofun)
    (fun err => by cases err <;> rfl) ?_
  exact guarded_adjustBalances ⟨by simp [Transaction.settle],
    by simp [Transaction.settle, Transaction.indexKey, Lock.rank]⟩ (fun _ => rfl) rfl

theorem guarded_captureActive (t : Transaction) (amount : ℤ) :
    discipline.Guarded commits [.transaction t.id] (captureActive t amount) := by
  simp only [captureActive, Script.ask_bind]
  split
  · refine guarded_now fun instant => ?_
    split
    · trivial
    · split
      · trivial
      · exact guarded_recordCapture t
  · split
    · trivial
    · exact guarded_recordCapture t

theorem guarded_performCapture (authorizationID : UUID) (amount : ℤ) :
    discipline.Guarded commits [] (performCapture authorizationID amount) := by
  simp only [performCapture, Script.ask_bind]
  refine guarded_findByIDForUpdate (fun _ => rfl) fun t hid => ?_
  subst hid
  dsimp only
  split
  · trivial
  · split
    · trivial
    · exact guarded_captureActive t amount

theorem guarded_performVoid (authorizationID : UUID) :
    discipline.Guarded commits [] (performVoid authorizationID) := by
  simp only [performVoid, Script.ask_bind]
  refine guarded_findByIDForUpdate (fun _ => rfl) fun t hid => ?_
  subst hid
  dsimp only
  split
  · trivial
  · split
    · trivial
    · exact guarded_findByReferenceID (List.mem_singleton_self _) (fun _ => rfl) (fun _ => rfl)
        (guarded_recordVoid t)

theorem guarded_performRefund (captureID : UUID) (amount : ℤ) :
    discipline.Guarded commits [] (performRefund captureID amount) := by
  simp only [performRefund, Script.ask_bind]
  refine guarded_findByIDForUpdate (fun _ => rfl) fun t hid => ?_
  subst hid
  dsimp only
  split
  · trivial
  · split
    · trivial
    · split
      · trivial
      · exact guarded_recordRefund t

theorem guarded_script (bank : Bank) (request : ServiceRequest) :
    discipline.Guarded commits [] (bank.script request) := by
  cases request with
  | authorize cardNumber cvv amount => exact guarded_authorize bank cardNumber cvv amount
  | capture authorizationID amount => exact guarded_performCapture authorizationID amount
  | void authorizationID => exact guarded_performVoid authorizationID
  | refund captureID amount => exact guarded_performRefund captureID amount

end PaymentGateway.MockBank
