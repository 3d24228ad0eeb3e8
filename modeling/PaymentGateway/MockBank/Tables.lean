/-
# The tables of the mock bank

`models`, `repository` and the migration of `mock-bank/bank`. The repositories run
one statement per method, within the transaction of a service. A statement is a call
of a script: it is executed on the tables as its transaction sees them, and it waits
for row locks and for unfinished inserts of the same index key.

Row locks are those of PostgreSQL. `SELECT ... FOR UPDATE` takes the strongest mode
and an `UPDATE` that changes no key column the next one; an insert takes `FOR KEY
SHARE` on the account that its foreign key names. The rows of `transactions` are
referenced by no foreign key, so one mode is enough for them.

The clock and the generator of ids are calls as well, since a service reads them
between its statements. Accounts are never inserted, deleted or renumbered, so the
unique index on their numbers stays as it is.
-/

import PaymentGateway.Lib.Sessions
import PaymentGateway.App.Fingerprint

namespace PaymentGateway.MockBank

open Lib

/-! ## Models -/

/-- `uuid.UUID`. -/
structure UUID where
  bytes : List UInt8
  length : bytes.length = 16
  deriving DecidableEq, Repr

/-- `TransactionType`. -/
inductive TransactionType
  | authHold
  | capture
  | void
  | refund
  deriving DecidableEq, Repr

/-- `TransactionStatus`. -/
inductive TransactionStatus
  | active
  | completed
  | expired
  deriving DecidableEq, Repr

/-- `Account`, without the times of the row, which nothing reads. -/
structure Account where
  id : UUID
  accountNumber : GoString
  cvv : GoString
  expiryMonth : ℤ
  expiryYear : ℤ
  balanceCents : ℤ
  availableBalanceCents : ℤ
  deriving DecidableEq, Repr

/-- `Transaction`. The services set no metadata. -/
structure Transaction where
  id : UUID
  accountID : UUID
  type : TransactionType
  amountCents : ℤ
  currency : GoString
  referenceID : Option UUID
  status : TransactionStatus
  expiresAt : Option Time
  createdAt : Time
  deriving DecidableEq, Repr

/-- The key of a row in `idx_transactions_reference_type_unique`, if it is indexed. -/
def Transaction.indexKey (t : Transaction) : Option (UUID × TransactionType) :=
  match t.type with
  | .authHold => none
  | .capture | .void | .refund => t.referenceID.map (·, t.type)

/-- A row after an `UPDATE` of the status of one row. -/
def Transaction.withStatus (t : Transaction) (id : UUID) (status : TransactionStatus) :
    Transaction :=
  if t.id = id then { t with status } else t

section WithStatus

variable (t : Transaction) (id : UUID) (status : TransactionStatus)

@[simp] theorem Transaction.withStatus_id : (t.withStatus id status).id = t.id := by
  unfold withStatus; split <;> rfl

@[simp] theorem Transaction.withStatus_accountID :
    (t.withStatus id status).accountID = t.accountID := by
  unfold withStatus; split <;> rfl

@[simp] theorem Transaction.withStatus_type : (t.withStatus id status).type = t.type := by
  unfold withStatus; split <;> rfl

@[simp] theorem Transaction.withStatus_amountCents :
    (t.withStatus id status).amountCents = t.amountCents := by
  unfold withStatus; split <;> rfl

@[simp] theorem Transaction.withStatus_currency :
    (t.withStatus id status).currency = t.currency := by
  unfold withStatus; split <;> rfl

@[simp] theorem Transaction.withStatus_referenceID :
    (t.withStatus id status).referenceID = t.referenceID := by
  unfold withStatus; split <;> rfl

@[simp] theorem Transaction.withStatus_expiresAt :
    (t.withStatus id status).expiresAt = t.expiresAt := by
  unfold withStatus; split <;> rfl

@[simp] theorem Transaction.withStatus_indexKey :
    (t.withStatus id status).indexKey = t.indexKey := by
  unfold withStatus; split <;> rfl

theorem Transaction.withStatus_self : t.withStatus t.id status = { t with status } := if_pos rfl

variable {t id}

theorem Transaction.withStatus_of_ne (h : t.id ≠ id) : t.withStatus id status = t := if_neg h

end WithStatus

/-- The tables `accounts` and `transactions`. `accountIDs` is the unique index on
`account_number`. -/
structure Db where
  accountIDs : GoString → Option UUID
  accounts : UUID → Option Account
  transactions : List Transaction
  keyed : ∀ id account, accounts id = some account → account.id = id
  indexed : ∀ number id, accountIDs number = some id →
    ∃ account, accounts id = some account ∧ account.accountNumber = number

namespace Db

/-- The row of a transaction. -/
def transaction? (db : Db) (id : UUID) : Option Transaction :=
  db.transactions.find? (·.id = id)

/-- The indexed row of a reference and a type. -/
def referring? (db : Db) (key : UUID × TransactionType) : Option Transaction :=
  db.transactions.find? (·.indexKey = some key)

/-- The row of an account number. -/
def accountByNumber? (db : Db) (number : GoString) : Option Account :=
  (db.accountIDs number).bind db.accounts

/-- Insert a row. -/
def insert (db : Db) (t : Transaction) : Db := { db with transactions := t :: db.transactions }

/-- Set the status of a row. -/
def setStatus (db : Db) (id : UUID) (status : TransactionStatus) : Db :=
  { db with transactions := db.transactions.map (·.withStatus id status) }

end Db

/-- The balances after an adjustment. -/
def Account.adjust (account : Account) (balanceDelta availableBalanceDelta : ℤ) : Account :=
  { account with
    balanceCents := account.balanceCents + balanceDelta
    availableBalanceCents := account.availableBalanceCents + availableBalanceDelta }

/-- The range of a `BIGINT`. -/
def inBigint (n : ℤ) : Bool := -2 ^ 63 ≤ n && n < 2 ^ 63

/-- Both balances fit their columns. -/
def Account.fits (account : Account) : Bool :=
  inBigint account.balanceCents && inBigint account.availableBalanceCents

/-- Adjust the balances of an account. -/
def Db.adjust (db : Db) (id : UUID) (balanceDelta availableBalanceDelta : ℤ) : Db where
  accountIDs := db.accountIDs
  accounts := Function.update db.accounts id
    ((db.accounts id).map (·.adjust balanceDelta availableBalanceDelta))
  transactions := db.transactions
  keyed := by
    intro other account h
    rcases eq_or_ne other id with rfl | hne
    · rw [Function.update_self, Option.map_eq_some_iff] at h
      obtain ⟨before, hbefore, rfl⟩ := h
      exact db.keyed _ before hbefore
    · exact db.keyed other account ((Function.update_of_ne hne ..).symm.trans h)
  indexed := by
    intro number other h
    obtain ⟨account, haccount, hnumber⟩ := db.indexed number other h
    rcases eq_or_ne other id with rfl | hne
    · exact ⟨account.adjust balanceDelta availableBalanceDelta,
        by rw [Function.update_self, haccount]; rfl, hnumber⟩
    · exact ⟨account, (Function.update_of_ne hne ..).trans haccount, hnumber⟩

namespace Db

variable (db : Db)

theorem transaction?_insert (t : Transaction) (id : UUID) :
    (db.insert t).transaction? id = if t.id = id then some t else db.transaction? id := by
  rw [transaction?, insert, List.find?_cons]
  split <;> simp_all [transaction?]

theorem referring?_insert (t : Transaction) (key : UUID × TransactionType) :
    (db.insert t).referring? key =
      if t.indexKey = some key then some t else db.referring? key := by
  rw [referring?, insert, List.find?_cons]
  split <;> simp_all [referring?]

theorem transaction?_setStatus (id other : UUID) (status : TransactionStatus) :
    (db.setStatus id status).transaction? other =
      (db.transaction? other).map (·.withStatus id status) := by
  simp only [transaction?, setStatus, List.find?_map, Function.comp_def, Transaction.withStatus_id]

theorem referring?_setStatus (id : UUID) (status : TransactionStatus)
    (key : UUID × TransactionType) :
    (db.setStatus id status).referring? key =
      (db.referring? key).map (·.withStatus id status) := by
  simp only [referring?, setStatus, List.find?_map, Function.comp_def,
    Transaction.withStatus_indexKey]

theorem id_of_transaction? {db : Db} {id : UUID} {t : Transaction}
    (h : db.transaction? id = some t) : t.id = id := by
  simpa using List.find?_some h

theorem accounts_adjust_self (id : UUID) (balanceDelta availableBalanceDelta : ℤ) :
    (db.adjust id balanceDelta availableBalanceDelta).accounts id =
      (db.accounts id).map (·.adjust balanceDelta availableBalanceDelta) :=
  Function.update_self ..

theorem accounts_adjust_of_ne {id other : UUID} (balanceDelta availableBalanceDelta : ℤ)
    (hne : other ≠ id) :
    (db.adjust id balanceDelta availableBalanceDelta).accounts other = db.accounts other :=
  Function.update_of_ne hne ..

theorem isSome_accounts_adjust (id other : UUID) (balanceDelta availableBalanceDelta : ℤ) :
    ((db.adjust id balanceDelta availableBalanceDelta).accounts other).isSome =
      (db.accounts other).isSome := by
  rcases eq_or_ne other id with rfl | hne
  · rw [accounts_adjust_self, Option.isSome_map]
  · rw [accounts_adjust_of_ne _ _ _ hne]

end Db

/-! ## Statements -/

/-- What `Create` returns: `ErrDuplicateTransaction`, or an error with its text. -/
inductive CreateError
  | duplicate
  | failed (text : GoString)
  deriving DecidableEq, Repr

def CreateError.text : CreateError → GoString
  | duplicate => ascii "duplicate transaction"
  | failed text => text

/-- The statements of the repositories, `time.Now` and `uuid.New`. -/
inductive Call
  | now
  | newID
  | findByAccountNumberForUpdate (accountNumber : GoString)
  | adjustBalances (accountID : UUID) (balanceDelta availableBalanceDelta : ℤ)
  | create (t : Transaction)
  | findByIDForUpdate (id : UUID)
  | findByReferenceID (refID : UUID) (type : TransactionType)
  | updateStatus (id : UUID) (status : TransactionStatus)

/-- What a call returns. The texts of errors are those of the repositories. -/
@[reducible] def Reply : Call → Type
  | .now => Time
  | .newID => UUID
  | .findByAccountNumberForUpdate _ => Except GoString Account
  | .adjustBalances _ _ _ => Except GoString Unit
  | .create _ => Except CreateError Unit
  | .findByIDForUpdate _ => Except GoString Transaction
  | .findByReferenceID _ _ => Except GoString (Option Transaction)
  | .updateStatus _ _ => Except GoString Unit

/-- What a call meets: the time, the next id, and the text of the driver's error, if the
statement fails. -/
structure Env where
  now : Time
  id : UUID
  failure : Option GoString

/-- The text that the repositories wrap around a missing row. -/
def noRows : GoString := ascii "sql: no rows in result set"

/-- `FindByAccountNumberForUpdate`. -/
def Db.findByAccountNumberForUpdate (db : Db) (accountNumber : GoString) :
    Except GoString Account :=
  match db.accountByNumber? accountNumber with
  | some account => .ok account
  | none => .error (ascii "account not found: " ++ noRows)

/-- What the `UPDATE` of `AdjustBalances` returns. -/
def Db.adjustBalances (db : Db) (accountID : UUID) (balanceDelta availableBalanceDelta : ℤ) :
    Except GoString Unit :=
  match db.accounts accountID with
  | none => .error (ascii "account not found")
  | some account =>
    if (account.adjust balanceDelta availableBalanceDelta).fits then .ok ()
    else .error (ascii "failed to adjust account balances: pq: bigint out of range")

/-- A unique index has a row with the id of another one or with its key. -/
def Db.duplicate (db : Db) (t : Transaction) : Bool :=
  (db.transaction? t.id).isSome || (t.indexKey.bind db.referring?).isSome

/-- What the `INSERT` of `Create` returns. -/
def Db.create (db : Db) (t : Transaction) : Except CreateError Unit :=
  if db.duplicate t then .error .duplicate
  else if (db.accounts t.accountID).isSome then .ok ()
  else .error (.failed (ascii "failed to create transaction: pq: insert or update on table " ++
    ascii "\"transactions\" violates foreign key constraint"))

/-- `FindByIDForUpdate`. -/
def Db.findByIDForUpdate (db : Db) (id : UUID) : Except GoString Transaction :=
  match db.transaction? id with
  | some t => .ok t
  | none => .error (ascii "transaction not found: " ++ noRows)

/-- What the `UPDATE` of `UpdateStatus` returns. -/
def Db.updateStatus (db : Db) (id : UUID) : Except GoString Unit :=
  if (db.transaction? id).isSome then .ok () else .error (ascii "transaction not found")

/-- A statement that succeeds changes the tables. -/
def changeIf {ε : Type} (reply : Except ε Unit) (change : Db → Db) : Db → Db :=
  match reply with
  | .ok () => change
  | .error _ => id

/-- A call, on the tables as its transaction sees them. -/
def exec : (c : Call) → Env → Db → Reply c × (Db → Db)
  | .now, env, _ => (env.now, id)
  | .newID, env, _ => (env.id, id)
  | .findByAccountNumberForUpdate accountNumber, env, db =>
    match env.failure with
    | some text => (.error (ascii "failed to find and lock account: " ++ text), id)
    | none => (db.findByAccountNumberForUpdate accountNumber, id)
  | .adjustBalances accountID balanceDelta availableBalanceDelta, env, db =>
    match env.failure with
    | some text => (.error (ascii "failed to adjust account balances: " ++ text), id)
    | none =>
      let reply := db.adjustBalances accountID balanceDelta availableBalanceDelta
      (reply, changeIf reply (·.adjust accountID balanceDelta availableBalanceDelta))
  | .create t, env, db =>
    match env.failure with
    | some text => (.error (.failed (ascii "failed to create transaction: " ++ text)), id)
    | none => (db.create t, changeIf (db.create t) (·.insert t))
  | .findByIDForUpdate id, env, db =>
    match env.failure with
    | some text => (.error (ascii "failed to find transaction: " ++ text), fun x => x)
    | none => (db.findByIDForUpdate id, fun x => x)
  | .findByReferenceID refID type, env, db =>
    match env.failure with
    | some text => (.error (ascii "failed to find transaction by reference: " ++ text), id)
    | none => (.ok (db.referring? (refID, type)), id)
  | .updateStatus id status, env, db =>
    match env.failure with
    | some text => (.error (ascii "failed to update transaction status: " ++ text), fun x => x)
    | none => (db.updateStatus id, changeIf (db.updateStatus id) (·.setStatus id status))

/-! ## Locks -/

/-- The modes of row locks that the statements take. -/
inductive LockMode
  | forUpdate
  | noKeyUpdate
  | keyShare
  deriving DecidableEq, Repr

/-- The table of conflicts between modes. -/
def LockMode.conflict : LockMode → LockMode → Bool
  | forUpdate, _ => true
  | _, forUpdate => true
  | noKeyUpdate, noKeyUpdate => true
  | _, _ => false

/-- What a transaction can hold until it ends: the row of an account, the row of a
transaction, an unfinished insert into the unique index. -/
inductive Lock
  | account (id : UUID) (mode : LockMode)
  | transaction (id : UUID)
  | index (key : UUID × TransactionType)
  deriving DecidableEq, Repr

def Lock.conflict : Lock → Lock → Bool
  | account id mode, account other mode' => id = other && mode.conflict mode'
  | transaction id, transaction other => id = other
  | index key, index other => key = other
  | _, _ => false

/-- What a call waits for and then holds. A row that the transaction does not see is not
locked, and an insert that violates a unique index fails at once. An insert is taken to get the
locks of its index entries and of its foreign key all at once. -/
def Call.locks (c : Call) (db : Db) : List Lock :=
  match c with
  | now | newID | findByReferenceID _ _ => []
  | findByAccountNumberForUpdate accountNumber =>
    ((db.accountIDs accountNumber).map (.account · .forUpdate)).toList
  | adjustBalances accountID _ _ =>
    if (db.accounts accountID).isSome then [.account accountID .noKeyUpdate] else []
  | create t =>
    if db.duplicate t then []
    else .transaction t.id :: .account t.accountID .keyShare :: (t.indexKey.map .index).toList
  | findByIDForUpdate id | updateStatus id _ =>
    if (db.transaction? id).isSome then [.transaction id] else []

/-- A statement may fail at any time, also while it waits. -/
def needs (c : Call) (env : Env) (db : Db) : List Lock :=
  if env.failure.isSome then [] else c.locks db

/-- The database server. -/
def backend : Backend Db Env Lock Call Reply := ⟨exec, needs, Lock.conflict⟩

end PaymentGateway.MockBank
