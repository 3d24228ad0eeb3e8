/-
# What the services post

The effect of a granted request on the tables, read off its script once: an
authorization inserts a hold, a settlement inserts a row that refers to the row it
settles, and each adjusts the balances of one account.

Since the transactions are serializable, a property that every posting keeps holds of
the committed tables in every run.
-/

import PaymentGateway.MockBank.Runs

namespace PaymentGateway.MockBank

open Lib

/-! ## Rules for the statements -/

section Rules

variable {Q : Result → Db → Prop} {db : Db}

theorem ensures_now {next : Time → BankScript}
    (rest : ∀ instant, Ensures backend Q db (next instant)) :
    Ensures backend Q db (.call .now next) :=
  fun env => rest env.now

theorem ensures_newID {next : UUID → BankScript} (rest : ∀ id, Ensures backend Q db (next id)) :
    Ensures backend Q db (.call .newID next) :=
  fun env => rest env.id

theorem ensures_findByAccountNumberForUpdate {accountNumber : GoString}
    {next : Except GoString Account → BankScript}
    (failed : ∀ text, Ensures backend Q db (next (.error text)))
    (found : ∀ account, db.accountByNumber? accountNumber = some account →
      Ensures backend Q db (next (.ok account))) :
    Ensures backend Q db (.call (.findByAccountNumberForUpdate accountNumber) next) := by
  intro env
  simp only [backend, exec, Db.findByAccountNumberForUpdate]
  cases env.failure with
  | some text => exact failed _
  | none =>
    cases hfound : db.accountByNumber? accountNumber with
    | none => exact failed _
    | some account => exact found account hfound

theorem ensures_findByIDForUpdate {id : UUID} {next : Except GoString Transaction → BankScript}
    (failed : ∀ text, Ensures backend Q db (next (.error text)))
    (found : ∀ t, db.transaction? id = some t → Ensures backend Q db (next (.ok t))) :
    Ensures backend Q db (.call (.findByIDForUpdate id) next) := by
  intro env
  simp only [backend, exec, Db.findByIDForUpdate]
  cases env.failure with
  | some text => exact failed _
  | none =>
    cases hfound : db.transaction? id with
    | none => exact failed _
    | some t => exact found t hfound

theorem ensures_findByReferenceID {id : UUID} {type : TransactionType}
    {next : Except GoString (Option Transaction) → BankScript}
    (failed : ∀ text, Ensures backend Q db (next (.error text)))
    (answered : Ensures backend Q db (next (.ok (db.referring? (id, type))))) :
    Ensures backend Q db (.call (.findByReferenceID id type) next) := by
  intro env
  simp only [backend, exec]
  cases env.failure with
  | some text => exact failed _
  | none => exact answered

theorem ensures_create {t : Transaction} {next : Except CreateError Unit → BankScript}
    (failed : ∀ err, Ensures backend Q db (next (.error err)))
    (created : db.create t = .ok () → Ensures backend Q (db.insert t) (next (.ok ()))) :
    Ensures backend Q db (.call (.create t) next) := by
  intro env
  simp only [backend, exec]
  cases env.failure with
  | some text => exact failed _
  | none =>
    cases hcreated : db.create t with
    | error err => exact failed err
    | ok _ => exact created hcreated

theorem ensures_updateStatus {id : UUID} {status : TransactionStatus}
    {next : Except GoString Unit → BankScript}
    (failed : ∀ text, Ensures backend Q db (next (.error text)))
    (updated : Ensures backend Q (db.setStatus id status) (next (.ok ()))) :
    Ensures backend Q db (.call (.updateStatus id status) next) := by
  intro env
  simp only [backend, exec]
  cases env.failure with
  | some text => exact failed _
  | none =>
    cases db.updateStatus id with
    | error text => exact failed text
    | ok _ => exact updated

theorem ensures_adjustBalances {id : UUID} {balanceDelta availableBalanceDelta : ℤ}
    {next : Except GoString Unit → BankScript}
    (failed : ∀ text, Ensures backend Q db (next (.error text)))
    (adjusted : Ensures backend Q (db.adjust id balanceDelta availableBalanceDelta)
      (next (.ok ()))) :
    Ensures backend Q db
      (.call (.adjustBalances id balanceDelta availableBalanceDelta) next) := by
  intro env
  simp only [backend, exec]
  cases env.failure with
  | some text => exact failed _
  | none =>
    cases db.adjustBalances id balanceDelta availableBalanceDelta with
    | error text => exact failed text
    | ok _ => exact adjusted

end Rules

/-! ## Postings -/

/-- The row of a hold. -/
def Bank.holdRow (bank : Bank) (account : Account) (amount : ℤ) (authID : UUID)
    (expiryBase createdAt : Time) : Transaction :=
  ⟨authID, account.id, .authHold, amount, ascii "USD", none, .active,
    some (bank.expiresAt expiryBase), createdAt⟩

/-- A granted request, the row that it returns and the tables after it. -/
inductive Bank.Posts (bank : Bank) (db : Db) : ServiceRequest → Transaction → Db → Prop
  | authorize {cardNumber cvv : GoString} {amount : ℤ} {account : Account} {authID : UUID}
      {expiryBase createdAt : Time}
      (valid : validateAuthorizationRequest cardNumber cvv amount = .ok ())
      (found : db.accountByNumber? cardNumber = some account) (known : account.cvv = cvv)
      (funds : amount ≤ account.availableBalanceCents)
      (created : db.create (bank.holdRow account amount authID expiryBase createdAt) = .ok ()) :
      Posts bank db (.authorize cardNumber cvv amount)
        (bank.holdRow account amount authID expiryBase createdAt)
        ((db.insert (bank.holdRow account amount authID expiryBase createdAt)).adjust
          account.id 0 (-amount))
  | capture {authorizationID captureID : UUID} {hold : Transaction} {capturedAt : Time}
      (found : db.transaction? authorizationID = some hold) (type : hold.type = .authHold)
      (active : hold.status = .active)
      (created : db.create (hold.settle captureID .capture capturedAt) = .ok ()) :
      Posts bank db (.capture authorizationID hold.amountCents)
        (hold.settle captureID .capture capturedAt)
        (((db.insert (hold.settle captureID .capture capturedAt)).setStatus hold.id
          .completed).adjust hold.accountID (-hold.amountCents) 0)
  | void {authorizationID voidID : UUID} {hold : Transaction} {voidedAt : Time}
      (found : db.transaction? authorizationID = some hold) (type : hold.type = .authHold)
      (active : hold.status = .active)
      (uncaptured : db.referring? (authorizationID, .capture) = none)
      (created : db.create (hold.settle voidID .void voidedAt) = .ok ()) :
      Posts bank db (.void authorizationID) (hold.settle voidID .void voidedAt)
        (((db.insert (hold.settle voidID .void voidedAt)).setStatus hold.id
          .completed).adjust hold.accountID 0 hold.amountCents)
  | refund {captureID refundID : UUID} {capture : Transaction} {refundedAt : Time}
      (found : db.transaction? captureID = some capture) (type : capture.type = .capture)
      (completed : capture.status = .completed)
      (created : db.create (capture.settle refundID .refund refundedAt) = .ok ()) :
      Posts bank db (.refund captureID capture.amountCents)
        (capture.settle refundID .refund refundedAt)
        ((db.insert (capture.settle refundID .refund refundedAt)).adjust
          capture.accountID capture.amountCents capture.amountCents)

/-- What is to hold where a script ends. -/
def Bank.Posted (bank : Bank) (db : Db) (request : ServiceRequest) (result : Result) (db' : Db) :
    Prop :=
  ∀ t, result = .ok t → bank.Posts db request t db'

/-- Nothing is asked of a script that fails. -/
theorem Bank.posted_error {bank : Bank} {db db' : Db} {request : ServiceRequest}
    {failure : ServiceFailure} : bank.Posted db request (.error failure) db' := by
  intro t h
  cases h

theorem ensures_authorize (bank : Bank) (db : Db) (cardNumber cvv : GoString) (amount : ℤ) :
    Ensures backend (bank.Posted db (.authorize cardNumber cvv amount)) db
      (bank.authorize cardNumber cvv amount) := by
  unfold Bank.authorize
  split
  · exact Bank.posted_error
  · next valid =>
    simp only [Bank.performAuthorization, Bank.hold, Script.ask_bind]
    refine ensures_findByAccountNumberForUpdate (fun _ => Bank.posted_error) fun account found => ?_
    dsimp only
    split
    · exact Bank.posted_error
    · next known =>
      split
      · exact Bank.posted_error
      · refine ensures_now fun instant => ?_
        split
        · exact Bank.posted_error
        · split
          · exact Bank.posted_error
          · next funds =>
            refine ensures_newID fun authID => ensures_now fun expiryBase =>
              ensures_now fun createdAt => ?_
            refine ensures_create (fun _ => Bank.posted_error) fun created => ?_
            refine ensures_adjustBalances (fun _ => Bank.posted_error) ?_
            intro t ht
            cases ht
            exact .authorize valid found (not_not.mp known) (not_lt.mp funds) created

theorem ensures_performCapture (bank : Bank) (db : Db) (authorizationID : UUID) (amount : ℤ) :
    Ensures backend (bank.Posted db (.capture authorizationID amount)) db
      (performCapture authorizationID amount) := by
  simp only [performCapture, Script.ask_bind]
  refine ensures_findByIDForUpdate (fun _ => Bank.posted_error) fun hold found => ?_
  dsimp only
  split
  · exact Bank.posted_error
  · next type =>
    split
    · exact Bank.posted_error
    · next active =>
      have record (hamount : ¬ amount ≠ hold.amountCents) : Ensures backend
          (bank.Posted db (.capture authorizationID amount)) db (recordCapture hold) := by
        rw [not_not.mp hamount]
        refine ensures_newID fun id => ensures_now fun createdAt => ?_
        refine ensures_create (fun err => ?_) fun created => ?_
        · cases err <;> exact Bank.posted_error
        refine ensures_updateStatus (fun _ => Bank.posted_error) ?_
        refine ensures_adjustBalances (fun _ => Bank.posted_error) ?_
        intro t ht
        cases ht
        exact .capture found (not_not.mp type) (not_not.mp active) created
      simp only [captureActive, Script.ask_bind]
      split
      · refine ensures_now fun instant => ?_
        split
        · exact Bank.posted_error
        · split
          · exact Bank.posted_error
          · next hamount => exact record hamount
      · split
        · exact Bank.posted_error
        · next hamount => exact record hamount

theorem ensures_performVoid (bank : Bank) (db : Db) (authorizationID : UUID) :
    Ensures backend (bank.Posted db (.void authorizationID)) db (performVoid authorizationID) := by
  simp only [performVoid, Script.ask_bind]
  refine ensures_findByIDForUpdate (fun _ => Bank.posted_error) fun hold found => ?_
  dsimp only
  split
  · exact Bank.posted_error
  · next type =>
    split
    · exact Bank.posted_error
    · next active =>
      refine ensures_findByReferenceID (fun _ => Bank.posted_error) ?_
      cases uncaptured : db.referring? (authorizationID, .capture) with
      | some capture => exact Bank.posted_error
      | none =>
        refine ensures_newID fun id => ensures_now fun createdAt => ?_
        refine ensures_create (fun err => ?_) fun created => ?_
        · cases err <;> exact Bank.posted_error
        refine ensures_updateStatus (fun _ => Bank.posted_error) ?_
        refine ensures_adjustBalances (fun _ => Bank.posted_error) ?_
        intro t ht
        cases ht
        exact .void found (not_not.mp type) (not_not.mp active) uncaptured created

theorem ensures_performRefund (bank : Bank) (db : Db) (captureID : UUID) (amount : ℤ) :
    Ensures backend (bank.Posted db (.refund captureID amount)) db
      (performRefund captureID amount) := by
  simp only [performRefund, Script.ask_bind]
  refine ensures_findByIDForUpdate (fun _ => Bank.posted_error) fun capture found => ?_
  dsimp only
  split
  · exact Bank.posted_error
  · next type =>
    split
    · exact Bank.posted_error
    · next completed =>
      split
      · exact Bank.posted_error
      · next hamount =>
        rw [not_not.mp hamount]
        refine ensures_newID fun id => ensures_now fun createdAt => ?_
        refine ensures_create (fun err => ?_) fun created => ?_
        · cases err <;> exact Bank.posted_error
        refine ensures_adjustBalances (fun _ => Bank.posted_error) ?_
        intro t ht
        cases ht
        exact .refund found (not_not.mp type) (not_not.mp completed) created

theorem ensures_script (bank : Bank) (db : Db) (request : ServiceRequest) :
    Ensures backend (bank.Posted db request) db (bank.script request) := by
  cases request with
  | authorize cardNumber cvv amount => exact ensures_authorize bank db cardNumber cvv amount
  | capture authorizationID amount => exact ensures_performCapture bank db authorizationID amount
  | void authorizationID => exact ensures_performVoid bank db authorizationID
  | refund captureID amount => exact ensures_performRefund bank db captureID amount

/-- What a session posts when it commits. -/
theorem Bank.Reachable.posts_of_commit {bank : Bank} {start : Db} {s : BankSessions}
    (h : bank.Reachable start s) {i : ℕ} {session : Session Db Env Lock Call Reply Result}
    {t : Transaction} (running : s.session i = some session)
    (script : session.conf.script = .done (.ok t)) :
    ∃ request, session.start = bank.script request ∧
      bank.Posts s.db request t (session.conf.change s.db) := by
  obtain ⟨request, hstart⟩ := h.inv.running i session running
  have hreplay := h.inv.replays i session running (by rw [script]; exact Bool.true_eq_false.mp)
  refine ⟨request, hstart, ?_⟩
  rw [hstart] at hreplay
  rw [hreplay] at script ⊢
  exact (ensures_script bank s.db request).replay script t rfl

/-- The rule of histories: what holds at the start and is kept by every failure and every
posting holds of what was recorded, with the tables that it led to. -/
theorem Bank.Reachable.history_rule {bank : Bank} {start : Db} {s : BankSessions}
    {P : List (Entry Env Call Reply Result) → Db → Prop} (h : bank.Reachable start s)
    (initially : P [] start)
    (fails : ∀ entries db e failure, P entries db → e.result = .error failure → P (e :: entries) db)
    (posts : ∀ entries db e t db', P entries db → e.result = .ok t →
      (∃ request, e.start = bank.script request) →
      (∀ request, e.start = bank.script request → bank.Posts db request t db') →
      P (e :: entries) db') : P s.history s.db := by
  have hrecorded := h.inv.recorded
  have hserial := h.inv.serial
  generalize s.history = entries, s.db = db at hserial hrecorded ⊢
  induction hserial with
  | nil => exact initially
  | @cons entries db e before ran ih =>
    have hbefore := ih fun e' he' => hrecorded e' (List.mem_cons_of_mem e he')
    cases hresult : e.result with
    | error failure => exact fails entries db e failure hbefore hresult
    | ok t =>
      refine posts entries db e t _ hbefore hresult (hrecorded e List.mem_cons_self) ?_
      intro request hstart
      rw [hstart] at ran ⊢
      exact (ensures_script bank db request).replay ran t hresult

/-- The rule of invariants: what every posting keeps holds of the committed tables. -/
theorem Bank.Reachable.invariant {bank : Bank} {start : Db} {s : BankSessions} {P : Db → Prop}
    (h : bank.Reachable start s) (initially : P start)
    (posts : ∀ db request t db', P db → bank.Posts db request t db' → P db') : P s.db :=
  h.history_rule (P := fun _ => P) initially (fun _ _ _ _ hP _ => hP)
    fun _ db _ t db' hP _ hstart hposts => by
      obtain ⟨request, hstart⟩ := hstart
      exact posts db request t db' hP (hposts request hstart)

/-! ## Committed rows -/

/-- A row is what a request asked for. -/
def ServiceRequest.Fulfils : ServiceRequest → Transaction → Prop
  | authorize _ _ amount, t => t.type = .authHold ∧ t.amountCents = amount ∧
      t.currency = ascii "USD" ∧ t.expiresAt.isSome = true
  | capture authorizationID amount, t => t.type = .capture ∧ t.amountCents = amount ∧
      t.referenceID = some authorizationID
  | void authorizationID, t => t.type = .void ∧ t.referenceID = some authorizationID
  | refund captureID amount, t => t.type = .refund ∧ t.amountCents = amount ∧
      t.referenceID = some captureID

/-- A row is stored, with whatever status it has now. -/
def Db.Has (db : Db) (t : Transaction) : Prop :=
  ∃ status, { t with status } ∈ db.transactions

section Committed

variable {bank : Bank} {db db' : Db} {request : ServiceRequest} {t u : Transaction}

theorem Db.Has.insert (h : db.Has t) (new : Transaction) : (db.insert new).Has t := by
  obtain ⟨status, hmem⟩ := h
  exact ⟨status, List.mem_cons_of_mem _ hmem⟩

theorem Db.Has.setStatus (h : db.Has t) (id : UUID) (status : TransactionStatus) :
    (db.setStatus id status).Has t := by
  obtain ⟨before, hmem⟩ := h
  have hnow : ({ t with status := before }.withStatus id status) ∈
      (db.setStatus id status).transactions := List.mem_map_of_mem hmem
  unfold Transaction.withStatus at hnow
  split at hnow
  · exact ⟨status, hnow⟩
  · exact ⟨before, hnow⟩

theorem Bank.Posts.has (posts : bank.Posts db request t db') (h : db.Has u) : db'.Has u := by
  cases posts with
  | authorize | refund => exact h.insert _
  | capture | void => exact (h.insert _).setStatus _ _

theorem Bank.Posts.has_self (posts : bank.Posts db request t db') : db'.Has t := by
  have hnew : ∀ new : Transaction, (db.insert new).Has new := fun new =>
    ⟨new.status, List.mem_cons_self⟩
  cases posts with
  | authorize | refund => exact hnew _
  | capture | void => exact (hnew _).setStatus _ _

theorem Bank.Posts.fulfils (posts : bank.Posts db request t db') : request.Fulfils t := by
  cases posts with
  | authorize => exact ⟨rfl, rfl, rfl, rfl⟩
  | capture found => exact ⟨rfl, rfl, by rw [← Db.id_of_transaction? found]; rfl⟩
  | void found => exact ⟨rfl, by rw [← Db.id_of_transaction? found]; rfl⟩
  | refund found => exact ⟨rfl, rfl, by rw [← Db.id_of_transaction? found]; rfl⟩

/-- A committed transaction has done what was asked, and its row is there. -/
theorem Bank.Reachable.committed {start : Db} {s : BankSessions} (h : bank.Reachable start s)
    {e : Entry Env Call Reply Result} (he : e ∈ s.history) (hresult : e.result = .ok t)
    (hstart : e.start = bank.script request) : request.Fulfils t ∧ s.db.Has t := by
  revert e t request
  refine h.history_rule (P := fun entries db => ∀ {t request e}, e ∈ entries → e.result = .ok t →
    e.start = bank.script request → request.Fulfils t ∧ db.Has t) ?_ ?_ ?_
  · intro t request e he
    cases he
  · intro entries db last failure before hlast t request e he hresult
    rcases List.mem_cons.mp he with rfl | hold
    · cases hlast.symm.trans hresult
    · exact before hold hresult
  · intro entries db last u db' before hlast hscript posts t request e he hresult hstart
    rcases List.mem_cons.mp he with rfl | hold
    · cases hlast.symm.trans hresult
      exact ⟨(posts request hstart).fulfils, (posts request hstart).has_self⟩
    · obtain ⟨hfulfils, hhas⟩ := before hold hresult hstart
      obtain ⟨lastRequest, hlastRequest⟩ := hscript
      exact ⟨hfulfils, (posts lastRequest hlastRequest).has hhas⟩

end Committed

end PaymentGateway.MockBank
