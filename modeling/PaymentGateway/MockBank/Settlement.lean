/-
# Whose rows the bank has

The rows of the bank's tables, traced to the requests of the gateway. Each row was made by
one transaction, each transaction was made for a request that the gateway has sent, and a
request names the row that it is to settle by an id that the bank gave out. So what has
settled a row is known from the requests that the bank has granted.
-/

import PaymentGateway.MockBank.Expiry
import PaymentGateway.MockBank.Network
import PaymentGateway.Properties.BankBook

namespace PaymentGateway.MockBank

open Lib

/-! ## Rows and transactions -/

section Rows

variable {bank : Bank} {start db db' : Db} {s : BankSessions} {request : ServiceRequest}
  {t u row : Transaction} {e e' : Entry Env Call Reply Result}

theorem Bank.Posts.created (posts : bank.Posts db request t db') : db.create t = .ok () := by
  cases posts <;> assumption

theorem Transaction.exists_withStatus (t : Transaction) (id : UUID) (status : TransactionStatus) :
    ∃ now, t.withStatus id status = { t with status := now } := by
  unfold Transaction.withStatus
  split
  · exact ⟨status, rfl⟩
  · exact ⟨t.status, rfl⟩

/-- A row that is there after a posting was there before, or it is the new one. -/
theorem Bank.Posts.row_cases (posts : bank.Posts db request t db') (h : row ∈ db'.transactions) :
    (∃ before ∈ db.transactions, ∃ status, row = { before with status }) ∨
      ∃ status, row = { t with status } := by
  have hinsert : ∀ {new other : Transaction}, other ∈ (db.insert new).transactions →
      ∀ status, (∃ before ∈ db.transactions, ∃ status', { other with status } =
        { before with status := status' }) ∨
        ∃ status', { other with status } = { new with status := status' } := by
    intro new other hother status
    rcases List.mem_cons.mp hother with rfl | hold
    · exact .inr ⟨status, rfl⟩
    · exact .inl ⟨other, hold, status, rfl⟩
  cases posts with
  | authorize | refund => exact hinsert h row.status
  | capture | void =>
    obtain ⟨before, hbefore, rfl⟩ := List.mem_map.mp h
    obtain ⟨status, hstatus⟩ := before.exists_withStatus _ _
    rw [hstatus]
    exact hinsert hbefore status

/-- Two transactions do not make the same row. -/
theorem Bank.Reachable.committed_unique (h : bank.Reachable start s) (he : e ∈ s.history)
    (he' : e' ∈ s.history) (hresult : e.result = .ok t) (hresult' : e'.result = .ok u)
    (hid : t.id = u.id) : e = e' := by
  have hall : (∀ e ∈ s.history, ∀ t, e.result = .ok t → s.db.Has t) ∧
      ∀ e ∈ s.history, ∀ e' ∈ s.history, ∀ t u, e.result = .ok t → e'.result = .ok u →
        t.id = u.id → e = e' := by
    refine h.history_rule (P := fun entries db =>
      (∀ e ∈ entries, ∀ t, e.result = .ok t → db.Has t) ∧
      ∀ e ∈ entries, ∀ e' ∈ entries, ∀ t u, e.result = .ok t → e'.result = .ok u →
        t.id = u.id → e = e') (by simp) ?_ ?_
    · rintro entries db last failure ⟨hhas, hunique⟩ hlast
      have hold : ∀ e ∈ last :: entries, ∀ t, e.result = .ok t → e ∈ entries := by
        intro e he t hresult
        refine (List.mem_cons.mp he).resolve_left fun heq => ?_
        cases hlast.symm.trans (heq ▸ hresult)
      exact ⟨fun e he t hr => hhas e (hold e he t hr) t hr, fun e he e' he' t u hr hr' =>
        hunique e (hold e he t hr) e' (hold e' he' u hr') t u hr hr'⟩
    · rintro entries db last new db' ⟨hhas, hunique⟩ hlast ⟨request, hstart⟩ hposts
      have posts := hposts request hstart
      -- The id of the new row was not taken.
      have hfresh : ∀ e ∈ entries, ∀ t, e.result = .ok t → t.id ≠ new.id := by
        intro e he t hresult
        obtain ⟨status, hrow⟩ := hhas e he t hresult
        have hne := Db.ne_of_transaction?_eq_none (Db.create_eq_ok posts.created).1 hrow
        exact hne
      refine ⟨fun e he t hresult => ?_, fun e he e' he' t u hresult hresult' hid => ?_⟩
      · rcases List.mem_cons.mp he with rfl | hold
        · cases hlast.symm.trans hresult
          exact posts.has_self
        · exact posts.has (hhas e hold t hresult)
      · rcases List.mem_cons.mp he with rfl | hold <;> rcases List.mem_cons.mp he' with rfl | hold'
        · rfl
        · cases hlast.symm.trans hresult
          exact absurd hid.symm (hfresh e' hold' u hresult')
        · cases hlast.symm.trans hresult'
          exact absurd hid (hfresh e hold t hresult)
        · exact hunique e hold e' hold' t u hresult hresult' hid
  exact hall.2 e he e' he' t u hresult hresult' hid

/-- Every row was made by a transaction. -/
theorem Bank.Reachable.exists_entry (h : bank.Reachable start s) (empty : start.transactions = [])
    (hrow : row ∈ s.db.transactions) :
    ∃ e ∈ s.history, ∃ t status, e.result = .ok t ∧ row = { t with status } := by
  revert row
  refine h.history_rule (P := fun entries db => ∀ {row}, row ∈ db.transactions →
    ∃ e ∈ entries, ∃ t status, e.result = .ok t ∧ row = { t with status }) ?_ ?_ ?_
  · intro row hrow
    rw [empty] at hrow
    cases hrow
  · intro entries db last failure before _ row hrow
    obtain ⟨e, he, hrest⟩ := before hrow
    exact ⟨e, List.mem_cons_of_mem _ he, hrest⟩
  · rintro entries db last new db' before hlast ⟨request, hstart⟩ hposts row hrow
    obtain ⟨row', hrow', status, rfl⟩ | ⟨status, rfl⟩ := (hposts request hstart).row_cases hrow
    · obtain ⟨e, he, t, status', hresult, rfl⟩ := before hrow'
      exact ⟨e, List.mem_cons_of_mem _ he, t, status, hresult, rfl⟩
    · exact ⟨last, List.mem_cons_self, new, status, hlast, rfl⟩

/-- A void is not refused because of an expiry. -/
theorem Bank.Reachable.void_ne_expired (h : bank.Reachable start s) (he : e ∈ s.history) {id : UUID}
    (hstart : e.start = bank.script (.void id)) (message : GoString) :
    e.result ≠ .error (.service .authExpired message) := by
  obtain ⟨db, ran⟩ := h.inv.serial.exists_replay he
  have hnever : NeverExpires (replay backend db e.start e.envs).script := by
    rw [hstart]
    exact NeverExpires.foldl (neverExpires_performVoid id) e.envs
  rw [ran] at hnever
  exact hnever message

end Rows

/-! ## Holds and what has settled them -/

/-- What has settled a hold in a given state. -/
def Db.Settled (db : Db) (id : UUID) : HoldState → Prop
  | .open => db.settlement? (id, .capture) = none ∧ db.settlement? (id, .void) = none
  | .voided => db.settlement? (id, .capture) = none ∧ db.settlement? (id, .void) ≠ none
  | .captured => ∃ capture, db.settlement? (id, .capture) = some capture ∧
      db.settlement? (id, .void) = none ∧ db.settlement? (capture, .refund) = none
  | .refunded => ∃ capture, db.settlement? (id, .capture) = some capture ∧
      db.settlement? (id, .void) = none ∧ db.settlement? (capture, .refund) ≠ none

theorem Db.Disposed.settled {db : Db} {hold : Transaction} (h : db.Disposed hold) :
    db.Settled hold.id (db.stateOf hold) := by
  have hactive := h.active
  unfold Db.stateOf
  cases hstatus : hold.status with
  | active => exact hactive.mp hstatus
  | completed | expired =>
    rw [hstatus] at hactive
    cases hcapture : db.settlement? (hold.id, .capture) with
    | none =>
      refine ⟨hcapture, fun hvoid => ?_⟩
      cases hactive.mpr ⟨hcapture, hvoid⟩
    | some capture =>
      have hvoid := h.exclusive.resolve_left (by simp [hcapture])
      cases hrefund : db.settlement? (capture, .refund) with
      | none =>
        simp only [hrefund, Option.isSome_none, Bool.false_eq_true, if_false]
        exact ⟨capture, hcapture, hvoid, hrefund⟩
      | some refund =>
        simp only [hrefund, Option.isSome_some, if_true]
        exact ⟨capture, hcapture, hvoid, by simp [hrefund]⟩

theorem Db.Sound.settled_of_mem_book {db : Db} (sound : db.Sound) {hold : Hold}
    (h : hold ∈ db.book) : db.Settled hold.id hold.state := by
  obtain ⟨row, hrow, rfl⟩ := List.mem_map.mp h
  obtain ⟨hmem, htype⟩ := List.mem_filter.mp hrow
  exact (sound.disposed row hmem (of_decide_eq_true htype)).settled

theorem Db.Sound.hold_eq_of_id {db : Db} (sound : db.Sound) {hold other : Hold}
    (h : hold ∈ db.book) (h' : other ∈ db.book) (hid : hold.id = other.id) : hold = other := by
  obtain ⟨row, hrow, rfl⟩ := List.mem_map.mp h
  obtain ⟨row', hrow', rfl⟩ := List.mem_map.mp h'
  rw [sound.eq_of_id_eq (List.mem_filter.mp hrow).1 (List.mem_filter.mp hrow').1 hid]

/-! ## Granted requests -/

namespace Net

variable {d : Deployment} {start : Db} {net : Net} {request other : BankRequest}
  {t u : Transaction} {id : UUID} {key : UUID × TransactionType}

/-- The bank has committed a transaction for a request. -/
def Grants (net : Net) (request : BankRequest) (t : Transaction) : Prop :=
  ∃ e ∈ net.bank.sessions.history, net.origin e.id = some request ∧ e.result = .ok t

/-- The row that a request is to settle, with the type of the row that settles it. -/
def target? : BankRequest → Option (UUID × TransactionType)
  | .authorization _ => none
  | .capture request => (parseAuthorizationID request.bankAuthorizationID).map (·, .capture)
  | .void request => (parseAuthorizationID request.bankAuthorizationID).map (·, .void)
  | .refund request => (parseCaptureID request.bankCaptureID).map (·, .refund)

/-- The service that a recorded transaction ran for a request. -/
theorem Inv.service_of_entry (inv : Inv d start net) {e : Entry Env Call Reply Result}
    (he : e ∈ net.bank.sessions.history) (origin : net.origin e.id = some request) :
    ∃ service, (apiOf request).serviceRequest = .ok service ∧ e.start = d.bank.script service := by
  obtain ⟨r, service, hknown, hparsed, hstart⟩ := inv.bank.recorded e he
  obtain ⟨made, horigin, hapi, -⟩ := inv.known e.id r hknown
  obtain rfl := Option.some.inj (origin.symm.trans horigin)
  exact ⟨service, hapi ▸ hparsed, hstart⟩

/-- A granted request was fulfilled, and its row is there. -/
theorem Inv.fulfils (inv : Inv d start net) (h : net.Grants request t) :
    ∃ service, (apiOf request).serviceRequest = .ok service ∧ service.Fulfils t ∧
      net.bank.sessions.db.Has t := by
  obtain ⟨e, he, horigin, hresult⟩ := h
  obtain ⟨service, hservice, hstart⟩ := inv.service_of_entry he horigin
  exact ⟨service, hservice, inv.bank.reachable.committed he hresult hstart⟩

/-- The rows of different requests have different ids. -/
theorem Inv.request_eq_of_id (inv : Inv d start net) (h : net.Grants request t)
    (h' : net.Grants other u) (hid : t.id = u.id) : request = other := by
  obtain ⟨e, he, horigin, hresult⟩ := h
  obtain ⟨e', he', horigin', hresult'⟩ := h'
  obtain rfl := inv.bank.reachable.committed_unique he he' hresult hresult' hid
  exact Option.some.inj (horigin.symm.trans horigin')

/-- Every row was made for a request. -/
theorem Inv.exists_grants (inv : Inv d start net) (empty : start.transactions = [])
    {row : Transaction} (hrow : row ∈ net.bank.sessions.db.transactions) :
    ∃ request t status, net.Grants request t ∧ row = { t with status } := by
  obtain ⟨e, he, t, status, hresult, hrow⟩ := inv.bank.reachable.exists_entry empty hrow
  obtain ⟨r, -, hknown, -⟩ := inv.bank.recorded e he
  obtain ⟨request, horigin, -⟩ := inv.known e.id r hknown
  exact ⟨request, t, status, ⟨e, he, horigin, hresult⟩, hrow⟩

/-- The row of a granted request settles what the request named. -/
theorem Inv.indexKey_eq (inv : Inv d start net) (h : net.Grants request t) :
    t.indexKey = target? request := by
  obtain ⟨service, hservice, hfulfils, -⟩ := inv.fulfils h
  cases request with
  | authorization request =>
    cases hservice
    simp [Transaction.indexKey, target?, hfulfils.1]
  | capture request =>
    simp only [apiOf, ApiRequest.serviceRequest] at hservice
    split at hservice
    · next hparsed =>
      cases hservice
      simp [Transaction.indexKey, target?, hparsed, hfulfils.1, hfulfils.2.2]
    · cases hservice
  | void request =>
    simp only [apiOf, ApiRequest.serviceRequest] at hservice
    split at hservice
    · next hparsed =>
      cases hservice
      simp [Transaction.indexKey, target?, hparsed, hfulfils.1, hfulfils.2]
    · cases hservice
  | refund request =>
    simp only [apiOf, ApiRequest.serviceRequest] at hservice
    split at hservice
    · next hparsed =>
      cases hservice
      simp [Transaction.indexKey, target?, hparsed, hfulfils.1, hfulfils.2.2]
    · cases hservice

/-- What has settled a row is the row of a granted request that named it. -/
theorem Inv.settlement?_eq_some (inv : Inv d start net) (empty : start.transactions = []) :
    net.bank.sessions.db.settlement? key = some id ↔
      ∃ request t, net.Grants request t ∧ t.id = id ∧ target? request = some key := by
  constructor
  · intro h
    obtain ⟨row, hrow, hkey, rfl⟩ := Db.exists_of_settlement? h
    obtain ⟨request, t, status, hgrants, rfl⟩ := inv.exists_grants empty hrow
    exact ⟨request, t, hgrants, rfl, (inv.indexKey_eq hgrants).symm.trans hkey⟩
  · rintro ⟨request, t, hgrants, rfl, htarget⟩
    obtain ⟨-, -, -, status, hrow⟩ := inv.fulfils hgrants
    have sound := inv.bank.reachable.sound empty
    exact sound.unique _ hrow key ((inv.indexKey_eq hgrants).trans htarget)

/-! ## Executions of granted requests -/

/-- The kind of the ids of an endpoint. -/
def kindOf : Endpoint → IDKind
  | .authorization => .authorization
  | .capture => .capture
  | .void => .void
  | .refund => .refund

theorem bankID_of_executionOf_error {failure : ServiceFailure} {x : Execution}
    (h : executionOf request (.error failure) = some x) : x.bankID = [] := by
  cases failure with
  | other text => cases request <;> cases h
  | service code message => cases request <;> cases code <;> cases h <;> rfl

/-- An execution that gave out an id has granted its request. -/
theorem grants_of_execution {x : Execution} (hx : x ∈ net.executions) (given : x.bankID ≠ []) :
    ∃ t, net.Grants x.request t ∧ x.bankID = formatID (kindOf x.request.endpoint) t.id := by
  obtain ⟨e, he, request, horigin, hexecution⟩ := mem_executions.mp hx
  obtain rfl := request_of_executionOf hexecution
  cases hresult : e.result with
  | ok t =>
    refine ⟨t, ⟨e, he, horigin, hresult⟩, ?_⟩
    rw [hresult] at hexecution
    generalize hrequest : x.request = request at hexecution
    cases request <;> cases hexecution <;> rfl
  | error failure =>
    rw [hresult] at hexecution
    exact absurd (bankID_of_executionOf_error hexecution) given

/-- The requests and results that are executed as expirations. -/
theorem executionOf_of_expired {result : Result} {x : Execution} {authorization : GoString}
    (h : executionOf request result = some x) (hfate : x.fate = some (authorization, .expired)) :
    (∃ message, result = .error (.service .authExpired message)) ∧
      ((∃ body, request = .capture body ∧ body.bankAuthorizationID = authorization) ∨
        ∃ body, request = .void body ∧ body.bankAuthorizationID = authorization) := by
  cases result with
  | ok t => cases request <;> cases h <;> cases hfate
  | error failure =>
    cases failure with
    | other text => cases request <;> cases h
    | service code message =>
      cases request with
      | authorization | refund => cases code <;> cases h <;> cases hfate
      | capture body =>
        cases code <;> cases h
        exact ⟨⟨message, rfl⟩, .inl ⟨body, rfl, (Prod.mk.inj (Option.some.inj hfate)).1⟩⟩
      | void body =>
        cases code <;> cases h
        exact ⟨⟨message, rfl⟩, .inr ⟨body, rfl, (Prod.mk.inj (Option.some.inj hfate)).1⟩⟩

theorem parseAuthorizationID_format (id : UUID) :
    parseAuthorizationID (formatAuthorizationID id) = some id :=
  parseID_formatID .authorization .authorization id

theorem parseCaptureID_format (id : UUID) : parseCaptureID (formatCaptureID id) = some id :=
  parseID_formatID .capture .capture id

/-- An authorization that the bank found expired has not been captured. -/
theorem Inv.uncaptured_of_expired (inv : Inv d start net)
    (expiries : Expiries d.bank net.bank.sessions net.bank.clock) {x : Execution}
    (hx : x ∈ net.executions) (hfate : x.fate = some (formatAuthorizationID id, .expired)) :
    net.bank.sessions.db.settlement? (id, .capture) = none := by
  obtain ⟨e, he, request, horigin, hexecution⟩ := mem_executions.mp hx
  obtain ⟨service, hservice, hstart⟩ := inv.service_of_entry he horigin
  obtain ⟨⟨message, hresult⟩, ⟨body, rfl, hid⟩ | ⟨body, rfl, hid⟩⟩ :=
    executionOf_of_expired hexecution hfate
  · simp only [apiOf, ApiRequest.serviceRequest, hid, parseAuthorizationID_format] at hservice
    cases hservice
    exact (expiries e he id _ message hstart hresult).uncaptured
  · simp only [apiOf, ApiRequest.serviceRequest, hid, parseAuthorizationID_format] at hservice
    cases hservice
    exact absurd hresult (inv.bank.reachable.void_ne_expired he hstart message)

end Net

end PaymentGateway.MockBank
