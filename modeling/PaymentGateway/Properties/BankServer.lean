/-
# What the answers of the bank are worth

A granted request has been executed and its row is in the tables, even if it was another
request with the same key that was executed. A capture that was answered with
`authorization_expired` settles the matter: the hold is never captured, although its money
stays blocked until it is voided. And where requests with one key do not overlap, a key is
executed once, however often it is sent, and every granted answer to it is the same.
-/

import PaymentGateway.MockBank.Expiry
import PaymentGateway.MockBank.Idempotency
import PaymentGateway.Properties.BankBook

namespace PaymentGateway.MockBank

open Lib

/-! ## A sample run -/

namespace Sample

/-- A request that is not answered from the cache, up to its commit. -/
def handled (i : ℕ) (api : ApiRequest) (key : GoString) (id : UUID) (statements : ℕ) :
    List ServerEvent :=
  [.arrive i api key, .act i (.lookup false), .act i .handle] ++
    List.replicate statements (.act i (.call id none)) ++ [.act i .finish]

def createAuthorization : ApiRequest :=
  .createAuthorization account.accountNumber account.cvv 12 2030 500

/-- An authorization is sent twice with one key, the second time after the first response. -/
def authorizedTwice : List ServerEvent :=
  handled 0 createAuthorization (ascii "key-1") (uuid 2) 7 ++
    [.act 0 (.store false), .act 0 .respond, .arrive 1 createAuthorization (ascii "key-1"),
      .act 1 (.lookup false), .act 1 .respond]

def createCapture : ApiRequest := .createCapture (formatAuthorizationID (uuid 2)) 500

/-- A capture comes a week and an hour after its authorization. -/
def capturedLate : List ServerEvent :=
  authorizedTwice ++ .tick (169 * 60 * 60 * 1000000000) ::
    handled 2 createCapture (ascii "key-2") (uuid 3) 2 ++ [.act 2 .respond]

theorem exists_server (property : Server → Bool) (events : List ServerEvent)
    (h : (execWhere (Server.step bank) (fun _ _ => true) (.initial db 1000000) events).any
      property = true) : ∃ s, Server.Reachable bank db s ∧ property s = true := by
  obtain ⟨s, run, hs⟩ := exists_reaches_of_execWhere (fun _ _ _ => trivial) events h
  exact ⟨s, ⟨_, run⟩, hs⟩

/-- `Server.Orderly`, for runs with few requests and without failures. -/
def orderly (s : Server) : ServerEvent → Bool
  | .arrive i api key => i < 3 && (List.range 3).all fun j =>
      (s.requests j).all fun r => (r.api.path ≠ api.path || r.key ≠ key) || r.phase = .closed
  | .act _ (.lookup fails) => !fails
  | .act _ (.store fails) => !fails
  | .act _ (.commitFails _ _) | .act _ .lose | .cleanup => false
  | _ => true

theorem orderly_sound {s : Server} {e : ServerEvent} (h : orderly s e = true)
    (few : ∀ j, 3 ≤ j → s.requests j = none) : s.Orderly e := by
  cases e with
  | arrive i api key =>
    intro j r known hpath hkey
    have hj : j < 3 := by
      by_contra hj
      cases known.symm.trans (few j (by omega))
    rw [orderly, Bool.and_eq_true, List.all_eq_true] at h
    have hclosed := h.2 j (List.mem_range.mpr hj)
    simpa [known, hpath, hkey] using hclosed
  | act i action =>
    cases action with
    | lookup fails | store fails => simpa [orderly, Server.Orderly] using h
    | commitFails | lose => cases h
    | injectFailure | handle | beginFails | call | finish | respond => trivial
  | cleanup => cases h
  | tick => trivial

theorem exists_orderly_server (property : Server → Bool) (events : List ServerEvent)
    (h : (execWhere (Server.step bank) orderly (.initial db 1000000) events).any property =
      true) : ∃ s, Server.OrderlyReachable bank db s ∧ property s = true := by
  -- The requests of a checked run are numbered below three.
  have hfew : ∀ s e s', (∀ j, 3 ≤ j → s.requests j = none) → orderly s e = true →
      Server.step bank s e = some s' → ∀ j, 3 ≤ j → s'.requests j = none := by
    intro s e s' few allowed taken j hj
    cases hknown : s'.requests j with
    | none => rfl
    | some r =>
      obtain ⟨before, hbefore, -⟩ | rfl := (Server.step_cases taken).request_cases hknown
      · cases hbefore.symm.trans (few j hj)
      · rw [orderly, Bool.and_eq_true, decide_eq_true_eq] at allowed
        omega
  obtain ⟨s, run, hs⟩ : ∃ s, Reaches (Server.step bank) (fun s e => orderly s e = true)
      (.initial db 1000000) s ∧ property s = true :=
    exists_reaches_of_execWhere (fun _ _ h => h) events h
  obtain ⟨hrun, -⟩ := run.strengthen (fun _ _ => rfl) hfew
  exact ⟨s, ⟨_, hrun.mono fun s e h => orderly_sound h.1 h.2⟩, hs⟩

end Sample

namespace Server

variable {bank : Bank} {start : Db} {s : Server} {i : ℕ} {response : Response}

theorem Idle.status_ne (h : Idle response) : response.status ≠ 200 := by
  obtain ⟨status, code, message, rfl | rfl, -⟩ := h <;> simp [errorResponse]

theorem Idle.ne_authExpired (h : Idle response) (status : ℕ) (message : GoString) :
    errorResponse status .authExpired message ≠ response := by
  obtain ⟨status', code, message', -, huninformed⟩ := h
  intro heq
  obtain ⟨hcode, -⟩ := ResponseBody.error.inj (congrArg Response.body heq)
  obtain rfl := ErrorCode.text_injective hcode
  simp at huninformed

theorem status_refused_ne (path : Path) (failure : ServiceFailure) :
    (refused path failure).status ≠ 200 := by
  intro h
  have huncached := shouldCacheResponse_refused path failure
  simp [shouldCacheResponse, h] at huncached

theorem Explained.granted_of_status {r : ServerRequest} (h : s.Explained i r response)
    (ok : response.status = 200) : s.Granted r.api.path r.key response := by
  obtain hgranted | ⟨e, -, -, failure, -, rfl⟩ | hidle := h
  · exact hgranted
  · exact absurd ok (status_refused_ne _ failure)
  · exact absurd ok hidle.status_ne

/-! ## Granted requests -/

/-- An answer with status 200 reports a transaction that was committed for a request with the
same path and the same key. It did what that request asked for, and its row is stored. -/
theorem granted_is_committed (h : Reachable bank start s) (answered : (i, response) ∈ s.answers)
    (ok : response.status = 200) :
    ∃ r, s.requests i = some r ∧ ∃ e ∈ s.sessions.history, ∃ made request t,
      s.requests e.id = some made ∧ made.api.path = r.api.path ∧ made.key = r.key ∧
      made.api.serviceRequest = .ok request ∧ e.result = .ok t ∧
      response = granted r.api.path t ∧ request.Fulfils t ∧ s.sessions.db.Has t := by
  obtain ⟨r, hknown, hexplained⟩ := h.inv.answered i response answered
  obtain ⟨e, he, made, t, hmade, hpath, hkey, hresult, hresponse⟩ :=
    hexplained.granted_of_status ok
  obtain ⟨made', request, hmade', hparsed, hstart⟩ := h.inv.recorded e he
  obtain rfl := Option.some.inj (hmade.symm.trans hmade')
  obtain ⟨hfulfils, hhas⟩ := h.inv.reachable.committed he hresult hstart
  exact ⟨r, hknown, e, he, made, request, t, hmade, hpath, hkey, hparsed, hresult, hresponse,
    hfulfils, hhas⟩

/-- The second answer of the sample run is the stored one of the first. -/
theorem granted_is_committed_sample : ∃ s, Reachable Sample.bank Sample.db s ∧
    ∃ response, (1, response) ∈ s.answers ∧ response.status = 200 ∧
    ∃ r, s.requests 1 = some r ∧ ∃ e ∈ s.sessions.history, ∃ made request t,
      s.requests e.id = some made ∧ made.api.path = r.api.path ∧ made.key = r.key ∧
      made.api.serviceRequest = .ok request ∧ e.result = .ok t ∧
      response = granted r.api.path t ∧ request.Fulfils t ∧ s.sessions.db.Has t := by
  obtain ⟨s, hs, hproperty⟩ := Sample.exists_server (fun s =>
    s.answers.any fun answer => answer.1 = 1 && answer.2.status = 200) Sample.authorizedTwice
    (by decide +kernel)
  obtain ⟨⟨i, response⟩, hanswer, hboth⟩ := List.any_eq_true.mp hproperty
  rw [Bool.and_eq_true, decide_eq_true_eq, decide_eq_true_eq] at hboth
  obtain ⟨rfl, ok⟩ : i = 1 ∧ response.status = 200 := hboth
  exact ⟨s, hs, response, hanswer, ok, granted_is_committed hs hanswer ok⟩

/-! ## Expired holds -/

theorem path_of_serviceRequest_capture {api : ApiRequest} {id : UUID} {amount : ℤ}
    (h : api.serviceRequest = .ok (.capture id amount)) : api.path = .captures := by
  cases api with
  | createAuthorization => cases h
  | createCapture => rfl
  | createVoid | createRefund =>
    simp only [ApiRequest.serviceRequest] at h
    split at h <;> cases h

theorem Reachable.expired_of_answered (h : Reachable bank start s) {r : ServerRequest} {id : UUID}
    {amount : ℤ} {message : GoString} (known : s.requests i = some r)
    (asked : r.api.serviceRequest = .ok (.capture id amount))
    (answered : (i, errorResponse 400 .authExpired message) ∈ s.answers) :
    ∃ e ∈ s.sessions.history, e.start = bank.script (.capture id amount) ∧
      e.result = .error (.service .authExpired message) := by
  have hpath : r.api.path = .captures := path_of_serviceRequest_capture asked
  obtain ⟨r', hknown, hexplained⟩ := h.inv.answered i _ answered
  obtain rfl := Option.some.inj (known.symm.trans hknown)
  obtain ⟨e, -, made, t, -, -, -, -, hresponse⟩ | ⟨e, he, rfl, failure, hresult, hresponse⟩ |
    hidle := hexplained
  · cases congrArg Response.status hresponse
  · obtain ⟨made, request, hmade, hparsed, hstart⟩ := h.inv.recorded e he
    obtain rfl := Option.some.inj (known.symm.trans hmade)
    obtain rfl := Except.ok.inj (asked.symm.trans hparsed)
    refine ⟨e, he, hstart, ?_⟩
    rw [hpath] at hresponse
    cases failure with
    | other text => cases congrArg Response.status hresponse
    | service code text =>
      obtain ⟨hcode, htext⟩ := ResponseBody.error.inj (congrArg Response.body hresponse)
      rw [hresult, ErrorCode.text_injective hcode, htext]
  · exact absurd rfl (hidle.ne_authExpired 400 message)

/-- Once a capture has been answered with `authorization_expired`, the hold has expired and no
capture of it is ever in the tables. -/
theorem expired_is_never_captured (empty : start.transactions = []) (h : Reachable bank start s)
    {r : ServerRequest} {id : UUID} {amount : ℤ} {message : GoString}
    (known : s.requests i = some r) (asked : r.api.serviceRequest = .ok (.capture id amount))
    (answered : (i, errorResponse 400 .authExpired message) ∈ s.answers) :
    (∃ hold expiresAt, s.sessions.db.transaction? id = some hold ∧
      hold.expiresAt = some expiresAt ∧ expiresAt < s.clock) ∧
    ∀ t ∈ s.sessions.db.transactions, t.type = .capture → t.referenceID ≠ some id := by
  obtain ⟨e, he, hstart, hresult⟩ := h.expired_of_answered known asked answered
  obtain ⟨hexpired, huncaptured, -⟩ := h.expiries empty e he id amount message hstart hresult
  refine ⟨hexpired, fun t ht htype href => ?_⟩
  have hkey : t.indexKey = some (id, .capture) := by
    simp [Transaction.indexKey, htype, href]
  have hsound := h.inv.reachable.sound empty
  cases (hsound.unique t ht _ hkey).symm.trans huncaptured

/-- The late capture of the sample run. -/
theorem expired_is_never_captured_sample : ∃ s, Reachable Sample.bank Sample.db s ∧
    (2, errorResponse 400 .authExpired (ascii "authorization has expired")) ∈ s.answers ∧
    ∀ t ∈ s.sessions.db.transactions, t.type = .capture →
      t.referenceID ≠ some (Sample.uuid 2) := by
  obtain ⟨s, hs, hproperty⟩ := Sample.exists_server (fun s =>
    (s.requests 2).map ServerRequest.api = some Sample.createCapture &&
      decide ((2, errorResponse 400 .authExpired (ascii "authorization has expired")) ∈ s.answers))
    Sample.capturedLate (by decide +kernel)
  rw [Bool.and_eq_true, decide_eq_true_eq, decide_eq_true_eq] at hproperty
  obtain ⟨r, hknown, hapi⟩ := Option.map_eq_some_iff.mp hproperty.1
  have hasked : r.api.serviceRequest = .ok (.capture (Sample.uuid 2) 500) := by
    rw [hapi]
    decide +kernel
  exact ⟨s, hs, hproperty.2, (expired_is_never_captured rfl hs hknown hasked hproperty.2).2⟩

/-! ## One commit for a key -/

/-- Where the requests with one key come one after the other, keys are found and stored and none
is deleted, and the result of each commit is known, a path and a key are committed at most once,
and all granted answers to them are the same. -/
theorem committed_once (h : OrderlyReachable bank start s) (path : Path) (key : GoString) :
    (∀ e e', s.Commits path key e → s.Commits path key e' → e = e') ∧
    ∀ i j r r' response response', s.requests i = some r → s.requests j = some r' →
      r.api.path = path → r'.api.path = path → r.key = key → r'.key = key →
      (i, response) ∈ s.answers → (j, response') ∈ s.answers →
      response.status = 200 → response'.status = 200 → response = response' := by
  have hsingle := h.once.single path key
  -- A granted answer reports what was committed for the key.
  have hcommits : ∀ {i r response}, s.requests i = some r → r.api.path = path → r.key = key →
      (i, response) ∈ s.answers → response.status = 200 →
      ∃ e t, s.Commits path key e ∧ e.result = .ok t ∧ response = granted path t := by
    rintro i r response hknown rfl rfl hanswer ok
    obtain ⟨r', hknown', hexplained⟩ := h.reachable.inv.answered i response hanswer
    obtain rfl := Option.some.inj (hknown.symm.trans hknown')
    obtain ⟨e, he, made, t, hmade, hpath, hkey, hresult, hresponse⟩ :=
      hexplained.granted_of_status ok
    exact ⟨e, t, ⟨he, by rw [hresult]; rfl, made, hmade, hpath, hkey⟩, hresult, hresponse⟩
  refine ⟨hsingle, ?_⟩
  intro i j r r' response response' hr hr' hpath hpath' hkey hkey' hi hj ok ok'
  obtain ⟨e, t, he, hresult, rfl⟩ := hcommits hr hpath hkey hi ok
  obtain ⟨e', t', he', hresult', rfl⟩ := hcommits hr' hpath' hkey' hj ok'
  obtain rfl := hsingle e e' he he'
  cases hresult.symm.trans hresult'
  rfl

/-- The two authorizations of the sample run. -/
theorem committed_once_sample : ∃ s, OrderlyReachable Sample.bank Sample.db s ∧
    s.answers.map (fun answer => (answer.1, answer.2.status)) = [(1, 200), (0, 200)] ∧
    ∀ e e', s.Commits .authorizations (ascii "key-1") e →
      s.Commits .authorizations (ascii "key-1") e' → e = e' := by
  obtain ⟨s, hs, hproperty⟩ := Sample.exists_orderly_server (fun s =>
    s.answers.map (fun answer => (answer.1, answer.2.status)) = [(1, 200), (0, 200)])
    Sample.authorizedTwice (by decide +kernel)
  exact ⟨s, hs, of_decide_eq_true hproperty, (committed_once hs .authorizations (ascii "key-1")).1⟩

-- Two requests with one key that are both looked up before either is stored hold the money twice.
example : (execWhere (Server.step Sample.bank) (fun _ _ => true) (.initial Sample.db 1000000)
    (.arrive 1 Sample.createAuthorization (ascii "key-1") :: .act 1 (.lookup false) ::
      Sample.handled 0 Sample.createAuthorization (ascii "key-1") (Sample.uuid 2) 7 ++
      .act 1 .handle :: List.replicate 7 (.act 1 (.call (Sample.uuid 3) none)) ++
      [.act 1 .finish])).map (fun s => s.sessions.db.book.length) = some 2 := by
  decide +kernel

end Server

end PaymentGateway.MockBank
