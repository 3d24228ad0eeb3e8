/-
# What answers report

An answer that grants a request reports a transaction that was committed for a request
with the same path and the same key: the request itself, or an earlier one whose response
was stored. Apart from that an answer reports why the transaction of its own request was
refused, or it says nothing of what the bank has done.

The middleware compares no bodies, so the earlier request may have had another body.
-/

import PaymentGateway.MockBank.Server

namespace PaymentGateway.MockBank

open Lib

namespace Server

variable {bank : Bank} {start : Db} {s s' : Server} {i : ℕ} {r : ServerRequest}
  {response : Response}

/-! ## Explained responses -/

/-- A response reports a transaction that was committed for a path and a key. -/
def Granted (s : Server) (path : Path) (key : GoString) (response : Response) : Prop :=
  ∃ e ∈ s.sessions.history, ∃ r t, s.requests e.id = some r ∧ r.api.path = path ∧ r.key = key ∧
    e.result = .ok t ∧ response = granted path t

/-- A response reports why the transaction of a request was refused. -/
def Refused (s : Server) (i : ℕ) (path : Path) (response : Response) : Prop :=
  ∃ e ∈ s.sessions.history, e.id = i ∧ ∃ failure, e.result = .error failure ∧
    response = refused path failure

/-- A response that says nothing of what the bank has done. -/
inductive Idle : Response → Prop
  | mk (status : ℕ) (code : ErrorCode) (message : GoString)
      (failure : status = 400 ∨ status = 500)
      (uninformed : code = .internalError ∨ code = .authNotFound ∨ code = .captureNotFound) :
      Idle (errorResponse status code message)

/-- What a response to a request may report. -/
def Explained (s : Server) (i : ℕ) (r : ServerRequest) (response : Response) : Prop :=
  s.Granted r.api.path r.key response ∨ s.Refused i r.api.path response ∨ Idle response

/-- Requests keep their bodies and keys, and what was recorded stays. -/
structure Grows (s s' : Server) : Prop where
  requests : ∀ i r, s.requests i = some r → ∃ phase, s'.requests i = some { r with phase }
  history : s.sessions.history ⊆ s'.sessions.history

theorem Granted.mono {path : Path} {key : GoString} (h : s.Granted path key response)
    (grows : Grows s s') : s'.Granted path key response := by
  obtain ⟨e, he, r, t, known, hpath, hkey, hrest⟩ := h
  obtain ⟨phase, hphase⟩ := grows.requests e.id r known
  exact ⟨e, grows.history he, _, t, hphase, hpath, hkey, hrest⟩

theorem Explained.mono (h : s.Explained i r response) (grows : Grows s s')
    (phase : RequestPhase) : s'.Explained i { r with phase } response := by
  obtain hgranted | ⟨e, he, hrest⟩ | hidle := h
  · exact .inl (hgranted.mono grows)
  · exact .inr (.inl ⟨e, grows.history he, hrest⟩)
  · exact .inr (.inr hidle)

theorem Idle.not_cached (h : Idle response) : shouldCacheResponse response = false := by
  obtain ⟨status, code, message, rfl | rfl, -⟩ := h <;> rfl

theorem idle_injectedFailure : Idle injectedFailure := .mk _ _ _ (.inr rfl) (.inl rfl)

theorem idle_internalError (message : GoString) :
    Idle (errorResponse 400 .internalError message) :=
  .mk _ _ _ (.inl rfl) (.inl rfl)

theorem idle_of_serviceRequest {api : ApiRequest} (h : api.serviceRequest = .error response) :
    Idle response := by
  cases api with
  | createAuthorization => cases h
  | createCapture authorizationID amount =>
    simp only [ApiRequest.serviceRequest] at h
    split at h
    · cases h
    · cases h
      exact .mk _ _ _ (.inl rfl) (.inr (.inl rfl))
  | createVoid authorizationID =>
    simp only [ApiRequest.serviceRequest] at h
    split at h
    · cases h
    · cases h
      exact .mk _ _ _ (.inl rfl) (.inr (.inl rfl))
  | createRefund captureID amount =>
    simp only [ApiRequest.serviceRequest] at h
    split at h
    · cases h
    · cases h
      exact .mk _ _ _ (.inl rfl) (.inr (.inr rfl))

theorem returned_of_not_cached {caching : Bool} (h : shouldCacheResponse response = false) :
    returned caching response = .responding response := by
  simp [returned, h]

/-! ## The invariant -/

/-- A script that a request asks for. -/
def ScriptOf (bank : Bank) (s : Server) (i : ℕ) (script : BankScript) : Prop :=
  ∃ r request, s.requests i = some r ∧ r.api.serviceRequest = .ok request ∧
    script = bank.script request

theorem ScriptOf.mono {script : BankScript} (h : s.ScriptOf bank i script) (grows : Grows s s') :
    s'.ScriptOf bank i script := by
  obtain ⟨r, request, known, hrest⟩ := h
  obtain ⟨phase, hphase⟩ := grows.requests i r known
  exact ⟨_, request, hphase, hrest⟩

structure Inv (bank : Bank) (start : Db) (s : Server) : Prop where
  reachable : bank.Reachable start s.sessions
  running : ∀ i session, s.sessions.session i = some session → s.ScriptOf bank i session.start
  recorded : ∀ e ∈ s.sessions.history, s.ScriptOf bank e.id e.start
  storing : ∀ i r response, s.requests i = some r → r.phase = .storing response →
    s.Granted r.api.path r.key response
  responding : ∀ i r response, s.requests i = some r → r.phase = .responding response →
    s.Explained i r response
  cached : ∀ path key cached, s.cache path key = some cached → s.Granted path key cached.response
  answered : ∀ i response, (i, response) ∈ s.answers →
    ∃ r, s.requests i = some r ∧ s.Explained i r response

theorem Inv.initial (bank : Bank) (db : Db) (clock : Time) : Inv bank db (initial db clock) where
  reachable := .refl
  running _ _ h := by cases h
  recorded _ h := by cases h
  storing _ _ _ h := by cases h
  responding _ _ _ h := by cases h
  cached _ _ _ h := by cases h
  answered _ _ h := by cases h

@[simp] theorem setPhase_requests_self {phase : RequestPhase} :
    (s.setPhase i r phase).requests i = some { r with phase } :=
  Function.update_self ..

theorem setPhase_requests_of_ne {phase : RequestPhase} {j : ℕ} (hne : j ≠ i) :
    (s.setPhase i r phase).requests j = s.requests j :=
  Function.update_of_ne hne ..

/-- A request that is there goes on, and its transaction may take a step. -/
theorem grows_setPhase {phase : RequestPhase} {sessions : BankSessions}
    {cache : Path → GoString → Option CachedResponse} {answers : List (ℕ × Response)}
    (known : s.requests i = some r) (grown : s.sessions.history ⊆ sessions.history) :
    Grows s { s.setPhase i r phase with sessions, cache, answers } where
  requests j other h := by
    rcases eq_or_ne j i with rfl | hne
    · cases known.symm.trans h
      exact ⟨phase, setPhase_requests_self⟩
    · exact ⟨other.phase, (setPhase_requests_of_ne hne).trans h⟩
  history := grown

/-- A request is where it was, or it is the one that goes on. -/
theorem setPhase_cases {phase : RequestPhase} {j : ℕ} {r' : ServerRequest}
    (h : (s.setPhase i r phase).requests j = some r') :
    s.requests j = some r' ∧ j ≠ i ∨ j = i ∧ r' = { r with phase } := by
  rcases eq_or_ne j i with rfl | hne
  · rw [setPhase_requests_self, Option.some_inj] at h
    exact .inr ⟨rfl, h.symm⟩
  · exact .inl ⟨(setPhase_requests_of_ne hne).symm.trans h, hne⟩

theorem request_of_setPhase {phase : RequestPhase} {j : ℕ} {r' : ServerRequest}
    (known : s.requests i = some r) (h : (s.setPhase i r phase).requests j = some r') :
    ∃ before, s.requests j = some before ∧ r'.api = before.api ∧ r'.key = before.key := by
  obtain ⟨hold, -⟩ | ⟨rfl, rfl⟩ := setPhase_cases h
  · exact ⟨r', hold, rfl, rfl⟩
  · exact ⟨r, known, rfl, rfl⟩

/-- A request was there before a step, or it arrives in it. -/
theorem Rule.request_cases {e : ServerEvent} (rule : Rule bank s e s') {j : ℕ}
    {r' : ServerRequest} (h : s'.requests j = some r') :
    (∃ before, s.requests j = some before ∧ r'.api = before.api ∧ r'.key = before.key) ∨
      e = .arrive j r'.api r'.key := by
  cases rule with
  | arrive i api key =>
    rcases eq_or_ne j i with rfl | hne
    · rw [setPhase_requests_self] at h
      cases h
      exact .inr rfl
    · exact .inl ⟨r', (setPhase_requests_of_ne hne).symm.trans h, rfl, rfl⟩
  | overlook _ _ known | miss _ _ known | lose _ _ known | replay _ _ _ known
  | injectFailure _ _ _ known | reject _ _ _ _ known | beginFails _ _ _ _ known
  | start _ _ _ _ _ known | call _ _ _ _ _ _ known | finish _ _ _ _ _ known
  | commitFails _ _ _ _ _ _ _ known | store _ _ _ _ known | respond _ _ _ known
  | abort _ _ _ _ known => exact .inl (request_of_setPhase known h)
  | cleanup | tick => exact .inl ⟨r', h, rfl, rfl⟩

/-- The transactions stay as they are in a step, while the clock may go on, or one of them
takes a step, with the time of the clock. -/
theorem Rule.sessions_cases {e : ServerEvent} (rule : Rule bank s e s') :
    s'.sessions = s.sessions ∧ s.clock ≤ s'.clock ∨
      s'.clock = s.clock ∧ ∃ inner, bank.step s.sessions inner = some s'.sessions ∧
        ∀ i env, inner = .call i env → env.now = s.clock := by
  cases rule with
  | start _ _ _ _ _ _ _ _ taken | finish _ _ _ _ _ _ _ _ taken | abort _ _ _ _ _ _ taken =>
    exact .inr ⟨rfl, _, taken, fun _ _ heq => by cases heq⟩
  | call _ _ _ _ _ _ _ _ taken =>
    refine .inr ⟨rfl, _, taken, fun _ _ heq => ?_⟩
    cases heq
    rfl
  | commitFails _ _ _ _ committed _ _ _ _ _ taken =>
    exact .inr ⟨rfl, _, taken, fun _ _ heq => by cases committed <;> cases heq⟩
  | tick d => exact .inl ⟨rfl, Nat.le_add_right _ _⟩
  | arrive | overlook | miss | lose | replay | injectFailure | reject | beginFails | store
  | respond | cleanup => exact .inl ⟨rfl, le_rfl⟩

/-- What is recorded stays. -/
theorem Rule.history_subset {e : ServerEvent} (rule : Rule bank s e s') :
    s.sessions.history ⊆ s'.sessions.history := by
  obtain ⟨hsame, -⟩ | ⟨-, inner, taken, -⟩ := rule.sessions_cases
  · rw [hsame]
    exact List.Subset.refl _
  · exact (Sessions.step_cases taken).history_subset

/-- What the transaction of a request does in a step. -/
structure Transacts (bank : Bank) (s : Server) (i : ℕ) (r : ServerRequest)
    (sessions : BankSessions) : Prop where
  run : sessions = s.sessions ∨ ∃ e, bank.step s.sessions e = some sessions
  grown : s.sessions.history ⊆ sessions.history
  running : ∀ j session, sessions.session j = some session →
    (∃ before, s.sessions.session j = some before ∧ session.start = before.start) ∨
      j = i ∧ ∃ request, r.api.serviceRequest = .ok request ∧ session.start = bank.script request
  recorded : ∀ e ∈ sessions.history, e ∈ s.sessions.history ∨
    (∃ before, s.sessions.session e.id = some before ∧ e.start = before.start) ∨
      e.id = i ∧ ∃ request, r.api.serviceRequest = .ok request ∧ e.start = bank.script request

theorem Transacts.refl : Transacts bank s i r s.sessions where
  run := .inl rfl
  grown := List.Subset.refl _
  running _ session h := .inl ⟨session, h, rfl⟩
  recorded _ he := .inl he

theorem Transacts.of_step {e : BankEvent} {sessions : BankSessions}
    (taken : bank.step s.sessions e = some sessions)
    (starts : ∀ j request, e = .start j request → j = i ∧ r.api.serviceRequest = .ok request) :
    Transacts bank s i r sessions := by
  have rule := Sessions.step_cases taken
  have hstarts : ∀ {j script}, bank.event e = .start j script →
      j = i ∧ ∃ request, r.api.serviceRequest = .ok request ∧ script = bank.script request := by
    intro j script h
    cases e with
    | start j' request =>
      cases h
      obtain ⟨hid, hrequest⟩ := starts _ request rfl
      exact ⟨hid, request, hrequest, rfl⟩
    | call | finish | abort => cases h
  exact {
    run := .inr ⟨e, taken⟩
    grown := rule.history_subset
    running := fun j session h => (rule.session_cases h).imp_right hstarts
    recorded := fun entry h => (rule.history_cases h).imp_right (Or.imp_right hstarts) }

/-- What an action on a request has to keep. -/
theorem Inv.act {phase : RequestPhase} {sessions : BankSessions}
    {cache : Path → GoString → Option CachedResponse} {answers : List (ℕ × Response)}
    (inv : Inv bank start s) (transacts : Transacts bank s i r sessions)
    (hs' : s' = { s.setPhase i r phase with sessions, cache, answers }) (grows : Grows s s')
    (storing : ∀ response, phase = .storing response → s'.Granted r.api.path r.key response)
    (responding : ∀ response, phase = .responding response → s'.Explained i r response)
    (cached : ∀ path key cached, cache path key = some cached →
      s.cache path key = some cached ∨ s'.Granted path key cached.response)
    (answered : ∀ j response, (j, response) ∈ answers →
      (j, response) ∈ s.answers ∨ j = i ∧ s.Explained i r response) : Inv bank start s' := by
  have hself : s'.requests i = some { r with phase } := hs' ▸ setPhase_requests_self
  have hother : ∀ {j}, j ≠ i → s'.requests j = s.requests j :=
    fun hne => hs' ▸ setPhase_requests_of_ne hne
  have hsessions : s'.sessions = sessions := by rw [hs']
  exact {
    reachable := by
      rw [hsessions]
      obtain rfl | ⟨e, taken⟩ := transacts.run
      · exact inv.reachable
      · exact inv.reachable.tail e trivial taken
    running := fun j session h => by
      rw [hsessions] at h
      obtain ⟨before, hbefore, hstart⟩ | ⟨rfl, request, hrequest, hstart⟩ :=
        transacts.running j session h
      · rw [hstart]
        exact (inv.running j before hbefore).mono grows
      · exact ⟨_, request, hself, hrequest, hstart⟩
    recorded := fun e he => by
      rw [hsessions] at he
      obtain hold | ⟨before, hbefore, hstart⟩ | ⟨hid, request, hrequest, hstart⟩ :=
        transacts.recorded e he
      · exact (inv.recorded e hold).mono grows
      · rw [hstart]
        exact (inv.running e.id before hbefore).mono grows
      · rw [hid]
        exact ⟨_, request, hself, hrequest, hstart⟩
    storing := fun j other response h hphase => by
      rcases eq_or_ne j i with rfl | hne
      · cases hself.symm.trans h
        exact storing response hphase
      · exact (inv.storing j other response ((hother hne).symm.trans h) hphase).mono grows
    responding := fun j other response h hphase => by
      rcases eq_or_ne j i with rfl | hne
      · cases hself.symm.trans h
        exact responding response hphase
      · have hbefore := (hother hne).symm.trans h
        exact (inv.responding j other response hbefore hphase).mono grows other.phase
    cached := fun path key entry h => by
      rw [hs'] at h
      obtain hold | hgranted := cached path key entry h
      · exact (inv.cached path key entry hold).mono grows
      · exact hgranted
    answered := fun j response h => by
      rw [hs'] at h
      obtain hold | ⟨rfl, hexplained⟩ := answered j response h
      · obtain ⟨other, hother, hexplained⟩ := inv.answered j response hold
        obtain ⟨phase', hphase'⟩ := grows.requests j other hother
        exact ⟨_, hphase', hexplained.mono grows phase'⟩
      · exact ⟨_, hself, hexplained.mono grows phase⟩ }

/-- An action on a request that has no response yet, and leaves it without one. -/
theorem Inv.proceed {phase : RequestPhase} {sessions : BankSessions} (inv : Inv bank start s)
    (transacts : Transacts bank s i r sessions)
    (grows : Grows s { s.setPhase i r phase with sessions })
    (silent : ∀ response, phase ≠ .storing response ∧ phase ≠ .responding response) :
    Inv bank start { s.setPhase i r phase with sessions } :=
  inv.act transacts rfl grows (fun response heq => absurd heq (silent response).1)
    (fun response heq => absurd heq (silent response).2) (fun _ _ _ => .inl) (fun _ _ => .inl)

/-- The explanation of the response of a handler. -/
theorem explained_returned (caching : Bool) {given : Response}
    (explained : s.Explained i r given) :
    (∀ response, returned caching given = .storing response →
      s.Granted r.api.path r.key response) ∧
    ∀ response, returned caching given = .responding response → s.Explained i r response := by
  by_cases hcached : (caching && shouldCacheResponse given) = true
  · rw [returned, if_pos hcached]
    refine ⟨fun response heq => ?_, by simp⟩
    cases heq
    -- Only what is granted is cached.
    rw [Bool.and_eq_true] at hcached
    obtain hgranted | ⟨e, -, -, failure, -, rfl⟩ | hidle := explained
    · exact hgranted
    · rw [shouldCacheResponse_refused] at hcached
      cases hcached.2
    · rw [hidle.not_cached] at hcached
      cases hcached.2
  · rw [returned, if_neg hcached]
    refine ⟨by simp, fun response heq => ?_⟩
    cases heq
    exact explained

theorem cached_of_storeKey {path path' : Path} {key key' : GoString} {cached : CachedResponse}
    (h : s.storeKey path key response path' key' = some cached) :
    s.cache path' key' = some cached ∨ path' = path ∧ key' = key ∧ cached.response = response := by
  cases hthere : s.cache path key with
  | some there =>
    simp only [storeKey, hthere] at h
    exact .inl h
  | none =>
    simp only [storeKey, hthere] at h
    rcases eq_or_ne path' path with rfl | hpath
    · rw [Function.update_self] at h
      rcases eq_or_ne key' key with rfl | hkey
      · rw [Function.update_self] at h
        cases h
        exact .inr ⟨rfl, rfl, rfl⟩
      · rw [Function.update_of_ne hkey] at h
        exact .inl h
    · rw [Function.update_of_ne hpath] at h
      exact .inl h

/-- The entry of a session that has ended its script, after the session was finished. -/
theorem exists_entry_of_finish (inv : Inv bank start s) {result : Result}
    {sessions : BankSessions} (ended : s.script i = some (.done result))
    (taken : bank.step s.sessions (.finish i) = some sessions) :
    ∃ e ∈ sessions.history, e.id = i ∧ e.result = result := by
  obtain ⟨session, hrunning, hscript⟩ := Option.map_eq_some_iff.mp ended
  have rule := Sessions.step_cases taken
  cases hcommits : commits result with
  | true =>
    cases rule with
    | commit _ session' result' running' script' ends' =>
      cases hrunning.symm.trans running'
      cases hscript.symm.trans script'
      exact ⟨_, List.mem_cons_self, rfl, rfl⟩
    | rollback _ session' result' running' script' fails' =>
      cases hrunning.symm.trans running'
      cases hscript.symm.trans script'
      rw [hcommits] at fails'
      cases fails'
  | false =>
    exact ⟨_, rule.history_subset (inv.reachable.inv.failed i session result hrunning hscript
      hcommits), rfl, rfl⟩

/-- The result of the transaction of a request explains the response. -/
theorem explained_respond {e : Entry Env Call Reply Result} {result : Result}
    (he : e ∈ s.sessions.history) (hid : e.id = i) (hresult : e.result = result)
    (known : s.requests i = some r) : s.Explained i r (MockBank.respond r.api.path result) := by
  cases result with
  | ok t => exact .inl ⟨e, he, r, t, hid ▸ known, rfl, rfl, hresult, rfl⟩
  | error failure => exact .inr (.inl ⟨e, he, hid, failure, hresult, rfl⟩)

theorem Inv.step {e : ServerEvent} (inv : Inv bank start s) (rule : Rule bank s e s') :
    Inv bank start s' := by
  have hcache : ∀ {s' : Server} path key cached, s.cache path key = some cached →
      s.cache path key = some cached ∨ s'.Granted path key cached.response :=
    fun _ _ _ => .inl
  have hanswers : ∀ {i r} j response, (j, response) ∈ s.answers →
      (j, response) ∈ s.answers ∨ j = i ∧ s.Explained i r response := fun _ _ => .inl
  -- A handler that returns a response which says nothing.
  have hidle : ∀ {i r caching idle}, s.requests i = some r → Idle idle → ∀ {sessions},
      Transacts bank s i r sessions →
      Inv bank start { s.setPhase i r (returned caching idle) with sessions } := by
    intro i r caching idle known hidle sessions transacts
    obtain ⟨hstoring, hresponding⟩ := explained_returned caching (i := i) (r := r)
      (s := { s.setPhase i r (returned caching idle) with sessions }) (.inr (.inr hidle))
    exact inv.act transacts rfl (grows_setPhase known transacts.grown) hstoring hresponding
      hcache hanswers
  cases rule with
  | arrive i api key absent given =>
    refine inv.proceed (r := ⟨api, key, .arrived⟩) .refl ⟨fun j other h => ?_, List.Subset.refl _⟩
      (by simp)
    have hne : j ≠ i := by
      rintro rfl
      cases absent.symm.trans h
    exact ⟨other.phase, (setPhase_requests_of_ne hne).trans h⟩
  | overlook i r known phase | miss i r known phase | lose i r known idle =>
    exact inv.proceed .refl (grows_setPhase known (List.Subset.refl _)) (by simp)
  | replay i r cached known phase hit =>
    have grows : Grows s (s.setPhase i r (.responding cached.response)) :=
      grows_setPhase known (List.Subset.refl _)
    refine inv.act .refl rfl grows (by simp) (fun response heq => ?_) hcache hanswers
    cases heq
    exact .inl ((inv.cached _ _ cached hit).mono grows)
  | injectFailure i r caching known phase =>
    refine inv.act .refl rfl (grows_setPhase known (List.Subset.refl _)) (by simp)
      (fun response heq => ?_) hcache hanswers
    cases heq
    exact .inr (.inr idle_injectedFailure)
  | reject i r caching response known phase unparsed =>
    exact hidle known (idle_of_serviceRequest unparsed) .refl
  | beginFails i r caching text known phase => exact hidle known (idle_internalError _) .refl
  | start i r caching request sessions known phase parsed taken =>
    have transacts : Transacts bank s i r sessions := .of_step taken fun j other heq => by
      cases heq
      exact ⟨rfl, parsed⟩
    exact inv.proceed transacts (grows_setPhase known transacts.grown) (by simp)
  | call i r caching id failure sessions known phase taken =>
    have transacts : Transacts bank s i r sessions := .of_step taken (by simp)
    exact inv.proceed transacts (grows_setPhase known transacts.grown) (by simp [phase])
  | finish i r caching result sessions known phase ended taken =>
    have transacts : Transacts bank s i r sessions := .of_step taken (by simp)
    obtain ⟨e, he, hid, hresult⟩ := exists_entry_of_finish inv ended taken
    obtain ⟨hstoring, hresponding⟩ := explained_returned caching
      (explained_respond (s := { s.setPhase i r (returned caching
        (MockBank.respond r.api.path result)) with sessions }) he hid hresult
        setPhase_requests_self)
    exact inv.act transacts rfl (grows_setPhase known transacts.grown) hstoring hresponding
      hcache hanswers
  | commitFails i r caching t committed text sessions known phase ended taken =>
    refine hidle known (idle_internalError _) (.of_step taken fun j other heq => ?_)
    split at heq <;> cases heq
  | store i r response fails known phase =>
    have grows : Grows s { s.setPhase i r (.responding response) with
        cache := if fails then s.cache else s.storeKey r.api.path r.key response } :=
      grows_setPhase known (List.Subset.refl _)
    have hgranted := (inv.storing i r response known phase).mono grows
    refine inv.act .refl rfl grows (by simp) (fun other heq => ?_) (fun path key cached h => ?_)
      hanswers
    · cases heq
      exact .inl hgranted
    · split at h
      · exact .inl h
      · obtain hold | ⟨rfl, rfl, rfl⟩ := cached_of_storeKey h
        · exact .inl hold
        · exact .inr hgranted
  | respond i r response known phase =>
    refine inv.act .refl rfl (grows_setPhase known (List.Subset.refl _)) (by simp) (by simp)
      hcache fun j other h => ?_
    rcases List.mem_cons.mp h with heq | hold
    · cases heq
      exact .inr ⟨rfl, inv.responding i r response known phase⟩
    · exact .inl hold
  | abort i r caching sessions known phase taken =>
    have transacts : Transacts bank s i r sessions := .of_step taken (by simp)
    exact inv.proceed transacts (grows_setPhase known transacts.grown) (by simp)
  | cleanup =>
    refine ⟨inv.reachable, inv.running, inv.recorded, inv.storing, inv.responding, ?_,
      inv.answered⟩
    intro path key cached h
    exact inv.cached path key cached (Option.eq_some_of_filter_eq_some h)
  | tick d => exact ⟨inv.reachable, inv.running, inv.recorded, inv.storing, inv.responding,
      inv.cached, inv.answered⟩

/-- The states that a bank with given tables reaches. -/
def Reachable (bank : Bank) (db : Db) (s : Server) : Prop :=
  ∃ clock, Reaches (Server.step bank) (fun _ _ => True) (initial db clock) s

theorem Reachable.inv (h : Reachable bank start s) : Inv bank start s := by
  obtain ⟨clock, run⟩ := h
  exact run.invariant (.initial bank start clock) fun s e s' _ inv _ taken =>
    inv.step (step_cases taken)

end Server

end PaymentGateway.MockBank
