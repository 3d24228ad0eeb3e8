/-
# The server of the bank

`middleware`, the handlers and `main.go` of `mock-bank/bank` as one machine. A request
goes through the idempotency middleware, the failure injection and its handler, which
runs a transaction; requests are served at the same time. A response that is to be
cached is stored after the handler has returned, and the response goes out after that.

Things fail where they can fail: the look-up and the storing of keys, the start of a
transaction, its statements and its commit, after which the transaction may have been
committed or not. A request may end at any point without a response, when its connection
or the process goes away. Keys are deleted when they are a day old.

The answers are kept for the statements; no step reads them. Nor does any step read a
closed request.
-/

import PaymentGateway.MockBank.Runs
import PaymentGateway.MockBank.Handlers

namespace PaymentGateway.MockBank

open Lib

/-- Where a request is. -/
inductive RequestPhase
  | arrived
  /-- It has passed the idempotency middleware, with or without a key to store. -/
  | passed (caching : Bool)
  /-- Its transaction is open. -/
  | running (caching : Bool)
  /-- The handler has returned, and the response is to be stored. -/
  | storing (response : Response)
  | responding (response : Response)
  | closed
  deriving DecidableEq, Repr

structure ServerRequest where
  api : ApiRequest
  key : GoString
  phase : RequestPhase
  deriving DecidableEq, Repr

/-- `IdempotencyKey`, with the response that is replayed. -/
structure CachedResponse where
  response : Response
  createdAt : Time
  deriving DecidableEq, Repr

structure Server where
  sessions : BankSessions
  cache : Path → GoString → Option CachedResponse
  requests : ℕ → Option ServerRequest
  clock : Time
  answers : List (ℕ × Response)

/-- What can happen to a request. -/
inductive RequestAction
  | lookup (fails : Bool)
  | injectFailure
  | handle
  | beginFails (text : GoString)
  | call (id : UUID) (failure : Option GoString)
  | finish
  | commitFails (committed : Bool) (text : GoString)
  | store (fails : Bool)
  | respond
  | lose

inductive ServerEvent
  | arrive (i : ℕ) (api : ApiRequest) (key : GoString)
  | act (i : ℕ) (action : RequestAction)
  | cleanup
  | tick (d : ℕ)

namespace Server

/-- A bank with given tables, before its first request. -/
def initial (db : Db) (clock : Time) : Server :=
  ⟨Sessions.initial db, fun _ _ => none, fun _ => none, clock, []⟩

def setPhase (s : Server) (i : ℕ) (r : ServerRequest) (phase : RequestPhase) : Server :=
  { s with requests := Function.update s.requests i (some { r with phase }) }

/-- A handler has returned to the idempotency middleware. -/
def returned (caching : Bool) (response : Response) : RequestPhase :=
  if caching && shouldCacheResponse response then .storing response else .responding response

/-- `writeFailureResponse`. -/
def injectedFailure : Response :=
  errorResponse 500 .internalError (ascii "Random failure injection")

/-- `Store`, which keeps what is there. -/
def storeKey (s : Server) (path : Path) (key : GoString) (response : Response) :
    Path → GoString → Option CachedResponse :=
  match s.cache path key with
  | some _ => s.cache
  | none => Function.update s.cache path
      (Function.update (s.cache path) key (some ⟨response, s.clock⟩))

/-- `cleanupIdempotencyKeys`. -/
def cleanupIdempotencyKeys (s : Server) : Path → GoString → Option CachedResponse :=
  fun path key => (s.cache path key).filter
    fun cached => ¬ cached.createdAt < s.clock - 24 * 60 * 60 * 1000000000

/-- What is left of the script of a request. -/
def script (s : Server) (i : ℕ) : Option BankScript :=
  (s.sessions.session i).map fun session => session.conf.script

/-- The transaction of a request takes a step, and the request goes on. -/
def transact (bank : Bank) (s : Server) (e : BankEvent) (i : ℕ) (r : ServerRequest)
    (phase : RequestPhase) : Option Server :=
  (bank.step s.sessions e).map fun sessions => { s.setPhase i r phase with sessions }

/-- An action on a request, where it is enabled. -/
def act (bank : Bank) (s : Server) (i : ℕ) (r : ServerRequest) : RequestAction → Option Server
  | .lookup fails =>
    match r.phase with
    | .arrived =>
      if fails then some (s.setPhase i r (.passed false))
      else
        match s.cache r.api.path r.key with
        | some cached => some (s.setPhase i r (.responding cached.response))
        | none => some (s.setPhase i r (.passed true))
    | _ => none
  | .injectFailure =>
    match r.phase with
    | .passed _ => some (s.setPhase i r (.responding injectedFailure))
    | _ => none
  | .handle =>
    match r.phase with
    | .passed caching =>
      match r.api.serviceRequest with
      | .error response => some (s.setPhase i r (returned caching response))
      | .ok request => s.transact bank (.start i request) i r (.running caching)
    | _ => none
  | .beginFails text =>
    match r.phase, r.api.serviceRequest.map bank.script with
    | .passed caching, .ok (.call _ _) =>
      some (s.setPhase i r (returned caching
        (errorResponse 400 .internalError (ascii "failed to start transaction: " ++ text))))
    | _, _ => none
  | .call id failure =>
    match r.phase with
    | .running _ => s.transact bank (.call i ⟨s.clock, id, failure⟩) i r r.phase
    | _ => none
  | .finish =>
    match r.phase, s.script i with
    | .running caching, some (.done result) =>
      s.transact bank (.finish i) i r (returned caching (MockBank.respond r.api.path result))
    | _, _ => none
  | .commitFails committed text =>
    match r.phase, s.script i with
    | .running caching, some (.done (.ok _)) =>
      s.transact bank (if committed then .finish i else .abort i) i r (returned caching
        (errorResponse 400 .internalError (ascii "failed to commit transaction: " ++ text)))
    | _, _ => none
  | .store fails =>
    match r.phase with
    | .storing response =>
      some { s.setPhase i r (.responding response) with
        cache := if fails then s.cache else s.storeKey r.api.path r.key response }
    | _ => none
  | .respond =>
    match r.phase with
    | .responding response =>
      some { s.setPhase i r .closed with answers := (i, response) :: s.answers }
    | _ => none
  | .lose =>
    match r.phase with
    | .closed => none
    | .running _ => s.transact bank (.abort i) i r .closed
    | _ => some (s.setPhase i r .closed)

/-- One step of the server, where it is enabled. -/
def step (bank : Bank) (s : Server) : ServerEvent → Option Server
  | .arrive i api key =>
    match s.requests i with
    | some _ => none
    | none => if key = [] then none else some (s.setPhase i ⟨api, key, .arrived⟩ .arrived)
  | .act i action =>
    match s.requests i with
    | some r => s.act bank i r action
    | none => none
  | .cleanup => some { s with cache := s.cleanupIdempotencyKeys }
  | .tick d => some { s with clock := s.clock + d }

/-- What a step does, case by case. -/
inductive Rule (bank : Bank) (s : Server) : ServerEvent → Server → Prop
  | arrive (i : ℕ) (api : ApiRequest) (key : GoString) (absent : s.requests i = none)
      (given : key ≠ []) :
      Rule bank s (.arrive i api key) (s.setPhase i ⟨api, key, .arrived⟩ .arrived)
  | overlook (i : ℕ) (r : ServerRequest) (known : s.requests i = some r)
      (phase : r.phase = .arrived) :
      Rule bank s (.act i (.lookup true)) (s.setPhase i r (.passed false))
  | replay (i : ℕ) (r : ServerRequest) (cached : CachedResponse) (known : s.requests i = some r)
      (phase : r.phase = .arrived) (hit : s.cache r.api.path r.key = some cached) :
      Rule bank s (.act i (.lookup false)) (s.setPhase i r (.responding cached.response))
  | miss (i : ℕ) (r : ServerRequest) (known : s.requests i = some r) (phase : r.phase = .arrived)
      (absent : s.cache r.api.path r.key = none) :
      Rule bank s (.act i (.lookup false)) (s.setPhase i r (.passed true))
  | injectFailure (i : ℕ) (r : ServerRequest) (caching : Bool) (known : s.requests i = some r)
      (phase : r.phase = .passed caching) :
      Rule bank s (.act i .injectFailure) (s.setPhase i r (.responding injectedFailure))
  | reject (i : ℕ) (r : ServerRequest) (caching : Bool) (response : Response)
      (known : s.requests i = some r) (phase : r.phase = .passed caching)
      (unparsed : r.api.serviceRequest = .error response) :
      Rule bank s (.act i .handle) (s.setPhase i r (returned caching response))
  | start (i : ℕ) (r : ServerRequest) (caching : Bool) (request : ServiceRequest)
      (sessions : BankSessions) (known : s.requests i = some r)
      (phase : r.phase = .passed caching) (parsed : r.api.serviceRequest = .ok request)
      (taken : bank.step s.sessions (.start i request) = some sessions) :
      Rule bank s (.act i .handle) { s.setPhase i r (.running caching) with sessions }
  | beginFails (i : ℕ) (r : ServerRequest) (caching : Bool) (text : GoString)
      (known : s.requests i = some r) (phase : r.phase = .passed caching) :
      Rule bank s (.act i (.beginFails text)) (s.setPhase i r (returned caching
        (errorResponse 400 .internalError (ascii "failed to start transaction: " ++ text))))
  | call (i : ℕ) (r : ServerRequest) (caching : Bool) (id : UUID) (failure : Option GoString)
      (sessions : BankSessions) (known : s.requests i = some r)
      (phase : r.phase = .running caching)
      (taken : bank.step s.sessions (.call i ⟨s.clock, id, failure⟩) = some sessions) :
      Rule bank s (.act i (.call id failure)) { s.setPhase i r r.phase with sessions }
  | finish (i : ℕ) (r : ServerRequest) (caching : Bool) (result : Result)
      (sessions : BankSessions) (known : s.requests i = some r)
      (phase : r.phase = .running caching) (ended : s.script i = some (.done result))
      (taken : bank.step s.sessions (.finish i) = some sessions) :
      Rule bank s (.act i .finish) { s.setPhase i r
        (returned caching (MockBank.respond r.api.path result)) with sessions }
  | commitFails (i : ℕ) (r : ServerRequest) (caching : Bool) (t : Transaction) (committed : Bool)
      (text : GoString) (sessions : BankSessions) (known : s.requests i = some r)
      (phase : r.phase = .running caching) (ended : s.script i = some (.done (.ok t)))
      (taken : bank.step s.sessions (if committed then .finish i else .abort i) = some sessions) :
      Rule bank s (.act i (.commitFails committed text)) { s.setPhase i r (returned caching
        (errorResponse 400 .internalError (ascii "failed to commit transaction: " ++ text)))
        with sessions }
  | store (i : ℕ) (r : ServerRequest) (response : Response) (fails : Bool)
      (known : s.requests i = some r) (phase : r.phase = .storing response) :
      Rule bank s (.act i (.store fails)) { s.setPhase i r (.responding response) with
        cache := if fails then s.cache else s.storeKey r.api.path r.key response }
  | respond (i : ℕ) (r : ServerRequest) (response : Response) (known : s.requests i = some r)
      (phase : r.phase = .responding response) :
      Rule bank s (.act i .respond)
        { s.setPhase i r .closed with answers := (i, response) :: s.answers }
  | lose (i : ℕ) (r : ServerRequest) (known : s.requests i = some r)
      (idle : ∀ caching, r.phase ≠ .running caching) :
      Rule bank s (.act i .lose) (s.setPhase i r .closed)
  | abort (i : ℕ) (r : ServerRequest) (caching : Bool) (sessions : BankSessions)
      (known : s.requests i = some r) (phase : r.phase = .running caching)
      (taken : bank.step s.sessions (.abort i) = some sessions) :
      Rule bank s (.act i .lose) { s.setPhase i r .closed with sessions }
  | cleanup : Rule bank s .cleanup { s with cache := s.cleanupIdempotencyKeys }
  | tick (d : ℕ) : Rule bank s (.tick d) { s with clock := s.clock + d }

variable {bank : Bank} {s s' : Server} {i : ℕ} {r : ServerRequest}

theorem transact_eq_some {e : BankEvent} {phase : RequestPhase}
    (h : s.transact bank e i r phase = some s') :
    ∃ sessions, bank.step s.sessions e = some sessions ∧
      s' = { s.setPhase i r phase with sessions } := by
  obtain ⟨sessions, taken, rfl⟩ := Option.map_eq_some_iff.mp h
  exact ⟨sessions, taken, rfl⟩

theorem act_cases {action : RequestAction} (known : s.requests i = some r)
    (h : s.act bank i r action = some s') : Rule bank s (.act i action) s' := by
  cases action with
  | lookup fails =>
    simp only [act] at h
    split at h
    · next phase =>
      split at h
      · next hfails =>
        cases h
        subst hfails
        exact .overlook i r known phase
      · next hfails =>
        obtain rfl : fails = false := by simpa using hfails
        split at h
        · next cached hit =>
          cases h
          exact .replay i r cached known phase hit
        · next absent =>
          cases h
          exact .miss i r known phase absent
    · cases h
  | injectFailure =>
    simp only [act] at h
    split at h
    · next caching phase =>
      cases h
      exact .injectFailure i r caching known phase
    · cases h
  | handle =>
    simp only [act] at h
    split at h
    · next caching phase =>
      split at h
      · next response unparsed =>
        cases h
        exact .reject i r caching response known phase unparsed
      · next request parsed =>
        obtain ⟨sessions, taken, rfl⟩ := transact_eq_some h
        exact .start i r caching request sessions known phase parsed taken
    · cases h
  | beginFails text =>
    simp only [act] at h
    split at h
    · next caching _ _ phase _ =>
      cases h
      exact .beginFails i r caching text known phase
    · cases h
  | call id failure =>
    simp only [act] at h
    split at h
    · next caching phase =>
      obtain ⟨sessions, taken, rfl⟩ := transact_eq_some h
      exact .call i r caching id failure sessions known phase taken
    · cases h
  | finish =>
    simp only [act] at h
    split at h
    · next caching result phase ended =>
      obtain ⟨sessions, taken, rfl⟩ := transact_eq_some h
      exact .finish i r caching result sessions known phase ended taken
    · cases h
  | commitFails committed text =>
    simp only [act] at h
    split at h
    · next caching t phase ended =>
      obtain ⟨sessions, taken, rfl⟩ := transact_eq_some h
      exact .commitFails i r caching t committed text sessions known phase ended taken
    · cases h
  | store fails =>
    simp only [act] at h
    split at h
    · next response phase =>
      cases h
      exact .store i r response fails known phase
    · cases h
  | respond =>
    simp only [act] at h
    split at h
    · next response phase =>
      cases h
      exact .respond i r response known phase
    · cases h
  | lose =>
    simp only [act] at h
    split at h
    · cases h
    · next caching phase =>
      obtain ⟨sessions, taken, rfl⟩ := transact_eq_some h
      exact .abort i r caching sessions known phase taken
    · next hclosed hrunning =>
      cases h
      exact .lose i r known hrunning

theorem step_cases {e : ServerEvent} (h : s.step bank e = some s') : Rule bank s e s' := by
  cases e with
  | arrive i api key =>
    simp only [step] at h
    split at h
    · cases h
    · next absent =>
      split at h
      · cases h
      · next given =>
        cases h
        exact .arrive i api key absent given
  | act i action =>
    simp only [step] at h
    split at h
    · next r known => exact act_cases known h
    · cases h
  | cleanup =>
    cases h
    exact .cleanup
  | tick d =>
    cases h
    exact .tick d

end Server

end PaymentGateway.MockBank
