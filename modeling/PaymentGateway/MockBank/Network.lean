/-
# The gateway and the bank on a network

The gateway, its bank client and the server of the bank as one system. A request that
the gateway has sent reaches the bank late, several times or never, and the bank serves
whatever has reached it. However often a request is repeated or redirected, an attempt of
the client ends with a response that the bank gave to the same request, perhaps cut short,
with a response that decides nothing, whoever gave it, or with a transport error. Nobody
redirects a request to another path of the bank.

The executions of `Bank.World` are read off the history of the bank. The bank does not
keep `BankLaw`: it may execute two requests with one key that overlap, it decides a key
again after a decline, and it voids expired holds. But it executes only what was sent,
and a definitive answer reports an execution of the same operation. The agreement of the
stored payments needs no more.
-/

import PaymentGateway.Bank.Agreement
import PaymentGateway.Properties.BankClient
import PaymentGateway.MockBank.Answers
import PaymentGateway.MockBank.Encoding
import PaymentGateway.MockBank.Postings

namespace PaymentGateway.MockBank

open Lib

/-! ## The wire -/

/-- A body as the bank decodes it. Ids and card details are UTF-8, which JSON carries as it is. -/
def received : RequestBody → ApiRequest
  | .authorization cardNumber cvv expiryMonth expiryYear amount =>
    .createAuthorization cardNumber cvv expiryMonth expiryYear amount
  | .capture authorizationID amount => .createCapture authorizationID amount
  | .void authorizationID => .createVoid authorizationID
  | .refund captureID amount => .createRefund captureID amount

/-- What runs on the two sides. -/
structure Deployment where
  service : PaymentService
  client : BankClient
  bank : Bank

/-- The client receives a response, in whatever pieces and perhaps cut short. -/
structure Delivers (response : Response) (http : HttpResponse) : Prop where
  status : http.statusCode = response.status
  body : http.body.bytes <+: response.body.written

/-! ## Runs -/

structure Net where
  gateway : State
  bank : Server
  /-- The requests from which the requests at the bank were made. -/
  origin : ℕ → Option BankRequest

inductive NetEvent
  | gateway (e : Event)
  | deliver (i : ℕ) (request : BankRequest)
  | serve (i : ℕ) (action : RequestAction)
  | cleanup
  | tick (d : ℕ)

namespace Net

def initial (db : Db) (clock bankClock : Time) : Net :=
  ⟨State.initial clock, Server.initial db bankClock, fun _ => none⟩

def step (d : Deployment) (net : Net) : NetEvent → Option Net
  | .gateway e =>
    (PaymentGateway.step d.service net.gateway e).map fun s => { net with gateway := s }
  | .deliver i request =>
    match d.client.httpRequest request with
    | .ok ⟨_, _, _, some key, some body⟩ =>
      (net.bank.step d.bank (.arrive i (received body) key)).map fun s =>
        { net with bank := s, origin := Function.update net.origin i (some request) }
    | _ => none
  | .serve i action => (net.bank.step d.bank (.act i action)).map fun s => { net with bank := s }
  | .cleanup => (net.bank.step d.bank .cleanup).map fun s => { net with bank := s }
  | .tick t => (net.bank.step d.bank (.tick t)).map fun s => { net with bank := s }

/-- What the client may get to see in an attempt for a request. -/
def Sees (net : Net) (request : BankRequest) : Exchange → Prop
  | .error _ => True
  | .ok http => (∃ i response, (i, response) ∈ net.bank.answers ∧ net.origin i = some request ∧
      Delivers response http) ∨ ¬ BankClient.Decides request.endpoint (.ok http)

/-- In an attempt for a request the network lets the client see no more than that. -/
def Honest (d : Deployment) (net : Net) (request : BankRequest) (trips : Trips) : Prop :=
  ∀ http, d.client.httpRequest request = .ok http →
    net.Sees request (httpDo d.client.resolve http trips).1

/-- What the network keeps to. Only what was sent is delivered, and an answer is what the
client makes of what it sees. -/
def Law (d : Deployment) (net : Net) : NetEvent → Prop
  | .gateway (.act id (.answer answer)) => ∀ attempt ∈ net.gateway.attempts id,
    ∀ claim ∈ attempt.phase.waiting, ∃ encounter : BankClient.Encounter,
      net.Honest d (attempt.command.bankRequest claim.payment) encounter.first ∧
      net.Honest d (attempt.command.bankRequest claim.payment) encounter.second ∧
      answer = (d.client.call (attempt.command.bankRequest claim.payment) encounter).1
  | .deliver _ request => ∃ id paymentID, .sent id paymentID request ∈ net.gateway.log
  | _ => True

/-- The states that the gateway reaches with a bank that has given tables. -/
def Reachable (d : Deployment) (db : Db) (net : Net) : Prop :=
  ∃ clock bankClock, Reaches (Net.step d) (Net.Law d) (initial db clock bankClock) net

/-! ## What the bank has executed -/

/-- The execution of a request, if the result of its transaction decides it. -/
def executionOf : BankRequest → Result → Option Execution
  | .authorization request, .ok t =>
    some (.authorization request ⟨formatAuthorizationID t.id, t.expiresAt.getD 0, []⟩)
  | .authorization request, .error (.service .insufficientFunds _) =>
    some (.authorization request ⟨[], 0, declineReasonInsufficientFunds⟩)
  | .authorization request, .error (.service .cardExpired _) =>
    some (.authorization request ⟨[], 0, declineReasonExpiredCard⟩)
  | .capture request, .ok t => some (.capture request (formatCaptureID t.id))
  | .capture request, .error (.service .authExpired _) => some (.captureExpired request)
  | .void request, .ok t => some (.void request (formatVoidID t.id))
  | .void request, .error (.service .authExpired _) => some (.voidExpired request)
  | .refund request, .ok t => some (.refund request (formatRefundID t.id))
  | _, _ => none

def executions (net : Net) : List Execution :=
  net.bank.sessions.history.filterMap fun e =>
    (net.origin e.id).bind fun request => executionOf request e.result

/-- The network with the bank as a list of executions. -/
def world (net : Net) : World := ⟨net.gateway, net.executions⟩

theorem mem_executions {net : Net} {x : Execution} : x ∈ net.executions ↔
    ∃ e ∈ net.bank.sessions.history, ∃ request, net.origin e.id = some request ∧
      executionOf request e.result = some x := by
  simp only [executions, List.mem_filterMap, Option.bind_eq_some_iff]

theorem request_of_executionOf {request : BankRequest} {result : Result} {x : Execution}
    (h : executionOf request result = some x) : x.request = request := by
  unfold executionOf at h
  split at h <;> cases h <;> rfl

/-! ## What the client makes of the bank's responses -/

variable {d : Deployment} {net net' : Net} {start : Db} {request : BankRequest}
  {endpoint : Endpoint} {answer : BankAnswer}

/-- A definitive answer is justified by what one of the attempts ended with. -/
theorem justified_of_definitive {client : BankClient} {encounter : BankClient.Encounter}
    (definitive : (client.call request encounter).1.Definitive request) :
    ∃ http trips, client.httpRequest request = .ok http ∧
      (trips = encounter.first ∨ trips = encounter.second) ∧
      BankClient.Justified request.endpoint (httpDo client.resolve http trips).1
        (client.call request encounter).1 := by
  cases hrequest : client.httpRequest request with
  | error err =>
    rw [BankClient.call_of_httpRequest_error hrequest] at definitive
    cases definitive.1
  | ok http =>
    rw [BankClient.call_of_httpRequest hrequest] at definitive ⊢
    split_ifs at definitive ⊢ with hambiguous
    · cases hdelay : encounter.delay with
      | some ended =>
        rw [hdelay] at definitive
        cases ended <;> cases definitive.1
      | none =>
        exact ⟨http, encounter.second, rfl, .inr rfl, BankClient.justified_answer request _⟩
    · exact ⟨http, encounter.first, rfl, .inl rfl, BankClient.justified_answer request _⟩

theorem decides_of_definitive {exchange : Exchange}
    (justified : BankClient.Justified request.endpoint exchange answer)
    (definitive : answer.Definitive request) : BankClient.Decides request.endpoint exchange := by
  by_contra hundecided
  have hambiguous := justified.isAmbiguous_iff.mpr hundecided
  cases answer with
  | failed err => cases (BankClient.not_expired_of_retryable hambiguous).symm.trans definitive.1
  | _ => cases hambiguous

theorem trimSpace_text (code : ErrorCode) : trimSpace code.text = code.text := by
  cases code <;> decide +kernel

theorem toLower_text (code : ErrorCode) : toLower code.text = code.text := by
  cases code <;> decide +kernel

variable {http : HttpResponse}

theorem text_of_rejectedWith {status : ℕ} {code : ErrorCode} {message text : GoString}
    (delivers : Delivers (errorResponse status code message) http)
    (h : BankClient.RejectedWith http [text]) : status = 400 ∧ code.text = text := by
  obtain ⟨hstatus, other, hmem, hother⟩ := h
  obtain ⟨read, hread, hlower⟩ := bind_eq_ok.mp hother
  rw [decodeError_written code delivers.body hread, trimSpace_text, toLower_text] at hlower
  obtain rfl := pure_eq_ok_iff.mp hlower
  exact ⟨delivers.status.symm.trans hstatus, List.mem_singleton.mp hmem⟩

/-- What an error of the bank can decide: a decline, or the expiration of an authorization. -/
inductive ErrorDecides : Endpoint → ℕ → ErrorCode → BankAnswer → Prop
  | insufficientFunds (code : ErrorCode) :
      ErrorDecides .authorization 402 code (.authorization ⟨[], 0, declineReasonInsufficientFunds⟩)
  | expiredCard : ErrorDecides .authorization 400 .cardExpired
      (.authorization ⟨[], 0, declineReasonExpiredCard⟩)
  | captureExpired : ErrorDecides .capture 400 .authExpired
      (.failed (newPaymentAuthorizationExpiredError .none))
  | voidExpired : ErrorDecides .void 400 .authExpired
      (.failed (newPaymentAuthorizationExpiredError .none))

theorem errorDecides_of_definitive {status : ℕ} {code : ErrorCode} {message : GoString}
    (delivers : Delivers (errorResponse status code message) http)
    (justified : BankClient.Justified request.endpoint (.ok http) answer)
    (definitive : answer.Definitive request) (failure : status ≠ 200) :
    ErrorDecides request.endpoint status code answer := by
  have hstatus : http.statusCode = status := delivers.status
  generalize request.endpoint = endpoint at justified
  cases justified with
  | approved _ _ ok | captured _ _ ok | voided _ _ ok | refunded _ _ ok =>
    exact absurd (hstatus.symm.trans ok) failure
  | insufficientFunds _ funds =>
    obtain rfl : status = 402 := hstatus.symm.trans funds
    exact .insufficientFunds code
  | expiredCard _ rejected =>
    obtain ⟨rfl, htext⟩ := text_of_rejectedWith delivers rejected
    obtain rfl : code = .cardExpired := ErrorCode.text_injective htext
    exact .expiredCard
  | authorizationExpired _ _ settles rejected =>
    obtain ⟨rfl, htext⟩ := text_of_rejectedWith delivers rejected
    obtain rfl : code = .authExpired := ErrorCode.text_injective htext
    rcases settles with rfl | rfl
    · exact .captureExpired
    · exact .voidExpired
  | invalidInput | bankStateConflict => cases definitive.1
  | undecided _ _ err retryable =>
    cases (BankClient.not_expired_of_retryable retryable).symm.trans definitive.1

/-- A response that says nothing decides nothing. -/
theorem not_definitive_of_idle {response : Response} (idle : Server.Idle response)
    (delivers : Delivers response http)
    (justified : BankClient.Justified request.endpoint (.ok http) answer) :
    ¬ answer.Definitive request := by
  intro definitive
  obtain ⟨status, code, message, failure, uninformed⟩ := idle
  have hdecides := errorDecides_of_definitive delivers justified definitive (by omega)
  generalize request.endpoint = endpoint at hdecides
  cases hdecides <;> simp at failure uninformed

/-- The path of the requests to an endpoint. -/
def pathOf : Endpoint → Path
  | .authorization => .authorizations
  | .capture => .captures
  | .void => .voids
  | .refund => .refunds

theorem pathOf_injective : Function.Injective pathOf := by
  intro endpoint other h
  cases endpoint <;> cases other <;> first | rfl | cases h

/-- A refusal that decides a request is the refusal of an execution. -/
theorem reports_of_refused {failure : ServiceFailure}
    (delivers : Delivers (refused (pathOf request.endpoint) failure) http)
    (justified : BankClient.Justified request.endpoint (.ok http) answer)
    (definitive : answer.Definitive request) :
    ∃ x, executionOf request (.error failure) = some x ∧ x.Reports answer := by
  have hdecides : ∀ {status code message},
      refused (pathOf request.endpoint) failure = errorResponse status code message →
      status ≠ 200 → ErrorDecides request.endpoint status code answer := by
    intro status code message heq hstatus
    rw [heq] at delivers
    exact errorDecides_of_definitive delivers justified definitive hstatus
  -- The bank's code decides in the client exactly where it decides in `executionOf`.
  cases failure with
  | other text =>
    have herror := hdecides (refused_other _ text) (by decide)
    generalize request.endpoint = endpoint at herror
    cases herror
  | service code message =>
    cases request with
    | authorization request =>
      by_cases hfunds : code = .insufficientFunds
      · subst hfunds
        cases hdecides rfl (by decide)
        exact ⟨_, rfl, rfl⟩
      · cases hdecides (refused_service message (.inr hfunds)) (by decide)
        exact ⟨_, rfl, rfl⟩
    | capture request =>
      cases hdecides (refused_service message (.inl (by simp [BankRequest.endpoint, pathOf])))
        (by decide)
      exact ⟨_, rfl, rfl⟩
    | void request =>
      cases hdecides (refused_service message (.inl (by simp [BankRequest.endpoint, pathOf])))
        (by decide)
      exact ⟨_, rfl, rfl⟩
    | refund request =>
      cases hdecides (refused_service message (.inl (by simp [BankRequest.endpoint, pathOf])))
        (by decide)

/-- A granted response that decides a request of its path reports the execution of every
request from which its transaction may have been made. -/
theorem reports_of_granted {t : Transaction} {other : BankRequest}
    (delivers : Delivers (granted (pathOf request.endpoint) t) http)
    (justified : BankClient.Justified request.endpoint (.ok http) answer)
    (definitive : answer.Definitive request) (same : other.endpoint = request.endpoint) :
    ∃ x, executionOf other (.ok t) = some x ∧ x.Reports answer := by
  have hstatus : http.statusCode = 200 := delivers.status
  have hnot : ∀ {codes}, ¬ BankClient.RejectedWith http codes := by
    intro codes h
    cases h.1.symm.trans hstatus
  -- What the client has read tells the endpoint, and with it what was executed.
  have hbody := delivers.body
  generalize hendpoint : request.endpoint = endpoint at justified same hbody
  cases justified with
  | approved _ payload _ decoded =>
    obtain ⟨body, rfl⟩ : ∃ body, other = .authorization body := by
      cases other <;> first | exact ⟨_, rfl⟩ | cases same
    obtain rfl := decodeAuthorization_written (plain_formatID _ _) hbody decoded
    exact ⟨_, rfl, rfl⟩
  | captured _ id _ decoded =>
    obtain ⟨body, rfl⟩ : ∃ body, other = .capture body := by
      cases other <;> first | exact ⟨_, rfl⟩ | cases same
    obtain rfl := decodeCapture_written (plain_formatID _ _) hbody decoded
    exact ⟨_, rfl, rfl⟩
  | voided _ id _ decoded =>
    obtain ⟨body, rfl⟩ : ∃ body, other = .void body := by
      cases other <;> first | exact ⟨_, rfl⟩ | cases same
    obtain rfl := decodeVoid_written (plain_formatID _ _) hbody decoded
    exact ⟨_, rfl, rfl⟩
  | refunded _ id _ decoded =>
    obtain ⟨body, rfl⟩ : ∃ body, other = .refund body := by
      cases other <;> first | exact ⟨_, rfl⟩ | cases same
    obtain rfl := decodeRefund_written (plain_formatID _ _) hbody decoded
    exact ⟨_, rfl, rfl⟩
  | insufficientFunds _ funds => cases funds.symm.trans hstatus
  | expiredCard _ rejected => exact absurd rejected hnot
  | authorizationExpired _ _ _ rejected => exact absurd rejected hnot
  | invalidInput | bankStateConflict => cases definitive.1
  | undecided _ _ err retryable =>
    cases (BankClient.not_expired_of_retryable retryable).symm.trans definitive.1

/-! ## Origins -/

/-- What the bank receives of a request. -/
def apiOf : BankRequest → ApiRequest
  | .authorization request => .createAuthorization request.cardNumber request.cardCVV
      request.cardExpiryMonth request.cardExpiryYear request.amountCents
  | .capture request => .createCapture request.bankAuthorizationID request.amountCents
  | .void request => .createVoid request.bankAuthorizationID
  | .refund request => .createRefund request.bankCaptureID request.amountCents

theorem path_apiOf (request : BankRequest) : (apiOf request).path = pathOf request.endpoint := by
  cases request <;> rfl

theorem received_of_httpRequest {client : BankClient} {http : HttpRequest}
    (h : client.httpRequest request = .ok http) :
    http.body.map received = some (apiOf request) := by
  cases request with
  | authorization | capture | void | refund =>
    obtain ⟨url, -, hhttp⟩ := bind_eq_ok.mp h
    obtain rfl := pure_eq_ok_iff.mp hhttp
    rfl

/-- What a step does, case by case. -/
inductive Rule (d : Deployment) (net : Net) : NetEvent → Net → Prop
  | gateway (e : Event) (s : State) (taken : PaymentGateway.step d.service net.gateway e = some s) :
      Rule d net (.gateway e) { net with gateway := s }
  | deliver (i : ℕ) (request : BankRequest) (s : Server) (absent : net.bank.requests i = none)
      (taken : net.bank.step d.bank (.arrive i (apiOf request) request.operationKey) = some s) :
      Rule d net (.deliver i request)
        { net with bank := s, origin := Function.update net.origin i (some request) }
  | serve (e : NetEvent) (inner : ServerEvent) (s : Server)
      (inside : ∀ i api key, inner ≠ .arrive i api key)
      (taken : net.bank.step d.bank inner = some s) : Rule d net e { net with bank := s }

theorem step_cases {e : NetEvent} (taken : net.step d e = some net') : Rule d net e net' := by
  unfold Net.step at taken
  cases e with
  | gateway e =>
    obtain ⟨s, hs, rfl⟩ := Option.map_eq_some_iff.mp taken
    exact .gateway e s hs
  | deliver i request =>
    dsimp only at taken
    split at taken
    · next key body hhttp =>
      obtain ⟨s, hs, rfl⟩ := Option.map_eq_some_iff.mp taken
      have hbody : received body = apiOf request :=
        Option.some.inj (received_of_httpRequest hhttp)
      have hkey : key = request.operationKey :=
        Option.some.inj (BankClient.idempotencyKey_of_httpRequest hhttp)
      rw [hbody, hkey] at hs
      cases Server.step_cases hs with
      | arrive _ _ _ absent => exact .deliver i request _ absent hs
    · cases taken
  | serve | cleanup | tick =>
    obtain ⟨s, hs, rfl⟩ := Option.map_eq_some_iff.mp taken
    exact .serve _ _ s (by simp) hs

/-- The requests at the bank are requests that the gateway has sent. -/
structure Inv (d : Deployment) (start : Db) (net : Net) : Prop where
  bank : Server.Inv d.bank start net.bank
  known : ∀ i r, net.bank.requests i = some r → ∃ request, net.origin i = some request ∧
    r.api = apiOf request ∧ r.key = request.operationKey
  sent : ∀ i request, net.origin i = some request →
    ∃ id paymentID, .sent id paymentID request ∈ net.gateway.log

theorem Inv.initial (d : Deployment) (db : Db) (clock bankClock : Time) :
    Inv d db (initial db clock bankClock) where
  bank := .initial d.bank db bankClock
  known _ _ h := by cases h
  sent _ _ h := by cases h

theorem Inv.step {e : NetEvent} (inv : Inv d start net) (law : net.Law d e)
    (rule : Rule d net e net') : Inv d start net' := by
  cases rule with
  | gateway e s taken =>
    refine ⟨inv.bank, inv.known, fun i request h => ?_⟩
    obtain ⟨id, paymentID, hsent⟩ := inv.sent i request h
    exact ⟨id, paymentID, (PaymentGateway.step_cases taken).log_subset hsent⟩
  | deliver i request s absent taken =>
    refine ⟨inv.bank.step (Server.step_cases taken), fun j r h => ?_, fun j other h => ?_⟩
    · obtain ⟨before, hbefore, hapi, hkey⟩ | heq := (Server.step_cases taken).request_cases h
      · have hne : j ≠ i := by
          rintro rfl
          cases absent.symm.trans hbefore
        obtain ⟨other, hother, hmade⟩ := inv.known j before hbefore
        rw [hapi, hkey]
        exact ⟨other, (Function.update_of_ne hne ..).trans hother, hmade⟩
      · obtain ⟨rfl, hapi, hkey⟩ := ServerEvent.arrive.inj heq
        exact ⟨request, Function.update_self .., hapi.symm, hkey.symm⟩
    · rcases eq_or_ne j i with rfl | hne
      · simp only [Function.update_self, Option.some_inj] at h
        exact h ▸ law
      · exact inv.sent j other ((Function.update_of_ne hne ..).symm.trans h)
  | serve _ inner s inside taken =>
    refine ⟨inv.bank.step (Server.step_cases taken), fun j r h => ?_, inv.sent⟩
    obtain ⟨before, hbefore, hapi, hkey⟩ | harrive := (Server.step_cases taken).request_cases h
    · rw [hapi, hkey]
      exact inv.known j before hbefore
    · exact absurd harrive (inside j _ _)

/-- What was executed stays executed. -/
theorem Inv.executions_subset {e : NetEvent} (inv : Inv d start net) (rule : Rule d net e net') :
    net.executions ⊆ net'.executions := by
  intro x hx
  obtain ⟨entry, hentry, request, horigin, hexecution⟩ := mem_executions.mp hx
  cases rule with
  | gateway => exact mem_executions.mpr ⟨entry, hentry, request, horigin, hexecution⟩
  | serve _ inner s _ taken =>
    exact mem_executions.mpr ⟨entry, (Server.step_cases taken).history_subset hentry, request,
      horigin, hexecution⟩
  | deliver i other s absent taken =>
    -- A transaction that was recorded belongs to a request that had arrived.
    have hne : entry.id ≠ i := by
      rintro rfl
      obtain ⟨r, _, hknown, _⟩ := inv.bank.recorded entry hentry
      cases absent.symm.trans hknown
    exact mem_executions.mpr ⟨entry, (Server.step_cases taken).history_subset hentry, request,
      (Function.update_of_ne hne ..).trans horigin, hexecution⟩

/-! ## Definitive answers are truthful -/

theorem Inv.truthful_of_sees (inv : Inv d start net) {exchange : Exchange}
    (sees : net.Sees request exchange)
    (justified : BankClient.Justified request.endpoint exchange answer)
    (definitive : answer.Definitive request) :
    ∃ x ∈ net.executions, x.SameOperation request ∧ x.Reports answer := by
  have hdecides := decides_of_definitive justified definitive
  cases exchange with
  | error err => exact hdecides.elim
  | ok http =>
    obtain ⟨i, response, hanswer, horigin, delivers⟩ :=
      sees.resolve_right (not_not.mpr hdecides)
    obtain ⟨r, hknown, hexplained⟩ := inv.bank.answered i response hanswer
    obtain ⟨other, hother, hapi, hkey⟩ := inv.known i r hknown
    obtain rfl := Option.some.inj (hother.symm.trans horigin)
    have hpath : r.api.path = pathOf other.endpoint := by rw [hapi, path_apiOf]
    rw [Server.Explained, hpath] at hexplained
    obtain ⟨e, he, r', t, hknown', hpath', hkey', hresult, rfl⟩ | ⟨e, he, rfl, failure, hresult,
      rfl⟩ | hidle := hexplained
    · -- The transaction was made for a request with the same path and key.
      obtain ⟨made, hmade, hmadeapi, hmadekey⟩ := inv.known e.id r' hknown'
      have hsame : made.endpoint = other.endpoint := by
        rw [hmadeapi, path_apiOf] at hpath'
        exact pathOf_injective hpath'
      obtain ⟨x, hx, hreports⟩ := reports_of_granted delivers justified definitive hsame
      refine ⟨x, mem_executions.mpr ⟨e, he, made, hmade, hresult ▸ hx⟩, ?_, hreports⟩
      rw [Execution.SameOperation, request_of_executionOf hx]
      exact ⟨hsame, hmadekey.symm.trans (hkey'.trans hkey)⟩
    · obtain ⟨x, hx, hreports⟩ := reports_of_refused delivers justified definitive
      refine ⟨x, mem_executions.mpr ⟨e, he, other, hother, hresult ▸ hx⟩, ?_, hreports⟩
      rw [Execution.SameOperation, request_of_executionOf hx]
      exact ⟨rfl, rfl⟩
    · exact absurd definitive (not_definitive_of_idle hidle delivers justified)

/-- The network keeps the part of the bank's law that is about answers. -/
theorem Inv.bankLaw (inv : Inv d start net) {e : Event} (law : net.Law d (.gateway e)) :
    BankLaw net.world (.gateway e) := by
  cases e with
  | act id action =>
    cases action with
    | answer answer =>
      intro attempt running claim waiting definitive
      obtain ⟨encounter, hfirst, hsecond, rfl⟩ := law attempt running claim waiting
      obtain ⟨http, trips, hhttp, htrips, justified⟩ := justified_of_definitive definitive
      have honest : net.Honest d (attempt.command.bankRequest claim.payment) trips := by
        rcases htrips with rfl | rfl
        · exact hfirst
        · exact hsecond
      exact inv.truthful_of_sees (honest http hhttp) justified definitive
    | _ => trivial
  | _ => trivial

/-! ## The gateway agrees with the bank -/

theorem trimSpace_of_executionOf {result : Result} {x : Execution}
    (h : executionOf request result = some x) : trimSpace x.bankID = x.bankID := by
  unfold executionOf at h
  split at h <;> cases h <;>
    first | exact (normalized_formatID _ _).trimSpace_eq | exact trimSpace_nil

theorem Inv.sentExecutions (inv : Inv d start net) : SentExecutions net.world where
  sent x hx := by
    obtain ⟨e, -, request, horigin, hexecution⟩ := mem_executions.mp hx
    rw [request_of_executionOf hexecution]
    exact inv.sent e.id request horigin
  trimmed x hx := by
    obtain ⟨e, -, request, -, hexecution⟩ := mem_executions.mp hx
    exact trimSpace_of_executionOf hexecution

theorem Reachable.inv (h : Reachable d start net) : Inv d start net := by
  obtain ⟨clock, bankClock, run⟩ := h
  exact run.invariant (.initial d start clock bankClock) fun net e net' _ inv law taken =>
    inv.step law (step_cases taken)

theorem Reachable.gateway (h : Reachable d start net) :
    ∃ clock, Reaches (PaymentGateway.step d.service) (fun _ _ => True) (State.initial clock)
      net.gateway := by
  obtain ⟨clock, bankClock, run⟩ := h
  refine ⟨clock, run.invariant (P := fun net => Reaches (PaymentGateway.step d.service)
    (fun _ _ => True) (State.initial clock) net.gateway) .refl ?_⟩
  intro net e net' _ hgateway _ taken
  cases step_cases taken with
  | gateway e s htaken => exact hgateway.tail e trivial htaken
  | deliver | serve => exact hgateway

/-- While the drawn keys are distinct, the gateway agrees with what the bank has executed. -/
theorem Reachable.worldInv (h : Reachable d start net)
    (distinct : d.service.KeysDistinct net.gateway.drawn.bankOperationKeys) :
    WorldInv net.world := by
  obtain ⟨clock, bankClock, run⟩ := h
  revert distinct
  refine run.invariant (P := fun net =>
    d.service.KeysDistinct net.gateway.drawn.bankOperationKeys → WorldInv net.world) ?_ ?_
  · intro _
    constructor
    · intro id attempt claim h
      cases h
    · intro id p h
      cases h
  · intro net e net' before world law taken distinct
    have hreachable : Reachable d start net := ⟨clock, bankClock, before⟩
    have rule := step_cases taken
    have hexecuted := hreachable.inv.executions_subset rule
    cases rule with
    | gateway e s htaken =>
      have hstep := PaymentGateway.step_cases htaken
      have hbefore : d.service.KeysDistinct net.gateway.drawn.bankOperationKeys :=
        fun i hi j hj => distinct i (hi.trans_le hstep.drawn_le) j (hj.trans_le hstep.drawn_le)
      obtain ⟨_, hgateway⟩ := hreachable.gateway
      exact (world hbefore).gateway_step hreachable.inv.sentExecutions (inv_of_reaches hgateway)
        (sentInv_of_reaches hgateway) (keyInv_of_reaches hgateway hbefore)
        (hreachable.inv.bankLaw law) hstep rfl
    | deliver | serve => exact (world distinct).execute hexecuted

end Net

end PaymentGateway.MockBank
