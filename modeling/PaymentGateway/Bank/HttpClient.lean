/-
# The HTTP client

What `http.Client.Do` of `net/http` does with a request of the bank client. The client
has neither a cookie jar nor a `CheckRedirect` of its own, so it follows redirects, up to
ten requests. Its transport keeps connections alive. When one that it uses again turns
out to be lost, it sends the request on another one, if nothing was written yet or if
the request may be replayed, which one with an `Idempotency-Key` header may.

`Trips` are what the network does: for each request in turn, the reused connections
that are lost, and how the request ends. The header that tells where a redirect comes
from is left out, as are trailers and other headers of a response than its location.
-/

import PaymentGateway.App.Claims
import PaymentGateway.Lib.Json

namespace PaymentGateway

open Lib

/-! ## Requests and responses -/

/-- The bodies of the requests, which are sent as JSON. -/
inductive RequestBody
  | authorization (cardNumber cvv : GoString) (expiryMonth expiryYear amount : ℤ)
  | capture (authorizationID : GoString) (amount : ℤ)
  | void (authorizationID : GoString)
  | refund (captureID : GoString) (amount : ℤ)
  deriving DecidableEq, Repr

/-- A request. What is `none` is not there. -/
structure HttpRequest where
  method : GoString
  url : GoString
  contentType : Option GoString
  idempotencyKey : Option GoString
  body : Option RequestBody
  deriving DecidableEq, Repr

/-- A response. Without a `Location` header the location is empty. -/
structure HttpResponse where
  statusCode : ℕ
  location : GoString
  body : Json.Reader
  deriving DecidableEq, Repr

/-- An error of the HTTP client, as far as `isTimeout` looks into it: whether it wraps
`context.DeadlineExceeded`, and what the `net.Error` in its chain says of itself, if there
is one. `sent` tells whether some of the request was on its way. -/
structure TransportError where
  message : GoString
  deadlineExceeded : Bool
  netTimeout : Option Bool
  sent : Bool
  deriving DecidableEq, Repr

/-- `isTimeout`. -/
def isTimeout (err : TransportError) : Bool :=
  err.deadlineExceeded || err.netTimeout.getD false

/-- How a request ends. -/
abbrev Exchange := Except TransportError HttpResponse

/-- A request that was sent, and how it ended. -/
structure Sent where
  request : HttpRequest
  exchange : Exchange

/-- Whether an exchange got as far as that some of the request was on its way. -/
def isSent : Exchange → Bool
  | .error err => err.sent
  | .ok _ => true

/-- What an exchange adds to the requests that were sent. -/
def sentIn (request : HttpRequest) (exchange : Exchange) : List Sent :=
  if isSent exchange then [⟨request, exchange⟩] else []

/-! ## The transport -/

/-- A reused connection that is lost before the first byte of a response. -/
structure Loss where
  err : TransportError
  /-- The error is a `nothingWrittenError`. -/
  nothingWritten : Bool
  deriving DecidableEq, Repr

/-- What the transport meets with a request. -/
structure Trip where
  losses : List Loss
  result : Exchange

/-- `isReplayable`. A body can be read again. -/
def HttpRequest.isReplayable (request : HttpRequest) : Bool :=
  request.method ∈ [ascii "GET", ascii "HEAD", ascii "OPTIONS", ascii "TRACE"] ||
    request.idempotencyKey.isSome

/-- Whether some of the request was on its way when the connection was lost. -/
def Loss.isSent (loss : Loss) : Bool := !loss.nothingWritten && loss.err.sent

/-- What a lost connection adds to the requests that were sent. -/
def Loss.sentIn (request : HttpRequest) (loss : Loss) : List Sent :=
  if loss.isSent then [⟨request, .error loss.err⟩] else []

/-- `shouldRetryRequest`, on a reused connection. -/
def shouldRetryRequest (request : HttpRequest) (loss : Loss) : Bool :=
  loss.nothingWritten || request.isReplayable

/-- `RoundTrip`, given the losses that are left: how it ends, and the requests that it sent. -/
def roundTripFrom (request : HttpRequest) (result : Exchange) :
    List Loss → Exchange × List Sent
  | [] => (result, sentIn request result)
  | loss :: later =>
    if shouldRetryRequest request loss then
      let (exchange, sent) := roundTripFrom request result later
      (exchange, loss.sentIn request ++ sent)
    else (.error loss.err, loss.sentIn request)

/-- `RoundTrip`. -/
def roundTrip (request : HttpRequest) (trip : Trip) : Exchange × List Sent :=
  roundTripFrom request trip.result trip.losses

/-! ## Redirects -/

/-- `redirectBehavior`: the method of the next request, and whether it has the body. -/
def redirectBehavior (method : GoString) (response : HttpResponse) : Option (GoString × Bool) :=
  if response.statusCode ∈ [301, 302, 303] then
    some (if method = ascii "GET" ∨ method = ascii "HEAD" then method else ascii "GET", false)
  else if response.statusCode ∈ [307, 308] then some (method, true)
  else none

/-- The request to which a redirect leads. Headers are those of the first request, except for the
one about a body that is no longer there. -/
def redirected (first : HttpRequest) (method url : GoString) (includeBody : Bool) :
    HttpRequest where
  method := method
  url := url
  contentType := if includeBody then first.contentType else none
  idempotencyKey := first.idempotencyKey
  body := if includeBody then first.body else none

/-- An error that the client itself reports, a `url.Error` that is no timeout. -/
def clientError (url reason : GoString) : TransportError :=
  ⟨ascii "Post \"" ++ url ++ ascii "\": " ++ reason, false, some false, false⟩

/-- What the network does in one use of the client. -/
abbrev Trips := ℕ → Trip

/-- `URL.Parse`: a location as seen from a URL, or why it is none. -/
abbrev ResolveURL := GoString → GoString → Except GoString GoString

/-- `Do` from the request with number `i` on, when `left` more may follow. -/
def doFrom (resolve : ResolveURL) (first : HttpRequest) (trips : Trips) :
    ℕ → ℕ → HttpRequest → Bool → Exchange × List Sent
  | left, i, request, includeBody =>
    match roundTrip request (trips i) with
    | (.error err, sent) => (.error err, sent)
    | (.ok response, sent) =>
      match redirectBehavior request.method response with
      | none => (.ok response, sent)
      | some (method, keepsBody) =>
        if response.location = [] then (.ok response, sent)
        else match resolve request.url response.location with
        | .error reason =>
          (.error (clientError request.url (ascii "failed to parse Location header \"" ++
            response.location ++ ascii "\": " ++ reason)), sent)
        | .ok url =>
          match left with
          | 0 => (.error (clientError response.location (ascii "stopped after 10 redirects")), sent)
          | left + 1 =>
            let (exchange, later) := doFrom resolve first trips left (i + 1)
              (redirected first method url (includeBody && keepsBody)) (includeBody && keepsBody)
            (exchange, sent ++ later)

/-- `Do`: how it ends, and the requests that it sent. -/
def httpDo (resolve : ResolveURL) (request : HttpRequest) (trips : Trips) :
    Exchange × List Sent :=
  doFrom resolve request trips 9 0 request true

/-! ## How often a request is sent -/

/-- How many requests a trip takes, if the request may be replayed. -/
def Trip.requests (trip : Trip) : ℕ :=
  trip.losses.countP Loss.isSent + if isSent trip.result then 1 else 0

/-- The response is a redirect that the client can follow. -/
def Redirects (resolve : ResolveURL) (request : HttpRequest) : Exchange → Prop
  | .error _ => False
  | .ok response => response.statusCode ∈ [301, 302, 303, 307, 308] ∧ response.location ≠ [] ∧
      ∃ url, resolve request.url response.location = .ok url

/-- The network takes the request at most once: no connection is lost after some of it was
written, and it is not redirected, or nothing is sent after that. -/
structure Direct (resolve : ResolveURL) (request : HttpRequest) (trips : Trips) : Prop where
  once : (trips 0).requests ≤ 1
  last : Redirects resolve request (trips 0).result → (trips 1).requests = 0

variable {resolve : ResolveURL} {request first : HttpRequest} {trips : Trips} {trip : Trip}

/-- A request that may be replayed is sent until a trip has an end. -/
theorem roundTrip_of_isReplayable (h : request.isReplayable = true) (trip : Trip) :
    roundTrip request trip = (trip.result,
      trip.losses.flatMap (Loss.sentIn request) ++ sentIn request trip.result) := by
  rw [roundTrip]
  induction trip.losses with
  | nil => rfl
  | cons loss later ih =>
    have hretry : shouldRetryRequest request loss = true := by simp [shouldRetryRequest, h]
    rw [roundTripFrom, if_pos hretry, ih, List.flatMap_cons, List.append_assoc]

theorem length_sentIn (request : HttpRequest) (exchange : Exchange) :
    (sentIn request exchange).length = if isSent exchange then 1 else 0 := by
  unfold sentIn
  split_ifs <;> rfl

theorem length_roundTrip (h : request.isReplayable = true) (trip : Trip) :
    (roundTrip request trip).2.length = trip.requests := by
  rw [roundTrip_of_isReplayable h, Trip.requests, List.length_append, length_sentIn]
  congr 1
  induction trip.losses with
  | nil => rfl
  | cons loss later ih =>
    rw [List.flatMap_cons, List.length_append, ih, List.countP_cons, Loss.sentIn]
    split_ifs <;> simp [Nat.add_comm]

/-- A request that was sent at most once, and how the use of the client ended. After a lost
connection and after a redirect the client may fail before it sends anything more. -/
inductive Ended (request : HttpRequest) : List Sent → Exchange → Prop
  | unsent (err : TransportError) : Ended request [] (.error err)
  | answered (exchange : Exchange) : Ended request [⟨request, exchange⟩] exchange
  | lost (exchange : Exchange) (err : TransportError)
      (redirect : ∀ response, exchange = .ok response →
        response.statusCode ∈ [301, 302, 303, 307, 308]) :
      Ended request [⟨request, exchange⟩] (.error err)

theorem Ended.length_le {sent : List Sent} {exchange : Exchange} (h : Ended request sent exchange) :
    sent.length ≤ 1 := by
  cases h <;> simp

theorem exists_of_not_isSent {exchange : Exchange} (h : isSent exchange = false) :
    ∃ err, exchange = .error err := by
  cases exchange with
  | error err => exact ⟨err, rfl⟩
  | ok response => cases h

theorem flatMap_sentIn_eq_nil {losses : List Loss} (h : losses.countP Loss.isSent = 0) :
    losses.flatMap (Loss.sentIn request) = [] := by
  rw [List.flatMap_eq_nil_iff]
  intro loss hloss
  rw [List.countP_eq_zero] at h
  exact if_neg (h loss hloss)

/-- The only request that was sent on a lost connection. -/
theorem exists_sentIn_of_countP {losses : List Loss} (h : losses.countP Loss.isSent = 1) :
    ∃ err, losses.flatMap (Loss.sentIn request) = [⟨request, .error err⟩] := by
  induction losses with
  | nil => cases h
  | cons loss later ih =>
    rw [List.countP_cons] at h
    rw [List.flatMap_cons, Loss.sentIn]
    split_ifs at h ⊢ with hsent
    · exact ⟨loss.err, by rw [flatMap_sentIn_eq_nil (by omega)]; rfl⟩
    · exact ih h

theorem ended_roundTrip (h : request.isReplayable = true) (once : trip.requests ≤ 1) :
    Ended request (roundTrip request trip).2 trip.result := by
  rw [roundTrip_of_isReplayable h, sentIn]
  unfold Trip.requests at once
  split_ifs at once ⊢ with hsent
  · rw [flatMap_sentIn_eq_nil (by omega)]
    exact .answered trip.result
  · obtain ⟨err, herr⟩ := exists_of_not_isSent (Bool.not_eq_true _ ▸ hsent)
    rw [herr, List.append_nil]
    rcases Nat.le_one_iff_eq_zero_or_eq_one.mp once with hnone | hone
    · rw [flatMap_sentIn_eq_nil hnone]
      exact .unsent err
    · obtain ⟨loss, hloss⟩ := exists_sentIn_of_countP hone
      rw [hloss]
      exact .lost _ err nofun

theorem isReplayable_redirected (h : first.idempotencyKey.isSome = true) (method url : GoString)
    (includeBody : Bool) : (redirected first method url includeBody).isReplayable = true := by
  simp [HttpRequest.isReplayable, redirected, h]

theorem redirectBehavior_eq_none {method : GoString} {response : HttpResponse} :
    redirectBehavior method response = none ↔
      response.statusCode ∉ [301, 302, 303, 307, 308] := by
  unfold redirectBehavior
  simp only [List.mem_cons, List.not_mem_nil, or_false]
  split_ifs <;> simp <;> omega

/-- What `Do` makes of a request: it ends there, or a redirect is followed. -/
inductive DoStep (resolve : ResolveURL) (first : HttpRequest) (trips : Trips) (left i : ℕ)
    (request : HttpRequest) : Exchange → List Sent → Exchange × List Sent → Prop
  | ends (exchange : Exchange) (sent : List Sent)
      (unfollowed : ¬ Redirects resolve request exchange) :
      DoStep resolve first trips left i request exchange sent (exchange, sent)
  | fails (response : HttpResponse) (sent : List Sent) (err : TransportError)
      (status : response.statusCode ∈ [301, 302, 303, 307, 308])
      (unfollowed : ¬ Redirects resolve request (.ok response) ∨ left = 0) :
      DoStep resolve first trips left i request (.ok response) sent (.error err, sent)
  | follows (response : HttpResponse) (sent : List Sent) (method url : GoString)
      (includeBody : Bool) (more : ℕ) (redirects : Redirects resolve request (.ok response))
      (less : left = more + 1) :
      DoStep resolve first trips left i request (.ok response) sent
        ((doFrom resolve first trips more (i + 1) (redirected first method url includeBody)
            includeBody).1,
          sent ++ (doFrom resolve first trips more (i + 1)
            (redirected first method url includeBody) includeBody).2)

theorem doStep_doFrom (left i : ℕ) (request : HttpRequest) (includeBody : Bool) :
    DoStep resolve first trips left i request (roundTrip request (trips i)).1
      (roundTrip request (trips i)).2
      (doFrom resolve first trips left i request includeBody) := by
  unfold doFrom
  obtain ⟨exchange, sent⟩ := roundTrip request (trips i)
  cases exchange with
  | error err => exact .ends _ sent id
  | ok response =>
    dsimp only
    cases hbehavior : redirectBehavior request.method response with
    | none => exact .ends _ sent fun h => redirectBehavior_eq_none.mp hbehavior h.1
    | some behavior =>
      have hstatus : response.statusCode ∈ [301, 302, 303, 307, 308] := by
        by_contra hother
        cases hbehavior.symm.trans (redirectBehavior_eq_none.mpr hother)
      dsimp only
      split_ifs with hlocation
      · exact .ends _ sent fun h => h.2.1 hlocation
      · cases hresolve : resolve request.url response.location with
        | error reason =>
          refine .fails response sent _ hstatus (.inl ?_)
          rintro ⟨-, -, url, hurl⟩
          cases hresolve.symm.trans hurl
        | ok url =>
          cases left with
          | zero => exact .fails response sent _ hstatus (.inr rfl)
          | succ more =>
            exact .follows response sent _ url _ more ⟨hstatus, hlocation, url, hresolve⟩ rfl

theorem prefix_doFrom (left i : ℕ) (request : HttpRequest) (includeBody : Bool) :
    (roundTrip request (trips i)).2 <+:
      (doFrom resolve first trips left i request includeBody).2 := by
  have hstep : DoStep resolve first trips left i request _ _
    (doFrom resolve first trips left i request includeBody) := doStep_doFrom ..
  generalize doFrom resolve first trips left i request includeBody = result at hstep
  generalize (roundTrip request (trips i)).1 = exchange at hstep
  cases hstep with
  | ends | fails => exact List.prefix_rfl
  | follows => exact List.prefix_append ..

/-- A trip that sends nothing ends the use of the client. -/
theorem doFrom_of_unsent (resolve : ResolveURL) (first : HttpRequest) {i : ℕ}
    (h : request.isReplayable = true) (unsent : (trips i).requests = 0) (left : ℕ)
    (includeBody : Bool) :
    ∃ err, doFrom resolve first trips left i request includeBody = (.error err, []) := by
  have hended := ended_roundTrip h (Nat.le_of_eq unsent |>.trans (Nat.zero_le 1))
  have hlength := length_roundTrip h (trips i)
  have hresult : (roundTrip request (trips i)).1 = (trips i).result := by
    rw [roundTrip_of_isReplayable h]
  have hstep : DoStep resolve first trips left i request _ _
    (doFrom resolve first trips left i request includeBody) := doStep_doFrom ..
  rw [← hresult] at hended
  rw [unsent] at hlength
  generalize doFrom resolve first trips left i request includeBody = result at hstep ⊢
  generalize roundTrip request (trips i) = trip at hstep hended hlength
  obtain ⟨exchange, sent⟩ := trip
  obtain rfl : sent = [] := List.length_eq_zero_iff.mp hlength
  cases hended with
  | unsent err =>
    cases hstep with
    | ends => exact ⟨err, rfl⟩

theorem doStep_httpDo (h : request.isReplayable = true) (resolve : ResolveURL) (trips : Trips) :
    DoStep resolve request trips 9 0 request (trips 0).result (roundTrip request (trips 0)).2
      (httpDo resolve request trips) := by
  have hresult : (roundTrip request (trips 0)).1 = (trips 0).result := by
    rw [roundTrip_of_isReplayable h]
  exact hresult ▸ doStep_doFrom ..

/-- A request that is to be sent at most once is. What comes back for it is what the client
returns, unless that is a redirect. -/
theorem ended_httpDo (h : request.idempotencyKey.isSome = true)
    (direct : Direct resolve request trips) :
    Ended request (httpDo resolve request trips).2 (httpDo resolve request trips).1 ∧
      ((httpDo resolve request trips).1 = (trips 0).result ∨
        (∃ err, (httpDo resolve request trips).1 = .error err) ∧
          ∃ response, (trips 0).result = .ok response ∧
            response.statusCode ∈ [301, 302, 303, 307, 308]) := by
  have hreplay : request.isReplayable = true := by simp [HttpRequest.isReplayable, h]
  have hended := ended_roundTrip hreplay direct.once
  have hstep := doStep_httpDo hreplay resolve trips
  have hlast := direct.last
  generalize httpDo resolve request trips = result at hstep
  generalize (roundTrip request (trips 0)).2 = sent at hstep hended
  generalize (trips 0).result = exchange at hstep hended hlast
  cases hstep with
  | ends => exact ⟨hended, .inl rfl⟩
  | fails response sent err status =>
    -- A response has come back, so the request was sent.
    cases hended with
    | answered =>
      exact ⟨.lost _ err fun _ heq => Except.ok.inj heq ▸ status, .inr ⟨⟨err, rfl⟩, response, rfl,
        status⟩⟩
  | follows response sent method url includeBody more redirects =>
    cases hended with
    | answered =>
      obtain ⟨err, herr⟩ := doFrom_of_unsent resolve request
        (isReplayable_redirected h method url includeBody) (hlast redirects) more includeBody
      rw [herr, List.append_nil]
      exact ⟨.lost _ err fun _ heq => Except.ok.inj heq ▸ redirects.1, .inr ⟨⟨err, rfl⟩, response,
        rfl, redirects.1⟩⟩

/-- A request is sent at most once exactly if the network takes it at most once. -/
theorem direct_iff (h : request.idempotencyKey.isSome = true) :
    Direct resolve request trips ↔ (httpDo resolve request trips).2.length ≤ 1 := by
  refine ⟨fun direct => (ended_httpDo h direct).1.length_le, fun hlength => ?_⟩
  have hreplay : request.isReplayable = true := by simp [HttpRequest.isReplayable, h]
  have hfirst := length_roundTrip hreplay (trips 0)
  have hprefix : (roundTrip request (trips 0)).2 <+: (httpDo resolve request trips).2 :=
    prefix_doFrom ..
  refine ⟨hfirst ▸ hprefix.length_le.trans hlength, fun hredirects => ?_⟩
  have hstep := doStep_httpDo hreplay resolve trips
  -- The first request was sent, so that there is room for nothing after it.
  have hsent : 1 ≤ (trips 0).requests := by
    generalize trips 0 = trip at hredirects
    obtain ⟨losses, exchange⟩ := trip
    cases exchange with
    | error err => exact hredirects.elim
    | ok response => exact Nat.le_add_left 1 _
  generalize httpDo resolve request trips = result at hstep hlength
  generalize (trips 0).result = exchange at hstep hredirects
  cases hstep with
  | ends _ _ unfollowed => exact absurd hredirects unfollowed
  | fails _ _ _ _ unfollowed => exact absurd hredirects (unfollowed.resolve_right (by decide))
  | follows response _ method url includeBody more =>
    have hsecond := length_roundTrip (isReplayable_redirected h method url includeBody) (trips 1)
    have hrest : (roundTrip (redirected request method url includeBody) (trips 1)).2 <+:
      (doFrom resolve request trips more 1 (redirected request method url includeBody)
        includeBody).2 := prefix_doFrom ..
    rw [List.length_append, Nat.zero_add] at hlength
    have := hrest.length_le
    omega

end PaymentGateway
