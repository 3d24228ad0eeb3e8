/-
# The routes

`routes` puts the middleware together. Every request is logged, and a panic is caught
around all of it. The payment routes are behind the authentication, and what is counted is
what has passed it; the scope, the rate limit and the size of the body are checked further
inside, under a guard against panics of their own.

A request comes with the route that the mux has found for it. What the mux itself answers,
to a path that it does not know, is a handler as any other.
-/

import PaymentGateway.Http.Middleware

namespace PaymentGateway

open Lib

variable (marshal : AnswerBody → GoString)

/-- A handler that writes an answer, or panics. -/
def respond : Option Answer → HttpHandler
  | some answer => handlerOf (answer.calls marshal) .returned
  | none => handlerOf [] .panicked

/-- A layer that answers itself or calls the next handler. -/
def guarded {α : Type} (check : Except Response α) (next : α → HttpHandler) : HttpHandler :=
  match check with
  | .error response => respond marshal response.answer?
  | .ok value => next value

namespace Handler

variable (platform : Platform) (h : Handler) (app : Application)

/-- `limitRequestBody` around the handler of a route. -/
def serveLimited (route : Route) (r : RoutedRequest) : HttpHandler :=
  guarded marshal (h.limitRequestBody r.toRequest) fun limited =>
    respond marshal (h.endpoint platform app route { r with toRequest := limited })

/-- What `registerRoute` and `registerVersionedRoute` put around every handler. -/
def counted (route : Route) (r : RoutedRequest) (next : HttpHandler) : HttpHandler :=
  recordHTTPRequest r.method route.pattern (recoverPanic marshal next)

/-- A request, as `routes` handles it. -/
def serveHTTP (route : Route) (r : RoutedRequest) : HttpHandler :=
  logRequest <| recoverPanic marshal <|
    match route.admission with
    | none => counted marshal route r (h.serveLimited marshal platform app route r)
    | some (scope, routeClass) =>
      guarded marshal (h.requireAuthentication platform r.toRequest) fun principal =>
        counted marshal route r <|
          guarded marshal (requireScope scope principal) fun _ =>
            guarded marshal (limitRate platform routeClass principal) fun _ =>
              h.serveLimited marshal platform app route r

end Handler

/-! ## The answer to a request

The same without writers: a request has one answer, which is that of `recoverPanic` if it
makes a handler panic. -/

namespace Handler

variable (platform : Platform) (h : Handler) (app : Application)

/-- What a request goes through before the handler of its route. -/
def admitRequest (route : Route) (r : Request) : Except Response Request := do
  match route.admission with
  | none => pure ()
  | some (scope, routeClass) =>
    let principal ← h.requireAuthentication platform r
    requireScope scope principal
    limitRate platform routeClass principal
  h.limitRequestBody r

/-- The answer of the handlers, if none of them panics. -/
def answer? (route : Route) (r : RoutedRequest) : Option Answer :=
  afterRequest (h.admitRequest platform route r.toRequest) fun limited =>
    h.endpoint platform app route { r with toRequest := limited }

/-- The answer to a request. -/
def answer (route : Route) (r : RoutedRequest) : Answer :=
  (h.answer? platform app route r).getD recoveredPanic.answer

/-- Whether a request is counted: the probes are, and of the payment routes what is
authenticated. -/
def counts (route : Route) (r : Request) : Bool :=
  route.admission.isNone || (h.requireAuthentication platform r).isOk

end Handler

/-- The response that an answer makes of an untouched one. -/
def Answer.response (answer : Answer) : ServerResponse :=
  let w := answer.headers.foldl (fun w pair => w.setHeader pair.1 pair.2) ServerResponse.fresh
  { w with
    sent := some (answer.status, w.header)
    body := (answer.body.map fun body => marshal body ++ [0x0A]).getD [] }

/-! ## Answers are sent as they are -/

/-- The answers that `net/http` sends without a change. -/
structure Answer.Proper (answer : Answer) : Prop where
  final : 200 ≤ answer.status
  status_le : answer.status ≤ 999
  allowed : answer.body.isSome → ServerResponse.bodyAllowed answer.status

variable {marshal : AnswerBody → GoString} {answer : Answer} {response : Response} {α β : Type}

theorem Answer.Proper.valid (proper : answer.Proper) :
    ∀ call ∈ answer.calls marshal, call.Valid := by
  have hstatus : (WriterCall.writeHeader answer.status).Valid := by
    obtain ⟨_, _, -⟩ := proper
    refine ⟨by omega, by omega, by omega⟩
  intro call hcall
  simp only [Answer.calls, List.mem_append, List.mem_map, List.mem_cons] at hcall
  obtain ⟨_, -, rfl⟩ | rfl | hbody := hcall
  · trivial
  · exact hstatus
  · obtain ⟨_, -, rfl⟩ := Option.map_eq_some_iff.mp (Option.mem_toList.mp hbody)
    trivial

/-- Setting headers changes nothing else. -/
theorem ServerResponse.foldl_setHeader (headers : List (GoString × GoString)) (w : ServerResponse) :
    ∃ header, headers.foldl (fun w pair => w.setHeader pair.1 pair.2) w =
      { w with header := header } := by
  induction headers generalizing w with
  | nil => exact ⟨w.header, rfl⟩
  | cons pair rest ih =>
    obtain ⟨header, hrest⟩ := ih (w.setHeader pair.1 pair.2)
    exact ⟨header, hrest⟩

theorem Answer.Proper.foldl_calls (proper : answer.Proper) :
    (answer.calls marshal).foldl .after .fresh = answer.response marshal := by
  have hheaders : (answer.headers.map fun pair => WriterCall.setHeader pair.1 pair.2).foldl .after
      ServerResponse.fresh =
      answer.headers.foldl (fun w pair => w.setHeader pair.1 pair.2) ServerResponse.fresh := by
    rw [List.foldl_map]
    rfl
  obtain ⟨header, hheader⟩ := ServerResponse.foldl_setHeader answer.headers .fresh
  rw [Answer.calls, List.foldl_append, hheaders, Answer.response, hheader, List.foldl_cons]
  have hsend : ({ ServerResponse.fresh with header := header } : ServerResponse).after
      (.writeHeader answer.status) =
      { ServerResponse.fresh with header := header, sent := some (answer.status, header) } := by
    rw [ServerResponse.after, if_neg (by simp [ServerResponse.fresh]),
      ServerResponse.send_of_final proper.final]
  rw [hsend]
  cases hbody : answer.body with
  | none => rfl
  | some body =>
    have hallowed := proper.allowed (by rw [hbody]; rfl)
    simp [ServerResponse.after, ServerResponse.write, ServerResponse.implicitHeader, hallowed,
      ServerResponse.fresh]

/-! ## Errors -/

/-- An error is answered with one of the statuses for errors. -/
def Response.IsError (response : Response) : Prop :=
  400 ≤ response.status ∧ response.status ≤ 599

theorem Response.IsError.proper (h : response.IsError) : response.answer.Proper := by
  obtain ⟨hle, hlt⟩ := h
  refine ⟨hle.trans' (by omega), hlt.trans (by omega), fun _ => decide_eq_true ?_⟩
  simp only [Response.answer]
  omega

/-- A check that refuses with errors only. -/
def Refuses (check : Except Response α) : Prop :=
  ∀ response, check = .error response → response.IsError

namespace Refuses

theorem pure (value : α) : Refuses (Pure.pure value : Except Response α) := by
  intro response h
  cases h

theorem rejectIf {bad : Prop} [Decidable bad] (h : response.IsError) :
    Refuses (Lib.rejectIf bad response) := by
  intro _ herror
  obtain ⟨-, rfl⟩ := rejectIf_eq_error.mp herror
  exact h

theorem bind {check : Except Response α} {next : α → Except Response β} (h : Refuses check)
    (hnext : ∀ value, Refuses (next value)) : Refuses (check >>= next) := by
  intro response herror
  obtain hcheck | ⟨value, -, hvalue⟩ := bind_eq_error.mp herror
  · exact h response hcheck
  · exact hnext value response hvalue

theorem map {check : Except Response α} (h : Refuses check) (f : α → β) :
    Refuses (f <$> check) := by
  intro response herror
  exact h response (map_eq_error.mp herror)

theorem mapError {ε : Type} {check : Except ε α} {f : ε → Response} (h : ∀ err, (f err).IsError) :
    Refuses (check.mapError f) := by
  intro response herror
  obtain ⟨err, -, rfl⟩ := mapError_eq_error.mp herror
  exact h err

end Refuses

theorem isError_recoveredPanic : recoveredPanic.IsError := ⟨by decide, by decide⟩

theorem isError_internalServerError : internalServerError.IsError := ⟨by decide, by decide⟩

theorem isError_requestBodyTooLarge : requestBodyTooLarge.IsError := ⟨by decide, by decide⟩

theorem isError_writePaymentServiceError (err : GoError) :
    (writePaymentServiceError err).IsError := by
  unfold writePaymentServiceError
  split <;> exact ⟨by decide, by decide⟩

theorem isError_writeJSONBodyError (failure : BodyFailure) :
    (writeJSONBodyError failure).IsError := by
  unfold writeJSONBodyError
  split_ifs
  · exact isError_recoveredPanic
  · exact isError_requestBodyTooLarge
  · exact ⟨by decide, by decide⟩
  · exact isError_internalServerError

theorem isError_writeEmptyBodyError (failure : BodyFailure) :
    (writeEmptyBodyError failure).IsError := by
  unfold writeEmptyBodyError
  split_ifs
  · exact isError_requestBodyTooLarge
  · exact ⟨by decide, by decide⟩
  · exact isError_internalServerError

namespace Handler

variable {platform : Platform} {h : Handler} {app : Application} {route : Route}
  {r : RoutedRequest}

theorem refuses_bodylessCommand (r : Request)
    (newCommand : GoString → GoString → Except GoError PaymentOperationCommand) :
    Refuses (bodylessCommand r newCommand) :=
  (Refuses.mapError isError_writeEmptyBodyError).bind fun _ =>
    .mapError isError_writePaymentServiceError

theorem refuses_readJSONBody (unmarshal : GoString → Except UnmarshalError α) (limit : ℤ)
    (r : Request) : Refuses (readJSONBody platform unmarshal limit r) :=
  (Refuses.rejectIf ⟨by decide, by decide⟩).bind fun _ => .mapError isError_writeJSONBodyError

/-- The handlers of the commands refuse with errors. -/
theorem refuses_handle (operation : Operation) (r : Request) :
    Refuses (h.handle platform operation r) := by
  cases operation with
  | authorizePayment =>
    exact ((refuses_readJSONBody _ _ r).bind fun _ =>
      .mapError isError_writePaymentServiceError).map _
  | retryAuthorization =>
    exact ((refuses_readJSONBody _ _ r).bind fun _ =>
      .mapError isError_writePaymentServiceError).map _
  | capturePayment => exact (refuses_bodylessCommand r _).map _
  | voidPayment => exact (refuses_bodylessCommand r _).map _
  | refundPayment => exact (refuses_bodylessCommand r _).map _

theorem refuses_requireAuthentication (r : Request) :
    Refuses (h.requireAuthentication platform r) := by
  intro response herror
  unfold requireAuthentication at herror
  split at herror
  · cases herror
  · cases herror
    exact ⟨by decide, by decide⟩

theorem refuses_limitRequestBody (r : Request) : Refuses (h.limitRequestBody r) :=
  (Refuses.rejectIf isError_requestBodyTooLarge).bind fun _ => .pure _

/-- So does every layer before them. -/
theorem refuses_admitRequest (route : Route) (r : Request) :
    Refuses (h.admitRequest platform route r) := by
  unfold admitRequest
  cases route.admission with
  | none => exact (Refuses.pure ()).bind fun _ => refuses_limitRequestBody r
  | some admission =>
    refine (refuses_requireAuthentication r).bind fun principal => ?_
    have hscope : Refuses (requireScope admission.1 principal) :=
      Refuses.rejectIf ⟨by decide, by decide⟩
    have hrate : Refuses (limitRate platform admission.2 principal) := by
      intro response herror
      obtain ⟨-, rfl⟩ := rejectIf_eq_error.mp herror
      exact ⟨by simp [writeError], by simp [writeError]⟩
    exact hscope.bind fun _ => hrate.bind fun _ => refuses_limitRequestBody r

/-- An answer is that of a check, or the next one. -/
theorem afterRequest_eq_some {request : Except Response α} {next : α → Option Answer}
    (hanswer : afterRequest request next = some answer) :
    (∃ response, request = .error response ∧ response.answer = answer) ∨
      ∃ value, request = .ok value ∧ next value = some answer := by
  cases request with
  | error response =>
    simp only [afterRequest, Response.answer?] at hanswer
    split_ifs at hanswer
    exact .inl ⟨response, rfl, Option.some.inj hanswer⟩
  | ok value => exact .inr ⟨value, rfl, hanswer⟩

/-- An answer to a reply is an error, or renders a result that came in time. -/
theorem answerReply_eq_some {timeout : Response} {render : α → Answer} {reply : AppReply α}
    (timeoutIsError : timeout.IsError) (hanswer : answerReply timeout render reply = some answer) :
    (∃ response : Response, response.IsError ∧ response.answer = answer) ∨
      ∃ value, reply = .replies (.ok value) false ∧ render value = answer := by
  cases reply with
  | panics => cases hanswer
  | replies result deadlineExceeded =>
    cases deadlineExceeded with
    | true => exact .inl ⟨timeout, timeoutIsError, Option.some.inj hanswer⟩
    | false =>
      cases result with
      | error err =>
        exact .inl ⟨_, isError_writePaymentServiceError err, Option.some.inj hanswer⟩
      | ok value => exact .inr ⟨value, rfl, Option.some.inj hanswer⟩

/-- An envelope with one of the statuses of a success. -/
theorem proper_writeJSON {status : ℕ} (hle : 200 ≤ status) (hlt : status ≤ 202)
    (body : AnswerBody) (headers : List (GoString × GoString)) :
    (writeJSON status body headers).Proper := by
  refine ⟨hle, hlt.trans (by omega), fun _ => decide_eq_true ?_⟩
  simp only [writeJSON]
  omega

theorem proper_paymentAnswer (operation : Operation) (payment : PaymentResult) :
    (paymentAnswer operation payment).Proper := by
  cases operation with
  | authorizePayment =>
    by_cases hpending : payment.status = PaymentStatus.pending.text
    · exact proper_writeJSON (by rw [if_pos hpending]; omega) (by rw [if_pos hpending]) _ _
    · exact proper_writeJSON (by rw [if_neg hpending]; omega) (by rw [if_neg hpending]; omega) _ _
  | _ => exact proper_writeJSON le_rfl (by omega) _ _

theorem proper_noContent : noContent.Proper :=
  ⟨by simp [noContent], by simp [noContent], by simp [noContent]⟩

/-- What comes from a reply is sent as it is, if its rendering is. -/
theorem proper_of_answerReply {timeout : Response} {render : α → Answer} {reply : AppReply α}
    (timeoutIsError : timeout.IsError) (hrender : ∀ value, (render value).Proper)
    (hanswer : answerReply timeout render reply = some answer) : answer.Proper := by
  obtain ⟨response, hresponse, rfl⟩ | ⟨value, -, rfl⟩ := answerReply_eq_some timeoutIsError hanswer
  · exact hresponse.proper
  · exact hrender value

theorem proper_of_afterRequest {request : Except Response α} {next : α → Option Answer}
    (hrequest : Refuses request) (hnext : ∀ value answer, next value = some answer → answer.Proper)
    (hanswer : afterRequest request next = some answer) : answer.Proper := by
  obtain ⟨response, hresponse, rfl⟩ | ⟨value, -, hvalue⟩ := afterRequest_eq_some hanswer
  · exact (hrequest response hresponse).proper
  · exact hnext value answer hvalue

theorem isError_paymentTimeout : paymentTimeout.IsError := ⟨by decide, by decide⟩

theorem isError_readTimeout : readTimeout.IsError := ⟨by decide, by decide⟩

theorem refuses_searchPayments (query : List (GoString × GoString)) :
    Refuses (searchPayments query) :=
  (Refuses.rejectIf (isError_writePaymentServiceError _)).bind fun _ =>
    .mapError isError_writePaymentServiceError

theorem proper_endpoint (hanswer : h.endpoint platform app route r = some answer) :
    answer.Proper := by
  cases route with
  | healthz =>
    obtain rfl := Option.some.inj hanswer
    exact proper_noContent
  | readyz =>
    simp only [endpoint] at hanswer
    split_ifs at hanswer
    · obtain rfl := Option.some.inj hanswer
      exact proper_noContent
    · obtain rfl := Option.some.inj hanswer
      exact Response.IsError.proper ⟨by decide, by decide⟩
  | searchPayments =>
    exact proper_of_afterRequest (refuses_searchPayments r.query)
      (fun _ _ => proper_of_answerReply isError_readTimeout fun _ =>
        proper_writeJSON le_rfl (by omega) _ _) hanswer
  | getPayment =>
    exact proper_of_afterRequest (.mapError isError_writePaymentServiceError)
      (fun _ _ => proper_of_answerReply isError_readTimeout fun _ =>
        proper_writeJSON le_rfl (by omega) _ _) hanswer
  | command operation =>
    exact proper_of_afterRequest (refuses_handle operation r.toRequest)
      (fun _ _ => proper_of_answerReply isError_paymentTimeout fun _ =>
        proper_paymentAnswer operation _) hanswer

theorem proper_answer? (hanswer : h.answer? platform app route r = some answer) : answer.Proper :=
  proper_of_afterRequest (refuses_admitRequest route r.toRequest) (fun _ _ => proper_endpoint)
    hanswer

/-! ## Requests without writers -/

theorem guarded_respond (check : Except Response α) (next : α → Option Answer) :
    guarded marshal check (fun value => respond marshal (next value)) =
      respond marshal (afterRequest check next) := by
  cases check <;> rfl

theorem serveLimited_eq : h.serveLimited marshal platform app route r =
    respond marshal (afterRequest (h.limitRequestBody r.toRequest) fun limited =>
      h.endpoint platform app route { r with toRequest := limited }) :=
  guarded_respond _ _

/-- Under its counter, a request is answered by one handler. -/
theorem serveHTTP_of_counts (hcounts : h.counts platform route r.toRequest = true) :
    h.serveHTTP marshal platform app route r =
      logRequest (recoverPanic marshal
        (counted marshal route r (respond marshal (h.answer? platform app route r)))) := by
  cases hadmission : route.admission with
  | none => simp only [serveHTTP, answer?, admitRequest, hadmission, serveLimited_eq]
  | some admission =>
    have hauthenticated : (h.requireAuthentication platform r.toRequest).isOk = true := by
      simpa [counts, hadmission] using hcounts
    cases hprincipal : h.requireAuthentication platform r.toRequest with
    | error response => simp [hprincipal, Except.isOk, Except.toBool] at hauthenticated
    | ok principal =>
      simp only [serveHTTP, answer?, admitRequest, hadmission, hprincipal, guarded, ok_bind,
        serveLimited_eq]
      cases requireScope admission.1 principal with
      | error response => rfl
      | ok _ =>
        cases limitRate platform admission.2 principal with
        | error response => rfl
        | ok _ => rfl

/-- A request that is not authenticated is answered outside of it. -/
theorem serveHTTP_of_not_counts (hcounts : h.counts platform route r.toRequest = false) :
    h.serveHTTP marshal platform app route r =
      logRequest (recoverPanic marshal (respond marshal (h.answer? platform app route r))) := by
  cases hadmission : route.admission with
  | none => simp [counts, hadmission] at hcounts
  | some admission =>
    cases hprincipal : h.requireAuthentication platform r.toRequest with
    | ok principal => simp [counts, hprincipal, Except.isOk, Except.toBool] at hcounts
    | error response =>
      simp only [serveHTTP, answer?, admitRequest, hadmission, hprincipal, guarded, error_bind]
      rfl

/-- A command is admitted as any request, and handled then. -/
theorem serve_eq (operation : Operation) (r : Request) :
    h.serve platform operation r =
      (h.admitRequest platform (.command operation) r >>= h.handle platform operation) := by
  simp only [serve, requireAdmission, admitRequest, Route.admission, bind_assoc]

end Handler

/-- `respond` on the response. -/
def PlainHandler.respond (marshal : AnswerBody → GoString) : Option Answer → PlainHandler
  | some answer => .ofCalls (answer.calls marshal) .returned
  | none => .ofCalls [] .panicked

variable {answer? : Option Answer}

theorem HttpHandler.Refines.respond (proper : ∀ answer, answer? = some answer → answer.Proper) :
    HttpHandler.Refines (respond marshal answer?) (.respond marshal answer?) AnyCall := by
  cases answer? with
  | none => exact .handlerOf (fun _ h => absurd h List.not_mem_nil) .panicked
  | some answer => exact .handlerOf (proper answer rfl).valid .returned

/-- Under a guard against panics there is always an answer. -/
theorem PlainHandler.recoverPanic_respond
    (proper : ∀ answer, answer? = some answer → answer.Proper) :
    PlainHandler.recoverPanic marshal (.respond marshal answer?) .fresh =
      ⟨(answer?.getD recoveredPanic.answer).response marshal, .returned, [], []⟩ := by
  cases answer? with
  | none =>
    -- Setting the header and writing the error is writing the answer of `recoverPanic`.
    have hrecovery : recoveryCalls marshal false = recoveredPanic.answer.calls marshal := rfl
    have hfresh : ServerResponse.fresh.sent.isSome = false := rfl
    simp [PlainHandler.recoverPanic, PlainHandler.respond, PlainHandler.ofCalls, hfresh, hrecovery,
      isError_recoveredPanic.proper.foldl_calls]
  | some answer =>
    simp [PlainHandler.recoverPanic, PlainHandler.respond, PlainHandler.ofCalls,
      (proper answer rfl).foldl_calls]

end PaymentGateway
