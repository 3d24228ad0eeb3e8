/-
# Responses

What the clients, the log and the metrics get to know of a request. Whatever a handler does,
the three agree on one status. On the routes of the payment gateway that status is the one of
the request's answer, a panic included, and a success is only told of a command that the
application has completed within its deadline.
-/

import PaymentGateway.Http.Routes
import PaymentGateway.Properties.OversizedBodies

namespace PaymentGateway

open Lib

variable {marshal : AnswerBody → GoString} {w : ServerResponse} {call : WriterCall}
  {made : List WriterCall}

/-! ## Any handler -/

namespace ServerResponse

theorem superfluous_send (status : ℕ) : (w.send status).superfluous = w.superfluous := by
  unfold send
  split_ifs <;> rfl

theorem superfluous_implicitHeader : w.implicitHeader.superfluous = w.superfluous := by
  unfold implicitHeader
  split_ifs
  · rfl
  · exact superfluous_send 200

theorem superfluous_after : (w.after call).superfluous = w.superfluous := by
  cases call with
  | writeHeader status =>
    simp only [after]
    split_ifs
    · rfl
    · exact superfluous_send status
  | write data =>
    simp only [after, write]
    split_ifs <;> exact superfluous_implicitHeader
  | flush => exact superfluous_implicitHeader
  | _ => rfl

/-- Nothing comes too late. -/
theorem superfluous_foldl : (made.foldl .after w).superfluous = w.superfluous := by
  induction made generalizing w with
  | nil => rfl
  | cons call rest ih => rw [List.foldl_cons, ih, superfluous_after]

/-- What is sent stays, and the calls after it only add to the body. -/
theorem sent_after {sent : ℕ × List (GoString × GoString)} (hsent : w.sent = some sent) :
    (w.after call).sent = some sent := by
  cases call with
  | writeHeader status => simp [after, hsent]
  | write data => rw [after, sent_write, implicitHeader_of_sent hsent, hsent]
  | flush => rw [after, implicitHeader_of_sent hsent, hsent]
  | _ => exact hsent

/-- Nothing is written before the header is sent. -/
theorem body_after (hbody : w.sent = none → w.body = []) (hsent : (w.after call).sent = none) :
    (w.after call).body = [] := by
  have hunsent : w.sent = none := by
    cases h : w.sent with
    | none => rfl
    | some sent => rw [sent_after h] at hsent; cases hsent
  cases call with
  | writeHeader status =>
    simp only [after, hunsent, send]
    split_ifs <;> simp_all
  | write data =>
    rw [after, sent_write, implicitHeader_of_unsent hunsent, send_of_final le_rfl] at hsent
    cases hsent
  | flush =>
    rw [after, implicitHeader_of_unsent hunsent, send_of_final le_rfl] at hsent
    cases hsent
  | _ => exact hbody hunsent

theorem body_foldl (hbody : w.sent = none → w.body = [])
    (hsent : (made.foldl .after w).sent = none) : (made.foldl .after w).body = [] := by
  induction made generalizing w with
  | nil => exact hbody hsent
  | cons call rest ih => exact ih (body_after hbody) hsent

/-- The status that the client gets in the end. -/
theorem sent_implicitHeader : w.implicitHeader.sent.map Prod.fst = some w.status := by
  cases hsent : w.sent with
  | none => rw [implicitHeader_of_unsent hsent, send_of_final le_rfl]; simp [status, hsent]
  | some sent => rw [implicitHeader_of_sent hsent]; simp [status, hsent]

/-- The count of late calls decides nothing. -/
theorem send_late (status late : ℕ) :
    ({ w with superfluous := late } : ServerResponse).send status =
      { w.send status with superfluous := late } := by
  unfold send
  split_ifs <;> rfl

theorem implicitHeader_late (late : ℕ) :
    ({ w with superfluous := late } : ServerResponse).implicitHeader =
      { w.implicitHeader with superfluous := late } := by
  unfold implicitHeader
  split_ifs
  · rfl
  · exact send_late 200 late

theorem write_late (data : GoString) (late : ℕ) :
    ({ w with superfluous := late } : ServerResponse).write data =
      { w.write data with superfluous := late } := by
  simp only [write, implicitHeader_late]
  split_ifs <;> rfl

/-- `net/http` ignores a call that comes too late, and counts it. -/
theorem call_eq_after (valid : call.Valid) (late : ℕ) :
    ∃ late', ServerResponse.call { w with superfluous := late } call =
      ({ w.after call with superfluous := late' }, false) := by
  cases call with
  | writeHeader status =>
    have hstatus : ¬ (status < 100 ∨ 999 < status) := by
      obtain ⟨_, _, _⟩ := valid
      omega
    by_cases hsent : w.sent.isSome = true
    · exact ⟨late + 1, by simp [ServerResponse.call, writeHeader, after, hsent]⟩
    · refine ⟨late, ?_⟩
      simp only [ServerResponse.call, writeHeader, after, if_neg hsent, if_neg hstatus, send_late]
  | write data => exact ⟨late, by rw [ServerResponse.call, write_late]; rfl⟩
  | flush => exact ⟨late, by rw [ServerResponse.call, implicitHeader_late]; rfl⟩
  | _ => exact ⟨late, rfl⟩

theorem calls_eq_foldl (valid : ∀ call ∈ made, call.Valid) (late : ℕ) :
    ∃ late', Writer.calls ServerResponse.call { w with superfluous := late } made =
      ({ made.foldl .after w with superfluous := late' }, false) := by
  induction made generalizing w late with
  | nil => exact ⟨late, rfl⟩
  | cons call rest ih =>
    obtain ⟨late₁, hcall⟩ := call_eq_after (w := w) (valid call List.mem_cons_self) late
    obtain ⟨late₂, hrest⟩ := ih (fun c hc => valid c (List.mem_cons_of_mem call hc)) late₁
    exact ⟨late₂, (Writer.calls_cons hcall).trans hrest⟩

end ServerResponse

namespace PlainHandler

variable {plain : PlainHandler} {v : ServerResponse} {method route : GoString}

/-- The layers around a handler that returns report the status that is sent. -/
theorem report_of_returned (h : plain w = ⟨v, .returned, [], []⟩) :
    ((plain.recordHTTPRequest method route).recoverPanic marshal).logRequest w =
      ⟨v, .returned, [v.status], [⟨method, route, v.status⟩]⟩ := by
  simp [PlainHandler.logRequest, PlainHandler.recoverPanic, PlainHandler.recordHTTPRequest, h]

/-- They report nothing where the request is aborted. -/
theorem report_of_aborted (h : plain w = ⟨v, .aborted, [], []⟩) :
    ((plain.recordHTTPRequest method route).recoverPanic marshal).logRequest w =
      ⟨v, .aborted, [], []⟩ := by
  simp [PlainHandler.logRequest, PlainHandler.recoverPanic, PlainHandler.recordHTTPRequest, h]

end PlainHandler

/-- The layers of a route, on the response of `net/http`. -/
theorem report_eq_plain {next : HttpHandler} {plain : PlainHandler}
    (refines : next.Refines plain AnyCall) (marshal : AnswerBody → GoString)
    (method route : GoString) :
    logRequest (recoverPanic marshal (recordHTTPRequest method route (recoverPanic marshal next)))
        ServerResponse ServerResponse.call .fresh =
      (((plain.recoverPanic marshal).recordHTTPRequest method route).recoverPanic
        marshal).logRequest .fresh := by
  have hguarded : HttpHandler.Refines (recoverPanic marshal next) (plain.recoverPanic marshal)
      Timely := refines.recoverPanic
  have hcounted := hguarded.tolerant.recordHTTPRequest method route
  exact hcounted.tolerant.recoverPanic.tolerant.logRequest.eq rfl

/-- A panic before the header is sent is answered with an error, after what was set before. -/
theorem ServerResponse.foldl_recoveryCalls (hsent : w.sent = none) (hbody : w.body = []) :
    ((recoveryCalls marshal false).foldl .after w).status = 500 ∧
      ((recoveryCalls marshal false).foldl .after w).body =
        marshal (.error (ascii "internal_server_error") (ascii "Internal Server Error")) ++
          [0x0A] := by
  simp [recoveryCalls, Answer.calls, Response.answer, internalServerError, writeError, after,
    setHeader, deleteHeader, send, write, implicitHeader, ServerResponse.status, bodyAllowed, hsent,
    hbody]

/-- Under the layers of a route, any handler that is not aborted gives one response. Its status
is logged and counted, and the response is what the handler gives alone, or the answer to a panic
that came before it had sent anything. An aborted request is neither logged nor counted. -/
theorem recorded_status_is_sent (marshal : AnswerBody → GoString) (method route : GoString)
    (made : List WriterCall) (ending : Ending) (valid : ∀ call ∈ made, call.Valid) :
    let plain := made.foldl .after .fresh
    let served := logRequest (recoverPanic marshal (recordHTTPRequest method route
      (recoverPanic marshal (handlerOf made ending)))) ServerResponse ServerResponse.call .fresh
    (∃ late, Writer.calls ServerResponse.call .fresh made =
      ({ plain with superfluous := late }, false)) ∧
    served.writer.superfluous = 0 ∧
    (ending = .aborted → served = ⟨plain, .aborted, [], []⟩) ∧
    (ending ≠ .aborted → ∃ w status,
      served = ⟨w, .returned, [status], [⟨method, route, status⟩]⟩ ∧
      w.implicitHeader.sent.map Prod.fst = some status ∧
      (ending = .returned → w = plain) ∧
      (ending = .panicked →
        if plain.sent.isSome then w.sent = plain.sent ∧ w.body = plain.body
        else status = 500 ∧ w.body =
          marshal (.error (ascii "internal_server_error") (ascii "Internal Server Error")) ++
            [0x0A])) := by
  intro plain served
  have hserved : served = _ := report_eq_plain (.handlerOf valid ending) marshal method route
  have hlate : plain.superfluous = 0 := ServerResponse.superfluous_foldl
  refine ⟨ServerResponse.calls_eq_foldl (w := .fresh) valid 0, ?_⟩
  cases ending with
  | returned =>
    rw [PlainHandler.report_of_returned (v := plain) (by
      simp [PlainHandler.recoverPanic, PlainHandler.ofCalls, plain])] at hserved
    rw [hserved]
    exact ⟨hlate, by simp, fun _ => ⟨plain, plain.status, rfl, ServerResponse.sent_implicitHeader,
      fun _ => rfl, by simp⟩⟩
  | aborted =>
    rw [PlainHandler.report_of_aborted (v := plain) (by
      simp [PlainHandler.recoverPanic, PlainHandler.ofCalls, plain])] at hserved
    rw [hserved]
    exact ⟨hlate, fun _ => rfl, by simp⟩
  | panicked =>
    let answered := (recoveryCalls marshal plain.sent.isSome).foldl .after plain
    rw [PlainHandler.report_of_returned (v := answered) (by
      simp [PlainHandler.recoverPanic, PlainHandler.ofCalls, plain, answered])] at hserved
    rw [hserved]
    refine ⟨ServerResponse.superfluous_foldl.trans hlate, by simp, fun _ => ⟨answered,
      answered.status, rfl, ServerResponse.sent_implicitHeader, by simp, fun _ => ?_⟩⟩
    cases hsent : plain.sent with
    | some sent =>
      -- Only the headers change, and they are sent already.
      have hanswered : answered = plain.setHeader (ascii "Connection") (ascii "close") := by
        simp only [answered, hsent]
        rfl
      rw [if_pos Option.isSome_some, hanswered]
      exact ⟨hsent, rfl⟩
    | none =>
      have hanswered : answered = (recoveryCalls marshal false).foldl .after plain := by
        simp only [answered, hsent]
        rfl
      rw [if_neg (by simp : ¬ (none : Option (ℕ × List (GoString × GoString))).isSome = true),
        hanswered]
      exact ServerResponse.foldl_recoveryCalls hsent
        (ServerResponse.body_foldl (fun _ => rfl) hsent)

namespace Sample

/-- A handler that has sent a part of its body, tries to change its status, and panics then. -/
def brokenOff : List WriterCall :=
  [.setHeader (ascii "Content-Type") (ascii "text/plain"), .write (ascii "half"), .writeHeader 404]

end Sample

theorem recorded_status_is_sent_sample :
    (∀ call ∈ Sample.brokenOff, call.Valid) ∧
      (logRequest (recoverPanic (fun _ => []) (recordHTTPRequest (ascii "GET") (ascii "/readyz")
        (recoverPanic (fun _ => []) (handlerOf Sample.brokenOff .panicked))))
          ServerResponse ServerResponse.call .fresh).writer.superfluous = 0 := by
  have valid : ∀ call ∈ Sample.brokenOff, call.Valid := by
    simp [Sample.brokenOff, WriterCall.Valid]
  exact ⟨valid, (recorded_status_is_sent (fun _ => []) (ascii "GET") (ascii "/readyz")
    Sample.brokenOff .panicked valid).2.1⟩

/-- The client keeps the status that was sent, and it is logged. -/
example : (logRequest (recoverPanic (fun _ => []) (handlerOf Sample.brokenOff .panicked))
    ServerResponse ServerResponse.call .fresh).logged = [200] := by
  decide +kernel

/-! ## The routes -/

namespace Handler

variable {platform : Platform} {h : Handler} {app : Application} {route : Route}
  {r : RoutedRequest}

/-- A request that is counted. -/
theorem serveHTTP_eq_of_counts (hcounts : h.counts platform route r.toRequest = true) :
    h.serveHTTP marshal platform app route r ServerResponse ServerResponse.call .fresh =
      ⟨(h.answer platform app route r).response marshal, .returned,
        [(h.answer platform app route r).status],
        [⟨r.method, route.pattern, (h.answer platform app route r).status⟩]⟩ := by
  have proper : ∀ answer, h.answer? platform app route r = some answer → answer.Proper :=
    fun _ => proper_answer?
  rw [serveHTTP_of_counts hcounts]
  exact (report_eq_plain (.respond proper) marshal r.method route.pattern).trans
    (PlainHandler.report_of_returned (PlainHandler.recoverPanic_respond proper))

/-- A request that is not counted is logged all the same. -/
theorem serveHTTP_eq_of_not_counts (hcounts : h.counts platform route r.toRequest = false) :
    h.serveHTTP marshal platform app route r ServerResponse ServerResponse.call .fresh =
      ⟨(h.answer platform app route r).response marshal, .returned,
        [(h.answer platform app route r).status], []⟩ := by
  have proper : ∀ answer, h.answer? platform app route r = some answer → answer.Proper :=
    fun _ => proper_answer?
  have hguarded : HttpHandler.Refines
      (recoverPanic marshal (respond marshal (h.answer? platform app route r)))
      (PlainHandler.recoverPanic marshal (.respond marshal (h.answer? platform app route r)))
      Timely := (HttpHandler.Refines.respond proper).recoverPanic
  rw [serveHTTP_of_not_counts hcounts, hguarded.tolerant.logRequest.eq rfl,
    PlainHandler.logRequest, PlainHandler.recoverPanic_respond proper]
  rfl

/-- A success is the result of a command that was completed in time. -/
theorem completed_of_success {operation : Operation}
    (hsuccess : (h.answer platform app (.command operation) r).status < 300) :
    ∃ command result, h.serve platform operation r.toRequest = .ok command ∧
      app.command command = .replies (.ok result) false ∧
      h.answer platform app (.command operation) r = paymentAnswer operation result.payment := by
  have notError : ∀ response : Response, response.IsError → ¬ response.answer.status < 300 := by
    intro response herror hlt
    have hle : 400 ≤ response.answer.status := herror.1
    omega
  unfold answer at hsuccess ⊢
  cases hanswer : h.answer? platform app (.command operation) r with
  | none =>
    rw [hanswer] at hsuccess
    exact absurd hsuccess (notError recoveredPanic isError_recoveredPanic)
  | some answer =>
    rw [hanswer, Option.getD_some] at hsuccess
    obtain ⟨response, hresponse, rfl⟩ | ⟨limited, hadmitted, hendpoint⟩ :=
      afterRequest_eq_some hanswer
    · exact absurd hsuccess (notError response (refuses_admitRequest _ _ response hresponse))
    obtain ⟨response, hresponse, rfl⟩ | ⟨command, hcommand, hreply⟩ :=
      afterRequest_eq_some hendpoint
    · exact absurd hsuccess (notError response (refuses_handle _ _ response hresponse))
    obtain ⟨response, hresponse, rfl⟩ | ⟨result, hresult, rfl⟩ :=
      answerReply_eq_some isError_paymentTimeout hreply
    · exact absurd hsuccess (notError response hresponse)
    refine ⟨command, result, ?_, hresult, rfl⟩
    rw [serve_eq, hadmitted]
    exact hcommand

/-- **Every request has one answer.** It is sent as it is, it is logged, and it is counted unless
the request is not authenticated. On a command route it is a success only if the application has
completed the command that the request asks for within the deadline, and then it tells the
result. -/
theorem answered_once (marshal : AnswerBody → GoString) (platform : Platform) (h : Handler)
    (app : Application) (route : Route) (r : RoutedRequest) :
    h.serveHTTP marshal platform app route r ServerResponse ServerResponse.call .fresh =
      ⟨(h.answer platform app route r).response marshal, .returned,
        [(h.answer platform app route r).status],
        if h.counts platform route r.toRequest then
          [⟨r.method, route.pattern, (h.answer platform app route r).status⟩]
        else []⟩ ∧
    ∀ operation, route = .command operation → (h.answer platform app route r).status < 300 →
      ∃ command result, h.serve platform operation r.toRequest = .ok command ∧
        app.command command = .replies (.ok result) false ∧
        h.answer platform app route r = paymentAnswer operation result.payment := by
  constructor
  · by_cases hcounts : h.counts platform route r.toRequest = true
    · rw [if_pos hcounts]
      exact serveHTTP_eq_of_counts hcounts
    · rw [if_neg hcounts]
      exact serveHTTP_eq_of_not_counts (Bool.not_eq_true _ ▸ hcounts)
  · rintro operation rfl hsuccess
    exact completed_of_success hsuccess

end Handler

namespace Sample

/-- An application that captures a payment. -/
def capturing : Application where
  command _ := .replies (.ok { payment :=
    { id := ascii "pay_00000000-0000-0000-0000-000000000000", orderID := ascii "order"
      customerID := ascii "customer", amountCents := 100, currency := ascii "USD"
      status := ascii "captured", declineReason := [], authorizationExpiresAt := 0
      createdAt := 0, updatedAt := 0 } }) false
  getPayment _ := .panics
  searchPayments _ := .panics
  ready := true

def captureRoute : RoutedRequest := { request with method := ascii "POST", query := [] }

end Sample

theorem Handler.answered_once_sample :
    (Sample.handler.answer Sample.platform Sample.capturing (.command .capturePayment)
        Sample.captureRoute).status = 200 ∧
      ∃ command result, Sample.handler.serve Sample.platform .capturePayment
          Sample.captureRoute.toRequest = .ok command ∧
        Sample.capturing.command command = .replies (.ok result) false := by
  have hstatus : (Sample.handler.answer Sample.platform Sample.capturing
      (.command .capturePayment) Sample.captureRoute).status = 200 := by
    decide +kernel
  obtain ⟨command, result, hserve, hreply, -⟩ :=
    (Handler.answered_once (fun _ => []) Sample.platform Sample.handler Sample.capturing
      (.command .capturePayment) Sample.captureRoute).2 .capturePayment rfl
        (by rw [hstatus]; decide)
  exact ⟨hstatus, command, result, hserve, hreply⟩

end PaymentGateway
