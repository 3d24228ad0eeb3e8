/-
# What the bank client reports is so

Each attempt is classified once, by a switch over the status code and, for a bad request,
over the code in its body. `Justified` says what an exchange must have been for an answer
to be given: a success, a decline, an expired authorization or a rejection each have
their own response, and everything else is reported as a timeout or as unavailable. A
call repeats only such an undecided attempt, once, with the same request.

An attempt may send more than one request, though. The HTTP client follows redirects and
replays a request on a lost connection, with no regard to the limit of two. The call is
sound exactly if the network gives no occasion for that.
-/

import PaymentGateway.Bank.Client

namespace PaymentGateway

open Lib

namespace BankClient

variable {client : BankClient} {endpoint : Endpoint}

/-! ## Codes -/

/-- The codes of a bad request that an endpoint reports as invalid input. -/
def invalidInputCodes : Endpoint → List GoString
  | .authorization => cardCodes ++ [ascii "invalid_amount", ascii "amount_mismatch",
      ascii "authorization_not_found", ascii "capture_not_found"]
  | _ => cardCodes ++ [ascii "invalid_amount"]

/-- The codes that an endpoint reports as a conflict with the state of the bank. -/
def bankStateConflictCodes : Endpoint → List GoString
  | .authorization => []
  | _ => stateConflictCodes

/-- The code that an endpoint reports as a decline or as an expired authorization. -/
def terminalCodes : Endpoint → List GoString
  | .authorization => [ascii "card_expired"]
  | .capture | .void => [ascii "authorization_expired"]
  | .refund => []

/-- The response is a bad request with a code of a list, trimmed and in lower case. -/
def RejectedWith (response : HttpResponse) (codes : List GoString) : Prop :=
  response.statusCode = 400 ∧ ∃ code ∈ codes, decodeBadRequestCode response = .ok code

theorem RejectedWith.mono {response : HttpResponse} {codes more : List GoString}
    (h : RejectedWith response codes) (subset : ∀ code ∈ codes, code ∈ more) :
    RejectedWith response more := by
  obtain ⟨status, code, hmem, hcode⟩ := h
  exact ⟨status, code, subset code hmem, hcode⟩

/-- The response confirms the operation of an endpoint with a usable body. -/
def Confirms (response : HttpResponse) : Endpoint → Prop
  | .authorization => response.statusCode = 200 ∧ ∃ payload,
      decodeAuthorization response.body = .ok payload ∧
        trimSpace payload.authorizationID ≠ [] ∧ payload.expiresAt ≠ 0
  | .capture => response.statusCode = 200 ∧ ∃ id,
      decodeCapture response.body = .ok id ∧ trimSpace id ≠ []
  | .void => response.statusCode = 200 ∧ ∃ id,
      decodeVoid response.body = .ok id ∧ trimSpace id ≠ []
  | .refund => response.statusCode = 200 ∧ ∃ id,
      decodeRefund response.body = .ok id ∧ trimSpace id ≠ []

/-- The exchange tells what became of the operation. -/
def Decides (endpoint : Endpoint) : Exchange → Prop
  | .error _ => False
  | .ok response =>
    Confirms response endpoint ∨
      endpoint = .authorization ∧ response.statusCode = 402 ∨
      RejectedWith response
        (terminalCodes endpoint ++ invalidInputCodes endpoint ++ bankStateConflictCodes endpoint)

/-! ## Answers -/

/-- What an exchange with an endpoint must have been for an answer to be given. -/
inductive Justified : Endpoint → Exchange → BankAnswer → Prop
  | approved (response : HttpResponse) (payload : AuthorizationResponse)
      (status : response.statusCode = 200)
      (decoded : decodeAuthorization response.body = .ok payload)
      (id : trimSpace payload.authorizationID ≠ []) (expires : payload.expiresAt ≠ 0) :
      Justified .authorization (.ok response)
        (.authorization ⟨payload.authorizationID, payload.expiresAt, []⟩)
  | insufficientFunds (response : HttpResponse) (status : response.statusCode = 402) :
      Justified .authorization (.ok response)
        (.authorization ⟨[], 0, declineReasonInsufficientFunds⟩)
  | expiredCard (response : HttpResponse)
      (code : RejectedWith response [ascii "card_expired"]) :
      Justified .authorization (.ok response)
        (.authorization ⟨[], 0, declineReasonExpiredCard⟩)
  | captured (response : HttpResponse) (bankCaptureID : GoString)
      (status : response.statusCode = 200)
      (decoded : decodeCapture response.body = .ok bankCaptureID)
      (id : trimSpace bankCaptureID ≠ []) :
      Justified .capture (.ok response) (.capture bankCaptureID)
  | voided (response : HttpResponse) (bankVoidID : GoString) (status : response.statusCode = 200)
      (decoded : decodeVoid response.body = .ok bankVoidID)
      (id : trimSpace bankVoidID ≠ []) :
      Justified .void (.ok response) (.void bankVoidID)
  | refunded (response : HttpResponse) (bankRefundID : GoString)
      (status : response.statusCode = 200)
      (decoded : decodeRefund response.body = .ok bankRefundID)
      (id : trimSpace bankRefundID ≠ []) :
      Justified .refund (.ok response) (.refund bankRefundID)
  | authorizationExpired (endpoint : Endpoint) (response : HttpResponse)
      (settles : endpoint = .capture ∨ endpoint = .void)
      (code : RejectedWith response [ascii "authorization_expired"]) :
      Justified endpoint (.ok response)
        (.failed (newPaymentAuthorizationExpiredError .none))
  | invalidInput (endpoint : Endpoint) (response : HttpResponse) (reason : GoString)
      (code : RejectedWith response (invalidInputCodes endpoint)) :
      Justified endpoint (.ok response)
        (.failed (newInvalidPaymentInputError reason .none))
  | bankStateConflict (endpoint : Endpoint) (response : HttpResponse)
      (code : RejectedWith response (bankStateConflictCodes endpoint)) :
      Justified endpoint (.ok response) (.failed (newPaymentBankStateConflictError .none))
  | undecided (endpoint : Endpoint) (exchange : Exchange) (err : GoError)
      (retryable : isRetryablePaymentError err = true)
      (undecided : ¬ Decides endpoint exchange) :
      Justified endpoint exchange (.failed err)

/-- What an attempt makes of one exchange. -/
def answer (request : BankRequest) (exchange : Exchange) : BankAnswer :=
  match request with
  | .authorization _ => answerOf .authorization (outcome authorizePaymentResponse exchange)
  | .capture _ => answerOf .capture (outcome capturePaymentResponse exchange)
  | .void _ => answerOf .void (outcome voidPaymentResponse exchange)
  | .refund _ => answerOf .refund (outcome refundPaymentResponse exchange)

theorem isRetryablePaymentError_transportFailure (err : TransportError) :
    isRetryablePaymentError (transportFailure err) = true := by
  unfold transportFailure
  split_ifs <;> rfl

/-- A response with another status code than the three decides nothing. -/
theorem not_decides_of_status {response : HttpResponse} (hok : response.statusCode ≠ 200)
    (hbad : response.statusCode ≠ 400)
    (hfunds : endpoint = .authorization → response.statusCode ≠ 402) :
    ¬ Decides endpoint (.ok response) := by
  rintro (hconfirms | ⟨hendpoint, hstatus⟩ | hrejected)
  · cases endpoint <;> exact hok hconfirms.1
  · exact hfunds hendpoint hstatus
  · exact hbad hrejected.1

/-- A response with status 200 decides nothing unless its body confirms the operation. -/
theorem not_decides_of_ok {response : HttpResponse} (hok : response.statusCode = 200)
    (hbody : ¬ Confirms response endpoint) : ¬ Decides endpoint (.ok response) := by
  rintro (hconfirms | ⟨-, hstatus⟩ | hrejected)
  · exact hbody hconfirms
  · rw [hok] at hstatus
    cases hstatus
  · have hstatus := hrejected.1
    rw [hok] at hstatus
    cases hstatus

/-- A bad request decides nothing unless its code is listed for the endpoint. -/
theorem not_decides_of_badRequest {response : HttpResponse} (hbad : response.statusCode = 400)
    (hcode : ∀ code, decodeBadRequestCode response = .ok code →
      code ∉ terminalCodes endpoint ++ invalidInputCodes endpoint ++
        bankStateConflictCodes endpoint) :
    ¬ Decides endpoint (.ok response) := by
  have hstatus : response.statusCode ≠ 200 := by
    rw [hbad]
    decide
  rintro (hconfirms | ⟨-, hfunds⟩ | ⟨-, code, hlisted, hdecoded⟩)
  · cases endpoint <;> exact hstatus hconfirms.1
  · rw [hbad] at hfunds
    cases hfunds
  · exact hcode code hdecoded hlisted

theorem justified_authorizationRejection {response : HttpResponse} {code : GoString}
    (hbad : response.statusCode = 400) (hcode : decodeBadRequestCode response = .ok code) :
    Justified .authorization (.ok response)
      (answerOf .authorization ((authorizationRejection code).getD
        (.error (unexpectedStatus (ascii "authorization") response)))) := by
  have hlisted : ∀ codes, code ∈ codes → RejectedWith response codes :=
    fun codes h => ⟨hbad, code, h, hcode⟩
  unfold authorizationRejection
  split_ifs with hexpired hcard hamount hmismatch hauthorization hcapture
  · exact .expiredCard response (hlisted _ (by simp [hexpired]))
  · exact .invalidInput _ response _ (hlisted _ (by simp [invalidInputCodes, hcard]))
  · exact .invalidInput _ response _ (hlisted _ (by simp [invalidInputCodes, hamount]))
  · exact .invalidInput _ response _ (hlisted _ (by simp [invalidInputCodes, hmismatch]))
  · exact .invalidInput _ response _ (hlisted _ (by simp [invalidInputCodes, hauthorization]))
  · exact .invalidInput _ response _ (hlisted _ (by simp [invalidInputCodes, hcapture]))
  · refine .undecided _ _ _ rfl (not_decides_of_badRequest hbad fun other hother => ?_)
    obtain rfl : code = other := Except.ok.inj (hcode.symm.trans hother)
    simp [terminalCodes, invalidInputCodes, bankStateConflictCodes, hexpired, hcard, hamount,
      hmismatch, hauthorization, hcapture]

/-- The switch of `authorizePaymentAttempt` is justified. -/
theorem justified_authorization (exchange : Exchange) :
    Justified .authorization exchange
      (answerOf .authorization (outcome authorizePaymentResponse exchange)) := by
  cases exchange with
  | error err => exact .undecided _ _ _ (isRetryablePaymentError_transportFailure err) id
  | ok response =>
    rw [outcome, authorizePaymentResponse]
    split_ifs with hok hbad hfunds
    · -- A body that confirms the authorization is one that passes all three checks.
      cases hdecoded : decodeAuthorization response.body with
      | error err =>
        refine .undecided _ _ _ rfl (not_decides_of_ok hok ?_)
        rintro ⟨-, payload, hpayload, -⟩
        cases hdecoded.symm.trans hpayload
      | ok payload =>
        -- One missing field is enough for the response to decide nothing.
        have hunusable : ¬ (trimSpace payload.authorizationID ≠ [] ∧ payload.expiresAt ≠ 0) →
            ¬ Decides .authorization (.ok response) := by
          intro hbody
          refine not_decides_of_ok hok ?_
          rintro ⟨-, other, hother, hid, hexpires⟩
          obtain rfl : payload = other := Except.ok.inj (hdecoded.symm.trans hother)
          exact hbody ⟨hid, hexpires⟩
        rw [mapError_ok, ok_bind]
        by_cases hid : trimSpace payload.authorizationID = []
        · rw [rejectIf_of _ hid, error_bind]
          exact .undecided _ _ _ rfl (hunusable fun h => h.1 hid)
        · rw [rejectIf_of_not _ hid, ok_bind]
          by_cases hexpires : payload.expiresAt = 0
          · rw [rejectIf_of _ hexpires, error_bind]
            exact .undecided _ _ _ rfl (hunusable fun h => h.2 hexpires)
          · rw [rejectIf_of_not _ hexpires, ok_bind]
            exact .approved response payload hok hdecoded hid hexpires
    · cases hcode : decodeBadRequestCode response with
      | error err =>
        refine .undecided _ _ _ rfl (not_decides_of_badRequest hbad fun code h => ?_)
        cases hcode.symm.trans h
      | ok code => exact justified_authorizationRejection hbad hcode
    · exact .insufficientFunds response hfunds
    · exact .undecided _ _ _ rfl (not_decides_of_status hok hbad fun _ => hfunds)

/-- What the three settlement endpoints have in common with the attempt they share. -/
structure SettlementEndpoint (endpoint : Endpoint) (expires : Bool)
    (decode : Json.Reader → Except GoError GoString) (wrap : GoString → BankAnswer) : Prop where
  ne_authorization : endpoint ≠ .authorization
  confirms : ∀ response, Confirms response endpoint ↔ response.statusCode = 200 ∧
    ∃ id, decode response.body = .ok id ∧ trimSpace id ≠ []
  justified : ∀ response id, response.statusCode = 200 → decode response.body = .ok id →
    trimSpace id ≠ [] → Justified endpoint (.ok response) (wrap id)
  settles : expires = true → endpoint = .capture ∨ endpoint = .void
  terminal : terminalCodes endpoint = if expires then [ascii "authorization_expired"] else []
  invalidInput : invalidInputCodes endpoint = cardCodes ++ [ascii "invalid_amount"]
  conflict : bankStateConflictCodes endpoint = stateConflictCodes

theorem settlementEndpoint_capture :
    SettlementEndpoint .capture true decodeCapture .capture :=
  ⟨nofun, fun _ => Iff.rfl, fun response id => .captured response id, fun _ => .inl rfl, rfl, rfl,
    rfl⟩

theorem settlementEndpoint_void :
    SettlementEndpoint .void true decodeVoid .void :=
  ⟨nofun, fun _ => Iff.rfl, fun response id => .voided response id, fun _ => .inr rfl, rfl, rfl,
    rfl⟩

theorem settlementEndpoint_refund :
    SettlementEndpoint .refund false decodeRefund .refund :=
  ⟨nofun, fun _ => Iff.rfl, fun response id => .refunded response id, nofun, rfl, rfl, rfl⟩

namespace SettlementEndpoint

variable {expires : Bool} {decode : Json.Reader → Except GoError GoString}
  {wrap : GoString → BankAnswer} {name : GoString}

theorem justified_rejection (spec : SettlementEndpoint endpoint expires decode wrap)
    {response : HttpResponse} {code : GoString} (hbad : response.statusCode = 400)
    (hcode : decodeBadRequestCode response = .ok code) :
    Justified endpoint (.ok response)
      (.failed ((settlementRejection expires code).getD (unexpectedStatus name response))) := by
  have hlisted : ∀ codes, code ∈ codes → RejectedWith response codes :=
    fun codes h => ⟨hbad, code, h, hcode⟩
  unfold settlementRejection
  split_ifs with hexpired hcard hamount hconflict
  · exact .authorizationExpired endpoint response (spec.settles hexpired.1)
      (hlisted _ (by simp [hexpired.2]))
  · exact .invalidInput _ response _ (hlisted _ (by simp [spec.invalidInput, hcard]))
  · exact .invalidInput _ response _ (hlisted _ (by simp [spec.invalidInput, hamount]))
  · exact .bankStateConflict _ response (hlisted _ (by simp [spec.conflict, hconflict]))
  · refine .undecided _ _ _ rfl (not_decides_of_badRequest hbad fun other hother => ?_)
    obtain rfl : code = other := Except.ok.inj (hcode.symm.trans hother)
    rw [spec.terminal, spec.invalidInput, spec.conflict]
    cases expires <;> simp_all

/-- The attempt that captures, voids and refunds share is justified. -/
theorem justified_outcome (spec : SettlementEndpoint endpoint expires decode wrap)
    (exchange : Exchange) :
    Justified endpoint exchange
      (answerOf wrap (outcome (settlementResponse name expires decode) exchange)) := by
  cases exchange with
  | error err => exact .undecided _ _ _ (isRetryablePaymentError_transportFailure err) id
  | ok response =>
    rw [outcome, settlementResponse]
    split_ifs with hok hbad
    · cases hdecoded : decode response.body with
      | error err =>
        refine .undecided _ _ _ rfl (not_decides_of_ok hok ?_)
        rw [spec.confirms]
        rintro ⟨-, id, hid, -⟩
        cases hdecoded.symm.trans hid
      | ok id =>
        rw [mapError_ok, ok_bind]
        by_cases hid : trimSpace id = []
        · rw [rejectIf_of _ hid, error_bind]
          refine .undecided _ _ _ rfl (not_decides_of_ok hok ?_)
          rw [spec.confirms]
          rintro ⟨-, other, hother, hpresent⟩
          obtain rfl : id = other := Except.ok.inj (hdecoded.symm.trans hother)
          exact hpresent hid
        · rw [rejectIf_of_not _ hid, ok_bind]
          exact spec.justified response id hok hdecoded hid
    · cases hcode : decodeBadRequestCode response with
      | error err =>
        refine .undecided _ _ _ rfl (not_decides_of_badRequest hbad fun code h => ?_)
        cases hcode.symm.trans h
      | ok code => exact spec.justified_rejection hbad hcode
    · exact .undecided _ _ _ rfl
        (not_decides_of_status hok hbad fun h => absurd h spec.ne_authorization)

end SettlementEndpoint

/-- Every answer to an exchange is justified by it. -/
theorem justified_answer (request : BankRequest) (exchange : Exchange) :
    Justified request.endpoint exchange (answer request exchange) := by
  cases request with
  | authorization => exact justified_authorization exchange
  | capture => exact settlementEndpoint_capture.justified_outcome exchange
  | void => exact settlementEndpoint_void.justified_outcome exchange
  | refund => exact settlementEndpoint_refund.justified_outcome exchange

/-! ## Calls -/

/-- An answer that leaves open what became of the operation. -/
def isAmbiguous : BankAnswer → Bool
  | .failed err => isRetryablePaymentError err
  | _ => false

/-- An answer is ambiguous exactly if the exchange decided nothing. -/
theorem Justified.isAmbiguous_iff {exchange : Exchange} {answer : BankAnswer}
    (h : Justified endpoint exchange answer) :
    isAmbiguous answer = true ↔ ¬ Decides endpoint exchange := by
  have hfinal : isAmbiguous answer = false → Decides endpoint exchange →
      (isAmbiguous answer = true ↔ ¬ Decides endpoint exchange) :=
    fun hfalse hdecides => by simp [hfalse, hdecides]
  cases h with
  | approved response payload status decoded id expires =>
    exact hfinal rfl (.inl ⟨status, payload, decoded, id, expires⟩)
  | insufficientFunds response status => exact hfinal rfl (.inr (.inl ⟨rfl, status⟩))
  | captured response id status decoded present =>
    exact hfinal rfl (.inl ⟨status, id, decoded, present⟩)
  | voided response id status decoded present =>
    exact hfinal rfl (.inl ⟨status, id, decoded, present⟩)
  | refunded response id status decoded present =>
    exact hfinal rfl (.inl ⟨status, id, decoded, present⟩)
  | expiredCard response code =>
    exact hfinal rfl (.inr (.inr (code.mono fun _ hcode => by simp_all [terminalCodes])))
  | authorizationExpired _ response settles code =>
    refine hfinal rfl (.inr (.inr (code.mono fun _ hcode => ?_)))
    rcases settles with rfl | rfl <;> simp_all [terminalCodes]
  | invalidInput _ response _ code =>
    exact hfinal rfl (.inr (.inr (code.mono fun _ hcode => by simp [hcode])))
  | bankStateConflict _ response code =>
    exact hfinal rfl (.inr (.inr (code.mono fun _ hcode => by simp [hcode])))
  | undecided _ _ _ retryable undecided => exact iff_of_true retryable undecided

/-- A call whose request can be built, in terms of what its attempts are answered with. -/
theorem retryTransient_attempt {α : Type} (wrap : α → BankAnswer)
    (hwrap : ∀ result, isAmbiguous (wrap result) = false)
    (respond : HttpResponse → Except GoError α) (http : HttpRequest) (encounter : Encounter) :
    (retryTransient (client.attempt (.ok http) respond) encounter).map (answerOf wrap) id =
      if isAmbiguous (answerOf wrap (outcome respond
          (httpDo client.resolve http encounter.first).1)) then
        match encounter.delay with
        | some ended =>
          (.failed (delayFailure ended), [(httpDo client.resolve http encounter.first).2])
        | none =>
          (answerOf wrap (outcome respond (httpDo client.resolve http encounter.second).1),
            [(httpDo client.resolve http encounter.first).2,
              (httpDo client.resolve http encounter.second).2])
      else
        (answerOf wrap (outcome respond (httpDo client.resolve http encounter.first).1),
          [(httpDo client.resolve http encounter.first).2]) := by
  simp only [retryTransient, attempt]
  generalize httpDo client.resolve http encounter.first = first
  obtain ⟨exchange, sent⟩ := first
  dsimp only [Prod.map, id]
  cases outcome respond exchange with
  | ok result => simp [answerOf, hwrap]
  | error err =>
    by_cases hretry : isRetryablePaymentError err = true
    · cases encounter.delay <;> simp [answerOf, isAmbiguous, hretry]
    · simp [answerOf, isAmbiguous, hretry]

theorem call_of_httpRequest {request : BankRequest} {http : HttpRequest}
    (h : client.httpRequest request = .ok http) (encounter : Encounter) :
    client.call request encounter =
      if isAmbiguous (answer request (httpDo client.resolve http encounter.first).1) then
        match encounter.delay with
        | some ended =>
          (.failed (delayFailure ended), [(httpDo client.resolve http encounter.first).2])
        | none =>
          (answer request (httpDo client.resolve http encounter.second).1,
            [(httpDo client.resolve http encounter.first).2,
              (httpDo client.resolve http encounter.second).2])
      else
        (answer request (httpDo client.resolve http encounter.first).1,
          [(httpDo client.resolve http encounter.first).2]) := by
  cases request with
  | authorization =>
    rw [call, authorizePayment, h]
    exact retryTransient_attempt _ (fun _ => rfl) _ http encounter
  | capture =>
    rw [call, capturePayment, h]
    exact retryTransient_attempt _ (fun _ => rfl) _ http encounter
  | void =>
    rw [call, voidPayment, h]
    exact retryTransient_attempt _ (fun _ => rfl) _ http encounter
  | refund =>
    rw [call, refundPayment, h]
    exact retryTransient_attempt _ (fun _ => rfl) _ http encounter

/-- A request that cannot be built is not sent and not tried again. -/
theorem call_of_httpRequest_error {request : BankRequest} {err : GoError}
    (h : client.httpRequest request = .error err) (encounter : Encounter) :
    client.call request encounter = (.failed (newInternalPaymentError err), [[]]) := by
  cases request with
  | authorization => rw [call, authorizePayment, h]; rfl
  | capture => rw [call, capturePayment, h]; rfl
  | void => rw [call, voidPayment, h]; rfl
  | refund => rw [call, refundPayment, h]; rfl

theorem idempotencyKey_of_httpRequest {request : BankRequest} {http : HttpRequest}
    (h : client.httpRequest request = .ok http) :
    http.idempotencyKey = some request.operationKey := by
  cases request with
  | authorization | capture | void | refund =>
    obtain ⟨url, -, hhttp⟩ := bind_eq_ok.mp h
    obtain rfl := pure_eq_ok_iff.mp hhttp
    rfl

/-! ## What a call can report -/

/-- What an endpoint can report at all: results that are complete, decline reasons of the
gateway's own, and an expired authorization only where one is settled. -/
def Reportable : Endpoint → BankAnswer → Prop
  | .authorization, .authorization result =>
    result.declineReason = [] ∧ trimSpace result.bankAuthorizationID ≠ [] ∧
      result.authorizationExpiresAt ≠ 0 ∨ result.declineReason ∈ declineReasons
  | .capture, .capture id => trimSpace id ≠ []
  | .void, .void id => trimSpace id ≠ []
  | .refund, .refund id => trimSpace id ≠ []
  | endpoint, .failed err =>
    hasPaymentErrorKind err .authorizationExpired = true →
      endpoint = .capture ∨ endpoint = .void
  | _, _ => False

theorem not_expired_of_retryable {err : GoError} (h : isRetryablePaymentError err = true) :
    hasPaymentErrorKind err .authorizationExpired = false := by
  unfold isRetryablePaymentError hasPaymentErrorKind at *
  simp only [Bool.or_eq_true, decide_eq_true_eq, decide_eq_false_iff_not] at h ⊢
  rcases h with h | h
  · simp [h]
  · simp [h]

theorem reportable_failed {err : GoError} (endpoint : Endpoint)
    (h : hasPaymentErrorKind err .authorizationExpired = false) :
    Reportable endpoint (.failed err) := by
  cases endpoint <;> exact fun hexpired => absurd (h.symm.trans hexpired) nofun

theorem Justified.reportable {exchange : Exchange} {answer : BankAnswer}
    (h : Justified endpoint exchange answer) : Reportable endpoint answer := by
  cases h with
  | approved response payload status decoded id expires => exact .inl ⟨rfl, id, expires⟩
  | insufficientFunds => exact .inr (by decide)
  | expiredCard => exact .inr (by decide)
  | captured _ _ _ _ id => exact id
  | voided _ _ _ _ id => exact id
  | refunded _ _ _ _ id => exact id
  | authorizationExpired _ response settles =>
    rcases settles with rfl | rfl
    · exact fun _ => .inl rfl
    · exact fun _ => .inr rfl
  | invalidInput => exact reportable_failed endpoint rfl
  | bankStateConflict => exact reportable_failed endpoint rfl
  | undecided _ _ _ retryable =>
    exact reportable_failed endpoint (not_expired_of_retryable retryable)

/-- Whatever a call meets, its answer is one that its endpoint can report. -/
theorem reportable_call (client : BankClient) (request : BankRequest) (encounter : Encounter) :
    Reportable request.endpoint (client.call request encounter).1 := by
  cases hrequest : client.httpRequest request with
  | error err =>
    rw [call_of_httpRequest_error hrequest]
    exact reportable_failed _ rfl
  | ok http =>
    rw [call_of_httpRequest hrequest]
    split_ifs
    · cases encounter.delay with
      | some ended => exact reportable_failed _ (by cases ended <;> rfl)
      | none => exact (justified_answer request _).reportable
    · exact (justified_answer request _).reportable

/-! ## Soundness -/

/-- The request was sent at most once, and nothing came back that decides. -/
inductive Undecided (endpoint : Endpoint) (http : HttpRequest) : List Sent → Prop
  | unsent : Undecided endpoint http []
  | sent (exchange : Exchange) (undecided : ¬ Decides endpoint exchange) :
      Undecided endpoint http [⟨http, exchange⟩]

/-- The answer of an attempt that sent its request at most once. -/
inductive AttemptReport (endpoint : Endpoint) (http : HttpRequest) : List Sent → BankAnswer → Prop
  | unsent (err : GoError) (ambiguous : isRetryablePaymentError err = true) :
      AttemptReport endpoint http [] (.failed err)
  | sent (exchange : Exchange) (answer : BankAnswer)
      (justified : Justified endpoint exchange answer) :
      AttemptReport endpoint http [⟨http, exchange⟩] answer

/-- The answer of a sound call, and the requests that its attempts sent: the same one, at most
once in each attempt, the second time after an undisturbed delay and only if nothing was decided
before. -/
inductive CallReport (endpoint : Endpoint) (http : HttpRequest) (delay : Option ContextError) :
    BankAnswer × List (List Sent) → Prop
  | decided (exchange : Exchange) (answer : BankAnswer) (final : isAmbiguous answer = false)
      (justified : Justified endpoint exchange answer) :
      CallReport endpoint http delay (answer, [[⟨http, exchange⟩]])
  | cutOff (sent : List Sent) (ended : ContextError) (err : GoError)
      (undecided : Undecided endpoint http sent) (cut : delay = some ended)
      (ambiguous : isRetryablePaymentError err = true) :
      CallReport endpoint http delay (.failed err, [sent])
  | repeated (sent resent : List Sent) (answer : BankAnswer)
      (undecided : Undecided endpoint http sent) (waited : delay = none)
      (report : AttemptReport endpoint http resent answer) :
      CallReport endpoint http delay (answer, [sent, resent])

variable {http : HttpRequest} {trips : Trips}

theorem AttemptReport.length_le {sent : List Sent} {answer : BankAnswer}
    (h : AttemptReport endpoint http sent answer) : sent.length ≤ 1 := by
  cases h <;> simp

theorem Undecided.length_le {sent : List Sent} (h : Undecided endpoint http sent) :
    sent.length ≤ 1 := by
  cases h <;> simp

/-- In a sound call each attempt sends at most one request. -/
theorem CallReport.length_le {delay : Option ContextError} {report : BankAnswer × List (List Sent)}
    (h : CallReport endpoint http delay report) {sent : List Sent} (hsent : sent ∈ report.2) :
    sent.length ≤ 1 := by
  cases h with
  | decided => simp_all
  | cutOff _ _ _ undecided =>
    obtain rfl := List.mem_singleton.mp hsent
    exact undecided.length_le
  | repeated first second _ undecided _ report =>
    rcases List.mem_pair.mp hsent with rfl | rfl
    · exact undecided.length_le
    · exact report.length_le

/-- A sound call sends at most two requests, and no other than its own. -/
theorem CallReport.requests {delay : Option ContextError} {report : BankAnswer × List (List Sent)}
    (h : CallReport endpoint http delay report) :
    report.2.flatten.length ≤ 2 ∧ ∀ sent ∈ report.2.flatten, sent.request = http := by
  cases h with
  | decided => simp
  | cutOff sent _ _ undecided => cases undecided <;> simp
  | repeated sent resent _ undecided _ report => cases undecided <;> cases report <;> simp

/-- Neither an error nor a redirect decides anything. -/
theorem not_decides_of_redirect {exchange : Exchange}
    (h : ∀ response, exchange = .ok response →
      response.statusCode ∈ [301, 302, 303, 307, 308]) : ¬ Decides endpoint exchange := by
  cases exchange with
  | error err => exact id
  | ok response =>
    have hstatus := h response rfl
    simp only [List.mem_cons, List.not_mem_nil, or_false] at hstatus
    exact not_decides_of_status (by omega) (by omega) fun _ => by omega

theorem attemptReport_of_ended (request : BankRequest) {sent : List Sent} {exchange : Exchange}
    (h : Ended http sent exchange) :
    AttemptReport request.endpoint http sent (answer request exchange) := by
  have hfailed : ∀ err : TransportError,
      answer request (.error err) = .failed (transportFailure err) := by
    cases request <;> exact fun _ => rfl
  cases h with
  | unsent err =>
    rw [hfailed]
    exact .unsent _ (isRetryablePaymentError_transportFailure err)
  | answered exchange => exact .sent exchange _ (justified_answer request exchange)
  | lost exchange err redirect =>
    rw [hfailed]
    exact .sent exchange _ (.undecided _ _ _ (isRetryablePaymentError_transportFailure err)
      (not_decides_of_redirect redirect))

theorem AttemptReport.undecided {sent : List Sent} {answer : BankAnswer}
    (h : AttemptReport endpoint http sent answer) (ambiguous : isAmbiguous answer = true) :
    Undecided endpoint http sent := by
  cases h with
  | unsent => exact .unsent
  | sent exchange _ justified => exact .sent exchange (justified.isAmbiguous_iff.mp ambiguous)

/-- What a direct attempt ends with decides as much as what the network did with its request. -/
theorem decides_httpDo_iff {resolve : ResolveURL} (h : http.idempotencyKey.isSome = true)
    (direct : Direct resolve http trips) :
    Decides endpoint (httpDo resolve http trips).1 ↔ Decides endpoint (trips 0).result := by
  rcases (ended_httpDo h direct).2 with heq | ⟨⟨err, herr⟩, response, hresponse, hstatus⟩
  · rw [heq]
  · have hredirect : ¬ Decides endpoint (trips 0).result :=
      not_decides_of_redirect fun other hother =>
        Except.ok.inj (hresponse.symm.trans hother) ▸ hstatus
    rw [herr]
    exact iff_of_false id hredirect

/-- **A call is sound exactly if the network takes each of its attempts directly.** A request that
cannot be built is answered at once and never sent. Otherwise a call sends its request at most
twice, the second time only after an attempt that decided nothing and an undisturbed delay, and its
answer is that of the last attempt, and justified by what came back, or a timeout or unavailable if
the delay was cut off: provided that no attempt is redirected, or loses a connection that has taken
the request, and sends another request after that. -/
theorem call_sound_iff (client : BankClient) (request : BankRequest) (encounter : Encounter) :
    match client.httpRequest request with
    | .error err =>
      client.call request encounter = (.failed (newInternalPaymentError err), [[]])
    | .ok http =>
      http.idempotencyKey = some request.operationKey ∧
        (CallReport request.endpoint http encounter.delay (client.call request encounter) ↔
          Direct client.resolve http encounter.first ∧
            (¬ Decides request.endpoint (encounter.first 0).result → encounter.delay = none →
              Direct client.resolve http encounter.second)) := by
  cases hrequest : client.httpRequest request with
  | error err => exact call_of_httpRequest_error hrequest encounter
  | ok http =>
    have hkey := idempotencyKey_of_httpRequest hrequest
    have hsome : http.idempotencyKey.isSome = true := by simp [hkey]
    refine ⟨hkey, ?_⟩
    have hfirst := justified_answer request (httpDo client.resolve http encounter.first).1
    rw [call_of_httpRequest hrequest]
    constructor
    · -- An attempt that sends its request twice is not in any report.
      intro report
      have hdirect : Direct client.resolve http encounter.first := by
        refine (direct_iff hsome).mpr (report.length_le ?_)
        split_ifs
        · cases encounter.delay <;> simp
        · simp
      refine ⟨hdirect, fun hundecided hdelay => (direct_iff hsome).mpr (report.length_le ?_)⟩
      have hambiguous := hfirst.isAmbiguous_iff.mpr
        ((decides_httpDo_iff hsome hdirect).not.mpr hundecided)
      rw [if_pos hambiguous, hdelay]
      simp
    · -- The report is put together from those of the attempts.
      rintro ⟨hdirect, hsecond⟩
      have hreport := attemptReport_of_ended request (ended_httpDo hsome hdirect).1
      split_ifs with hambiguous
      · have hundecided := hreport.undecided hambiguous
        cases hdelay : encounter.delay with
        | some ended => exact .cutOff _ ended _ hundecided rfl (by cases ended <;> rfl)
        | none =>
          have hdecides := (decides_httpDo_iff hsome hdirect).not.mp
            (hfirst.isAmbiguous_iff.mp hambiguous)
          exact .repeated _ _ _ hundecided rfl
            (attemptReport_of_ended request (ended_httpDo hsome (hsecond hdecides hdelay)).1)
      · generalize (httpDo client.resolve http encounter.first).2 = sent at hreport ⊢
        generalize answer request (httpDo client.resolve http encounter.first).1 = given at *
        cases hreport with
        | unsent err ambiguous => exact absurd ambiguous hambiguous
        | sent exchange _ justified =>
          exact .decided exchange given (Bool.not_eq_true _ ▸ hambiguous) justified

end BankClient

namespace Sample

/-- A client whose bank is at `http://bank`. Locations are paths there. -/
def bankClient : BankClient where
  endpointURL path := .ok (ascii "http://bank" ++ path)
  resolve _ location :=
    if location.head? = some '/'.toUInt8 then .ok (ascii "http://bank" ++ location)
    else .error (ascii "not a path")

/-- The network answers every request in the same way. -/
def answering (exchange : Exchange) : Trips := fun _ => ⟨[], exchange⟩

/-- A response without a location. -/
def response (statusCode : ℕ) (body : GoString) : Exchange :=
  .ok ⟨statusCode, [], ⟨[body], .eof⟩⟩

def bankCapture : BankRequest := .capture ⟨ascii "key", ascii "auth-1", 1000, currencyUSD⟩

def bankCaptureHttp : HttpRequest where
  method := ascii "POST"
  url := ascii "http://bank/api/v1/captures"
  contentType := some (ascii "application/json")
  idempotencyKey := some (ascii "key")
  body := some (.capture (ascii "auth-1") 1000)

/-- Captures are redirected to the path of captures. -/
def redirecting : BankClient.Encounter :=
  let trips := answering (.ok ⟨307, ascii "/api/v1/captures", ⟨[], .eof⟩⟩)
  ⟨trips, none, trips⟩

/-- A reset connection. -/
def reset : TransportError := ⟨ascii "connection reset", false, some false, true⟩

/-- A connection that was kept alive is lost with the request on it, and so are the connections
that are made after that. -/
def resetting : BankClient.Encounter :=
  ⟨fun _ => ⟨[⟨reset, false⟩], .error reset⟩, none, answering (.error reset)⟩

end Sample

namespace BankClient

/-- The first attempt times out, and the second one is answered. -/
theorem call_sound_iff_of_timeout :
    ∃ encounter : Encounter,
      (Sample.bankClient.call Sample.bankCapture encounter).1 = .capture (ascii "cap-1") ∧
      (Sample.bankClient.call Sample.bankCapture encounter).2.flatten.length = 2 ∧
      CallReport .capture Sample.bankCaptureHttp encounter.delay
        (Sample.bankClient.call Sample.bankCapture encounter) := by
  refine ⟨⟨Sample.answering (.error ⟨ascii "timeout", true, some true, true⟩), none,
    Sample.answering (Sample.response 200 (ascii "\x7b\"capture_id\":\"cap-1\"\x7d\n"))⟩,
    by decide +kernel, by decide +kernel, ?_⟩
  have hdirect : ∀ exchange, ¬ Redirects Sample.bankClient.resolve Sample.bankCaptureHttp exchange →
      Direct Sample.bankClient.resolve Sample.bankCaptureHttp (Sample.answering exchange) := by
    intro exchange hfinal
    refine ⟨?_, fun h => absurd h hfinal⟩
    by_cases hsent : isSent exchange = true <;> simp [Trip.requests, Sample.answering, hsent]
  exact (call_sound_iff Sample.bankClient Sample.bankCapture _).2.mpr
    ⟨hdirect _ id, fun _ _ => hdirect _ fun h => absurd h.1 (by decide)⟩

/-- The call sends a redirected capture twenty times, and one for which a connection is lost that
was kept alive three times. -/
theorem call_unsound_of_redirect_or_loss :
    Sample.bankClient.httpRequest Sample.bankCapture = .ok Sample.bankCaptureHttp ∧
    (Sample.bankClient.call Sample.bankCapture Sample.redirecting).2.flatten.length = 20 ∧
    ¬ CallReport .capture Sample.bankCaptureHttp none
      (Sample.bankClient.call Sample.bankCapture Sample.redirecting) ∧
    (Sample.bankClient.call Sample.bankCapture Sample.resetting).2.flatten.length = 3 ∧
    ¬ CallReport .capture Sample.bankCaptureHttp none
      (Sample.bankClient.call Sample.bankCapture Sample.resetting) := by
  have hredirected :
      (Sample.bankClient.call Sample.bankCapture Sample.redirecting).2.flatten.length = 20 := by
    decide +kernel
  have hlost :
      (Sample.bankClient.call Sample.bankCapture Sample.resetting).2.flatten.length = 3 := by
    decide +kernel
  refine ⟨rfl, hredirected, fun report => ?_, hlost, fun report => ?_⟩
  · have := report.requests.1
    omega
  · have := report.requests.1
    omega

end BankClient

end PaymentGateway
