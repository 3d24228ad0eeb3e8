/-
# Oversized bodies

A body beyond the limit is refused by its declared length, or else when the handler
has read as much as the limit allows. A route without a body notices this whatever the
bytes are. A JSON route notices it only when the bytes up to the limit neither complete
a JSON value nor break one: after a complete value the second attempt to decode hides
the reason, and a byte that cannot stand there is reported before the limit is reached.
The two kinds of request are therefore answered alike exactly in the remaining case.
The application is not called in any of them.
-/

import PaymentGateway.Http.Handlers
import PaymentGateway.Properties.Credentials

namespace PaymentGateway

open Lib

/-- The routes that take a JSON body. -/
def Operation.takesJSON : Operation → Bool
  | authorizePayment | retryAuthorization => true
  | _ => false

/-- A request that declares the length of its body. -/
def Request.declaring (r : Request) (body : Json.Reader) : Request :=
  { r with contentLength := body.bytes.length, body := some body }

/-- A request that streams its body. -/
def Request.streaming (r : Request) (body : Json.Reader) : Request :=
  { r with contentLength := -1, body := some body }

/-! ## What is read of an oversized body -/

section Oversized

variable {limit : ℤ} {body : Json.Reader} (oversized : limit < body.bytes.length)
  (nonneg : 0 ≤ limit)

include oversized nonneg

theorem maxBytesReader_fate :
    (maxBytesReader limit body).fate = .maxBytes limit.toNat := by
  rw [maxBytesReader, Json.Reader.limited_fate, if_neg (by omega)]

/-- The limit that the handler sets again changes nothing. -/
theorem maxBytesReader_twice :
    (maxBytesReader limit (maxBytesReader limit body)).fate = .maxBytes limit.toNat ∧
      (maxBytesReader limit (maxBytesReader limit body)).bytes = body.bytes.take limit.toNat := by
  constructor
  · rw [maxBytesReader, Json.Reader.limited_fate, if_pos, maxBytesReader_fate oversized nonneg]
    rw [maxBytesReader, Json.Reader.limited_bytes, List.length_take]
    exact Nat.min_le_left ..
  · rw [maxBytesReader, maxBytesReader, Json.Reader.limited_bytes, Json.Reader.limited_bytes,
      List.take_take, Nat.min_self]

theorem requireEmptyRequestBody_oversized :
    requireEmptyRequestBody (some (maxBytesReader limit body)) =
      .error (.declared [.oversizedJSONBody] .nothing) := by
  rw [requireEmptyRequestBody, maxBytesReader_fate oversized nonneg]
  rfl

end Oversized

/-! ## What is made of it -/

@[simp] theorem invalidBody_is_oversized {category : BodySentinel} {detail : BodyDetail} :
    (invalidBody category detail).is .oversizedJSONBody = true ↔
      category = .oversizedJSONBody := by
  simp [invalidBody, BodyFailure.is, eq_comm]

/-- Of the errors of a first value only that of the limit is about the size. -/
theorem firstValueFailure_is_oversized {err : DecodeError} :
    (firstValueFailure err).is .oversizedJSONBody = true ↔
      ∃ limit, err = .stream (.read (.maxBytes limit)) := by
  have hother : ∀ err, (BodyFailure.other err).is .oversizedJSONBody = false := fun _ => rfl
  have hpanics : BodyFailure.panics.is .oversizedJSONBody = false := rfl
  unfold firstValueFailure
  split <;> simp [hother, hpanics]

theorem writeJSONBodyError_eq_tooLarge {failure : BodyFailure} :
    writeJSONBodyError failure = requestBodyTooLarge ↔ failure.is .oversizedJSONBody = true := by
  unfold writeJSONBodyError
  split_ifs with hpanics hoversized hinvalid
  · rw [hpanics]
    decide
  · simp [hoversized]
  · refine iff_of_false ?_ hoversized
    decide
  · refine iff_of_false ?_ hoversized
    decide

section Broken

variable {α : Type} (unmarshal : GoString → Except UnmarshalError α) {d : Json.Decoder}

theorem decode_eq_stream_iff {err : Json.StreamError} :
    decode unmarshal d = .error (.stream err) ↔ d.readValue = .error err := by
  rw [decode, bind_eq_error, mapError_eq_error]
  constructor
  · rintro (⟨_, hread, heq⟩ | ⟨read, -, hrest⟩)
    · cases heq
      exact hread
    · cases hvalue : unmarshal read.1 <;> rw [hvalue] at hrest <;> cases hrest
  · intro hread
    exact .inl ⟨err, hread, rfl⟩

theorem fate_of_decode {value : α} {next : Json.Decoder}
    (h : decode unmarshal d = .ok (value, next)) : next.fate = d.fate := by
  simp only [decode, bind_eq_ok, mapError_eq_ok, pure_eq_ok_iff] at h
  obtain ⟨read, hread, _, -, heq⟩ := h
  cases heq
  exact Json.Decoder.fate_of_readValue hread

theorem decides_of_decode {value : α} {next : Json.Decoder} (broken : d.fate ≠ .eof)
    (h : decode unmarshal d = .ok (value, next)) : Json.Decides d.bytes := by
  by_contra hundecided
  have hread := (Json.Decoder.readValue_eq_read_iff broken).mpr ⟨hundecided, rfl⟩
  rw [(decode_eq_stream_iff unmarshal).mpr hread] at h
  cases h

end Broken

/-- A body that breaks off at the limit is refused, and for its size exactly when the bytes up to
the limit decide nothing. -/
theorem decodeJSONRequest_broken {α : Type} (unmarshal : GoString → Except UnmarshalError α)
    (unmarshalAny : GoString → Except UnmarshalError Unit) {limit : ℤ} {body : Json.Reader} {n : ℕ}
    (hfate : (maxBytesReader limit body).fate = .maxBytes n) :
    ∃ failure, decodeJSONRequest unmarshal unmarshalAny limit (some body) = .error failure ∧
      (failure.is .oversizedJSONBody = true ↔
        ¬ Json.Decides (maxBytesReader limit body).bytes) := by
  have broken : (Json.Decoder.new (maxBytesReader limit body)).fate ≠ .eof := by
    change (maxBytesReader limit body).fate ≠ .eof
    rw [hfate]
    exact Json.ReadError.noConfusion
  change ∃ failure, _ ∧
    (_ ↔ ¬ Json.Decides (Json.Decoder.new (maxBytesReader limit body)).bytes)
  unfold decodeJSONRequest
  cases hfirst : decode unmarshal (.new (maxBytesReader limit body)) with
  | error err =>
    refine ⟨firstValueFailure err, by simp [hfirst], ?_⟩
    rw [firstValueFailure_is_oversized]
    constructor
    · rintro ⟨_, rfl⟩
      exact ((Json.Decoder.readValue_eq_read_iff broken).mp
        ((decode_eq_stream_iff unmarshal).mp hfirst)).1
    · intro hundecided
      have hread := (Json.Decoder.readValue_eq_read_iff broken).mpr ⟨hundecided, hfate⟩
      rw [(decode_eq_stream_iff unmarshal).mpr hread] at hfirst
      exact ⟨n, (Except.error.inj hfirst).symm⟩
  | ok first =>
    -- A value is complete. The second attempt cannot meet the end of the body.
    have hdecides := decides_of_decode unmarshal broken hfirst
    have hbroken : first.2.fate ≠ .eof := by rwa [fate_of_decode unmarshal hfirst]
    have hsecond : decode unmarshalAny first.2 ≠ .error (.stream (.read .eof)) := fun h =>
      Json.Decoder.readValue_ne_eof hbroken ((decode_eq_stream_iff unmarshalAny).mp h)
    simp only [hfirst, mapError_ok, ok_bind]
    split
    · next heof => exact absurd heof hsecond
    · exact ⟨_, rfl, by simp [hdecides]⟩
    · exact ⟨_, rfl, by simp [hdecides]⟩

/-! ## Answers -/

section Routes

variable (platform : Platform) (h : Handler) {r : Request} {body : Json.Reader}
  (oversized : h.config.maxRequestBodyBytes < body.bytes.length)

include oversized

theorem readJSONBody_oversized {α : Type} (unmarshal : GoString → Except UnmarshalError α)
    (json : isJSONRequest r.contentType = true)
    (hbody : r.body = some (maxBytesReader h.config.maxRequestBodyBytes body)) :
    ∃ response,
      readJSONBody platform unmarshal h.config.maxRequestBodyBytes r = .error response ∧
        (response = requestBodyTooLarge ↔
          ¬ Json.Decides (body.bytes.take h.config.maxRequestBodyBytes.toNat)) := by
  obtain ⟨hfate, hbytes⟩ := maxBytesReader_twice oversized h.maxRequestBodyBytes_pos.le
  obtain ⟨failure, hfailure, hiff⟩ :=
    decodeJSONRequest_broken unmarshal platform.unmarshalAny hfate
  refine ⟨writeJSONBodyError failure, ?_, ?_⟩
  · rw [readJSONBody, rejectIf_of_not _ (not_not.mpr json), ok_bind, hbody, hfailure]
    rfl
  · rw [writeJSONBodyError_eq_tooLarge, hiff, hbytes]

theorem bodylessCommand_oversized
    (newCommand : GoString → GoString → Except GoError PaymentOperationCommand)
    (hbody : r.body = some (maxBytesReader h.config.maxRequestBodyBytes body)) :
    bodylessCommand r newCommand = .error requestBodyTooLarge := by
  rw [bodylessCommand, hbody,
    requireEmptyRequestBody_oversized oversized h.maxRequestBodyBytes_pos.le]
  rfl

/-- No handler calls the application. -/
theorem Handler.handle_oversized (route : Operation)
    (json : route.takesJSON = true → isJSONRequest r.contentType = true)
    (hbody : r.body = some (maxBytesReader h.config.maxRequestBodyBytes body)) :
    ∃ response, h.handle platform route r = .error response ∧
      (response = requestBodyTooLarge ↔
        (route.takesJSON = true →
          ¬ Json.Decides (body.bytes.take h.config.maxRequestBodyBytes.toNat))) := by
  have hbodyless := fun newCommand => bodylessCommand_oversized h oversized newCommand hbody
  cases route with
  | authorizePayment =>
    obtain ⟨response, hread, hiff⟩ :=
      readJSONBody_oversized platform h oversized platform.unmarshalAuthorization (json rfl) hbody
    exact ⟨response, by simp [Handler.handle, Handler.authorizePayment, hread],
      by simpa [Operation.takesJSON] using hiff⟩
  | retryAuthorization =>
    obtain ⟨response, hread, hiff⟩ :=
      readJSONBody_oversized platform h oversized platform.unmarshalRetry (json rfl) hbody
    exact ⟨response, by simp [Handler.handle, Handler.retryAuthorization, hread],
      by simpa [Operation.takesJSON] using hiff⟩
  | capturePayment =>
    exact ⟨requestBodyTooLarge, by simp [Handler.handle, Handler.capturePayment, hbodyless],
      by simp [Operation.takesJSON]⟩
  | voidPayment =>
    exact ⟨requestBodyTooLarge, by simp [Handler.handle, Handler.voidPayment, hbodyless],
      by simp [Operation.takesJSON]⟩
  | refundPayment =>
    exact ⟨requestBodyTooLarge, by simp [Handler.handle, Handler.refundPayment, hbodyless],
      by simp [Operation.takesJSON]⟩

end Routes

/-- A declared oversized body is answered with 413, a streamed one never reaches the application,
and they are answered alike exactly when the route takes no JSON or the bytes up to the limit
decide nothing. -/
theorem oversized_alike_iff (platform : Platform) (h : Handler) (route : Operation) (r : Request)
    (body : Json.Reader) (admitted : h.requireAdmission platform r = .ok ())
    (json : route.takesJSON = true → isJSONRequest r.contentType = true)
    (oversized : h.config.maxRequestBodyBytes < body.bytes.length) :
    h.serve platform route (r.declaring body) = .error requestBodyTooLarge ∧
      (∃ response, h.serve platform route (r.streaming body) = .error response) ∧
      (h.serve platform route (r.streaming body) = h.serve platform route (r.declaring body) ↔
        (route.takesJSON = true →
          ¬ Json.Decides (body.bytes.take h.config.maxRequestBodyBytes.toNat))) := by
  have hpos := h.maxRequestBodyBytes_pos
  have hdeclared : h.serve platform route (r.declaring body) = .error requestBodyTooLarge := by
    have hadmitted : h.requireAdmission platform (r.declaring body) = .ok () := admitted
    have hlength : h.config.maxRequestBodyBytes < (r.declaring body).contentLength := oversized
    have hlimit : h.limitRequestBody (r.declaring body) = .error requestBodyTooLarge := by
      rw [Handler.limitRequestBody, rejectIf_of _ hlength]
      rfl
    rw [Handler.serve, hadmitted, ok_bind, hlimit]
    rfl
  let limited : Request :=
    { r.streaming body with body := some (maxBytesReader h.config.maxRequestBodyBytes body) }
  have hstreamed : h.serve platform route (r.streaming body) = h.handle platform route limited := by
    have hadmitted : h.requireAdmission platform (r.streaming body) = .ok () := admitted
    have hlimit : h.limitRequestBody (r.streaming body) = .ok limited := by
      rw [Handler.limitRequestBody, rejectIf_of_not]
      · rfl
      · change ¬ h.config.maxRequestBodyBytes < -1
        omega
    rw [Handler.serve, hadmitted, ok_bind, hlimit]
    rfl
  obtain ⟨response, hresponse, hiff⟩ :=
    h.handle_oversized platform oversized route (r := limited) json rfl
  rw [hdeclared, hstreamed, hresponse]
  exact ⟨rfl, ⟨response, rfl⟩, (Iff.of_eq (Except.error.injEq ..)).trans hiff⟩

namespace Sample

/-- Bodies that decode to fixed values, and a limiter with tokens left. -/
def platform : Platform where
  hmac := hmac
  unmarshalAuthorization _ :=
    .ok ⟨ascii "order", ascii "customer", 100, ⟨ascii "4111111111111111", ascii "123", 12, 2030⟩⟩
  unmarshalRetry _ := .ok ⟨⟨ascii "4111111111111111", ascii "123", 12, 2030⟩⟩
  unmarshalAny _ := .ok ()
  reserve _ _ := (true, 0)

/-- A handler that allows eight bytes. -/
def handler : Handler where
  config := ⟨1, 1, 1, 8, ⟨1, 1, 1, 1⟩⟩
  authenticator := rotating
  config_valid := rfl

def request : Request where
  authorization := ascii "Bearer ok"
  contentType := ascii "application/json"
  idempotencyKey := ascii "key"
  paymentID := ascii "pay_00000000-0000-0000-0000-000000000000"
  contentLength := 0
  body := none

/-- A body in two chunks. -/
def body (first second : String) : Json.Reader := ⟨[ascii first, ascii second], .eof⟩

end Sample

theorem oversized_alike_iff_undecided :
    Sample.handler.requireAdmission Sample.platform Sample.request = .ok () ∧
      Sample.handler.serve Sample.platform .authorizePayment
          (Sample.request.streaming (Sample.body "\x7b \"order" "_id\": 1\x7d")) =
        Sample.handler.serve Sample.platform .authorizePayment
          (Sample.request.declaring (Sample.body "\x7b \"order" "_id\": 1\x7d")) :=
  have admitted : Sample.handler.requireAdmission Sample.platform Sample.request = .ok () := by
    decide +kernel
  ⟨admitted, (oversized_alike_iff Sample.platform Sample.handler .authorizePayment Sample.request
    (Sample.body "\x7b \"order" "_id\": 1\x7d") admitted (by decide +kernel) (by decide)).2.2.mpr
      (by decide +kernel)⟩

/-- The answers to a body of an authorization, declared and streamed. -/
def Sample.answers (body : Json.Reader) : Except Response Command × Except Response Command :=
  (Sample.handler.serve Sample.platform .authorizePayment (Sample.request.declaring body),
    Sample.handler.serve Sample.platform .authorizePayment (Sample.request.streaming body))

/-- Where the bytes up to the limit start with a byte that starts no value, or are an object and
spaces, a streamed body is answered as invalid JSON. -/
theorem streamed_answered_as_invalid :
    Sample.handler.requireAdmission Sample.platform Sample.request = .ok () ∧
      Sample.handler.config.maxRequestBodyBytes = 8 ∧
      Sample.answers (Sample.body "xxxxx" "xxxxx") =
        (.error requestBodyTooLarge,
          .error (writeError 400 (ascii "invalid_json_body") (ascii "invalid JSON body") [])) ∧
      Sample.answers (Sample.body "\x7b\x7d   " "     ") =
        (.error requestBodyTooLarge,
          .error (writeError 400 (ascii "invalid_json_body") (ascii "invalid JSON body") [])) := by
  decide +kernel

end PaymentGateway
