/-
# Responses under the middleware

How an answer gets out: the rest of `middleware.go`, over the response of `net/http`. A
request is logged, counted for its route and guarded against panics, and each of these
wraps the writer in a `responseRecorder` of its own, so that four of them lie between a
handler and the connection.

A handler gets some writer, as in the source, and cannot look behind it. What it does is
a list of calls of the writer and the way it ends: it returns, it panics, or it panics with
`http.ErrAbortHandler`, on which `net/http` drops the connection.

The second half removes the recorders. A recorder that is put around a response which has
sent nothing yet mirrors it from then on, and so every layer does what it would do if it
read the response itself (`HttpHandler.Refines`). Two kinds of calls are outside of this.
`net/http` panics at a status that has not three digits, and it takes 101 for final where
a recorder takes it for informational.
-/

import PaymentGateway.Http.Answers

namespace PaymentGateway

open Lib

/-! ## The response of `net/http` -/

/-- The calls of a writer. The first two are made on its `Header()`. -/
inductive WriterCall
  | setHeader (name value : GoString)
  | deleteHeader (name : GoString)
  | writeHeader (status : ℕ)
  | write (data : GoString)
  | flush
  deriving DecidableEq, Repr

/-- A `ResponseWriter`: its state after a call, and whether the call panics. -/
abbrev Writer (σ : Type) := σ → WriterCall → σ × Bool

/-- Calls of a writer, up to one that panics. -/
def Writer.calls {σ : Type} (writer : Writer σ) : σ → List WriterCall → σ × Bool
  | s, [] => (s, false)
  | s, call :: rest =>
    match writer s call with
    | (s, true) => (s, true)
    | (s, false) => writer.calls s rest

/-- The `response` of `net/http`. What it sends is a status with the headers that are set by
then. It ignores a later `WriteHeader` and complains of it in the log. -/
structure ServerResponse where
  header : List (GoString × GoString)
  sent : Option (ℕ × List (GoString × GoString))
  informational : List ℕ
  body : GoString
  superfluous : ℕ
  deriving DecidableEq, Repr

namespace ServerResponse

/-- The response at the start of a request. -/
def fresh : ServerResponse := ⟨[], none, [], [], 0⟩

def deleteHeader (w : ServerResponse) (name : GoString) : ServerResponse :=
  { w with header := w.header.filter (·.1 ≠ name) }

def setHeader (w : ServerResponse) (name value : GoString) : ServerResponse :=
  { w with header := (name, value) :: (w.deleteHeader name).header }

/-- `WriteHeader` as long as nothing is sent, with a status that it takes. -/
def send (w : ServerResponse) (status : ℕ) : ServerResponse :=
  if status ≤ 199 ∧ status ≠ 101 then { w with informational := status :: w.informational }
  else { w with sent := some (status, w.header) }

/-- `WriteHeader`. -/
def writeHeader (w : ServerResponse) (status : ℕ) : ServerResponse × Bool :=
  if w.sent.isSome then ({ w with superfluous := w.superfluous + 1 }, false)
  else if status < 100 ∨ 999 < status then (w, true)
  else (w.send status, false)

/-- What `Write`, `Flush` and the end of the request do first. -/
def implicitHeader (w : ServerResponse) : ServerResponse :=
  if w.sent.isSome then w else w.send 200

/-- `bodyAllowedForStatus`. -/
def bodyAllowed (status : ℕ) : Bool :=
  ¬ (100 ≤ status ∧ status ≤ 199 ∨ status = 204 ∨ status = 304)

/-- `Write`. Its result is not looked at. The body is what was written; `net/http` does not send
it in answer to a HEAD request. -/
def write (w : ServerResponse) (data : GoString) : ServerResponse :=
  let w := w.implicitHeader
  if w.sent.any fun sent => bodyAllowed sent.1 then { w with body := w.body ++ data } else w

def call : Writer ServerResponse
  | w, .setHeader name value => (w.setHeader name value, false)
  | w, .deleteHeader name => (w.deleteHeader name, false)
  | w, .writeHeader status => w.writeHeader status
  | w, .write data => (w.write data, false)
  | w, .flush => (w.implicitHeader, false)

end ServerResponse

/-! ## Recorders -/

/-- `responseRecorder`, apart from the writer that it wraps. -/
structure Recorder where
  wroteHeader : Bool
  status : ℕ
  deriving DecidableEq, Repr

namespace Recorder

def new : Recorder := ⟨false, 0⟩

/-- The methods of a recorder: what becomes of it, and the calls that it then makes of the
wrapped writer. -/
def receive (r : Recorder) : WriterCall → Recorder × List WriterCall
  | .writeHeader status =>
    if r.wroteHeader then (r, [])
    else (if 200 ≤ status then ⟨true, status⟩ else r, [.writeHeader status])
  | .write data =>
    if r.wroteHeader then (r, [.write data])
    else (⟨true, 200⟩, [.writeHeader 200, .write data])
  | .flush => (if r.wroteHeader then r else ⟨true, 200⟩, [.flush])
  -- `Header` is the wrapped writer's.
  | call => (r, [call])

/-- The status that the middleware reports. -/
def reported (r : Recorder) : ℕ := if r.status = 0 then 200 else r.status

end Recorder

/-- A writer with a recorder around it. -/
def Writer.recorded {σ : Type} (writer : Writer σ) : Writer (Recorder × σ) := fun s call =>
  let (r, passed) := s.1.receive call
  let (inner, panicked) := writer.calls s.2 passed
  ((r, inner), panicked)

/-! ## Handlers and middleware -/

inductive Ending
  | returned
  | panicked
  | aborted
  deriving DecidableEq, Repr

/-- A label of the request metrics. -/
structure RequestLabel where
  method : GoString
  route : GoString
  status : ℕ
  deriving DecidableEq, Repr

/-- What is left when a handler has ended: its writer, the statuses that were logged and the
requests that were counted. -/
structure Served (σ : Type) where
  writer : σ
  ending : Ending
  logged : List ℕ
  counted : List RequestLabel
  deriving DecidableEq, Repr

/-- The same with another writer. -/
def Served.on {σ τ : Type} (served : Served σ) (writer : τ) : Served τ :=
  ⟨writer, served.ending, served.logged, served.counted⟩

/-- `http.Handler`, for one request. -/
abbrev HttpHandler := (σ : Type) → Writer σ → σ → Served σ

/-- A handler that makes some calls and ends. -/
def handlerOf (calls : List WriterCall) (ending : Ending) : HttpHandler := fun _ writer s =>
  let (s, panicked) := writer.calls s calls
  ⟨s, if panicked then .panicked else ending, [], []⟩

/-- The calls that write an answer. -/
def Answer.calls (marshal : AnswerBody → GoString) (answer : Answer) : List WriterCall :=
  answer.headers.map (fun header => .setHeader header.1 header.2) ++
    .writeHeader answer.status ::
      (answer.body.map fun body => WriterCall.write (marshal body ++ [0x0A])).toList

/-- What `recoverPanic` writes when it has caught a panic. -/
def recoveryCalls (marshal : AnswerBody → GoString) (wroteHeader : Bool) : List WriterCall :=
  .setHeader (ascii "Connection") (ascii "close") ::
    if wroteHeader then [] else internalServerError.answer.calls marshal

/-- `recoverPanic`. -/
def recoverPanic (marshal : AnswerBody → GoString) (next : HttpHandler) : HttpHandler :=
  fun σ writer s =>
    let served := next (Recorder × σ) writer.recorded (.new, s)
    if served.ending = .panicked then
      let (s, panicked) :=
        writer.recorded.calls served.writer (recoveryCalls marshal served.writer.1.wroteHeader)
      { served.on s.2 with ending := if panicked then .panicked else .returned }
    else served.on served.writer.2

/-- `logRequest`. Nothing is logged of a request whose handler panics. -/
def logRequest (next : HttpHandler) : HttpHandler := fun σ writer s =>
  let served := next (Recorder × σ) writer.recorded (.new, s)
  if served.ending = .returned then
    { served.on served.writer.2 with logged := served.writer.1.reported :: served.logged }
  else served.on served.writer.2

/-- `recordHTTPRequest`. -/
def recordHTTPRequest (method route : GoString) (next : HttpHandler) : HttpHandler :=
  fun σ writer s =>
    let served := next (Recorder × σ) writer.recorded (.new, s)
    if served.ending = .returned then
      { served.on served.writer.2 with
        counted := ⟨method, route, served.writer.1.reported⟩ :: served.counted }
    else served.on served.writer.2

/-! ## Without recorders

The same handlers and middleware on the response itself. A call that comes too late does
nothing here. -/

namespace ServerResponse

/-- A call that is dropped when it comes too late. -/
def after (w : ServerResponse) : WriterCall → ServerResponse
  | .setHeader name value => w.setHeader name value
  | .deleteHeader name => w.deleteHeader name
  | .writeHeader status => if w.sent.isSome then w else w.send status
  | .write data => w.write data
  | .flush => w.implicitHeader

/-- The status that the client gets, if the request ends here. -/
def status (w : ServerResponse) : ℕ := (w.sent.map Prod.fst).getD 200

end ServerResponse

/-- A handler of one request that works on the response. -/
abbrev PlainHandler := ServerResponse → Served ServerResponse

namespace PlainHandler

def ofCalls (calls : List WriterCall) (ending : Ending) : PlainHandler := fun w =>
  ⟨calls.foldl .after w, ending, [], []⟩

def recoverPanic (marshal : AnswerBody → GoString) (next : PlainHandler) : PlainHandler := fun w =>
  let served := next w
  if served.ending = .panicked then
    { served with
      writer := (recoveryCalls marshal served.writer.sent.isSome).foldl .after served.writer
      ending := .returned }
  else served

def logRequest (next : PlainHandler) : PlainHandler := fun w =>
  let served := next w
  if served.ending = .returned then
    { served with logged := served.writer.status :: served.logged }
  else served

def recordHTTPRequest (method route : GoString) (next : PlainHandler) : PlainHandler := fun w =>
  let served := next w
  if served.ending = .returned then
    { served with counted := ⟨method, route, served.writer.status⟩ :: served.counted }
  else served

end PlainHandler

/-! ## Writers that follow a response -/

/-- The statuses that a recorder and `net/http` both take, and take alike. -/
def WriterCall.Valid : WriterCall → Prop
  | .writeHeader status => 100 ≤ status ∧ status ≤ 999 ∧ status ≠ 101
  | _ => True

/-- A `WriteHeader` after the header was sent. -/
def WriterCall.Late (call : WriterCall) (w : ServerResponse) : Prop :=
  w.sent.isSome ∧ ∃ status, call = .writeHeader status

variable {σ : Type} {writer : Writer σ} {R : σ → ServerResponse → Prop} {s : σ}
  {w : ServerResponse} {call : WriterCall} {made : List WriterCall} {status : ℕ}

/-- On the calls that are `allowed`, a writer does what the response does. -/
def Writer.Follows (writer : Writer σ) (R : σ → ServerResponse → Prop)
    (allowed : ServerResponse → WriterCall → Prop) : Prop :=
  ∀ s w call, R s w → allowed w call → ∃ s', writer s call = (s', false) ∧ R s' (w.after call)

/-- The calls of a writer that does not put up with late ones. -/
def Timely (w : ServerResponse) (call : WriterCall) : Prop := call.Valid ∧ ¬ call.Late w

/-- The calls of a writer that puts up with every call. -/
def AnyCall (_ : ServerResponse) (call : WriterCall) : Prop := call.Valid

theorem Writer.Follows.timely (follows : writer.Follows R AnyCall) : writer.Follows R Timely :=
  fun s w call related allowed => follows s w call related allowed.1

/-- The response of `net/http` itself, where a late call would show. -/
theorem ServerResponse.call_follows : Writer.Follows ServerResponse.call Eq Timely := by
  rintro w _ call rfl ⟨valid, timely⟩
  cases call with
  | writeHeader status =>
    have hsent : ¬ w.sent.isSome := fun hsent => timely ⟨hsent, status, rfl⟩
    have hstatus : ¬ (status < 100 ∨ 999 < status) := by
      obtain ⟨_, _, _⟩ := valid
      omega
    refine ⟨w.send status, ?_, ?_⟩
    · simp only [ServerResponse.call, ServerResponse.writeHeader, if_neg hsent, if_neg hstatus]
    · simp only [ServerResponse.after, if_neg hsent]
  | _ => exact ⟨_, rfl, rfl⟩

theorem Writer.calls_cons {s' : σ} (h : writer s call = (s', false)) :
    writer.calls s (call :: made) = writer.calls s' made := by
  simp only [Writer.calls, h]

/-- One step for every call, by induction on them. -/
theorem Writer.Follows.calls (follows : writer.Follows R AnyCall) (related : R s w)
    (valid : ∀ call ∈ made, call.Valid) :
    ∃ s', writer.calls s made = (s', false) ∧ R s' (made.foldl .after w) := by
  induction made generalizing s w with
  | nil => exact ⟨s, rfl, related⟩
  | cons call rest ih =>
    obtain ⟨s₁, hcall, related₁⟩ := follows s w call related (valid call List.mem_cons_self)
    obtain ⟨s₂, hrest, related₂⟩ := ih related₁ fun c hc => valid c (List.mem_cons_of_mem call hc)
    exact ⟨s₂, (Writer.calls_cons hcall).trans hrest, related₂⟩

/-! ## Recorders mirror the response -/

/-- What a recorder knows of a response. -/
def ServerResponse.mirror (w : ServerResponse) : Recorder :=
  ⟨w.sent.isSome, (w.sent.map Prod.fst).getD 0⟩

/-- A recorder around a writer mirrors the response that the writer follows. -/
structure Mirrors (R : σ → ServerResponse → Prop) (s : Recorder × σ) (w : ServerResponse) :
    Prop where
  mirror : s.1 = w.mirror
  final : ∀ sent ∈ w.sent, 200 ≤ sent.1
  inner : R s.2 w

theorem Mirrors.new (hsent : w.sent = none) (related : R s w) : Mirrors R (.new, s) w where
  mirror := by simp [ServerResponse.mirror, hsent, Recorder.new]
  final := by simp [hsent]
  inner := related

theorem Mirrors.wroteHeader_eq {s : Recorder × σ} (h : Mirrors R s w) :
    s.1.wroteHeader = w.sent.isSome := by
  rw [h.mirror]
  rfl

/-- The status that a layer reports is the client's. -/
theorem Mirrors.reported_eq {s : Recorder × σ} (h : Mirrors R s w) : s.1.reported = w.status := by
  rw [h.mirror]
  cases hsent : w.sent with
  | none => simp [Recorder.reported, ServerResponse.mirror, ServerResponse.status, hsent]
  | some sent =>
    have hfinal := h.final sent hsent
    have hne : sent.1 ≠ 0 := by omega
    simp [Recorder.reported, ServerResponse.mirror, ServerResponse.status, hsent, hne]

namespace ServerResponse

theorem send_of_final (hfinal : 200 ≤ status) :
    w.send status = { w with sent := some (status, w.header) } := by
  rw [send, if_neg (by omega)]

theorem implicitHeader_of_sent {sent : ℕ × List (GoString × GoString)}
    (hsent : w.sent = some sent) : w.implicitHeader = w := by
  simp [implicitHeader, hsent]

theorem implicitHeader_of_unsent (hsent : w.sent = none) : w.implicitHeader = w.send 200 := by
  simp [implicitHeader, hsent]

/-- `Write` sends a header and otherwise only adds to the body. -/
theorem sent_write (data : GoString) : (w.write data).sent = w.implicitHeader.sent := by
  simp only [write]
  split_ifs <;> rfl

theorem write_implicitHeader (data : GoString) : w.implicitHeader.write data = w.write data := by
  have hsent : w.implicitHeader.implicitHeader = w.implicitHeader := by
    cases hsent : w.sent with
    | none =>
      rw [implicitHeader_of_unsent hsent, send_of_final le_rfl]
      exact implicitHeader_of_sent rfl
    | some sent => rw [implicitHeader_of_sent hsent, implicitHeader_of_sent hsent]
  simp only [write, hsent]

end ServerResponse

section Recorded

open ServerResponse

variable {s : Recorder × σ}

/-- Before the header is sent: a status is noted if it is final, and passed on. -/
theorem Mirrors.send (h : Mirrors R s w) (hsent : w.sent = none) {inner : σ}
    (valid : (WriterCall.writeHeader status).Valid) (related : R inner (w.send status)) :
    Mirrors R (if 200 ≤ status then ⟨true, status⟩ else s.1, inner) (w.send status) := by
  by_cases hfinal : 200 ≤ status
  · rw [send_of_final hfinal] at related ⊢
    exact ⟨by simp [hfinal, ServerResponse.mirror], by simpa using hfinal, related⟩
  · obtain ⟨-, -, hne⟩ := valid
    have hsend : w.send status = { w with informational := status :: w.informational } := by
      rw [ServerResponse.send, if_pos (by omega)]
    rw [hsend] at related ⊢
    exact ⟨by rw [if_neg hfinal, h.mirror]; rfl, by simp [hsent], related⟩

/-- A call that leaves the header alone leaves the recorder alone. -/
theorem Mirrors.of_sent_eq {w' : ServerResponse} {inner : σ} (h : Mirrors R s w)
    (related : R inner w') (hsent : w'.sent = w.sent) : Mirrors R (s.1, inner) w' where
  mirror := by rw [h.mirror, ServerResponse.mirror, ServerResponse.mirror, hsent]
  final := by rw [hsent]; exact h.final
  inner := related

theorem Writer.calls_singleton {s s' : σ} (h : writer s call = (s', false)) :
    writer.calls s [call] = (s', false) := by
  rw [Writer.calls_cons h]
  rfl

theorem Writer.recorded_eq {r : Recorder} {passed : List WriterCall} {inner : σ}
    (hreceive : s.1.receive call = (r, passed))
    (hcalls : writer.calls s.2 passed = (inner, false)) :
    writer.recorded s call = ((r, inner), false) := by
  simp only [Writer.recorded, hreceive, hcalls]

theorem WriterCall.not_late_of_unsent (hsent : w.sent = none) : ¬ call.Late w := by
  rintro ⟨hsome, -⟩
  simp [hsent] at hsome

/-- Only `WriteHeader` can be late. -/
theorem timely_of_ne (valid : call.Valid) (hne : ∀ status, call ≠ .writeHeader status) :
    Timely w call :=
  ⟨valid, fun ⟨_, status, hcall⟩ => hne status hcall⟩

/-- A call that the recorder hands on, and that leaves the header alone. -/
theorem Writer.Follows.recorded_pass (follows : writer.Follows R Timely) (related : Mirrors R s w)
    (hreceive : s.1.receive call = (s.1, [call])) (timely : Timely w call)
    (hsent : (w.after call).sent = w.sent) :
    ∃ s', writer.recorded s call = (s', false) ∧ Mirrors R s' (w.after call) := by
  obtain ⟨inner, hcall, hinner⟩ := follows _ _ call related.inner timely
  exact ⟨_, Writer.recorded_eq hreceive (Writer.calls_singleton hcall),
    related.of_sent_eq hinner hsent⟩

/-- A call that the recorder hands on after it has noted the status. -/
theorem Writer.Follows.recorded_send (follows : writer.Follows R Timely) (related : Mirrors R s w)
    (hsent : w.sent = none) (valid : call.Valid)
    (hstatus : (WriterCall.writeHeader status).Valid)
    (hreceive : s.1.receive call = (if 200 ≤ status then ⟨true, status⟩ else s.1, [call]))
    (hafter : w.after call = w.send status) :
    ∃ s', writer.recorded s call = (s', false) ∧ Mirrors R s' (w.after call) := by
  obtain ⟨inner, hcall, hinner⟩ :=
    follows _ _ call related.inner ⟨valid, WriterCall.not_late_of_unsent hsent⟩
  rw [hafter] at hinner ⊢
  exact ⟨_, Writer.recorded_eq hreceive (Writer.calls_singleton hcall),
    related.send hsent hstatus hinner⟩

/-- The first `Write`: the recorder writes the header itself, and the response finds it
written. -/
theorem Writer.Follows.recorded_write (follows : writer.Follows R Timely)
    (related : Mirrors R s w) (hsent : w.sent = none) (data : GoString) :
    ∃ s', writer.recorded s (.write data) = (s', false) ∧ Mirrors R s' (w.after (.write data)) := by
  have hreceive : s.1.receive (.write data) = (⟨true, 200⟩, [.writeHeader 200, .write data]) := by
    simp [Recorder.receive, related.wroteHeader_eq, hsent]
  have hvalid : (WriterCall.writeHeader 200).Valid := ⟨by omega, by omega, by omega⟩
  have hafter : w.after (.writeHeader 200) = w.implicitHeader := by
    simp [after, implicitHeader, hsent]
  obtain ⟨inner₁, hcall₁, hinner₁⟩ :=
    follows _ _ (.writeHeader 200) related.inner ⟨hvalid, WriterCall.not_late_of_unsent hsent⟩
  rw [hafter] at hinner₁
  obtain ⟨inner₂, hcall₂, hinner₂⟩ :=
    follows _ _ (.write data) hinner₁ (timely_of_ne trivial (by simp))
  have hmirrors : Mirrors R (⟨true, 200⟩, inner₁) w.implicitHeader := by
    rw [implicitHeader_of_unsent hsent] at hinner₁ ⊢
    exact related.send hsent hvalid hinner₁
  have hwrite : w.implicitHeader.after (.write data) = w.after (.write data) :=
    write_implicitHeader data
  rw [hwrite] at hinner₂
  exact ⟨_, Writer.recorded_eq hreceive
    ((Writer.calls_cons hcall₁).trans (Writer.calls_singleton hcall₂)),
    hmirrors.of_sent_eq hinner₂ (sent_write data)⟩

/-- A recorder puts up with late calls, and the writer that it wraps never sees one. -/
theorem Writer.Follows.recorded (follows : writer.Follows R Timely) :
    writer.recorded.Follows (Mirrors R) AnyCall := by
  intro s w call related valid
  have hwrote := related.wroteHeader_eq
  cases call with
  | setHeader name value =>
    exact follows.recorded_pass related rfl (timely_of_ne valid (by simp)) rfl
  | deleteHeader name =>
    exact follows.recorded_pass related rfl (timely_of_ne valid (by simp)) rfl
  | writeHeader status =>
    cases hsent : w.sent with
    | some sent =>
      -- The recorder drops the call.
      have hreceive : s.1.receive (.writeHeader status) = (s.1, []) := by
        simp [Recorder.receive, hwrote, hsent]
      refine ⟨_, Writer.recorded_eq hreceive rfl, ?_⟩
      simpa [after, hsent] using related
    | none =>
      exact follows.recorded_send related hsent valid valid
        (by simp [Recorder.receive, hwrote, hsent]) (by simp [after, hsent])
  | write data =>
    cases hsent : w.sent with
    | some sent =>
      have hkept : (w.after (.write data)).sent = w.sent := by
        rw [after, sent_write, implicitHeader_of_sent hsent]
      exact follows.recorded_pass related (by simp [Recorder.receive, hwrote, hsent])
        (timely_of_ne valid (by simp)) hkept
    | none => exact follows.recorded_write related hsent data
  | flush =>
    cases hsent : w.sent with
    | some sent =>
      have hkept : (w.after .flush).sent = w.sent := by
        rw [after, implicitHeader_of_sent hsent]
      exact follows.recorded_pass related (by simp [Recorder.receive, hwrote, hsent])
        (timely_of_ne valid (by simp)) hkept
    | none =>
      have hstatus : (WriterCall.writeHeader 200).Valid := ⟨by omega, by omega, by omega⟩
      exact follows.recorded_send related hsent valid hstatus
        (by simp [Recorder.receive, hwrote, hsent]) (implicitHeader_of_unsent hsent)

end Recorded

/-! ## Handlers without recorders -/

/-- Whatever writer it gets, as long as nothing is sent, a handler does what the plain one does to
the response. -/
def HttpHandler.Refines (h : HttpHandler) (plain : PlainHandler)
    (allowed : ServerResponse → WriterCall → Prop) : Prop :=
  ∀ (σ : Type) (writer : Writer σ) (R : σ → ServerResponse → Prop) (s : σ) (w : ServerResponse),
    writer.Follows R allowed → R s w → w.sent = none →
      ∃ s', h σ writer s = (plain w).on s' ∧ R s' (plain w).writer

namespace HttpHandler.Refines

variable {next : HttpHandler} {plain : PlainHandler} {marshal : AnswerBody → GoString}

theorem tolerant (refines : next.Refines plain Timely) : next.Refines plain AnyCall :=
  fun σ writer R s w follows => refines σ writer R s w follows.timely

theorem handlerOf (valid : ∀ call ∈ made, call.Valid) (ending : Ending) :
    HttpHandler.Refines (handlerOf made ending) (.ofCalls made ending) AnyCall := by
  intro σ writer R s w follows related _
  obtain ⟨s', hcalls, related'⟩ := follows.calls related valid
  refine ⟨s', ?_, related'⟩
  simp [PaymentGateway.handlerOf, hcalls, PlainHandler.ofCalls, Served.on]

/-- What a layer finds when the handler that it has wrapped has ended. -/
theorem wrapped (refines : next.Refines plain AnyCall) (follows : writer.Follows R Timely)
    (related : R s w) (hsent : w.sent = none) :
    ∃ s' : Recorder × σ, next (Recorder × σ) writer.recorded (.new, s) = (plain w).on s' ∧
      Mirrors R s' (plain w).writer :=
  refines _ _ _ _ w follows.recorded (.new hsent related) hsent

theorem logRequest (refines : next.Refines plain AnyCall) :
    HttpHandler.Refines (logRequest next) plain.logRequest Timely := by
  intro σ writer R s w follows related hsent
  obtain ⟨s', hnext, mirrors⟩ := refines.wrapped follows related hsent
  refine ⟨s'.2, ?_, ?_⟩
  · simp only [PaymentGateway.logRequest, PlainHandler.logRequest, hnext, Served.on,
      mirrors.reported_eq]
    split_ifs <;> rfl
  · simp only [PlainHandler.logRequest]
    split_ifs <;> exact mirrors.inner

theorem recordHTTPRequest (method route : GoString) (refines : next.Refines plain AnyCall) :
    HttpHandler.Refines (recordHTTPRequest method route next)
      (plain.recordHTTPRequest method route) Timely := by
  intro σ writer R s w follows related hsent
  obtain ⟨s', hnext, mirrors⟩ := refines.wrapped follows related hsent
  refine ⟨s'.2, ?_, ?_⟩
  · simp only [PaymentGateway.recordHTTPRequest, PlainHandler.recordHTTPRequest, hnext, Served.on,
      mirrors.reported_eq]
    split_ifs <;> rfl
  · simp only [PlainHandler.recordHTTPRequest]
    split_ifs <;> exact mirrors.inner

theorem valid_of_mem_recoveryCalls (marshal : AnswerBody → GoString) (wroteHeader : Bool) :
    ∀ call ∈ recoveryCalls marshal wroteHeader, call.Valid := by
  cases wroteHeader <;>
    simp [recoveryCalls, Answer.calls, Response.answer, internalServerError, writeError,
      WriterCall.Valid]

theorem recoverPanic (refines : next.Refines plain AnyCall) :
    HttpHandler.Refines (recoverPanic marshal next) (plain.recoverPanic marshal) Timely := by
  intro σ writer R s w follows related hsent
  obtain ⟨s', hnext, mirrors⟩ := refines.wrapped follows related hsent
  by_cases hending : (plain w).ending = .panicked
  · obtain ⟨s'', hcalls, mirrors'⟩ := follows.recorded.calls mirrors
      (valid_of_mem_recoveryCalls marshal (plain w).writer.sent.isSome)
    refine ⟨s''.2, ?_, ?_⟩
    · simp [PaymentGateway.recoverPanic, PlainHandler.recoverPanic, hnext, Served.on, hending,
        mirrors.wroteHeader_eq, hcalls]
    · simpa [PlainHandler.recoverPanic, hending] using mirrors'.inner
  · refine ⟨s'.2, ?_, ?_⟩
    · simp [PaymentGateway.recoverPanic, PlainHandler.recoverPanic, hnext, Served.on, hending]
    · simpa [PlainHandler.recoverPanic, hending] using mirrors.inner

/-- On the response of `net/http` itself. -/
theorem eq (refines : next.Refines plain Timely) (hsent : w.sent = none) :
    next ServerResponse ServerResponse.call w = plain w := by
  obtain ⟨w', hserved, rfl⟩ :=
    refines ServerResponse ServerResponse.call Eq w w ServerResponse.call_follows rfl hsent
  exact hserved

end HttpHandler.Refines

end PaymentGateway
