/-
# The process and its end

`run` of `cmd/payment-gateway` from the start of its servers on, with the goroutines that it
starts: the two servers, the calls of `Shutdown`, and the loop of `idempotencycleanup`. The
process ends because a server stops or because of a signal. It drains both servers, and a
second signal or the timeout cuts that short. What `run` has deferred comes last, the closing
of the database at the very end.

The servers are those of `net/http`. `Shutdown` closes the listener, waits until `Serve` has
left it, and returns without an error when no connection is left. It may return an error at
any time from then on, which is how a deadline that passes or is cancelled is met. `Close`
also waits until `Serve` has left the listener; `run` calls it after `Shutdown` only, so there
is nothing left to wait for.
-/

import PaymentGateway.Lib.Run
import Mathlib.Data.Fintype.Basic
import Mathlib.Logic.Function.Basic

namespace PaymentGateway

open Lib

/-! ## Servers -/

/-- The two servers of the process. -/
inductive ServerName
  | publicServer
  | metricsServer
  deriving DecidableEq, Repr

/-- Where the goroutine of `listenAndServe` is. -/
inductive Listening
  | starting
  | accepting
  | returned
  | reported
  deriving DecidableEq, Repr

/-- Where the call of `Shutdown` is. It has ended well if it returned no error. -/
inductive Stopping
  | idle
  | running
  | ended (well : Bool)
  deriving DecidableEq, Repr

/-- `http.Server`. The connections are those without a request, and a handler runs for each
request. -/
structure HttpServer where
  inShutdown : Bool
  listening : Listening
  stopping : Stopping
  connections : ℕ
  handlers : ℕ
  deriving DecidableEq, Repr

inductive ServerEvent
  /-- The listener is open. -/
  | listens
  /-- `ListenAndServe` returns an error of its own. -/
  | fails
  /-- `ListenAndServe` returns `ErrServerClosed`. -/
  | closes
  /-- The result of `ListenAndServe` is sent to `serveResults`. -/
  | reports
  | accepts
  | starts
  | finishes
  | drops
  | shutdownStarts
  | shutdownEnds (well : Bool)
  deriving DecidableEq, Repr

namespace HttpServer

def new : HttpServer := ⟨false, .starting, .idle, 0, 0⟩

/-- One step of a server, where it is enabled. -/
def step (server : HttpServer) : ServerEvent → Option HttpServer
  | .listens =>
    if server.listening = .starting ∧ server.inShutdown = false then
      some { server with listening := .accepting }
    else none
  | .fails =>
    if server.listening = .starting ∨
        server.listening = .accepting ∧ server.inShutdown = false then
      some { server with listening := .returned }
    else none
  | .closes =>
    if (server.listening = .starting ∨ server.listening = .accepting) ∧
        server.inShutdown = true then
      some { server with listening := .returned }
    else none
  | .reports =>
    if server.listening = .returned then some { server with listening := .reported } else none
  | .accepts =>
    if server.listening = .accepting then
      some { server with connections := server.connections + 1 }
    else none
  | .starts =>
    if 0 < server.connections then
      some { server with connections := server.connections - 1, handlers := server.handlers + 1 }
    else none
  | .finishes =>
    if 0 < server.handlers then
      some { server with connections := server.connections + 1, handlers := server.handlers - 1 }
    else none
  | .drops =>
    if 0 < server.connections then
      some { server with connections := server.connections - 1 }
    else none
  | .shutdownStarts =>
    if server.stopping = .idle then
      some { server with stopping := .running, inShutdown := true }
    else none
  | .shutdownEnds well =>
    -- `Shutdown` waits for `Serve` to leave the listener, whatever its context is.
    if server.stopping = .running ∧ server.listening ≠ .accepting ∧
        (well = true → server.connections = 0 ∧ server.handlers = 0) then
      some { server with stopping := .ended well }
    else none

/-- `Close`. -/
def close (server : HttpServer) : HttpServer := { server with inShutdown := true }

end HttpServer

/-! ## The process -/

/-- Where `run` is. -/
inductive RunPhase
  /-- In its first `select`. -/
  | selecting
  /-- It has received the result of a server. -/
  | failed
  /-- It waits for `shutdownServers` because a server has stopped. -/
  | stopping
  | signalled
  /-- In its second `select`. -/
  | draining
  /-- It waits for `shutdownResult` after a second signal. -/
  | forcing
  | closing
  /-- It waits for `serveResults`. -/
  | awaiting
  /-- What is deferred, from the last to the first. -/
  | stopSignals
  | cancelCleanup
  | awaitCleanup
  | closeDB
  | returned
  deriving DecidableEq, Repr

/-- Where the loop of `Runner.Run` is. -/
inductive CleanupPhase
  | waiting
  | cleaning
  | ended
  deriving DecidableEq, Repr

/-- Where a call of `CheckReady` is. -/
inductive ReadinessCheck
  | absent
  /-- It has seen that the process is not draining, and asks the database. -/
  | asking
  | returned (ready : Bool)
  deriving DecidableEq, Repr

/-- The process. `results` counts what waits in `serveResults`, and `signals` what waits in
`shutdownSignals`, which has room for two. -/
structure Process where
  phase : RunPhase
  servers : ServerName → HttpServer
  results : ℕ
  signals : ℕ
  draining : Bool
  cleanup : CleanupPhase
  cleanupCancelled : Bool
  dbClosed : Bool
  checks : ℕ → ReadinessCheck

inductive ProcessEvent
  | signal
  | server (name : ServerName) (e : ServerEvent)
  | cleanupTicks
  | cleanupReturns
  | cleanupEnds
  | receiveResult
  | receiveSignal
  /-- `shutdownServers` has returned. -/
  | receiveShutdown
  /-- `closeServers` returns, with or without an error. -/
  | closed (well : Bool)
  | proceed
  /-- `CheckReady` is called, and loads `draining`. -/
  | checkStarts (i : ℕ)
  /-- The check of the database has returned. -/
  | checkReturns (i : ℕ) (ready : Bool)
  deriving DecidableEq, Repr

/-- Where `shutdownServers` has been called and not returned. -/
def RunPhase.shuttingDown : RunPhase → Bool
  | stopping | draining | forcing => true
  | _ => false

/-- What `run` does where it waits for nobody. -/
def Process.proceed (s : Process) : Option Process :=
  match s.phase with
  | .failed => some { s with phase := .stopping, draining := true }
  | .signalled => some { s with phase := .draining, draining := true }
  | .stopSignals => some { s with phase := .cancelCleanup }
  | .cancelCleanup => some { s with phase := .awaitCleanup, cleanupCancelled := true }
  | .awaitCleanup => if s.cleanup = .ended then some { s with phase := .closeDB } else none
  | .closeDB => some { s with phase := .returned, dbClosed := true }
  | _ => none

/-- Where `run` goes on when both calls of `Shutdown` have ended. -/
def Process.afterShutdown (s : Process) (well : Bool) : Option RunPhase :=
  match s.phase with
  | .stopping => some .stopSignals
  | .draining => some (if well then .awaiting else .closing)
  | .forcing => some .closing
  | _ => none

/-- The result of `shutdownServers`, if both calls have ended. -/
def Process.shutdownResult (s : Process) : Option Bool :=
  match (s.servers .publicServer).stopping, (s.servers .metricsServer).stopping with
  | .ended first, .ended second => some (first && second)
  | _, _ => none

namespace Process

/-- The process when it starts its servers. -/
def initial : Process :=
  ⟨.selecting, fun _ => .new, 0, 0, false, .waiting, false, false, fun _ => .absent⟩

/-- `CheckReady` of `shutdownReadiness`, up to the call of its delegate. -/
def beginCheck (s : Process) : ReadinessCheck :=
  if s.draining then .returned false else .asking

/-- One step of the process, where it is enabled. -/
def step (s : Process) : ProcessEvent → Option Process
  | .signal => if s.signals < 2 then some { s with signals := s.signals + 1 } else none
  | .server name e =>
    if e = .shutdownStarts ∧ s.phase.shuttingDown = false then none
    else
      ((s.servers name).step e).map fun server =>
        { s with
          servers := Function.update s.servers name server
          results := if e = .reports then s.results + 1 else s.results }
  | .cleanupTicks => if s.cleanup = .waiting then some { s with cleanup := .cleaning } else none
  | .cleanupReturns => if s.cleanup = .cleaning then some { s with cleanup := .waiting } else none
  | .cleanupEnds =>
    if s.cleanup = .waiting ∧ s.cleanupCancelled = true then some { s with cleanup := .ended }
    else none
  | .receiveResult =>
    if 0 < s.results then
      if s.phase = .selecting then some { s with phase := .failed, results := s.results - 1 }
      else if s.phase = .awaiting then
        some { s with phase := .stopSignals, results := s.results - 1 }
      else none
    else none
  | .receiveSignal =>
    if 0 < s.signals then
      if s.phase = .selecting then some { s with phase := .signalled, signals := s.signals - 1 }
      else if s.phase = .draining then some { s with phase := .forcing, signals := s.signals - 1 }
      else none
    else none
  | .receiveShutdown =>
    s.shutdownResult.bind fun well =>
      (s.afterShutdown well).map fun phase => { s with phase := phase }
  | .closed well =>
    if s.phase = .closing then
      some { s with
        phase := if well then .awaiting else .stopSignals
        servers := fun name => (s.servers name).close }
    else none
  | .proceed => s.proceed
  | .checkStarts i =>
    if s.checks i = .absent then
      some { s with checks := Function.update s.checks i s.beginCheck }
    else none
  | .checkReturns i ready =>
    if s.checks i = .asking then
      some { s with checks := Function.update s.checks i (.returned ready) }
    else none

/-- The states of the process. -/
abbrev Reachable (s : Process) : Prop := Reaches step (fun _ _ => True) initial s

end Process

/-! ## Servers that are shut down -/

/-- What a call of `Shutdown` leaves behind. -/
structure HttpServer.Sound (server : HttpServer) : Prop where
  inShutdown : server.stopping ≠ .idle → server.inShutdown = true
  left : ∀ well, server.stopping = .ended well → server.listening ≠ .accepting
  drained : server.stopping = .ended true → server.connections = 0 ∧ server.handlers = 0

namespace HttpServer.Sound

variable {server server' : HttpServer} {e : ServerEvent}

theorem new : HttpServer.new.Sound := ⟨by simp [HttpServer.new], by simp [HttpServer.new],
  by simp [HttpServer.new]⟩

theorem close (sound : server.Sound) : server.close.Sound :=
  ⟨fun _ => rfl, sound.left, sound.drained⟩

/-- A listener that was left is not opened again, so nothing comes back. -/
theorem step (sound : server.Sound) (taken : server.step e = some server') : server'.Sound := by
  obtain ⟨hshutdown, hleft, hdrained⟩ := sound
  cases e with
  | listens =>
    obtain ⟨⟨hstarting, hopen⟩, h⟩ := Option.ite_none_right_eq_some.mp taken
    cases h
    have hidle : server.stopping = .idle := by
      by_contra h
      simp [hshutdown h] at hopen
    exact ⟨hshutdown, by simp [hidle], hdrained⟩
  | fails | closes | reports =>
    obtain ⟨-, h⟩ := Option.ite_none_right_eq_some.mp taken
    cases h
    exact ⟨hshutdown, by simp, hdrained⟩
  | accepts =>
    obtain ⟨haccepting, h⟩ := Option.ite_none_right_eq_some.mp taken
    cases h
    exact ⟨hshutdown, hleft, fun hended => absurd haccepting (hleft true hended)⟩
  | starts | drops =>
    obtain ⟨hpositive, h⟩ := Option.ite_none_right_eq_some.mp taken
    cases h
    refine ⟨hshutdown, hleft, fun hended => ?_⟩
    have := (hdrained hended).1
    omega
  | finishes =>
    obtain ⟨hpositive, h⟩ := Option.ite_none_right_eq_some.mp taken
    cases h
    refine ⟨hshutdown, hleft, fun hended => ?_⟩
    have := (hdrained hended).2
    omega
  | shutdownStarts =>
    obtain ⟨-, h⟩ := Option.ite_none_right_eq_some.mp taken
    cases h
    exact ⟨fun _ => rfl, by simp, by simp⟩
  | shutdownEnds well =>
    obtain ⟨⟨hrunning, hnot, hquiet⟩, h⟩ := Option.ite_none_right_eq_some.mp taken
    cases h
    refine ⟨fun _ => hshutdown (by simp [hrunning]), fun _ _ => hnot, fun hended => hquiet ?_⟩
    simpa using hended

end HttpServer.Sound

namespace HttpServer

variable {server server' : HttpServer} {e : ServerEvent}

/-- A call of `Shutdown` that has ended stays so. -/
theorem ended_of_step {well : Bool} (hended : server.stopping = .ended well)
    (taken : server.step e = some server') : server'.stopping = .ended well := by
  cases e <;> obtain ⟨hguard, h⟩ := Option.ite_none_right_eq_some.mp taken <;> cases h <;>
    simp_all

/-- A result is sent in one step only. -/
theorem reported_of_step (taken : server.step e = some server')
    (hreported : server'.listening = .reported) : e = .reports ∨ server.listening = .reported := by
  cases e <;> obtain ⟨hguard, h⟩ := Option.ite_none_right_eq_some.mp taken <;> cases h <;>
    simp_all

end HttpServer

/-! ## What each phase knows -/

namespace RunPhase

/-- `beginDrain` has been called. -/
@[simp] def drains : RunPhase → Bool
  | selecting | failed | signalled => false
  | _ => true

/-- `shutdownServers` has returned. -/
@[simp] def shut : RunPhase → Bool
  | closing | awaiting | stopSignals | cancelCleanup | awaitCleanup | closeDB | returned => true
  | _ => false

/-- No result has been received. -/
@[simp] def unread : RunPhase → Bool
  | selecting | signalled | draining | forcing | closing | awaiting => true
  | _ => false

/-- The context of the cleanup is cancelled. -/
@[simp] def cancels : RunPhase → Bool
  | awaitCleanup | closeDB | returned => true
  | _ => false

/-- The cleanup has been waited for. -/
@[simp] def cleaned : RunPhase → Bool
  | closeDB | returned => true
  | _ => false

end RunPhase

namespace Process

variable {s s' : Process} {e : ProcessEvent} {name : ServerName}

structure Sound (s : Process) : Prop where
  servers : ∀ name, (s.servers name).Sound
  drains : s.phase.drains = true → s.draining = true
  shut : s.phase.shut = true → ∀ name, ∃ well, (s.servers name).stopping = .ended well
  unread : s.phase.unread = true → ∀ name, (s.servers name).listening = .reported → 0 < s.results
  cancels : s.phase.cancels = true → s.cleanupCancelled = true
  cleaned : s.phase.cleaned = true → s.cleanup = .ended
  closed : s.dbClosed = true ↔ s.phase = .returned

namespace Sound

theorem initial : Process.initial.Sound where
  servers _ := .new
  drains h := by cases h
  shut h := by cases h
  unread _ name h := by cases h
  cancels h := by cases h
  cleaned h := by cases h
  closed := by simp [Process.initial]

theorem server {server : HttpServer} {event : ServerEvent} (sound : s.Sound)
    (taken : (s.servers name).step event = some server) :
    Sound { s with
      servers := Function.update s.servers name server
      results := if event = .reports then s.results + 1 else s.results } where
  servers other := by
    by_cases hname : other = name
    · subst hname
      simpa using (sound.servers other).step taken
    · simpa [hname] using sound.servers other
  drains := sound.drains
  shut hshut other := by
    obtain ⟨well, hended⟩ := sound.shut hshut other
    refine ⟨well, ?_⟩
    by_cases hname : other = name
    · subst hname
      simpa using HttpServer.ended_of_step hended taken
    · simpa [hname] using hended
  unread hunread other hreported := by
    -- The result of this step is there, and those of earlier ones still are.
    by_cases hevent : event = .reports
    · simp [hevent]
    · rw [if_neg hevent]
      by_cases hname : other = name
      · subst hname
        have hserver : server.listening = .reported := by simpa using hreported
        obtain h | h := HttpServer.reported_of_step taken hserver
        · exact absurd h hevent
        · exact sound.unread hunread other h
      · exact sound.unread hunread other (by simpa [hname] using hreported)
  cancels := sound.cancels
  cleaned := sound.cleaned
  closed := sound.closed

/-- The loop of the cleanup goes on only where nobody has waited for its end. -/
theorem withCleanup (sound : s.Sound) {cleanup : CleanupPhase}
    (h : s.cleanup = .ended → cleanup = .ended) : Sound { s with cleanup := cleanup } :=
  ⟨sound.servers, sound.drains, sound.shut, sound.unread, sound.cancels,
    fun hcleaned => h (sound.cleaned hcleaned), sound.closed⟩

/-- `run` goes on by itself. -/
theorem step_proceed (sound : s.Sound) (taken : s.proceed = some s') : s'.Sound := by
  obtain ⟨servers, drains, shut, unread, cancels, cleaned, closed⟩ := sound
  unfold proceed at taken
  split at taken
  case h_5 hphase =>
    obtain ⟨hended, h⟩ := Option.ite_none_right_eq_some.mp taken
    cases h
    constructor <;> simp_all
  case h_7 => cases taken
  all_goals
    cases taken
    constructor <;> simp_all <;> assumption

/-- `run` goes on with what it has received. -/
theorem step_receiveResult (sound : s.Sound) (taken : s.step .receiveResult = some s') :
    s'.Sound := by
  obtain ⟨servers, drains, shut, unread, cancels, cleaned, closed⟩ := sound
  obtain ⟨-, h⟩ := Option.ite_none_right_eq_some.mp taken
  split_ifs at h with hselecting hawaiting
  · cases h
    constructor <;> simp_all
  · cases h
    constructor <;> simp_all

theorem step_receiveSignal (sound : s.Sound) (taken : s.step .receiveSignal = some s') :
    s'.Sound := by
  obtain ⟨servers, drains, shut, unread, cancels, cleaned, closed⟩ := sound
  obtain ⟨-, h⟩ := Option.ite_none_right_eq_some.mp taken
  split_ifs at h with hselecting hdraining
  · cases h
    constructor <;> simp_all
    exact unread
  · cases h
    constructor <;> simp_all
    exact unread

end Sound

/-- `shutdownServers` returns when both calls of `Shutdown` have ended. -/
theorem ended_of_shutdownResult {well : Bool} (hresult : s.shutdownResult = some well)
    (name : ServerName) : ∃ well, (s.servers name).stopping = .ended well := by
  unfold shutdownResult at hresult
  split at hresult
  case h_1 first second hfirst hsecond =>
    cases name with
    | publicServer => exact ⟨first, hfirst⟩
    | metricsServer => exact ⟨second, hsecond⟩
  case h_2 => cases hresult

namespace Sound

theorem step_receiveShutdown (sound : s.Sound) (taken : s.step .receiveShutdown = some s') :
    s'.Sound := by
  obtain ⟨well, hresult, h⟩ := Option.bind_eq_some_iff.mp taken
  obtain ⟨phase, hphase, rfl⟩ := Option.map_eq_some_iff.mp h
  have hended := ended_of_shutdownResult hresult
  obtain ⟨servers, drains, shut, unread, cancels, cleaned, closed⟩ := sound
  unfold afterShutdown at hphase
  split at hphase
  case h_2 hdraining =>
    cases hphase
    cases well <;> constructor <;> simp_all <;> assumption
  case h_4 => cases hphase
  all_goals
    cases hphase
    constructor <;> simp_all <;> assumption

theorem step_closed {well : Bool} (sound : s.Sound) (taken : s.step (.closed well) = some s') :
    s'.Sound := by
  obtain ⟨hclosing, h⟩ := Option.ite_none_right_eq_some.mp taken
  cases h
  obtain ⟨servers, drains, shut, unread, cancels, cleaned, closed⟩ := sound
  have hservers : ∀ name, (s.servers name).close.Sound := fun name => (servers name).close
  have hended : ∀ name, ∃ well, (s.servers name).close.stopping = .ended well :=
    shut (by simp [hclosing])
  have hresults : ∀ name, (s.servers name).close.listening = .reported → 0 < s.results :=
    unread (by simp [hclosing])
  cases well <;> constructor <;> simp_all
  exact unread

/-- What each phase knows stays true. -/
theorem step (sound : s.Sound) (taken : s.step e = some s') : s'.Sound := by
  cases e with
  | signal | checkStarts | checkReturns =>
    obtain ⟨-, h⟩ := Option.ite_none_right_eq_some.mp taken
    cases h
    exact ⟨sound.servers, sound.drains, sound.shut, sound.unread, sound.cancels, sound.cleaned,
      sound.closed⟩
  | server name event =>
    obtain ⟨-, h⟩ := Option.ite_none_left_eq_some.mp taken
    obtain ⟨server, hserver, rfl⟩ := Option.map_eq_some_iff.mp h
    exact sound.server hserver
  | cleanupTicks =>
    obtain ⟨hwaiting, h⟩ := Option.ite_none_right_eq_some.mp taken
    cases h
    exact sound.withCleanup (by simp [hwaiting])
  | cleanupReturns =>
    obtain ⟨hcleaning, h⟩ := Option.ite_none_right_eq_some.mp taken
    cases h
    exact sound.withCleanup (by simp [hcleaning])
  | cleanupEnds =>
    obtain ⟨-, h⟩ := Option.ite_none_right_eq_some.mp taken
    cases h
    exact sound.withCleanup fun _ => rfl
  | receiveResult => exact sound.step_receiveResult taken
  | receiveSignal => exact sound.step_receiveSignal taken
  | receiveShutdown => exact sound.step_receiveShutdown taken
  | closed well => exact sound.step_closed taken
  | proceed => exact sound.step_proceed taken

end Sound

theorem Reachable.sound (h : Reachable s) : s.Sound :=
  h.invariant .initial fun _ _ _ _ sound _ taken => sound.step taken

/-- `beginDrain` is not taken back, and checks only go on as `CheckReady` does. -/
theorem frame_of_step (taken : s.step e = some s') :
    (s.draining = true → s'.draining = true) ∧
      (s'.checks = s.checks ∨
        (∃ i, s.checks i = .absent ∧ s'.checks = Function.update s.checks i s.beginCheck) ∨
        ∃ i ready, s.checks i = .asking ∧
          s'.checks = Function.update s.checks i (.returned ready)) := by
  cases e with
  | checkStarts i =>
    obtain ⟨habsent, h⟩ := Option.ite_none_right_eq_some.mp taken
    cases h
    exact ⟨id, .inr (.inl ⟨i, habsent, rfl⟩)⟩
  | checkReturns i ready =>
    obtain ⟨hasking, h⟩ := Option.ite_none_right_eq_some.mp taken
    cases h
    exact ⟨id, .inr (.inr ⟨i, ready, hasking, rfl⟩)⟩
  | server name event =>
    obtain ⟨-, h⟩ := Option.ite_none_left_eq_some.mp taken
    obtain ⟨server, -, rfl⟩ := Option.map_eq_some_iff.mp h
    exact ⟨id, .inl rfl⟩
  | receiveShutdown =>
    obtain ⟨well, -, h⟩ := Option.bind_eq_some_iff.mp taken
    obtain ⟨phase, -, rfl⟩ := Option.map_eq_some_iff.mp h
    exact ⟨id, .inl rfl⟩
  | proceed =>
    have h : s.proceed = some s' := taken
    unfold proceed at h
    split at h
    case h_5 =>
      obtain ⟨-, h⟩ := Option.ite_none_right_eq_some.mp h
      cases h
      exact ⟨id, .inl rfl⟩
    case h_7 => cases h
    all_goals
      cases h
      exact ⟨fun h => by first | rfl | exact h, .inl rfl⟩
  | receiveResult | receiveSignal =>
    obtain ⟨-, h⟩ := Option.ite_none_right_eq_some.mp taken
    split_ifs at h <;> cases h <;> exact ⟨id, .inl rfl⟩
  | _ =>
    obtain ⟨-, h⟩ := Option.ite_none_right_eq_some.mp taken
    cases h
    exact ⟨id, .inl rfl⟩

/-- The process drains, and a check has not been called or was refused. -/
structure Refuses (s : Process) (i : ℕ) : Prop where
  draining : s.draining = true
  check : s.checks i = .absent ∨ s.checks i = .returned false

/-- A check that is called from now on is refused. -/
theorem Refuses.step {i : ℕ} (refuses : s.Refuses i) (taken : s.step e = some s') :
    s'.Refuses i := by
  obtain ⟨hdraining, hchecks⟩ := frame_of_step taken
  refine ⟨hdraining refuses.draining, ?_⟩
  have hcheck := refuses.check
  obtain hkept | ⟨j, -, hstarted⟩ | ⟨j, ready, hasking, hreturned⟩ := hchecks
  · rwa [hkept]
  · rw [hstarted]
    by_cases hij : i = j
    · subst hij
      simp [beginCheck, refuses.draining]
    · simpa [hij] using hcheck
  · have hij : i ≠ j := by
      rintro rfl
      simp [hasking] at hcheck
    simpa [hreturned, hij] using hcheck

end Process

end PaymentGateway
