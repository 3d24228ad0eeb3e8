/-
# The end of the process

Two results on `run`. When the database is closed nothing is left that would use it, unless
the drain was cut short: the cleanup loop has ended, no server accepts, and a server whose
`Shutdown` returned no error has no request left. And once the end has begun, `run` can return
by steps of its own. It needs neither another signal nor a client that finishes its request,
since the drain has a deadline.
-/

import PaymentGateway.Runtime.Shutdown

namespace PaymentGateway

open Lib

namespace Process

variable {s s' : Process} {e : ProcessEvent} {name : ServerName}

/-- In every run: a readiness check that is called after the process has begun to drain does not
succeed, and the database is closed last. -/
theorem database_closed_last (s t : Process) (reachable : Reachable s)
    (later : Reaches step (fun _ _ => True) s t) :
    (s.draining = true → ∀ i, s.checks i = .absent →
      t.checks i = .absent ∨ t.checks i = .returned false) ∧
    (t.dbClosed = true → t.draining = true ∧ t.cleanup = .ended ∧
      ∀ name, (t.servers name).inShutdown = true ∧ (t.servers name).listening ≠ .accepting ∧
        ((t.servers name).stopping = .ended true →
          (t.servers name).connections = 0 ∧ (t.servers name).handlers = 0)) := by
  constructor
  · intro hdraining i habsent
    have hrefuses : t.Refuses i := later.invariant (P := fun s => s.Refuses i)
      ⟨hdraining, .inl habsent⟩ fun _ _ _ _ refuses _ taken => refuses.step taken
    exact hrefuses.check
  · intro hclosed
    have sound := Reachable.sound (reachable.trans later)
    have hphase := sound.closed.mp hclosed
    refine ⟨sound.drains (by simp [hphase]), sound.cleaned (by simp [hphase]), fun name => ?_⟩
    obtain ⟨well, hended⟩ := sound.shut (by simp [hphase]) name
    exact ⟨(sound.servers name).inShutdown (by simp [hended]),
      (sound.servers name).left well hended, (sound.servers name).drained⟩

end Process

namespace Sample

/-- Both servers listen, a request is handled, and a signal is received. -/
def signalledBusy : List ProcessEvent :=
  [.server .publicServer .listens, .server .metricsServer .listens,
    .server .publicServer .accepts, .server .publicServer .starts, .signal, .receiveSignal]

/-- The calls of `Shutdown` are made, and both listeners are left. -/
def shutdownCalled : List ProcessEvent :=
  [.proceed, .server .publicServer .shutdownStarts, .server .metricsServer .shutdownStarts,
    .server .publicServer .closes, .server .metricsServer .closes,
    .server .publicServer .reports, .server .metricsServer .reports]

/-- What is deferred. -/
def deferred : List ProcessEvent :=
  [.receiveResult, .proceed, .proceed, .cleanupEnds, .proceed, .proceed]

/-- The request is finished in time. -/
def gracefulStop : List ProcessEvent :=
  signalledBusy ++ shutdownCalled ++
    [.server .publicServer .finishes, .server .publicServer .drops,
      .server .publicServer (.shutdownEnds true), .server .metricsServer (.shutdownEnds true),
      .receiveShutdown] ++ deferred

/-- A second signal cuts the drain short. -/
def forcedStop : List ProcessEvent :=
  signalledBusy ++ shutdownCalled ++
    [.signal, .receiveSignal, .server .publicServer (.shutdownEnds false),
      .server .metricsServer (.shutdownEnds true), .receiveShutdown, .closed true] ++ deferred

theorem exists_process (events : List ProcessEvent) (property : Process → Bool)
    (h : (execWhere Process.step (fun _ _ => true) .initial events).any property = true) :
    ∃ t, Process.Reachable t ∧ property t = true :=
  exists_reaches_of_execWhere (fun _ _ _ => trivial) events h

end Sample

theorem Process.database_closed_last_sample :
    ∃ t, Reachable t ∧ t.dbClosed = true ∧ t.cleanup = .ended := by
  obtain ⟨t, reachable, hclosed⟩ :=
    Sample.exists_process Sample.gracefulStop Process.dbClosed (by decide +kernel)
  exact ⟨t, reachable, hclosed,
    ((Process.database_closed_last .initial t .refl reachable).2 hclosed).2.1⟩

/-- A check that is called before the drain may succeed during it. -/
example : ∃ t, Process.Reachable t ∧ (t.draining && t.checks 0 == .returned true) = true :=
  Sample.exists_process
    (.checkStarts 0 :: Sample.signalledBusy ++ [.proceed, .checkReturns 0 true]) _
    (by decide +kernel)

/-- After a forced stop the database is closed under a request that still runs. -/
example : ∃ t, Process.Reachable t ∧
    (t.dbClosed && (t.servers .publicServer).handlers == 1) = true :=
  Sample.exists_process Sample.forcedStop _ (by decide +kernel)

/-! ## Progress -/

/-- Steps that need nobody outside of the process. The deadline of a drain may pass. -/
def ProcessEvent.own : ProcessEvent → Bool
  | .signal | .cleanupTicks | .receiveSignal | .checkStarts _ | .checkReturns _ _ => false
  | .server _ e => e ∈ [.closes, .reports, .shutdownStarts, .shutdownEnds false]
  | _ => true

/-- How many phases are left at most. -/
@[simp] def RunPhase.left : RunPhase → ℕ
  | selecting => 9
  | failed | signalled => 8
  | stopping | draining | forcing => 7
  | closing => 6
  | awaiting => 5
  | stopSignals => 4
  | cancelCleanup => 3
  | awaitCleanup => 2
  | closeDB => 1
  | returned => 0

/-- How much a server has left to do. -/
def HttpServer.left (server : HttpServer) : ℕ :=
  (match server.listening with
    | .starting | .accepting => 2
    | .returned => 1
    | .reported => 0) +
  match server.stopping with
    | .idle => 2
    | .running => 1
    | .ended _ => 0

@[simp] def CleanupPhase.left : CleanupPhase → ℕ
  | cleaning => 2
  | waiting => 1
  | ended => 0

namespace Process

variable {s s' : Process} {e : ProcessEvent} {name : ServerName}

/-- How much `run` has left to do. -/
def left (s : Process) : ℕ :=
  if s.phase = .returned then 0
  else s.phase.left + (s.servers .publicServer).left + (s.servers .metricsServer).left +
    s.cleanup.left

/-- The end has begun. -/
structure Ending (s : Process) : Prop where
  sound : s.Sound
  begun : s.phase ≠ .selecting

/-- Some step of its own brings the process nearer to its end. -/
def Advances (s : Process) : Prop :=
  ∃ e s', e.own = true ∧ s.step e = some s' ∧ s'.Ending ∧ s'.left < s.left

theorem Ending.advances_to (h : s.Ending) (e : ProcessEvent) (s' : Process) (own : e.own = true)
    (taken : s.step e = some s') (begun : s'.phase ≠ .selecting) (hlt : s'.left < s.left) :
    s.Advances :=
  ⟨e, s', own, taken, ⟨h.sound.step taken, begun⟩, hlt⟩

/-- A server has something left to do. -/
theorem Ending.advances_server (h : s.Ending) (hphase : s.phase ≠ .returned) (name : ServerName)
    (event : ServerEvent) {server : HttpServer} (own : (ProcessEvent.server name event).own = true)
    (allowed : event = .shutdownStarts → s.phase.shuttingDown = true)
    (taken : (s.servers name).step event = some server)
    (hlt : server.left < (s.servers name).left) : s.Advances := by
  refine h.advances_to (.server name event) { s with
    servers := Function.update s.servers name server
    results := if event = .reports then s.results + 1 else s.results } own ?_ h.begun ?_
  · have hallowed : ¬ (event = .shutdownStarts ∧ s.phase.shuttingDown = false) := by
      rintro ⟨hevent, hnot⟩
      simp [allowed hevent] at hnot
    rw [step, if_neg hallowed, taken]
    rfl
  · simp only [left, if_neg hphase]
    cases name <;> simp <;> omega

/-- A call of `Shutdown` can always be brought to its end: `Serve` leaves a listener that is
closed, and then the deadline may pass. -/
theorem Ending.advances_stopping (h : s.Ending) (hphase : s.phase.shuttingDown = true)
    (hnot : ∀ well, (s.servers name).stopping ≠ .ended well) : s.Advances := by
  have hreturned : s.phase ≠ .returned := by
    intro hreturned
    simp [hreturned, RunPhase.shuttingDown] at hphase
  cases hstopping : (s.servers name).stopping with
  | idle =>
    refine h.advances_server hreturned name .shutdownStarts rfl (fun _ => hphase)
      (by rw [HttpServer.step, if_pos hstopping]) ?_
    simp [HttpServer.left, hstopping]
  | running =>
    by_cases haccepting : (s.servers name).listening = .accepting
    · have hclosed : (s.servers name).inShutdown = true :=
        (h.sound.servers name).inShutdown (by simp [hstopping])
      refine h.advances_server hreturned name .closes rfl (by simp)
        (by rw [HttpServer.step, if_pos ⟨.inr haccepting, hclosed⟩]) ?_
      simp [HttpServer.left, haccepting, hstopping]
    · refine h.advances_server hreturned name (.shutdownEnds false) rfl (by simp)
        (by rw [HttpServer.step, if_pos ⟨hstopping, haccepting, by simp⟩]) ?_
      simp [HttpServer.left, hstopping]
  | ended well => exact absurd hstopping (hnot well)

theorem exists_shutdownResult
    (hended : ∀ name, ∃ well, (s.servers name).stopping = .ended well) :
    ∃ well, s.shutdownResult = some well := by
  obtain ⟨first, hfirst⟩ := hended .publicServer
  obtain ⟨second, hsecond⟩ := hended .metricsServer
  exact ⟨first && second, by rw [shutdownResult, hfirst, hsecond]⟩

/-- The drain comes to an end. -/
theorem Ending.advances_shuttingDown (h : s.Ending) (hphase : s.phase.shuttingDown = true) :
    s.Advances := by
  by_cases hended : ∀ name, ∃ well, (s.servers name).stopping = .ended well
  · obtain ⟨well, hresult⟩ := exists_shutdownResult hended
    have hafter : ∃ phase, s.afterShutdown well = some phase ∧ phase ≠ .selecting ∧
        phase.left < s.phase.left := by
      cases hs : s.phase with
      | draining => cases well <;> simp [afterShutdown, hs]
      | stopping | forcing => simp [afterShutdown, hs]
      | _ => simp [hs, RunPhase.shuttingDown] at hphase
    obtain ⟨phase, hmove, hbegun, hlt⟩ := hafter
    refine h.advances_to .receiveShutdown { s with phase := phase } rfl
      (by simp [step, hresult, hmove]) hbegun ?_
    have hreturned : s.phase ≠ .returned := by
      intro hreturned
      simp [hreturned] at hlt
    simp only [left, if_neg hreturned]
    split_ifs <;> omega
  · push Not at hended
    obtain ⟨name, hnot⟩ := hended
    exact h.advances_stopping hphase hnot

/-- A result of a server arrives where it is waited for: both were shut down, and nobody has
taken a result before. -/
theorem Ending.advances_awaiting (h : s.Ending) (hphase : s.phase = .awaiting) : s.Advances := by
  have hreturned : s.phase ≠ .returned := by simp [hphase]
  by_cases hresults : 0 < s.results
  · refine h.advances_to .receiveResult
      { s with phase := .stopSignals, results := s.results - 1 } rfl
      (by simp [step, hresults, hphase]) (by simp) ?_
    simp only [left, hphase]
    simp
  · obtain ⟨well, hended⟩ := h.sound.shut (by simp [hphase]) .publicServer
    have hclosed : (s.servers .publicServer).inShutdown = true :=
      (h.sound.servers _).inShutdown (by simp [hended])
    cases hlistening : (s.servers .publicServer).listening with
    | starting =>
      refine h.advances_server hreturned .publicServer .closes rfl (by simp)
        (by rw [HttpServer.step, if_pos ⟨.inl hlistening, hclosed⟩]) ?_
      simp [HttpServer.left, hlistening]
    | accepting => exact absurd hlistening ((h.sound.servers _).left well hended)
    | returned =>
      refine h.advances_server hreturned .publicServer .reports rfl (by simp)
        (by rw [HttpServer.step, if_pos hlistening]) ?_
      simp [HttpServer.left, hlistening]
    | reported => exact absurd (h.sound.unread (by simp [hphase]) _ hlistening) hresults

/-- The cleanup loop ends, since its context is cancelled. -/
theorem Ending.advances_awaitCleanup (h : s.Ending) (hphase : s.phase = .awaitCleanup) :
    s.Advances := by
  cases hcleanup : s.cleanup with
  | waiting =>
    have hcancelled := h.sound.cancels (by simp [hphase])
    refine h.advances_to .cleanupEnds { s with cleanup := .ended } rfl
      (by simp [step, hcleanup, hcancelled]) (by simp [hphase]) ?_
    simp [left, hphase, hcleanup]
  | cleaning =>
    refine h.advances_to .cleanupReturns { s with cleanup := .waiting } rfl
      (by simp [step, hcleanup]) (by simp [hphase]) ?_
    simp [left, hphase, hcleanup]
  | ended =>
    refine h.advances_to .proceed { s with phase := .closeDB } rfl
      (by simp [step, proceed, hphase, hcleanup]) (by simp) ?_
    simp [left, hphase]

theorem Ending.advances (h : s.Ending) (hleft : s.left ≠ 0) : s.Advances := by
  have advances_proceed : ∀ s' : Process, s.proceed = some s' → s'.phase ≠ .selecting →
      s'.left < s.left → s.Advances := fun s' taken => h.advances_to .proceed s' rfl taken
  cases hphase : s.phase with
  | selecting => exact absurd hphase h.begun
  | returned => simp [left, hphase] at hleft
  | stopping | draining | forcing =>
    exact h.advances_shuttingDown (by simp [hphase, RunPhase.shuttingDown])
  | awaiting => exact h.advances_awaiting hphase
  | awaitCleanup => exact h.advances_awaitCleanup hphase
  | closing =>
    -- Closing the connections is no step of a server, and it may not change what is left.
    refine h.advances_to (.closed true)
      { s with phase := .awaiting, servers := fun name => (s.servers name).close } rfl
      (by simp [step, hphase]) (by simp) ?_
    have hclose : ∀ name, (s.servers name).close.left = (s.servers name).left := fun _ => rfl
    simp [left, hphase, hclose]
  | failed =>
    exact advances_proceed { s with phase := .stopping, draining := true }
      (by simp [proceed, hphase]) (by simp) (by simp [left, hphase])
  | signalled =>
    exact advances_proceed { s with phase := .draining, draining := true }
      (by simp [proceed, hphase]) (by simp) (by simp [left, hphase])
  | stopSignals =>
    exact advances_proceed { s with phase := .cancelCleanup }
      (by simp [proceed, hphase]) (by simp) (by simp [left, hphase])
  | cancelCleanup =>
    exact advances_proceed { s with phase := .awaitCleanup, cleanupCancelled := true }
      (by simp [proceed, hphase]) (by simp) (by simp [left, hphase])
  | closeDB =>
    exact advances_proceed { s with phase := .returned, dbClosed := true }
      (by simp [proceed, hphase]) (by simp)
      (by rw [left, if_pos rfl]; exact Nat.pos_of_ne_zero hleft)

theorem phase_of_left (h : s.left = 0) : s.phase = .returned := by
  unfold left at h
  split_ifs at h with hphase
  · exact hphase
  · cases hs : s.phase <;> simp_all

/-- Once `run` has received a signal or the result of a server, it can return by its own steps. -/
theorem shutdown_can_finish (s : Process) (reachable : Reachable s)
    (begun : s.phase ≠ .selecting) :
    ∃ t, Reaches step (fun _ e => e.own = true) s t ∧ t.phase = .returned ∧ t.dbClosed = true := by
  have hfinish : ∃ t, Reaches step (fun _ e => e.own = true) s t ∧ t.Ending ∧ t.left = 0 :=
    Reaches.exists_of_decreasing left (fun s h hleft => h.advances hleft) ⟨reachable.sound, begun⟩
  obtain ⟨t, run, hending, hleft⟩ := hfinish
  have hreturned := phase_of_left hleft
  exact ⟨t, run, hreturned, hending.sound.closed.mpr hreturned⟩

end Process

theorem Process.shutdown_can_finish_sample :
    ∃ s, Reachable s ∧ s.phase = .signalled ∧
      ∃ t, Reaches step (fun _ e => e.own = true) s t ∧ t.phase = .returned := by
  obtain ⟨s, reachable, hphase⟩ := Sample.exists_process Sample.signalledBusy
    (fun s => s.phase == .signalled) (by decide +kernel)
  have hsignalled : s.phase = .signalled := by simpa using hphase
  obtain ⟨t, run, hreturned, -⟩ :=
    Process.shutdown_can_finish s reachable (by simp [hsignalled])
  exact ⟨s, reachable, hsignalled, t, run, hreturned⟩

end PaymentGateway
