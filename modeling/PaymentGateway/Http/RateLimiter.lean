/-
# The rate limiter

`httpapi/rate_limiter.go`. Each principal has a token bucket for each class of
routes, which its first request creates. `Reserve` takes a token, or it finds out
when the next one will be there by reserving it and canceling the reservation.

The map of buckets is behind a mutex and each call on a limiter is atomic, but
`Reserve` as a whole is not. So a call goes through phases, and the phases of
different calls interleave in every order. Instants are rational numbers of seconds,
and so are tokens; the limiter is exact.
-/

import PaymentGateway.App.Errors
import PaymentGateway.Lib.Run
import PaymentGateway.Lib.TokenBucket
import Mathlib.Data.Rat.Floor

namespace PaymentGateway

open Lib

/-- `RouteClass`. -/
inductive RouteClass
  | read
  | write
  deriving DecidableEq, Repr

/-- `RateLimitConfig`. -/
structure RateLimitConfig where
  readRequestsPerSecond : ℤ
  readBurst : ℤ
  writeRequestsPerSecond : ℤ
  writeBurst : ℤ
  deriving DecidableEq, Repr

namespace RateLimitConfig

/-- `validate`. -/
def validate (config : RateLimitConfig) : Except GoError Unit :=
  rejectIf (config.readRequestsPerSecond ≤ 0 ∨ config.readBurst ≤ 0 ∨
      config.writeRequestsPerSecond ≤ 0 ∨ config.writeBurst ≤ 0)
    (.text (ascii "rate limit settings must be positive"))

/-- `limitFor`. -/
def limitFor (config : RateLimitConfig) : RouteClass → ℤ × ℤ
  | .read => (config.readRequestsPerSecond, config.readBurst)
  | .write => (config.writeRequestsPerSecond, config.writeBurst)

/-- The limiter that `Reserve` creates for a class of routes. -/
def newBucket (config : RateLimitConfig) (routeClass : RouteClass) : Limiter ℚ :=
  newLimiter ((config.limitFor routeClass).1 : ℚ) (config.limitFor routeClass).2.toNat

theorem newBucket_positive {config : RateLimitConfig} (valid : config.validate = .ok ())
    (routeClass : RouteClass) :
    0 < (config.newBucket routeClass).limit ∧ 1 ≤ (config.newBucket routeClass).burst := by
  have hpositive := rejectIf_eq_ok.mp valid
  simp only [not_or, not_le] at hpositive
  obtain ⟨hread, hreadBurst, hwrite, hwriteBurst⟩ := hpositive
  cases routeClass with
  | read =>
    refine ⟨Int.cast_pos.mpr hread, ?_⟩
    change 1 ≤ config.readBurst.toNat
    omega
  | write =>
    refine ⟨Int.cast_pos.mpr hwrite, ?_⟩
    change 1 ≤ config.writeBurst.toNat
    omega

end RateLimitConfig

/-- `rateLimitKey`. -/
structure RateLimitKey where
  principalID : GoString
  routeClass : RouteClass
  deriving DecidableEq, Repr

/-! ## One call -/

/-- Where a call of `Reserve` stands. -/
inductive ReservePhase
  | entered
  /-- The bucket is looked up, or created. -/
  | located
  /-- The clock is read. -/
  | timed (now : ℚ)
  /-- There was no token. -/
  | rejected (now : ℚ)
  /-- The next token is reserved, to learn when it will be there. -/
  | reserved (now : ℚ) (reservation : Reservation ℚ)
  | returned (allowed : Bool) (retryAfter : ℤ)
  deriving DecidableEq

/-- A call of `Reserve`. -/
structure ReserveCall where
  key : RateLimitKey
  phase : ReservePhase
  deriving DecidableEq

/-- The delay that a rejected call returns, in whole seconds and at least one. The longest
duration takes the place of a delay that there is none. -/
def retryAfter (reservation : Reservation ℚ) (now : ℚ) : ℤ :=
  max 1 ((reservation.delayFrom now).elim 9223372037 (⌈·⌉))

/-- The next step of a call: its phase, and the bucket of its key. -/
def reserveStep (config : RateLimitConfig) (clock : ℚ) (call : ReserveCall)
    (bucket : Option (Limiter ℚ)) : Option (ReservePhase × Option (Limiter ℚ)) :=
  match call.phase, bucket with
  | .entered, none => some (.located, some (config.newBucket call.key.routeClass))
  | .entered, some lim => some (.located, some lim)
  | .located, some lim => some (.timed clock, some lim)
  | .timed now, some lim =>
    let (allowed, lim) := lim.allowN now 1
    some (if allowed then .returned true 0 else .rejected now, some lim)
  | .rejected now, some lim =>
    let (reservation, lim) := lim.reserveN now 1 none
    some (.reserved now reservation, some lim)
  | .reserved now reservation, some lim =>
    some (.returned false (retryAfter reservation now), some (reservation.cancelAt now lim))
  | _, _ => none

/-! ## Any number of calls -/

/-- The clock, the buckets and the calls. `admitted` keeps the calls that got a token, newest
first, with what the clock showed them; no step reads it. -/
structure LimiterState where
  clock : ℚ
  buckets : RateLimitKey → Option (Limiter ℚ)
  calls : ℕ → Option ReserveCall
  admitted : List (RateLimitKey × ℚ)

/-- `NewRateLimiter`, with the clock at a given time. -/
def LimiterState.initial (clock : ℚ) : LimiterState := ⟨clock, fun _ => none, fun _ => none, []⟩

/-- What a call of `Reserve` returns that runs to its end without a step of another one in
between. -/
def LimiterState.reserve (config : RateLimitConfig) (s : LimiterState) (key : RateLimitKey) :
    Bool × ℤ :=
  let lim := (s.buckets key).getD (config.newBucket key.routeClass)
  let (allowed, lim) := lim.allowN s.clock 1
  if allowed then (true, 0) else (false, retryAfter (lim.reserveN s.clock 1 none).1 s.clock)

/-- What happens to the rate limiter. -/
inductive LimiterEvent
  | tick (clock : ℚ)
  | reserve (id : ℕ) (key : RateLimitKey)
  | act (id : ℕ)
  deriving DecidableEq

/-- What a step of a call adds to the admitted calls. -/
def ReserveCall.admits (call : ReserveCall) (next : ReservePhase) : List (RateLimitKey × ℚ) :=
  match call.phase, next with
  | .timed now, .returned true _ => [(call.key, now)]
  | _, _ => []

/-- One step of the rate limiter, where the event is enabled. -/
def limiterStep (config : RateLimitConfig) (s : LimiterState) : LimiterEvent → Option LimiterState
  | .tick clock => some { s with clock }
  | .reserve id key =>
    match s.calls id with
    | some _ => none
    | none => some { s with calls := Function.update s.calls id (some ⟨key, .entered⟩) }
  | .act id =>
    match s.calls id with
    | none => none
    | some call =>
      (reserveStep config s.clock call (s.buckets call.key)).map fun (next, bucket) =>
        { s with
          buckets := Function.update s.buckets call.key bucket
          calls := Function.update s.calls id (some ⟨call.key, next⟩)
          admitted := call.admits next ++ s.admitted }

/-! ## Rules -/

/-- The rules of a call. -/
inductive ReserveRule (config : RateLimitConfig) (clock : ℚ) (key : RateLimitKey)
    (bucket : Option (Limiter ℚ)) : ReservePhase → ReservePhase → Limiter ℚ → Prop
  | locates : ReserveRule config clock key bucket .entered .located
      (bucket.getD (config.newBucket key.routeClass))
  | reads (lim : Limiter ℚ) (found : bucket = some lim) :
      ReserveRule config clock key bucket .located (.timed clock) lim
  | admitted (now : ℚ) (lim : Limiter ℚ) (found : bucket = some lim)
      (allowed : (lim.allowN now 1).1 = true) :
      ReserveRule config clock key bucket (.timed now) (.returned true 0) (lim.allowN now 1).2
  | rejects (now : ℚ) (lim : Limiter ℚ) (found : bucket = some lim)
      (refused : (lim.allowN now 1).1 = false) :
      ReserveRule config clock key bucket (.timed now) (.rejected now) (lim.allowN now 1).2
  | reserves (now : ℚ) (lim : Limiter ℚ) (found : bucket = some lim) :
      ReserveRule config clock key bucket (.rejected now)
        (.reserved now (lim.reserveN now 1 none).1) (lim.reserveN now 1 none).2
  | cancels (now : ℚ) (reservation : Reservation ℚ) (lim : Limiter ℚ) (found : bucket = some lim) :
      ReserveRule config clock key bucket (.reserved now reservation)
        (.returned false (retryAfter reservation now)) (reservation.cancelAt now lim)

/-- A step of a call follows one of the rules. -/
theorem reserveStep_cases {config : RateLimitConfig} {clock : ℚ} {call : ReserveCall}
    {bucket bucket' : Option (Limiter ℚ)} {next : ReservePhase}
    (h : reserveStep config clock call bucket = some (next, bucket')) :
    ∃ lim, bucket' = some lim ∧ ReserveRule config clock call.key bucket call.phase next lim := by
  unfold reserveStep at h
  split at h
  · next hphase =>
    cases h
    rw [hphase]
    exact ⟨_, rfl, .locates⟩
  · next lim hphase =>
    cases h
    rw [hphase]
    exact ⟨_, rfl, .locates⟩
  · next lim hphase =>
    cases h
    rw [hphase]
    exact ⟨lim, rfl, .reads lim rfl⟩
  · next now lim hphase =>
    cases h
    rw [hphase]
    refine ⟨_, rfl, ?_⟩
    split_ifs with hallowed
    · exact .admitted now lim rfl hallowed
    · exact .rejects now lim rfl (Bool.not_eq_true _ ▸ hallowed)
  · next now lim hphase =>
    cases h
    rw [hphase]
    exact ⟨_, rfl, .reserves now lim rfl⟩
  · next now reservation lim hphase =>
    cases h
    rw [hphase]
    exact ⟨_, rfl, .cancels now reservation lim rfl⟩
  · cases h

/-- What a step of the rate limiter does. -/
inductive LimiterRule (config : RateLimitConfig) (s : LimiterState) :
    LimiterEvent → LimiterState → Prop
  | tick (clock : ℚ) : LimiterRule config s (.tick clock) { s with clock }
  | reserve (id : ℕ) (key : RateLimitKey) (free : s.calls id = none) :
      LimiterRule config s (.reserve id key)
        { s with calls := Function.update s.calls id (some ⟨key, .entered⟩) }
  | act (id : ℕ) (key : RateLimitKey) (phase next : ReservePhase) (lim : Limiter ℚ)
      (running : s.calls id = some ⟨key, phase⟩)
      (rule : ReserveRule config s.clock key (s.buckets key) phase next lim) :
      LimiterRule config s (.act id)
        { s with
          buckets := Function.update s.buckets key (some lim)
          calls := Function.update s.calls id (some ⟨key, next⟩)
          admitted := ReserveCall.admits ⟨key, phase⟩ next ++ s.admitted }

/-- A step of the rate limiter follows one of its rules. -/
theorem limiterStep_cases {config : RateLimitConfig} {s s' : LimiterState} {e : LimiterEvent}
    (h : limiterStep config s e = some s') : LimiterRule config s e s' := by
  cases e with
  | tick clock =>
    cases h
    exact .tick clock
  | reserve id key =>
    simp only [limiterStep] at h
    split at h
    · cases h
    · next hfree =>
      cases h
      exact .reserve id key hfree
  | act id =>
    simp only [limiterStep] at h
    split at h
    · cases h
    · next call hrunning =>
      obtain ⟨⟨next, bucket⟩, hstep, rfl⟩ := Option.map_eq_some_iff.mp h
      obtain ⟨lim, rfl, hrule⟩ := reserveStep_cases hstep
      exact .act id call.key call.phase next lim hrunning hrule

end PaymentGateway
