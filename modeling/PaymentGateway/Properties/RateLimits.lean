/-
# What a rejection costs

A rejected request is meant to cost nothing: it only reserves the next token to learn
when it will be there, and cancels at once. But the two calls are not one. When two
rejected requests reserve one after the other and cancel in the same order, the first
cancellation gives nothing back, since the token after it is still reserved, and the
bucket ends up one token short; the next request is rejected although it should not
be. A call whose reading of the clock is older than the bucket does the opposite: it
sets the bucket back in time, and the time in between is credited twice.

Neither happens while every reservation is canceled before anything else is taken
from its bucket, and the calls reach the bucket in the order of their readings. Then
the bucket is, at any moment without a reservation, the bucket of the admitted calls
alone, brought up to date. Calls under other keys never matter.

The handler is told what such a call returns, so a request that it refuses is told to
wait for a second or more.
-/

import PaymentGateway.Http.Handlers

namespace PaymentGateway

open Lib

variable {config : RateLimitConfig} {s s' : LimiterState} {e : LimiterEvent} {id : ℕ}
  {key : RateLimitKey}

namespace LimiterState

/-- The bucket of a key; one that nobody has asked for yet is full. -/
def bucket (config : RateLimitConfig) (s : LimiterState) (key : RateLimitKey) : Limiter ℚ :=
  (s.buckets key).getD (config.newBucket key.routeClass)

/-- What the clock showed the calls that got a token under a key, newest first. -/
def admittedFor (s : LimiterState) (key : RateLimitKey) : List ℚ :=
  s.admitted.filterMap fun (other, now) => if other = key then some now else none

/-- The bucket that a key would have if the rejected calls had never been made. -/
def undisturbed (config : RateLimitConfig) (s : LimiterState) (key : RateLimitKey) : Limiter ℚ :=
  (s.admittedFor key).foldr (fun now lim => (lim.allowN now 1).2)
    (config.newBucket key.routeClass)

/-- A call under a key holds a reservation. -/
def Reserves (s : LimiterState) (key : RateLimitKey) (id : ℕ) (now : ℚ)
    (reservation : Reservation ℚ) : Prop :=
  s.calls id = some ⟨key, .reserved now reservation⟩

/-- All calls under a key have returned. -/
def Quiet (s : LimiterState) (key : RateLimitKey) : Prop :=
  ∀ id phase, s.calls id = some ⟨key, phase⟩ →
    ∃ allowed retryAfter, phase = .returned allowed retryAfter

/-- From now on the bucket of a key holds what it would hold without the rejected calls. -/
def KeepsCapacity (config : RateLimitConfig) (s : LimiterState) (key : RateLimitKey) : Prop :=
  ∀ t, 0 ≤ t → s.clock ≤ t →
    (s.bucket config key).advance t = (s.undisturbed config key).advance t

end LimiterState

/-- The clock does not go backwards. -/
def ForwardOnly (s : LimiterState) (e : LimiterEvent) : Prop :=
  ∀ clock, e = .tick clock → s.clock ≤ clock

/-- A bucket may be used at an instant: it has not been used at a later one, and no call holds a
reservation. -/
structure Usable (config : RateLimitConfig) (s : LimiterState) (key : RateLimitKey) (now : ℚ) :
    Prop where
  order : (s.bucket config key).last ≤ now
  free : ∀ id at' reservation, ¬ s.Reserves key id at' reservation

/-- A token is taken or reserved only while the bucket may be used. -/
def Serial (config : RateLimitConfig) (s : LimiterState) (e : LimiterEvent) : Prop :=
  ∀ id key now, e = .act id →
    (s.calls id = some ⟨key, .timed now⟩ → ((s.bucket config key).allowN now 1).1 = true →
      Usable config s key now) ∧
    (s.calls id = some ⟨key, .rejected now⟩ → Usable config s key now)

/-! ## Steps -/

/-- Two states agree on what is kept under a key. -/
structure SameFor (key : RateLimitKey) (s s' : LimiterState) : Prop where
  buckets : s'.buckets key = s.buckets key
  calls : ∀ id phase, s'.calls id = some ⟨key, phase⟩ ↔ s.calls id = some ⟨key, phase⟩
  admitted : s'.admittedFor key = s.admittedFor key

theorem SameFor.refl (key : RateLimitKey) (s : LimiterState) : SameFor key s s :=
  ⟨rfl, fun _ _ => Iff.rfl, rfl⟩

/-- What agrees with the state before a step agrees with the one after it, if the step changes
nothing under the key. -/
theorem SameFor.of_unchanged {t : LimiterState} (h : SameFor key s t)
    (unchanged : SameFor key s s') : SameFor key s' t where
  buckets := h.buckets.trans unchanged.buckets.symm
  calls id phase := (h.calls id phase).trans (unchanged.calls id phase).symm
  admitted := h.admitted.trans unchanged.admitted.symm

theorem admits_filterMap_of_ne {other : RateLimitKey} (hne : other ≠ key)
    (phase next : ReservePhase) (rest : List (RateLimitKey × ℚ)) :
    (ReserveCall.admits ⟨other, phase⟩ next ++ rest).filterMap
        (fun (other, now) => if other = key then some now else none) =
      rest.filterMap (fun (other, now) => if other = key then some now else none) := by
  unfold ReserveCall.admits
  split <;> simp [hne]

/-- A call does nothing to what is kept under another key. -/
theorem LimiterRule.sameFor_of_ne {call : ReserveCall}
    (hstep : LimiterRule config s (.act id) s') (running : s.calls id = some call)
    (hne : call.key ≠ key) : SameFor key s s' := by
  cases hstep with
  | act _ other phase next lim running' rule =>
    rw [running', Option.some_inj] at running
    subst running
    refine ⟨Function.update_of_ne hne.symm _ _, ?_,
      admits_filterMap_of_ne hne phase next s.admitted⟩
    intro id' phase'
    rcases eq_or_ne id' id with rfl | hid
    · simp_all
    · simp [Function.update_of_ne hid]

/-- Taking tokens changes neither the rate nor the burst. -/
theorem undisturbed_settings (config : RateLimitConfig) (s : LimiterState) (key : RateLimitKey) :
    (s.undisturbed config key).limit = (config.newBucket key.routeClass).limit ∧
      (s.undisturbed config key).burst = (config.newBucket key.routeClass).burst := by
  unfold LimiterState.undisturbed
  induction s.admittedFor key with
  | nil => exact ⟨rfl, rfl⟩
  | cons now earlier ih => simpa using ih

theorem undisturbed_positive (valid : config.validate = .ok ()) (s : LimiterState)
    (key : RateLimitKey) :
    0 < (s.undisturbed config key).limit ∧ 1 ≤ (s.undisturbed config key).burst := by
  obtain ⟨hlimit, hburst⟩ := undisturbed_settings config s key
  rw [hlimit, hburst]
  exact RateLimitConfig.newBucket_positive valid key.routeClass

/-- What the clock showed a call that has not returned. -/
def ReservePhase.reading : ReservePhase → Option ℚ
  | .timed now => some now
  | .rejected now => some now
  | .reserved now _ => some now
  | _ => none

/-- No call has seen a later time than the clock shows. -/
def ReadingsPast (s : LimiterState) : Prop :=
  ∀ id key phase, s.calls id = some ⟨key, phase⟩ → ∀ now ∈ phase.reading, now ≤ s.clock

theorem ReadingsPast.step (past : ReadingsPast s) (hstep : LimiterRule config s e s')
    (forward : ForwardOnly s e) : ReadingsPast s' := by
  intro id key phase running now hnow
  cases hstep with
  | tick clock => exact (past id key phase running now hnow).trans (forward clock rfl)
  | reserve id' key' free =>
    rcases eq_or_ne id id' with rfl | hne
    · simp only [Function.update_self, Option.some_inj] at running
      cases running
      cases hnow
    · simp only [Function.update_of_ne hne] at running
      exact past id key phase running now hnow
  | act id' key' phase' next lim running' rule =>
    rcases eq_or_ne id id' with rfl | hne
    · simp only [Function.update_self, Option.some_inj] at running
      cases running
      have hpast := past id key phase' running'
      cases rule with
      | reads =>
        cases hnow
        exact le_rfl
      | rejects => exact hpast now hnow
      | reserves => exact hpast now hnow
      | locates | admitted | cancels => cases hnow
    · simp only [Function.update_of_ne hne] at running
      exact past id key phase running now hnow

/-! ## Buckets -/

/-- A bucket without a reservation is the undisturbed one, brought up to date; one with a
reservation is such a bucket right after the reservation was made. -/
inductive BucketInv (config : RateLimitConfig) (s : LimiterState) (key : RateLimitKey) : Prop
  | free (idle : ∀ id now reservation, ¬ s.Reserves key id now reservation)
      (advanced : (s.undisturbed config key).AdvancedFrom (s.bucket config key))
      (past : (s.bucket config key).last ≤ max 0 s.clock)
  | held (id : ℕ) (now : ℚ) (reservation : Reservation ℚ) (lim : Limiter ℚ)
      (holds : s.Reserves key id now reservation)
      (sole : ∀ id' now' reservation', s.Reserves key id' now' reservation' → id' = id)
      (advanced : (s.undisturbed config key).AdvancedFrom lim) (order : lim.last ≤ now)
      (reserved : lim.reserveN now 1 none = (reservation, s.bucket config key))

theorem BucketInv.congr (h : BucketInv config s key)
    (bucket : s'.bucket config key = s.bucket config key)
    (admitted : s'.admittedFor key = s.admittedFor key)
    (reserves : ∀ id now reservation,
      s'.Reserves key id now reservation ↔ s.Reserves key id now reservation)
    (clock : s.clock ≤ s'.clock) : BucketInv config s' key := by
  have hundisturbed : s'.undisturbed config key = s.undisturbed config key := by
    rw [LimiterState.undisturbed, LimiterState.undisturbed, admitted]
  cases h with
  | free idle advanced past =>
    refine .free ?_ ?_ ?_
    · simpa only [reserves] using idle
    · rwa [hundisturbed, bucket]
    · rw [bucket]
      exact past.trans (max_le_max le_rfl clock)
  | held id now reservation lim holds sole advanced order reserved =>
    refine .held id now reservation lim ((reserves _ _ _).mpr holds) ?_ ?_ order ?_
    · simpa only [reserves] using sole
    · rwa [hundisturbed]
    · rw [bucket, reserved]

/-- A call in this phase holds a reservation. -/
def ReservePhase.isReserved : ReservePhase → Bool
  | .reserved _ _ => true
  | _ => false

/-- A call that neither gets nor gives up a reservation changes no reservation. -/
theorem reserves_update_iff {id' : ℕ} {key' : RateLimitKey} {next : ReservePhase}
    (before : ∀ call, s.calls id' = some call → call.phase.isReserved = false)
    (after : next.isReserved = false) (id : ℕ) (now : ℚ) (reservation : Reservation ℚ) :
    Function.update s.calls id' (some ⟨key', next⟩) id = some ⟨key, .reserved now reservation⟩ ↔
      s.calls id = some ⟨key, .reserved now reservation⟩ := by
  rcases eq_or_ne id id' with rfl | hne
  · rw [Function.update_self]
    constructor
    · intro h
      cases h
      cases after
    · intro h
      cases before _ h
  · rw [Function.update_of_ne hne]

/-- A token that is taken from a bucket that may be used is taken from the undisturbed bucket as
well. -/
theorem BucketInv.admitted {now : ℚ} {lim : Limiter ℚ} {admitted : List (RateLimitKey × ℚ)}
    (h : BucketInv config s key) (valid : config.validate = .ok ()) (past : now ≤ s.clock)
    (found : s.buckets key = some lim) (allowed : (lim.allowN now 1).1 = true)
    (usable : Usable config s key now) (running : s.calls id = some ⟨key, .timed now⟩)
    (log : admitted = (key, now) :: s.admitted) :
    BucketInv config
      { s with
        buckets := Function.update s.buckets key (some (lim.allowN now 1).2)
        calls := Function.update s.calls id (some ⟨key, .returned true 0⟩)
        admitted := admitted } key := by
  have hbucket : s.bucket config key = lim := by rw [LimiterState.bucket, found]; rfl
  obtain ⟨hpositive, hroomy⟩ := undisturbed_positive valid s key
  cases h with
  | held id' now' reservation lim' holds => exact absurd holds (usable.free id' now' reservation)
  | free idle advanced _ =>
    rw [hbucket] at advanced
    have horder : lim.last ≤ now := hbucket ▸ usable.order
    have hagree := (advanced.allowN hpositive hroomy horder).2 allowed
    -- The undisturbed bucket admits the call as well, and takes the same token.
    refine .free ?_ ?_ ?_
    · intro id' now' reservation hreserves
      refine idle id' now' reservation ((reserves_update_iff ?_ rfl _ _ _).mp hreserves)
      intro call hcall
      rw [running, Option.some_inj] at hcall
      exact hcall ▸ rfl
    · have hundisturbed : LimiterState.undisturbed config
          { s with
            buckets := Function.update s.buckets key (some (lim.allowN now 1).2)
            calls := Function.update s.calls id (some ⟨key, .returned true 0⟩)
            admitted := admitted } key = ((s.undisturbed config key).allowN now 1).2 := by
        simp [LimiterState.undisturbed, LimiterState.admittedFor, log]
      rw [hundisturbed]
      simpa [LimiterState.bucket] using hagree
    · have hlast : (lim.allowN now 1).2.last = now := by
        rw [lim.allowN_one (advanced.limit ▸ hpositive) (advanced.burst ▸ hroomy)] at allowed ⊢
        split_ifs at allowed ⊢
        rfl
      simpa [LimiterState.bucket, hlast] using Or.inr past

/-- A bucket that may be used is held by the call that reserves a token from it. -/
theorem BucketInv.reserved {now : ℚ} {lim : Limiter ℚ} (h : BucketInv config s key)
    (found : s.bucket config key = lim) (usable : Usable config s key now) :
    BucketInv config
      { s with
        buckets := Function.update s.buckets key (some (lim.reserveN now 1 none).2)
        calls := Function.update s.calls id
          (some ⟨key, .reserved now (lim.reserveN now 1 none).1⟩) } key := by
  cases h with
  | held id' now' reservation lim' holds => exact absurd holds (usable.free id' now' reservation)
  | free idle advanced _ =>
    rw [found] at advanced
    refine .held id now (lim.reserveN now 1 none).1 lim ?_ ?_ advanced (found ▸ usable.order) ?_
    · exact Function.update_self ..
    · intro id' now' reservation' hreserves
      by_contra hne
      exact idle id' now' reservation' ((Function.update_of_ne hne _ _).symm.trans hreserves)
    · simp [LimiterState.bucket]

/-- A bucket is free again after the call that holds it has canceled its reservation. -/
theorem BucketInv.canceled {now : ℚ} {lim : Limiter ℚ} {reservation : Reservation ℚ} {delay : ℤ}
    (h : BucketInv config s key) (valid : config.validate = .ok ()) (past : now ≤ s.clock)
    (found : s.bucket config key = lim)
    (running : s.calls id = some ⟨key, .reserved now reservation⟩) :
    BucketInv config
      { s with
        buckets := Function.update s.buckets key (some (reservation.cancelAt now lim))
        calls := Function.update s.calls id (some ⟨key, .returned false delay⟩) } key := by
  obtain ⟨hpositive, hroomy⟩ := undisturbed_positive valid s key
  cases h with
  | free idle => exact absurd running (idle id now reservation)
  | held id' now' reservation' lim' holds sole advanced order reserved =>
    obtain rfl := sole id now reservation running
    cases running.symm.trans holds
    rw [found] at reserved
    -- Canceling gives back what the reservation took, as nothing happened in between.
    have hcancel := advanced.cancel_reserve hpositive hroomy order
    rw [reserved] at hcancel
    have hafter : (Function.update s.buckets key (some (reservation.cancelAt now lim)) key).getD
        (config.newBucket key.routeClass) = reservation.cancelAt now lim := by
      rw [Function.update_self, Option.getD_some]
    refine .free ?_ ?_ ?_
    · intro id' now' reservation' hreserves
      rcases eq_or_ne id' id with rfl | hne
      · cases (Function.update_self ..).symm.trans hreserves
      · exact hne (sole id' now' reservation'
          ((Function.update_of_ne hne _ _).symm.trans hreserves))
    · rw [LimiterState.bucket, hafter]
      exact hcancel.1
    · rw [LimiterState.bucket, hafter, hcancel.2]
      exact le_max_of_le_right past

/-- A step keeps every bucket in order, as long as buckets are used one reservation at a time and
in the order of the readings. -/
theorem BucketInv.step (h : BucketInv config s key) (valid : config.validate = .ok ())
    (past : ReadingsPast s) (hstep : LimiterRule config s e s') (forward : ForwardOnly s e)
    (serial : Serial config s e) : BucketInv config s' key := by
  cases hstep with
  | tick clock => exact h.congr rfl rfl (fun _ _ _ => Iff.rfl) (forward clock rfl)
  | reserve id key' free =>
    refine h.congr rfl rfl (reserves_update_iff ?_ rfl) le_rfl
    intro call hcall
    rw [free] at hcall
    cases hcall
  | act id key' phase next lim running rule =>
    by_cases hkey : key' = key
    swap
    · -- A step for another key does not touch the bucket.
      have hsame := (LimiterRule.act id key' phase next lim running rule).sameFor_of_ne
        running hkey
      exact h.congr (by rw [LimiterState.bucket, LimiterState.bucket, hsame.buckets])
        hsame.admitted (fun id' now r => hsame.calls id' (.reserved now r)) le_rfl
    subst hkey
    -- A call that holds no reservation before the step is the only one whose phase changes.
    have hbefore : phase.isReserved = false →
        ∀ call, s.calls id = some call → call.phase.isReserved = false := by
      intro hphase call hcall
      rw [running, Option.some_inj] at hcall
      exact hcall ▸ hphase
    have hbucket : ∀ lim, s.buckets key' = some lim → s.bucket config key' = lim := by
      intro lim found
      rw [LimiterState.bucket, found]
      rfl
    cases rule with
    | locates =>
      exact h.congr (by simp [LimiterState.bucket]) rfl (reserves_update_iff (hbefore rfl) rfl)
        le_rfl
    | reads lim found =>
      exact h.congr (by simp [LimiterState.bucket, found]) rfl
        (reserves_update_iff (hbefore rfl) rfl) le_rfl
    | admitted now lim found allowed =>
      exact h.admitted valid (past id key' _ running now rfl) found allowed
        ((serial id key' now rfl).1 running ((hbucket lim found).symm ▸ allowed)) running rfl
    | rejects now lim found refused =>
      exact h.congr (by simp [LimiterState.bucket, found, Limiter.allowN_of_refused refused]) rfl
        (reserves_update_iff (hbefore rfl) rfl) le_rfl
    | reserves now lim found =>
      exact h.reserved (hbucket lim found) ((serial id key' now rfl).2 running)
    | cancels now reservation lim found =>
      exact h.canceled valid (past id key' _ running now rfl) (hbucket lim found) running

theorem bucketInv_initial (config : RateLimitConfig) (clock : ℚ) (key : RateLimitKey) :
    BucketInv config (.initial clock) key := by
  refine .free (fun _ _ _ h => by cases h) (.refl le_rfl) ?_
  exact le_max_left 0 clock

/-! ## Other keys -/

/-- An event of a call under a key, or of the clock. -/
def Concerns (key : RateLimitKey) (s : LimiterState) : LimiterEvent → Prop
  | .tick _ => True
  | .reserve _ other => other = key
  | .act id => ∃ phase, s.calls id = some ⟨key, phase⟩

/-- A state and one that is reached by the calls under a key alone: they show the same time and
agree on what is kept under the key, and the second one has no other calls. -/
structure Restricts (key : RateLimitKey) (s t : LimiterState) : Prop where
  clock : t.clock = s.clock
  same : SameFor key s t
  alone : ∀ id call, t.calls id = some call → call.key = key

theorem Restricts.calls_eq_none {t : LimiterState} (h : Restricts key s t)
    (free : s.calls id = none) : t.calls id = none := by
  by_contra hcall
  obtain ⟨⟨other, phase⟩, hcall⟩ := Option.ne_none_iff_exists'.mp hcall
  obtain rfl := h.alone id _ hcall
  exact absurd (free.symm.trans ((h.same.calls id phase).mp hcall)) nofun

/-- A call that is entered or moves on under the key does so in both states alike. -/
theorem Restricts.update {t : LimiterState} (h : Restricts key s t) (phase : ReservePhase)
    (bucket bucket' : RateLimitKey → Option (Limiter ℚ)) (news : List (RateLimitKey × ℚ))
    (buckets : bucket' key = bucket key) :
    Restricts key
      { s with
        buckets := bucket
        calls := Function.update s.calls id (some ⟨key, phase⟩)
        admitted := news ++ s.admitted }
      { t with
        buckets := bucket'
        calls := Function.update t.calls id (some ⟨key, phase⟩)
        admitted := news ++ t.admitted } where
  clock := h.clock
  same := by
    refine ⟨buckets, ?_, ?_⟩
    · intro id' phase'
      rcases eq_or_ne id' id with rfl | hne
      · simp
      · simpa [Function.update_of_ne hne] using h.same.calls id' phase'
    · have hadmitted := h.same.admitted
      simp only [LimiterState.admittedFor] at hadmitted ⊢
      rw [List.filterMap_append, List.filterMap_append, hadmitted]
  alone := by
    intro id' call hcall
    rcases eq_or_ne id' id with rfl | hne
    · simp only [Function.update_self, Option.some_inj] at hcall
      exact hcall ▸ rfl
    · simp only [Function.update_of_ne hne] at hcall
      exact h.alone id' call hcall

/-- The part of a run that concerns a key goes through without the other calls: a step either
changes nothing under the key, or it can be taken there as well. -/
theorem Restricts.step {t : LimiterState} (h : Restricts key s t)
    (taken : limiterStep config s e = some s') :
    Restricts key s' t ∨
      Concerns key t e ∧ ∃ t', limiterStep config t e = some t' ∧ Restricts key s' t' := by
  cases e with
  | tick clock =>
    cases taken
    exact .inr ⟨trivial, _, rfl, rfl, ⟨h.same.buckets, h.same.calls, h.same.admitted⟩, h.alone⟩
  | reserve id other =>
    cases limiterStep_cases taken with
    | reserve _ _ free =>
      -- A call for another key is left out of the restricted run.
      have hfree := h.calls_eq_none free
      by_cases hkey : other = key
      · subst hkey
        refine .inr ⟨rfl, _, ?_, h.update .entered s.buckets t.buckets [] h.same.buckets⟩
        simp only [limiterStep, hfree, List.nil_append]
      · refine .inl ⟨h.clock, h.same.of_unchanged ⟨rfl, ?_, rfl⟩, h.alone⟩
        intro id' phase
        rcases eq_or_ne id' id with rfl | hne
        · simp [free, hkey]
        · simp [Function.update_of_ne hne]
  | act id =>
    cases hcall : s.calls id with
    | none => simp [limiterStep, hcall] at taken
    | some call =>
      by_cases hkey : call.key = key
      · subst hkey
        -- The restricted run has the same call and the same bucket, so it can take the step.
        have hcall' : t.calls id = some call := (h.same.calls id call.phase).mpr hcall
        simp only [limiterStep, hcall] at taken
        obtain ⟨⟨next, bucket⟩, hstep, rfl⟩ := Option.map_eq_some_iff.mp taken
        refine .inr ⟨⟨call.phase, hcall'⟩, _, ?_,
          h.update next _ (Function.update t.buckets call.key bucket) _ ?_⟩
        · simp only [limiterStep, hcall', h.clock, h.same.buckets, hstep, Option.map_some]
        · rw [Function.update_self, Function.update_self]
      · have hsame := (limiterStep_cases taken).sameFor_of_ne hcall hkey
        refine .inl ⟨?_, h.same.of_unchanged hsame, h.alone⟩
        cases limiterStep_cases taken
        exact h.clock

/-- Every run has a run of the calls under a key alone that ends alike. -/
theorem exists_restricted {clock : ℚ}
    (reached : Reaches (limiterStep config) ForwardOnly (.initial clock) s) (key : RateLimitKey) :
    ∃ t, Reaches (limiterStep config) (fun s e => ForwardOnly s e ∧ Concerns key s e)
      (.initial clock) t ∧ Restricts key s t := by
  induction reached with
  | refl => exact ⟨_, .refl, rfl, .refl key _, nofun⟩
  | tail e _ forward taken ih =>
    obtain ⟨t, reached', hrestricts⟩ := ih
    rcases hrestricts.step taken with hstays | ⟨hconcerns, t', taken', hrestricts'⟩
    · exact ⟨t, reached', hstays⟩
    · refine ⟨t', reached'.tail e ⟨?_, hconcerns⟩ taken', hrestricts'⟩
      intro clock hclock
      exact hrestricts.clock ▸ forward clock hclock

/-! ## Computed runs -/

/-- The call has returned. -/
def ReservePhase.isReturned : ReservePhase → Bool
  | .returned _ _ => true
  | _ => false

/-- All calls have numbers below a bound. -/
def CallsBelow (bound : ℕ) (s : LimiterState) : Prop :=
  ∀ id call, s.calls id = some call → id < bound

/-- The clock does not go backwards, and calls have numbers below a bound. -/
def LimiterEvent.below (bound : ℕ) (s : LimiterState) : LimiterEvent → Bool
  | .tick clock => s.clock ≤ clock
  | .reserve id _ => id < bound
  | .act _ => true

theorem LimiterEvent.forwardOnly_of_below {bound : ℕ} (h : e.below bound s = true) :
    ForwardOnly s e := by
  rintro clock rfl
  exact of_decide_eq_true h

theorem CallsBelow.step {bound : ℕ} (h : CallsBelow bound s) (below : e.below bound s = true)
    (hstep : LimiterRule config s e s') : CallsBelow bound s' := by
  intro id call hcall
  cases hstep with
  | tick => exact h id call hcall
  | reserve id' =>
    rcases eq_or_ne id id' with rfl | hne
    · exact of_decide_eq_true below
    · exact h id call ((Function.update_of_ne hne _ _).symm.trans hcall)
  | act id' _ _ _ _ running =>
    rcases eq_or_ne id id' with rfl | hne
    · exact h id _ running
    · exact h id call ((Function.update_of_ne hne _ _).symm.trans hcall)

/-- The calls below a bound are in phases of a kind. -/
def LimiterState.phasesBelow (s : LimiterState) (bound : ℕ) (kind : ReservePhase → Bool) : Bool :=
  (List.range bound).all fun id => (s.calls id).all fun call => kind call.phase

theorem CallsBelow.kind {bound : ℕ} {kind : ReservePhase → Bool} {call : ReserveCall}
    (h : CallsBelow bound s) (all : s.phasesBelow bound kind = true)
    (hcall : s.calls id = some call) : kind call.phase = true := by
  have hkind := List.all_eq_true.mp all id (List.mem_range.mpr (h id call hcall))
  rwa [hcall] at hkind

theorem CallsBelow.quiet {bound : ℕ} (h : CallsBelow bound s)
    (all : s.phasesBelow bound ReservePhase.isReturned = true) (key : RateLimitKey) :
    s.Quiet key := by
  intro id phase hcall
  have hreturned := h.kind all hcall
  cases phase with
  | returned allowed retryAfter => exact ⟨allowed, retryAfter, rfl⟩
  | entered | located | timed | rejected | reserved => cases hreturned

/-- A check for `Serial` among the calls below a bound. -/
def LimiterEvent.serialBelow (config : RateLimitConfig) (bound : ℕ) (s : LimiterState) :
    LimiterEvent → Bool
  | .act id =>
    match s.calls id with
    | some ⟨key, phase⟩ =>
      phase.reading.all fun now =>
        phase.isReserved || decide ((s.bucket config key).last ≤ now) &&
          s.phasesBelow bound fun phase => !phase.isReserved
    | none => true
  | _ => true

theorem LimiterEvent.serial_of_serialBelow {bound : ℕ} (below : CallsBelow bound s)
    (h : e.serialBelow config bound s = true) : Serial config s e := by
  rintro id key now rfl
  have husable : ∀ phase, s.calls id = some ⟨key, phase⟩ → phase.reading = some now →
      phase.isReserved = false → Usable config s key now := by
    intro phase hcall hreading hfree
    simp only [LimiterEvent.serialBelow, hcall, hreading, hfree, Option.all_some, Bool.false_or,
      Bool.and_eq_true, decide_eq_true_eq] at h
    refine ⟨h.1, ?_⟩
    intro id' at' reservation hreserves
    cases below.kind h.2 hreserves
  exact ⟨fun hcall _ => husable _ hcall rfl rfl, fun hcall => husable _ hcall rfl rfl⟩

/-- One request a second, and no burst. -/
def Sample.rates : RateLimitConfig := ⟨1, 1, 1, 1⟩

def Sample.writes : RateLimitKey := ⟨ascii "merchant-1", .write⟩

/-- A call that goes through a number of steps. -/
def Sample.reserve (id steps : ℕ) : List LimiterEvent :=
  .reserve id Sample.writes :: List.replicate steps (.act id)

/-! ## The result -/

/-- With readings in order and one reservation at a time, rejections cost nothing: once all calls
under a key have returned, its bucket holds what the admitted calls alone have left. And however
calls interleave, those under other keys change nothing about it. -/
theorem rejection_keeps_capacity (config : RateLimitConfig) (valid : config.validate = .ok ())
    (clock : ℚ) :
    (∀ s, Reaches (limiterStep config) (fun s e => ForwardOnly s e ∧ Serial config s e)
        (.initial clock) s →
      ∀ key, s.Quiet key → s.KeepsCapacity config key) ∧
    (∀ s, Reaches (limiterStep config) ForwardOnly (.initial clock) s →
      ∀ key, ∃ t, Reaches (limiterStep config) (fun s e => ForwardOnly s e ∧ Concerns key s e)
        (.initial clock) t ∧ Restricts key s t) := by
  refine ⟨?_, fun s reached key => exists_restricted reached key⟩
  intro s reached key quiet
  have hinv : ReadingsPast s ∧ ∀ key, BucketInv config s key := by
    refine reached.invariant (P := fun s => ReadingsPast s ∧ ∀ key, BucketInv config s key)
      ⟨nofun, bucketInv_initial config clock⟩ ?_
    rintro s e s' _ ⟨hpast, hbuckets⟩ ⟨hforward, hserial⟩ taken
    have hstep := limiterStep_cases taken
    exact ⟨hpast.step hstep hforward, fun key =>
      (hbuckets key).step valid hpast hstep hforward hserial⟩
  cases hinv.2 key with
  | held id now reservation lim holds =>
    -- A call that holds a reservation has not returned.
    obtain ⟨allowed, retryAfter, hreturned⟩ := quiet id _ holds
    cases hreturned
  | free idle advanced past =>
    intro t hnonneg hclock
    exact advanced.advance_eq (undisturbed_positive valid s key).1
      (past.trans (max_le hnonneg hclock))

/-- The second of two requests in the same second is rejected, and costs nothing. -/
theorem rejection_keeps_capacity_of_second_request :
    ∃ s, Reaches (limiterStep Sample.rates)
        (fun s e => ForwardOnly s e ∧ Serial Sample.rates s e) (.initial 10) s ∧
      s.calls 1 = some ⟨Sample.writes, .returned false 1⟩ ∧
      s.admittedFor Sample.writes = [10] ∧ s.Quiet Sample.writes ∧
      s.KeepsCapacity Sample.rates Sample.writes := by
  obtain ⟨s, hs, hproperty⟩ := exists_reaches_of_execWhere (fun _ _ h => Bool.and_eq_true_iff.mp h)
    (Sample.reserve 0 3 ++ Sample.reserve 1 5)
    (show (execWhere (limiterStep Sample.rates)
      (fun s e => e.below 2 s && e.serialBelow Sample.rates 2 s) (.initial 10) _).any
      (fun s => decide (s.calls 1 = some ⟨Sample.writes, .returned false 1⟩) &&
        decide (s.admittedFor Sample.writes = [10]) &&
        s.phasesBelow 2 ReservePhase.isReturned) = true by decide +kernel)
  simp only [Bool.and_eq_true, decide_eq_true_eq] at hproperty
  obtain ⟨⟨hcall, hadmitted⟩, hreturned⟩ := hproperty
  obtain ⟨hrun, hbelow⟩ := hs.strengthen (P := CallsBelow 2) nofun
    fun _ _ _ hbelow hguard taken => hbelow.step hguard.1 (limiterStep_cases taken)
  have hserial : Reaches (limiterStep Sample.rates)
      (fun s e => ForwardOnly s e ∧ Serial Sample.rates s e) (.initial 10) s := by
    refine hrun.mono ?_
    rintro s e ⟨⟨hevent, hcheck⟩, hbelow⟩
    exact ⟨LimiterEvent.forwardOnly_of_below hevent,
      LimiterEvent.serial_of_serialBelow hbelow hcheck⟩
  have hquiet := hbelow.quiet hreturned Sample.writes
  exact ⟨s, hserial, hcall, hadmitted, hquiet,
    (rejection_keeps_capacity Sample.rates rfl 10).1 s hserial Sample.writes hquiet⟩

/-- Two rejected requests reserve one after the other and cancel in the same order. All requests
have returned, and the bucket is one token short: a second later it refuses the request that it
would admit had the two never been made. -/
theorem rejections_cost_a_token :
    ∃ s, Reaches (limiterStep Sample.rates) ForwardOnly (.initial 10) s ∧
      (∀ key, s.Quiet key) ∧ s.clock = 10 ∧ s.admittedFor Sample.writes = [10] ∧
      (s.bucket Sample.rates Sample.writes).advance 10 = -1 ∧
      (s.undisturbed Sample.rates Sample.writes).advance 10 = 0 ∧
      ((s.bucket Sample.rates Sample.writes).allowN 11 1).1 = false ∧
      ((s.undisturbed Sample.rates Sample.writes).allowN 11 1).1 = true ∧
      ¬ s.KeepsCapacity Sample.rates Sample.writes := by
  obtain ⟨s, hs, hproperty⟩ := exists_reaches_of_execWhere (fun _ _ h => h)
    (Sample.reserve 0 3 ++ Sample.reserve 1 4 ++ Sample.reserve 2 4 ++ [.act 1, .act 2])
    (show (execWhere (limiterStep Sample.rates) (fun s e => e.below 3 s) (.initial 10) _).any
      (fun s => decide (s.clock = 10) && decide (s.admittedFor Sample.writes = [10]) &&
        decide ((s.bucket Sample.rates Sample.writes).advance 10 = -1) &&
        decide ((s.undisturbed Sample.rates Sample.writes).advance 10 = 0) &&
        !((s.bucket Sample.rates Sample.writes).allowN 11 1).1 &&
        ((s.undisturbed Sample.rates Sample.writes).allowN 11 1).1 &&
        s.phasesBelow 3 ReservePhase.isReturned) = true by decide +kernel)
  simp only [Bool.and_eq_true, decide_eq_true_eq, Bool.not_eq_true'] at hproperty
  obtain ⟨⟨⟨⟨⟨⟨hclock, hadmitted⟩, hbucket⟩, hundisturbed⟩, hrefused⟩, hallowed⟩, hreturned⟩ :=
    hproperty
  obtain ⟨-, hbelow⟩ := hs.strengthen (P := CallsBelow 3) nofun
    fun _ _ _ hbelow hguard taken => hbelow.step hguard (limiterStep_cases taken)
  refine ⟨s, hs.mono fun _ _ h => LimiterEvent.forwardOnly_of_below h, hbelow.quiet hreturned,
    hclock, hadmitted, hbucket, hundisturbed, hrefused, hallowed, ?_⟩
  intro hkeeps
  have hsame := hkeeps 10 (by norm_num) hclock.le
  rw [hbucket, hundisturbed] at hsame
  norm_num at hsame

/-! ## What requests are told -/

/-- What the handler is told is what calls of `Reserve` return in runs of the rate limiter. -/
def Platform.Limits (platform : Platform) (config : RateLimitConfig) : Prop :=
  ∀ principalID routeClass, ∃ clock s id,
    Reaches (limiterStep config) ForwardOnly (.initial clock) s ∧
    s.calls id = some ⟨⟨principalID, routeClass⟩, .returned
      (platform.reserve principalID routeClass).1 (platform.reserve principalID routeClass).2⟩

/-- A step of a call leaves its next phase and its bucket. -/
theorem exists_limiterStep (config : RateLimitConfig) {call : ReserveCall} (next : ReservePhase)
    (lim : Limiter ℚ) (running : s.calls id = some call)
    (hstep : reserveStep config s.clock call (s.buckets call.key) = some (next, some lim)) :
    ∃ s', Reaches (limiterStep config) ForwardOnly s s' ∧ s'.clock = s.clock ∧
      s'.buckets call.key = some lim ∧ s'.calls id = some ⟨call.key, next⟩ := by
  let s' : LimiterState :=
    { s with
      buckets := Function.update s.buckets call.key (some lim)
      calls := Function.update s.calls id (some ⟨call.key, next⟩)
      admitted := call.admits next ++ s.admitted }
  have taken : limiterStep config s (.act id) = some s' := by
    simp only [limiterStep, running, hstep, Option.map_some, s']
  have run : Reaches (limiterStep config) ForwardOnly s s' :=
    .single _ (fun _ he => by cases he) taken
  exact ⟨s', run, rfl, Function.update_self .., Function.update_self ..⟩

/-- The next call of a rate limiter goes through, and returns what it is taken to return. -/
theorem exists_reserved (config : RateLimitConfig) (key : RateLimitKey) (free : s.calls id = none) :
    ∃ s', Reaches (limiterStep config) ForwardOnly s s' ∧
      s'.calls id = some ⟨key, .returned (s.reserve config key).1 (s.reserve config key).2⟩ := by
  let lim := (s.buckets key).getD (config.newBucket key.routeClass)
  let entered : LimiterState :=
    { s with calls := Function.update s.calls id (some ⟨key, .entered⟩) }
  have henter : limiterStep config s (.reserve id key) = some entered := by
    simp only [limiterStep, free, entered]
  -- The bucket is looked up and the clock is read.
  obtain ⟨s₁, run₁, hclock₁, hbucket₁, hcall₁⟩ := exists_limiterStep (s := entered) config
    .located lim (Function.update_self ..)
    (by cases hbucket : s.buckets key <;> simp [reserveStep, lim, hbucket])
  obtain ⟨s₂, run₂, hclock₂, hbucket₂, hcall₂⟩ := exists_limiterStep config
    (.timed s₁.clock) lim hcall₁ (by simp [reserveStep, hbucket₁])
  have hclock : s₁.clock = s.clock := hclock₁
  have reached := (Reaches.single _ (fun _ he => by cases he) henter).trans (run₁.trans run₂)
  rw [hclock] at hcall₂
  cases hallowed : (lim.allowN s.clock 1).1 with
  | true =>
    obtain ⟨s₃, run₃, -, -, hcall₃⟩ := exists_limiterStep config
      (.returned true 0) (lim.allowN s.clock 1).2 hcall₂
      (by simp [reserveStep, hbucket₂, hallowed])
    refine ⟨s₃, reached.trans run₃, ?_⟩
    simpa [LimiterState.reserve, lim, hallowed] using hcall₃
  | false =>
    let rest := (lim.allowN s.clock 1).2
    obtain ⟨s₃, run₃, -, hbucket₃, hcall₃⟩ := exists_limiterStep config
      (.rejected s.clock) rest hcall₂
      (by simp [reserveStep, hbucket₂, hallowed, rest])
    -- The next token is reserved and given back.
    let reserved := rest.reserveN s.clock 1 none
    obtain ⟨s₄, run₄, -, hbucket₄, hcall₄⟩ := exists_limiterStep config
      (.reserved s.clock reserved.1) reserved.2 hcall₃
      (by simp [reserveStep, hbucket₃, reserved])
    obtain ⟨s₅, run₅, -, -, hcall₅⟩ := exists_limiterStep config
      (.returned false (retryAfter reserved.1 s.clock)) (reserved.1.cancelAt s.clock reserved.2)
      hcall₄ (by simp [reserveStep, hbucket₄])
    refine ⟨s₅, reached.trans (run₃.trans (run₄.trans run₅)), ?_⟩
    simpa [LimiterState.reserve, lim, rest, reserved, hallowed] using hcall₅

theorem Platform.limits_limitedBy (platform : Platform) {clock : ℚ}
    (reached : Reaches (limiterStep config) ForwardOnly (.initial clock) s)
    (free : s.calls id = none) : (platform.limitedBy config s).Limits config := by
  intro principalID routeClass
  obtain ⟨s', run, returned⟩ := exists_reserved config ⟨principalID, routeClass⟩ free
  exact ⟨clock, s', id, reached.trans run, returned⟩

/-- An answer is that a call is admitted, without a delay, or that it is to wait for a second or
more. -/
def ReservePhase.Told : ReservePhase → Prop
  | .returned allowed wait => allowed = true ∧ wait = 0 ∨ allowed = false ∧ 1 ≤ wait
  | _ => True

theorem told_of_reaches {clock : ℚ} {guard : LimiterState → LimiterEvent → Prop}
    {phase : ReservePhase} (reached : Reaches (limiterStep config) guard (.initial clock) s)
    (h : s.calls id = some ⟨key, phase⟩) : phase.Told := by
  have hall : ∀ id key phase, s.calls id = some ⟨key, phase⟩ → phase.Told := by
    refine reached.invariant (P := fun s => ∀ id key phase, s.calls id = some ⟨key, phase⟩ →
      phase.Told) nofun fun s e s' _ told _ taken => ?_
    intro id key phase hcall
    cases limiterStep_cases taken with
    | tick => exact told id key phase hcall
    | reserve id' key' free =>
      by_cases hid : id = id'
      · subst hid
        cases (Function.update_self ..).symm.trans hcall
        trivial
      · exact told id key phase ((Function.update_of_ne hid ..).symm.trans hcall)
    | act id' key' before next lim running rule =>
      by_cases hid : id = id'
      · subst hid
        cases (Function.update_self ..).symm.trans hcall
        cases rule with
        | admitted => exact .inl ⟨rfl, rfl⟩
        | cancels => exact .inr ⟨rfl, le_max_left ..⟩
        | locates | reads | rejects | reserves => trivial
      · exact told id key phase ((Function.update_of_ne hid ..).symm.trans hcall)
  exact hall id key phase h

/-- `limitRate` lets a request pass, or refuses it with a delay of a second or more. -/
theorem limitRate_cases {platform : Platform} (limits : platform.Limits config)
    (routeClass : RouteClass) (principal : Principal) :
    Handler.limitRate platform routeClass principal = .ok () ∨
    ∃ wait, 1 ≤ wait ∧ Handler.limitRate platform routeClass principal =
      .error (writeError 429 (ascii "rate_limited") (ascii "rate limit exceeded")
        [(ascii "Retry-After", formatInt wait)]) := by
  obtain ⟨clock, s, id, reached, returned⟩ := limits principal.id routeClass
  unfold Handler.limitRate
  rcases told_of_reaches reached returned with ⟨hallowed, -⟩ | ⟨hrefused, hwait⟩
  · exact .inl (rejectIf_of_not _ (not_not.mpr hallowed))
  · exact .inr ⟨_, hwait, rejectIf_of _ (by simp [hrefused])⟩

end PaymentGateway
