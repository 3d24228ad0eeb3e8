/-
# Token buckets

A limiter hands out tokens that come back at a constant rate, up to a burst. It is
the `Limiter` of golang.org/x/time/rate over an ordered field: a bucket that is only
brought up to date when it is used, reservations of tokens that are not there yet,
and cancellations that give back what was not reserved by others in the meantime.

One bucket is *advanced from* another when it is that bucket brought up to a later
instant. The two then hold the same tokens from that instant on. Taking tokens from
both keeps this, and so does a reservation that is canceled before anything else
happens to the bucket.
-/

import Mathlib.Algebra.Order.Field.Basic
import Mathlib.Tactic.Linarith
import Mathlib.Tactic.Ring

namespace PaymentGateway.Lib

/-- A token bucket. `tokens` is what it held at `last`, and `lastEvent` the latest instant at
which a reservation may act. -/
structure Limiter (K : Type) where
  limit : K
  burst : ℕ
  tokens : K
  last : K
  lastEvent : K
  deriving DecidableEq

/-- Tokens that were reserved, and when they may be used. -/
structure Reservation (K : Type) where
  ok : Bool
  tokens : ℕ
  timeToAct : K
  deriving DecidableEq

variable {K : Type} [Field K] [LinearOrder K]

/-- `NewLimiter`. -/
def newLimiter (limit : K) (burst : ℕ) : Limiter K := ⟨limit, burst, burst, 0, 0⟩

namespace Limiter

/-- `advance`: the tokens at an instant. No time passes towards the past. -/
def advance (lim : Limiter K) (t : K) : K :=
  min lim.burst (lim.tokens + lim.limit * (t - min lim.last t))

/-- `reserveN`. A reservation that would have to wait longer than `maxFutureReserve` is refused;
without one, any wait will do. -/
def reserveN (lim : Limiter K) (t : K) (n : ℕ) (maxFutureReserve : Option K) :
    Reservation K × Limiter K :=
  let tokens := lim.advance t - n
  let waitDuration := if tokens < 0 then -tokens / lim.limit else 0
  if n ≤ lim.burst ∧ maxFutureReserve.all (waitDuration ≤ ·) then
    (⟨true, n, t + waitDuration⟩,
      { lim with tokens := tokens, last := t, lastEvent := t + waitDuration })
  else (⟨false, 0, 0⟩, lim)

/-- `AllowN`. -/
def allowN (lim : Limiter K) (t : K) (n : ℕ) : Bool × Limiter K :=
  ((lim.reserveN t n (some 0)).1.ok, (lim.reserveN t n (some 0)).2)

end Limiter

namespace Reservation

/-- `DelayFrom`; no delay is long enough for a reservation that was refused. -/
def delayFrom (r : Reservation K) (t : K) : Option K :=
  if r.ok then some (max 0 (r.timeToAct - t)) else none

/-- `CancelAt`, on the limiter of the reservation. -/
def cancelAt (r : Reservation K) (t : K) (lim : Limiter K) : Limiter K :=
  let restoreTokens := r.tokens - lim.limit * (lim.lastEvent - r.timeToAct)
  let prevEvent := r.timeToAct - r.tokens / lim.limit
  if r.ok = false ∨ r.tokens = 0 ∨ r.timeToAct < t ∨ restoreTokens ≤ 0 then lim
  else
    { lim with
      tokens := min lim.burst (lim.advance t + restoreTokens)
      last := t
      lastEvent :=
        if r.timeToAct = lim.lastEvent ∧ t ≤ prevEvent then prevEvent else lim.lastEvent }

end Reservation

variable {ref lim : Limiter K} {t T : K}

namespace Limiter

theorem advance_le_burst (lim : Limiter K) (t : K) : lim.advance t ≤ lim.burst := min_le_left _ _

theorem advance_of_le (h : lim.last ≤ t) :
    lim.advance t = min (lim.burst : K) (lim.tokens + lim.limit * (t - lim.last)) := by
  rw [advance, min_eq_left h]

@[simp] theorem allowN_limit (lim : Limiter K) (t : K) (n : ℕ) :
    (lim.allowN t n).2.limit = lim.limit := by
  unfold allowN reserveN
  dsimp only
  split_ifs <;> rfl

@[simp] theorem allowN_burst (lim : Limiter K) (t : K) (n : ℕ) :
    (lim.allowN t n).2.burst = lim.burst := by
  unfold allowN reserveN
  dsimp only
  split_ifs <;> rfl

/-- A refusal leaves the bucket as it is. -/
theorem allowN_of_refused {n : ℕ} (h : (lim.allowN t n).1 = false) : (lim.allowN t n).2 = lim := by
  unfold allowN reserveN at *
  dsimp only at *
  split_ifs at h ⊢ <;> rfl

/-- A bucket is another one, brought up to a later instant. -/
structure AdvancedFrom (ref lim : Limiter K) : Prop where
  limit : lim.limit = ref.limit
  burst : lim.burst = ref.burst
  last : ref.last ≤ lim.last
  tokens : lim.tokens = ref.advance lim.last

theorem AdvancedFrom.refl (full : lim.tokens ≤ lim.burst) : AdvancedFrom lim lim where
  limit := rfl
  burst := rfl
  last := le_rfl
  tokens := by rw [advance_of_le le_rfl, sub_self, mul_zero, add_zero, min_eq_right full]

variable [IsStrictOrderedRing K]

/-- A token is there or it is not: what taking one does. -/
theorem allowN_one (lim : Limiter K) (positive : 0 < lim.limit) (roomy : 1 ≤ lim.burst) (t : K) :
    lim.allowN t 1 =
      if 1 ≤ lim.advance t then
        (true, { lim with tokens := lim.advance t - 1, last := t, lastEvent := t })
      else (false, lim) := by
  unfold allowN reserveN
  by_cases htoken : 1 ≤ lim.advance t
  · have hleft : ¬ lim.advance t - 1 < 0 := by linarith
    simp [htoken, hleft, roomy]
  · have hshort : lim.advance t - 1 < 0 := by linarith
    have hwait : ¬ -(lim.advance t - 1) / lim.limit ≤ 0 := by
      rw [not_le]
      exact div_pos (by linarith) positive
    simp only [Nat.cast_one, hshort, if_true, Option.all_some, htoken, if_false, hwait,
      decide_false, Bool.false_eq_true, and_false]

/-- A reservation of one token is always granted. -/
theorem reserveN_one (lim : Limiter K) (positive : 0 < lim.limit) (roomy : 1 ≤ lim.burst) (t : K) :
    ∃ act, t ≤ act ∧ lim.reserveN t 1 none =
      (⟨true, 1, act⟩, { lim with tokens := lim.advance t - 1, last := t, lastEvent := act }) := by
  refine ⟨t + if lim.advance t - 1 < 0 then -(lim.advance t - 1) / lim.limit else 0, ?_, ?_⟩
  swap
  · simp [reserveN, roomy]
  split_ifs with hshort
  · have hwait := div_pos (neg_pos.mpr hshort) positive
    linarith
  · linarith

namespace AdvancedFrom

/-- From the later instant on the two hold the same tokens. -/
theorem advance_eq (h : AdvancedFrom ref lim) (positive : 0 < ref.limit) (later : lim.last ≤ T) :
    lim.advance T = ref.advance T := by
  have hearned : 0 ≤ ref.limit * (T - lim.last) := mul_nonneg positive.le (by linarith)
  have hsplit : ref.limit * (T - ref.last) =
      ref.limit * (lim.last - ref.last) + ref.limit * (T - lim.last) := by ring
  rw [advance_of_le later, advance_of_le (h.last.trans later), h.tokens, advance_of_le h.last,
    h.limit, h.burst, hsplit, min_add, ← min_assoc, add_assoc]
  -- A bucket that was full in between is full in the end.
  rw [min_eq_left (le_add_of_nonneg_right hearned)]

/-- Both have a token to give, or neither has; and having given it they still agree. -/
theorem allowN (h : AdvancedFrom ref lim) (positive : 0 < ref.limit) (roomy : 1 ≤ ref.burst)
    (later : lim.last ≤ t) :
    (lim.allowN t 1).1 = (ref.allowN t 1).1 ∧
      ((lim.allowN t 1).1 = true → AdvancedFrom (ref.allowN t 1).2 (lim.allowN t 1).2) := by
  rw [ref.allowN_one positive roomy, lim.allowN_one (h.limit ▸ positive) (h.burst ▸ roomy),
    h.advance_eq positive later]
  split_ifs
  · refine ⟨rfl, fun _ => ⟨h.limit, h.burst, le_rfl, ?_⟩⟩
    have hfull : ref.advance t - 1 ≤ ref.burst := by linarith [ref.advance_le_burst t]
    rw [advance_of_le le_rfl, sub_self, mul_zero, add_zero, min_eq_right hfull]
  · exact ⟨rfl, nofun⟩

/-- A reservation that is canceled at once only brings the bucket up to date. -/
theorem cancel_reserve (h : AdvancedFrom ref lim) (positive : 0 < ref.limit)
    (roomy : 1 ≤ ref.burst) (later : lim.last ≤ t) :
    AdvancedFrom ref
        ((lim.reserveN t 1 none).1.cancelAt t (lim.reserveN t 1 none).2) ∧
      ((lim.reserveN t 1 none).1.cancelAt t (lim.reserveN t 1 none).2).last = t := by
  obtain ⟨act, hact, hreserve⟩ :=
    lim.reserveN_one (h.limit ▸ positive) (h.burst ▸ roomy) t
  rw [hreserve]
  have hgiven : lim.advance t - 1 ≤ (lim.burst : K) := by linarith [lim.advance_le_burst t]
  have hadvance : ({ lim with tokens := lim.advance t - 1, last := t, lastEvent := act } :
      Limiter K).advance t = lim.advance t - 1 := by
    rw [advance_of_le le_rfl, sub_self, mul_zero, add_zero, min_eq_right hgiven]
  -- Nothing was reserved after it, so the whole token comes back.
  have hcancel : Reservation.cancelAt ⟨true, 1, act⟩ t
      { lim with tokens := lim.advance t - 1, last := t, lastEvent := act } =
        { lim with tokens := lim.advance t, last := t, lastEvent :=
            if t ≤ act - 1 / lim.limit then act - 1 / lim.limit else act } := by
    unfold Reservation.cancelAt
    simp [not_lt.mpr hact, not_le.mpr (zero_lt_one' K), hadvance, lim.advance_le_burst t]
  rw [hcancel]
  exact ⟨⟨h.limit, h.burst, h.last.trans later, h.advance_eq positive later⟩, rfl⟩

end AdvancedFrom

end Limiter

end PaymentGateway.Lib
