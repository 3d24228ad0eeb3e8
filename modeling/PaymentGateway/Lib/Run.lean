/-
# Runs of a guarded machine

A machine steps from a state on an event, where the event is enabled. `Reaches` is
reachability along steps that meet a guard, which is how assumptions about the
environment (a clock that does not go backwards, a deadline) enter a theorem. A
property that holds at the start and is kept by every guarded step holds in every
reachable state.

`execWhere` runs a list of events and checks the guard along the way, so that a
concrete run is found reachable by computing it.
-/

import Mathlib.Data.Nat.Notation
import Mathlib.Tactic.SplitIfs

namespace PaymentGateway.Lib

variable {σ ε : Type} {step : σ → ε → Option σ} {guard guard' : σ → ε → Prop} {start s t : σ}

/-- The states reached from `start` by steps that meet `guard`. -/
inductive Reaches (step : σ → ε → Option σ) (guard : σ → ε → Prop) (start : σ) : σ → Prop
  | refl : Reaches step guard start start
  | tail {s : σ} (e : ε) {s' : σ} (run : Reaches step guard start s) (allowed : guard s e)
      (taken : step s e = some s') : Reaches step guard start s'

namespace Reaches

/-- The invariant rule. The step may use that its state is reachable. -/
theorem invariant {P : σ → Prop} (h : Reaches step guard start s) (initially : P start)
    (preserved : ∀ s e s', Reaches step guard start s → P s → guard s e → step s e = some s' →
      P s') : P s := by
  induction h with
  | refl => exact initially
  | tail e run allowed taken ih => exact preserved _ e _ run ih allowed taken

theorem trans (first : Reaches step guard start s) (second : Reaches step guard s t) :
    Reaches step guard start t := by
  induction second with
  | refl => exact first
  | tail e _ allowed taken ih => exact ih.tail e allowed taken

theorem mono (weaker : ∀ s e, guard s e → guard' s e) (h : Reaches step guard start s) :
    Reaches step guard' start s := by
  induction h with
  | refl => exact .refl
  | tail e _ allowed taken ih => exact ih.tail e (weaker _ e allowed) taken

/-- A run may be cut down to the states that satisfy an invariant. -/
theorem strengthen {P : σ → Prop} (h : Reaches step guard start s) (initially : P start)
    (preserved : ∀ s e s', P s → guard s e → step s e = some s' → P s') :
    Reaches step (fun s e => guard s e ∧ P s) start s ∧ P s := by
  induction h with
  | refl => exact ⟨.refl, initially⟩
  | tail e _ allowed taken ih =>
    obtain ⟨run, holds⟩ := ih
    exact ⟨run.tail e ⟨allowed, holds⟩ taken, preserved _ e _ holds allowed taken⟩

theorem single (e : ε) (allowed : guard s e) (taken : step s e = some t) :
    Reaches step guard s t :=
  Reaches.refl.tail e allowed taken

/-- The progress rule. Where a measure is positive some guarded step lowers it and keeps an
invariant, so a state with measure zero can be reached. -/
theorem exists_of_decreasing {P : σ → Prop} (measure : σ → ℕ)
    (advance : ∀ s, P s → measure s ≠ 0 →
      ∃ e s', guard s e ∧ step s e = some s' ∧ P s' ∧ measure s' < measure s) (h : P s) :
    ∃ t, Reaches step guard s t ∧ P t ∧ measure t = 0 := by
  induction hn : measure s using Nat.strongRecOn generalizing s with
  | _ n ih =>
    subst hn
    by_cases hzero : measure s = 0
    · exact ⟨s, .refl, h, hzero⟩
    · obtain ⟨e, s', allowed, taken, h', hlt⟩ := advance s h hzero
      obtain ⟨t, run, ht⟩ := ih _ hlt h' rfl
      exact ⟨t, (single e allowed taken).trans run, ht⟩

end Reaches

/-- Run a list of events, checking the guard before each of them. -/
def execWhere (step : σ → ε → Option σ) (guard : σ → ε → Bool) : σ → List ε → Option σ
  | s, [] => some s
  | s, e :: rest =>
    if guard s e then
      match step s e with
      | some s' => execWhere step guard s' rest
      | none => none
    else none

theorem reaches_of_execWhere {check : σ → ε → Bool} (sound : ∀ s e, check s e = true → guard s e)
    {events : List ε} (h : execWhere step check s events = some t) : Reaches step guard s t := by
  induction events generalizing s with
  | nil =>
    cases h
    exact .refl
  | cons e rest ih =>
    rw [execWhere] at h
    split_ifs at h with hguard
    cases htaken : step s e with
    | none => simp [htaken] at h
    | some s' =>
      simp only [htaken] at h
      exact (Reaches.single e (sound s e hguard) htaken).trans (ih h)

/-- A run that can be computed reaches a state in which a property can be computed. -/
theorem exists_reaches_of_execWhere {check : σ → ε → Bool}
    (sound : ∀ s e, check s e = true → guard s e) {property : σ → Bool} (events : List ε)
    (h : (execWhere step check start events).any property = true) :
    ∃ t, Reaches step guard start t ∧ property t = true := by
  cases ht : execWhere step check start events with
  | none =>
    rw [ht] at h
    cases h
  | some t =>
    rw [ht] at h
    exact ⟨t, reaches_of_execWhere sound ht, h⟩

/-! ## Runs with their history -/

/-- The machine that also keeps the states it went through and the events it took there, newest
first. -/
def traced (step : σ → ε → Option σ) (run : List (σ × ε) × σ) (e : ε) :
    Option (List (σ × ε) × σ) :=
  (step run.2 e).map fun s' => ((run.2, e) :: run.1, s')

theorem traced_eq_some {trace : List (σ × ε)} {e : ε} {run : List (σ × ε) × σ}
    (h : traced step (trace, s) e = some run) :
    ∃ s', step s e = some s' ∧ run = ((s, e) :: trace, s') := by
  obtain ⟨s', taken, rfl⟩ := Option.map_eq_some_iff.mp h
  exact ⟨s', taken, rfl⟩

/-- Without its history a traced run is a run. -/
theorem Reaches.of_traced {first last : List (σ × ε) × σ}
    {historyGuard : List (σ × ε) × σ → ε → Prop}
    (h : Reaches (traced step) historyGuard first last)
    (weaker : ∀ run e, historyGuard run e → guard run.2 e) :
    Reaches step guard first.2 last.2 := by
  induction h with
  | refl => exact .refl
  | tail e _ allowed taken ih =>
    obtain ⟨s', hstep, rfl⟩ := traced_eq_some taken
    exact ih.tail e (weaker _ e allowed) hstep

end PaymentGateway.Lib
