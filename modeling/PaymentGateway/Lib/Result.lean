/-
# Results of fallible code

Code that checks a condition, returns early with an error and otherwise goes on
is a chain of binds in `Except`. A chain succeeds exactly when every link does,
so each such computation unfolds into the conjunction of the checks it passed.

A transaction is such a chain over a state. It runs on a snapshot and is rolled
back when it fails, so a failed transaction returns the state it started from.
-/

import Mathlib.Logic.Basic

namespace PaymentGateway.Lib

section Checks

variable {ε ε' α β : Type}

/-- Return early with `err` where `bad` holds. -/
def rejectIf (bad : Prop) [Decidable bad] (err : ε) : Except ε Unit :=
  if bad then throw err else pure ()

@[simp] theorem rejectIf_eq_ok {bad : Prop} [Decidable bad] {err : ε} {u : Unit} :
    rejectIf bad err = .ok u ↔ ¬ bad := by
  by_cases h : bad <;> simp [rejectIf, h, pure, Except.pure]

theorem rejectIf_of_not {bad : Prop} [Decidable bad] (err : ε) (h : ¬ bad) :
    rejectIf bad err = .ok () :=
  rejectIf_eq_ok.mpr h

theorem rejectIf_of {bad : Prop} [Decidable bad] (err : ε) (h : bad) :
    rejectIf bad err = .error err := if_pos h

@[simp] theorem bind_eq_ok {x : Except ε α} {f : α → Except ε β} {b : β} :
    (x >>= f) = .ok b ↔ ∃ a, x = .ok a ∧ f a = .ok b := by
  cases x <;> simp [bind, Except.bind]

/-- A check in front of a computation contributes the condition under which it
passes. -/
@[simp high] theorem check_bind_eq_ok {x : Except ε Unit} {f : Unit → Except ε β} {b : β} :
    (x >>= f) = .ok b ↔ x = .ok () ∧ f () = .ok b := by
  rw [bind_eq_ok]
  exact ⟨fun ⟨_, hx, hf⟩ => ⟨hx, hf⟩, fun ⟨hx, hf⟩ => ⟨(), hx, hf⟩⟩

/-- A chain fails where one of its links does. -/
theorem bind_eq_error {x : Except ε α} {f : α → Except ε β} {e : ε} :
    (x >>= f) = .error e ↔ x = .error e ∨ ∃ a, x = .ok a ∧ f a = .error e := by
  cases x <;> simp [bind, Except.bind]

theorem rejectIf_eq_error {bad : Prop} [Decidable bad] {err e : ε} :
    rejectIf bad err = .error e ↔ bad ∧ err = e := by
  by_cases h : bad
  · rw [rejectIf_of err h, Except.error.injEq, and_iff_right h]
  · rw [rejectIf_of_not err h]
    exact ⟨nofun, fun hbad => absurd hbad.1 h⟩

@[simp] theorem ok_bind (a : α) (f : α → Except ε β) : (Except.ok a >>= f) = f a := rfl

@[simp] theorem error_bind (e : ε) (f : α → Except ε β) :
    ((Except.error e : Except ε α) >>= f) = .error e := rfl

@[simp] theorem map_eq_ok {x : Except ε α} {f : α → β} {b : β} :
    f <$> x = .ok b ↔ ∃ a, x = .ok a ∧ f a = b := by
  cases x <;> simp [Functor.map, Except.map]

theorem map_eq_error {x : Except ε α} {f : α → β} {e : ε} :
    f <$> x = .error e ↔ x = .error e := by
  cases x <;> simp [Functor.map, Except.map]

theorem map_bind (x : Except ε α) (f : α → Except ε β) {γ : Type} (g : β → γ) :
    (x >>= f).map g = x >>= fun a => (f a).map g := by
  cases x <;> rfl

@[simp] theorem map_pure (a : α) (f : α → β) : (pure a : Except ε α).map f = pure (f a) := rfl

@[simp] theorem pure_eq_ok_iff {a b : α} : (pure a : Except ε α) = .ok b ↔ a = b := by
  simp [pure, Except.pure]

@[simp] theorem throw_ne_ok {e : ε} {b : α} : (throw e : Except ε α) ≠ .ok b := by
  simp

@[simp] theorem mapError_eq_ok {x : Except ε α} {f : ε → ε'} {a : α} :
    x.mapError f = .ok a ↔ x = .ok a := by
  cases x with
  | error err =>
    constructor <;> intro h <;> cases h
  | ok value =>
    change (Except.ok value : Except ε' α) = .ok a ↔ _
    rw [Except.ok.injEq, Except.ok.injEq]

theorem mapError_eq_error {x : Except ε α} {f : ε → ε'} {e : ε'} :
    x.mapError f = .error e ↔ ∃ err, x = .error err ∧ f err = e := by
  cases x with
  | error err =>
    constructor
    · intro h
      exact ⟨err, rfl, Except.error.inj h⟩
    · rintro ⟨_, heq, rfl⟩
      cases heq
      rfl
  | ok value =>
    constructor
    · intro h
      cases h
    · rintro ⟨_, h, _⟩
      cases h

@[simp] theorem mapError_ok (f : ε → ε') (a : α) :
    (Except.ok a : Except ε α).mapError f = .ok a := rfl

@[simp] theorem mapError_error (f : ε → ε') (e : ε) :
    (Except.error e : Except ε α).mapError f = .error (f e) := rfl

/-- What a list of computations returns comes from its elements. -/
theorem mem_of_mapM_eq_ok {f : α → Except ε β} {xs : List α} {ys : List β} {y : β}
    (h : xs.mapM f = .ok ys) (hy : y ∈ ys) : ∃ x ∈ xs, f x = .ok y := by
  induction xs generalizing ys with
  | nil =>
    rw [List.mapM_nil] at h
    obtain rfl := pure_eq_ok_iff.mp h
    cases hy
  | cons x xs ih =>
    rw [List.mapM_cons] at h
    obtain ⟨b, hb, hrest⟩ := bind_eq_ok.mp h
    obtain ⟨bs, hbs, hys⟩ := bind_eq_ok.mp hrest
    obtain rfl := pure_eq_ok_iff.mp hys
    rcases List.mem_cons.mp hy with rfl | hy
    · exact ⟨x, List.mem_cons_self, hb⟩
    · obtain ⟨x', hx', hfx⟩ := ih hbs hy
      exact ⟨x', List.mem_cons_of_mem x hx', hfx⟩

/-- Run checks in order, up to the first that fails. -/
def runChecks : List (Except ε Unit) → Except ε Unit
  | [] => .ok ()
  | check :: rest => do
    check
    runChecks rest

theorem runChecks_eq_ok {checks : List (Except ε Unit)} :
    runChecks checks = .ok () ↔ ∀ check ∈ checks, check = .ok () := by
  induction checks with
  | nil => simp [runChecks]
  | cons check rest ih => rw [runChecks, check_bind_eq_ok, ih, List.forall_mem_cons]

end Checks

section Transactions

variable {ε σ α : Type}

/-- Run a transaction from the state it sees: its body returns a value and the
changed state, and a body that fails is rolled back. -/
def transact (state : σ) (body : Except ε (α × σ)) : Except ε α × σ :=
  match body with
  | .ok (value, state') => (.ok value, state')
  | .error err => (.error err, state)

theorem transact_eq_ok {state state' : σ} {body : Except ε (α × σ)} {value : α} :
    transact state body = (.ok value, state') ↔ body = .ok (value, state') := by
  cases body <;> simp [transact, Prod.ext_iff]

/-- A failed transaction leaves no trace. -/
theorem transact_eq_error {state state' : σ} {body : Except ε (α × σ)} {err : ε} :
    transact state body = (.error err, state') ↔ body = .error err ∧ state' = state := by
  cases body with
  | ok result => simp [transact, Prod.ext_iff]
  | error err' =>
    simp only [transact, Prod.mk.injEq, Except.error.injEq]
    exact ⟨fun h => ⟨h.1, h.2.symm⟩, fun h => ⟨h.1, h.2.symm⟩⟩

end Transactions

end PaymentGateway.Lib
