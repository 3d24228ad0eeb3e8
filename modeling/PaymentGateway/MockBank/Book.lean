/-
# The book of holds

What the bank is for, without tables. A customer's money is held by an authorization.
A hold is captured or voided, and a captured hold may be refunded. What a hold blocks is
not available to other authorizations, and what it has spent has left the account.
-/

import PaymentGateway.MockBank.Tables
import Mathlib.Algebra.BigOperators.Group.List.Basic
import Mathlib.Logic.Relation

namespace PaymentGateway.MockBank

/-- What has become of a hold. -/
inductive HoldState
  | open
  | captured
  | voided
  | refunded
  deriving DecidableEq, Repr

/-- The moves of a hold. -/
inductive HoldState.Moves : HoldState → HoldState → Prop
  | capture : Moves .open .captured
  | void : Moves .open .voided
  | refund : Moves .captured .refunded

structure Hold where
  id : UUID
  account : UUID
  amount : ℤ
  state : HoldState
  deriving DecidableEq, Repr

/-- What a hold keeps from the available balance of its account. -/
def Hold.blocked (hold : Hold) : ℤ :=
  match hold.state with
  | .open | .captured => hold.amount
  | .voided | .refunded => 0

/-- What a hold has taken from the balance of its account. -/
def Hold.spent (hold : Hold) : ℤ :=
  match hold.state with
  | .captured => hold.amount
  | .open | .voided | .refunded => 0

/-- The holds of a bank, the newest first. -/
abbrev Book := List Hold

namespace Book

/-- A hold is placed under a new id, or one of the holds moves. -/
inductive Step : Book → Book → Prop
  | place (book : Book) (hold : Hold) (fresh : ∀ other ∈ book, other.id ≠ hold.id)
      (opened : hold.state = .open) (positive : 0 < hold.amount) : Step book (hold :: book)
  | move (before after : Book) (hold : Hold) (state : HoldState)
      (moves : hold.state.Moves state) :
      Step (before ++ hold :: after) (before ++ { hold with state } :: after)

/-- A step keeps every hold, up to a move. -/
theorem Step.keeps {book book' : Book} (step : Step book book') {hold : Hold} (h : hold ∈ book) :
    ∃ state, { hold with state } ∈ book' ∧
      Relation.ReflTransGen HoldState.Moves hold.state state := by
  cases step with
  | place _ placed => exact ⟨hold.state, List.mem_cons_of_mem _ h, .refl⟩
  | move before after moved state moves =>
    rcases List.mem_append.mp h with h | h
    · exact ⟨hold.state, List.mem_append_left _ h, .refl⟩
    · rcases List.mem_cons.mp h with rfl | h
      · exact ⟨state, List.mem_append_right _ List.mem_cons_self, .single moves⟩
      · exact ⟨hold.state, List.mem_append_right _ (List.mem_cons_of_mem _ h), .refl⟩

theorem keeps_of_run {book book' : Book} (run : Relation.ReflTransGen Step book book')
    {hold : Hold} (h : hold ∈ book) :
    ∃ state, { hold with state } ∈ book' ∧
      Relation.ReflTransGen HoldState.Moves hold.state state := by
  induction run with
  | refl => exact ⟨hold.state, h, .refl⟩
  | tail _ step ih =>
    obtain ⟨between, hbetween, hmoves⟩ := ih
    obtain ⟨state, hstate, hmoves'⟩ := step.keeps hbetween
    exact ⟨state, hstate, hmoves.trans hmoves'⟩

/-- The sum of amounts over the holds of an account. -/
def total (amount : Hold → ℤ) (account : UUID) (book : Book) : ℤ :=
  (book.map fun hold => if hold.account = account then amount hold else 0).sum

variable (amount : Hold → ℤ) (account : UUID) {book : Book}

@[simp] theorem total_nil : total amount account [] = 0 := rfl

@[simp] theorem total_cons (hold : Hold) (book : Book) :
    total amount account (hold :: book) =
      (if hold.account = account then amount hold else 0) + total amount account book := by
  simp [total]

@[simp] theorem total_append (first second : Book) :
    total amount account (first ++ second) =
      total amount account first + total amount account second := by
  simp [total]

theorem total_nonneg (h : ∀ hold ∈ book, 0 ≤ amount hold) : 0 ≤ total amount account book := by
  induction book with
  | nil => simp
  | cons hold book ih =>
    have hfirst := h hold List.mem_cons_self
    have hrest := ih fun other hother => h other (List.mem_cons_of_mem _ hother)
    rw [total_cons]
    split <;> omega

theorem total_mono {amount amount' : Hold → ℤ} (h : ∀ hold ∈ book, amount hold ≤ amount' hold) :
    total amount account book ≤ total amount' account book := by
  induction book with
  | nil => simp
  | cons hold book ih =>
    have hfirst := h hold List.mem_cons_self
    have hrest := ih fun other hother => h other (List.mem_cons_of_mem _ hother)
    rw [total_cons, total_cons]
    split <;> omega

end Book

end PaymentGateway.MockBank
