/-
# The bank's transactions are serializable and never deadlock

The services of the bank run their transactions at READ COMMITTED, so that two
statements of one transaction may see different tables. Their row locks make up for
that. Whatever the interleaving, the committed tables are what the committed
transactions make of them one after the other, and each transaction got the result that
it has there.
-/

import PaymentGateway.MockBank.Runs

namespace PaymentGateway.MockBank

open Lib

/-! ## A sample run -/

namespace Sample

def uuid (n : UInt8) : UUID := ⟨List.replicate 15 0 ++ [n], rfl⟩

/-- The primary account of the migration. -/
def account : Account :=
  ⟨uuid 1, ascii "4111111111111111", ascii "123", 12, 2030, 1000000, 1000000⟩

def db : Db where
  accountIDs number := if number = account.accountNumber then some account.id else none
  accounts id := if id = account.id then some account else none
  transactions := []
  keyed := by
    intro id found h
    split at h
    · next hid =>
      cases h
      exact hid.symm
    · cases h
  indexed := by
    intro number id h
    split at h
    · next hnumber =>
      cases h
      exact ⟨account, if_pos rfl, hnumber.symm⟩
    · cases h

def bank : Bank := ⟨168, fun _ => (2026, 1)⟩

/-- Calls of a session, with an id for the row that it creates. -/
def calls (i : ℕ) (id : UUID) (count : ℕ) : List BankEvent :=
  List.replicate count (.call i ⟨1000000, id, none⟩)

/-- An authorization up to its last statement. -/
def authorization : List BankEvent :=
  .start 0 (.authorize account.accountNumber account.cvv 500) :: calls 0 (uuid 2) 7

/-- A capture has locked the hold, and a void of it has started. -/
def capturing : List BankEvent :=
  authorization ++ [.finish 0, .start 1 (.capture (uuid 2) 500), .start 2 (.void (uuid 2))] ++
    calls 1 (uuid 3) 1

/-- The capture commits, and the void then finds a completed hold. -/
def settled : List BankEvent :=
  capturing ++ calls 1 (uuid 3) 6 ++ [.finish 1] ++ calls 2 (uuid 4) 1 ++ [.finish 2]

/-- A run of the sample bank in which a property can be computed. -/
theorem exists_reachable (property : BankSessions → Bool) (events : List BankEvent)
    (h : (execWhere bank.step (fun _ _ => true) (Sessions.initial db) events).any property =
      true) : ∃ s, bank.Reachable db s ∧ property s = true :=
  exists_reaches_of_execWhere (fun _ _ _ => trivial) events h

end Sample

variable {bank : Bank} {db : Db} {s : BankSessions}

/-! ## Serializability -/

/-- The transactions of the bank are serializable. -/
theorem Bank.serializable (h : bank.Reachable db s) :
    Sessions.Serial backend commits db s.history s.db ∧
      ∀ e ∈ s.history, ∃ request, e.start = bank.script request :=
  ⟨h.inv.serial, h.inv.recorded⟩

theorem Bank.serializable_sample : ∃ s, Sample.bank.Reachable Sample.db s ∧
    Sessions.Serial backend commits Sample.db s.history s.db ∧
    s.history.map (fun e => (e.id, commits e.result)) = [(2, false), (1, true), (0, true)] := by
  obtain ⟨s, hs, hhistory⟩ := Sample.exists_reachable (fun s =>
    s.history.map (fun e => (e.id, commits e.result)) == [(2, false), (1, true), (0, true)])
    Sample.settled (by decide +kernel)
  exact ⟨s, hs, (Bank.serializable hs).1, by simpa using hhistory⟩

/-! ## Progress -/

/-- Some transaction can always go on: in whatever environment it meets, one of those that are
open can run its next statement or end. -/
theorem Bank.exists_step (h : bank.Reachable db s) {i : ℕ} (active : (s.session i).isSome = true) :
    ∃ j, (s.session j).isSome = true ∧ ∀ env, ∃ e, (e = .call j env ∨ e = .finish j) ∧
      (bank.step s e).isSome = true := by
  obtain ⟨j, hactive, hidle⟩ := h.inv.exists_not_waits (rank s) 5 (rank_le_five s)
    (fun _ _ => rank_lt_of_waits h.inv) active
  obtain ⟨session, hrunning⟩ := Option.isSome_iff_exists.mp hactive
  refine ⟨j, hactive, fun env => ?_⟩
  obtain ⟨e, he, htaken⟩ : ∃ e, (e = .call j env ∨ e = .finish j) ∧
      (s.step backend commits e).isSome = true :=
    Sessions.exists_step_of_not_waits hrunning hidle env
  rcases he with rfl | rfl
  · exact ⟨.call j env, .inl rfl, htaken⟩
  · exact ⟨.finish j, .inr rfl, htaken⟩

/-- The void waits for the capture, which goes on. -/
theorem Bank.exists_step_sample : ∃ s, Sample.bank.Reachable Sample.db s ∧
    (Sample.bank.step s (.call 2 ⟨1000000, Sample.uuid 4, none⟩)).isNone = true ∧
    ∃ j, (s.session j).isSome = true ∧ ∀ env, ∃ e, (e = .call j env ∨ e = .finish j) ∧
      (Sample.bank.step s e).isSome = true := by
  obtain ⟨s, hs, hproperty⟩ := Sample.exists_reachable (fun s =>
    (s.session 2).isSome && (Sample.bank.step s (.call 2 ⟨1000000, Sample.uuid 4, none⟩)).isNone)
    Sample.capturing (by decide +kernel)
  rw [Bool.and_eq_true] at hproperty
  exact ⟨s, hs, hproperty.2, Bank.exists_step hs hproperty.1⟩

end PaymentGateway.MockBank
