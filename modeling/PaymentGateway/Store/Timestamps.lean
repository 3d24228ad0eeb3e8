/-
# Timestamps in columns

A `timestamptz` column holds whole microseconds, and the driver cuts the rest off
an instant that it sends. Elsewhere storage is exact; here the tables are what the
columns keep of the rows that were written.
-/

import PaymentGateway.Store.Methods

namespace PaymentGateway

/-- What a `timestamptz` column keeps of an instant. -/
def timestamptz (instant : Time) : Time := instant / 1000 * 1000

theorem timestamptz_le (instant : Time) : timestamptz instant ≤ instant :=
  Nat.div_mul_le_self instant 1000

theorem timestamptz_timestamptz (instant : Time) :
    timestamptz (timestamptz instant) = timestamptz instant := by
  simp [timestamptz]

/-- An instant of whole microseconds. -/
def Time.Whole (instant : Time) : Prop := 1000 ∣ instant

instance (instant : Time) : Decidable instant.Whole := inferInstanceAs (Decidable (_ ∣ _))

theorem timestamptz_of_whole {instant : Time} (h : instant.Whole) : timestamptz instant = instant :=
  Nat.div_mul_cancel h

/-- What the payments table keeps of a row. -/
def PaymentRow.stored (row : PaymentRow) : PaymentRow :=
  { row with
    authorizationExpiresAt := row.authorizationExpiresAt.map timestamptz
    createdAt := timestamptz row.createdAt
    updatedAt := timestamptz row.updatedAt }

/-- What the idempotency_records table keeps of a row. -/
def IdempotencyRecord.stored (record : IdempotencyRecord) : IdempotencyRecord :=
  { record with
    claimedAt := timestamptz record.claimedAt
    completedAt := record.completedAt.map timestamptz }

theorem IdempotencyRecord.stored_stored (record : IdempotencyRecord) :
    record.stored.stored = record.stored := by
  simp [IdempotencyRecord.stored, timestamptz_timestamptz, Function.comp_def]

/-- What the tables keep. -/
def Db.stored (db : Db) : Db :=
  { db with
    payments := fun id => (db.payments id).map PaymentRow.stored
    records := fun recordKey => (db.records recordKey).map IdempotencyRecord.stored }

/-- The instants of a payment are whole. -/
structure Payment.WholeTimes (p : Payment) : Prop where
  expiresAt : p.authorizationExpiresAt.Whole
  createdAt : p.createdAt.Whole
  updatedAt : p.updatedAt.Whole

/-- The instants of a record are whole. -/
structure IdempotencyRecord.WholeTimes (record : IdempotencyRecord) : Prop where
  claimedAt : record.claimedAt.Whole
  completedAt : ∀ completedAt ∈ record.completedAt, Time.Whole completedAt

theorem Payment.WholeTimes.stored_rowOf {p : Payment} (h : p.WholeTimes) :
    (rowOf p).stored = rowOf p := by
  have hexpires : (nullableTime p.authorizationExpiresAt).map timestamptz =
      nullableTime p.authorizationExpiresAt := by
    unfold nullableTime
    split_ifs
    · rfl
    · exact congrArg some (timestamptz_of_whole h.expiresAt)
  simp only [PaymentRow.stored, rowOf, hexpires, timestamptz_of_whole h.createdAt,
    timestamptz_of_whole h.updatedAt]

theorem IdempotencyRecord.WholeTimes.stored_eq {record : IdempotencyRecord}
    (h : record.WholeTimes) : record.stored = record := by
  have hcompleted : record.completedAt.map timestamptz = record.completedAt := by
    cases hat : record.completedAt with
    | none => rfl
    | some completedAt => exact congrArg some (timestamptz_of_whole (h.completedAt _ hat))
  simp only [IdempotencyRecord.stored, hcompleted, timestamptz_of_whole h.claimedAt]

end PaymentGateway
