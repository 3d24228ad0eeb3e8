/-
# Payment rows

The payments table of `migrations/000001_create_payments.up.sql`: its columns, its
CHECK constraints, and the conversions between rows and payments at the database
boundary. Storage is exact; a nullable column is an option, and the empty string
and the zero time stand for NULL in memory.

A well-formed payment is stored as a row that satisfies every constraint, and
both read paths load that row as the payment it was written from.
-/

import PaymentGateway.Domain.Lifecycle

namespace PaymentGateway

open Lib

/-- A row of the payments table. -/
structure PaymentRow where
  id : GoString
  orderID : GoString
  customerID : GoString
  amountCents : ℤ
  currency : GoString
  status : GoString
  bankAuthorizationID : Option GoString
  authorizationExpiresAt : Option Time
  authorizationBankOperationKey : GoString
  authorizationCardFingerprint : GoString
  bankCaptureID : Option GoString
  captureBankOperationKey : Option GoString
  bankRefundID : Option GoString
  refundBankOperationKey : Option GoString
  bankVoidID : Option GoString
  voidBankOperationKey : Option GoString
  declineReason : Option GoString
  createdAt : Time
  updatedAt : Time
  deriving DecidableEq, Repr

/-! ## Boundary conversions -/

/-- `nullableString`. -/
def nullableString (value : GoString) : Option GoString := if value = [] then none else some value

/-- `nullableTime`. -/
def nullableTime (value : Time) : Option Time := if value = 0 then none else some value

/-- `nullStringValue`. -/
def nullStringValue (value : Option GoString) : GoString := value.getD []

/-- `nullTimeValue`. -/
def nullTimeValue (value : Option Time) : Time := value.getD 0

@[simp] theorem nullStringValue_nullableString (value : GoString) :
    nullStringValue (nullableString value) = value := by
  unfold nullableString nullStringValue
  split_ifs with h
  · rw [h]
    rfl
  · rfl

@[simp] theorem nullTimeValue_nullableTime (value : Time) :
    nullTimeValue (nullableTime value) = value := by
  unfold nullableTime nullTimeValue
  split_ifs with h
  · rw [h]
    rfl
  · rfl

@[simp] theorem nullableString_eq_none {value : GoString} :
    nullableString value = none ↔ value = [] := by
  simp [nullableString]

@[simp] theorem nullableString_nil : nullableString [] = none := rfl

@[simp] theorem nullableTime_eq_none {value : Time} : nullableTime value = none ↔ value = 0 := by
  simp [nullableTime]

/-- The columns `insertPayment` writes. -/
def rowOf (payment : Payment) : PaymentRow where
  id := payment.id
  orderID := payment.orderID
  customerID := payment.customerID
  amountCents := payment.amountCents
  currency := payment.currency
  status := payment.status.text
  bankAuthorizationID := nullableString payment.bankAuthorizationID
  authorizationExpiresAt := nullableTime payment.authorizationExpiresAt
  authorizationBankOperationKey := payment.authorizationBankOperationKey
  authorizationCardFingerprint := payment.authorizationCardFingerprint
  bankCaptureID := nullableString payment.bankCaptureID
  captureBankOperationKey := nullableString payment.captureBankOperationKey
  bankRefundID := nullableString payment.bankRefundID
  refundBankOperationKey := nullableString payment.refundBankOperationKey
  bankVoidID := nullableString payment.bankVoidID
  voidBankOperationKey := nullableString payment.voidBankOperationKey
  declineReason := nullableString payment.declineReason
  createdAt := payment.createdAt
  updatedAt := payment.updatedAt

/-- The columns `persistPaymentTransition` sets; the row keeps the others. -/
def transitionRow (row : PaymentRow) (payment : Payment) : PaymentRow :=
  { row with
    status := payment.status.text
    bankAuthorizationID := nullableString payment.bankAuthorizationID
    authorizationExpiresAt := nullableTime payment.authorizationExpiresAt
    authorizationBankOperationKey := payment.authorizationBankOperationKey
    authorizationCardFingerprint := payment.authorizationCardFingerprint
    bankCaptureID := nullableString payment.bankCaptureID
    captureBankOperationKey := nullableString payment.captureBankOperationKey
    bankRefundID := nullableString payment.bankRefundID
    refundBankOperationKey := nullableString payment.refundBankOperationKey
    bankVoidID := nullableString payment.bankVoidID
    voidBankOperationKey := nullableString payment.voidBankOperationKey
    declineReason := nullableString payment.declineReason
    updatedAt := payment.updatedAt }

/-- The call of `LoadPayment` that both read paths make on the columns of a row. -/
def loadRow (id : GoString) (row : PaymentRow) : Except DomainError Payment :=
  loadPayment id row.orderID row.customerID row.amountCents row.currency row.status
    (nullStringValue row.bankAuthorizationID) (nullTimeValue row.authorizationExpiresAt)
    row.authorizationBankOperationKey row.authorizationCardFingerprint
    (nullStringValue row.bankCaptureID) (nullStringValue row.captureBankOperationKey)
    (nullStringValue row.bankRefundID) (nullStringValue row.refundBankOperationKey)
    (nullStringValue row.bankVoidID) (nullStringValue row.voidBankOperationKey)
    (nullStringValue row.declineReason) row.createdAt row.updatedAt

/-- `scanPayment`, which takes the id from the row. -/
def scanPayment (row : PaymentRow) : Except DomainError Payment := loadRow row.id row

/-- A well-formed payment is read back from its row unchanged. -/
theorem loadRow_rowOf {p : Payment} (wf : p.WellFormed) : loadRow p.id (rowOf p) = .ok p := by
  simp only [loadRow, rowOf, nullStringValue_nullableString, nullTimeValue_nullableTime]
  exact loadPayment_of_wellFormed wf

/-- Rows of well-formed payments are equal only for equal payments. -/
theorem rowOf_inj {p q : Payment} (hp : p.WellFormed) (hq : q.WellFormed)
    (h : rowOf p = rowOf q) : p = q := by
  have hid : p.id = q.id := congrArg PaymentRow.id h
  have hload := loadRow_rowOf hp
  rw [h, hid, loadRow_rowOf hq] at hload
  exact (Except.ok.inj hload).symm

/-! ## CHECK constraints -/

/-- `trim` of SQL, which strips nothing but the space character. -/
def sqlTrim (value : GoString) : GoString := trim [[0x20]] value

/-- `length(trim(value)) > 0`. -/
def notBlank (value : GoString) : Bool := !(sqlTrim value).isEmpty

/-- `value IS NULL OR length(trim(value)) > 0`. -/
def nullOrNotBlank (value : Option GoString) : Bool := value.isNone || value.any notBlank

/-- A value that `strings.TrimSpace` leaves something of is not blank in SQL either, where fewer
characters are stripped. -/
theorem notBlank_of_trimSpace {value : GoString} (h : trimSpace value ≠ []) :
    notBlank value = true := by
  have hnormalized := normalized_trimSpace h
  cases htrim : trimSpace value with
  | nil => exact absurd htrim h
  | cons b rest =>
    have hmem : b ∈ value := mem_of_mem_trim (htrim ▸ List.mem_cons_self : b ∈ trimSpace value)
    have hb : ∀ code ∈ [[(0x20 : UInt8)]], b ∉ code := by
      simp only [List.mem_singleton, forall_eq]
      rintro rfl
      exact hnormalized.head_ne_space ⟨rest, htrim.symm⟩
    have hmem : b ∈ sqlTrim value := mem_trim hb hmem
    simp [notBlank, List.ne_nil_of_mem hmem]

theorem Normalized.notBlank {value : GoString} (h : Normalized value) : notBlank value = true :=
  notBlank_of_trimSpace (h.trimSpace_eq.symm ▸ h.ne_nil)

theorem Presence.Holds.nullOrNotBlank {presence : Presence} {value : GoString}
    (h : presence.Holds value) : nullOrNotBlank (nullableString value) = true := by
  unfold nullableString
  split_ifs with hnil
  · rfl
  · cases presence with
    | absent => exact absurd h hnil
    | optional => exact (h.resolve_left hnil).notBlank
    | present => exact Normalized.notBlank h

/-- The byte classes of the payment id pattern. -/
inductive ByteClass
  | hex
  | exact (b : UInt8)
  deriving DecidableEq

/-- A byte is in a class. -/
def ByteClass.accepts : ByteClass → UInt8 → Bool
  | hex, b => (0x30 ≤ b && b ≤ 0x39) || (0x61 ≤ b && b ≤ 0x66) || (0x41 ≤ b && b ≤ 0x46)
  | exact c, b => b = c

/-- A value matches a pattern of byte classes from its first to its last byte. -/
def matchesPattern : List ByteClass → GoString → Bool
  | [], [] => true
  | c :: pattern, b :: value => c.accepts b && matchesPattern pattern value
  | _, _ => false

/-- The part of the pattern after `pay_`. -/
def uuidPattern : List ByteClass :=
  .replicate 8 .hex ++ [.exact 0x2D] ++ .replicate 4 .hex ++ [.exact 0x2D] ++ .replicate 4 .hex ++
    [.exact 0x2D] ++ .replicate 4 .hex ++ [.exact 0x2D] ++ .replicate 12 .hex

/-- `^pay_[0-9a-fA-F]{8}-[0-9a-fA-F]{4}-[0-9a-fA-F]{4}-[0-9a-fA-F]{4}-[0-9a-fA-F]{12}$`. -/
def paymentIDPattern : List ByteClass := (ascii "pay_").map .exact ++ uuidPattern

theorem matchesPattern_iff {pattern : List ByteClass} {value : GoString} :
    matchesPattern pattern value = true ↔
      pattern.length = value.length ∧
        ∀ (i : ℕ) (c : ByteClass) (b : UInt8), pattern[i]? = some c → value[i]? = some b →
          c.accepts b = true := by
  induction pattern generalizing value with
  | nil => cases value <;> simp [matchesPattern]
  | cons c pattern ih =>
    cases value with
    | nil => simp [matchesPattern]
    | cons b value =>
      simp only [matchesPattern, Bool.and_eq_true, ih, List.length_cons, Nat.add_right_cancel_iff]
      constructor
      · rintro ⟨hhead, hlen, htail⟩
        refine ⟨hlen, fun i => ?_⟩
        cases i with
        | zero => simpa using hhead
        | succ i => simpa using htail i
      · rintro ⟨hlen, hall⟩
        refine ⟨hall 0 c b rfl rfl, hlen, fun i => ?_⟩
        simpa using hall (i + 1)

/-- The position of a byte in the pattern decides its class. -/
theorem uuidPattern_getElem? {i : ℕ} (h : i < 36) :
    uuidPattern[i]? =
      some (if i = 8 ∨ i = 13 ∨ i = 18 ∨ i = 23 then .exact 0x2D else .hex) := by
  revert i
  decide

theorem accepts_hex_iff {b : UInt8} : ByteClass.hex.accepts b = isHexDigit b.toNat := by
  simp [ByteClass.accepts, isHexDigit, UInt8.le_iff_toNat_le]

/-- The class at a position of the pattern accepts what the loop of `isDashedUUID` accepts there. -/
theorem accepts_uuidPattern {i : ℕ} {c : ByteClass} (hc : uuidPattern[i]? = some c) (b : UInt8) :
    c.accepts b =
      if i = 8 ∨ i = 13 ∨ i = 18 ∨ i = 23 then decide (b.toNat = 0x2D)
      else isHexDigit b.toNat := by
  have hi : i < 36 := (List.getElem?_eq_some_iff.mp hc).1
  rw [uuidPattern_getElem? hi, Option.some_inj] at hc
  subst hc
  split_ifs
  · simp [ByteClass.accepts, ← UInt8.toNat_inj]
  · exact accepts_hex_iff

theorem lt_of_accepts_uuidPattern {i : ℕ} {c : ByteClass} (hc : uuidPattern[i]? = some c)
    {b : UInt8} (h : c.accepts b = true) : b < 0x80 := by
  rw [accepts_uuidPattern hc] at h
  rw [UInt8.lt_iff_toNat_lt]
  change b.toNat < 0x80
  split_ifs at h
  · simp only [decide_eq_true_eq] at h
    omega
  · simp only [isHexDigit, Bool.or_eq_true, Bool.and_eq_true, decide_eq_true_eq] at h
    omega

/-- Where the loop of `isDashedUUID` visits the bytes one by one, it is the pattern. -/
theorem isDashedUUID_iff_of_zipIdx {value : GoString}
    (hvisits : rangeRunes value = value.zipIdx.map fun (b, i) => (i, b.toNat)) :
    isDashedUUID value = true ↔ matchesPattern uuidPattern value = true := by
  rw [isDashedUUID, hvisits, matchesPattern_iff, show uuidPattern.length = 36 from rfl]
  by_cases hlen : value.length = 36
  · simp only [hlen, ne_eq, not_true_eq_false, if_false, true_and, List.all_map, List.all_eq_true,
      Function.comp_apply, Prod.forall]
    constructor
    · intro h i c b hc hb
      rw [accepts_uuidPattern hc]
      exact h b i (by simpa [List.mem_zipIdx_iff_getElem?] using hb)
    · intro h b i hb
      have hb : value[i]? = some b := by simpa [List.mem_zipIdx_iff_getElem?] using hb
      have hi : i < 36 := hlen ▸ (List.getElem?_eq_some_iff.mp hb).1
      rw [← accepts_uuidPattern (uuidPattern_getElem? hi)]
      exact h i _ b (uuidPattern_getElem? hi) hb
  · simp [hlen, Ne.symm hlen]

/-- The loop by runes and the byte pattern accept the same strings: a string with a byte outside
ASCII passes neither. -/
theorem isDashedUUID_iff_matchesPattern {value : GoString} :
    isDashedUUID value = true ↔ matchesPattern uuidPattern value = true := by
  constructor
  · intro h
    refine (isDashedUUID_iff_of_zipIdx (rangeRunes_of_ascii fun visit hvisit => ?_)).mp h
    unfold isDashedUUID at h
    split_ifs at h
    have hrune := List.all_eq_true.mp h visit hvisit
    dsimp only at hrune
    split_ifs at hrune
    · simp only [decide_eq_true_eq] at hrune
      omega
    · simp only [isHexDigit, Bool.or_eq_true, Bool.and_eq_true, decide_eq_true_eq] at hrune
      omega
  · intro h
    refine (isDashedUUID_iff_of_zipIdx (rangeRunes_of_bytes fun b hb => ?_)).mpr h
    obtain ⟨hlen, hclass⟩ := matchesPattern_iff.mp h
    obtain ⟨i, hi⟩ := List.mem_iff_getElem?.mp hb
    obtain ⟨hlt, -⟩ := List.getElem?_eq_some_iff.mp hi
    have hc := List.getElem?_eq_getElem (hlen.symm ▸ hlt : i < uuidPattern.length)
    exact lt_of_accepts_uuidPattern hc (hclass i _ b hc hi)

/-- A value matches two patterns in a row where it splits into a match of each. -/
theorem matchesPattern_append_iff {first second : List ByteClass} {value : GoString} :
    matchesPattern (first ++ second) value = true ↔
      ∃ start rest, start ++ rest = value ∧ matchesPattern first start = true ∧
        matchesPattern second rest = true := by
  -- The length of the first pattern says where the value is split, so the induction is on it.
  induction first generalizing value with
  | nil =>
    constructor
    · intro h
      exact ⟨[], value, rfl, rfl, h⟩
    · rintro ⟨start, rest, rfl, hstart, hrest⟩
      cases start with
      | nil => exact hrest
      | cons b start => cases hstart
  | cons c first ih =>
    cases value with
    | nil =>
      constructor
      · intro h
        cases h
      · rintro ⟨start, rest, hsplit, hstart, -⟩
        obtain ⟨rfl, -⟩ := List.append_eq_nil_iff.mp hsplit
        cases hstart
    | cons b value =>
      simp only [List.cons_append, matchesPattern, Bool.and_eq_true, ih]
      constructor
      · rintro ⟨hb, start, rest, rfl, hstart, hrest⟩
        exact ⟨b :: start, rest, rfl, by simp [matchesPattern, hb, hstart], hrest⟩
      · rintro ⟨start, rest, hsplit, hstart, hrest⟩
        cases start with
        | nil => cases hstart
        | cons b' start =>
          obtain ⟨rfl, rfl⟩ := List.cons.inj hsplit
          simp only [matchesPattern, Bool.and_eq_true] at hstart
          exact ⟨hstart.1, start, rest, rfl, hstart.2, hrest⟩

/-- A literal matches exactly itself. -/
theorem matchesPattern_exact_iff {literal value : GoString} :
    matchesPattern (literal.map .exact) value = true ↔ value = literal := by
  induction literal generalizing value with
  | nil => cases value <;> simp [matchesPattern]
  | cons c literal ih => cases value <;> simp [matchesPattern, ByteClass.accepts, ih]

/-- The validator of payment ids accepts exactly what the pattern of the tables does. -/
theorem validatePaymentID_iff_matchesPattern {id : GoString} :
    validatePaymentID id = .ok () ↔ matchesPattern paymentIDPattern id = true := by
  rw [paymentIDPattern, matchesPattern_append_iff]
  simp only [matchesPattern_exact_iff, ← isDashedUUID_iff_matchesPattern]
  unfold validatePaymentID cutPrefix
  split_ifs with hstart
  · obtain ⟨rest, rfl⟩ := List.isPrefixOf_iff_prefix.mp hstart
    simp only [List.drop_left]
    constructor
    · intro h
      split_ifs at h with huuid
      exact ⟨_, rest, rfl, rfl, huuid⟩
    · rintro ⟨start, rest', hsplit, rfl, huuid⟩
      rw [if_pos (List.append_cancel_left hsplit ▸ huuid)]
      rfl
  · constructor
    · intro h
      cases h
    · rintro ⟨start, rest, rfl, rfl, -⟩
      exact absurd (List.isPrefixOf_iff_prefix.mpr (List.prefix_append _ rest)) hstart

/-- Every id that `ParsePaymentID` accepts matches the pattern of the table. -/
theorem matchesPattern_of_validatePaymentID {id : GoString}
    (h : validatePaymentID id = .ok ()) : matchesPattern paymentIDPattern id = true :=
  validatePaymentID_iff_matchesPattern.mp h

/-- `payments_status_private_fields_check`. -/
def statusPrivateFieldsCheck (row : PaymentRow) : Bool :=
  (row.status == PaymentStatus.pending.text && row.bankAuthorizationID.isNone &&
    row.authorizationExpiresAt.isNone && row.bankCaptureID.isNone &&
    row.captureBankOperationKey.isNone && row.bankRefundID.isNone &&
    row.refundBankOperationKey.isNone && row.declineReason.isNone && row.bankVoidID.isNone &&
    row.voidBankOperationKey.isNone) ||
  (row.status == PaymentStatus.authorized.text && row.bankAuthorizationID.isSome &&
    row.authorizationExpiresAt.isSome && row.bankCaptureID.isNone && row.bankRefundID.isNone &&
    row.refundBankOperationKey.isNone && row.declineReason.isNone && row.bankVoidID.isNone) ||
  (row.status == PaymentStatus.expired.text && row.bankAuthorizationID.isSome &&
    row.authorizationExpiresAt.isSome && row.bankCaptureID.isNone &&
    row.captureBankOperationKey.isNone && row.bankRefundID.isNone &&
    row.refundBankOperationKey.isNone && row.declineReason.isNone && row.bankVoidID.isNone &&
    row.voidBankOperationKey.isNone) ||
  (row.status == PaymentStatus.declined.text && row.bankAuthorizationID.isNone &&
    row.authorizationExpiresAt.isNone && row.bankCaptureID.isNone &&
    row.captureBankOperationKey.isNone && row.bankRefundID.isNone &&
    row.refundBankOperationKey.isNone && row.declineReason.isSome && row.bankVoidID.isNone &&
    row.voidBankOperationKey.isNone) ||
  (row.status == PaymentStatus.captured.text && row.bankAuthorizationID.isSome &&
    row.authorizationExpiresAt.isSome && row.bankCaptureID.isSome &&
    row.captureBankOperationKey.isSome && row.bankRefundID.isNone && row.declineReason.isNone &&
    row.bankVoidID.isNone && row.voidBankOperationKey.isNone) ||
  (row.status == PaymentStatus.voided.text && row.bankAuthorizationID.isSome &&
    row.authorizationExpiresAt.isSome && row.bankCaptureID.isNone &&
    row.captureBankOperationKey.isNone && row.bankRefundID.isNone &&
    row.refundBankOperationKey.isNone && row.declineReason.isNone && row.bankVoidID.isSome &&
    row.voidBankOperationKey.isSome) ||
  (row.status == PaymentStatus.refunded.text && row.bankAuthorizationID.isSome &&
    row.authorizationExpiresAt.isSome && row.bankCaptureID.isSome &&
    row.captureBankOperationKey.isSome && row.bankRefundID.isSome &&
    row.refundBankOperationKey.isSome && row.declineReason.isNone && row.bankVoidID.isNone &&
    row.voidBankOperationKey.isNone)

/-- The CHECK constraints of the payments table, column by column. -/
def paymentsCheck (row : PaymentRow) : Bool :=
  matchesPattern paymentIDPattern row.id && notBlank row.orderID &&
  notBlank row.customerID && 0 < row.amountCents && row.currency == currencyUSD &&
  row.status ∈ PaymentStatus.all.map PaymentStatus.text &&
  nullOrNotBlank row.bankAuthorizationID && notBlank row.authorizationBankOperationKey &&
  notBlank row.authorizationCardFingerprint && nullOrNotBlank row.bankCaptureID &&
  nullOrNotBlank row.captureBankOperationKey && nullOrNotBlank row.bankRefundID &&
  nullOrNotBlank row.refundBankOperationKey && nullOrNotBlank row.bankVoidID &&
  nullOrNotBlank row.voidBankOperationKey &&
  (row.declineReason.isNone || row.declineReason.any (· ∈ declineReasons)) &&
  statusPrivateFieldsCheck row

theorem isNone_nullableString {value : GoString} :
    (nullableString value).isNone = true ↔ value = [] := by
  rw [Option.isNone_iff_eq_none, nullableString_eq_none]

theorem isSome_nullableString {value : GoString} :
    (nullableString value).isSome = true ↔ value ≠ [] := by
  rw [← Option.ne_none_iff_isSome, ne_eq, nullableString_eq_none]

theorem isNone_nullableTime {value : Time} : (nullableTime value).isNone = true ↔ value = 0 := by
  rw [Option.isNone_iff_eq_none, nullableTime_eq_none]

theorem isSome_nullableTime {value : Time} : (nullableTime value).isSome = true ↔ value ≠ 0 := by
  rw [← Option.ne_none_iff_isSome, ne_eq, nullableTime_eq_none]

theorem declineReason_ne_nil {reason : GoString} (h : reason ∈ declineReasons) : reason ≠ [] := by
  rintro rfl
  revert h
  decide

/-- The lifecycle table and the SQL constraint agree on every well-formed payment. -/
theorem statusPrivateFieldsCheck_rowOf {p : Payment} (wf : p.WellFormed) :
    statusPrivateFieldsCheck (rowOf p) = true := by
  obtain ⟨hauth, hexp, hcap, hcapKey, href, hrefKey, hvoid, hvoidKey, hreason⟩ := wf.lifecycle
  have hpresent : ∀ {value : GoString}, Presence.present.Holds value → value ≠ [] :=
    fun h => Normalized.ne_nil h
  simp only [statusPrivateFieldsCheck, rowOf, Bool.or_eq_true, Bool.and_eq_true, beq_iff_eq,
    PaymentStatus.text_inj, isNone_nullableString, isSome_nullableString, isNone_nullableTime,
    isSome_nullableTime]
  cases hstatus : p.status <;>
    rw [hstatus] at hauth hexp hcap hcapKey href hrefKey hvoid hvoidKey hreason <;>
    simp_all [lifecycleTable, Presence.Holds, Normalized.ne_nil, declineReason_ne_nil]

/-- A well-formed payment is stored as a row that satisfies every constraint. -/
theorem paymentsCheck_rowOf {p : Payment} (wf : p.WellFormed) :
    paymentsCheck (rowOf p) = true := by
  have hlife := wf.lifecycle
  have hstatus : p.status.text ∈ PaymentStatus.all.map PaymentStatus.text := by
    refine List.mem_map_of_mem ?_
    cases p.status <;> decide
  have hreason : ((nullableString p.declineReason).isNone ||
      (nullableString p.declineReason).any (· ∈ declineReasons)) = true := by
    have hdecline := hlife.decline
    split_ifs at hdecline
    · simp [nullableString, declineReason_ne_nil hdecline, hdecline]
    · simp [hdecline]
  simp only [paymentsCheck, Bool.and_eq_true, and_assoc, decide_eq_true_eq, beq_iff_eq]
  exact ⟨matchesPattern_of_validatePaymentID wf.validID, wf.orderID.notBlank,
    wf.customerID.notBlank, wf.amount, wf.currency, hstatus, hlife.authorization.nullOrNotBlank,
    wf.authorizationKey.notBlank, wf.cardFingerprint.notBlank, hlife.capture.nullOrNotBlank,
    hlife.captureKey.nullOrNotBlank, hlife.refund.nullOrNotBlank,
    hlife.refundKey.nullOrNotBlank, hlife.void.nullOrNotBlank, hlife.voidKey.nullOrNotBlank,
    hreason, statusPrivateFieldsCheck_rowOf wf⟩

end PaymentGateway
