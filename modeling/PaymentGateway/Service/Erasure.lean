/-
# Up to times and keys

Two attempts of one command read the clock at different times and draw different
bank operation keys. Apart from that nothing they do to a payment depends on when
they run. Erasing forgets the time of the last update and which key an operation
has, but not whether it has one; the verdict on a bank's answer and the rows and
results that follow from it commute with erasing.
-/

import PaymentGateway.Service.Rules

namespace PaymentGateway

open Lib

/-- Forget which key it is. -/
def eraseKey (key : GoString) : GoString := if key = [] then [] else ascii "key"

@[simp] theorem eraseKey_nil : eraseKey [] = [] := rfl

theorem eraseKey_of_ne {key : GoString} (h : key ≠ []) : eraseKey key = ascii "key" := if_neg h

@[simp] theorem eraseKey_eq_nil {key : GoString} : eraseKey key = [] ↔ key = [] := by
  unfold eraseKey
  split_ifs with h
  · simp [h]
  · simp only [h, iff_false]
    decide

@[simp] theorem eraseKey_eraseKey (key : GoString) : eraseKey (eraseKey key) = eraseKey key := by
  by_cases h : key = []
  · simp [h]
  · rw [eraseKey_of_ne h]
    rfl

/-- A payment up to the time of its last update and the identity of its settlement keys. -/
def Payment.erase (p : Payment) : Payment :=
  { p with
    captureBankOperationKey := eraseKey p.captureBankOperationKey
    refundBankOperationKey := eraseKey p.refundBankOperationKey
    voidBankOperationKey := eraseKey p.voidBankOperationKey
    updatedAt := 0 }

/-- A row up to the time of its last update and the identity of its settlement keys. -/
def PaymentRow.erase (row : PaymentRow) : PaymentRow :=
  { row with
    captureBankOperationKey := row.captureBankOperationKey.map eraseKey
    refundBankOperationKey := row.refundBankOperationKey.map eraseKey
    voidBankOperationKey := row.voidBankOperationKey.map eraseKey
    updatedAt := 0 }

/-- A result up to the time of the last update. -/
def PaymentCommandResult.erase (result : PaymentCommandResult) : PaymentCommandResult :=
  { result with payment := { result.payment with updatedAt := 0 } }

/-- What a method returns, up to the time of the last update. -/
def eraseOutcome (outcome : Outcome) : Outcome := outcome.map PaymentCommandResult.erase

/-- A verdict up to what is erased of its payment. -/
def Verdict.erase : Verdict → Verdict
  | .complete marked failureKind => .complete marked.erase failureKind
  | .release err => .release err

@[simp] theorem Payment.erase_erase (p : Payment) : p.erase.erase = p.erase := by
  simp [Payment.erase]

theorem nullableString_eraseKey (key : GoString) :
    nullableString (eraseKey key) = (nullableString key).map eraseKey := by
  by_cases h : key = []
  · subst h
    rfl
  · simp [nullableString, h]

/-- Rows are erased as the payments they are written from. -/
theorem rowOf_erase (p : Payment) : rowOf p.erase = (rowOf p).erase := by
  simp only [rowOf, Payment.erase, PaymentRow.erase, nullableString_eraseKey]

/-- What a completed command returns depends on the erased payment, up to times. -/
theorem eraseOutcome_completedOutcome (m : Payment) (kind : Option PaymentErrorKind) :
    eraseOutcome (completedOutcome ⟨newPaymentResult m, kind⟩) =
      eraseOutcome (completedOutcome ⟨newPaymentResult m.erase, kind⟩) := by
  cases kind <;> rfl

/-! ## Marks -/

theorem settle_erase (marked : Except DomainError Payment) (kind : Option PaymentErrorKind) :
    (settle marked kind).erase = settle (marked.map Payment.erase) kind := by
  cases marked <;> rfl

namespace Payment

variable (p : Payment) {now : Time}

theorem markAuthorized_erase (bankID : GoString) (expiresAt : Time) (time : now ≠ 0) :
    (p.markAuthorized bankID expiresAt now).map erase =
      (p.erase.markAuthorized bankID expiresAt 1).map erase := by
  simp only [markAuthorized, rejectIf_of_not _ time, rejectIf_of_not _ one_ne_zero, ok_bind,
    map_bind, map_pure, erase, eraseKey_eraseKey]
  rfl

theorem markDeclined_erase (reason : GoString) (time : now ≠ 0) :
    (p.markDeclined reason now).map erase = (p.erase.markDeclined reason 1).map erase := by
  simp only [markDeclined, rejectIf_of_not _ time, rejectIf_of_not _ one_ne_zero, ok_bind, map_bind,
    map_pure, erase, eraseKey_eraseKey]
  rfl

theorem markExpired_erase (time : now ≠ 0) :
    (p.markExpired now).map erase = (p.erase.markExpired 1).map erase := by
  simp only [markExpired, rejectIf_of_not _ time, rejectIf_of_not _ one_ne_zero, ok_bind, map_bind,
    map_pure, erase, eraseKey_eraseKey]
  rfl

theorem markCaptured_erase (bankID : GoString) (time : now ≠ 0) :
    (p.markCaptured bankID now).map erase = (p.erase.markCaptured bankID 1).map erase := by
  simp only [markCaptured, rejectIf_of_not _ time, rejectIf_of_not _ one_ne_zero, ok_bind, map_bind,
    map_pure, erase, eraseKey_eraseKey]
  rfl

theorem markVoided_erase (bankID : GoString) (time : now ≠ 0) :
    (p.markVoided bankID now).map erase = (p.erase.markVoided bankID 1).map erase := by
  simp only [markVoided, rejectIf_of_not _ time, rejectIf_of_not _ one_ne_zero, ok_bind, map_bind,
    map_pure, erase, eraseKey_eraseKey]
  rfl

theorem markRefunded_erase (bankID : GoString) (time : now ≠ 0) :
    (p.markRefunded bankID now).map erase = (p.erase.markRefunded bankID 1).map erase := by
  simp only [markRefunded, rejectIf_of_not _ time, rejectIf_of_not _ one_ne_zero, ok_bind, map_bind,
    map_pure, erase, eraseKey_eraseKey]
  rfl

end Payment

/-- A method's verdict depends on its payment only up to what is erased, and not on the time. -/
theorem Operation.verdict_erase (operation : Operation) (p : Payment) {now : Time}
    (answer : BankAnswer) (time : now ≠ 0) :
    (operation.verdict p now answer).map Verdict.erase =
      (operation.verdict p.erase 1 answer).map Verdict.erase := by
  have happly : ∀ result, (applyAuthorizationOutcome p result now).map Payment.erase =
      (applyAuthorizationOutcome p.erase result 1).map Payment.erase := by
    intro result
    unfold applyAuthorizationOutcome
    split_ifs
    · exact p.markDeclined_erase _ time
    · exact p.markAuthorized_erase _ _ time
  have hfailure : ∀ err, (settlementFailure p now err).erase =
      (settlementFailure p.erase 1 err).erase := by
    intro err
    unfold settlementFailure
    split_ifs
    · rw [settle_erase, settle_erase, p.markExpired_erase time]
    · rfl
  -- An answer of another endpoint has no verdict on either side.
  cases operation with
  | authorizePayment =>
    cases answer with
    | failed err =>
      simp only [Operation.verdict, authorizePaymentVerdict]
      split_ifs
      · simp [Verdict.erase]
      · rfl
    | authorization result =>
      simp only [Operation.verdict, authorizePaymentVerdict, Option.map_some, settle_erase, happly]
    | capture | void | refund => rfl
  | retryAuthorization =>
    cases answer with
    | authorization result =>
      simp only [Operation.verdict, retryAuthorizationVerdict, Option.map_some, settle_erase,
        happly]
    | failed | capture | void | refund => rfl
  | capturePayment =>
    cases answer with
    | failed err =>
      simp only [Operation.verdict, capturePaymentVerdict, Option.map_some, hfailure]
    | capture bankCaptureID =>
      simp only [Operation.verdict, capturePaymentVerdict, Option.map_some, settle_erase,
        p.markCaptured_erase _ time]
    | authorization | void | refund => rfl
  | voidPayment =>
    cases answer with
    | failed err => simp only [Operation.verdict, voidPaymentVerdict, Option.map_some, hfailure]
    | void bankVoidID =>
      simp only [Operation.verdict, voidPaymentVerdict, Option.map_some, settle_erase,
        p.markVoided_erase _ time]
    | authorization | capture | refund => rfl
  | refundPayment =>
    cases answer with
    | refund bankRefundID =>
      simp only [Operation.verdict, refundPaymentVerdict, Option.map_some, settle_erase,
        p.markRefunded_erase _ time]
    | failed | authorization | capture | void => rfl

namespace Marked

variable {p m : Payment} {now : Time} {operation : Operation} {answer : BankAnswer}
  {kind : Option PaymentErrorKind}

/-- A marked payment is the one that the verdict completes with. -/
theorem verdict_eq (mark : Marked p now operation answer m kind) :
    operation.verdict p now answer = some (.complete m kind) := by
  cases mark with
  | unknown err unknown => simp [Operation.verdict, authorizePaymentVerdict, unknown]
  | authorized _ result _ authorizes approved hmark =>
    rcases authorizes with rfl | rfl <;>
      simp [Operation.verdict, authorizePaymentVerdict, retryAuthorizationVerdict,
        applyAuthorizationOutcome, approved, hmark, settle]
  | declined _ result _ authorizes declined hmark =>
    rcases authorizes with rfl | rfl <;>
      simp [Operation.verdict, authorizePaymentVerdict, retryAuthorizationVerdict,
        applyAuthorizationOutcome, declined, hmark, settle]
  | captured _ _ hmark => simp [Operation.verdict, capturePaymentVerdict, hmark, settle]
  | voided _ _ hmark => simp [Operation.verdict, voidPaymentVerdict, hmark, settle]
  | refunded _ _ hmark => simp [Operation.verdict, refundPaymentVerdict, hmark, settle]
  | expired _ err _ settles expired hmark =>
    rcases settles with rfl | rfl <;>
      simp [Operation.verdict, capturePaymentVerdict, voidPaymentVerdict, settlementFailure,
        expired, hmark, settle]

/-- A command on an existing payment is marked at a time. -/
theorem time_ne_zero (mark : Marked p now operation answer m kind)
    (existing : operation ≠ .authorizePayment) : now ≠ 0 := by
  cases mark with
  | unknown => exact absurd rfl existing
  | authorized _ _ _ _ _ hmark => exact (Payment.markAuthorized_eq_ok.mp hmark).2.2.1
  | declined _ _ _ _ _ hmark => exact (Payment.markDeclined_eq_ok.mp hmark).2.2.1
  | captured _ _ hmark => exact (Payment.markCaptured_eq_ok.mp hmark).2.2.1
  | voided _ _ hmark => exact (Payment.markVoided_eq_ok.mp hmark).2.2.1
  | refunded _ _ hmark => exact (Payment.markRefunded_eq_ok.mp hmark).2.2.1
  | expired _ _ _ _ _ hmark => exact (Payment.markExpired_eq_ok.mp hmark).2.1

end Marked

end PaymentGateway
