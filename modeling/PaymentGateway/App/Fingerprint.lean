/-
# Fingerprints

The request and card fingerprints are hex digests of newline-separated fields,
keyed with the configured secret. The digest is a parameter `mac`; what is fed
to it is written out here, and the fields that matter for a later bank request
can be read back from it: everything from the amount on in an authorization
request, and the whole card fingerprint.
-/

import PaymentGateway.App.Commands
import PaymentGateway.Lib.Fields
import Mathlib.Data.Nat.Digits.Lemmas

namespace PaymentGateway

open Lib

/-- The newline byte. -/
def newline : UInt8 := 0x0A

/-- The decimal digits of a natural number. -/
def formatNat (n : ℕ) : GoString :=
  if n = 0 then [0x30] else (Nat.digits 10 n).reverse.map fun d => UInt8.ofNat (0x30 + d)

/-- The verb `%d`. -/
def formatInt (n : ℤ) : GoString :=
  if n < 0 then 0x2D :: formatNat n.natAbs else formatNat n.natAbs

/-- What `authorizePaymentRequestFingerprint` writes to the hash. -/
def authorizePaymentPayload (command : AuthorizePaymentCommand) : GoString :=
  joinFields newline Operation.authorizePayment.text
    [command.orderID, command.customerID, formatInt command.amountCents, command.card.number,
      formatInt command.card.expiryMonth, formatInt command.card.expiryYear]

/-- What `retryAuthorizationRequestFingerprint` writes to the hash. -/
def retryAuthorizationPayload (command : RetryAuthorizationCommand) : GoString :=
  joinFields newline Operation.retryAuthorization.text
    [command.paymentID, command.card.number, formatInt command.card.expiryMonth,
      formatInt command.card.expiryYear]

/-- What the fingerprints of the other three operations write to the hash. -/
def paymentOperationPayload (operation : Operation) (command : PaymentOperationCommand) :
    GoString :=
  joinFields newline operation.text [command.paymentID]

/-- What `capturePaymentRequestFingerprint` writes to the hash. -/
def capturePaymentPayload : CapturePaymentCommand → GoString :=
  paymentOperationPayload .capturePayment

/-- What `voidPaymentRequestFingerprint` writes to the hash. -/
def voidPaymentPayload : VoidPaymentCommand → GoString :=
  paymentOperationPayload .voidPayment

/-- What `refundPaymentRequestFingerprint` writes to the hash. -/
def refundPaymentPayload : RefundPaymentCommand → GoString :=
  paymentOperationPayload .refundPayment

/-- What `authorizationCardFingerprint` writes to the hash. -/
def authorizationCardPayload (card : CardDetails) : GoString :=
  joinFields newline (ascii "authorization")
    [card.number, formatInt card.expiryMonth, formatInt card.expiryYear]

/-- What the request fingerprint of a command is the digest of. -/
def Command.payload : Command → GoString
  | .authorizePayment command => authorizePaymentPayload command
  | .retryAuthorization command => retryAuthorizationPayload command
  | .capturePayment command => capturePaymentPayload command
  | .voidPayment command => voidPaymentPayload command
  | .refundPayment command => refundPaymentPayload command

/-! ## Reading fields back -/

private theorem digit_toNat {d : ℕ} (h : d < 10) : (UInt8.ofNat (0x30 + d)).toNat = 0x30 + d := by
  rw [UInt8.toNat_ofNat']
  omega

/-- Every byte of a formatted natural number is a digit. -/
theorem formatNat_digits {n : ℕ} {b : UInt8} (h : b ∈ formatNat n) :
    0x30 ≤ b.toNat ∧ b.toNat ≤ 0x39 := by
  unfold formatNat at h
  split_ifs at h with hn
  · rw [List.mem_singleton] at h
    subst h
    decide
  · rw [List.map_reverse, List.mem_reverse, List.mem_map] at h
    obtain ⟨d, hd, rfl⟩ := h
    have hlt := Nat.digits_lt_base (by decide) hd
    rw [digit_toNat hlt]
    omega

/-- The number that a string of digits stands for. -/
def readNat (value : GoString) : ℕ :=
  Nat.ofDigits 10 (value.reverse.map fun b => b.toNat - 0x30)

theorem readNat_formatNat (n : ℕ) : readNat (formatNat n) = n := by
  by_cases hn : n = 0
  · subst hn
    rfl
  · have hdigits : (Nat.digits 10 n).map (fun d => (UInt8.ofNat (0x30 + d)).toNat - 0x30) =
        Nat.digits 10 n := by
      refine (List.map_congr_left fun d hd => ?_).trans (List.map_id _)
      rw [digit_toNat (Nat.digits_lt_base (by decide) hd), Nat.add_sub_cancel_left, id]
    rw [formatNat, if_neg hn, readNat, ← List.map_reverse, List.reverse_reverse, List.map_map]
    exact (congrArg (Nat.ofDigits 10) hdigits).trans (Nat.ofDigits_digits 10 n)

theorem formatNat_injective : Function.Injective formatNat :=
  Function.LeftInverse.injective readNat_formatNat

theorem formatInt_injective : Function.Injective formatInt := by
  -- A minus sign is not a digit, so a negative number reads unlike any other.
  have hsign : ∀ n m : ℕ, (0x2D : UInt8) :: formatNat n ≠ formatNat m := by
    intro n m h
    have hdigit := formatNat_digits (n := m) (b := 0x2D) (by simp [← h])
    exact absurd hdigit.1 (by decide)
  intro n m h
  unfold formatInt at h
  split_ifs at h with hn hm hm
  · have := formatNat_injective (List.cons.inj h).2
    omega
  · exact absurd h (hsign _ _)
  · exact absurd h.symm (hsign _ _)
  · have := formatNat_injective h
    omega

theorem newline_notMem_formatInt (n : ℤ) : newline ∉ formatInt n := by
  have hnat : ∀ k : ℕ, newline ∉ formatNat k :=
    fun k hmem => absurd (formatNat_digits hmem).1 (by decide)
  unfold formatInt
  split_ifs
  · rw [List.mem_cons, not_or]
    exact ⟨by decide, hnat _⟩
  · exact hnat _

/-- A string of digits in the sense of `allDigits` has only digit bytes. -/
theorem digit_of_allDigits {value : GoString} (h : allDigits value = true) {b : UInt8}
    (hb : b ∈ value) : 0x30 ≤ b.toNat ∧ b.toNat ≤ 0x39 := by
  unfold allDigits at h
  split_ifs at h
  have hdigits : ∀ visit ∈ rangeRunes value, 0x30 ≤ visit.2 ∧ visit.2 ≤ 0x39 := by
    intro visit hvisit
    have := List.all_eq_true.mp h visit hvisit
    simpa using this
  have hbytes := rangeRunes_of_ascii fun visit hv => (hdigits visit hv).2.trans_lt (by decide)
  obtain ⟨i, hi, rfl⟩ := List.mem_iff_getElem.mp hb
  refine hdigits (i, (value[i]).toNat) ?_
  rw [hbytes, List.mem_map]
  exact ⟨(value[i], i), by simp [List.mem_zipIdx_iff_getElem?], rfl⟩

theorem CardDetails.newline_notMem_number (card : CardDetails) : newline ∉ card.number :=
  fun hmem => absurd (digit_of_allDigits card.number_valid.1 hmem).1 (by decide)

/-- The card fields that fingerprints cover. -/
structure SameCard (first second : CardDetails) : Prop where
  number : first.number = second.number
  expiryMonth : first.expiryMonth = second.expiryMonth
  expiryYear : first.expiryYear = second.expiryYear

theorem newline_notMem_cardFields (card : CardDetails) :
    ∀ field ∈ [card.number, formatInt card.expiryMonth, formatInt card.expiryYear],
      newline ∉ field := by
  simp only [List.mem_cons, List.not_mem_nil, or_false, forall_eq_or_imp, forall_eq]
  exact ⟨card.newline_notMem_number, newline_notMem_formatInt _, newline_notMem_formatInt _⟩

/-- Equal card payloads come from the same card, up to the CVV. -/
theorem authorizationCardPayload_inj {first second : CardDetails}
    (h : authorizationCardPayload first = authorizationCardPayload second) :
    SameCard first second := by
  have hfields := (joinFields_inj (newline_notMem_cardFields first)
    (newline_notMem_cardFields second) rfl h).2
  simp only [List.cons.injEq, and_true] at hfields
  exact ⟨hfields.1, formatInt_injective hfields.2.1, formatInt_injective hfields.2.2⟩

theorem authorizationCardPayload_congr {first second : CardDetails} (h : SameCard first second) :
    authorizationCardPayload first = authorizationCardPayload second := by
  simp only [authorizationCardPayload, h.number, h.expiryMonth, h.expiryYear]

/-- Equal authorization request payloads agree on the separator-free fields at their end, and
on what the order and customer ids make together. -/
theorem authorizePaymentPayload_fields {first second : AuthorizePaymentCommand}
    (h : authorizePaymentPayload first = authorizePaymentPayload second) :
    first.orderID ++ newline :: first.customerID =
        second.orderID ++ newline :: second.customerID ∧
      first.amountCents = second.amountCents ∧ SameCard first.card second.card := by
  have hlate : ∀ command : AuthorizePaymentCommand,
      ∀ field ∈ [formatInt command.amountCents, command.card.number,
        formatInt command.card.expiryMonth, formatInt command.card.expiryYear],
      newline ∉ field := by
    intro command field hfield
    rcases List.mem_cons.mp hfield with rfl | hfield
    · exact newline_notMem_formatInt _
    · exact newline_notMem_cardFields command.card field hfield
  have hsplit : ∀ command : AuthorizePaymentCommand, authorizePaymentPayload command =
      joinFields newline
        (joinFields newline Operation.authorizePayment.text [command.orderID, command.customerID])
        [formatInt command.amountCents, command.card.number, formatInt command.card.expiryMonth,
          formatInt command.card.expiryYear] :=
    fun command => joinFields_append newline _ [command.orderID, command.customerID] _
  rw [hsplit first, hsplit second] at h
  obtain ⟨hfront, hfields⟩ := joinFields_inj (hlate first) (hlate second) rfl h
  simp only [List.cons.injEq, and_true] at hfields
  obtain ⟨hamount, hnumber, hmonth, hyear⟩ := hfields
  refine ⟨?_, formatInt_injective hamount,
    ⟨hnumber, formatInt_injective hmonth, formatInt_injective hyear⟩⟩
  simpa [joinFields] using hfront

/-- Equal authorization request payloads agree on the amount and the card. The order
and customer ids stand in front and may contain newlines, so they need not agree. -/
theorem authorizePaymentPayload_inj {first second : AuthorizePaymentCommand}
    (h : authorizePaymentPayload first = authorizePaymentPayload second) :
    first.amountCents = second.amountCents ∧ SameCard first.card second.card :=
  (authorizePaymentPayload_fields h).2

/-! ## Requests that share a fingerprint -/

/-- The fields of an authorization request that its fingerprint is meant to cover. -/
structure SameRequest (first second : AuthorizePaymentCommand) : Prop where
  orderID : first.orderID = second.orderID
  customerID : first.customerID = second.customerID
  amountCents : first.amountCents = second.amountCents
  card : SameCard first.card second.card

/-- Two authorization requests with the same payload are the same request exactly when their
order ids contain equally many newlines. Trimming keeps the newlines inside an id, so the
boundary between the order id and the customer id is not marked in the payload. -/
theorem sameRequest_iff_of_payload_eq (first second : AuthorizePaymentCommand)
    (h : authorizePaymentPayload first = authorizePaymentPayload second) :
    SameRequest first second ↔ first.orderID.count newline = second.orderID.count newline := by
  obtain ⟨hids, hamount, hcard⟩ := authorizePaymentPayload_fields h
  constructor
  · intro hsame
    rw [hsame.orderID]
  · intro hcount
    obtain ⟨horder, hcustomer⟩ := append_sep_inj_of_count hcount hids
    exact ⟨horder, hcustomer, hamount, hcard⟩

/-- Spaces around the inputs do not matter: both commands are for `order-1` of `customer-1`. -/
theorem sameRequest_iff_of_payload_eq_trimmed :
    ∃ first second : AuthorizePaymentCommand,
      newAuthorizePaymentCommand (ascii "order-1") (ascii "customer-1") 100
        (ascii "4111111111111111") (ascii "123") 1 2030 (ascii "k") = .ok first ∧
      newAuthorizePaymentCommand (ascii " order-1\n") (ascii "customer-1 ") 100
        (ascii "4111111111111111") (ascii "999") 1 2030 (ascii "k") = .ok second ∧
      (SameRequest first second ↔
        first.orderID.count newline = second.orderID.count newline) := by
  exact ⟨_, _, rfl, rfl, sameRequest_iff_of_payload_eq _ _ (by decide)⟩

/-- Order `a\nb` of customer `c` and order `a` of customer `b\nc` write the same payload. -/
theorem payload_eq_of_inner_newline :
    ∃ first second : AuthorizePaymentCommand,
      newAuthorizePaymentCommand (ascii "a\nb") (ascii "c") 100 (ascii "4111111111111111")
        (ascii "123") 1 2030 (ascii "k") = .ok first ∧
      newAuthorizePaymentCommand (ascii "a") (ascii "b\nc") 100 (ascii "4111111111111111")
        (ascii "123") 1 2030 (ascii "k") = .ok second ∧
      authorizePaymentPayload first = authorizePaymentPayload second ∧
      first.orderID ≠ second.orderID ∧ first.customerID ≠ second.customerID := by
  exact ⟨_, _, rfl, rfl, by decide, by decide, by decide⟩

/-! ## Separation of the fingerprints -/

theorem Operation.text_injective : Function.Injective Operation.text := by
  intro first second h
  revert h
  cases first <;> cases second <;> decide

/-- No operation has the tag of the card fingerprint. -/
theorem Operation.text_ne_authorization (operation : Operation) :
    operation.text ≠ ascii "authorization" := by
  cases operation <;> decide

/-- What the gateway takes a fingerprint of: a command, or the details of a card. -/
inductive Fingerprinted
  | command (command : Command)
  | card (card : CardDetails)

namespace Fingerprinted

/-- The first field of what is written to the hash. -/
def tag : Fingerprinted → GoString
  | command value => value.operation.text
  | card _ => ascii "authorization"

/-- What is written to the hash. -/
def payload : Fingerprinted → GoString
  | command value => value.payload
  | card value => authorizationCardPayload value

/-- Two values are of one kind and agree on what their fingerprint covers. Of an authorization
request that is at least the amount and the card. -/
def Agrees : Fingerprinted → Fingerprinted → Prop
  | command (.authorizePayment first), command (.authorizePayment second) =>
    first.amountCents = second.amountCents ∧ SameCard first.card second.card
  | command (.retryAuthorization first), command (.retryAuthorization second) =>
    first.paymentID = second.paymentID ∧ SameCard first.card second.card
  | command (.capturePayment first), command (.capturePayment second) =>
    first.paymentID = second.paymentID
  | command (.voidPayment first), command (.voidPayment second) =>
    first.paymentID = second.paymentID
  | command (.refundPayment first), command (.refundPayment second) =>
    first.paymentID = second.paymentID
  | card first, card second => SameCard first second
  | _, _ => False

theorem newline_notMem_tag (value : Fingerprinted) : newline ∉ value.tag := by
  have htext : ∀ operation : Operation, newline ∉ operation.text := by
    intro operation
    cases operation <;> decide
  have hcard : newline ∉ ascii "authorization" := by decide
  cases value with
  | command value => exact htext value.operation
  | card value => exact hcard

theorem payload_eq_joinFields (value : Fingerprinted) :
    ∃ field rest, value.payload = joinFields newline value.tag (field :: rest) := by
  cases value with
  | command value => cases value <;> exact ⟨_, _, rfl⟩
  | card value => exact ⟨_, _, rfl⟩

/-- Equal payloads start with the same tag. -/
theorem tag_eq_of_payload_eq {first second : Fingerprinted} (h : first.payload = second.payload) :
    first.tag = second.tag := by
  obtain ⟨field, rest, hfirst⟩ := first.payload_eq_joinFields
  obtain ⟨field', rest', hsecond⟩ := second.payload_eq_joinFields
  rw [hfirst, hsecond] at h
  exact joinFields_first_inj first.newline_notMem_tag second.newline_notMem_tag h

end Fingerprinted

theorem retryAuthorizationPayload_inj {first second : RetryAuthorizationCommand}
    (h : retryAuthorizationPayload first = retryAuthorizationPayload second) :
    first.paymentID = second.paymentID ∧ SameCard first.card second.card := by
  have hsplit : ∀ command : RetryAuthorizationCommand, retryAuthorizationPayload command =
      joinFields newline
        (joinFields newline Operation.retryAuthorization.text [command.paymentID])
        [command.card.number, formatInt command.card.expiryMonth,
          formatInt command.card.expiryYear] :=
    fun command => joinFields_append newline _ [command.paymentID] _
  rw [hsplit first, hsplit second] at h
  obtain ⟨hfront, hfields⟩ := joinFields_inj (newline_notMem_cardFields first.card)
    (newline_notMem_cardFields second.card) rfl h
  simp only [List.cons.injEq, and_true] at hfields
  refine ⟨?_, hfields.1, formatInt_injective hfields.2.1, formatInt_injective hfields.2.2⟩
  simpa [joinFields] using hfront

theorem paymentOperationPayload_inj {operation : Operation} {first second : PaymentOperationCommand}
    (h : paymentOperationPayload operation first = paymentOperationPayload operation second) :
    first.paymentID = second.paymentID := by
  simpa [paymentOperationPayload, joinFields] using h

/-- Values with the same input to the HMAC are of one kind and agree on what their fingerprint
covers. -/
theorem Fingerprinted.agrees_of_payload_eq (first second : Fingerprinted)
    (h : first.payload = second.payload) : first.Agrees second := by
  -- The tag decides the kind; within a kind the fields are read back from the end.
  have htag := tag_eq_of_payload_eq h
  cases first with
  | command first =>
    cases second with
    | command second =>
      have hoperation : first.operation = second.operation := Operation.text_injective htag
      cases first <;> cases second <;> cases hoperation
      · exact authorizePaymentPayload_inj h
      · exact retryAuthorizationPayload_inj h
      all_goals exact paymentOperationPayload_inj h
    | card second => exact absurd htag (Operation.text_ne_authorization _)
  | card first =>
    cases second with
    | command second => exact absurd htag.symm (Operation.text_ne_authorization _)
    | card second => exact authorizationCardPayload_inj h

/-- Two captures of one payment under different keys, one with spaces around the payment id. -/
theorem Fingerprinted.agrees_of_payload_eq_capture :
    ∃ first second : CapturePaymentCommand,
      newCapturePaymentCommand (ascii "pay_00000000-0000-4000-8000-000000000000") (ascii "k0") =
        .ok first ∧
      newCapturePaymentCommand (ascii " pay_00000000-0000-4000-8000-000000000000 ") (ascii "k1") =
        .ok second ∧
      (Fingerprinted.command (.capturePayment first)).Agrees (.command (.capturePayment second)) :=
  ⟨_, _, rfl, rfl, agrees_of_payload_eq _ _ (by decide)⟩

end PaymentGateway
