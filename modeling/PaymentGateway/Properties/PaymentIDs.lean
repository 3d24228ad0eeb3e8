/-
# The grammar of payment ids

A payment id is checked twice: by `ParsePaymentID` on its way in, with a loop that
tests a length in bytes and then walks over runes, and by the CHECK constraint of
both tables, with a regular expression. The two accept the same strings, and what
they accept is the plain grammar of a prefixed UUID: an id that the router lets
through can be stored, and no multi-byte rune or invalid byte slips past the loop.
-/

import Mathlib.Computability.RegularExpressions
import PaymentGateway.Store.Row

namespace PaymentGateway

/-! ## The grammar -/

/-- A run of `n` ASCII hex digits. -/
def IsHexRun (n : ℕ) (value : GoString) : Prop :=
  value.length = n ∧ ∀ b ∈ value, ByteClass.hex.accepts b = true

/-- `pay_` and five runs of hex digits separated by single dashes. -/
def IsPaymentID (value : GoString) : Prop :=
  ∃ a b c d e : GoString,
    IsHexRun 8 a ∧ IsHexRun 4 b ∧ IsHexRun 4 c ∧ IsHexRun 4 d ∧ IsHexRun 12 e ∧
      value = ascii "pay_" ++ a ++ ascii "-" ++ b ++ ascii "-" ++ c ++ ascii "-" ++ d ++
        ascii "-" ++ e

theorem matchesPattern_replicate_hex_iff {n : ℕ} {value : GoString} :
    matchesPattern (.replicate n .hex) value = true ↔ IsHexRun n value := by
  induction n generalizing value with
  | zero => cases value <;> simp [matchesPattern, IsHexRun]
  | succ n ih =>
    cases value with
    | nil => simp [List.replicate_succ, matchesPattern, IsHexRun]
    | cons b value =>
      simp only [List.replicate_succ, matchesPattern, Bool.and_eq_true, ih, IsHexRun,
        List.length_cons, Nat.add_right_cancel_iff, List.forall_mem_cons]
      tauto

theorem matchesPattern_paymentIDPattern_iff {value : GoString} :
    matchesPattern paymentIDPattern value = true ↔ IsPaymentID value := by
  have hdash : ([.exact 0x2D] : List ByteClass) = (ascii "-").map .exact := rfl
  rw [paymentIDPattern, uuidPattern, hdash]
  simp only [matchesPattern_append_iff, matchesPattern_exact_iff, matchesPattern_replicate_hex_iff]
  constructor
  · rintro ⟨_, _, rfl, rfl, _, e, rfl, ⟨_, _, rfl, ⟨_, d, rfl, ⟨_, _, rfl, ⟨_, c, rfl, ⟨_, _, rfl,
      ⟨_, b, rfl, ⟨a, _, rfl, ha, rfl⟩, hb⟩, rfl⟩, hc⟩, rfl⟩, hd⟩, rfl⟩, he⟩
    exact ⟨a, b, c, d, e, ha, hb, hc, hd, he, by simp only [List.append_assoc]⟩
  · rintro ⟨a, b, c, d, e, ha, hb, hc, hd, he, rfl⟩
    exact ⟨_, _, by simp only [List.append_assoc], rfl, _, e, rfl, ⟨_, _, rfl, ⟨_, d, rfl,
      ⟨_, _, rfl, ⟨_, c, rfl, ⟨_, _, rfl, ⟨_, b, rfl, ⟨a, _, rfl, ha, rfl⟩, hb⟩, rfl⟩, hc⟩, rfl⟩,
      hd⟩, rfl⟩, he⟩

/-! ## The regular expression -/

open RegularExpression in
/-- A bracket expression: one of the listed bytes. -/
def oneOf (bytes : GoString) : RegularExpression UInt8 :=
  (bytes.map char).foldr (· + ·) 0

open RegularExpression in
/-- A literal. -/
def literal (bytes : GoString) : RegularExpression UInt8 :=
  (bytes.map char).foldr (· * ·) 1

/-- `[0-9a-fA-F]`. -/
def hexDigitRegex : RegularExpression UInt8 := oneOf (ascii "0123456789abcdefABCDEF")

/-- The CHECK expression on `payments.id` and `idempotency_records.payment_id`,
`^pay_[0-9a-fA-F]{8}-[0-9a-fA-F]{4}-[0-9a-fA-F]{4}-[0-9a-fA-F]{4}-[0-9a-fA-F]{12}$`. The anchors
make it a match of the whole value. -/
def paymentIDRegex : RegularExpression UInt8 :=
  literal (ascii "pay_") * (hexDigitRegex ^ 8 * literal (ascii "-") * hexDigitRegex ^ 4 *
    literal (ascii "-") * hexDigitRegex ^ 4 * literal (ascii "-") * hexDigitRegex ^ 4 *
    literal (ascii "-") * hexDigitRegex ^ 12)

/-- A pattern of byte classes has the language of a regular expression. -/
def Denotes (pattern : List ByteClass) (regex : RegularExpression UInt8) : Prop :=
  ∀ value, matchesPattern pattern value = true ↔ value ∈ regex.matches'

namespace Denotes

variable {pattern first second : List ByteClass} {regex regex₁ regex₂ : RegularExpression UInt8}

theorem mul (h₁ : Denotes first regex₁) (h₂ : Denotes second regex₂) :
    Denotes (first ++ second) (regex₁ * regex₂) := by
  intro value
  rw [RegularExpression.matches'_mul, Language.mem_mul, matchesPattern_append_iff]
  simp only [h₁ _, h₂ _]
  constructor
  · rintro ⟨start, rest, hsplit, hstart, hrest⟩
    exact ⟨start, hstart, rest, hrest, hsplit⟩
  · rintro ⟨start, hstart, rest, hrest, hsplit⟩
    exact ⟨start, rest, hsplit, hstart, hrest⟩

theorem one : Denotes [] 1 := by
  intro value
  rw [RegularExpression.matches'_epsilon, Language.mem_one]
  cases value <;> simp [matchesPattern]

theorem pow {c : ByteClass} (h : Denotes [c] regex) (n : ℕ) :
    Denotes (.replicate n c) (regex ^ n) := by
  induction n with
  | zero => exact one
  | succ n ih =>
    rw [List.replicate_succ']
    exact ih.mul h

theorem exact (b : UInt8) : Denotes [.exact b] (.char b) := by
  intro value
  rw [RegularExpression.matches'_char, ← List.map_singleton, matchesPattern_exact_iff]
  exact Set.mem_singleton_iff.symm

theorem literal (bytes : GoString) : Denotes (bytes.map .exact) (literal bytes) := by
  induction bytes with
  | nil => exact one
  | cons b bytes ih => exact (exact b).mul ih

end Denotes

theorem mem_oneOf_iff {bytes value : GoString} :
    value ∈ (oneOf bytes).matches' ↔ ∃ b ∈ bytes, value = [b] := by
  induction bytes with
  | nil =>
    constructor
    · intro h
      cases h
    · rintro ⟨b, hb, -⟩
      cases hb
  | cons b bytes ih =>
    rw [oneOf, List.map_cons, List.foldr_cons, RegularExpression.matches'_add,
      Language.mem_add, RegularExpression.matches'_char]
    simp only [List.mem_cons, exists_eq_or_imp]
    exact or_congr Set.mem_singleton_iff ih

theorem mem_hexDigits_iff (b : UInt8) :
    b ∈ ascii "0123456789abcdefABCDEF" ↔ ByteClass.hex.accepts b = true := by
  have hall : ∀ n < 256, UInt8.ofNat n ∈ ascii "0123456789abcdefABCDEF" ↔
      ByteClass.hex.accepts (UInt8.ofNat n) = true := by decide +kernel
  simpa using hall b.toNat b.toNat_lt

theorem denotes_hexDigitRegex : Denotes [.hex] hexDigitRegex := by
  intro value
  rw [hexDigitRegex, mem_oneOf_iff]
  simp only [mem_hexDigits_iff]
  cases value with
  | nil => simp [matchesPattern]
  | cons b value =>
    cases value with
    | nil => simp [matchesPattern]
    | cons b' value => simp [matchesPattern]

theorem denotes_paymentIDRegex : Denotes paymentIDPattern paymentIDRegex := by
  have hhex : ∀ n, Denotes (.replicate n .hex) (hexDigitRegex ^ n) := denotes_hexDigitRegex.pow
  have hdash : Denotes [.exact 0x2D] (literal (ascii "-")) := .literal (ascii "-")
  exact (Denotes.literal _).mul ((((((((((hhex 8).mul hdash).mul (hhex 4)).mul hdash).mul
    (hhex 4)).mul hdash).mul (hhex 4)).mul hdash).mul (hhex 12)))

/-! ## The parser -/

theorem parsePaymentID_eq_ok_iff {value id : GoString} :
    parsePaymentID value = .ok id ↔ validatePaymentID value = .ok () ∧ id = value := by
  unfold parsePaymentID
  cases validatePaymentID value with
  | error err =>
    constructor
    · intro h
      cases h
    · intro h
      cases h.1
  | ok =>
    constructor
    · intro h
      cases h
      exact ⟨rfl, rfl⟩
    · rintro ⟨-, rfl⟩
      rfl

/-- `ParsePaymentID` accepts exactly the strings of the grammar, which are exactly the language of
the CHECK expression, and returns what it accepts unchanged. -/
theorem parsePaymentID_accepts_iff (value : GoString) :
    ((∃ id, parsePaymentID value = .ok id) ↔ IsPaymentID value) ∧
      (IsPaymentID value ↔ value ∈ paymentIDRegex.matches') ∧
      (value ∈ paymentIDRegex.matches' ↔ matchesPattern paymentIDPattern value = true) ∧
      ∀ id, parsePaymentID value = .ok id → id = value := by
  refine ⟨?_, ?_, (denotes_paymentIDRegex value).symm,
    fun id h => (parsePaymentID_eq_ok_iff.mp h).2⟩
  · simp only [parsePaymentID_eq_ok_iff, exists_and_left, exists_eq, and_true]
    rw [validatePaymentID_iff_matchesPattern, matchesPattern_paymentIDPattern_iff]
  · rw [← matchesPattern_paymentIDPattern_iff, denotes_paymentIDRegex value]

end PaymentGateway
