/-
# Instants as text

An instant counts nanoseconds from the first day of the year 1. Instants are written as
RFC 3339 texts, by the gateway in its envelopes and by the bank in its responses, and
the bank client reads them as `time.Parse` does: the fraction of a second may have any
number of digits, of which nine count, and a zone may be given by its offset. Instants
before the year 1 are all taken for the first nanosecond after its start; what matters
of them is that they are not the zero instant.

What is written is read back, up to the year 9999: a year has four digits.
-/

import PaymentGateway.App.Fingerprint
import PaymentGateway.Lib.Calendar
import PaymentGateway.Lib.Json
import Mathlib.Data.List.DropRight

namespace PaymentGateway

open Lib Lib.Calendar
open Lib.Json (isDigit isDigit_iff)

/-! ## Writing -/

/-- A number with at least `width` digits. -/
def padNat (width n : ℕ) : GoString :=
  List.replicate (width - (formatNat n).length) 0x30 ++ formatNat n

/-- The year that an instant lies in. -/
def yearOf (instant : Time) : ℕ := (dateOf (instant / 1000000000 / 86400)).year

/-- The date of a day since the start of the year 1. -/
def formatDate (day : ℕ) : GoString :=
  let date := dateOf day
  padNat 4 date.year ++ ascii "-" ++ padNat 2 date.month ++ ascii "-" ++ padNat 2 date.day

/-- The fraction of a second, without the zeros at its end. -/
def formatFraction (nanos : ℕ) : GoString :=
  if nanos = 0 then [] else
    ascii "." ++ (padNat 9 nanos).rdropWhile (· = 0x30)

/-- `Format(time.RFC3339Nano)` of an instant in UTC. -/
def formatRFC3339Nano (instant : Time) : GoString :=
  let seconds := instant / 1000000000
  let clock := seconds % 86400
  formatDate (seconds / 86400) ++ ascii "T" ++ padNat 2 (clock / 3600) ++ ascii ":" ++
    padNat 2 (clock / 60 % 60) ++ ascii ":" ++ padNat 2 (clock % 60) ++
    formatFraction (instant % 1000000000) ++ ascii "Z"

example : formatRFC3339Nano 63904069805123456789 = ascii "2026-01-15T10:30:05.123456789Z" := by
  decide +kernel

example : formatRFC3339Nano (59 * 86400 * 1000000000) = ascii "0001-03-01T00:00:00Z" := by
  decide +kernel

/-! ## Reading -/

/-- Read a byte. -/
def skipByte (b : UInt8) : GoString → Option GoString
  | [] => none
  | c :: rest => if c = b then some rest else none

/-- Read a number of so many digits. -/
def fixedNum (width : ℕ) (text : GoString) : Option (ℕ × GoString) :=
  if (text.take width).length = width ∧ (text.take width).all isDigit then
    some (readNat (text.take width), text.drop width)
  else none

/-- `parseNanoseconds`: read a fraction of a second, if there is one. -/
def parseNanoseconds : GoString → ℕ × GoString
  | b :: digit :: rest =>
    if (b = '.'.toUInt8 ∨ b = ','.toUInt8) ∧ isDigit digit then
      let digits := ((digit :: rest).takeWhile isDigit).take 9
      (readNat digits * 10 ^ (9 - digits.length), (digit :: rest).dropWhile isDigit)
    else (0, b :: digit :: rest)
  | text => (0, text)

/-- Read the offset of a zone, in seconds. Offsets of 24 hours and of 60 minutes pass. -/
def zoneOffset : GoString → Option (ℤ × GoString)
  | [] => none
  | b :: rest =>
    if b = 'Z'.toUInt8 then some (0, rest)
    else if b = '+'.toUInt8 ∨ b = '-'.toUInt8 then do
      let (hours, rest) ← fixedNum 2 rest
      let rest ← skipByte ':'.toUInt8 rest
      let (minutes, rest) ← fixedNum 2 rest
      let offset : ℤ := (hours * 60 + minutes) * 60
      if 24 < hours ∨ 60 < minutes then none
      else some (if b = '-'.toUInt8 then -offset else offset, rest)
    else none

/-- The fields of a text that is read. -/
structure Clock where
  date : Date
  hour : ℕ
  minute : ℕ
  second : ℕ
  nanos : ℕ
  offset : ℤ
  deriving DecidableEq, Repr

/-- The instant that the fields stand for. -/
def Clock.instant (clock : Clock) : Option Time :=
  if clock.date.Valid ∧ clock.hour < 24 ∧ clock.minute < 60 ∧ clock.second < 60 then
    let seconds : ℤ := clock.date.number * 86400 + clock.hour * 3600 + clock.minute * 60 +
      clock.second - clock.offset
    if seconds < 0 then some 1 else some (seconds.toNat * 1000000000 + clock.nanos)
  else none

/-- `time.Parse(time.RFC3339, text)`. -/
def parseRFC3339 (text : GoString) : Option Time := do
  let (year, text) ← fixedNum 4 text
  let text ← skipByte '-'.toUInt8 text
  let (month, text) ← fixedNum 2 text
  let text ← skipByte '-'.toUInt8 text
  let (day, text) ← fixedNum 2 text
  let text ← skipByte 'T'.toUInt8 text
  let (hour, text) ← (fixedNum 2 text).or (fixedNum 1 text)
  let text ← skipByte ':'.toUInt8 text
  let (minute, text) ← fixedNum 2 text
  let text ← skipByte ':'.toUInt8 text
  let (second, text) ← fixedNum 2 text
  let (nanos, text) := parseNanoseconds text
  let (offset, text) ← zoneOffset text
  if text ≠ [] then none
  else Clock.instant ⟨⟨year, month, day⟩, hour, minute, second, nanos, offset⟩

example : ["2026-01-15T10:30:05.5Z", "2026-01-15T9:30:05,5-01:00", "2026-02-29T10:30:05Z",
      "0001-01-01T01:00:00+01:00", "0000-12-31T00:00:00Z"].map
        (fun text => parseRFC3339 (ascii text)) =
    [some 63904069805500000000, some 63904069805500000000, none, some 0, some 1] := by
  decide +kernel

/-! ## What is written is read back -/

theorem isDigit_of_mem_padNat {width n : ℕ} {b : UInt8} (h : b ∈ padNat width n) :
    isDigit b = true := by
  rcases List.mem_append.mp h with h | h
  · rw [List.eq_of_mem_replicate h]
    rfl
  · exact isDigit_iff.mpr (formatNat_digits h)

theorem mem_formatFraction {nanos : ℕ} {b : UInt8} (h : b ∈ formatFraction nanos) :
    isDigit b = true ∨ b ∈ ascii "-T:.Z" := by
  unfold formatFraction at h
  split_ifs at h
  · cases h
  · rcases List.mem_append.mp h with h | h
    · exact .inr ((show ascii "." ⊆ ascii "-T:.Z" by decide) h)
    · exact .inl (isDigit_of_mem_padNat ((List.rdropWhile_prefix _ _).subset h))

/-- The bytes that an instant is written with. -/
theorem mem_formatRFC3339Nano {instant : Time} {b : UInt8} (h : b ∈ formatRFC3339Nano instant) :
    isDigit b = true ∨ b ∈ ascii "-T:.Z" := by
  have hliteral : ∀ {text : GoString}, text ⊆ ascii "-T:.Z" → b ∈ text →
      isDigit b = true ∨ b ∈ ascii "-T:.Z" := fun hsubset hb => .inr (hsubset hb)
  simp only [formatRFC3339Nano, formatDate, List.mem_append] at h
  rcases h with (((((((((((h | h) | h) | h) | h) | h) | h) | h) | h) | h) | h) | h) | h
  all_goals first
    | exact .inl (isDigit_of_mem_padNat h)
    | exact mem_formatFraction h
    | exact hliteral (by decide) h

theorem length_padNat {width n : ℕ} (h : n < 10 ^ width) (hwidth : 0 < width) :
    (padNat width n).length = width := by
  have hle : (formatNat n).length ≤ width := by
    unfold formatNat
    split_ifs
    · exact hwidth
    · simpa using (Nat.digits_length_le_iff (by decide) n).mpr h
  simp [padNat, hle]

/-- Zeros in front do not count. -/
theorem readNat_padNat (width n : ℕ) : readNat (padNat width n) = n := by
  rw [padNat, readNat, List.reverse_append, List.map_append, List.reverse_replicate,
    List.map_replicate]
  exact Nat.ofDigits_append_replicate_zero _ |>.trans (readNat_formatNat n)

theorem fixedNum_padNat {width n : ℕ} (h : n < 10 ^ width) (hwidth : 0 < width) (rest : GoString) :
    fixedNum width (padNat width n ++ rest) = some (n, rest) := by
  have hlength := length_padNat h hwidth
  have htake : (padNat width n ++ rest).take width = padNat width n := by
    rw [List.take_append_of_le_length hlength.ge, List.take_of_length_le hlength.le]
  have hdrop : (padNat width n ++ rest).drop width = rest := by
    rw [List.drop_append_of_le_length hlength.ge, List.drop_of_length_le hlength.le,
      List.nil_append]
  rw [fixedNum, htake, hdrop, readNat_padNat,
    if_pos ⟨hlength, List.all_eq_true.mpr fun _ => isDigit_of_mem_padNat⟩]

theorem skipByte_append (b : UInt8) (rest : GoString) : skipByte b ([b] ++ rest) = some rest :=
  if_pos rfl

/-- The zeros at the end of digits stand for a power of ten. -/
theorem readNat_append_zeros (digits : GoString) (zeros : ℕ) :
    readNat (digits ++ List.replicate zeros 0x30) = readNat digits * 10 ^ zeros := by
  simp only [readNat, List.reverse_append, List.reverse_replicate, List.map_append,
    List.map_replicate, Nat.ofDigits_append, List.length_replicate]
  rw [show (0x30 : UInt8).toNat - 0x30 = 0 from rfl, Nat.ofDigits_replicate_zero, Nat.zero_add,
    Nat.mul_comm]

/-- The digits that a fraction is written with, and the zeros that it is written without. -/
theorem exists_zeros (width n : ℕ) : ∃ zeros, padNat width n =
    (padNat width n).rdropWhile (· = 0x30) ++ List.replicate zeros 0x30 := by
  have hzeros : ∀ b ∈ (padNat width n).rtakeWhile (· = 0x30), b = 0x30 := by
    intro b hb
    simpa using List.mem_rtakeWhile_imp hb
  refine ⟨((padNat width n).rtakeWhile (· = 0x30)).length, ?_⟩
  rw [← List.eq_replicate_of_mem hzeros, List.rdropWhile_append_rtakeWhile]

/-- A fraction of at most nine digits. -/
theorem parseNanoseconds_digits {digits : GoString} (hdigits : ∀ b ∈ digits, isDigit b = true)
    (nonempty : digits ≠ []) (short : digits.length ≤ 9) :
    parseNanoseconds (ascii "." ++ (digits ++ ascii "Z")) =
      (readNat digits * 10 ^ (9 - digits.length), ascii "Z") := by
  have htake : (digits ++ ascii "Z").takeWhile isDigit = digits := by
    rw [List.takeWhile_append_of_pos hdigits]
    exact List.append_nil _
  have hdrop : (digits ++ ascii "Z").dropWhile isDigit = ascii "Z" := by
    rw [List.dropWhile_append_of_pos hdigits]
    rfl
  have hall : digits.take 9 = digits := List.take_of_length_le short
  cases digits with
  | nil => exact absurd rfl nonempty
  | cons digit rest =>
    have hparse : parseNanoseconds (ascii "." ++ ((digit :: rest) ++ ascii "Z")) =
        (readNat ((((digit :: rest) ++ ascii "Z").takeWhile isDigit).take 9) *
            10 ^ (9 - ((((digit :: rest) ++ ascii "Z").takeWhile isDigit).take 9).length),
          ((digit :: rest) ++ ascii "Z").dropWhile isDigit) :=
      if_pos ⟨.inl rfl, hdigits digit List.mem_cons_self⟩
    rw [hparse, htake, hdrop, hall]

theorem parseNanoseconds_formatFraction {nanos : ℕ} (h : nanos < 10 ^ 9) :
    parseNanoseconds (formatFraction nanos ++ ascii "Z") = (nanos, ascii "Z") := by
  unfold formatFraction
  split_ifs with hzero
  · rw [hzero]
    rfl
  · obtain ⟨zeros, heq⟩ := exists_zeros 9 nanos
    have hlength : (padNat 9 nanos).length = 9 := length_padNat h (by decide)
    have hvalue := readNat_padNat 9 nanos
    have hdigits : ∀ b ∈ (padNat 9 nanos).rdropWhile (· = 0x30), isDigit b = true :=
      fun b hb => isDigit_of_mem_padNat ((List.rdropWhile_prefix _ _).subset hb)
    -- The zeros that were dropped are the power of ten that the digits are multiplied with.
    generalize (padNat 9 nanos).rdropWhile (· = 0x30) = digits at heq hdigits ⊢
    rw [heq, readNat_append_zeros] at hvalue
    rw [heq, List.length_append, List.length_replicate] at hlength
    have hnonempty : digits ≠ [] := by
      rintro rfl
      exact hzero (hvalue.symm.trans (Nat.zero_mul _))
    rw [List.append_assoc, parseNanoseconds_digits hdigits hnonempty (by omega), ← hlength,
      Nat.add_sub_cancel_left, hvalue]

/-- The fields of a text are read one after the other. -/
theorem parseRFC3339_fields {year month day hour minute second nanos : ℕ} (hyear : year < 10 ^ 4)
    (hmonth : month < 10 ^ 2) (hday : day < 10 ^ 2) (hhour : hour < 10 ^ 2)
    (hminute : minute < 10 ^ 2) (hsecond : second < 10 ^ 2) (hnanos : nanos < 10 ^ 9) :
    parseRFC3339 (padNat 4 year ++ (ascii "-" ++ (padNat 2 month ++ (ascii "-" ++ (padNat 2 day ++
      (ascii "T" ++ (padNat 2 hour ++ (ascii ":" ++ (padNat 2 minute ++ (ascii ":" ++
      (padNat 2 second ++ (formatFraction nanos ++ ascii "Z")))))))))))) =
      Clock.instant ⟨⟨year, month, day⟩, hour, minute, second, nanos, 0⟩ := by
  have hdash : ascii "-" = ['-'.toUInt8] := rfl
  have hcolon : ascii ":" = [':'.toUInt8] := rfl
  have htime : ascii "T" = ['T'.toUInt8] := rfl
  have hzone : zoneOffset (ascii "Z") = some (0, []) := rfl
  rw [parseRFC3339, fixedNum_padNat hyear (by decide)]
  simp only [Option.bind_eq_bind, Option.bind_some, hdash, hcolon, htime, skipByte_append,
    fixedNum_padNat hmonth (by decide), fixedNum_padNat hday (by decide),
    fixedNum_padNat hhour (by decide), fixedNum_padNat hminute (by decide),
    fixedNum_padNat hsecond (by decide), Option.some_or, parseNanoseconds_formatFraction hnanos,
    hzone]
  exact if_neg (not_not.mpr rfl)

/-- An instant is read back from its text. -/
theorem parseRFC3339_format {instant : Time} (h : yearOf instant ≤ 9999) :
    parseRFC3339 (formatRFC3339Nano instant) = some instant := by
  unfold yearOf at h
  obtain ⟨hvalid, hnumber⟩ := dateOf_spec (instant / 1000000000 / 86400)
  have hmonth := hvalid.2.1
  have hday := hvalid.2.2.2.trans (daysIn_le _ _)
  simp only [formatRFC3339Nano, formatDate, List.append_assoc]
  rw [parseRFC3339_fields (by omega) (by omega) (by omega) (by omega) (by omega) (by omega)
    (by omega), Clock.instant, if_pos]
  · dsimp only
    rw [hnumber, if_neg (by omega)]
    refine congrArg some (show (_ : ℕ) = _ from ?_)
    omega
  · refine ⟨hvalid, ?_⟩
    dsimp only
    omega

end PaymentGateway
