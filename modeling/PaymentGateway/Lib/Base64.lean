/-
# Base64 without padding

The URL alphabet of base64, as a decoder reads it that is not strict: line breaks are
skipped wherever they stand, and the bits of the last character that belong to no byte
are ignored. Decoding is therefore not injective. What it overlooks is all that two
texts of the same bytes can differ in: without line breaks, and with those bits
cleared, a text is the one that encoding prints for its bytes.
-/

import Mathlib.Algebra.Group.Nat.Defs
import Mathlib.Data.List.Basic
import Mathlib.Data.Option.Basic

namespace PaymentGateway.Lib.Base64

/-! ## Characters -/

/-- The character that stands for six bits. -/
def symbol (v : Fin 64) : UInt8 :=
  if v < 26 then .ofNat (0x41 + v)
  else if v < 52 then .ofNat (0x61 + (v - 26 : ℕ))
  else if v < 62 then .ofNat (0x30 + (v - 52 : ℕ))
  else if v = 62 then 0x2D
  else 0x5F

/-- The six bits that a character stands for. -/
def value? (b : UInt8) : Option (Fin 64) :=
  if 0x41 ≤ b ∧ b ≤ 0x5A then some (.ofNat 64 (b.toNat - 0x41))
  else if 0x61 ≤ b ∧ b ≤ 0x7A then some (.ofNat 64 (b.toNat - 0x61 + 26))
  else if 0x30 ≤ b ∧ b ≤ 0x39 then some (.ofNat 64 (b.toNat - 0x30 + 52))
  else if b = 0x2D then some 62
  else if b = 0x5F then some 63
  else none

@[simp] theorem value?_symbol (v : Fin 64) : value? (symbol v) = some v := by
  revert v
  decide

/-- A character of the alphabet stands for one value only. -/
theorem symbol_of_value? {b : UInt8} {v : Fin 64} (h : value? b = some v) : symbol v = b := by
  have hall : ∀ n : Fin 256, (value? (.ofNat n)).all (fun v => symbol v = .ofNat n) = true := by
    decide +kernel
  have hb := hall ⟨b.toNat, b.toNat_lt⟩
  rw [UInt8.ofNat_toNat, h, Option.all_some] at hb
  exact of_decide_eq_true hb

/-- A line break, which the decoder skips. -/
def isLineBreak (b : UInt8) : Bool := b = 0x0A || b = 0x0D

@[simp] theorem isLineBreak_symbol (v : Fin 64) : isLineBreak (symbol v) = false := by
  revert v
  decide

/-! ## Quanta -/

/-- The 24 bits of four characters. -/
def quantum (a b c d : Fin 64) : ℕ := ((a.val * 64 + b) * 64 + c) * 64 + d

/-- The bytes of the six-bit values of a text. A quantum of one character is an error, and what
a shorter last quantum has beyond its whole bytes is dropped. -/
def pack : List (Fin 64) → Option (List UInt8)
  | [] => some []
  | [_] => none
  | [a, b] => some [.ofNat (quantum a b 0 0 / 2 ^ 16)]
  | [a, b, c] => some [.ofNat (quantum a b c 0 / 2 ^ 16), .ofNat (quantum a b c 0 / 2 ^ 8)]
  | a :: b :: c :: d :: rest => do
    let bytes ← pack rest
    let value := quantum a b c d
    pure (.ofNat (value / 2 ^ 16) :: .ofNat (value / 2 ^ 8) :: .ofNat value :: bytes)

/-- The 24 bits of three bytes. -/
def triple (x y z : UInt8) : ℕ := (x.toNat * 256 + y.toNat) * 256 + z.toNat

/-- The six-bit values that bytes are written as. -/
def unpack : List UInt8 → List (Fin 64)
  | [] => []
  | [x] => [.ofNat 64 (triple x 0 0 / 2 ^ 18), .ofNat 64 (triple x 0 0 / 2 ^ 12)]
  | [x, y] =>
    [.ofNat 64 (triple x y 0 / 2 ^ 18), .ofNat 64 (triple x y 0 / 2 ^ 12),
      .ofNat 64 (triple x y 0 / 2 ^ 6)]
  | x :: y :: z :: rest =>
    let value := triple x y z
    .ofNat 64 (value / 2 ^ 18) :: .ofNat 64 (value / 2 ^ 12) :: .ofNat 64 (value / 2 ^ 6) ::
      .ofNat 64 value :: unpack rest

theorem triple_lt (x y z : UInt8) : triple x y z < 2 ^ 24 := by
  have hx := x.toNat_lt
  have hy := y.toNat_lt
  have hz := z.toNat_lt
  unfold triple
  omega

/-- The four values of 24 bits put together again. -/
theorem quantum_ofNat {value : ℕ} (h : value < 2 ^ 24) :
    quantum (.ofNat 64 (value / 2 ^ 18)) (.ofNat 64 (value / 2 ^ 12)) (.ofNat 64 (value / 2 ^ 6))
      (.ofNat 64 value) = value := by
  simp only [quantum, Fin.ofNat]
  omega

theorem ofNat_triple (x y z : UInt8) :
    UInt8.ofNat (triple x y z / 2 ^ 16) = x ∧ UInt8.ofNat (triple x y z / 2 ^ 8) = y ∧
      UInt8.ofNat (triple x y z) = z := by
  have hx := x.toNat_lt
  have hy := y.toNat_lt
  have hz := z.toNat_lt
  refine ⟨UInt8.toNat_inj.mp ?_, UInt8.toNat_inj.mp ?_, UInt8.toNat_inj.mp ?_⟩ <;>
  · rw [UInt8.toNat_ofNat', triple]
    omega

/-- Without a third byte the last six bits are zero. -/
theorem ofNat_triple_zero (x y : UInt8) : (.ofNat 64 (triple x y 0) : Fin 64) = 0 := by
  simp only [triple, UInt8.toNat_zero, Fin.ofNat, Fin.ext_iff, Fin.val_zero]
  omega

/-- Packing undoes unpacking. -/
theorem pack_unpack (bytes : List UInt8) : pack (unpack bytes) = some bytes := by
  induction bytes using unpack.induct with
  | case1 => rfl
  | case2 x =>
    -- The values that are not written are zero.
    have hquantum := quantum_ofNat (triple_lt x 0 0)
    have hthird : (.ofNat 64 (triple x 0 0 / 2 ^ 6) : Fin 64) = 0 := by
      simp only [triple, UInt8.toNat_zero, Fin.ofNat, Fin.ext_iff, Fin.val_zero]
      omega
    rw [hthird, ofNat_triple_zero] at hquantum
    rw [unpack, pack, hquantum, (ofNat_triple x 0 0).1]
  | case3 x y =>
    have hquantum := quantum_ofNat (triple_lt x y 0)
    rw [ofNat_triple_zero] at hquantum
    rw [unpack, pack, hquantum, (ofNat_triple x y 0).1, (ofNat_triple x y 0).2.1]
  | case4 x y z rest ih =>
    obtain ⟨hx, hy, hz⟩ := ofNat_triple x y z
    rw [unpack, pack, ih, Option.bind_eq_bind, Option.bind_some]
    simp only [quantum_ofNat (triple_lt x y z), hx, hy, hz]
    rfl

/-! ## Texts -/

/-- The text of bytes. -/
def encode (bytes : List UInt8) : List UInt8 := (unpack bytes).map symbol

/-- The bytes of a text. -/
def decode (text : List UInt8) : Option (List UInt8) :=
  ((text.filter (!isLineBreak ·)).mapM value?).bind pack

theorem decode_encode (bytes : List UInt8) : decode (encode bytes) = some bytes := by
  have hclean : (encode bytes).filter (!isLineBreak ·) = encode bytes := by
    rw [List.filter_eq_self]
    intro b hb
    obtain ⟨v, -, rfl⟩ := List.mem_map.mp hb
    simp
  have hvalues : (encode bytes).mapM value? = some (unpack bytes) := by
    unfold encode
    induction unpack bytes with
    | nil => rfl
    | cons v values ih => simp [ih]
  rw [decode, hclean, hvalues]
  exact pack_unpack bytes

theorem encode_injective : Function.Injective encode := by
  have hround : decode ∘ encode = some := funext decode_encode
  refine Function.Injective.of_comp (f := decode) ?_
  rw [hround]
  exact Option.some_injective _

/-- Line breaks at the end of a text do not count. -/
theorem decode_append_lineBreak (text : List UInt8) {b : UInt8} (h : isLineBreak b = true) :
    decode (text ++ [b]) = decode text := by
  simp [decode, List.filter_append, h]

/-! ## Spellings -/

/-- A character with the low bits of its value cleared. -/
def clearBits (n : ℕ) (b : UInt8) : UInt8 :=
  match value? b with
  | some v => symbol (.ofNat 64 (v / 2 ^ n * 2 ^ n))
  | none => b

/-- The text with the bits cleared that a short last quantum has beyond its whole bytes. -/
def clearUnused : List UInt8 → List UInt8
  | [a, b] => [a, clearBits 4 b]
  | [a, b, c] => [a, b, clearBits 2 c]
  | a :: b :: c :: d :: rest => a :: b :: c :: d :: clearUnused rest
  | short => short

/-- The text without line breaks and with the unused bits of its last character cleared. -/
def normalText (text : List UInt8) : List UInt8 := clearUnused (text.filter (!isLineBreak ·))

/-- Characters that have values are written as those values. -/
theorem map_symbol_of_mapM_value? {text : List UInt8} {values : List (Fin 64)}
    (h : text.mapM value? = some values) : values.map symbol = text := by
  induction text generalizing values with
  | nil =>
    cases h
    rfl
  | cons b text ih =>
    simp only [List.mapM_cons, Option.bind_eq_bind, Option.bind_eq_some_iff, Option.pure_def,
      Option.some_inj] at h
    obtain ⟨v, hv, rest, hrest, rfl⟩ := h
    rw [List.map_cons, symbol_of_value? hv, ih hrest]

theorem clearBits_symbol (n : ℕ) (v : Fin 64) :
    clearBits n (symbol v) = symbol (.ofNat 64 (v / 2 ^ n * 2 ^ n)) := by
  rw [clearBits, value?_symbol]

/-- The values of the bytes of a quantum are its own, but for the bits that no byte has. -/
theorem ofNat_quantum (a b c d : Fin 64) :
    triple (.ofNat (quantum a b c d / 2 ^ 16)) (.ofNat (quantum a b c d / 2 ^ 8))
      (.ofNat (quantum a b c d)) = quantum a b c d := by
  simp only [triple, quantum, UInt8.toNat_ofNat']
  omega

theorem fin_ofNat_quantum (a b c d : Fin 64) :
    Fin.ofNat 64 (quantum a b c d / 2 ^ 18) = a ∧ Fin.ofNat 64 (quantum a b c d / 2 ^ 12) = b ∧
      Fin.ofNat 64 (quantum a b c d / 2 ^ 6) = c ∧ Fin.ofNat 64 (quantum a b c d) = d := by
  simp only [quantum, Fin.ofNat, Fin.ext_iff]
  omega

/-- Two values have one byte, which lacks the last four bits. -/
theorem unpack_pair (a b : Fin 64) :
    unpack [.ofNat (quantum a b 0 0 / 2 ^ 16)] = [a, .ofNat 64 (b / 2 ^ 4 * 2 ^ 4)] := by
  simp only [unpack, triple, quantum, UInt8.toNat_ofNat', UInt8.toNat_zero, Fin.ofNat,
    List.cons.injEq, Fin.ext_iff, Fin.val_zero, and_true]
  omega

/-- Three values have two bytes, which lack the last two bits. -/
theorem unpack_triple (a b c : Fin 64) :
    unpack [.ofNat (quantum a b c 0 / 2 ^ 16), .ofNat (quantum a b c 0 / 2 ^ 8)] =
      [a, b, .ofNat 64 (c / 2 ^ 2 * 2 ^ 2)] := by
  simp only [unpack, triple, quantum, UInt8.toNat_ofNat', UInt8.toNat_zero, Fin.ofNat,
    List.cons.injEq, Fin.ext_iff, Fin.val_zero, and_true]
  omega

/-- What packing drops is what clearing clears. -/
theorem clearUnused_of_pack {values : List (Fin 64)} {bytes : List UInt8}
    (h : pack values = some bytes) :
    clearUnused (values.map symbol) = (unpack bytes).map symbol := by
  induction values using pack.induct generalizing bytes with
  | case1 =>
    cases h
    rfl
  | case2 => cases h
  | case3 a b =>
    cases h
    rw [unpack_pair]
    simp only [List.map_cons, List.map_nil, clearUnused, clearBits_symbol]
  | case4 a b c =>
    cases h
    rw [unpack_triple]
    simp only [List.map_cons, List.map_nil, clearUnused, clearBits_symbol]
  | case5 a b c d rest ih =>
    simp only [pack, Option.bind_eq_bind, Option.bind_eq_some_iff, Option.pure_def,
      Option.some_inj] at h
    obtain ⟨bytes, hbytes, rfl⟩ := h
    obtain ⟨ha, hb, hc, hd⟩ := fin_ofNat_quantum a b c d
    simp only [List.map_cons, clearUnused, unpack, ofNat_quantum, ha, hb, hc, hd, ih hbytes]

/-- The normal text is what encoding prints for the bytes. -/
theorem normalText_eq_encode {text bytes : List UInt8} (h : decode text = some bytes) :
    normalText text = encode bytes := by
  obtain ⟨values, hvalues, hpack⟩ := Option.bind_eq_some_iff.mp h
  rw [normalText, ← map_symbol_of_mapM_value? hvalues, clearUnused_of_pack hpack, encode]

end PaymentGateway.Lib.Base64
