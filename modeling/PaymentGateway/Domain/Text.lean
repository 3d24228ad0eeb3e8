/-
# Go strings

A Go string is a sequence of bytes, valid UTF-8 or not. The gateway trims
strings with `strings.TrimSpace`, which removes encoded Unicode white space from
both ends, and it inspects strings with `range` loops, which decode UTF-8 runes
and report an invalid byte as `utf8.RuneError`. Where it compares without regard
to case, it does so with texts that are ASCII.

The only facts the rest of the development needs are that trimming is idempotent
and that a rune below 0x80 is exactly one byte with the same value.
-/

import PaymentGateway.Lib.Strip

namespace PaymentGateway

open Lib

/-- A Go string: any sequence of bytes. -/
abbrev GoString := List UInt8

instance : LawfulBEq GoString := inferInstance

/-- The bytes of an ASCII literal. -/
def ascii (literal : String) : GoString :=
  literal.toList.map fun c => UInt8.ofNat c.toNat

/-- The UTF-8 encodings of the code points for which `unicode.IsSpace` holds. -/
def spaceEncodings : List GoString :=
  [[0x09], [0x0A], [0x0B], [0x0C], [0x0D], [0x20], [0xC2, 0x85], [0xC2, 0xA0],
    [0xE1, 0x9A, 0x80],
    [0xE2, 0x80, 0x80], [0xE2, 0x80, 0x81], [0xE2, 0x80, 0x82], [0xE2, 0x80, 0x83],
    [0xE2, 0x80, 0x84], [0xE2, 0x80, 0x85], [0xE2, 0x80, 0x86], [0xE2, 0x80, 0x87],
    [0xE2, 0x80, 0x88], [0xE2, 0x80, 0x89], [0xE2, 0x80, 0x8A],
    [0xE2, 0x80, 0xA8], [0xE2, 0x80, 0xA9], [0xE2, 0x80, 0xAF], [0xE2, 0x81, 0x9F],
    [0xE3, 0x80, 0x80]]

/-- `strings.TrimSpace`. Decoding a rune at either end yields a space exactly when
the string starts or ends with the encoding of one, so the trimming works on the
encodings. -/
def trimSpace (value : GoString) : GoString := trim spaceEncodings value

theorem spaceEncodings_nonempty : ∀ code ∈ spaceEncodings, code ≠ [] := by decide

@[simp] theorem trimSpace_trimSpace (value : GoString) :
    trimSpace (trimSpace value) = trimSpace value :=
  trim_trim spaceEncodings_nonempty value

@[simp] theorem trimSpace_nil : trimSpace [] = [] := rfl

/-- A string that `normalizeRequired` returns unchanged. -/
def Normalized (value : GoString) : Prop := trimSpace value = value ∧ value ≠ []

instance (value : GoString) : Decidable (Normalized value) :=
  inferInstanceAs (Decidable (_ ∧ _))

theorem normalized_trimSpace {value : GoString} (present : trimSpace value ≠ []) :
    Normalized (trimSpace value) :=
  ⟨trimSpace_trimSpace value, present⟩

theorem Normalized.trimSpace_eq {value : GoString} (h : Normalized value) :
    trimSpace value = value := h.1

theorem Normalized.ne_nil {value : GoString} (h : Normalized value) : value ≠ [] := h.2

/-- A string that neither starts nor ends with a byte of a space is normalized. -/
theorem normalized_of_ends {first last : UInt8} (middle : GoString)
    (hfirst : ∀ code ∈ spaceEncodings, code.head? ≠ some first)
    (hlast : ∀ code ∈ spaceEncodings, code.reverse.head? ≠ some last) :
    Normalized (first :: middle ++ [last]) := by
  have hclean : ∀ {code word : GoString} {b : UInt8}, code ≠ [] → code.head? ≠ some b →
      ¬ code <+: b :: word := by
    rintro code word b hne hhead ⟨rest, hrest⟩
    cases code with
    | nil => exact hne rfl
    | cons c code => exact hhead (congrArg some (List.cons.inj hrest).1)
  refine ⟨trim_of_cleanFront (fun code hcode => ?_) fun code hcode => ?_, by simp⟩
  · exact hclean (spaceEncodings_nonempty code hcode) (hfirst code hcode)
  · obtain ⟨code, horiginal, rfl⟩ := List.mem_map.mp hcode
    rw [show (first :: middle ++ [last]).reverse = last :: (first :: middle).reverse by simp]
    exact hclean (by simpa using spaceEncodings_nonempty code horiginal) (hlast code horiginal)

/-- A trimmed string does not start with an ASCII space. -/
theorem Normalized.head_ne_space {value : GoString} (h : Normalized value) :
    ¬ [0x20] <+: value := by
  have hclean := cleanFront_trim spaceEncodings_nonempty value
  rw [show trim spaceEncodings value = value from h.1] at hclean
  exact hclean [0x20] (by decide)

/-! ## Runes -/

/-- `utf8.RuneError`. -/
def runeError : ℕ := 0xFFFD

/-- A UTF-8 continuation byte. -/
def isContinuation (b : UInt8) : Bool := 0x80 ≤ b && b ≤ 0xBF

/-- The rune of a two-byte encoding that starts with `b₀`. -/
def decodeTwo (b₀ : UInt8) : GoString → ℕ × ℕ
  | b₁ :: _ =>
    if isContinuation b₁ then ((b₀.toNat - 0xC0) * 64 + (b₁.toNat - 0x80), 2)
    else (runeError, 1)
  | _ => (runeError, 1)

/-- The second bytes that `utf8` accepts after a given first byte. The narrower
ranges exclude overlong forms, surrogates and code points past the last one. -/
def acceptsSecond (b₀ b₁ : UInt8) : Bool :=
  if b₀ = 0xE0 then 0xA0 ≤ b₁ && b₁ ≤ 0xBF
  else if b₀ = 0xED then 0x80 ≤ b₁ && b₁ ≤ 0x9F
  else if b₀ = 0xF0 then 0x90 ≤ b₁ && b₁ ≤ 0xBF
  else if b₀ = 0xF4 then 0x80 ≤ b₁ && b₁ ≤ 0x8F
  else isContinuation b₁

/-- The rune of a three-byte encoding that starts with `b₀`. -/
def decodeThree (b₀ : UInt8) : GoString → ℕ × ℕ
  | b₁ :: b₂ :: _ =>
    if acceptsSecond b₀ b₁ && isContinuation b₂ then
      ((b₀.toNat - 0xE0) * 4096 + (b₁.toNat - 0x80) * 64 + (b₂.toNat - 0x80), 3)
    else (runeError, 1)
  | _ => (runeError, 1)

/-- The rune of a four-byte encoding that starts with `b₀`. -/
def decodeFour (b₀ : UInt8) : GoString → ℕ × ℕ
  | b₁ :: b₂ :: b₃ :: _ =>
    if acceptsSecond b₀ b₁ && isContinuation b₂ && isContinuation b₃ then
      ((b₀.toNat - 0xF0) * 262144 + (b₁.toNat - 0x80) * 4096 + (b₂.toNat - 0x80) * 64 +
        (b₃.toNat - 0x80), 4)
    else (runeError, 1)
  | _ => (runeError, 1)

/-- `utf8.DecodeRune`: the first rune of a string and its width in bytes. An
invalid encoding is reported as `runeError` of width one. -/
def decodeRune : GoString → ℕ × ℕ
  | [] => (runeError, 0)
  | b₀ :: rest =>
    if b₀ < 0x80 then (b₀.toNat, 1)
    else if 0xC2 ≤ b₀ && b₀ ≤ 0xDF then decodeTwo b₀ rest
    else if 0xE0 ≤ b₀ && b₀ ≤ 0xEF then decodeThree b₀ rest
    else if 0xF0 ≤ b₀ && b₀ ≤ 0xF4 then decodeFour b₀ rest
    else (runeError, 1)

/-- The pairs of byte index and rune that a `range` loop over a string visits,
starting at byte `offset`. -/
def rangeRunesFrom : ℕ → ℕ → GoString → List (ℕ × ℕ)
  | 0, _, _ => []
  | _ + 1, _, [] => []
  | fuel + 1, offset, b :: rest =>
    let (rune, width) := decodeRune (b :: rest)
    (offset, rune) :: rangeRunesFrom fuel (offset + width) ((b :: rest).drop width)

/-- The pairs of byte index and rune that `for i, r := range value` visits. -/
def rangeRunes (value : GoString) : List (ℕ × ℕ) := rangeRunesFrom value.length 0 value

/-- `utf8.AppendRune`, for a rune that `utf8.DecodeRune` may return. -/
def encodeRune (rune : ℕ) : GoString :=
  if rune < 0x80 then [UInt8.ofNat rune]
  else if rune < 0x800 then [UInt8.ofNat (0xC0 + rune / 64), UInt8.ofNat (0x80 + rune % 64)]
  else if rune < 0x10000 then
    [UInt8.ofNat (0xE0 + rune / 4096), UInt8.ofNat (0x80 + rune / 64 % 64),
      UInt8.ofNat (0x80 + rune % 64)]
  else
    [UInt8.ofNat (0xF0 + rune / 262144), UInt8.ofNat (0x80 + rune / 4096 % 64),
      UInt8.ofNat (0x80 + rune / 64 % 64), UInt8.ofNat (0x80 + rune % 64)]

theorem decodeRune_of_lt {b : UInt8} (rest : GoString) (h : b < 0x80) :
    decodeRune (b :: rest) = (b.toNat, 1) := by
  rw [decodeRune, if_pos h]

theorem encodeRune_of_lt {b : UInt8} (h : b < 0x80) : encodeRune b.toNat = [b] := by
  have hlt : b.toNat < 0x80 := UInt8.lt_iff_toNat_lt.mp h
  rw [encodeRune, if_pos hlt, UInt8.ofNat_toNat]

private theorem le_decodeTwo {b : UInt8} (rest : GoString) (h : 0xC2 ≤ b.toNat) :
    0x80 ≤ (decodeTwo b rest).1 := by
  rw [decodeTwo.eq_def]
  split
  · split_ifs
    · dsimp only
      omega
    · decide
  · decide

private theorem le_decodeThree {b : UInt8} (rest : GoString) (h : 0xE0 ≤ b.toNat) :
    0x80 ≤ (decodeThree b rest).1 := by
  rw [decodeThree.eq_def]
  split
  · next b₁ b₂ tail =>
    split_ifs with hvalid
    · dsimp only
      by_cases hlead : b = 0xE0
      · -- The overlong forms are the ones the second byte's range excludes.
        subst hlead
        have hsecond : acceptsSecond 0xE0 b₁ = (0xA0 ≤ b₁ && b₁ ≤ 0xBF) := rfl
        simp only [hsecond, Bool.and_eq_true, decide_eq_true_eq, UInt8.le_iff_toNat_le] at hvalid
        have : 0xA0 ≤ b₁.toNat := hvalid.1.1
        omega
      · have : b.toNat ≠ 0xE0 := fun heq => hlead (UInt8.toNat_inj.mp heq)
        omega
    · decide
  · decide

private theorem le_decodeFour {b : UInt8} (rest : GoString) (h : 0xF0 ≤ b.toNat) :
    0x80 ≤ (decodeFour b rest).1 := by
  rw [decodeFour.eq_def]
  split
  · next b₁ b₂ b₃ tail =>
    split_ifs with hvalid
    · dsimp only
      by_cases hlead : b = 0xF0
      · subst hlead
        have hsecond : acceptsSecond 0xF0 b₁ = (0x90 ≤ b₁ && b₁ ≤ 0xBF) := rfl
        simp only [hsecond, Bool.and_eq_true, decide_eq_true_eq, UInt8.le_iff_toNat_le] at hvalid
        have : 0x90 ≤ b₁.toNat := hvalid.1.1.1
        omega
      · have : b.toNat ≠ 0xF0 := fun heq => hlead (UInt8.toNat_inj.mp heq)
        omega
    · decide
  · decide

/-- A byte outside ASCII never decodes to an ASCII rune. -/
theorem le_decodeRune_of_le {b : UInt8} (rest : GoString) (h : ¬ b < 0x80) :
    0x80 ≤ (decodeRune (b :: rest)).1 := by
  rw [decodeRune, if_neg h]
  simp only [Bool.and_eq_true, decide_eq_true_eq, UInt8.le_iff_toNat_le]
  split_ifs with h2 h3 h4
  · exact le_decodeTwo rest h2.1
  · exact le_decodeThree rest h3.1
  · exact le_decodeFour rest h4.1
  · decide

theorem not_lt_of_isContinuation {b : UInt8} (h : isContinuation b = true) : ¬ b < 0x80 := by
  simp only [isContinuation, Bool.and_eq_true, decide_eq_true_eq] at h
  exact UInt8.not_lt.mpr h.1

theorem not_lt_of_acceptsSecond {b₀ b : UInt8} (h : acceptsSecond b₀ b = true) : ¬ b < 0x80 := by
  unfold acceptsSecond at h
  split_ifs at h
  all_goals first
    | exact not_lt_of_isContinuation h
    | simp [UInt8.le_iff_toNat_le, UInt8.lt_iff_toNat_lt] at h ⊢
      omega

/-- The bytes after the first one of a rune are outside ASCII. -/
theorem not_lt_of_mem_take_decodeRune {b c : UInt8} {rest : GoString} (h : ¬ b < 0x80)
    (hc : c ∈ (b :: rest).take (decodeRune (b :: rest)).2) : ¬ c < 0x80 := by
  -- An invalid sequence has one byte, which is the first.
  have hone : c ∈ (b :: rest).take 1 → ¬ c < 0x80 := by simp +contextual [h]
  rw [decodeRune, if_neg h] at hc
  split_ifs at hc
  · rw [decodeTwo.eq_def] at hc
    split at hc
    · split_ifs at hc with hvalid
      · rcases List.mem_pair.mp hc with rfl | rfl
        · exact h
        · exact not_lt_of_isContinuation hvalid
      · exact hone hc
    · exact hone hc
  · rw [decodeThree.eq_def] at hc
    split at hc
    · split_ifs at hc with hvalid
      · rw [Bool.and_eq_true] at hvalid
        simp only [List.take_succ_cons, List.take_zero, List.mem_cons, List.not_mem_nil,
          or_false] at hc
        rcases hc with rfl | rfl | rfl
        · exact h
        · exact not_lt_of_acceptsSecond hvalid.1
        · exact not_lt_of_isContinuation hvalid.2
      · exact hone hc
    · exact hone hc
  · rw [decodeFour.eq_def] at hc
    split at hc
    · split_ifs at hc with hvalid
      · rw [Bool.and_eq_true, Bool.and_eq_true] at hvalid
        simp only [List.take_succ_cons, List.take_zero, List.mem_cons, List.not_mem_nil,
          or_false] at hc
        rcases hc with rfl | rfl | rfl | rfl
        · exact h
        · exact not_lt_of_acceptsSecond hvalid.1.1
        · exact not_lt_of_isContinuation hvalid.1.2
        · exact not_lt_of_isContinuation hvalid.2
      · exact hone hc
    · exact hone hc
  · exact hone hc

/-- Where every rune of a loop is ASCII, the loop visits the bytes one by one. -/
private theorem rangeRunesFrom_of_ascii {fuel offset : ℕ} {value : GoString}
    (hfuel : value.length ≤ fuel) (h : ∀ visit ∈ rangeRunesFrom fuel offset value, visit.2 < 0x80) :
    rangeRunesFrom fuel offset value =
      (value.zipIdx offset).map fun (b, i) => (i, b.toNat) := by
  induction fuel generalizing offset value with
  | zero =>
    obtain rfl : value = [] := List.length_eq_zero_iff.mp (Nat.le_zero.mp hfuel)
    rfl
  | succ fuel ih =>
    cases value with
    | nil => rfl
    | cons b rest =>
      have hb : b < 0x80 := by
        by_contra hlarge
        have hsmall := h (offset, (decodeRune (b :: rest)).1) (by simp [rangeRunesFrom])
        exact absurd (le_decodeRune_of_le rest hlarge) (Nat.not_le.mpr hsmall)
      simp only [rangeRunesFrom, decodeRune_of_lt rest hb, List.drop_one, List.tail_cons] at h ⊢
      rw [ih (Nat.le_of_succ_le_succ hfuel) (fun visit hv => h visit (List.mem_cons_of_mem _ hv))]
      rfl

/-- A loop that accepts only ASCII runes checks every byte at its own index. -/
theorem rangeRunes_of_ascii {value : GoString} (h : ∀ visit ∈ rangeRunes value, visit.2 < 0x80) :
    rangeRunes value = value.zipIdx.map fun (b, i) => (i, b.toNat) :=
  rangeRunesFrom_of_ascii le_rfl h

/-- A loop over ASCII bytes meets only ASCII runes. -/
private theorem rangeRunesFrom_lt_of_bytes {fuel offset : ℕ} {value : GoString}
    (h : ∀ b ∈ value, b < 0x80) : ∀ visit ∈ rangeRunesFrom fuel offset value, visit.2 < 0x80 := by
  induction fuel generalizing offset value with
  | zero =>
    intro visit hvisit
    cases hvisit
  | succ fuel ih =>
    cases value with
    | nil =>
      intro visit hvisit
      cases hvisit
    | cons b rest =>
      have hb : b < 0x80 := h b List.mem_cons_self
      simp only [rangeRunesFrom, decodeRune_of_lt rest hb, List.drop_one, List.tail_cons,
        List.forall_mem_cons]
      exact ⟨UInt8.lt_iff_toNat_lt.mp hb, ih fun c hc => h c (List.mem_cons_of_mem b hc)⟩

/-- A loop over ASCII bytes visits every byte at its own index. -/
theorem rangeRunes_of_bytes {value : GoString} (h : ∀ b ∈ value, b < 0x80) :
    rangeRunes value = value.zipIdx.map fun (b, i) => (i, b.toNat) :=
  rangeRunes_of_ascii (rangeRunesFrom_lt_of_bytes h)

/-! ## Case -/

/-- Whether a rune folds to an ASCII character that is not an upper-case letter. Two runes outside
ASCII fold to letters, the long s and the Kelvin sign. -/
def foldsTo (rune : ℕ) (c : UInt8) : Bool :=
  rune = c.toNat || (0x61 ≤ c && c ≤ 0x7A && rune + 0x20 = c.toNat) ||
    (c = 's'.toUInt8 && rune = 0x17F) || (c = 'k'.toUInt8 && rune = 0x212A)

/-- `strings.EqualFold` with an ASCII text that is in lower case. -/
def equalFold (value lower : GoString) : Bool :=
  let runes := (rangeRunes value).map Prod.snd
  runes.length = lower.length && (runes.zip lower).all fun pair => foldsTo pair.1 pair.2

/-- `unicode.ToLower`, as far as its result is ASCII. Two runes outside ASCII have an ASCII letter
for their lower case, the dotted I and the Kelvin sign; the others are left as they are. -/
def lowerRune (rune : ℕ) : ℕ :=
  if 0x41 ≤ rune ∧ rune ≤ 0x5A then rune + 0x20
  else if rune = 0x130 then 0x69
  else if rune = 0x212A then 0x6B
  else rune

/-- `strings.ToLower`, for a result that is compared with ASCII texts. -/
def toLower (value : GoString) : GoString :=
  (rangeRunes value).flatMap fun visit => encodeRune (lowerRune visit.2)

example : toLower (ascii "Card_EXPIRED") = ascii "card_expired" := by decide +kernel

end PaymentGateway
