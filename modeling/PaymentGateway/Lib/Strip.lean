/-
# Stripping codewords off the ends of a word

A word is trimmed by removing codewords from its front while one of them
matches, and then from its back in the same way. The codewords may have
different lengths, as the encodings of white space do in a variable-width
encoding, but none of them may be empty.

A word that no codeword starts is called clean at the front. Stripping always
ends in a clean word, keeps a suffix of what it was given, and leaves a clean
word alone. Trimming is therefore idempotent, whatever the codewords are.
-/

import Mathlib.Data.List.Infix

namespace PaymentGateway.Lib

variable {α : Type*} [DecidableEq α]

/-- Remove codewords from the front while one of them matches. The fuel bounds
the number of removals. -/
def stripFront (codes : List (List α)) : ℕ → List α → List α
  | 0, word => word
  | fuel + 1, word =>
    match codes.find? (·.isPrefixOf word) with
    | some code => stripFront codes fuel (word.drop code.length)
    | none => word

/-- Remove every codeword from the front. -/
def trimFront (codes : List (List α)) (word : List α) : List α :=
  stripFront codes word.length word

/-- Remove every codeword from the back. -/
def trimBack (codes : List (List α)) (word : List α) : List α :=
  (trimFront (codes.map List.reverse) word.reverse).reverse

/-- Remove every codeword from both ends. -/
def trim (codes : List (List α)) (word : List α) : List α :=
  trimBack codes (trimFront codes word)

/-- No codeword starts the word. -/
def CleanFront (codes : List (List α)) (word : List α) : Prop :=
  ∀ code ∈ codes, ¬ code <+: word

theorem cleanFront_iff_find? {codes : List (List α)} {word : List α} :
    CleanFront codes word ↔ codes.find? (·.isPrefixOf word) = none := by
  simp [CleanFront, List.find?_eq_none]

theorem stripFront_of_cleanFront {codes : List (List α)} {word : List α}
    (clean : CleanFront codes word) (fuel : ℕ) : stripFront codes fuel word = word := by
  cases fuel with
  | zero => rfl
  | succ fuel => rw [stripFront, cleanFront_iff_find?.mp clean]

theorem stripFront_isSuffix (codes : List (List α)) (fuel : ℕ) (word : List α) :
    stripFront codes fuel word <:+ word := by
  induction fuel generalizing word with
  | zero => exact List.suffix_refl word
  | succ fuel ih =>
    rw [stripFront]
    split
    · exact (ih _).trans (List.drop_suffix _ _)
    · exact List.suffix_refl word

/-- With enough fuel, stripping ends in a word that no codeword starts. -/
theorem cleanFront_stripFront {codes : List (List α)} (nonempty : ∀ code ∈ codes, code ≠ [])
    (fuel : ℕ) (word : List α) (enough : word.length ≤ fuel) :
    CleanFront codes (stripFront codes fuel word) := by
  induction fuel generalizing word with
  | zero =>
    have hnil : word = [] := List.length_eq_zero_iff.mp (Nat.le_zero.mp enough)
    subst hnil
    intro code hcode hstart
    exact nonempty code hcode (List.prefix_nil.mp hstart)
  | succ fuel ih =>
    rw [stripFront]
    split
    · next code hfind =>
      have hne := nonempty code (List.mem_of_find?_eq_some hfind)
      have hpos := List.length_pos_iff.mpr hne
      apply ih
      rw [List.length_drop]
      omega
    · next hfind => exact cleanFront_iff_find?.mpr hfind

theorem trimFront_of_cleanFront {codes : List (List α)} {word : List α}
    (clean : CleanFront codes word) : trimFront codes word = word :=
  stripFront_of_cleanFront clean _

theorem cleanFront_trimFront {codes : List (List α)} (nonempty : ∀ code ∈ codes, code ≠ [])
    (word : List α) : CleanFront codes (trimFront codes word) :=
  cleanFront_stripFront nonempty _ _ le_rfl

theorem trimFront_isSuffix (codes : List (List α)) (word : List α) :
    trimFront codes word <:+ word :=
  stripFront_isSuffix codes _ word

theorem trimBack_isPrefix (codes : List (List α)) (word : List α) :
    trimBack codes word <+: word := by
  rw [← List.reverse_suffix, trimBack, List.reverse_reverse]
  exact trimFront_isSuffix _ _

omit [DecidableEq α] in
/-- A prefix of a clean word is clean. -/
theorem CleanFront.of_isPrefix {codes : List (List α)} {short long : List α}
    (clean : CleanFront codes long) (hstart : short <+: long) : CleanFront codes short :=
  fun code hcode hstarts => clean code hcode (hstarts.trans hstart)

omit [DecidableEq α] in
private theorem reverse_codes_nonempty {codes : List (List α)}
    (nonempty : ∀ code ∈ codes, code ≠ []) : ∀ code ∈ codes.map List.reverse, code ≠ [] := by
  intro code hcode
  obtain ⟨original, horiginal, rfl⟩ := List.mem_map.mp hcode
  simpa using nonempty original horiginal

theorem cleanFront_trim {codes : List (List α)} (nonempty : ∀ code ∈ codes, code ≠ [])
    (word : List α) : CleanFront codes (trim codes word) :=
  (cleanFront_trimFront nonempty word).of_isPrefix (trimBack_isPrefix codes _)

/-- A word that no codeword starts or ends is left alone. -/
theorem trim_of_cleanFront {codes : List (List α)} {word : List α}
    (front : CleanFront codes word)
    (back : CleanFront (codes.map List.reverse) word.reverse) : trim codes word = word := by
  rw [trim, trimFront_of_cleanFront front, trimBack, trimFront_of_cleanFront back,
    List.reverse_reverse]

/-- Trimming twice trims once. -/
theorem trim_trim {codes : List (List α)} (nonempty : ∀ code ∈ codes, code ≠ [])
    (word : List α) : trim codes (trim codes word) = trim codes word := by
  refine trim_of_cleanFront (cleanFront_trim nonempty word) ?_
  rw [trim, trimBack, List.reverse_reverse]
  exact cleanFront_trimFront (reverse_codes_nonempty nonempty) _

/-- A symbol that no codeword contains is never removed. -/
theorem mem_stripFront {codes : List (List α)} {symbol : α}
    (foreign : ∀ code ∈ codes, symbol ∉ code) (fuel : ℕ) {word : List α} (hmem : symbol ∈ word) :
    symbol ∈ stripFront codes fuel word := by
  induction fuel generalizing word with
  | zero => exact hmem
  | succ fuel ih =>
    rw [stripFront]
    cases hcode : codes.find? (·.isPrefixOf word) with
    | none => exact hmem
    | some code =>
      have hstart : code.isPrefixOf word = true := by simpa using List.find?_some hcode
      obtain ⟨rest, rfl⟩ := List.isPrefixOf_iff_prefix.mp hstart
      dsimp only
      rw [List.drop_left]
      refine ih ((List.mem_append.mp hmem).resolve_left ?_)
      exact foreign code (List.mem_of_find?_eq_some hcode)

theorem mem_trim {codes : List (List α)} {symbol : α} (foreign : ∀ code ∈ codes, symbol ∉ code)
    {word : List α} (hmem : symbol ∈ word) : symbol ∈ trim codes word := by
  have hreversed : ∀ code ∈ codes.map List.reverse, symbol ∉ code := by
    intro code hcode
    obtain ⟨original, horiginal, rfl⟩ := List.mem_map.mp hcode
    rw [List.mem_reverse]
    exact foreign original horiginal
  rw [trim, trimBack, List.mem_reverse]
  exact mem_stripFront hreversed _ (List.mem_reverse.mpr (mem_stripFront foreign _ hmem))

theorem mem_of_mem_trim {codes : List (List α)} {symbol : α} {word : List α}
    (h : symbol ∈ trim codes word) : symbol ∈ word :=
  (trimFront_isSuffix codes word).mem ((trimBack_isPrefix codes _).mem h)

@[simp] theorem trim_nil (codes : List (List α)) : trim codes ([] : List α) = [] := rfl

end PaymentGateway.Lib
