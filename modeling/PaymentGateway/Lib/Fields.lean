/-
# Separated fields

Fields written one after the other with a separator between them. The last field
can be told apart as long as it does not contain the separator itself, whatever
stands before it, so a record is decoded from its end up to the first field that
may contain separators.
-/

import Mathlib.Data.List.Induction

namespace PaymentGateway.Lib

variable {α : Type}

/-- A first field followed by further ones, each after a separator. -/
def joinFields (sep : α) (first : List α) (rest : List (List α)) : List α :=
  rest.foldl (fun written field => written ++ sep :: field) first

@[simp] theorem joinFields_nil (sep : α) (first : List α) : joinFields sep first [] = first := rfl

theorem joinFields_concat (sep : α) (first : List α) (rest : List (List α)) (last : List α) :
    joinFields sep first (rest ++ [last]) = joinFields sep first rest ++ sep :: last := by
  simp [joinFields]

theorem joinFields_append (sep : α) (first : List α) (early late : List (List α)) :
    joinFields sep first (early ++ late) = joinFields sep (joinFields sep first early) late := by
  simp [joinFields]

/-- What follows the last separator is determined. -/
theorem append_sep_inj {sep : α} {before before' last last' : List α} (hlast : sep ∉ last)
    (hlast' : sep ∉ last') (h : before ++ sep :: last = before' ++ sep :: last') :
    before = before' ∧ last = last' := by
  induction before generalizing before' with
  | nil =>
    cases before' with
    | nil => exact ⟨rfl, (List.cons.inj h).2⟩
    | cons b tail =>
      -- The separator in front of `last'` would lie inside `last`.
      have hmem : sep ∈ last := by
        rw [(List.cons.inj h).2]
        simp
      exact absurd hmem hlast
  | cons b tail ih =>
    cases before' with
    | nil =>
      have hmem : sep ∈ last' := by
        rw [← (List.cons.inj h).2]
        simp
      exact absurd hmem hlast'
    | cons b' tail' =>
      obtain ⟨hb, htail⟩ := List.cons.inj h
      obtain ⟨hbefore, hfinal⟩ := ih htail
      exact ⟨by rw [hb, hbefore], hfinal⟩

/-- Separator-free fields at the end of a record are determined, and so is what
stands before them. -/
theorem joinFields_inj {sep : α} {first first' : List α} {rest rest' : List (List α)}
    (hrest : ∀ field ∈ rest, sep ∉ field) (hrest' : ∀ field ∈ rest', sep ∉ field)
    (hlen : rest.length = rest'.length)
    (h : joinFields sep first rest = joinFields sep first' rest') :
    first = first' ∧ rest = rest' := by
  induction rest using List.reverseRecOn generalizing rest' with
  | nil =>
    obtain rfl : rest' = [] := List.length_eq_zero_iff.mp hlen.symm
    exact ⟨h, rfl⟩
  | append_singleton rest last ih =>
    rcases List.eq_nil_or_concat rest' with rfl | ⟨rest'', last', rfl⟩
    · simp at hlen
    · rw [List.concat_eq_append] at hrest' hlen h ⊢
      rw [joinFields_concat, joinFields_concat] at h
      obtain ⟨hbefore, hlast⟩ :=
        append_sep_inj (hrest last (by simp)) (hrest' last' (by simp)) h
      obtain ⟨hfirst, heq⟩ := ih (fun field hf => hrest field (by simp [hf]))
        (fun field hf => hrest' field (by simp [hf])) (by simpa using hlen) hbefore
      exact ⟨hfirst, by rw [heq, hlast]⟩

/-- Two fields that may both contain separators are determined once it is known how many
separators the first one has. -/
theorem append_sep_inj_of_count [DecidableEq α] {sep : α} {first first' second second' : List α}
    (hcount : first.count sep = first'.count sep)
    (h : first ++ sep :: second = first' ++ sep :: second') :
    first = first' ∧ second = second' := by
  -- One of the first fields extends the other, by nothing or by a text that starts with the
  -- separator; the count excludes the latter.
  obtain ⟨tail, hfirst, hsecond⟩ | ⟨tail, hfirst, hsecond⟩ := List.append_eq_append_iff.mp h
  · cases tail with
    | nil => exact ⟨by simpa using hfirst.symm, (List.cons.inj hsecond).2⟩
    | cons b tail =>
      obtain rfl := (List.cons.inj hsecond).1
      simp [hfirst] at hcount
  · cases tail with
    | nil => exact ⟨by simpa using hfirst, (List.cons.inj hsecond).2.symm⟩
    | cons b tail =>
      obtain rfl := (List.cons.inj hsecond).1
      simp [hfirst] at hcount

theorem joinFields_cons (sep : α) (first field : List α) (rest : List (List α)) :
    joinFields sep first (field :: rest) = first ++ sep :: joinFields sep field rest := by
  induction rest using List.reverseRecOn with
  | nil => rfl
  | append_singleton rest last ih =>
    rw [← List.cons_append, joinFields_concat, ih, joinFields_concat, List.append_assoc,
      List.cons_append]

/-- A separator-free first field is determined, whatever the fields after it are. -/
theorem joinFields_first_inj [DecidableEq α] {sep : α} {first first' field field' : List α}
    {rest rest' : List (List α)} (hfirst : sep ∉ first) (hfirst' : sep ∉ first')
    (h : joinFields sep first (field :: rest) = joinFields sep first' (field' :: rest')) :
    first = first' := by
  rw [joinFields_cons, joinFields_cons] at h
  refine (append_sep_inj_of_count ?_ h).1
  rw [List.count_eq_zero.mpr hfirst, List.count_eq_zero.mpr hfirst']

end PaymentGateway.Lib
