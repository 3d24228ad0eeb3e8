/-
# The members of a JSON object

What a decoder does with an object that the scanner has accepted: it finds the members,
each a key and a value as they stand in the text. `members` runs the scanner once more
and cuts the text where the scanner passes from a key to a value and on to the next key.

An encoder writes an object without spaces. If its keys are strings and its values are
texts that the scanner passes without opening anything, strings and integers among them,
then the scanner accepts the object, and `members` finds what was written. If the text is
cut short, a decoder reads the whole object or nothing.
-/

import PaymentGateway.Lib.Json
import Mathlib.Data.List.DropRight

namespace PaymentGateway.Lib.Json

/-! ## Members -/

/-- The bytes without the spaces around them. -/
def trimSpaces (bytes : List UInt8) : List UInt8 := (bytes.dropWhile isSpace).rdropWhile isSpace

/-- The members of the object at the top, given the key and the part of the text that are read so
far. -/
def collect : Scanner → (key part : List UInt8) → List UInt8 → List (List UInt8 × List UInt8)
  | _, _, _, [] => []
  | s, key, part, c :: bytes =>
    match s.step c with
    | .more next =>
      if s.stack = [] then collect next [] [] bytes
      else if s.stack = [.objectKey] ∧ next.stack = [.objectValue] then collect next part [] bytes
      else if s.stack = [.objectValue] ∧ next.stack = [.objectKey] then
        (key, part) :: collect next [] [] bytes
      else collect next key (part ++ [c]) bytes
    | .closes next =>
      if next.stack ≠ [] then collect next key (part ++ [c]) bytes
      else if s.stack = [.objectValue] then [(key, part)]
      else []
    | .ended => []
    | .failed _ => []

/-- The members of an object, keys and values as they are written. -/
def members (value : List UInt8) : List (List UInt8 × List UInt8) :=
  (collect .start [] [] value).map fun found => (trimSpaces found.1, trimSpaces found.2)

example :
    (members (" \x7b \"a\" : [1,\x7b\x7d] ,\"b\":\"\x7d\"\x7d".toList.map Char.toUInt8)).map
        (fun found => (found.1.map Char.ofUInt8, found.2.map Char.ofUInt8)) =
      [("\"a\"".toList, "[1,\x7b\x7d]".toList), ("\"b\"".toList, "\"\x7d\"".toList)] := by
  decide +kernel

/-! ## Inside an object or an array -/

/-- The scanner is inside an object or an array. -/
def Scanner.Inside (s : Scanner) : Prop := s.stack ≠ [] ∧ s.state ≠ .endTop

/-- The scanner stays inside, unless the byte closes all that is open. -/
def Verdict.Inside : Verdict → Prop
  | more next => next.Inside
  | closes next => next.stack ≠ [] → next.Inside
  | ended => False
  | failed _ => True

section Inside

variable {stack : List ParseState} (h : stack ≠ []) (c : UInt8)
include h

theorem inside_endValue : (endValue stack c).Inside := by
  cases stack with
  | nil => exact absurd rfl h
  | cons parsing outer =>
    have hpop : (Verdict.closes (pop outer)).Inside := fun hne => ⟨hne, by simp_all [pop]⟩
    unfold endValue
    cases parsing <;> dsimp only <;> split_ifs <;>
      first | exact hpop | simp [Verdict.Inside, Scanner.Inside]

theorem inside_beginValue : (beginValue stack c).Inside := by
  unfold beginValue push
  split_ifs <;> simp [Verdict.Inside, Scanner.Inside, h]

theorem inside_beginString : (beginString stack c).Inside := by
  unfold beginString
  split_ifs <;> simp [Verdict.Inside, Scanner.Inside, h]

theorem inside_afterInteger : (afterInteger stack c).Inside := by
  have hend := inside_endValue h c
  unfold afterInteger
  split_ifs <;> first | exact hend | simp [Verdict.Inside, Scanner.Inside, h]

theorem inside_exponentDigit : (exponentDigit stack c).Inside := by
  unfold exponentDigit
  split_ifs <;> simp [Verdict.Inside, Scanner.Inside, h]

theorem inside_literalByte (word : String) (left : List Char) :
    (literalByte stack word c left).Inside := by
  cases left with
  | nil => exact inside_endValue h c
  | cons =>
    unfold literalByte
    dsimp only
    split_ifs <;> simp [Verdict.Inside, Scanner.Inside, h]

end Inside

theorem Scanner.Inside.step {s : Scanner} (h : s.Inside) (c : UInt8) : (s.step c).Inside := by
  have hend := inside_endValue h.1 c
  have hempty := inside_endValue (List.cons_ne_nil .objectValue s.stack.tail) c
  have hbegin := inside_beginValue h.1 c
  have hkey := inside_beginString h.1 c
  have hinteger := inside_afterInteger h.1 c
  have hexponent := inside_exponentDigit h.1 c
  have hsame : (Verdict.more s).Inside := h
  unfold Scanner.step
  cases hstate : s.state with
  | endTop => exact absurd hstate h.2
  | beginValue | beginString | endValue | zero | exponentSign => assumption
  | inLiteral word left => exact inside_literalByte h.1 c word left
  | _ =>
    dsimp only
    split_ifs <;> first | assumption | simp [Verdict.Inside, Scanner.Inside, h.1]

theorem Scanner.Inside.of_scan {s t : Scanner} {n : ℕ} {bytes : List UInt8} (h : s.Inside)
    (starved : s.scan n bytes = .starved t) : t.Inside := by
  induction bytes generalizing s n with
  | nil =>
    cases starved
    exact h
  | cons c bytes ih =>
    have hstep := h.step c
    rw [Scanner.scan] at starved
    cases hverdict : s.step c with
    | more next =>
      rw [hverdict] at starved hstep
      exact ih hstep starved
    | closes next =>
      rw [hverdict] at starved hstep
      dsimp only at starved
      split_ifs at starved with hended
      refine ih (hstep fun hnil => hended ?_) starved
      rw [hnil]
      rfl
    | ended | failed =>
      rw [hverdict] at starved
      cases starved

/-! ## Text that opens and closes nothing -/

/-- The scanner after bytes that it passes without opening or closing anything. -/
def Scanner.pass : Scanner → List UInt8 → Option Scanner
  | s, [] => some s
  | s, c :: bytes =>
    match s.step c with
    | .more next => if next.stack = s.stack then next.pass bytes else none
    | _ => none

variable {s t : Scanner} {bytes : List UInt8}

theorem Scanner.pass_cons {c : UInt8} {next : Scanner} (h : s.step c = .more next)
    (stack : next.stack = s.stack) (bytes : List UInt8) :
    s.pass (c :: bytes) = next.pass bytes := by
  rw [Scanner.pass, h]
  exact if_pos stack

theorem Scanner.pass_append (s : Scanner) (first second : List UInt8) :
    s.pass (first ++ second) = (s.pass first).bind (·.pass second) := by
  induction first generalizing s with
  | nil => rfl
  | cons c first ih =>
    rw [List.cons_append, Scanner.pass, Scanner.pass]
    cases s.step c with
    | more next =>
      dsimp only
      split_ifs
      · exact ih next
      · rfl
    | closes | ended | failed => rfl

theorem Scanner.pass_cons_eq_some {c : UInt8} (h : s.pass (c :: bytes) = some t) :
    ∃ next, s.step c = .more next ∧ next.stack = s.stack ∧ next.pass bytes = some t := by
  rw [Scanner.pass] at h
  cases hstep : s.step c with
  | more next =>
    rw [hstep] at h
    dsimp only at h
    split_ifs at h with hstack
    exact ⟨next, rfl, hstack, h⟩
  | closes | ended | failed =>
    rw [hstep] at h
    cases h

theorem Scanner.scan_of_pass (h : s.pass bytes = some t) (n : ℕ) (rest : List UInt8) :
    s.scan n (bytes ++ rest) = t.scan (n + bytes.length) rest := by
  induction bytes generalizing s n with
  | nil =>
    cases h
    rfl
  | cons c bytes ih =>
    obtain ⟨next, hstep, -, hnext⟩ := Scanner.pass_cons_eq_some h
    rw [List.cons_append, Scanner.scan, hstep]
    dsimp only
    rw [ih hnext, List.length_cons, Nat.add_assoc, Nat.add_comm 1]

theorem collect_of_pass (h : s.pass bytes = some t) (inside : s.stack ≠ [])
    (key part rest : List UInt8) :
    collect s key part (bytes ++ rest) = collect t key (part ++ bytes) rest := by
  induction bytes generalizing s part with
  | nil =>
    cases h
    rw [List.append_nil]
    rfl
  | cons c bytes ih =>
    obtain ⟨next, hstep, hstack, hnext⟩ := Scanner.pass_cons_eq_some h
    have hkey : ¬ (s.stack = [.objectKey] ∧ next.stack = [.objectValue]) := by
      rw [hstack]
      rintro ⟨hfirst, hsecond⟩
      cases hfirst.symm.trans hsecond
    have hvalue : ¬ (s.stack = [.objectValue] ∧ next.stack = [.objectKey]) := by
      rw [hstack]
      rintro ⟨hfirst, hsecond⟩
      cases hfirst.symm.trans hsecond
    rw [List.cons_append, collect, hstep]
    dsimp only
    rw [if_neg inside, if_neg hkey, if_neg hvalue, ih hnext (hstack ▸ inside), List.append_assoc]
    rfl

/-! ## Strings -/

/-- What may stand between the quotes of a string. -/
def Content (content : List UInt8) : Prop :=
  ∀ stack, Scanner.pass ⟨.inString, stack⟩ content = some ⟨.inString, stack⟩

theorem content_nil : Content [] := fun _ => rfl

theorem Content.append {first second : List UInt8} (hfirst : Content first)
    (hsecond : Content second) : Content (first ++ second) := by
  intro stack
  rw [Scanner.pass_append, hfirst stack]
  exact hsecond stack

theorem content_byte {c : UInt8} (quote : c ≠ 0x22) (backslash : c ≠ 0x5C) (control : ¬ c < 0x20) :
    Content [c] := by
  intro stack
  refine (Scanner.pass_cons ?_ rfl []).trans rfl
  rw [Scanner.step]
  exact (if_neg quote).trans ((if_neg backslash).trans (if_neg control))

theorem content_of_forall {content : List UInt8}
    (h : ∀ c ∈ content, c ≠ 0x22 ∧ c ≠ 0x5C ∧ ¬ c < 0x20) : Content content := by
  induction content with
  | nil => exact content_nil
  | cons c content ih =>
    obtain ⟨hquote, hbackslash, hcontrol⟩ := h c List.mem_cons_self
    exact (content_byte hquote hbackslash hcontrol).append
      (ih fun d hd => h d (List.mem_cons_of_mem c hd))

theorem step_backslash (stack : List ParseState) :
    Scanner.step ⟨.inString, stack⟩ 0x5C = .more ⟨.inStringEsc, stack⟩ := rfl

theorem content_escape {c : UInt8} (h : c ∈ escapes) : Content [0x5C, c] := by
  intro stack
  have hescaped : Scanner.step ⟨.inStringEsc, stack⟩ c = .more ⟨.inString, stack⟩ := if_pos h
  rw [Scanner.pass_cons (step_backslash stack) rfl, Scanner.pass_cons hescaped rfl]
  rfl

theorem content_hex {digits : List UInt8} (length : digits.length = 4)
    (hex : ∀ c ∈ digits, isHexDigit c = true) : Content (0x5C :: 'u'.toUInt8 :: digits) := by
  obtain ⟨a, b, c, d, rfl⟩ : ∃ a b c d, digits = [a, b, c, d] := by
    match digits, length with
    | [a, b, c, d], _ => exact ⟨a, b, c, d, rfl⟩
  intro stack
  have hstart : Scanner.step ⟨.inStringEsc, stack⟩ 'u'.toUInt8 = .more ⟨.inStringEscU 0, stack⟩ :=
    rfl
  have hdigit : ∀ n c, isHexDigit c = true → n < 3 → Scanner.step ⟨.inStringEscU n, stack⟩ c =
      .more ⟨.inStringEscU (n + 1), stack⟩ :=
    fun n c h hn => (if_pos h).trans (by rw [if_pos hn])
  have hlast : ∀ c, isHexDigit c = true → Scanner.step ⟨.inStringEscU 3, stack⟩ c =
      .more ⟨.inString, stack⟩ := fun c h => if_pos h
  rw [Scanner.pass_cons (step_backslash stack) rfl, Scanner.pass_cons hstart rfl,
    Scanner.pass_cons (hdigit 0 a (hex a (by simp)) (by decide)) rfl,
    Scanner.pass_cons (hdigit 1 b (hex b (by simp)) (by decide)) rfl,
    Scanner.pass_cons (hdigit 2 c (hex c (by simp)) (by decide)) rfl,
    Scanner.pass_cons (hlast d (hex d (by simp))) rfl]
  rfl

/-- A string. -/
def stringText (content : List UInt8) : List UInt8 := 0x22 :: (content ++ [0x22])

theorem Content.pass_stringText {content : List UInt8} (h : Content content) {state : State}
    {stack : List ParseState}
    (opens : Scanner.step ⟨state, stack⟩ 0x22 = .more ⟨.inString, stack⟩) :
    Scanner.pass ⟨state, stack⟩ (stringText content) = some ⟨.endValue, stack⟩ := by
  have hcloses : Scanner.step ⟨.inString, stack⟩ 0x22 = .more ⟨.endValue, stack⟩ := rfl
  rw [stringText, Scanner.pass_cons opens rfl, Scanner.pass_append, h stack, Option.bind_some,
    Scanner.pass_cons hcloses rfl]
  rfl

/-! ## Values -/

/-- A comma or a brace that follows in this state ends the value. -/
def State.Ends (state : State) : Prop :=
  ∀ stack c, c = ','.toUInt8 ∨ c = '}'.toUInt8 → Scanner.step ⟨state, stack⟩ c =
    Json.endValue stack c

/-- The text of a value that opens nothing, without spaces around it. -/
structure ValueText (text : List UInt8) : Prop where
  passes : ∀ stack, ∃ state, Scanner.pass ⟨.beginValue, stack⟩ text = some ⟨state, stack⟩ ∧
    state.Ends
  trimmed : trimSpaces text = text

theorem trimSpaces_of_ends {first : UInt8} {middle : List UInt8} {last : UInt8}
    (hfirst : isSpace first = false) (hlast : isSpace last = false) :
    trimSpaces (first :: (middle ++ [last])) = first :: (middle ++ [last]) := by
  rw [trimSpaces, List.dropWhile_cons_of_neg (by simp [hfirst]), ← List.cons_append,
    List.rdropWhile_concat_neg _ _ _ (by simp [hlast])]

theorem trimSpaces_of_forall {text : List UInt8} (h : ∀ c ∈ text, isSpace c = false) :
    trimSpaces text = text := by
  have hfront : text.dropWhile isSpace = text := by
    cases text with
    | nil => rfl
    | cons c text => exact List.dropWhile_cons_of_neg (by simp [h c])
  rw [trimSpaces, hfront, List.rdropWhile_eq_self_iff]
  intro hne
  simp [h _ (List.getLast_mem hne)]

theorem ends_endValue : State.endValue.Ends := fun _ _ _ => rfl

theorem Content.valueText {content : List UInt8} (h : Content content) :
    ValueText (stringText content) where
  passes _ := ⟨.endValue, h.pass_stringText rfl, ends_endValue⟩
  trimmed := trimSpaces_of_ends rfl rfl

theorem ends_zero : State.zero.Ends := by
  rintro stack c (rfl | rfl) <;> rfl

theorem ends_one : State.one.Ends := by
  rintro stack c (rfl | rfl) <;> rfl

theorem pass_digits {digits : List UInt8} (h : ∀ c ∈ digits, isDigit c = true)
    (stack : List ParseState) : Scanner.pass ⟨.one, stack⟩ digits = some ⟨.one, stack⟩ := by
  induction digits with
  | nil => rfl
  | cons c digits ih =>
    have hstep : Scanner.step ⟨.one, stack⟩ c = .more ⟨.one, stack⟩ :=
      if_pos (h c List.mem_cons_self)
    rw [Scanner.pass_cons hstep rfl]
    exact ih fun d hd => h d (List.mem_cons_of_mem c hd)

/-- The digits of a natural number, without zeros in front. -/
def IsNat (digits : List UInt8) : Prop :=
  digits = ['0'.toUInt8] ∨ ∃ c more, digits = c :: more ∧ c ≠ '0'.toUInt8 ∧
    ∀ d ∈ digits, isDigit d = true

theorem IsNat.isDigit {digits : List UInt8} (h : IsNat digits) :
    ∀ d ∈ digits, isDigit d = true := by
  rcases h with rfl | ⟨_, _, -, -, h⟩
  · intro d hd
    rw [List.mem_singleton.mp hd]
    rfl
  · exact h

theorem mem_digits {c : UInt8} (h : isDigit c = true) :
    c ∈ (List.range 10).map fun d => UInt8.ofNat (0x30 + d) := by
  obtain ⟨hlow, hhigh⟩ := isDigit_iff.mp h
  refine List.mem_map.mpr ⟨c.toNat - 0x30, List.mem_range.mpr (by omega), ?_⟩
  rw [Nat.add_sub_cancel' hlow, UInt8.ofNat_toNat]

theorem isSpace_of_isDigit {c : UInt8} (h : isDigit c = true) : isSpace c = false := by
  have hall : ((List.range 10).map fun d => UInt8.ofNat (0x30 + d)).all (!isSpace ·) = true := by
    decide
  exact Bool.not_eq_true' _ ▸ List.all_eq_true.mp hall c (mem_digits h)

/-- The first digit of a number. -/
theorem step_digit {c : UInt8} (h : isDigit c = true) (nonzero : c ≠ '0'.toUInt8) {state : State}
    (hstate : state = .beginValue ∨ state = .neg) (stack : List ParseState) :
    Scanner.step ⟨state, stack⟩ c = .more ⟨.one, stack⟩ := by
  have hmem := mem_digits h
  simp only [List.range, List.range.loop, List.map_cons, List.map_nil, List.mem_cons,
    List.not_mem_nil, or_false] at hmem
  rcases hmem with rfl | rfl | rfl | rfl | rfl | rfl | rfl | rfl | rfl | rfl
  · exact absurd rfl nonzero
  all_goals rcases hstate with rfl | rfl <;> rfl

theorem IsNat.pass {digits : List UInt8} (h : IsNat digits) {state : State}
    (hstate : state = .beginValue ∨ state = .neg) (stack : List ParseState) :
    ∃ next, Scanner.pass ⟨state, stack⟩ digits = some ⟨next, stack⟩ ∧ next.Ends := by
  rcases h with rfl | ⟨c, more, rfl, hzero, hdigits⟩
  · have hstep : Scanner.step ⟨state, stack⟩ '0'.toUInt8 = .more ⟨.zero, stack⟩ := by
      rcases hstate with rfl | rfl <;> rfl
    exact ⟨.zero, Scanner.pass_cons hstep rfl [], ends_zero⟩
  · have hstep := step_digit (hdigits c List.mem_cons_self) hzero hstate stack
    refine ⟨.one, (Scanner.pass_cons hstep rfl more).trans ?_, ends_one⟩
    exact pass_digits (fun d hd => hdigits d (List.mem_cons_of_mem c hd)) stack

theorem IsNat.valueText {digits : List UInt8} (h : IsNat digits) : ValueText digits where
  passes stack := h.pass (.inl rfl) stack
  trimmed := trimSpaces_of_forall fun c hc => isSpace_of_isDigit (h.isDigit c hc)

theorem IsNat.valueText_neg {digits : List UInt8} (h : IsNat digits) :
    ValueText ('-'.toUInt8 :: digits) where
  passes stack := by
    have hsign : Scanner.step ⟨.beginValue, stack⟩ '-'.toUInt8 = .more ⟨.neg, stack⟩ := rfl
    rw [Scanner.pass_cons hsign rfl]
    exact h.pass (.inr rfl) stack
  trimmed := trimSpaces_of_forall fun c hc => by
    rcases List.mem_cons.mp hc with rfl | hc
    · rfl
    · exact isSpace_of_isDigit (h.isDigit c hc)

/-! ## Objects -/

def memberText (found : List UInt8 × List UInt8) : List UInt8 :=
  found.1 ++ ':'.toUInt8 :: found.2

/-- An object with at least one member. -/
def objectText (first : List UInt8 × List UInt8) (later : List (List UInt8 × List UInt8)) :
    List UInt8 :=
  '{'.toUInt8 :: (memberText first ++
    (later.flatMap (fun found => ','.toUInt8 :: memberText found) ++ ['}'.toUInt8]))

/-- A member whose key is a string and whose value opens nothing. -/
structure MemberText (found : List UInt8 × List UInt8) : Prop where
  key : ∃ content, found.1 = stringText content ∧ Content content
  value : ValueText found.2

theorem MemberText.trimmed {found : List UInt8 × List UInt8} (h : MemberText found) :
    (trimSpaces found.1, trimSpaces found.2) = found := by
  obtain ⟨content, hkey, hcontent⟩ := h.key
  rw [h.value.trimmed, hkey, hcontent.valueText.trimmed, ← hkey]

/-- The scanner passes a member. -/
theorem MemberText.spec {found : List UInt8 × List UInt8} (h : MemberText found) {state : State}
    (hstate : state = .beginString ∨ state = .beginStringOrEmpty) :
    ∃ next, next.Ends ∧
      (∀ n rest, Scanner.scan ⟨state, [.objectKey]⟩ n (memberText found ++ rest) =
        Scanner.scan ⟨next, [.objectValue]⟩ (n + (memberText found).length) rest) ∧
      ∀ rest, collect ⟨state, [.objectKey]⟩ [] [] (memberText found ++ rest) =
        collect ⟨next, [.objectValue]⟩ found.1 found.2 rest := by
  obtain ⟨content, hkey, hcontent⟩ := h.key
  obtain ⟨next, hvalue, hends⟩ := h.value.passes [.objectValue]
  have hopens : Scanner.step ⟨state, [.objectKey]⟩ 0x22 = .more ⟨.inString, [.objectKey]⟩ := by
    rcases hstate with rfl | rfl <;> rfl
  have hpass := hkey ▸ hcontent.pass_stringText hopens
  have hcolon : Scanner.step ⟨.endValue, [.objectKey]⟩ ':'.toUInt8 =
      .more ⟨.beginValue, [.objectValue]⟩ := rfl
  refine ⟨next, hends, fun n rest => ?_, fun rest => ?_⟩
  · rw [memberText, List.append_assoc, List.cons_append, Scanner.scan_of_pass hpass, Scanner.scan,
      hcolon]
    dsimp only
    rw [Scanner.scan_of_pass hvalue, List.length_append, List.length_cons]
    congr 1
    omega
  · rw [memberText, List.append_assoc, List.cons_append, collect_of_pass hpass (by simp), collect,
      hcolon]
    exact collect_of_pass hvalue (by simp) found.1 [] rest

/-- The scanner passes the members after the first one, up to the end of the object. -/
theorem later_spec {later : List (List UInt8 × List UInt8)} (h : ∀ found ∈ later, MemberText found)
    {state : State} (ends : state.Ends) (key value rest : List UInt8) :
    (∀ n, Scanner.scan ⟨state, [.objectValue]⟩ n
        (later.flatMap (fun found => ','.toUInt8 :: memberText found) ++ '}'.toUInt8 :: rest) =
      .complete
        (n + (later.flatMap fun found => ','.toUInt8 :: memberText found).length + 1)) ∧
    collect ⟨state, [.objectValue]⟩ key value
        (later.flatMap (fun found => ','.toUInt8 :: memberText found) ++ '}'.toUInt8 :: rest) =
      (key, value) :: later := by
  -- The member that was passed last is found when the next comma, or the brace, is read.
  induction later generalizing state key value with
  | nil =>
    have hbrace : Scanner.step ⟨state, [.objectValue]⟩ '}'.toUInt8 = .closes ⟨.endTop, []⟩ :=
      ends _ _ (.inr rfl)
    constructor
    · intro n
      rw [List.flatMap_nil, List.nil_append, Scanner.scan, hbrace]
      rfl
    · rw [List.flatMap_nil, List.nil_append, collect, hbrace]
      rfl
  | cons found later ih =>
    have hcomma : Scanner.step ⟨state, [.objectValue]⟩ ','.toUInt8 =
        .more ⟨.beginString, [.objectKey]⟩ := ends _ _ (.inl rfl)
    obtain ⟨next, hends, hscan, hcollect⟩ :=
      (h found List.mem_cons_self).spec (.inl rfl : State.beginString = _ ∨ _)
    obtain ⟨ihscan, ihcollect⟩ :=
      ih (fun other hother => h other (List.mem_cons_of_mem found hother)) hends found.1 found.2
    constructor
    · intro n
      rw [List.flatMap_cons, List.append_assoc, List.cons_append, Scanner.scan, hcomma]
      dsimp only
      rw [hscan, ihscan, List.length_append, List.length_cons]
      congr 1
      omega
    · rw [List.flatMap_cons, List.append_assoc, List.cons_append, collect, hcomma]
      dsimp only
      rw [if_neg (by simp), if_neg (by simp), if_pos ⟨rfl, rfl⟩, hcollect, ihcollect]

variable {first : List UInt8 × List UInt8} {later : List (List UInt8 × List UInt8)}

/-- The scanner accepts an object and stops at its last byte. -/
theorem scan_objectText (hfirst : MemberText first) (hlater : ∀ found ∈ later, MemberText found)
    (rest : List UInt8) :
    Scanner.start.scan 0 (objectText first later ++ rest) =
      .complete (objectText first later).length := by
  have hopen : Scanner.start.step '{'.toUInt8 = .more ⟨.beginStringOrEmpty, [.objectKey]⟩ := rfl
  obtain ⟨next, hends, hscan, -⟩ := hfirst.spec (.inr rfl : State.beginStringOrEmpty = _ ∨ _)
  rw [objectText, List.cons_append, Scanner.scan, hopen]
  dsimp only
  rw [List.append_assoc, List.append_assoc, hscan, List.singleton_append,
    (later_spec hlater hends [] [] rest).1]
  congr 1
  simp only [List.length_cons, List.length_append, List.length_nil]
  omega

theorem trimSpaces_objectText (first : List UInt8 × List UInt8)
    (later : List (List UInt8 × List UInt8)) :
    trimSpaces (objectText first later) = objectText first later := by
  rw [objectText, ← List.append_assoc]
  exact trimSpaces_of_ends rfl rfl

/-- After a part of an object no value has ended. -/
theorem step_ne_ended_of_starved {part : List UInt8} {s : Scanner}
    (h : Scanner.start.scan 0 ('{'.toUInt8 :: part) = .starved s) : s.step 0x20 ≠ .ended := by
  have hinside : Scanner.Inside ⟨.beginStringOrEmpty, [.objectKey]⟩ := by simp [Scanner.Inside]
  intro hended
  have hstep := (hinside.of_scan h).step 0x20
  rw [hended] at hstep
  exact hstep

/-- Of an object that is cut short a decoder reads all or nothing. -/
theorem eq_objectText_of_readValue (hfirst : MemberText first)
    (hlater : ∀ found ∈ later, MemberText found) {r : Reader} {rest : List UInt8}
    (h : r.bytes <+: objectText first later ++ rest) {value : List UInt8} {next : Decoder}
    (read : (Decoder.new r).readValue = .ok (value, next)) : value = objectText first later := by
  obtain ⟨missing, hwhole⟩ := h
  have hread := (Decoder.new r).readValue_eq
  have hbytes : (Decoder.new r).bytes = r.bytes := rfl
  rw [read, hbytes, readAll, List.length_nil] at hread
  have hscan := scan_objectText hfirst hlater rest
  rw [← hwhole, Scanner.scan_append] at hscan
  cases hpart : Scanner.start.scan 0 r.bytes with
  | malformed =>
    rw [hpart] at hscan
    cases hscan
  | complete length =>
    -- What the part decides, the whole decides in the same way.
    have hle := Scanner.le_of_scan_complete hpart
    rw [hpart] at hscan hread
    cases hscan
    rw [Nat.zero_add] at hle
    have hvalue : value = r.bytes.take (objectText first later).length :=
      (Prod.mk.inj (Except.ok.inj hread)).1
    rw [hvalue, ← List.take_append_of_le_length hle, hwhole, List.take_left]
  | starved s =>
    rw [hpart] at hread
    -- The end of the stream does not make a value of what is there.
    have hopen : s.step 0x20 ≠ .ended := by
      cases hr : r.bytes with
      | nil =>
        rw [hr] at hpart
        cases hpart
        decide
      | cons c part =>
        rw [hr] at hwhole hpart
        obtain ⟨rfl, -⟩ := List.cons.inj hwhole
        exact step_ne_ended_of_starved hpart
    simp only [starve, hopen, if_false, Except.map] at hread
    split_ifs at hread

/-- The members of an object are found. -/
theorem members_objectText (hfirst : MemberText first)
    (hlater : ∀ found ∈ later, MemberText found) :
    members (objectText first later) = first :: later := by
  have hopen : Scanner.start.step '{'.toUInt8 = .more ⟨.beginStringOrEmpty, [.objectKey]⟩ := rfl
  obtain ⟨next, hends, -, hcollect⟩ := hfirst.spec (.inr rfl : State.beginStringOrEmpty = _ ∨ _)
  have hall : collect .start [] [] (objectText first later) = first :: later := by
    rw [objectText, collect, hopen]
    dsimp only
    rw [if_pos (show Scanner.start.stack = [] from rfl), hcollect,
      (later_spec hlater hends _ _ []).2]
  rw [members, hall, List.map_cons, hfirst.trimmed,
    List.map_congr_left fun found hfound => (hlater found hfound).trimmed, List.map_id']

end PaymentGateway.Lib.Json
