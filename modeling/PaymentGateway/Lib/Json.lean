/-
# Reading JSON from a stream

A decoder that reads one JSON value after the other from a stream, byte by byte. The
scanner is a machine with a stack of the objects and arrays that are open. It can tell
that an object or an array is complete by its last byte; a number, a string or a literal
at the top is complete when the byte after it is seen, or when the stream ends there.

A stream delivers its bytes in chunks and ends with an error, and a byte limit cuts a
stream off. An error is noticed when the scanner has used up what came before it, so how
a stream is divided into chunks makes no difference: `readFrom_eq` compares the decoder
with one that sees the whole stream at once.
-/

import PaymentGateway.Lib.Result
import Mathlib.Data.List.Basic

namespace PaymentGateway.Lib.Json

/-! ## Streams -/

/-- Why there are no more bytes. -/
inductive ReadError
  | eof
  /-- More bytes than a limit allows. -/
  | maxBytes (limit : ℕ)
  | failed
  deriving DecidableEq, Repr

/-- A stream: what successive reads deliver, and the error that ends them. -/
structure Reader where
  chunks : List (List UInt8)
  fate : ReadError
  deriving DecidableEq, Repr

/-- The bytes of a stream. -/
def Reader.bytes (r : Reader) : List UInt8 := r.chunks.flatten

/-- What is left of a stream when `left` more bytes are allowed. -/
def limitChunks (limit : ℕ) (fate : ReadError) : ℕ → List (List UInt8) → Reader
  | _, [] => ⟨[], fate⟩
  | left, chunk :: chunks =>
    if chunk.length ≤ left then
      let rest := limitChunks limit fate (left - chunk.length) chunks
      ⟨chunk :: rest.chunks, rest.fate⟩
    else ⟨[chunk.take left], .maxBytes limit⟩

/-- A stream that fails after `limit` bytes. -/
def Reader.limited (limit : ℕ) (r : Reader) : Reader := limitChunks limit r.fate limit r.chunks

private theorem limitChunks_bytes (limit : ℕ) (fate : ReadError) (left : ℕ)
    (chunks : List (List UInt8)) :
    (limitChunks limit fate left chunks).bytes = chunks.flatten.take left := by
  induction chunks generalizing left with
  | nil => simp [limitChunks, Reader.bytes]
  | cons chunk chunks ih =>
    rw [limitChunks, List.flatten_cons, List.take_append]
    split_ifs with hfits
    · rw [List.take_of_length_le hfits, ← ih]
      rfl
    · rw [Nat.sub_eq_zero_of_le (Nat.le_of_not_le hfits)]
      simp [Reader.bytes]

private theorem limitChunks_fate (limit : ℕ) (fate : ReadError) (left : ℕ)
    (chunks : List (List UInt8)) :
    (limitChunks limit fate left chunks).fate =
      if chunks.flatten.length ≤ left then fate else .maxBytes limit := by
  induction chunks generalizing left with
  | nil => simp [limitChunks]
  | cons chunk chunks ih =>
    rw [limitChunks, List.flatten_cons, List.length_append]
    split_ifs with hfits hall hall
    · exact (ih _).trans (if_pos (by omega))
    · exact (ih _).trans (if_neg (by omega))
    · omega
    · rfl

@[simp] theorem Reader.limited_bytes (limit : ℕ) (r : Reader) :
    (r.limited limit).bytes = r.bytes.take limit := limitChunks_bytes ..

theorem Reader.limited_fate (limit : ℕ) (r : Reader) :
    (r.limited limit).fate = if r.bytes.length ≤ limit then r.fate else .maxBytes limit :=
  limitChunks_fate ..

/-! ## The scanner -/

/-- What is being parsed inside an object or an array. -/
inductive ParseState
  | objectKey
  | objectValue
  | arrayValue
  deriving DecidableEq, Repr

/-- What the scanner expects next. -/
inductive State
  | beginValueOrEmpty
  | beginValue
  | beginStringOrEmpty
  | beginString
  | endValue
  | endTop
  | inString
  | inStringEsc
  /-- After a `u` escape and some of its four digits. -/
  | inStringEscU (digits : ℕ)
  /-- After a minus sign. -/
  | neg
  /-- After a leading zero, or after the digits before a decimal point. -/
  | zero
  | one
  | dot
  | dotDigits
  | exponent
  | exponentSign
  | exponentDigits
  /-- Inside `true`, `false` or `null`. -/
  | inLiteral (word : String) (left : List Char)
  deriving DecidableEq, Repr

/-- The scanner, with the innermost parse state first. -/
structure Scanner where
  state : State
  stack : List ParseState
  deriving DecidableEq, Repr

/-- What the scanner makes of a byte. -/
inductive Verdict
  | more (next : Scanner)
  /-- The byte ends an object or an array. -/
  | closes (next : Scanner)
  /-- The value at the top ended before the byte. -/
  | ended
  | failed (context : String)
  deriving DecidableEq, Repr

def maxNestingDepth : ℕ := 10000

def isSpace (c : UInt8) : Bool := c = 0x20 || c = 0x09 || c = 0x0D || c = 0x0A

def isDigit (c : UInt8) : Bool := 0x30 ≤ c && c ≤ 0x39

theorem isDigit_iff {c : UInt8} : isDigit c = true ↔ 0x30 ≤ c.toNat ∧ c.toNat ≤ 0x39 := by
  simp [isDigit, UInt8.le_iff_toNat_le]

def isHexDigit (c : UInt8) : Bool :=
  isDigit c || (0x61 ≤ c && c ≤ 0x66) || (0x41 ≤ c && c ≤ 0x46)

/-- Open an object or an array. -/
def push (parsing : ParseState) (stack : List ParseState) (state : State) : Verdict :=
  if (parsing :: stack).length ≤ maxNestingDepth then .more ⟨state, parsing :: stack⟩
  else .failed "exceeded max depth"

/-- Close an object or an array that stands inside the given ones. -/
def pop (stack : List ParseState) : Scanner := ⟨if stack = [] then .endTop else .endValue, stack⟩

/-- A byte after a value. -/
def endValue (stack : List ParseState) (c : UInt8) : Verdict :=
  match stack with
  | [] => .ended
  | parsing :: outer =>
    if isSpace c then .more ⟨.endValue, stack⟩
    else match parsing with
      | .objectKey =>
        if c = ':'.toUInt8 then .more ⟨.beginValue, .objectValue :: outer⟩
        else .failed "after object key"
      | .objectValue =>
        if c = ','.toUInt8 then .more ⟨.beginString, .objectKey :: outer⟩
        else if c = '}'.toUInt8 then .closes (pop outer)
        else .failed "after object key:value pair"
      | .arrayValue =>
        if c = ','.toUInt8 then .more ⟨.beginValue, stack⟩
        else if c = ']'.toUInt8 then .closes (pop outer)
        else .failed "after array element"

/-- A byte where a value starts. -/
def beginValue (stack : List ParseState) (c : UInt8) : Verdict :=
  if isSpace c then .more ⟨.beginValue, stack⟩
  else if c = '{'.toUInt8 then push .objectKey stack .beginStringOrEmpty
  else if c = '['.toUInt8 then push .arrayValue stack .beginValueOrEmpty
  else if c = 0x22 then .more ⟨.inString, stack⟩
  else if c = '-'.toUInt8 then .more ⟨.neg, stack⟩
  else if c = '0'.toUInt8 then .more ⟨.zero, stack⟩
  else if c = 't'.toUInt8 then .more ⟨.inLiteral "true" ['r', 'u', 'e'], stack⟩
  else if c = 'f'.toUInt8 then .more ⟨.inLiteral "false" ['a', 'l', 's', 'e'], stack⟩
  else if c = 'n'.toUInt8 then .more ⟨.inLiteral "null" ['u', 'l', 'l'], stack⟩
  else if isDigit c then .more ⟨.one, stack⟩
  else .failed "looking for beginning of value"

/-- A byte where the key of an object starts. -/
def beginString (stack : List ParseState) (c : UInt8) : Verdict :=
  if isSpace c then .more ⟨.beginString, stack⟩
  else if c = 0x22 then .more ⟨.inString, stack⟩
  else .failed "looking for beginning of object key string"

/-- A byte after the integer digits of a number. -/
def afterInteger (stack : List ParseState) (c : UInt8) : Verdict :=
  if c = '.'.toUInt8 then .more ⟨.dot, stack⟩
  else if c = 'e'.toUInt8 ∨ c = 'E'.toUInt8 then .more ⟨.exponent, stack⟩
  else endValue stack c

/-- A digit of an exponent. -/
def exponentDigit (stack : List ParseState) (c : UInt8) : Verdict :=
  if isDigit c then .more ⟨.exponentDigits, stack⟩
  else .failed "in exponent of numeric literal"

/-- A byte inside a literal. -/
def literalByte (stack : List ParseState) (word : String) (c : UInt8) : List Char → Verdict
  | [] => endValue stack c
  | expected :: left =>
    if c ≠ expected.toUInt8 then
      .failed ("in literal " ++ word ++ " (expecting '" ++ String.singleton expected ++ "')")
    else if left = [] then .more ⟨.endValue, stack⟩
    else .more ⟨.inLiteral word left, stack⟩

/-- The bytes of the escapes of one letter. -/
def escapes : List UInt8 :=
  ['b'.toUInt8, 'f'.toUInt8, 'n'.toUInt8, 'r'.toUInt8, 't'.toUInt8, 0x5C, '/'.toUInt8, 0x22]

/-- One byte. -/
def Scanner.step (s : Scanner) (c : UInt8) : Verdict :=
  match s.state with
  | .beginValueOrEmpty =>
    if isSpace c then .more s
    else if c = ']'.toUInt8 then endValue s.stack c
    else beginValue s.stack c
  | .beginValue => beginValue s.stack c
  | .beginStringOrEmpty =>
    if isSpace c then .more s
    -- An object without members is closed as after a member.
    else if c = '}'.toUInt8 then endValue (.objectValue :: s.stack.tail) c
    else beginString s.stack c
  | .beginString => beginString s.stack c
  | .endValue => endValue s.stack c
  | .endTop => .ended
  | .inString =>
    if c = 0x22 then .more ⟨.endValue, s.stack⟩
    else if c = 0x5C then .more ⟨.inStringEsc, s.stack⟩
    else if c < 0x20 then .failed "in string literal"
    else .more s
  | .inStringEsc =>
    if c ∈ escapes then .more ⟨.inString, s.stack⟩
    else if c = 'u'.toUInt8 then .more ⟨.inStringEscU 0, s.stack⟩
    else .failed "in string escape code"
  | .inStringEscU digits =>
    if isHexDigit c then
      .more ⟨if digits < 3 then .inStringEscU (digits + 1) else .inString, s.stack⟩
    else .failed "in \\u hexadecimal character escape"
  | .neg =>
    if c = '0'.toUInt8 then .more ⟨.zero, s.stack⟩
    else if isDigit c then .more ⟨.one, s.stack⟩
    else .failed "in numeric literal"
  | .one => if isDigit c then .more s else afterInteger s.stack c
  | .zero => afterInteger s.stack c
  | .dot =>
    if isDigit c then .more ⟨.dotDigits, s.stack⟩
    else .failed "after decimal point in numeric literal"
  | .dotDigits =>
    if isDigit c then .more s
    else if c = 'e'.toUInt8 ∨ c = 'E'.toUInt8 then .more ⟨.exponent, s.stack⟩
    else endValue s.stack c
  | .exponent =>
    if c = '+'.toUInt8 ∨ c = '-'.toUInt8 then .more ⟨.exponentSign, s.stack⟩
    else exponentDigit s.stack c
  | .exponentSign => exponentDigit s.stack c
  | .exponentDigits => if isDigit c then .more s else endValue s.stack c
  | .inLiteral word left => literalByte s.stack word c left

/-- The scanner at the start of a value. -/
def Scanner.start : Scanner := ⟨.beginValue, []⟩

/-! ## Scanning what is there -/

/-- What becomes of some bytes. -/
inductive Scan
  /-- They are used up and decide nothing. -/
  | starved (s : Scanner)
  /-- A value ends after so many bytes. -/
  | complete (length : ℕ)
  /-- A byte, the one with the given number, cannot stand there. -/
  | malformed (offset : ℕ) (char : UInt8) (context : String)
  deriving DecidableEq, Repr

/-- Scan bytes, after `n` that are already scanned. -/
def Scanner.scan : Scanner → ℕ → List UInt8 → Scan
  | s, _, [] => .starved s
  | s, n, c :: bytes =>
    match s.step c with
    | .more next => next.scan (n + 1) bytes
    | .closes next =>
      -- Instead of waiting for a byte after the value, a space is made up.
      if endValue next.stack 0x20 = .ended then .complete (n + 1) else next.scan (n + 1) bytes
    | .ended => .complete n
    | .failed context => .malformed (n + 1) c context

-- A number is complete at the byte after it, an array at its bracket.
example :
    ["12 ", "12", "[1,tru", "[-0.5e+1, null]x", "[01]"].map
        (fun text => Scanner.start.scan 0 (text.toList.map Char.toUInt8)) =
      [.complete 2, .starved ⟨.one, []⟩, .starved ⟨.inLiteral "true" ['e'], [.arrayValue]⟩,
        .complete 15, .malformed 3 0x31 "after array element"] := by
  decide +kernel

/-- What is decided by the first bytes stays decided, and otherwise the scanner goes on. -/
theorem Scanner.scan_append (s : Scanner) (n : ℕ) (first second : List UInt8) :
    s.scan n (first ++ second) =
      match s.scan n first with
      | .starved next => next.scan (n + first.length) second
      | decided => decided := by
  induction first generalizing s n with
  | nil => rfl
  | cons c first ih =>
    have hlength : n + (c :: first).length = n + 1 + first.length := by
      rw [List.length_cons]
      omega
    rw [List.cons_append, Scanner.scan, Scanner.scan, hlength]
    cases s.step c with
    | more next => exact ih next (n + 1)
    | closes next =>
      dsimp only
      split_ifs
      · rfl
      · exact ih next (n + 1)
    | ended => rfl
    | failed context => rfl

/-- The number of a value's bytes counts bytes that are there. -/
theorem Scanner.le_of_scan_complete {s : Scanner} {n length : ℕ} {bytes : List UInt8}
    (h : s.scan n bytes = .complete length) : length ≤ n + bytes.length := by
  induction bytes generalizing s n with
  | nil => cases h
  | cons c bytes ih =>
    rw [Scanner.scan] at h
    rw [List.length_cons]
    cases hstep : s.step c with
    | more next =>
      rw [hstep] at h
      have := ih h
      omega
    | closes next =>
      rw [hstep] at h
      dsimp only at h
      split_ifs at h
      · cases h
        omega
      · have := ih h
        omega
    | ended =>
      rw [hstep] at h
      cases h
      omega
    | failed context =>
      rw [hstep] at h
      cases h

/-! ## Reading a value -/

/-- Why no value is read. -/
inductive StreamError
  | syntaxError (offset : ℕ) (char : UInt8) (context : String)
  | unexpectedEOF
  | read (err : ReadError)
  deriving DecidableEq, Repr

/-- All bytes are used up, and an error follows. At the end of the stream a space shows whether
they are a value. -/
def starve (fate : ReadError) (s : Scanner) (bytes : List UInt8) : Except StreamError Unit :=
  if fate ≠ .eof then .error (.read fate)
  else if s.step 0x20 = .ended then .ok ()
  else if bytes.any (!isSpace ·) then .error .unexpectedEOF
  else .error (.read .eof)

/-- A decoder: the bytes in its buffer, what can be read into it, and how many bytes of the
stream are decoded. -/
structure Decoder where
  buffered : List UInt8
  chunks : List (List UInt8)
  fate : ReadError
  decoded : ℕ
  deriving DecidableEq, Repr

/-- A decoder for a stream. -/
def Decoder.new (r : Reader) : Decoder := ⟨[], r.chunks, r.fate, 0⟩

/-- The bytes that a decoder can still see. -/
def Decoder.bytes (d : Decoder) : List UInt8 := d.buffered ++ d.chunks.flatten

/-- Read a value: scan the bytes of the buffer that are not scanned yet, and refill it. The
result is the value, and what is left of the buffer and of the chunks. -/
def readFrom (fate : ReadError) (decoded : ℕ) :
    List (List UInt8) → Scanner → (scanned fresh : List UInt8) →
      Except StreamError (List UInt8 × List UInt8 × List (List UInt8))
  | chunks, s, scanned, fresh =>
    match s.scan scanned.length fresh with
    | .complete length =>
      .ok ((scanned ++ fresh).take length, (scanned ++ fresh).drop length, chunks)
    | .malformed offset char context => .error (.syntaxError (decoded + offset) char context)
    | .starved next =>
      match chunks with
      | [] => (starve fate next (scanned ++ fresh)).map fun _ => (scanned ++ fresh, [], [])
      | chunk :: chunks => readFrom fate decoded chunks next (scanned ++ fresh) chunk

/-- Read the next value. -/
def Decoder.readValue (d : Decoder) : Except StreamError (List UInt8 × Decoder) :=
  (readFrom d.fate d.decoded d.chunks .start [] d.buffered).map fun left =>
    (left.1, ⟨left.2.1, left.2.2, d.fate, d.decoded + left.1.length⟩)

/-! ## The whole stream at once -/

/-- Read a value from bytes that are all there; the result is the value and what follows. -/
def readAll (fate : ReadError) (decoded : ℕ) (s : Scanner) (scanned fresh : List UInt8) :
    Except StreamError (List UInt8 × List UInt8) :=
  match s.scan scanned.length fresh with
  | .complete length => .ok ((scanned ++ fresh).take length, (scanned ++ fresh).drop length)
  | .malformed offset char context => .error (.syntaxError (decoded + offset) char context)
  | .starved next => (starve fate next (scanned ++ fresh)).map fun _ => (scanned ++ fresh, [])

/-- Reading depends on the bytes of the chunks only. -/
theorem readFrom_eq (fate : ReadError) (decoded : ℕ) (chunks : List (List UInt8)) (s : Scanner)
    (scanned fresh : List UInt8) :
    (readFrom fate decoded chunks s scanned fresh).map
        (fun left => (left.1, left.2.1 ++ left.2.2.flatten)) =
      readAll fate decoded s scanned (fresh ++ chunks.flatten) := by
  induction chunks generalizing s scanned fresh with
  | nil =>
    rw [readFrom, readAll, List.flatten_nil, List.append_nil]
    cases s.scan scanned.length fresh with
    | starved next =>
      dsimp only
      cases starve fate next (scanned ++ fresh) with
      | error err => rfl
      | ok u => rfl
    | complete length => simp [Except.map]
    | malformed offset char context => rfl
  | cons chunk chunks ih =>
    rw [readFrom, readAll, List.flatten_cons, Scanner.scan_append]
    cases hscan : s.scan scanned.length fresh with
    | starved next =>
      -- The buffer is scanned, and the induction is for the scanner that is left.
      dsimp only
      rw [ih, readAll, List.length_append, List.append_assoc]
    | complete length =>
      have hlength := Scanner.le_of_scan_complete hscan
      rw [← List.length_append] at hlength
      dsimp only
      rw [← List.append_assoc, List.take_append_of_le_length hlength,
        List.drop_append_of_le_length hlength]
      simp [Except.map]
    | malformed offset char context => rfl

/-- A decoder reads as if it saw its bytes at once. -/
theorem Decoder.readValue_eq (d : Decoder) :
    d.readValue.map (fun read => (read.1, read.2.bytes)) =
      readAll d.fate d.decoded .start [] d.bytes := by
  rw [Decoder.bytes, ← readFrom_eq, Decoder.readValue]
  cases readFrom d.fate d.decoded d.chunks .start [] d.buffered with
  | error err => rfl
  | ok left => rfl

/-- Whether the bytes at the start of a stream decide what is read from it. -/
def Decides (bytes : List UInt8) : Prop := ∀ s, Scanner.start.scan 0 bytes ≠ .starved s

instance (bytes : List UInt8) : Decidable (Decides bytes) :=
  match h : Scanner.start.scan 0 bytes with
  | .starved s => isFalse fun decides => decides s h
  | .complete _ => isTrue fun s heq => by cases h.symm.trans heq
  | .malformed _ _ _ => isTrue fun s heq => by cases h.symm.trans heq

theorem not_decides_iff {bytes : List UInt8} :
    ¬ Decides bytes ↔ ∃ s, Scanner.start.scan 0 bytes = .starved s := by
  simp [Decides]

theorem Decoder.readValue_eq_error_iff {d : Decoder} {err : StreamError} :
    d.readValue = .error err ↔ readAll d.fate d.decoded .start [] d.bytes = .error err := by
  rw [← d.readValue_eq]
  exact map_eq_error.symm

/-- On a stream that breaks off, the error is what a decoder reports exactly when the bytes before
it decide nothing. -/
theorem Decoder.readValue_eq_read_iff {d : Decoder} (broken : d.fate ≠ .eof) {err : ReadError} :
    d.readValue = .error (.read err) ↔ ¬ Decides d.bytes ∧ d.fate = err := by
  rw [Decoder.readValue_eq_error_iff, not_decides_iff, readAll, List.length_nil]
  cases hscan : Scanner.start.scan 0 d.bytes with
  | starved next => simp [starve, broken, Except.map]
  | complete length => simp
  | malformed offset char context => simp

/-- Such a stream never seems to end. -/
theorem Decoder.readValue_ne_eof {d : Decoder} (broken : d.fate ≠ .eof) :
    d.readValue ≠ .error (.read .eof) :=
  fun h => broken ((Decoder.readValue_eq_read_iff broken).mp h).2

theorem Decoder.fate_of_readValue {d next : Decoder} {value : List UInt8}
    (h : d.readValue = .ok (value, next)) : next.fate = d.fate := by
  rw [Decoder.readValue] at h
  obtain ⟨_, -, heq⟩ := map_eq_ok.mp h
  cases heq
  rfl

end PaymentGateway.Lib.Json
