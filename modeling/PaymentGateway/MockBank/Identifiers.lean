/-
# The identifiers of the bank

`helpers.go` of the handlers: ids of rows as they appear in requests and responses, a
prefix for the kind of the row and the text of a UUID. `UUID.text` and `parseUUID` are
`String` and `Parse` of `github.com/google/uuid`.
-/

import PaymentGateway.MockBank.Tables

namespace PaymentGateway.MockBank

open Lib

/-! ## Hexadecimal digits -/

/-- A digit of `encoding/hex`. -/
def hexDigit (value : ℕ) : UInt8 :=
  if value < 10 then UInt8.ofNat (0x30 + value) else UInt8.ofNat (0x57 + value)

/-- The table `xvalues`. -/
def hexValue (digit : UInt8) : Option ℕ :=
  if 0x30 ≤ digit ∧ digit ≤ 0x39 then some (digit.toNat - 0x30)
  else if 0x41 ≤ digit ∧ digit ≤ 0x46 then some (digit.toNat - 0x37)
  else if 0x61 ≤ digit ∧ digit ≤ 0x66 then some (digit.toNat - 0x57)
  else none

/-- `xtob`. -/
def xtob (high low : UInt8) : Option UInt8 := do
  let highValue ← hexValue high
  let lowValue ← hexValue low
  some (UInt8.ofNat (16 * highValue + lowValue))

theorem hexValue_hexDigit {value : ℕ} (h : value < 16) :
    hexValue (hexDigit value) = some value := by
  have hall : ∀ value < 16, hexValue (hexDigit value) = some value := by decide +kernel
  exact hall value h

/-- The digits of a byte. -/
def hexPair (byte : UInt8) : GoString := [hexDigit (byte.toNat / 16), hexDigit (byte.toNat % 16)]

theorem xtob_hexPair (byte : UInt8) :
    xtob (hexDigit (byte.toNat / 16)) (hexDigit (byte.toNat % 16)) = some byte := by
  have hbyte := byte.toNat_lt
  rw [xtob, hexValue_hexDigit (by omega), hexValue_hexDigit (by omega)]
  simp only [Option.bind_eq_bind, Option.bind_some]
  rw [Nat.div_add_mod, UInt8.ofNat_toNat]

/-! ## UUIDs as text -/

/-- `UUID.String`. -/
def UUID.text (id : UUID) : GoString :=
  (id.bytes.take 4).flatMap hexPair ++ [0x2D] ++ ((id.bytes.drop 4).take 2).flatMap hexPair ++
    [0x2D] ++ ((id.bytes.drop 6).take 2).flatMap hexPair ++ [0x2D] ++
    ((id.bytes.drop 8).take 2).flatMap hexPair ++ [0x2D] ++ (id.bytes.drop 10).flatMap hexPair

theorem UUID.mem_text {id : UUID} {b : UInt8} (h : b ∈ id.text) :
    b = 0x2D ∨ ∃ value < 16, b = hexDigit value := by
  have hpair : ∀ {bytes : List UInt8}, b ∈ bytes.flatMap hexPair →
      b = 0x2D ∨ ∃ value < 16, b = hexDigit value := by
    intro bytes hb
    obtain ⟨byte, -, hb⟩ := List.mem_flatMap.mp hb
    have hbyte := byte.toNat_lt
    rcases List.mem_pair.mp hb with rfl | rfl
    · exact .inr ⟨_, by omega, rfl⟩
    · exact .inr ⟨_, by omega, rfl⟩
  simp only [UUID.text, List.mem_append, List.mem_singleton] at h
  rcases h with (((((((h | h) | h) | h) | h) | h) | h) | h) | h
  all_goals first
    | exact .inl h
    | exact hpair h

/-- The places of the first digits of the bytes, in a text with dashes. -/
def digitOffsets : List ℕ := [0, 2, 4, 6, 9, 11, 14, 16, 19, 21, 24, 26, 28, 30, 32, 34]

/-- The bytes whose digits start at given places of a text. -/
def bytesAt (s : GoString) (offsets : List ℕ) : Option (List UInt8) :=
  offsets.mapM fun offset => xtob (s.getD offset 0) (s.getD (offset + 1) 0)

theorem length_of_mapM {α β : Type} {f : α → Option β} {xs : List α} {ys : List β}
    (h : xs.mapM f = some ys) : ys.length = xs.length := by
  induction xs generalizing ys with
  | nil =>
    cases h
    rfl
  | cons x xs ih =>
    simp only [List.mapM_cons, Option.bind_eq_bind, Option.bind_eq_some_iff] at h
    obtain ⟨y, -, rest, hrest, heq⟩ := h
    cases heq
    rw [List.length_cons, List.length_cons, ih hrest]

/-- The id with given bytes, sixteen of them. -/
def uuidAt (s : GoString) (offsets : List ℕ) (h : offsets.length = 16) : Option UUID :=
  match hbytes : bytesAt s offsets with
  | some bytes => some ⟨bytes, (length_of_mapM hbytes).trans h⟩
  | none => none

/-- The end of `Parse`, for a text with dashes. -/
def parseDashed (s : GoString) : Option UUID :=
  if s.getD 8 0 ≠ 0x2D ∨ s.getD 13 0 ≠ 0x2D ∨ s.getD 18 0 ≠ 0x2D ∨ s.getD 23 0 ≠ 0x2D then none
  else uuidAt s digitOffsets rfl

/-- `strings.EqualFold` with `urn:uuid:`, none of whose letters folds to one outside ASCII. -/
def isUrnPrefix (s : GoString) : Bool :=
  s.map (fun b => if 0x41 ≤ b ∧ b ≤ 0x5A then b + 0x20 else b) = ascii "urn:uuid:"

/-- `Parse`. In braces only the first one is looked at as a place, and neither as a brace. -/
def parseUUID (s : GoString) : Option UUID :=
  match s.length with
  | 36 => parseDashed s
  | 45 => if isUrnPrefix (s.take 9) then parseDashed (s.drop 9) else none
  | 38 => parseDashed (s.drop 1)
  | 32 => uuidAt s ((List.range 16).map (2 * ·)) rfl
  | _ => none

theorem uuidAt_eq_some {s : GoString} {offsets : List ℕ} {h : offsets.length = 16} {id : UUID}
    (hbytes : bytesAt s offsets = some id.bytes) : uuidAt s offsets h = some id := by
  unfold uuidAt
  split
  · next bytes heq =>
    rw [hbytes, Option.some_inj] at heq
    subst heq
    rfl
  · next heq =>
    rw [hbytes] at heq
    cases heq

/-- A UUID is parsed back from its text. -/
theorem parseUUID_text (id : UUID) : parseUUID id.text = some id := by
  obtain ⟨bytes, hlength⟩ := id
  -- The sixteen bytes one by one.
  iterate 16
    rcases bytes with _ | ⟨_, bytes⟩
    · simp at hlength
  obtain rfl : bytes = [] := by simpa using hlength
  refine (?_ : parseDashed _ = _)
  unfold parseDashed
  rw [if_neg (by simp [UUID.text, hexPair])]
  apply uuidAt_eq_some
  simp [bytesAt, digitOffsets, UUID.text, hexPair, xtob_hexPair]

/-! ## Ids with a prefix -/

/-- The kinds of ids. -/
inductive IDKind
  | authorization
  | capture
  | void
  | refund
  deriving DecidableEq, Repr

/-- `PrefixAuthorization` and the others. -/
def IDKind.start : IDKind → GoString
  | authorization => ascii "auth_"
  | capture => ascii "cap_"
  | void => ascii "void_"
  | refund => ascii "ref_"

/-- `formatAuthorizationID` and the others. -/
def formatID (kind : IDKind) (id : UUID) : GoString := kind.start ++ id.text

def formatAuthorizationID : UUID → GoString := formatID .authorization

def formatCaptureID : UUID → GoString := formatID .capture

def formatVoidID : UUID → GoString := formatID .void

def formatRefundID : UUID → GoString := formatID .refund

/-- `parseIDWithPrefix`. The handlers do not look at its error. -/
def parseID (kind : IDKind) (id : GoString) : Option UUID :=
  if kind.start.isPrefixOf id then parseUUID (id.drop kind.start.length) else none

def parseAuthorizationID : GoString → Option UUID := parseID .authorization

def parseCaptureID : GoString → Option UUID := parseID .capture

theorem parseID_formatID (kind other : IDKind) (id : UUID) :
    parseID kind (formatID other id) = if kind = other then some id else none := by
  rcases eq_or_ne kind other with rfl | hne
  · rw [parseID, formatID, if_pos (by simp), if_pos rfl, List.drop_left, parseUUID_text]
  · rw [if_neg hne, parseID, if_neg]
    cases kind <;> cases other <;>
      first | exact absurd rfl hne | simp [formatID, IDKind.start, ascii]

/-- The text of a UUID ends in a digit. -/
theorem UUID.exists_suffix_text (id : UUID) : ∃ value < 16, [hexDigit value] <:+ id.text := by
  have hne : id.bytes.drop 10 ≠ [] := by
    rw [Ne, List.drop_eq_nil_iff, id.length]
    decide
  obtain ⟨front, byte, hbytes⟩ := (List.eq_nil_or_concat' (id.bytes.drop 10)).resolve_left hne
  refine ⟨byte.toNat % 16, Nat.mod_lt _ (by decide), ?_⟩
  have hpair : [hexDigit (byte.toNat % 16)] <:+ hexPair byte := List.suffix_cons _ _
  have hbyte : hexPair byte <:+ (id.bytes.drop 10).flatMap hexPair := by
    rw [hbytes, List.flatMap_append, List.flatMap_singleton]
    exact List.suffix_append _ _
  exact (hpair.trans hbyte).trans (List.suffix_append _ _)

/-- Ids have no space around them. -/
theorem normalized_formatID (kind : IDKind) (id : UUID) : Normalized (formatID kind id) := by
  obtain ⟨value, hvalue, front, htext⟩ := id.exists_suffix_text
  have hlast : ∀ value < 16, ∀ code ∈ spaceEncodings,
      code.reverse.head? ≠ some (hexDigit value) := by decide +kernel
  obtain ⟨first, rest, hstart, hfirst⟩ : ∃ first rest, kind.start = first :: rest ∧
      ∀ code ∈ spaceEncodings, code.head? ≠ some first := by
    cases kind <;> exact ⟨_, _, rfl, by decide +kernel⟩
  rw [formatID, hstart, ← htext, ← List.append_assoc, List.cons_append]
  exact normalized_of_ends _ hfirst (hlast value hvalue)

end PaymentGateway.MockBank
