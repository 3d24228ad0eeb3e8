/-
# The bodies that the bank client reads

`json.NewDecoder(response.Body).Decode(&payload)` for the five payloads of
`mockbank/client.go`. The decoder reads one value and ignores what follows it. An object
sets the fields that its keys name, without regard to case, and a field that is named
twice is set twice; other keys are ignored. A `null` leaves what it stands for as it is,
and a value of another type is an error.

Nothing looks into the errors, so their texts are abridged here.
-/

import PaymentGateway.App.Claims
import PaymentGateway.App.Instants
import PaymentGateway.Lib.JsonObject

namespace PaymentGateway

open Lib

/-! ## Strings -/

/-- The value of a hexadecimal digit. -/
def hexDigitValue (c : UInt8) : ℕ :=
  if c ≤ 0x39 then c.toNat - 0x30 else if c ≤ 0x46 then c.toNat - 0x37 else c.toNat - 0x57

/-- `getu4`, for digits that the scanner has seen. -/
def getu4 (digits : GoString) : ℕ :=
  (digits.take 4).foldl (fun value c => 16 * value + hexDigitValue c) 0

/-- `utf16.IsSurrogate`. -/
def isSurrogate (rune : ℕ) : Bool := 0xD800 ≤ rune && rune < 0xE000

/-- `utf16.DecodeRune`. -/
def decodeSurrogates (high low : ℕ) : Option ℕ :=
  if 0xD800 ≤ high ∧ high < 0xDC00 ∧ 0xDC00 ≤ low ∧ low < 0xE000 then
    some (0x10000 + (high - 0xD800) * 1024 + (low - 0xDC00))
  else none

/-- What the escapes of one letter stand for. -/
def shortEscape (c : UInt8) : UInt8 :=
  if c = 'b'.toUInt8 then 0x08
  else if c = 'f'.toUInt8 then 0x0C
  else if c = 'n'.toUInt8 then 0x0A
  else if c = 'r'.toUInt8 then 0x0D
  else if c = 't'.toUInt8 then 0x09
  else c

/-- An escape after its backslash: what it stands for, and how many bytes it takes. A surrogate
that is not half of a pair stands for `runeError`. -/
def unescape : GoString → GoString × ℕ
  | [] => ([], 0)
  | c :: rest =>
    if c ≠ 'u'.toUInt8 then ([shortEscape c], 1)
    else if ¬ isSurrogate (getu4 rest) then (encodeRune (getu4 rest), 5)
    else if (rest.drop 4).take 2 = [0x5C, 'u'.toUInt8] then
      match decodeSurrogates (getu4 rest) (getu4 (rest.drop 6)) with
      | some rune => (encodeRune rune, 11)
      | none => (encodeRune runeError, 5)
    else (encodeRune runeError, 5)

/-- What the text between the quotes of a string stands for. Bytes that are not UTF-8 stand for
`runeError`. -/
def unquoteFrom : ℕ → GoString → GoString
  | 0, _ => []
  | _ + 1, [] => []
  | fuel + 1, b :: rest =>
    if b = 0x5C then
      let (value, width) := unescape rest
      value ++ unquoteFrom fuel (rest.drop width)
    else
      let (rune, width) := decodeRune (b :: rest)
      encodeRune rune ++ unquoteFrom fuel ((b :: rest).drop width)

/-- `unquoteBytes`, for a string that the scanner has accepted. -/
def unquote (text : GoString) : GoString := unquoteFrom text.length text.tail.dropLast

example : unquote (ascii "\"A\\u00e9\\ud83d\\ude00\\n\\ud800\"") =
    [0x41, 0xC3, 0xA9, 0xF0, 0x9F, 0x98, 0x80, 0x0A, 0xEF, 0xBF, 0xBD] := by
  decide +kernel

/-! ## Values -/

/-- Set a string. -/
def unmarshalString (text old : GoString) : Option GoString :=
  if text.head? = some 0x22 then some (unquote text)
  else if text.head? = some 'n'.toUInt8 then some old
  else none

/-- `Time.UnmarshalJSON`, which reads the text between the quotes as it is. -/
def unmarshalTime (text : GoString) (old : Time) : Option Time :=
  if text = ascii "null" then some old
  else if text.head? = some 0x22 then parseRFC3339 text.tail.dropLast
  else none

/-- Set the fields of a structure, one member after the other. -/
def unmarshalObject {α : Type} (zero : α) (assign : GoString → GoString → α → Option α)
    (value : GoString) : Option α :=
  if (Json.trimSpaces value).head? = some '{'.toUInt8 then
    (Json.members value).foldlM (fun payload found => assign (unquote found.1) found.2 payload) zero
  else if (Json.trimSpaces value).head? = some 'n'.toUInt8 then some zero
  else none

/-- `Decode`. -/
def decodeJSON {α : Type} (unmarshal : GoString → Option α) (body : Json.Reader) :
    Except GoError α :=
  match (Json.Decoder.new body).readValue with
  | .error _ => .error (.text (ascii "json: no value"))
  | .ok (value, _) =>
    match unmarshal value with
    | none => .error (.text (ascii "json: cannot unmarshal"))
    | some payload => .ok payload

/-! ## Payloads -/

/-- `authorizationResponse`. -/
structure AuthorizationResponse where
  authorizationID : GoString
  expiresAt : Time
  deriving DecidableEq, Repr

/-- What a member does to an authorization response. -/
def AuthorizationResponse.assign (key text : GoString) (payload : AuthorizationResponse) :
    Option AuthorizationResponse :=
  if equalFold key (ascii "authorization_id") then
    (unmarshalString text payload.authorizationID).map fun id =>
      { payload with authorizationID := id }
  else if equalFold key (ascii "expires_at") then
    (unmarshalTime text payload.expiresAt).map fun instant => { payload with expiresAt := instant }
  else some payload

/-- What a member does to a structure with one field, a string. -/
def assignString (name key text payload : GoString) : Option GoString :=
  if equalFold key name then unmarshalString text payload else some payload

def decodeAuthorization : Json.Reader → Except GoError AuthorizationResponse :=
  decodeJSON (unmarshalObject ⟨[], 0⟩ AuthorizationResponse.assign)

/-- The decoding of a structure with one field, a string. -/
def decodeField (name : GoString) : Json.Reader → Except GoError GoString :=
  decodeJSON (unmarshalObject [] (assignString name))

/-- `captureResponse`. -/
def decodeCapture : Json.Reader → Except GoError GoString := decodeField (ascii "capture_id")

/-- `voidResponse`. -/
def decodeVoid : Json.Reader → Except GoError GoString := decodeField (ascii "void_id")

/-- `refundResponse`. -/
def decodeRefund : Json.Reader → Except GoError GoString := decodeField (ascii "refund_id")

/-- `bankErrorResponse`. -/
def decodeError : Json.Reader → Except GoError GoString := decodeField (ascii "error")

example : ["\x7b\"ERROR\" : \"first\", \"error\":\"\\u0041\", \"other\":[1]\x7d tail", " null",
      "\x7b\"error\":1\x7d", "\x7b\"error\""].map
        (fun text => (decodeError ⟨[ascii text], .eof⟩).toOption) =
    [some (ascii "A"), some [], none, none] := by
  decide +kernel

end PaymentGateway
