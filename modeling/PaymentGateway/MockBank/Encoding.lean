/-
# The bodies that the bank writes

`json.NewEncoder(w).Encode(response)` in the generated server of `mock-bank/bank`: the
fields of a response in the order of their declaration, and a newline. Instants are
written in UTC here; the zone of the bank's process makes no difference to what they
stand for.

The year of an instant must have four digits. Otherwise nothing is encoded, and the text
of the error follows the status line in place of a body.

What the bank client reads from such a body is what the bank has put into it: the ids of
the bank, its codes and its instants.
-/

import PaymentGateway.Bank.Client
import PaymentGateway.MockBank.Handlers

namespace PaymentGateway.MockBank

open Lib Lib.Json

/-! ## Strings -/

/-- An escape by number. -/
def escapeRune (high low : ℕ) : GoString :=
  [0x5C, 'u'.toUInt8, hexDigit (high / 16), hexDigit (high % 16), hexDigit (low / 16),
    hexDigit (low % 16)]

/-- An ASCII character in a string. -/
def escapeByte (b : UInt8) : GoString :=
  if b = 0x22 ∨ b = 0x5C then [0x5C, b]
  else if b = 0x08 then [0x5C, 'b'.toUInt8]
  else if b = 0x0C then [0x5C, 'f'.toUInt8]
  else if b = 0x0A then [0x5C, 'n'.toUInt8]
  else if b = 0x0D then [0x5C, 'r'.toUInt8]
  else if b = 0x09 then [0x5C, 't'.toUInt8]
  else if b < 0x20 ∨ b = '<'.toUInt8 ∨ b = '>'.toUInt8 ∨ b = '&'.toUInt8 then
    escapeRune 0 b.toNat
  else [b]

/-- What is written for the first rune of a string. Bytes that are not UTF-8 become `runeError`,
and two separators are escaped. -/
def escapeFirst (value : GoString) : GoString :=
  let (rune, width) := decodeRune value
  if rune = runeError ∧ width = 1 then escapeRune 0xFF 0xFD
  else if rune = 0x2028 ∨ rune = 0x2029 then escapeRune 0x20 (rune % 256)
  else value.take width

/-- `appendString`, between the quotes. -/
def escapeFrom : ℕ → GoString → GoString
  | 0, _ => []
  | _ + 1, [] => []
  | fuel + 1, b :: rest =>
    if b < 0x80 then escapeByte b ++ escapeFrom fuel rest
    else escapeFirst (b :: rest) ++ escapeFrom fuel ((b :: rest).drop (decodeRune (b :: rest)).2)

/-- A string. -/
def quote (value : GoString) : GoString := stringText (escapeFrom value.length value)

example : quote (ascii "a\"<" ++ [0xE2, 0x80, 0xA8, 0xC3, 0xA9, 0xC3]) =
    ascii "\"a\\\"\\u003c\\u2028" ++ [0xC3, 0xA9] ++ ascii "\\ufffd\"" := by
  decide +kernel

/-! ## Bodies -/

/-- The values of fields. -/
inductive FieldValue
  | string (value : GoString)
  | int64 (value : ℤ)
  | time (value : Time)
  deriving DecidableEq, Repr

def FieldValue.text : FieldValue → GoString
  | string value => quote value
  | int64 value => formatInt value
  | time value => stringText (formatRFC3339Nano value)

/-- Whether `MarshalJSON` succeeds. -/
def FieldValue.encodable : FieldValue → Bool
  | time value => yearOf value ≤ 9999
  | _ => true

/-- The first field of a body, and the others. -/
def ResponseBody.fields :
    ResponseBody → (GoString × FieldValue) × List (GoString × FieldValue)
  | authorization authorizationID status amount currency expiresAt createdAt =>
    ((ascii "amount", .int64 amount),
      [(ascii "authorization_id", .string authorizationID), (ascii "created_at", .time createdAt),
        (ascii "currency", .string currency), (ascii "expires_at", .time expiresAt),
        (ascii "status", .string status)])
  | capture captureID authorizationID status amount currency capturedAt =>
    ((ascii "amount", .int64 amount),
      [(ascii "authorization_id", .string authorizationID), (ascii "capture_id", .string captureID),
        (ascii "captured_at", .time capturedAt), (ascii "currency", .string currency),
        (ascii "status", .string status)])
  | void voidID authorizationID status voidedAt =>
    ((ascii "authorization_id", .string authorizationID),
      [(ascii "status", .string status), (ascii "void_id", .string voidID),
        (ascii "voided_at", .time voidedAt)])
  | refund refundID captureID status amount currency refundedAt =>
    ((ascii "amount", .int64 amount),
      [(ascii "capture_id", .string captureID), (ascii "currency", .string currency),
        (ascii "refund_id", .string refundID), (ascii "refunded_at", .time refundedAt),
        (ascii "status", .string status)])
  | error code message => ((ascii "error", .string code), [(ascii "message", .string message)])

/-- A field in the text of an object. -/
def member (field : GoString × FieldValue) : GoString × GoString := (quote field.1, field.2.text)

def ResponseBody.encodable (body : ResponseBody) : Bool :=
  (body.fields.1 :: body.fields.2).all (·.2.encodable)

/-- What is written in place of a body that cannot be encoded. -/
def encodingFailure : GoString :=
  ascii "json: error calling MarshalJSON for type time.Time: Time.MarshalJSON: " ++
    ascii "year outside of range [0,9999]\n"

/-- What is written as the body of a response. -/
def ResponseBody.written (body : ResponseBody) : GoString :=
  if body.encodable then
    objectText (member body.fields.1) (body.fields.2.map member) ++ [newline]
  else encodingFailure

example : ResponseBody.written (.void (ascii "void-1") (ascii "auth-1") (ascii "voided") 0) =
    ascii ("\x7b\"authorization_id\":\"auth-1\",\"status\":\"voided\",\"void_id\":\"void-1\"," ++
      "\"voided_at\":\"0001-01-01T00:00:00Z\"\x7d\n") := by
  decide +kernel

/-! ## The scanner accepts the bodies -/

theorem content_escapeRune {high low : ℕ} (hhigh : high < 256) (hlow : low < 256) :
    Content (escapeRune high low) := by
  have hdigit : ∀ value < 16, Json.isHexDigit (hexDigit value) = true := by decide +kernel
  refine content_hex rfl fun c hc => ?_
  simp only [List.mem_cons, List.not_mem_nil, or_false] at hc
  rcases hc with rfl | rfl | rfl | rfl <;> exact hdigit _ (by omega)

theorem content_escapeByte (b : UInt8) : Content (escapeByte b) := by
  unfold escapeByte
  split_ifs with hquote hb hf hn hr ht hother
  · exact content_escape (by rcases hquote with rfl | rfl <;> decide)
  · exact content_escape (by decide)
  · exact content_escape (by decide)
  · exact content_escape (by decide)
  · exact content_escape (by decide)
  · exact content_escape (by decide)
  · exact content_escapeRune (by decide) b.toNat_lt
  · rw [not_or] at hquote hother
    exact content_byte hquote.1 hquote.2 hother.1

theorem content_escapeFirst {b : UInt8} {rest : GoString} (h : ¬ b < 0x80) :
    Content (escapeFirst (b :: rest)) := by
  unfold escapeFirst
  dsimp only
  split_ifs
  · exact content_escapeRune (by decide) (by decide)
  · exact content_escapeRune (by decide) (Nat.mod_lt _ (by decide))
  · refine content_of_forall fun c hc => ?_
    have hlarge := not_lt_of_mem_take_decodeRune h hc
    refine ⟨?_, ?_, fun hsmall => hlarge (UInt8.lt_trans hsmall (by decide))⟩
    · rintro rfl
      exact hlarge (by decide)
    · rintro rfl
      exact hlarge (by decide)

theorem content_escapeFrom (fuel : ℕ) (value : GoString) : Content (escapeFrom fuel value) := by
  induction fuel generalizing value with
  | zero => exact content_nil
  | succ fuel ih =>
    cases value with
    | nil => exact content_nil
    | cons b rest =>
      rw [escapeFrom]
      split_ifs with h
      · exact (content_escapeByte b).append (ih rest)
      · exact (content_escapeFirst h).append (ih _)

theorem isNat_formatNat (n : ℕ) : IsNat (formatNat n) := by
  have hdigits : ∀ b ∈ formatNat n, isDigit b = true :=
    fun b hb => isDigit_iff.mpr (formatNat_digits hb)
  by_cases hn : n = 0
  · subst hn
    exact .inl rfl
  · -- The first digit is the last one that division by ten gives.
    rcases List.eq_nil_or_concat (Nat.digits 10 n) with hnil | ⟨lower, first, hdecimal⟩
    · exact absurd (Nat.digits_eq_nil_iff_eq_zero.mp hnil) hn
    · have hfirst : first ≠ 0 := by
        have hlast := Nat.getLast_digit_ne_zero 10 hn
        simpa only [hdecimal, List.concat_eq_append, List.getLast_append_singleton] using hlast
      have hmem : first ∈ Nat.digits 10 n := by simp [hdecimal]
      have hlt : first < 10 := Nat.digits_lt_base (by decide) hmem
      have hformat : formatNat n = UInt8.ofNat (0x30 + first) ::
          lower.reverse.map fun d => UInt8.ofNat (0x30 + d) := by
        simp [formatNat, hn, hdecimal]
      refine .inr ⟨_, _, hformat, ?_, hdigits⟩
      have hall : ∀ d < 10, d ≠ 0 → UInt8.ofNat (0x30 + d) ≠ '0'.toUInt8 := by decide
      exact hall first hlt hfirst

theorem valueText_text (value : FieldValue) : ValueText value.text := by
  cases value with
  | string value => exact (content_escapeFrom _ _).valueText
  | int64 value =>
    rw [FieldValue.text, formatInt]
    split_ifs
    · exact (isNat_formatNat _).valueText_neg
    · exact (isNat_formatNat _).valueText
  | time value =>
    refine (content_of_forall fun c hc => ?_).valueText
    have hsafe : ((List.range 10).map (fun d => UInt8.ofNat (0x30 + d)) ++ ascii "-T:.Z").all
        (fun d => d ≠ 0x22 ∧ d ≠ 0x5C ∧ ¬ d < 0x20) = true := by decide
    have hmem := List.mem_append.mpr ((mem_formatRFC3339Nano hc).imp_left mem_digits)
    exact of_decide_eq_true (List.all_eq_true.mp hsafe c hmem)

theorem memberText_member (field : GoString × FieldValue) : MemberText (member field) :=
  ⟨⟨_, rfl, content_escapeFrom _ _⟩, valueText_text field.2⟩

/-! ## Plain strings -/

/-- A string that is written as it is. -/
def Plain (value : GoString) : Prop := ∀ b ∈ value, b < 0x80 ∧ escapeByte b = [b]

instance (value : GoString) : Decidable (Plain value) :=
  List.decidableBAll (fun b => b < 0x80 ∧ escapeByte b = [b]) value

theorem escapeFrom_of_plain {fuel : ℕ} {value : GoString} (h : Plain value)
    (hfuel : value.length ≤ fuel) : escapeFrom fuel value = value := by
  induction fuel generalizing value with
  | zero =>
    obtain rfl : value = [] := List.length_eq_zero_iff.mp (Nat.le_zero.mp hfuel)
    rfl
  | succ fuel ih =>
    cases value with
    | nil => rfl
    | cons b rest =>
      obtain ⟨hascii, hsafe⟩ := h b List.mem_cons_self
      rw [escapeFrom, if_pos hascii, hsafe, ih (fun c hc => h c (List.mem_cons_of_mem b hc))
        (Nat.le_of_succ_le_succ hfuel)]
      rfl

theorem unquoteFrom_of_plain {fuel : ℕ} {value : GoString} (h : Plain value)
    (hfuel : value.length ≤ fuel) : unquoteFrom fuel value = value := by
  induction fuel generalizing value with
  | zero =>
    obtain rfl : value = [] := List.length_eq_zero_iff.mp (Nat.le_zero.mp hfuel)
    rfl
  | succ fuel ih =>
    cases value with
    | nil => rfl
    | cons b rest =>
      obtain ⟨hascii, hsafe⟩ := h b List.mem_cons_self
      have hbackslash : b ≠ 0x5C := by
        rintro rfl
        cases hsafe
      rw [unquoteFrom, if_neg hbackslash, decodeRune_of_lt rest hascii]
      dsimp only
      rw [encodeRune_of_lt hascii, List.drop_one, List.tail_cons,
        ih (fun c hc => h c (List.mem_cons_of_mem b hc)) (Nat.le_of_succ_le_succ hfuel)]
      rfl

/-- A plain string is read back. -/
theorem unquote_quote {value : GoString} (h : Plain value) : unquote (quote value) = value := by
  rw [quote, escapeFrom_of_plain h le_rfl, unquote, stringText, List.tail_cons,
    List.dropLast_concat]
  refine unquoteFrom_of_plain h ?_
  simp only [List.length_cons, List.length_append, List.length_nil]
  omega

theorem plain_formatID (kind : IDKind) (id : UUID) : Plain (formatID kind id) := by
  have hstart : Plain kind.start := by cases kind <;> decide +kernel
  have hdigit : ∀ value < 16, hexDigit value < 0x80 ∧
      escapeByte (hexDigit value) = [hexDigit value] := by decide +kernel
  intro b hb
  rcases List.mem_append.mp hb with hb | hb
  · exact hstart b hb
  · rcases UUID.mem_text hb with rfl | ⟨value, hvalue, rfl⟩
    · decide +kernel
    · exact hdigit value hvalue

theorem plain_text (code : ErrorCode) : Plain code.text := by
  cases code <;> decide +kernel

/-! ## Reading the bodies -/

theorem unmarshalString_quote {value : GoString} (h : Plain value) (old : GoString) :
    unmarshalString (quote value) old = some value := by
  rw [unmarshalString, if_pos (show (quote value).head? = some 0x22 from rfl), unquote_quote h]

theorem unmarshalTime_text {instant : Time} (h : yearOf instant ≤ 9999) (old : Time) :
    unmarshalTime (FieldValue.time instant).text old = some instant := by
  have hquote : (stringText (formatRFC3339Nano instant)).head? = some 0x22 := rfl
  rw [FieldValue.text, unmarshalTime, if_neg (by simp [stringText, ascii]), if_pos hquote,
    stringText, List.tail_cons, List.dropLast_concat, parseRFC3339_format h]

variable {body : ResponseBody} {r : Json.Reader} {α : Type}

/-- The fields of a body as they are written. -/
def ResponseBody.texts (body : ResponseBody) : List (GoString × GoString) :=
  (body.fields.1 :: body.fields.2).map fun field => (field.1, field.2.text)

theorem plain_of_mem_fields {field : GoString × FieldValue}
    (h : field ∈ body.fields.1 :: body.fields.2) : Plain field.1 := by
  have hkeys : ((body.fields.1 :: body.fields.2).map Prod.fst).all (fun key => Plain key) = true :=
    by cases body <;> rfl
  exact of_decide_eq_true (List.all_eq_true.mp hkeys field.1 (List.mem_map_of_mem h))

theorem readValue_of_decodeJSON {unmarshal : GoString → Option α} {payload : α}
    (decoded : decodeJSON unmarshal r = .ok payload) :
    ∃ value next, (Decoder.new r).readValue = .ok (value, next) ∧
      unmarshal value = some payload := by
  rw [decodeJSON] at decoded
  split at decoded
  · cases decoded
  · next value next hread =>
    refine ⟨value, next, hread, ?_⟩
    split at decoded
    · cases decoded
    · next found hfound => rw [hfound, Except.ok.inj decoded]

/-- The text of an error is no body, nor is a part of it. -/
theorem encodable_of_decodeJSON {unmarshal : GoString → Option α} {payload : α}
    (h : r.bytes <+: body.written) (decoded : decodeJSON unmarshal r = .ok payload) :
    body.encodable = true := by
  by_contra hnot
  rw [ResponseBody.written, if_neg hnot] at h
  obtain ⟨value, next, hread, -⟩ := readValue_of_decodeJSON decoded
  have hall := (Decoder.new r).readValue_eq
  have hbytes : (Decoder.new r).bytes = r.bytes := rfl
  rw [hread, hbytes] at hall
  cases hr : r.bytes with
  | nil =>
    rw [hr] at hall
    cases hfate : (Decoder.new r).fate <;> rw [hfate] at hall <;> cases hall
  | cons c part =>
    rw [hr] at h hall
    obtain ⟨missing, hwhole⟩ := h
    obtain ⟨rfl, -⟩ := List.cons.inj hwhole
    cases hall

/-- What is read of a body, the whole of it or a part, are its fields. -/
theorem fold_of_decodeJSON {zero payload : α} {assign : GoString → GoString → α → Option α}
    (h : r.bytes <+: body.written)
    (decoded : decodeJSON (unmarshalObject zero assign) r = .ok payload) :
    body.texts.foldlM (fun payload found => assign found.1 found.2 payload) zero =
      some payload := by
  have hencodable := encodable_of_decodeJSON h decoded
  have hfirst := memberText_member body.fields.1
  have hlater : ∀ found ∈ body.fields.2.map member, MemberText found := by
    intro found hfound
    obtain ⟨field, -, rfl⟩ := List.mem_map.mp hfound
    exact memberText_member field
  have htexts : (member body.fields.1 :: body.fields.2.map member).map
      (fun found => (unquote found.1, found.2)) = body.texts := by
    rw [← List.map_cons, List.map_map]
    refine List.map_congr_left fun field hfield => ?_
    simp [member, unquote_quote (plain_of_mem_fields hfield)]
  have hbrace : (objectText (member body.fields.1) (body.fields.2.map member)).head? =
    some '{'.toUInt8 := rfl
  rw [ResponseBody.written, if_pos hencodable] at h
  obtain ⟨value, next, hread, hpayload⟩ := readValue_of_decodeJSON decoded
  rw [eq_objectText_of_readValue hfirst hlater h hread, unmarshalObject, trimSpaces_objectText,
    if_pos hbrace, members_objectText hfirst hlater] at hpayload
  rw [← htexts, List.foldlM_map]
  exact hpayload

variable {id other status currency : GoString} {amount : ℤ} {expiresAt instant : Time}

/-- What the bank client reads of an authorization. -/
theorem decodeAuthorization_written {payload : AuthorizationResponse} (plain : Plain id)
    (h : r.bytes <+:
      (ResponseBody.authorization id status amount currency expiresAt instant).written)
    (decoded : decodeAuthorization r = .ok payload) : payload = ⟨id, expiresAt⟩ := by
  have hyear : yearOf expiresAt ≤ 9999 := by
    have hall := List.all_eq_true.mp (encodable_of_decodeJSON h decoded)
    exact of_decide_eq_true (hall (ascii "expires_at", .time expiresAt)
      (by simp [ResponseBody.fields]))
  have hskip : ∀ key, equalFold key (ascii "authorization_id") = false →
      equalFold key (ascii "expires_at") = false →
      ∀ text payload, AuthorizationResponse.assign key text payload = some payload := by
    intro key hid hexpires text payload
    simp [AuthorizationResponse.assign, hid, hexpires]
  have hid : ∀ payload, AuthorizationResponse.assign (ascii "authorization_id")
      (FieldValue.string id).text payload = some { payload with authorizationID := id } := by
    intro payload
    rw [AuthorizationResponse.assign, if_pos (by decide +kernel), FieldValue.text,
      unmarshalString_quote plain]
    rfl
  have hexpires : ∀ payload, AuthorizationResponse.assign (ascii "expires_at")
      (FieldValue.time expiresAt).text payload = some { payload with expiresAt := expiresAt } := by
    intro payload
    rw [AuthorizationResponse.assign, if_neg (by decide +kernel), if_pos (by decide +kernel),
      unmarshalTime_text hyear]
    rfl
  have hfold := fold_of_decodeJSON h decoded
  simp only [ResponseBody.texts, ResponseBody.fields, List.map_cons, List.map_nil,
    List.foldlM_cons, List.foldlM_nil, Option.bind_eq_bind, Option.bind_some, Option.pure_def,
    hskip (ascii "amount") (by decide +kernel) (by decide +kernel), hid,
    hskip (ascii "created_at") (by decide +kernel) (by decide +kernel),
    hskip (ascii "currency") (by decide +kernel) (by decide +kernel), hexpires,
    hskip (ascii "status") (by decide +kernel) (by decide +kernel)] at hfold
  exact (Option.some.inj hfold).symm

/-- What the bank client reads of a body with one field that it knows. -/
theorem decodeField_written {name value : GoString} (plain : Plain id)
    (single : body.texts.foldlM
      (fun payload found => assignString name found.1 found.2 payload) [] =
        (unmarshalString (quote id) []).bind some)
    (h : r.bytes <+: body.written) (decoded : decodeField name r = .ok value) : value = id := by
  rw [fold_of_decodeJSON h decoded, unmarshalString_quote plain] at single
  exact Option.some.inj single

theorem decodeCapture_written {value : GoString} (plain : Plain id)
    (h : r.bytes <+: (ResponseBody.capture id other status amount currency instant).written)
    (decoded : decodeCapture r = .ok value) : value = id :=
  decodeField_written plain rfl h decoded

theorem decodeVoid_written {value : GoString} (plain : Plain id)
    (h : r.bytes <+: (ResponseBody.void id other status instant).written)
    (decoded : decodeVoid r = .ok value) : value = id :=
  decodeField_written plain rfl h decoded

theorem decodeRefund_written {value : GoString} (plain : Plain id)
    (h : r.bytes <+: (ResponseBody.refund id other status amount currency instant).written)
    (decoded : decodeRefund r = .ok value) : value = id :=
  decodeField_written plain rfl h decoded

/-- The codes of the bank are read as they are. -/
theorem decodeError_written {message value : GoString} (code : ErrorCode)
    (h : r.bytes <+: (ResponseBody.error code.text message).written)
    (decoded : decodeError r = .ok value) : value = code.text :=
  decodeField_written (plain_text code) rfl h decoded

end PaymentGateway.MockBank
