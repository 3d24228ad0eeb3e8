/-
# Service credentials

`serviceauth/authenticator.go`. A service presents an opaque credential, and the
gateway is configured with the digests of the credentials it accepts, each with its
scopes. The digest of a credential is its HMAC-SHA256, which is a parameter here; its
output has 32 bytes, so a configured text that decodes to another length is refused.

Configured digests are texts, and that they differ is checked on the texts. A
presented credential is compared with the decoded bytes, and the last entry that
matches decides.
-/

import PaymentGateway.Domain.Text
import PaymentGateway.Lib.Base64
import PaymentGateway.Lib.Result
import Mathlib.Data.Finset.Dedup
import Mathlib.Data.List.Perm.Basic

namespace PaymentGateway

open Lib

/-- `credentialBytes`. -/
def credentialBytes : ℕ := 32

/-- `digestBytes`. -/
def digestBytes : ℕ := 32

/-- `OrderServicePrincipal`. -/
def orderServicePrincipal : GoString := ascii "order-service"

/-- `ScopePaymentsRead`. -/
def scopePaymentsRead : GoString := ascii "payments:read"

/-- `ScopePaymentsWrite`. -/
def scopePaymentsWrite : GoString := ascii "payments:write"

/-- The output of HMAC-SHA256. -/
structure Digest where
  bytes : GoString
  length_eq : bytes.length = digestBytes
  deriving DecidableEq

/-- `Credential`, as it is configured. -/
structure Credential where
  digest : GoString
  scopes : List GoString
  deriving DecidableEq, Repr

/-- `credential`, as it is kept. The keys of the scope map are a set. -/
structure StoredCredential where
  digest : Digest
  scopes : Finset GoString
  deriving DecidableEq

/-- `Principal`. -/
structure Principal where
  id : GoString
  scopes : Finset GoString
  deriving DecidableEq

/-- `Authenticator`. -/
structure Authenticator where
  key : GoString
  credentials : List StoredCredential
  deriving DecidableEq

/-! ## Configuration -/

/-- `parseServiceCredentials`: entries `digest=scope+scope` separated by commas. -/
def parseServiceCredentials (value : GoString) : Except GoString (List Credential) := do
  rejectIf (value = []) (ascii "ORDER_SERVICE_CREDENTIALS is required")
  (value.splitOn 0x2C).mapM fun (entry : GoString) => do
    -- `strings.Cut` at the first equals sign.
    let digest : GoString := entry.takeWhile (· ≠ 0x3D)
    let scopes : GoString := (entry.dropWhile (· ≠ 0x3D)).drop 1
    rejectIf ((0x3D : UInt8) ∉ entry ∨ digest = [] ∨ scopes = [])
      (ascii "ORDER_SERVICE_CREDENTIALS must contain digest=scope+scope entries")
    pure ⟨digest, scopes.splitOn 0x2B⟩

/-- `ValidateHMACKey`. -/
def validateHMACKey (key : GoString) : Except GoString Unit :=
  rejectIf (key.length < credentialBytes)
    (ascii "service credential HMAC key must be at least 32 bytes")

/-- The digest of a configured text. -/
def decodeDigest (text : GoString) : Except GoString Digest :=
  match Base64.decode text with
  | some bytes =>
    if h : bytes.length = digestBytes then pure ⟨bytes, h⟩
    else throw
      (ascii "service credential digest must be a base64url-encoded SHA-256 HMAC")
  | none =>
    throw (ascii "service credential digest must be a base64url-encoded SHA-256 HMAC")

/-- The scope of a configured text. -/
def parseScope (scope : GoString) : Except GoString GoString := do
  rejectIf (trimSpace scope ≠ scopePaymentsRead ∧ trimSpace scope ≠ scopePaymentsWrite)
    (ascii "service credential contains an unsupported scope")
  pure (trimSpace scope)

/-- One entry of the loop of `NewAuthenticator`, after the texts seen so far. -/
def storeCredential (seen : List GoString) (configured : Credential) :
    Except GoString StoredCredential := do
  let digest ← decodeDigest configured.digest
  rejectIf (configured.digest ∈ seen) (ascii "service credential digests must be unique")
  rejectIf (configured.scopes = [])
    (ascii "service credential must grant at least one scope")
  let scopes ← configured.scopes.mapM parseScope
  pure ⟨digest, scopes.toFinset⟩

/-- The loop of `NewAuthenticator`. -/
def storeCredentials : List GoString → List Credential → Except GoString (List StoredCredential)
  | _, [] => pure []
  | seen, configured :: rest => do
    let stored ← storeCredential seen configured
    let others ← storeCredentials (configured.digest :: seen) rest
    pure (stored :: others)

/-- `NewAuthenticator`. -/
def newAuthenticator (key : GoString) (configured : List Credential) :
    Except GoString Authenticator := do
  validateHMACKey key
  rejectIf (configured = []) (ascii "at least one service credential is required")
  let credentials ← storeCredentials [] configured
  pure ⟨key, credentials⟩

/-! ## Authentication -/

/-- `Digest`: the text that an operator configures for a credential. -/
def digestText (hmac : GoString → GoString → Digest) (key rawCredential : GoString) : GoString :=
  Base64.encode (hmac key rawCredential).bytes

/-- The loop of `Authenticate`, which goes on after a match. -/
def lastMatch (digest : Digest) (credentials : List StoredCredential) : Option StoredCredential :=
  credentials.foldl (fun matched c => if digest = c.digest then some c else matched) none

/-- `Authenticate`. -/
def Authenticator.authenticate (hmac : GoString → GoString → Digest) (a : Authenticator)
    (credential : GoString) : Option Principal :=
  if credential = [] then none
  else (lastMatch (hmac a.key credential) a.credentials).map fun matched =>
    ⟨orderServicePrincipal, matched.scopes⟩

/-- `HasScope`. -/
def Principal.hasScope (p : Principal) (scope : GoString) : Bool := scope ∈ p.scopes

/-! ## What is stored -/

/-- An entry is stored for a configured one. -/
structure Stores (configured : Credential) (stored : StoredCredential) : Prop where
  digest : Base64.decode configured.digest = some stored.digest.bytes
  granted : configured.scopes ≠ []
  supported : ∀ scope ∈ configured.scopes,
    trimSpace scope = scopePaymentsRead ∨ trimSpace scope = scopePaymentsWrite
  scopes : stored.scopes = (configured.scopes.map trimSpace).toFinset

theorem Digest.bytes_injective : Function.Injective Digest.bytes := by
  intro first second h
  cases first
  cases second
  cases h
  rfl

theorem decodeDigest_eq_ok {text : GoString} {digest : Digest} :
    decodeDigest text = .ok digest ↔ Base64.decode text = some digest.bytes := by
  unfold decodeDigest
  cases Base64.decode text with
  | none => simp
  | some bytes =>
    dsimp only
    split_ifs with hlength
    · rw [pure_eq_ok_iff, Option.some_inj]
      exact ⟨fun h => h ▸ rfl, fun h => Digest.bytes_injective h⟩
    · refine iff_of_false not_false ?_
      rw [Option.some_inj]
      rintro rfl
      exact hlength digest.length_eq

theorem parseScope_eq_ok {scope trimmed : GoString} :
    parseScope scope = .ok trimmed ↔
      (trimSpace scope = scopePaymentsRead ∨ trimSpace scope = scopePaymentsWrite) ∧
        trimSpace scope = trimmed := by
  rw [parseScope, check_bind_eq_ok, rejectIf_eq_ok, pure_eq_ok_iff, ne_eq, ne_eq, ← not_or,
    not_not]

theorem mapM_parseScope_eq_ok {scopes trimmed : List GoString} :
    scopes.mapM parseScope = .ok trimmed ↔
      (∀ scope ∈ scopes,
        trimSpace scope = scopePaymentsRead ∨ trimSpace scope = scopePaymentsWrite) ∧
        scopes.map trimSpace = trimmed := by
  induction scopes generalizing trimmed with
  | nil => simp
  | cons scope scopes ih =>
    rw [List.mapM_cons, List.forall_mem_cons, List.map_cons]
    simp only [bind_eq_ok, parseScope_eq_ok, ih, pure_eq_ok_iff]
    constructor
    · rintro ⟨_, ⟨hscope, rfl⟩, _, ⟨hscopes, rfl⟩, rfl⟩
      exact ⟨⟨hscope, hscopes⟩, rfl⟩
    · rintro ⟨⟨hscope, hscopes⟩, rfl⟩
      exact ⟨_, ⟨hscope, rfl⟩, _, ⟨hscopes, rfl⟩, rfl⟩

theorem storeCredential_eq_ok {seen : List GoString} {configured : Credential}
    {stored : StoredCredential} :
    storeCredential seen configured = .ok stored ↔
      Stores configured stored ∧ configured.digest ∉ seen := by
  unfold storeCredential
  simp only [bind_eq_ok, decodeDigest_eq_ok, rejectIf_eq_ok, mapM_parseScope_eq_ok,
    pure_eq_ok_iff]
  constructor
  · rintro ⟨digest, hdigest, ⟨⟩, hseen, ⟨⟩, hgranted, _, ⟨hsupported, rfl⟩, rfl⟩
    exact ⟨⟨hdigest, hgranted, hsupported, rfl⟩, hseen⟩
  · rintro ⟨⟨hdigest, hgranted, hsupported, hscopes⟩, hseen⟩
    exact ⟨stored.digest, hdigest, (), hseen, (), hgranted, _, ⟨hsupported, rfl⟩,
      by rw [← hscopes]⟩

/-- The loop stores an entry for every configured one, as long as no text occurs twice. -/
theorem storeCredentials_eq_ok {seen : List GoString} {configured : List Credential}
    {stored : List StoredCredential} :
    storeCredentials seen configured = .ok stored ↔
      List.Forall₂ Stores configured stored ∧ (configured.map Credential.digest).Nodup ∧
        ∀ c ∈ configured, c.digest ∉ seen := by
  induction configured generalizing seen stored with
  | nil =>
    simp only [storeCredentials, pure_eq_ok_iff, List.forall₂_nil_left_iff]
    constructor
    · rintro rfl
      exact ⟨rfl, List.nodup_nil, by simp⟩
    · exact fun h => h.1.symm
  | cons c configured ih =>
    rw [List.forall_mem_cons]
    simp only [storeCredentials, bind_eq_ok, storeCredential_eq_ok, ih, pure_eq_ok_iff,
      List.forall₂_cons_left_iff, List.map_cons, List.nodup_cons, List.mem_map, List.mem_cons,
      not_or]
    constructor
    · rintro ⟨first, ⟨hfirst, hseen⟩, others, ⟨hothers, hnodup, hfresh⟩, rfl⟩
      have hnew : ¬ ∃ c' ∈ configured, c'.digest = c.digest := by
        rintro ⟨c', hc', heq⟩
        exact (hfresh c' hc').1 heq
      exact ⟨⟨first, others, hfirst, hothers, rfl⟩, ⟨hnew, hnodup⟩, hseen,
        fun c' hc' => (hfresh c' hc').2⟩
    · rintro ⟨⟨first, others, hfirst, hothers, rfl⟩, ⟨hnew, hnodup⟩, hseen, hfresh⟩
      exact ⟨first, ⟨hfirst, hseen⟩, others,
        ⟨hothers, hnodup, fun c' hc' => ⟨fun heq => hnew ⟨c', hc', heq⟩, hfresh c' hc'⟩⟩, rfl⟩

theorem newAuthenticator_eq_ok {key : GoString} {configured : List Credential}
    {a : Authenticator} :
    newAuthenticator key configured = .ok a ↔
      credentialBytes ≤ key.length ∧ configured ≠ [] ∧
        List.Forall₂ Stores configured a.credentials ∧
        (configured.map Credential.digest).Nodup ∧ key = a.key := by
  rw [newAuthenticator, validateHMACKey, check_bind_eq_ok, check_bind_eq_ok, rejectIf_eq_ok,
    rejectIf_eq_ok, not_lt, bind_eq_ok]
  simp only [storeCredentials_eq_ok, List.not_mem_nil, not_false_eq_true, implies_true,
    and_true, pure_eq_ok_iff]
  constructor
  · rintro ⟨hkey, hnonempty, credentials, ⟨hstores, hnodup⟩, rfl⟩
    exact ⟨hkey, hnonempty, hstores, hnodup, rfl⟩
  · rintro ⟨hkey, hnonempty, hstores, hnodup, rfl⟩
    exact ⟨hkey, hnonempty, _, ⟨hstores, hnodup⟩, rfl⟩

/-! ## What is matched -/

theorem lastMatch_eq_find? (digest : Digest) (credentials : List StoredCredential) :
    lastMatch digest credentials = credentials.reverse.find? (digest = ·.digest) := by
  unfold lastMatch
  induction credentials using List.reverseRecOn with
  | nil => rfl
  | append_singleton credentials c ih =>
    rw [List.foldl_append, List.reverse_append, List.reverse_singleton, List.singleton_append,
      List.find?_cons, ih]
    by_cases hmatch : digest = c.digest
    · simp [hmatch]
    · simp [hmatch]

/-- A match is an entry with the digest. -/
theorem mem_of_lastMatch {digest : Digest} {credentials : List StoredCredential}
    {c : StoredCredential} (h : lastMatch digest credentials = some c) :
    c ∈ credentials ∧ c.digest = digest := by
  rw [lastMatch_eq_find?] at h
  have hdigest := List.find?_some h
  exact ⟨List.mem_reverse.mp (List.mem_of_find?_eq_some h), (of_decide_eq_true hdigest).symm⟩

/-- An entry with the digest is matched, or another one is. -/
theorem exists_lastMatch {digest : Digest} {credentials : List StoredCredential}
    {c : StoredCredential} (mem : c ∈ credentials) (h : c.digest = digest) :
    ∃ c', lastMatch digest credentials = some c' := by
  rw [lastMatch_eq_find?]
  refine Option.isSome_iff_exists.mp (List.find?_isSome.mpr ⟨c, List.mem_reverse.mpr mem, ?_⟩)
  exact decide_eq_true h.symm

end PaymentGateway
