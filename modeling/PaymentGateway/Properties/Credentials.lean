/-
# Configured credentials

An accepted configuration is unambiguous when the entry that decides about a credential
does not depend on the order of the entries. `NewAuthenticator` compares the digests as
texts, and a digest has several texts: the decoder skips line breaks and ignores the
bits of the last character that no byte needs. An accepted configuration is unambiguous
exactly when its texts still differ after the line breaks are dropped and those bits are
cleared.
-/

import PaymentGateway.Auth.Authenticator
import Mathlib.Data.Finset.Insert
import Mathlib.Data.List.Nodup

namespace PaymentGateway

open Lib

/-- The digests of the stored entries. -/
def Authenticator.digests (a : Authenticator) : List Digest :=
  a.credentials.map StoredCredential.digest

/-- What an operator expects of the authenticator of a list of entries. -/
structure Authenticator.Unambiguous (hmac : GoString → GoString → Digest) (key : GoString)
    (configured : List Credential) (a : Authenticator) : Prop where
  distinct : a.digests.Nodup
  atMostOne : ∀ credential,
    a.credentials.countP (fun c => c.digest = hmac key credential) ≤ 1
  orderFree : ∀ permuted : List Credential, permuted.Perm configured →
    ∃ b, newAuthenticator key permuted = .ok b ∧
      ∀ credential, b.authenticate hmac credential = a.authenticate hmac credential
  granted : ∀ credential scope,
    (∃ p, a.authenticate hmac credential = some p ∧ p.hasScope scope) ↔
      credential ≠ [] ∧ ∃ c ∈ configured,
        Base64.decode c.digest = some (hmac key credential).bytes ∧
          scope ∈ c.scopes.map trimSpace

/-! ## Digests as texts and as bytes -/

/-- The normal texts of the entries are those of the stored digests. -/
theorem map_normalText_of_stores {configured : List Credential} {stored : List StoredCredential}
    (h : List.Forall₂ Stores configured stored) :
    configured.map (fun c => Base64.normalText c.digest) =
      (stored.map StoredCredential.digest).map fun d => Base64.encode d.bytes := by
  induction h with
  | nil => rfl
  | cons hstores _ ih =>
    rw [List.map_cons, ih, List.map_cons, List.map_cons,
      Base64.normalText_eq_encode hstores.digest]

theorem nodup_digests_iff {configured : List Credential} {stored : List StoredCredential}
    (h : List.Forall₂ Stores configured stored) :
    (stored.map StoredCredential.digest).Nodup ↔
      (configured.map fun c => Base64.normalText c.digest).Nodup := by
  rw [map_normalText_of_stores h]
  exact (List.nodup_map_iff (Base64.encode_injective.comp Digest.bytes_injective)).symm

theorem Stores.grants_iff {configured : Credential} {stored : StoredCredential}
    (h : Stores configured stored) {digest : Digest} {scope : GoString} :
    stored.digest = digest ∧ scope ∈ stored.scopes ↔
      Base64.decode configured.digest = some digest.bytes ∧
        scope ∈ configured.scopes.map trimSpace := by
  rw [h.digest, h.scopes, List.mem_toFinset, Option.some_inj, Digest.bytes_injective.eq_iff]

/-- A stored entry grants a scope to a digest exactly when a configured one lists it. -/
theorem exists_grants_iff {configured : List Credential} {stored : List StoredCredential}
    (h : List.Forall₂ Stores configured stored) {digest : Digest} {scope : GoString} :
    (∃ c ∈ stored, c.digest = digest ∧ scope ∈ c.scopes) ↔
      ∃ c ∈ configured, Base64.decode c.digest = some digest.bytes ∧
        scope ∈ c.scopes.map trimSpace := by
  induction h with
  | nil => simp
  | cons hstores _ ih =>
    rw [List.exists_mem_cons_iff, List.exists_mem_cons_iff, hstores.grants_iff, ih]

/-! ## Matches among distinct digests -/

section Distinct

variable {credentials : List StoredCredential}
  (distinct : (credentials.map StoredCredential.digest).Nodup)

include distinct

/-- With distinct digests an entry is matched exactly by its digest. -/
theorem lastMatch_eq_some_iff {digest : Digest} {c : StoredCredential} :
    lastMatch digest credentials = some c ↔ c ∈ credentials ∧ c.digest = digest := by
  refine ⟨mem_of_lastMatch, ?_⟩
  rintro ⟨mem, hdigest⟩
  obtain ⟨c', hmatch⟩ := exists_lastMatch mem hdigest
  obtain ⟨mem', hdigest'⟩ := mem_of_lastMatch hmatch
  rw [hmatch, List.inj_on_of_nodup_map distinct mem' mem (hdigest'.trans hdigest.symm)]

theorem lastMatch_eq_of_perm {permuted : List StoredCredential}
    (hperm : permuted.Perm credentials) (digest : Digest) :
    lastMatch digest permuted = lastMatch digest credentials := by
  have hdistinct : (permuted.map StoredCredential.digest).Nodup :=
    (hperm.map _).nodup_iff.mpr distinct
  ext c
  rw [lastMatch_eq_some_iff hdistinct, lastMatch_eq_some_iff distinct, hperm.mem_iff]

theorem countP_digest_le_one (digest : Digest) :
    credentials.countP (fun c => c.digest = digest) ≤ 1 := by
  have hcount := List.nodup_iff_count_le_one.mp distinct digest
  rw [List.count, List.countP_map] at hcount
  convert hcount using 3 with c
  exact (beq_eq_decide _ _).symm

end Distinct

/-! ## Permutations -/

/-- A permutation of an accepted list is accepted, and stores the same entries. -/
theorem exists_newAuthenticator_of_perm {key : GoString} {configured permuted : List Credential}
    {a : Authenticator} (accepted : newAuthenticator key configured = .ok a)
    (hperm : permuted.Perm configured) :
    ∃ b, newAuthenticator key permuted = .ok b ∧ b.key = a.key ∧
      b.credentials.Perm a.credentials := by
  obtain ⟨hkey, hnonempty, hstores, htexts, hsame⟩ := newAuthenticator_eq_ok.mp accepted
  obtain ⟨stored, hstored, hperm'⟩ := List.perm_comp_forall₂ hperm hstores
  refine ⟨⟨key, stored⟩, newAuthenticator_eq_ok.mpr ⟨hkey, ?_, hstored, ?_, rfl⟩, hsame, hperm'⟩
  · rintro rfl
    exact hnonempty hperm.nil_eq.symm
  · exact (hperm.map _).nodup_iff.mpr htexts

/-- An accepted configuration is unambiguous exactly when the texts of its digests differ in more
than line breaks and the unused bits of the last character. -/
theorem unambiguous_iff (hmac : GoString → GoString → Digest) {key : GoString}
    {configured : List Credential} {a : Authenticator}
    (accepted : newAuthenticator key configured = .ok a) :
    a.Unambiguous hmac key configured ↔
      (configured.map fun c => Base64.normalText c.digest).Nodup := by
  obtain ⟨-, -, hstores, -, hkey⟩ := newAuthenticator_eq_ok.mp accepted
  rw [← nodup_digests_iff hstores]
  refine ⟨fun h => h.distinct, fun distinct => ⟨distinct, ?_, ?_, ?_⟩⟩
  · exact fun credential => countP_digest_le_one distinct _
  · intro permuted hperm
    obtain ⟨b, hb, hsame, hcredentials⟩ := exists_newAuthenticator_of_perm accepted hperm
    refine ⟨b, hb, fun credential => ?_⟩
    rw [Authenticator.authenticate, hsame, lastMatch_eq_of_perm distinct hcredentials]
    rfl
  · intro credential scope
    rw [← exists_grants_iff hstores, hkey]
    by_cases hempty : credential = []
    · simp [Authenticator.authenticate, hempty]
    · simp [Authenticator.authenticate, hempty, lastMatch_eq_some_iff distinct,
        Principal.hasScope, and_assoc]

namespace Sample

/-- A digest of equal bytes. -/
def digest (b : UInt8) : Digest := ⟨List.replicate 32 b, List.length_replicate⟩

def hmacKey : GoString := List.replicate 32 0x6B

/-- A digest that shows how long the credential is. -/
def hmac (_ credential : GoString) : Digest := digest credential.length.toUInt8

/-- Two credentials during a rotation. -/
def rotation : List Credential :=
  [⟨digestText hmac hmacKey (ascii "a"), [scopePaymentsRead]⟩,
    ⟨digestText hmac hmacKey (ascii "ok"), [scopePaymentsRead, scopePaymentsWrite]⟩]

def rotating : Authenticator where
  key := hmacKey
  credentials :=
    [⟨digest 1, {scopePaymentsRead}⟩, ⟨digest 2, {scopePaymentsRead, scopePaymentsWrite}⟩]

/-- One digest, which the second entry spells with a line break. -/
def respelled (text : GoString) : List Credential :=
  [⟨text, [scopePaymentsRead]⟩, ⟨text ++ [0x0A], [scopePaymentsWrite]⟩]

end Sample

theorem unambiguous_iff_rotation :
    newAuthenticator Sample.hmacKey Sample.rotation = .ok Sample.rotating ∧
      Sample.rotating.Unambiguous Sample.hmac Sample.hmacKey Sample.rotation := by
  have accepted : newAuthenticator Sample.hmacKey Sample.rotation = .ok Sample.rotating := by
    decide +kernel
  exact ⟨accepted, (unambiguous_iff Sample.hmac accepted).mpr (by decide +kernel)⟩

theorem trimSpace_scope {scope : GoString}
    (h : scope = scopePaymentsRead ∨ scope = scopePaymentsWrite) : trimSpace scope = scope := by
  rcases h with rfl | rfl
  · decide +kernel
  · decide +kernel

/-- An entry with one scope. -/
theorem stores_singleton {text scope : GoString} {d : Digest}
    (h : Base64.decode text = some d.bytes)
    (hscope : scope = scopePaymentsRead ∨ scope = scopePaymentsWrite) :
    Stores ⟨text, [scope]⟩ ⟨d, {scope}⟩ where
  digest := h
  granted := List.cons_ne_nil _ _
  supported := by
    rw [List.forall_mem_singleton, trimSpace_scope hscope]
    exact hscope
  scopes := by
    rw [List.map_singleton, trimSpace_scope hscope]
    rfl

/-- Two spellings of the digest of a credential are accepted, and the entry that stands last
decides. -/
theorem exists_respelled (hmac : GoString → GoString → Digest) {key credential : GoString}
    (hkey : credentialBytes ≤ key.length) (present : credential ≠ []) :
    ∃ a b, newAuthenticator key (Sample.respelled (digestText hmac key credential)) = .ok a ∧
      newAuthenticator key (Sample.respelled (digestText hmac key credential)).reverse = .ok b ∧
      a.digests = [hmac key credential, hmac key credential] ∧
      a.authenticate hmac credential = some ⟨orderServicePrincipal, {scopePaymentsWrite}⟩ ∧
      b.authenticate hmac credential = some ⟨orderServicePrincipal, {scopePaymentsRead}⟩ := by
  let d := hmac key credential
  have hread := stores_singleton (Base64.decode_encode d.bytes) (.inl rfl)
  have hbreak : Base64.decode (Base64.encode d.bytes ++ [0x0A]) = some d.bytes := by
    rw [Base64.decode_append_lineBreak _ (by decide), Base64.decode_encode]
  have hwrite := stores_singleton hbreak (.inr rfl)
  refine ⟨⟨key, [⟨d, {scopePaymentsRead}⟩, ⟨d, {scopePaymentsWrite}⟩]⟩,
    ⟨key, [⟨d, {scopePaymentsWrite}⟩, ⟨d, {scopePaymentsRead}⟩]⟩, ?_, ?_, rfl, ?_, ?_⟩
  · exact newAuthenticator_eq_ok.mpr ⟨hkey, List.cons_ne_nil _ _,
      .cons hread (.cons hwrite .nil), by simp [Sample.respelled], rfl⟩
  · exact newAuthenticator_eq_ok.mpr ⟨hkey, List.cons_ne_nil _ _,
      .cons hwrite (.cons hread .nil), by simp [Sample.respelled], rfl⟩
  · simp [Authenticator.authenticate, lastMatch, d, present]
  · simp [Authenticator.authenticate, lastMatch, d, present]

theorem respelled_digest_accepted :
    ∃ a b,
      newAuthenticator Sample.hmacKey
        (Sample.respelled (digestText Sample.hmac Sample.hmacKey (ascii "credential"))) = .ok a ∧
      newAuthenticator Sample.hmacKey
        (Sample.respelled (digestText Sample.hmac Sample.hmacKey (ascii "credential"))).reverse =
          .ok b ∧
      a.digests = [Sample.hmac Sample.hmacKey (ascii "credential"),
        Sample.hmac Sample.hmacKey (ascii "credential")] ∧
      a.authenticate Sample.hmac (ascii "credential") =
        some ⟨orderServicePrincipal, {scopePaymentsWrite}⟩ ∧
      b.authenticate Sample.hmac (ascii "credential") =
        some ⟨orderServicePrincipal, {scopePaymentsRead}⟩ :=
  exists_respelled Sample.hmac (by decide) (by decide)

-- The last character of a digest has two bits that no byte needs.
example :
    (do newAuthenticator Sample.hmacKey (← parseServiceCredentials (ascii (
      "AAAAAAAAAAAAAAAAAAAAAAAAAAAAAAAAAAAAAAAAAAA=payments:read," ++
      "AAAAAAAAAAAAAAAAAAAAAAAAAAAAAAAAAAAAAAAAAAB=payments:write")))).map
        Authenticator.digests = .ok [Sample.digest 0, Sample.digest 0] := by
  decide +kernel

end PaymentGateway
