import PrivateExecution.Privy.Signing

/-!
# Sealing records at rest

The deterministic sealing of durable records (`crypto-envelope/src/at_rest.rs`). The nonce of a
record is derived from the seal key and from its *slot*: key id, scope (a stream index or an object
id), sequence and schema version. Nothing random enters, so two records sealed under one slot share
their nonce.
-/

namespace PrivateExecution

/-! ### Keyed hashing -/

section

variable [Sha256]

/-- The key of HMAC-SHA-256, brought to the block length of the hash. -/
def hmacBlock (key : List UInt8) : List UInt8 :=
  let short := if 64 < key.length then (Sha256.digest key).toList else key
  short ++ List.replicate (64 - short.length) 0

def hmac (key message : List UInt8) : Vector UInt8 32 :=
  let inner := Sha256.digest ((hmacBlock key).map (· ^^^ 0x36) ++ message)
  Sha256.digest ((hmacBlock key).map (· ^^^ 0x5c) ++ inner.toList)

/-- The first block that HKDF-SHA-256 expands (crate `hkdf`). -/
def hkdfBlock (salt ikm info : List UInt8) : Vector UInt8 32 :=
  hmac (hmac salt ikm).toList (info ++ [1])

end

/-- The authenticated cipher XChaCha20-Poly1305 (crate `chacha20poly1305`): key, nonce, additional
data, message. -/
class Aead where
  encrypt : Vector UInt8 32 → List UInt8 → List UInt8 → List UInt8 → Option (List UInt8)
  decrypt : Vector UInt8 32 → List UInt8 → List UInt8 → List UInt8 → Option (List UInt8)
  /-- A ciphertext ends in a tag of sixteen bytes. -/
  tag_le : ∀ {key nonce aad message ciphertext}, encrypt key nonce aad message = some ciphertext →
    16 ≤ ciphertext.length
  /-- What was sealed opens. -/
  decrypt_encrypt : ∀ {key nonce aad message ciphertext},
    encrypt key nonce aad message = some ciphertext → decrypt key nonce aad ciphertext = some message

/-! ### Keys, slots, errors -/

inductive CryptoError where
  | encryptFailed | decryptFailed | keyIdMismatch | ciphertextTooShort | unsupportedVersion

abbrev Kid := Vector UInt8 16

structure SealKey where
  bytes : Vector UInt8 32

/-- Everything the nonce of a record depends on besides the seal key. -/
structure SealSlot where
  kid : Kid
  scope : List UInt8
  sequence : U64
  schemaVersion : Unsigned 16
deriving DecidableEq

def atRestDomain : List UInt8 := utf8 "crypto.envelope.at_rest.v1"

def atRestVersion : UInt8 := 1

def atRestHeaderLen : ℕ := 41

def atRestMinLen : ℕ := 57

section

variable [Sha256]

variable (key : SealKey) (slot : SealSlot)

/-- The expansion is shorter than one
block of the hash, so it cannot fail. -/
def deriveNonce : List UInt8 :=
  let info := atRestDomain ++ slot.kid.toList ++ slot.sequence.toBeBytes ++ slot.schemaVersion.toBeBytes
  (hkdfBlock slot.scope key.bytes.toList info).toList.take 24

omit [Sha256] in
def buildAad (version : UInt8) (slot : SealSlot) : List UInt8 :=
  atRestDomain ++ version :: slot.kid.toList ++ slot.sequence.toBeBytes ++
    slot.schemaVersion.toBeBytes ++ slot.scope

variable [Aead]

def sealAtRest (plaintext : List UInt8) : Except CryptoError (List UInt8) := do
  let nonce := deriveNonce key slot
  let ciphertext ← okOr (Aead.encrypt key.bytes nonce (buildAad atRestVersion slot) plaintext)
    .encryptFailed
  return atRestVersion :: slot.kid.toList ++ nonce ++ ciphertext

def openAtRest (wire : List UInt8) : Except CryptoError (List UInt8) := do
  ensure (atRestMinLen ≤ wire.length) .ciphertextTooShort
  ensure (wire.head? = some atRestVersion) .unsupportedVersion
  ensure ((wire.drop 1).take 16 = slot.kid.toList) .keyIdMismatch
  let nonce := (wire.drop 17).take 24
  ensure (nonce = deriveNonce key slot) .decryptFailed
  okOr (Aead.decrypt key.bytes nonce (buildAad atRestVersion slot) (wire.drop atRestHeaderLen))
    .decryptFailed

omit [Sha256] [Aead] in
def wireKid (wire : List UInt8) : Except CryptoError Kid := do
  ensure (atRestHeaderLen ≤ wire.length) .ciphertextTooShort
  ensure (wire.head? = some atRestVersion) .unsupportedVersion
  return Vector.ofFn fun i => (wire.drop 1).getD i 0

omit [Aead] in
lemma length_deriveNonce : (deriveNonce key slot).length = 24 := by
  simp [deriveNonce]

variable {key : SealKey} {slot : SealSlot} {plaintext wire : List UInt8}

lemma sealAtRest_eq_ok : sealAtRest key slot plaintext = .ok wire ↔ ∃ ciphertext,
    Aead.encrypt key.bytes (deriveNonce key slot) (buildAad atRestVersion slot) plaintext =
      some ciphertext ∧ wire = atRestVersion :: (slot.kid.toList ++ (deriveNonce key slot ++ ciphertext)) := by
  simp only [sealAtRest, bind_ok, okOr_eq_ok]
  refine exists_congr fun ciphertext => and_congr_right fun _ => ?_
  change Except.ok _ = Except.ok wire ↔ _
  rw [Except.ok.injEq, eq_comm, List.append_assoc, List.cons_append]

section

variable (h : sealAtRest key slot plaintext = .ok wire)

include h

lemma sealAtRest_ne_nil : wire ≠ [] := by
  obtain ⟨ciphertext, -, rfl⟩ := sealAtRest_eq_ok.1 h
  exact List.cons_ne_nil _ _

lemma openAtRest_sealAtRest :
    openAtRest key slot wire = .ok plaintext := by
  obtain ⟨ciphertext, hct, rfl⟩ := sealAtRest_eq_ok.1 h
  have htag := Aead.tag_le hct
  have hnonce := length_deriveNonce key slot
  have hkid : slot.kid.toList.length = 16 := Vector.length_toList
  have hdrop : (atRestVersion :: (slot.kid.toList ++ (deriveNonce key slot ++ ciphertext))).drop 17 =
      deriveNonce key slot ++ ciphertext := by
    rw [List.drop_succ_cons, List.drop_left' hkid]
  have hbody : (atRestVersion :: (slot.kid.toList ++ (deriveNonce key slot ++ ciphertext))).drop
      atRestHeaderLen = ciphertext := by
    rw [show atRestHeaderLen = 17 + 24 from rfl, ← List.drop_drop, hdrop, List.drop_left' hnonce]
  have hmin : atRestMinLen ≤
      (atRestVersion :: (slot.kid.toList ++ (deriveNonce key slot ++ ciphertext))).length := by
    simp only [List.length_cons, List.length_append, hkid, hnonce, atRestMinLen]
    omega
  simp only [openAtRest, ensure_ok, okOr_eq_ok, hdrop, hbody]
  rw [List.take_left' hnonce]
  exact ⟨hmin, rfl, List.take_left' hkid, rfl, Aead.decrypt_encrypt hct⟩

lemma wireKid_sealAtRest : wireKid wire = .ok slot.kid := by
  obtain ⟨ciphertext, -, rfl⟩ := sealAtRest_eq_ok.1 h
  have hkid : slot.kid.toList.length = 16 := Vector.length_toList
  have hlen : atRestHeaderLen ≤
      (atRestVersion :: (slot.kid.toList ++ (deriveNonce key slot ++ ciphertext))).length := by
    simp only [List.length_cons, List.length_append, hkid, length_deriveNonce, atRestHeaderLen]
    omega
  simp only [wireKid, ensure_ok]
  refine ⟨hlen, rfl, congrArg Except.ok (Vector.ext fun i hi => ?_)⟩
  rw [Vector.getElem_ofFn, List.drop_succ_cons, List.drop_zero, List.getD_eq_getElem?_getD,
    List.getElem?_append_left (lt_of_lt_of_eq hi hkid.symm)]
  simp [hi]

end

end

end PrivateExecution
