import PrivateExecution.Domain.Json
import PrivateExecution.Encoding.Base64
import PrivateExecution.Privy.Sha256

/-!
# The recovery store document

The file of the recovery wrapper store (`apps/private-api/src/recovery.rs`): wrapped root keys and the
public identity of the workspace, as one JSON document. `loadStore` is what a start of the process reads.
-/

namespace PrivateExecution.Recovery

def maxRecoveryWrappers : ℕ := 32
def recoveryStoreVersion : U32 := .lit 1
def maxRecoveryStoreBytes : ℕ := 1024 * 1024
def workspaceIdentityVersion : Unsigned 8 := .lit 1
def workspacePublicKeyBytes : ℕ := 32

inductive AuthError where
  | verifierUnavailable | credentialConflict
deriving DecidableEq

/-! ### Records -/

structure RecoveryWrapperRecord where
  credentialIdB64 : String
  label : String
  version : Unsigned 8
  algorithm : String
  keySource : String
  saltB64 : String
  ivB64 : String
  wrappedRootKeyB64 : String
  createdAtMs : I64
  lastUsedAtMs : Option I64
  revokedAtMs : Option I64
deriving DecidableEq

structure WorkspaceIdentityRecord where
  version : Unsigned 8
  publicKeyB64 : String
  fingerprintB64 : String
  createdAtMs : I64
deriving DecidableEq

structure RecoveryStoreDocument where
  version : U32
  wrappers : List RecoveryWrapperRecord
  identity : Option WorkspaceIdentityRecord
deriving DecidableEq

@[ext] structure Stored where
  wrappers : List RecoveryWrapperRecord
  identity : Option WorkspaceIdentityRecord
deriving DecidableEq

def Stored.document (stored : Stored) : RecoveryStoreDocument :=
  ⟨recoveryStoreVersion, stored.wrappers, stored.identity⟩

/-! ### Reading the file -/

section

variable [Sha256]

def publicKeyFingerprintB64 (publicKey : List UInt8) : String :=
  base64Encode (Sha256.digest publicKey).toList

def WorkspaceIdentityRecord.publicKeyBytes (identity : WorkspaceIdentityRecord) : Option (List UInt8) :=
  decodeCanonicalB64 identity.publicKeyB64 workspacePublicKeyBytes

def checkIdentity (identity : WorkspaceIdentityRecord) : Except AuthError Unit := do
  let publicKey ← okOr identity.publicKeyBytes .verifierUnavailable
  ensure (identity.version = workspaceIdentityVersion ∧
    publicKeyFingerprintB64 publicKey = identity.fingerprintB64) .verifierUnavailable

variable [Serde RecoveryStoreDocument]

/-- The store as a start of the process reads it; without a file it is empty. -/
def loadStore : Option (List UInt8) → Except AuthError Stored
  | none => .ok ⟨[], none⟩
  | some bytes => do
    ensure (bytes.length ≤ maxRecoveryStoreBytes) .verifierUnavailable
    let document : RecoveryStoreDocument ← okOr (Serde.fromSlice bytes) .verifierUnavailable
    ensure (document.version = recoveryStoreVersion ∧ document.wrappers.length ≤ maxRecoveryWrappers)
      .verifierUnavailable
    document.identity.forM checkIdentity
    return ⟨document.wrappers, document.identity⟩

/-- The file that `persist_document` leaves, if serializing, writing and renaming all succeed; `io` is
whether the file system lets it. -/
def persistDocument (io : Bool) (stored : Stored) : Option (List UInt8) :=
  if io then Serde.toVec stored.document else none

end

/-! ### What the callers let through -/

/-- The bounds that `RecoveryWrapperInput::into_record` checks: base64 of 32, 12, 48 and at most 1024
bytes, a label of at most 64. -/
structure RecoveryWrapperRecord.Bounded (r : RecoveryWrapperRecord) : Prop where
  credentialId : r.credentialIdB64.utf8ByteSize ≤ 1368
  label : r.label.utf8ByteSize ≤ 64
  algorithm : r.algorithm = "HKDF-SHA256/AES-256-GCM"
  keySource : r.keySource ∈ ["workspace_root_v2", "unlock_secret_v1"]
  salt : r.saltB64.utf8ByteSize = 44
  iv : r.ivB64.utf8ByteSize = 16
  wrappedRootKey : r.wrappedRootKeyB64.utf8ByteSize = 64

/-- Bounded wrappers, not too many, and an identity that passes the check. -/
structure Stored.Fit [Sha256] (stored : Stored) : Prop where
  count : stored.wrappers.length ≤ maxRecoveryWrappers
  bounded : ∀ r ∈ stored.wrappers, r.Bounded
  identity : ∀ i ∈ stored.identity, checkIdentity i = .ok ()

/-- Documents of bounded records stay below the bound on the file. -/
def SmallDocuments [Sha256] [Serde RecoveryStoreDocument] : Prop :=
  ∀ (stored : Stored) (bytes : List UInt8), stored.Fit →
    Serde.toVec stored.document = some bytes → bytes.length ≤ maxRecoveryStoreBytes

lemma loadStore_persistDocument [Sha256] [Serde RecoveryStoreDocument] (hsmall : SmallDocuments)
    {io : Bool} {stored : Stored} {bytes : List UInt8} (hfit : stored.Fit)
    (h : persistDocument io stored = some bytes) : loadStore (some bytes) = .ok stored := by
  unfold persistDocument at h
  split_ifs at h
  refine ensure_ok.2 ⟨hsmall stored bytes hfit h, bind_ok.2 ⟨_,
    okOr_eq_ok.2 (Serde.fromSlice_toVec h), ensure_ok.2 ⟨⟨rfl, hfit.count⟩, ?_⟩⟩⟩
  refine bind_ok.2 ⟨(), ?_, rfl⟩
  obtain ⟨wrappers, identity⟩ := stored
  cases identity with
  | none => rfl
  | some identity => exact hfit.identity identity rfl

/-! ### The JSON text -/

open Json

instance : ToJson RecoveryWrapperRecord := ⟨fun r => object
  [("credential_id_b64", json r.credentialIdB64), ("label", json r.label), ("version", json r.version),
   ("algorithm", json r.algorithm), ("key_source", json r.keySource), ("salt_b64", json r.saltB64),
   ("iv_b64", json r.ivB64), ("wrapped_root_key_b64", json r.wrappedRootKeyB64),
   ("created_at_ms", json r.createdAtMs), ("last_used_at_ms", json r.lastUsedAtMs),
   ("revoked_at_ms", json r.revokedAtMs)]⟩

instance : ToJson WorkspaceIdentityRecord := ⟨fun i => object
  [("version", json i.version), ("public_key_b64", json i.publicKeyB64),
   ("fingerprint_b64", json i.fingerprintB64), ("created_at_ms", json i.createdAtMs)]⟩

instance : ToJson RecoveryStoreDocument := ⟨fun d => object
  [("version", json d.version), ("wrappers", json d.wrappers), ("identity", json d.identity)]⟩

end PrivateExecution.Recovery
