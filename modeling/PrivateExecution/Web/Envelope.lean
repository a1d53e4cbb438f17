import PrivateExecution.Domain.Primitives
import PrivateExecution.Encoding.Base64

/-!
# Values, errors and envelopes of the workspace

What the command channel and the realtime client of `web/workspace-payload` share: JSON values as JavaScript
sees them, the typed errors (`core/errors.ts`), the base64 reader (`core/base64.ts`), the strict validation of
a cleartext envelope (`realtime/envelope.ts`) and the session decryptor (`realtime/decryptor.ts`).
-/

namespace PrivateExecution.Web

/-! ### Values -/

/-- A JavaScript number that a JSON text can stand for. -/
inductive Number where
  | finite (q : ℚ)
  | infinite (negative : Bool)
deriving DecidableEq

inductive Json where
  | null
  | bool (b : Bool)
  | number (n : Number)
  | string (s : String)
  | array (items : List Json)
  | object (fields : List (String × Json))

/-- The functions of the browser that texts go through. `TextDecoder` is the strict one. -/
class Platform where
  jsonParse : String → Option Json
  utf8Decode : List UInt8 → Option String

namespace Json

/-- A property of a value; `none` is `undefined`. Of fields with one name the last counts. -/
def get (key : String) : Json → Option Json
  | .object fields => fields.reverse.lookup key
  | _ => none

/-- `isRecord`: an object that is not an array. -/
def isRecord : Json → Bool
  | .object _ => true
  | _ => false

/-- `typeof value === "object"` of a value that is not `null`. -/
def isObject : Json → Bool
  | .object _ | .array _ => true
  | _ => false

def truthy : Json → Bool
  | .null => false
  | .bool b => b
  | .number n => n ≠ .finite 0
  | .string s => s ≠ ""
  | .array _ | .object _ => true

def asString : Json → Option String
  | .string s => some s
  | _ => none

def asBool : Json → Option Bool
  | .bool b => some b
  | _ => none

/-- A number that `Number.isSafeInteger` passes and that is not negative. -/
def asSafeNatural : Json → Option ℕ
  | .number (.finite q) => if q.den = 1 ∧ 0 ≤ q.num ∧ q.num < 2 ^ 53 then some q.num.toNat else none
  | _ => none

end Json

def jsLength (s : String) : ℕ := (s.toList.map fun c => if c.toNat < 0x10000 then 1 else 2).sum

/-! ### Errors -/

inductive WorkspaceErrorCode where
  | network | auth | capabilityMissing | freshness | protocol | server | cancelled | unknown
deriving DecidableEq

def WorkspaceErrorCode.ofName : String → Option WorkspaceErrorCode
  | "network" => some .network
  | "auth" => some .auth
  | "capability_missing" => some .capabilityMissing
  | "freshness" => some .freshness
  | "protocol" => some .protocol
  | "server" => some .server
  | "cancelled" => some .cancelled
  | "unknown" => some .unknown
  | _ => none

structure WorkspaceErrorShape where
  code : WorkspaceErrorCode
  message : String
  retryable : Bool
  detail : Option String
deriving DecidableEq

/-- What the platform throws: the `AbortError` of a `DOMException`, or anything else that is no
`WorkspaceError`. -/
inductive Failure where
  | abort | other
deriving DecidableEq

inductive Thrown where
  | workspace (shape : WorkspaceErrorShape)
  | failure (failure : Failure)
deriving DecidableEq

def defaultRetryable : WorkspaceErrorCode → Bool
  | .network | .server | .freshness => true
  | .auth | .capabilityMissing | .protocol | .cancelled | .unknown => false

def workspaceErrorWith (code : WorkspaceErrorCode) (message : String) (retryable : Option Bool)
    (detail : Option String) : Thrown :=
  .workspace ⟨code, message, retryable.getD (defaultRetryable code), detail⟩

def workspaceError (code : WorkspaceErrorCode) (message : String) : Thrown :=
  workspaceErrorWith code message none none

def toWorkspaceErrorShape : Thrown → WorkspaceErrorShape
  | .workspace shape => shape
  | .failure .abort => ⟨.cancelled, "Request cancelled.", true, none⟩
  | .failure .other => ⟨.unknown, "Unexpected workspace error.", false, none⟩

/-! ### Base64 -/

def isJsSpace (c : Char) : Bool :=
  c.toNat ∈ [0x9, 0xa, 0xb, 0xc, 0xd, 0x20, 0xa0, 0x1680, 0x2028, 0x2029, 0x202f, 0x205f, 0x3000, 0xfeff] ||
    decide (0x2000 ≤ c.toNat ∧ c.toNat ≤ 0x200a)

/-- The loop of `base64ToBytes`: the bytes of the characters still to come. -/
def base64Bits : (acc bits : ℕ) → List Char → Option (List UInt8)
  | _, _, [] => some []
  | acc, bits, c :: rest => do
    let value ← base64Value c
    let acc := acc * 2 ^ 6 % 2 ^ 32 + value
    if 8 ≤ bits + 6 then
      let out ← base64Bits acc (bits + 6 - 8) rest
      return UInt8.ofNat (acc / 2 ^ (bits + 6 - 8)) :: out
    else base64Bits acc (bits + 6) rest

def base64ToBytes (input : String) : Option (List UInt8) :=
  let clean := input.toList.filter fun c => !isJsSpace c
  let body := clean.takeWhile (· ≠ '=')
  let padding := clean.dropWhile (· ≠ '=')
  if clean = [] then none
  else if body.any fun c => (base64Value c).isNone then none
  else if padding ∉ [[], ['='], ['=', '=']] then none
  else if clean.length % 4 = 1 then none
  else if padding ≠ [] ∧ clean.length % 4 ≠ 0 then none
  else base64Bits 0 0 body

/-! ### Envelopes -/

def maxCiphertextBytes : ℕ := 1024 * 1024
def aeadTagBytes : ℕ := 16
def nonceBytes : ℕ := 12

structure StreamEnvelope where
  kid : String
  nonce : String
  sequence : ℕ
  ciphertext : String
deriving DecidableEq

def isKidChar (c : Char) : Bool :=
  (base64Value c).isSome || c ∈ ['=', '_', ':', '-']

def validateEnvelope (raw : Json) : Except Thrown StreamEnvelope := do
  ensure (raw.isRecord = true) (workspaceError .protocol "Malformed stream envelope.")
  let kid ← okOr ((raw.get "kid").bind Json.asString)
    (workspaceError .protocol "Malformed stream envelope key id.")
  ensure (kid ≠ "" ∧ jsLength kid ≤ 64 ∧ kid.toList.all isKidChar = true)
    (workspaceError .protocol "Malformed stream envelope key id.")
  let nonce ← okOr ((raw.get "nonce").bind Json.asString)
    (workspaceError .protocol "Malformed stream envelope nonce.")
  ensure (nonce ≠ "" ∧ jsLength nonce ≤ 64) (workspaceError .protocol "Malformed stream envelope nonce.")
  let nonceRaw ← okOr (base64ToBytes nonce)
    (workspaceError .protocol "Malformed stream envelope nonce encoding.")
  ensure (nonceRaw.length = nonceBytes) (workspaceError .protocol "Stream envelope nonce must be 12 bytes.")
  let sequence ← okOr ((raw.get "sequence").bind Json.asSafeNatural)
    (workspaceError .protocol "Malformed stream envelope sequence.")
  let ciphertext ← okOr ((raw.get "ciphertext").bind Json.asString)
    (workspaceError .protocol "Malformed stream envelope ciphertext.")
  ensure (ciphertext ≠ "") (workspaceError .protocol "Malformed stream envelope ciphertext.")
  let ciphertextRaw ← okOr (base64ToBytes ciphertext)
    (workspaceError .protocol "Malformed stream envelope ciphertext encoding.")
  ensure (aeadTagBytes ≤ ciphertextRaw.length ∧ ciphertextRaw.length ≤ maxCiphertextBytes)
    (workspaceError .protocol "Stream envelope ciphertext size out of range.")
  return ⟨kid, nonce, sequence, ciphertext⟩

def parseEnvelopeText [Platform] (text : String) : Except Thrown StreamEnvelope := do
  let raw ← okOr (Platform.jsonParse text)
    (workspaceError .protocol "Stream envelope was not valid JSON.")
  validateEnvelope raw

/-- AES-GCM under the session key: the plaintext of an initialisation vector, associated data and a
ciphertext. -/
abbrev Aead : Type := (iv additionalData ciphertext : List UInt8) → Option (List UInt8)

/-- The associated data that binds an envelope to its key id and its sequence. -/
def associatedData (kid : String) (sequence : ℕ) : List UInt8 :=
  ("kid=" ++ kid ++ ";seq=" ++ Nat.repr sequence).toUTF8.toList

def decrypt (aead : Aead) (expectedKid : String) (envelope : StreamEnvelope) : Except Thrown (List UInt8) := do
  ensure (envelope.kid = expectedKid) (workspaceError .auth "Stream envelope key id mismatch.")
  let nonce ← okOr (base64ToBytes envelope.nonce) (.failure .other)
  let ciphertext ← okOr (base64ToBytes envelope.ciphertext) (.failure .other)
  okOr (aead nonce (associatedData envelope.kid envelope.sequence) ciphertext)
    (workspaceErrorWith .protocol "Stream frame failed authentication." (some false) none)

end PrivateExecution.Web
