import PrivateExecution.Privy.Signing

/-!
# Attempts, submissions and outcomes of the relay

The values the execution relay handles (`execution-relay/src/state.rs`, `plan.rs`, `error.rs`,
`adapter.rs`). Payloads, signed references, submit requests and durable submissions can only be
built through their checked constructors in the source; here the checks are fields.
-/

namespace PrivateExecution

/-! ### Errors and outcomes -/

inductive RelayError where
  | tradingDisabled | chainHealthUnavailable | signingUnavailable | signingFailed
  | signingRequestMismatch | chainMismatch | missingSignedPayload | signedPayloadEmpty
  | signedPayloadTooLarge | signedPayloadDigestMismatch | reservationUnavailable
  | idempotencyConflict | adapterUnavailable | adapterRejected | adapterTimeout
  | unknownSubmissionState | invalidTransition | storeUnavailable
deriving DecidableEq

inductive SubmissionState where
  | unknown | pending

structure ObservedFill where
  netInput : U128
  netOutput : U128

inductive AttemptStatus where
  | reserved | signRequested | signed | submissionUnknown | submitted | confirmed | rejected
  | failedBeforeSubmit
deriving DecidableEq

def AttemptStatus.isTerminal : AttemptStatus → Bool
  | .confirmed | .rejected | .failedBeforeSubmit => true
  | _ => false

inductive RelayOutcome where
  | prepared | reserved | signed
  | submitted (reference : String) (state : SubmissionState)
  | unknown
  | confirmed (reference : String) (fill : Option ObservedFill)
  | rejected (finalReason : String)
  | failedBeforeSubmit

def RelayOutcome.attemptStatus : RelayOutcome → AttemptStatus
  | .prepared | .reserved => .reserved
  | .signed => .signed
  | .submitted _ _ => .submitted
  | .unknown => .submissionUnknown
  | .confirmed _ _ => .confirmed
  | .rejected _ => .rejected
  | .failedBeforeSubmit => .failedBeforeSubmit

def RelayOutcome.reference? : RelayOutcome → Option String
  | .submitted reference _ | .confirmed reference _ => some reference
  | _ => none

lemma RelayOutcome.attemptStatus_eq_failedBeforeSubmit {o : RelayOutcome} :
    o.attemptStatus = .failedBeforeSubmit ↔ o = .failedBeforeSubmit := by
  cases o <;> simp [RelayOutcome.attemptStatus]

inductive Reservation where
  | reserved
  | alreadyReserved (outcome : RelayOutcome)
  | conflict

/-! ### Attempt identity -/

structure AttemptBinding where
  owner : UserId
  workspace : WalletRef
  idempotencyKey : IdempotencyKey
  intentId : IntentId
  chain : ChainId

def AttemptBinding.fromIntent (i : TradeIntent) : AttemptBinding :=
  ⟨i.userId, i.walletRef, i.idempotencyKey, i.id, i.chain⟩

structure DurableKey where
  owner : String
  workspace : String
  idempotencyKey : IdempotencyKey
deriving DecidableEq

def AttemptBinding.key (b : AttemptBinding) : DurableKey :=
  ⟨b.owner.asStr, b.workspace.asStr, b.idempotencyKey⟩

/-! ### Payloads and requests -/

def maxSignedPayloadBytes : ℕ := 2 ^ 20

structure SignedPayload where
  bytes : List UInt8
  nonempty : bytes ≠ []
  bounded : bytes.length ≤ maxSignedPayloadBytes

def SignedPayload.digest [Sha256] (p : SignedPayload) : PayloadDigest := ⟨Sha256.digest p.bytes⟩

@[ext] structure SignedExecutionRef where
  reference : String
  requestDigest : RequestDigest
  intentId : IntentId
  idempotencyKey : IdempotencyKey
  notBlank : isBlank reference = false

/-- The signed reference attests to this very signing request. -/
def SignedExecutionRef.Attests (s : SignedExecutionRef) (r : SigningRequest) : Prop :=
  s.requestDigest = r.requestDigest ∧ s.intentId = r.intentId ∧ s.idempotencyKey = r.idempotencyKey

instance (s : SignedExecutionRef) (r : SigningRequest) : Decidable (s.Attests r) :=
  inferInstanceAs (Decidable (_ ∧ _))

section

variable [Sha256]

/-- What the constructors of a submit request and of a durable submission check. -/
structure PayloadChecked (signedReference : String) (payloadDigest : PayloadDigest)
    (payload : List UInt8) : Prop where
  reference : isBlank signedReference = false
  nonempty : payload ≠ []
  bounded : payload.length ≤ maxSignedPayloadBytes
  digest : payloadDigest = ⟨Sha256.digest payload⟩

structure SubmitRequest where
  intentId : IntentId
  idempotencyKey : IdempotencyKey
  chain : ChainId
  requestDigest : RequestDigest
  payloadDigest : PayloadDigest
  signedReference : String
  chainReference : Option String
  payload : List UInt8
  checked : PayloadChecked signedReference payloadDigest payload

/-- The payload's own bounds are
fields of `SignedPayload`, so the two branches that re-check them cannot be taken. -/
def SubmitRequest.bind (signing : SigningRequest) (signed : SignedExecutionRef)
    (payload : SignedPayload) (chain : ChainId) : Except RelayError SubmitRequest :=
  if ¬ signed.Attests signing then .error .signingRequestMismatch
  else if chain ≠ signing.chain then .error .chainMismatch
  else if h : payload.digest = signing.payloadDigest then
    .ok ⟨signing.intentId, signing.idempotencyKey, chain, signing.requestDigest,
      signing.payloadDigest, signed.reference, none, payload.bytes,
      ⟨signed.notBlank, payload.nonempty, payload.bounded, h.symm⟩⟩
  else .error .signedPayloadDigestMismatch

variable (s : DurableSubmission) (r : SubmitRequest)

def SubmitRequest.withChainReference (reference : String) : SubmitRequest :=
  if isBlank reference then r else { r with chainReference := some reference }

structure DurableSubmission where
  intentId : IntentId
  idempotencyKey : IdempotencyKey
  chain : ChainId
  requestDigest : RequestDigest
  payloadDigest : PayloadDigest
  signedReference : String
  chainReference : Option String
  payload : List UInt8
  checked : PayloadChecked signedReference payloadDigest payload

def DurableSubmission.new (intentId : IntentId) (idempotencyKey : IdempotencyKey) (chain : ChainId)
    (requestDigest : RequestDigest) (payloadDigest : PayloadDigest) (signedReference : String)
    (chainReference : Option String) (payload : List UInt8) : Except RelayError DurableSubmission :=
  if href : isBlank signedReference = false then
    if hne : payload ≠ [] then
      if hle : payload.length ≤ maxSignedPayloadBytes then
        if hd : payloadDigest = ⟨Sha256.digest payload⟩ then
          .ok ⟨intentId, idempotencyKey, chain, requestDigest, payloadDigest, signedReference,
            chainReference, payload, ⟨href, hne, hle, hd⟩⟩
        else .error .signedPayloadDigestMismatch
      else .error .signedPayloadTooLarge
    else .error .signedPayloadEmpty
  else .error .signingFailed

def DurableSubmission.fromRequest : Except RelayError DurableSubmission :=
  DurableSubmission.new r.intentId r.idempotencyKey r.chain r.requestDigest r.payloadDigest
    r.signedReference r.chainReference r.payload

def DurableSubmission.setChainReference (reference : String) : DurableSubmission :=
  if isBlank reference then s else { s with chainReference := some reference }

def SubmitRequest.restore : Except RelayError SubmitRequest :=
  if hne : s.payload ≠ [] then
    if hle : s.payload.length ≤ maxSignedPayloadBytes then
      if hd : s.payloadDigest = ⟨Sha256.digest s.payload⟩ then
        .ok ⟨s.intentId, s.idempotencyKey, s.chain, s.requestDigest, s.payloadDigest,
          s.signedReference, s.chainReference, s.payload, ⟨s.checked.reference, hne, hle, hd⟩⟩
      else .error .signedPayloadDigestMismatch
    else .error .signedPayloadTooLarge
  else .error .signedPayloadEmpty

def SubmitRequest.toDurable : DurableSubmission :=
  ⟨r.intentId, r.idempotencyKey, r.chain, r.requestDigest, r.payloadDigest, r.signedReference,
    r.chainReference, r.payload, r.checked⟩

def DurableSubmission.toRequest : SubmitRequest :=
  ⟨s.intentId, s.idempotencyKey, s.chain, s.requestDigest, s.payloadDigest, s.signedReference,
    s.chainReference, s.payload, s.checked⟩

@[simp] lemma DurableSubmission.fromRequest_eq_ok :
    DurableSubmission.fromRequest r = .ok r.toDurable := by
  obtain ⟨href, hne, hle, hd⟩ := r.checked
  simp only [DurableSubmission.fromRequest, DurableSubmission.new, dif_pos href, dif_pos hne,
    dif_pos hle, dif_pos hd]
  rfl

@[simp] lemma SubmitRequest.restore_eq_ok :
    SubmitRequest.restore s = .ok s.toRequest := by
  obtain ⟨-, hne, hle, hd⟩ := s.checked
  simp only [SubmitRequest.restore, dif_pos hne, dif_pos hle, dif_pos hd]
  rfl

end

/-! ### Chain adapters -/

inductive ChainObservation where
  | confirmed (reference : String) (fill : Option ObservedFill)
  | pending
  | rejected (finalReason : String)
  | unknown

/-- What an observation of the chain means for the attempt. -/
def ChainObservation.toOutcome : ChainObservation → RelayOutcome
  | .confirmed reference fill => .confirmed reference fill
  | .rejected finalReason => .rejected finalReason
  | .pending | .unknown => .unknown

/-- The field is public, so an
adapter may answer with a blank reference. -/
structure SubmissionReceipt where
  reference : String

end PrivateExecution
