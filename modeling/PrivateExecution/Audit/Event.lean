import PrivateExecution.Domain.Json

/-!
# Execution audit events

The self-contained event that the audit trail seals whole into one record (`audit/src/event.rs`),
with its validation and its JSON form.
-/

namespace PrivateExecution

inductive AuditError where
  | keyUnavailable | unknownKeyId | keyIdMismatch | sealFailed | openFailed | recordMalformed
  | sequenceNotMonotonic | sequenceGap | storageUnavailable | storageConflict
  | eventValidationFailed (reason : String)
deriving DecidableEq

def auditSchemaVersion : Unsigned 16 := .lit 1

@[ext] structure SigningReference where
  asStr : String
  /-- What `new` checks. -/
  notBlank : isBlank asStr = false

instance : DecidableEq SigningReference := fun _ _ => decidable_of_iff _ SigningReference.ext_iff.symm

inductive RelayOutcomeClass where
  | submitted | unknown | confirmed | rejected | failedBeforeSubmit
deriving DecidableEq

def RelayOutcomeClass.requiresSigning : RelayOutcomeClass → Bool
  | .submitted | .unknown | .confirmed | .rejected => true
  | .failedBeforeSubmit => false

inductive RevalidationOutcomeClass where
  | valid | requote | final
deriving DecidableEq

structure RevalidationSummary where
  outcome : RevalidationOutcomeClass
  reasonCode : Unsigned 16
deriving DecidableEq

structure SigningSummary where
  requestDigest : Vector UInt8 32
  payloadDigest : Vector UInt8 32
  nonce : U64
  reference : Option SigningReference
deriving DecidableEq

structure RelaySummary where
  outcome : RelayOutcomeClass
  reference : Option String
  attemptBucket : U32
deriving DecidableEq

structure PolicyApprovalSummary where
  approvedAtMs : I64
  approvedTradeUsd : U64
  expiresAtMs : Option I64
deriving DecidableEq

structure ExecutionAuditEvent where
  schemaVersion : Unsigned 16
  sequence : U64
  intentId : IntentId
  idempotencyKey : IdempotencyKey
  userId : UserId
  walletRef : WalletRef
  chain : ChainId
  source : TradeSource
  tokenIn : AssetId
  tokenOut : AssetId
  side : TradeSide
  amountType : AmountType
  amount : AtomicAmount
  orderType : OrderType
  limitPrice : Option LimitPrice
  risk : RiskConstraints
  route : RoutePlan
  preview : ExecutionPreview
  revalidation : Option RevalidationSummary
  signing : SigningSummary
  relay : RelaySummary
  policy : PolicyApprovalSummary
  executionId : Option ExecutionId
deriving DecidableEq

namespace ExecutionAuditEvent

def require (p : Prop) [Decidable p] (reason : String) : Except AuditError Unit :=
  ensure p (.eventValidationFailed reason)

/-- A validation of the domain, reported under a fixed reason. -/
def requireOk {ε : Type} (x : Except ε Unit) (reason : String) : Except AuditError Unit :=
  x.mapError fun _ => .eventValidationFailed reason

variable (e : ExecutionAuditEvent)

def validateBindings : Except AuditError Unit := do
  require (e.preview.intentId = e.intentId) "preview intent mismatch"
  require (e.preview.chain = e.chain) "preview chain mismatch"
  require (e.preview.tokenIn = e.tokenIn ∧ e.preview.tokenOut = e.tokenOut) "preview asset mismatch"
  require (e.preview.side = e.side) "preview side mismatch"
  let firstLeg ← okOr e.route.legs.head? (.eventValidationFailed "route plan invalid")
  let lastLeg ← okOr e.route.legs.getLast? (.eventValidationFailed "route plan invalid")
  require (firstLeg.tokenIn = e.tokenIn) "route token mismatch"
  require (lastLeg.tokenOut = e.tokenOut) "route output mismatch"
  require (e.route.expectedNetOutput = e.preview.simulatedNetOutput) "route output amount mismatch"

def validateRelay : Except AuditError Unit := do
  require (e.signing.nonce.val ≠ 0) "signing nonce must be positive"
  require (e.signing.reference.isSome → e.signing.requestDigest ≠ Vector.replicate 32 0 ∧
    e.signing.payloadDigest ≠ Vector.replicate 32 0) "signing digests missing"
  require (e.relay.reference.all fun reference => !isBlank reference) "relay reference invalid"
  require (e.relay.outcome.requiresSigning → e.signing.reference.isSome) "relay outcome before signing"
  require (e.relay.reference.isSome → e.signing.reference.isSome) "relay outcome before signing"

def validate : Except AuditError Unit := do
  require (e.schemaVersion = auditSchemaVersion) "unsupported schema version"
  require (e.sequence.val ≠ 0) "sequence must be positive"
  requireOk e.intentId.validate "intent identifier invalid"
  requireOk e.idempotencyKey.validate "idempotency key invalid"
  requireOk e.userId.validate "user identifier invalid"
  requireOk e.walletRef.validate "wallet reference invalid"
  require e.chain.isValid "chain invalid"
  require e.tokenIn.isValid "input asset invalid"
  require e.tokenOut.isValid "output asset invalid"
  e.executionId.forM fun id => requireOk id.validate "execution identifier invalid"
  require (e.tokenIn ≠ e.tokenOut) "trade pair must be distinct"
  require (e.tokenIn.chain = e.chain ∧ e.tokenOut.chain = e.chain) "asset chain mismatch"
  require (e.amount.val ≠ 0) "amount must be positive"
  require (e.orderType = .limit ↔ e.limitPrice.isSome) "order type and limit price disagree"
  requireOk (e.risk.validate e.tokenIn) "risk constraints invalid"
  requireOk e.route.validate "route plan invalid"
  requireOk e.preview.validateInternal "preview invalid"
  e.validateBindings
  e.validateRelay

end ExecutionAuditEvent

/-! ### JSON -/

open Json

instance : ToJson SigningReference := ⟨fun r => string r.asStr⟩

instance : ToJson RelayOutcomeClass where
  json
    | .submitted => string "submitted"
    | .unknown => string "unknown"
    | .confirmed => string "confirmed"
    | .rejected => string "rejected"
    | .failedBeforeSubmit => string "failed_before_submit"

instance : ToJson RevalidationOutcomeClass where
  json
    | .valid => string "valid"
    | .requote => string "requote"
    | .final => string "final"

instance : ToJson RevalidationSummary := ⟨fun r => object
  [("outcome", json r.outcome), ("reason_code", json r.reasonCode)]⟩

instance : ToJson SigningSummary := ⟨fun s => object
  [("request_digest", json s.requestDigest), ("payload_digest", json s.payloadDigest),
   ("nonce", json s.nonce), ("reference", json s.reference)]⟩

instance : ToJson RelaySummary := ⟨fun r => object
  [("outcome", json r.outcome), ("reference", json r.reference),
   ("attempt_bucket", json r.attemptBucket)]⟩

instance : ToJson PolicyApprovalSummary := ⟨fun p => object
  [("approved_at_ms", json p.approvedAtMs), ("approved_trade_usd", json p.approvedTradeUsd),
   ("expires_at_ms", json p.expiresAtMs)]⟩

instance : ToJson ExecutionAuditEvent := ⟨fun e => object
  [("schema_version", json e.schemaVersion), ("sequence", json e.sequence),
   ("intent_id", json e.intentId), ("idempotency_key", json e.idempotencyKey),
   ("user_id", json e.userId), ("wallet_ref", json e.walletRef), ("chain", json e.chain),
   ("source", json e.source), ("token_in", json e.tokenIn), ("token_out", json e.tokenOut),
   ("side", json e.side), ("amount_type", json e.amountType), ("amount", json e.amount),
   ("order_type", json e.orderType), ("limit_price", json e.limitPrice), ("risk", json e.risk),
   ("route", json e.route), ("preview", json e.preview), ("revalidation", json e.revalidation),
   ("signing", json e.signing), ("relay", json e.relay), ("policy", json e.policy),
   ("execution_id", json e.executionId)]⟩

end PrivateExecution
