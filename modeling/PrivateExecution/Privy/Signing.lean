import PrivateExecution.Domain.Preview

/-!
# The signing request

`SigningRequest.bind` (`privy/src/signing.rs`) turns an approved, prepared, previewed intent into
the one value the signing boundary sees, and commits to all of it in a digest over a canonical,
length-prefixed byte layout. SHA-256 is the only part that is not spelled out: it is the class
`Sha256`, a function from byte strings to 32 bytes about which nothing is assumed.
-/

namespace PrivateExecution

class Sha256 where
  digest : List UInt8 → Vector UInt8 32

structure PayloadDigest where
  asBytes : Vector UInt8 32
deriving DecidableEq

def PayloadDigest.isZero (d : PayloadDigest) : Bool := d.asBytes == Vector.replicate 32 0

structure RequestDigest where
  asBytes : Vector UInt8 32
deriving DecidableEq

inductive PrivyError where
  | signingUnavailable | invalidExecutionReference | approvalBindingMismatch | unsupportedChain
  | approvalExpired | tradingDisabled | previewRevalidationFailed | missingPayloadDigest
  | duplicateSigningRequest | idempotencyConflict | signerRejected

/-- A policy approval. -/
structure ApprovedExecution where
  intentId : IntentId
  walletRef : WalletRef
  chain : ChainId
  idempotencyKey : IdempotencyKey
  expiresAtMs : Option I64
  approvedTradeUsd : U64
  approvedAtMs : I64

@[ext] structure PreparedExecutionRef where
  reference : String
  intentId : IntentId
  idempotencyKey : IdempotencyKey
  /-- What `new` checks. -/
  notBlank : isBlank reference = false

def PreparedExecutionRef.new (reference : String) (intentId : IntentId)
    (idempotencyKey : IdempotencyKey) : Except PrivyError PreparedExecutionRef :=
  if h : isBlank reference = false then .ok ⟨reference, intentId, idempotencyKey, h⟩
  else .error .invalidExecutionReference

/-! ### Canonical bytes -/

def beBytes : ℕ → ℕ → List UInt8
  | 0, _ => []
  | width + 1, n => UInt8.ofNat (n / 256 ^ width) :: beBytes width n

def Unsigned.toBeBytes {w : ℕ} (x : Unsigned w) : List UInt8 := beBytes (w / 8) x.val

def I64.toBeBytes (x : I64) : List UInt8 := beBytes 8 (x.val % 2 ^ 64).toNat

def Bps.toBeBytes (x : Bps) : List UInt8 := beBytes 2 x.get

def utf8 (s : String) : List UInt8 := s.toUTF8.toList

def chainTag : ChainId → Except PrivyError UInt8
  | .solana => .ok 0
  | .base => .ok 1
  | .bnbChain => .ok 2
  | .ethereum => .ok 3
  | .robinhoodAssociated => .ok 4
  | .other _ => .error .unsupportedChain

def chainFromCanonicalTag (tag : UInt8) : Option ChainId :=
  if tag = 0 then some .solana
  else if tag = 1 then some .base
  else if tag = 2 then some .bnbChain
  else if tag = 3 then some .ethereum
  else if tag = 4 then some .robinhoodAssociated
  else none

def tradeSourceTag : TradeSource → UInt8
  | .web => 0
  | .mcp => 1
  | .telegram => 2
  | .internal => 3

def amountTypeTag : AmountType → UInt8
  | .inputAssetAtomic => 0
  | .outputAssetAtomic => 1
  | .usdMicros => 2

def orderTypeTag : OrderType → UInt8
  | .market => 0
  | .limit => 1

def sideTag : TradeSide → UInt8
  | .buy => 0
  | .sell => 1

def lenPrefixed (bytes : List UInt8) : Except PrivyError (List UInt8) :=
  if bytes.length < 2 ^ 32 then .ok (beBytes 4 bytes.length ++ bytes)
  else .error .approvalBindingMismatch

def assetBytes (a : AssetId) : Except PrivyError (List UInt8) := do
  let tag ← chainTag a.chain
  let address ← lenPrefixed (utf8 a.address)
  return tag :: address

/-- An optional part of a layout: a presence byte, then the part. -/
def optionBytes {α : Type} (part : α → Except PrivyError (List UInt8)) :
    Option α → Except PrivyError (List UInt8)
  | none => .ok [0]
  | some x => do
    let bytes ← part x
    return 1 :: bytes

def legBytes (leg : RouteLeg) : Except PrivyError (List UInt8) := do
  let venue ← lenPrefixed (utf8 leg.venue)
  let poolRef ← lenPrefixed (utf8 leg.poolRef)
  let tokenIn ← assetBytes leg.tokenIn
  let tokenOut ← assetBytes leg.tokenOut
  return venue ++ poolRef ++ tokenIn ++ tokenOut ++ leg.amountIn.toBeBytes ++
    leg.expectedAmountOut.toBeBytes

def routeBytes (route : RoutePlan) : Except PrivyError (List UInt8) := do
  ensure (route.legs.length < 2 ^ 32) .approvalBindingMismatch
  let legs ← route.legs.mapM legBytes
  let output ← assetBytes route.expectedNetOutput.asset
  return utf8 "privy.signing.route.v1" ++ beBytes 4 route.legs.length ++ legs.flatten ++ output ++
    route.expectedNetOutput.amount.toBeBytes

def limitPriceBytes (limit : LimitPrice) : Except PrivyError (List UInt8) := do
  let numerator ← assetBytes limit.numeratorAsset
  let denominator ← assetBytes limit.denominatorAsset
  return numerator ++ denominator ++ limit.ratio.numeratorAtomic.toBeBytes ++
    limit.ratio.denominatorAtomic.toBeBytes

def totalCostBytes (total : AssetAmount) : Except PrivyError (List UInt8) := do
  let asset ← assetBytes total.asset
  return asset ++ total.amount.toBeBytes

def intentBytes (i : TradeIntent) : Except PrivyError (List UInt8) := do
  let id ← lenPrefixed (utf8 i.id.asStr)
  let userId ← lenPrefixed (utf8 i.userId.asStr)
  let walletRef ← lenPrefixed (utf8 i.walletRef.asStr)
  let chain ← chainTag i.chain
  let tokenIn ← assetBytes i.tokenIn
  let tokenOut ← assetBytes i.tokenOut
  let limitPrice ← optionBytes limitPriceBytes i.limitPrice
  let maxTotalCost ← optionBytes totalCostBytes i.risk.maxTotalCost
  let expiry ← optionBytes (fun x => .ok (I64.toBeBytes x)) i.expiryMs
  let key ← lenPrefixed (utf8 i.idempotencyKey.asStr)
  return utf8 "privy.signing.intent.v1" ++ id ++ [tradeSourceTag i.source] ++ userId ++ walletRef ++
    [chain] ++ tokenIn ++ tokenOut ++ [sideTag i.side, amountTypeTag i.amountType] ++
    i.amount.toBeBytes ++ [orderTypeTag i.orderType] ++ limitPrice ++ i.risk.maxBuyTax.toBeBytes ++
    i.risk.maxSellTax.toBeBytes ++ i.risk.maxPriceImpact.toBeBytes ++
    i.risk.maxSlippage.toBeBytes ++ maxTotalCost ++ [if i.allowPartialFill then 1 else 0] ++
    expiry ++ i.nonce.toBeBytes ++ key

def requestBytes (approval : ApprovedExecution) (prepared : PreparedExecutionRef)
    (intent : TradeIntent) (preview : ExecutionPreview) (payloadDigest : PayloadDigest)
    (routeDigest intentDigest : RequestDigest) : Except PrivyError (List UInt8) := do
  let id ← lenPrefixed (utf8 intent.id.asStr)
  let key ← lenPrefixed (utf8 intent.idempotencyKey.asStr)
  let walletRef ← lenPrefixed (utf8 intent.walletRef.asStr)
  let chain ← chainTag intent.chain
  let tokenIn ← assetBytes intent.tokenIn
  let tokenOut ← assetBytes intent.tokenOut
  let expires ← optionBytes (fun x => .ok (I64.toBeBytes x)) approval.expiresAtMs
  let reference ← lenPrefixed (utf8 prepared.reference)
  return utf8 "privy.signing.request.v1" ++ beBytes 2 1 ++ id ++ key ++ walletRef ++ [chain] ++
    intent.nonce.toBeBytes ++ [sideTag intent.side] ++ tokenIn ++ tokenOut ++
    preview.simulatedNetInput.amount.toBeBytes ++ preview.grossOutput.amount.toBeBytes ++
    preview.simulatedNetOutput.amount.toBeBytes ++ payloadDigest.asBytes.toList ++ expires ++
    approval.approvedAtMs.toBeBytes ++ approval.approvedTradeUsd.toBeBytes ++ reference ++
    routeDigest.asBytes.toList ++ intentDigest.asBytes.toList

section

variable [Sha256]

def hashLayout (layout : Except PrivyError (List UInt8)) : Except PrivyError RequestDigest := do
  let bytes ← layout
  return ⟨Sha256.digest bytes⟩

def computeRouteDigest (route : RoutePlan) : Except PrivyError RequestDigest :=
  hashLayout (routeBytes route)

def computeIntentDigest (intent : TradeIntent) : Except PrivyError RequestDigest :=
  hashLayout (intentBytes intent)

def computeRequestDigest (approval : ApprovedExecution) (prepared : PreparedExecutionRef)
    (intent : TradeIntent) (preview : ExecutionPreview) (payloadDigest : PayloadDigest)
    (routeDigest intentDigest : RequestDigest) : Except PrivyError RequestDigest :=
  hashLayout (requestBytes approval prepared intent preview payloadDigest routeDigest intentDigest)

end

/-! ### Binding -/

structure SigningRequest where
  requestDigest : RequestDigest
  intentId : IntentId
  idempotencyKey : IdempotencyKey
  walletRef : WalletRef
  chain : ChainId
  nonce : U64
  payloadDigest : PayloadDigest

def hexDigit (n : ℕ) : Char := ("0123456789abcdef".toList)[n]?.getD '0'

def hexLower (bytes : List UInt8) : String :=
  String.ofList (bytes.flatMap fun b => [hexDigit (b.toNat / 16), hexDigit (b.toNat % 16)])

def SigningRequest.providerIdempotencyId (r : SigningRequest) : String :=
  "pep-sign-v1-" ++ hexLower r.requestDigest.asBytes.toList

/-- Binds a signing request. `tradingEnabled` is what the policy engine answers to the live kill
switch, the only thing it is asked here. -/
def SigningRequest.bind [Sha256] (tradingEnabled : Bool) (approval : ApprovedExecution)
    (prepared : PreparedExecutionRef) (intent : TradeIntent) (route : RoutePlan)
    (preview : ExecutionPreview) (payloadDigest : PayloadDigest) (nowMs : I64) :
    Except PrivyError SigningRequest := do
  ensure (intent.id = approval.intentId ∧ intent.id = preview.intentId) .approvalBindingMismatch
  ensure (intent.walletRef = approval.walletRef ∧ intent.chain = approval.chain ∧
    intent.chain = preview.chain) .approvalBindingMismatch
  ensure (intent.idempotencyKey = approval.idempotencyKey ∧
    intent.idempotencyKey = prepared.idempotencyKey ∧ prepared.intentId = intent.id)
    .approvalBindingMismatch
  ensure (preview.tokenIn = intent.tokenIn ∧ preview.tokenOut = intent.tokenOut ∧
    preview.side = intent.side) .previewRevalidationFailed
  ensure (tradingEnabled = true) .tradingDisabled
  ensure (∀ expires ∈ approval.expiresAtMs, nowMs < expires) .approvalExpired
  (preview.validate intent route nowMs).mapError fun _ => .previewRevalidationFailed
  ensure (payloadDigest.isZero = false) .missingPayloadDigest
  let routeDigest ← computeRouteDigest route
  let intentDigest ← computeIntentDigest intent
  let requestDigest ← computeRequestDigest approval prepared intent preview payloadDigest routeDigest
    intentDigest
  return ⟨requestDigest, intent.id, intent.idempotencyKey, intent.walletRef, intent.chain,
    intent.nonce, payloadDigest⟩

lemma SigningRequest.bind_spec [Sha256] {enabled : Bool} {approval : ApprovedExecution}
    {prepared : PreparedExecutionRef} {intent : TradeIntent} {route : RoutePlan}
    {preview : ExecutionPreview} {payloadDigest : PayloadDigest} {nowMs : I64} {r : SigningRequest}
    (h : SigningRequest.bind enabled approval prepared intent route preview payloadDigest nowMs =
      .ok r) :
    r.intentId = intent.id ∧ r.idempotencyKey = intent.idempotencyKey ∧ r.chain = intent.chain ∧
      r.payloadDigest = payloadDigest := by
  simp only [SigningRequest.bind, ensure_ok] at h
  obtain ⟨-, -, -, -, -, -, h⟩ := h
  obtain ⟨_, -, h⟩ := bind_ok.1 h
  obtain ⟨-, h⟩ := ensure_ok.1 h
  obtain ⟨_, -, h⟩ := bind_ok.1 h
  obtain ⟨_, -, h⟩ := bind_ok.1 h
  obtain ⟨_, -, h⟩ := bind_ok.1 h
  cases h
  exact ⟨rfl, rfl, rfl, rfl⟩

end PrivateExecution
