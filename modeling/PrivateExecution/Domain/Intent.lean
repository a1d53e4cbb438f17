import PrivateExecution.Domain.Primitives

/-!
# Trade intents and routes

The canonical trade intent and the route it is executed on (`domain/src/lib.rs`), with the
validation each of them runs. A validator is a sequence of `ensure` steps in the order of the
source, so the first failing check decides the error.
-/

namespace PrivateExecution

/-! ### Errors -/

inductive DomainError where
  | emptyIdentifier (label : String)
  | zeroTradeAmount | sameAssetPair | chainMismatch | unexpectedLimitPrice | missingLimitPrice
  | limitPriceAssetMismatch | expired | expiredStatusBeforeWindow | invalidMaxTotalCost
  | inputAssetMismatch | invalidRemainingInput | invalidMinFill | nonPartialFillMismatch
  | maxTotalCostAssetMismatch | emptyRoute | emptyRouteRef | routeTokenMismatch
  | routeOutputAssetMismatch | routeOutputAmountMismatch | routeUnmodeledFunding
  | invalidObservationWindow | incoherentSellability | emptyProvider | intentIdMismatch
  | outputAssetMismatch | tradeSideMismatch | zeroSimulatedDelta | zeroCostComponent
  | inconsistentNetEconomics (reason : String)
  | staleMarketState | resyncRequired | limitPriceViolated
  | invalidNetPriceDecision (reason : String)
  | unsupportedAmountType | emptySplitPlan | splitLegCountExceeded | splitLegTokenMismatch
  | splitLegUnmodeledFunding | splitOutputAssetMismatch | splitOutputOverflow
  | splitOutputConservationViolated | splitStateMismatch | splitInputConservationViolated
  | splitPoolReused
deriving DecidableEq

def StringId.validate {k : IdKind} (x : StringId k) : Except DomainError Unit :=
  ensure (isBlank x.asStr = false) (.emptyIdentifier k.label)

@[simp] lemma StringId.validate_eq_ok {k : IdKind} (x : StringId k) : x.validate = .ok () :=
  ensure_eq_ok.2 x.notBlank

/-! ### Intents -/

inductive TradeSource where
  | web | mcp | telegram | internal
deriving DecidableEq

inductive TradeSide where
  | buy | sell
deriving DecidableEq

inductive OrderType where
  | market | limit
deriving DecidableEq

inductive AmountType where
  | inputAssetAtomic | outputAssetAtomic | usdMicros
deriving DecidableEq

structure LimitPrice where
  numeratorAsset : AssetId
  denominatorAsset : AssetId
  ratio : PriceRatio
deriving DecidableEq

@[ext] structure RiskConstraints where
  maxBuyTax : Bps
  maxSellTax : Bps
  maxPriceImpact : Bps
  maxSlippage : Bps
  maxTotalCost : Option AssetAmount
deriving DecidableEq

def RiskConstraints.validate (r : RiskConstraints) (tokenIn : AssetId) : Except DomainError Unit :=
  match r.maxTotalCost with
  | none => .ok ()
  | some total => do
    ensure (total.amount.val ≠ 0) .invalidMaxTotalCost
    ensure (total.asset = tokenIn) .maxTotalCostAssetMismatch

/-- The assets of a price quoted for the pair, numerator first: a buy is priced in the input
asset per unit of output, a sell the other way round. -/
def TradeSide.priceAssets (side : TradeSide) (tokenIn tokenOut : AssetId) : AssetId × AssetId :=
  match side with
  | .buy => (tokenIn, tokenOut)
  | .sell => (tokenOut, tokenIn)

structure TradeIntent where
  id : IntentId
  /-- The control plane the intent came from. -/
  source : TradeSource
  userId : UserId
  walletRef : WalletRef
  chain : ChainId
  tokenIn : AssetId
  tokenOut : AssetId
  side : TradeSide
  amountType : AmountType
  amount : AtomicAmount
  orderType : OrderType
  limitPrice : Option LimitPrice
  risk : RiskConstraints
  allowPartialFill : Bool
  expiryMs : Option I64
  nonce : U64
  idempotencyKey : IdempotencyKey

/-- A market buy for an exact input, from which the sample trades are made. -/
def TradeIntent.marketBuy (tokenIn tokenOut : AssetId) (amount : AtomicAmount)
    (risk : RiskConstraints) : TradeIntent where
  id := .lit "intent-1"
  source := .web
  userId := .lit "user-1"
  walletRef := .lit "wallet-1"
  chain := tokenIn.chain
  tokenIn := tokenIn
  tokenOut := tokenOut
  side := .buy
  amountType := .inputAssetAtomic
  amount := amount
  orderType := .market
  limitPrice := none
  risk := risk
  allowPartialFill := false
  expiryMs := none
  nonce := .lit 1
  idempotencyKey := .lit "idem-1"

variable (i : TradeIntent)

def TradeIntent.validateOrderType : Except DomainError Unit :=
  match i.orderType, i.limitPrice with
  | .market, none | .limit, some _ => .ok ()
  | .market, some _ => .error .unexpectedLimitPrice
  | .limit, none => .error .missingLimitPrice

def TradeIntent.validateLimitPrice : Except DomainError Unit :=
  match i.limitPrice with
  | none => .ok ()
  | some price =>
    ensure ((price.numeratorAsset, price.denominatorAsset) =
      i.side.priceAssets i.tokenIn i.tokenOut) .limitPriceAssetMismatch

def TradeIntent.validate (nowMs : I64) : Except DomainError Unit := do
  i.id.validate
  i.userId.validate
  i.walletRef.validate
  i.idempotencyKey.validate
  ensure i.chain.isValid .chainMismatch
  ensure i.tokenIn.isValid .chainMismatch
  ensure i.tokenOut.isValid .chainMismatch
  ensure (i.amount.val ≠ 0) .zeroTradeAmount
  ensure (i.tokenIn ≠ i.tokenOut) .sameAssetPair
  ensure (i.tokenIn.chain = i.chain ∧ i.tokenOut.chain = i.chain) .chainMismatch
  i.validateOrderType
  i.validateLimitPrice
  ensure (∀ expiry ∈ i.expiryMs, nowMs < expiry) .expired
  i.risk.validate i.tokenIn

/-! ### Routes -/

structure RouteLeg where
  venue : String
  poolRef : String
  tokenIn : AssetId
  tokenOut : AssetId
  amountIn : AtomicAmount
  expectedAmountOut : AtomicAmount
deriving DecidableEq

def RouteLeg.validate (l : RouteLeg) : Except DomainError Unit := do
  ensure (isBlank l.venue = false ∧ isBlank l.poolRef = false) .emptyRouteRef
  ensure l.tokenIn.isValid .chainMismatch
  ensure l.tokenOut.isValid .chainMismatch
  ensure (l.tokenIn ≠ l.tokenOut) .sameAssetPair
  ensure (l.amountIn.val ≠ 0 ∧ l.expectedAmountOut.val ≠ 0) .zeroTradeAmount

structure RoutePlan where
  legs : List RouteLeg
  expectedNetOutput : AssetAmount
  state : Freshness
deriving DecidableEq

def legsContiguous : List RouteLeg → Bool
  | a :: b :: rest => decide (a.tokenOut = b.tokenIn) && legsContiguous (b :: rest)
  | _ => true

def legsFunded : List RouteLeg → Bool
  | a :: b :: rest => decide (b.amountIn ≤ a.expectedAmountOut) && legsFunded (b :: rest)
  | _ => true

def RoutePlan.validate (r : RoutePlan) : Except DomainError Unit := do
  ensure (r.legs ≠ []) .emptyRoute
  r.legs.forM RouteLeg.validate
  ensure (legsContiguous r.legs) .routeTokenMismatch
  ensure (r.legs.getLast?.map (·.tokenOut) = some r.expectedNetOutput.asset) .routeOutputAssetMismatch
  ensure (r.expectedNetOutput.amount.val ≠ 0) .zeroTradeAmount

end PrivateExecution
