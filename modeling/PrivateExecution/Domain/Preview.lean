import PrivateExecution.Domain.Intent

/-!
# Execution previews

The simulated outcome of a route that an intent is bound to before signing
(`domain/src/execution_preview.rs`). `ExecutionPreview.validate` re-runs the whole deterministic
check: internal economics, binding to the intent, binding to the route, freshness, total cost,
fill policy and the exact net limit price.
-/

namespace PrivateExecution

/-! ### Freshness -/

inductive FreshnessStatus where
  | fresh | stale | resyncRequired
deriving DecidableEq

structure FreshnessPolicy where
  maxStalenessMs : ℕ
  maxFutureSkewMs : ℕ

def FreshnessPolicy.default : FreshnessPolicy := ⟨10000, 2000⟩

def FreshnessPolicy.isValid (p : FreshnessPolicy) : Bool :=
  1 ≤ p.maxStalenessMs && p.maxStalenessMs ≤ 86400000 && p.maxFutureSkewMs ≤ 300000

/-- The status of data observed at `observed` and evaluated at `evaluated`; `none` is an invalid
policy or timestamp. Of the metadata only the status is read. -/
def evaluateFreshness (policy : FreshnessPolicy) (observed evaluated : I64) (gap : Bool) :
    Option FreshnessStatus :=
  if policy.isValid = false ∨ observed.val ≤ 0 ∨ evaluated.val ≤ 0 then none
  else if gap then some .resyncRequired
  else if evaluated < observed then
    some (if policy.maxFutureSkewMs < observed.val - evaluated.val then .resyncRequired else .fresh)
  else some (if policy.maxStalenessMs < evaluated.val - observed.val then .stale else .fresh)

/-- What a freshness status means for an execution. -/
def FreshnessStatus.require : FreshnessStatus → Except DomainError Unit
  | .fresh => .ok ()
  | .stale => .error .staleMarketState
  | .resyncRequired => .error .resyncRequired

/-! ### Wide products -/

/-- The 256-bit product of two 128-bit numbers, high half first, by 64-bit limbs. -/
def mulU128Wide (a b : ℕ) : ℕ × ℕ :=
  let aLo := a % 2 ^ 64
  let aHi := a / 2 ^ 64
  let bLo := b % 2 ^ 64
  let bHi := b / 2 ^ 64
  let p0 := aLo * bLo
  let p1 := aLo * bHi
  let p2 := aHi * bLo
  let p3 := aHi * bHi
  let mid1 := p1 + p0 / 2 ^ 64
  let mid := (mid1 + p2) % 2 ^ 128
  let carry := if 2 ^ 128 ≤ mid1 + p2 then 2 ^ 64 else 0
  (p3 + mid / 2 ^ 64 + carry, p0 % 2 ^ 64 + (mid % 2 ^ 64) * 2 ^ 64)

def cmpU128Products (a b c d : ℕ) : Ordering :=
  (compare (mulU128Wide a b).1 (mulU128Wide c d).1).then
    (compare (mulU128Wide a b).2 (mulU128Wide c d).2)

/-! ### Cost components -/

structure ExecutionCostComponents where
  gasCost : Option AssetAmount
  dexFee : Option AssetAmount
  providerFee : Option AssetAmount
  taxCost : Option AssetAmount
deriving DecidableEq

/-- One cost component: non-zero and on the chain of the pair. -/
def validateCost (chain : ChainId) (cost : AssetAmount) : Except DomainError Unit := do
  ensure (cost.amount.val ≠ 0) .zeroCostComponent
  ensure (cost.asset.chain = chain) .chainMismatch

/-- A cost component that must also be denominated in one of the two tokens. -/
def validatePairCost (chain : ChainId) (tokenIn tokenOut : AssetId) (reason : String)
    (cost : AssetAmount) : Except DomainError Unit := do
  validateCost chain cost
  ensure (cost.asset = tokenIn ∨ cost.asset = tokenOut) (.inconsistentNetEconomics reason)

def ExecutionCostComponents.validate (c : ExecutionCostComponents) (chain : ChainId)
    (tokenIn tokenOut : AssetId) : Except DomainError Unit := do
  c.gasCost.forM (validateCost chain)
  c.dexFee.forM (validatePairCost chain tokenIn tokenOut
    "dex fee must be denominated in token_in or token_out")
  c.providerFee.forM (validatePairCost chain tokenIn tokenOut
    "provider fee must be denominated in token_in or token_out")
  c.taxCost.forM (validatePairCost chain tokenIn tokenOut
    "tax cost must be denominated in token_in or token_out")

def ExecutionCostComponents.sumForAsset (c : ExecutionCostComponents) (asset : AssetId) :
    Except DomainError U128 :=
  [c.gasCost, c.dexFee, c.providerFee, c.taxCost].foldlM (fun total cost =>
    match cost with
    | some x =>
      if x.asset = asset then
        match total.checkedAdd x.amount with
        | some t => .ok t
        | none => .error (.inconsistentNetEconomics "cost component sum overflowed u128")
      else .ok total
    | none => .ok total) Unsigned.zero

/-! ### Previews -/

/-- A `ValidatedExecutionPreview`
is a preview that once passed `validate`; the code behind the signing boundary re-runs that check
and reads nothing but the preview's own fields. -/
structure ExecutionPreview where
  intentId : IntentId
  chain : ChainId
  tokenIn : AssetId
  tokenOut : AssetId
  side : TradeSide
  simulatedNetInput : AssetAmount
  simulatedNetOutput : AssetAmount
  grossOutput : AssetAmount
  costComponents : ExecutionCostComponents
  localStateFreshness : FreshnessStatus
deriving DecidableEq

variable (p : ExecutionPreview)

def ExecutionPreview.satisfiesLimitPrice (limit : LimitPrice) : Except DomainError Bool := do
  ensure ((limit.numeratorAsset, limit.denominatorAsset) = p.side.priceAssets p.tokenIn p.tokenOut)
    .limitPriceAssetMismatch
  let netIn := p.simulatedNetInput.amount.val
  let netOut := p.simulatedNetOutput.amount.val
  let limitNum := limit.ratio.numeratorAtomic.val
  let limitDen := limit.ratio.denominatorAtomic.val
  match p.side with
  | .buy => return (cmpU128Products netIn limitDen limitNum netOut).isLE
  | .sell => return (cmpU128Products netOut limitDen limitNum netIn).isGE

def ExecutionPreview.validateInternal : Except DomainError Unit := do
  p.intentId.validate
  ensure p.chain.isValid .chainMismatch
  ensure p.tokenIn.isValid .chainMismatch
  ensure p.tokenOut.isValid .chainMismatch
  ensure (p.tokenIn ≠ p.tokenOut) .sameAssetPair
  ensure (p.tokenIn.chain = p.chain ∧ p.tokenOut.chain = p.chain) .chainMismatch
  ensure (p.simulatedNetInput.asset = p.tokenIn) .inputAssetMismatch
  ensure (p.simulatedNetOutput.asset = p.tokenOut) .outputAssetMismatch
  ensure (p.grossOutput.asset = p.tokenOut) .outputAssetMismatch
  ensure (p.simulatedNetInput.amount.val ≠ 0 ∧ p.simulatedNetOutput.amount.val ≠ 0)
    .zeroSimulatedDelta
  ensure (p.grossOutput.amount.val ≠ 0) .zeroSimulatedDelta
  ensure (p.simulatedNetOutput.amount ≤ p.grossOutput.amount)
    (.inconsistentNetEconomics "simulated net output cannot exceed gross output quote")
  p.costComponents.validate p.chain p.tokenIn p.tokenOut
  let outputCosts ← p.costComponents.sumForAsset p.tokenOut
  ensure (outputCosts ≤ p.grossOutput.amount)
    (.inconsistentNetEconomics "output-denominated costs exceed gross output quote")
  match p.simulatedNetOutput.amount.checkedAdd outputCosts with
  | none => .error (.inconsistentNetEconomics "net output and output costs sum overflowed u128")
  | some accounted =>
    ensure (accounted ≤ p.grossOutput.amount)
      (.inconsistentNetEconomics "sum of simulated net output and output costs exceeds gross quote")

/-- Step 4 of `validate`: the preview describes exactly this route. -/
def ExecutionPreview.validateRoute (route : RoutePlan) : Except DomainError Unit :=
  match route.legs.head?, route.legs.getLast? with
  | some first, some last => do
    ensure (first.tokenIn = p.tokenIn) .routeTokenMismatch
    ensure (last.tokenOut = p.tokenOut) .routeOutputAssetMismatch
    ensure (route.expectedNetOutput.asset = p.tokenOut) .routeOutputAssetMismatch
    ensure (route.expectedNetOutput = p.simulatedNetOutput) .routeOutputAmountMismatch
    ensure (∀ leg ∈ route.legs, leg.tokenIn.chain = p.chain ∧ leg.tokenOut.chain = p.chain)
      .chainMismatch
    ensure (first.amountIn ≤ p.simulatedNetInput.amount) .routeUnmodeledFunding
    ensure (legsFunded route.legs) .routeUnmodeledFunding
  | _, _ => .error .emptyRoute

/-- Step 6 of `validate`: the route's market state is fresh. -/
def validateRouteFreshness (state : Freshness) (nowMs : I64) : Except DomainError Unit := do
  ensure (0 < state.observedAtMs.val) .staleMarketState
  ensure (state.sequence.val ≠ 0) .resyncRequired
  match evaluateFreshness .default state.observedAtMs nowMs false with
  | none => .error .staleMarketState
  | some status => status.require

/-- Steps 7 and 8 of `validate`: total cost, amount binding and fill policy. -/
def ExecutionPreview.validateAmounts (intent : TradeIntent) : Except DomainError Unit := do
  intent.risk.maxTotalCost.forM fun maxCost => do
    ensure (p.simulatedNetInput.asset = maxCost.asset) .maxTotalCostAssetMismatch
    ensure (p.simulatedNetInput.amount ≤ maxCost.amount)
      (.inconsistentNetEconomics "simulated net input exceeds intent max_total_cost")
  match intent.amountType with
  | .inputAssetAtomic => do
    ensure (p.simulatedNetInput.amount ≤ intent.amount)
      (.inconsistentNetEconomics "simulated net input exceeds intent amount")
    ensure (intent.allowPartialFill ∨ p.simulatedNetInput.amount = intent.amount)
      (.inconsistentNetEconomics "all-or-nothing intent cannot accept partial simulated input")
  | .outputAssetAtomic | .usdMicros => .error .unsupportedAmountType

def ExecutionPreview.validate (intent : TradeIntent) (route : RoutePlan)
    (nowMs : I64) : Except DomainError Unit := do
  intent.validate nowMs
  route.validate
  p.validateInternal
  ensure (p.intentId = intent.id) .intentIdMismatch
  ensure (p.chain = intent.chain) .chainMismatch
  ensure (p.tokenIn = intent.tokenIn) .inputAssetMismatch
  ensure (p.tokenOut = intent.tokenOut) .outputAssetMismatch
  ensure (p.side = intent.side) .tradeSideMismatch
  p.validateRoute route
  p.localStateFreshness.require
  validateRouteFreshness route.state nowMs
  p.validateAmounts intent
  intent.limitPrice.forM fun limit => do
    let satisfied ← p.satisfiesLimitPrice limit
    ensure (satisfied = true) .limitPriceViolated

end PrivateExecution
