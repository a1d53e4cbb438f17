import PrivateExecution.Domain.Saturating
import PrivateExecution.Routing.Depth
import PrivateExecution.Routing.Graph
import PrivateExecution.Routing.Quote

/-!
# Scores

Gas, the score of a quoted route and the order of scored routes (`routing/src/score.rs`).
-/

namespace PrivateExecution.Routing

open Collections

/-! ### Gas -/

def estimateGasCost (req : RouteRequest) (hopCount : ℕ) : Except RoutingError (Option AssetAmount) :=
  match req.gas with
  | none => .ok none
  | some estimator => do
    let estimate ← estimator req.intent.chain hopCount
    ensure (estimate.asset.chain = req.intent.chain) .gasChainMismatch
    ensure (∀ conversion ∈ req.gasPriceInOutput, estimate.asset = conversion.gasAsset) .gasConversionFailed
    return nonzero estimate

def netAfterGas (netOutput : AssetAmount) (gasCost : Option AssetAmount)
    (gasPriceInOutput : Option GasConversion) : Except RoutingError (Option U128) :=
  match gasCost, gasPriceInOutput with
  | some gas, some conversion => do
    ensure (gas.asset = conversion.gasAsset ∧ netOutput.asset = conversion.outputAsset) .gasConversionFailed
    let converted ← okOr (mulDivFloor gas.amount conversion.ratio.numeratorAtomic
      conversion.ratio.denominatorAtomic)
      .gasConversionFailed
    return some (netOutput.amount.saturatingSub converted)
  | _, _ => .ok none

/-! ### Scores -/

structure RouteScore where
  grossOutput : AssetAmount
  simulatedNetOutput : AssetAmount
  taxCost : Option AssetAmount
  dexFee : Option AssetAmount
  providerFee : Option AssetAmount
  gasCost : Option AssetAmount
  priceImpact : Bps
  expectedSlippage : Bps
  mevRisk : Bps
  failureProbability : Bps
  stateAgeMs : U64
  providerReliability : Bps
  latencyMs : U64

def validatePairCost (cost : Option AssetAmount) (intent : TradeIntent) (label : String) :
    Except RoutingError Unit :=
  cost.forM fun amount => do
    ensure (amount.amount.val ≠ 0) (.scoreInconsistent label)
    ensure (amount.asset.chain = intent.chain) (.scoreInconsistent label)
    ensure (amount.asset = intent.tokenIn ∨ amount.asset = intent.tokenOut) (.scoreInconsistent label)

def validateScore (intent : TradeIntent) (score : RouteScore) : Except RoutingError Unit := do
  ensure (score.simulatedNetOutput.amount ≤ score.grossOutput.amount)
    (.scoreInconsistent "net output exceeds gross output")
  validatePairCost score.dexFee intent "dex_fee"
  validatePairCost score.taxCost intent "tax_cost"
  validatePairCost score.providerFee intent "provider_fee"
  score.gasCost.forM fun gas =>
    ensure (gas.amount.val ≠ 0 ∧ gas.asset.chain = intent.chain) (.scoreInconsistent "gas_cost")

def stateAge (nowMs observedAtMs : I64) : U64 := .wrap (nowMs.val - observedAtMs.val).toNat

def buildScore (intent : TradeIntent) (quote : RouteQuote) (scoring : ScoringInputs)
    (gasCost : Option AssetAmount) (nowMs : I64) : Except RoutingError RouteScore := do
  let score : RouteScore := {
    grossOutput := quote.grossOutput
    simulatedNetOutput := quote.netOutput
    taxCost := quote.taxCost
    dexFee := quote.netDelta.dexFee
    providerFee := none
    gasCost := gasCost
    priceImpact := quote.routeImpactBps.getD (.lit 0)
    expectedSlippage := scoring.expectedSlippageBps
    mevRisk := scoring.mevRiskBps
    failureProbability := scoring.failureProbabilityBps
    stateAgeMs := stateAge nowMs quote.plan.state.observedAtMs
    providerReliability := scoring.providerReliabilityBps
    latencyMs := scoring.latencyMs }
  validateScore intent score
  return score

structure ScoredRoute where
  quote : RouteQuote
  score : RouteScore

/-! ### The order of scored routes -/

structure DepthRank where
  levels : List DepthLevel
  impactBps : Option Bps

def depthRank (state : PoolKindState) (tokenIn : AssetId) (amountIn : AtomicAmount) (targets : List Bps) :
    Except RoutingError DepthRank := do
  let profile ← depthAtBps state tokenIn amountIn targets
  return ⟨sortBy (fun a b => compare b.targetBps.get a.targetBps.get) profile.levels, profile.tradeImpactBps⟩

/-- A route as it is ranked. -/
structure RankedRoute where
  route : ScoredRoute
  netAfterGas : Option U128
  depth : Option DepthRank

def RankedRoute.primaryNet (r : RankedRoute) : U128 := r.netAfterGas.getD r.route.quote.netOutput.amount

def gasAscending (left right : Option AssetAmount) : Ordering :=
  match left, right with
  | some a, some b => if a.asset = b.asset then compare a.amount.val b.amount.val else .eq
  | _, _ => .eq

def canonicalKey (legs : List RouteLeg) : List LegKey :=
  legs.map fun leg => ⟨leg.venue, leg.poolRef, leg.tokenIn.address, leg.tokenOut.address⟩

def compareAbsorbed (left right : Option AtomicAmount) : Ordering :=
  match left, right with
  | some a, some b => compare b.val a.val
  | some _, none => .lt
  | none, some _ => .gt
  | none, none => .eq

def compareLevels : List (DepthLevel × DepthLevel) → Ordering
  | [] => .eq
  | (left, right) :: rest => (compareAbsorbed left.absorbedIn right.absorbedIn).then (compareLevels rest)

def depthImpactKey (impact : Option Bps) : ℕ × ℕ :=
  match impact with
  | some bps => (0, bps.get)
  | none => (1, 0)

def depthAscending (left right : Option DepthRank) : Ordering :=
  match left, right with
  | some l, some r =>
    (compareLevels (l.levels.zip r.levels)).then
      ((compare (depthImpactKey l.impactBps).1 (depthImpactKey r.impactBps).1).then
        (compare (depthImpactKey l.impactBps).2 (depthImpactKey r.impactBps).2))
  | some _, none => .lt
  | none, some _ => .gt
  | none, none => .eq

def compareScored (left right : RankedRoute) : Ordering :=
  (compare right.primaryNet.val left.primaryNet.val).then <|
    (compare right.route.score.simulatedNetOutput.amount.val left.route.score.simulatedNetOutput.amount.val).then <|
    (gasAscending left.route.score.gasCost right.route.score.gasCost).then <|
    (depthAscending left.depth right.depth).then <|
    (compare left.route.score.failureProbability.get right.route.score.failureProbability.get).then <|
    (compare left.route.quote.plan.legs.length right.route.quote.plan.legs.length).then
    (List.compareLex LegKey.cmp (canonicalKey left.route.quote.plan.legs) (canonicalKey right.route.quote.plan.legs))

end PrivateExecution.Routing
