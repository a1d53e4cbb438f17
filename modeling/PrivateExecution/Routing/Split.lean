import PrivateExecution.Async.Call
import PrivateExecution.Preview.Aggregate
import PrivateExecution.Routing.Score

/-!
# Split routes

The split optimizer (`routing/src/split.rs`). It quotes all single paths, searches the best allocation
between two pool-disjoint ones of the best, extends the best two-path split by further paths, and returns
the verified splits, best first. Every quote is charged to a budget that all searches share.
-/

namespace PrivateExecution.Routing

open Collections Async

def minSplitLegs : ℕ := 2
def maxSplitPairs : ℕ := 8
def splitGridSteps : ℕ := 8
def maxSplitRefineSteps : ℕ := 16
def maxSplitQuotes : ℕ := 2048

/-! ### Configuration -/

structure SplitUsdConversion where
  inputAsset : AssetId
  usdMicrosPerAtomic : PriceRatio

structure SplitConfig where
  minSplitImprovementBps : Bps
  minLegInput : AtomicAmount
  minLegOutput : AtomicAmount
  minLegUsdMicros : U64
  usdConversion : Option SplitUsdConversion
  maxLegs : ℕ

def SplitConfig.validate (config : SplitConfig) (intent : TradeIntent) : Except RoutingError Unit := do
  ensure (¬(config.maxLegs < minSplitLegs ∨ maxSplitLegs < config.maxLegs)) .unsupportedSplitLegCount
  ensure (¬(config.minLegInput.val = 0 ∨ config.minLegOutput.val = 0)) .invalidSplitConfig
  if 0 < config.minLegUsdMicros.val then do
    let conversion ← okOr config.usdConversion .invalidSplitConfig
    ensure (conversion.inputAsset = intent.tokenIn) .invalidSplitConfig
  else .ok ()

/-! ### Quotes on a budget -/

/-- What has been charged, and how many paths have been quoted. -/
structure Meter where
  used : ℕ
  quoted : ℕ

abbrev Search (A : Type) : Type := Call Meter RoutingError A

def chargeBudget : Search Unit := do
  let meter ← Call.read
  Call.write { meter with used := meter.used + 1 }
  Call.check (ensure (meter.used + 1 ≤ maxSplitQuotes) .splitBudgetExceeded)

def countQuote : Search Unit := do
  let meter ← Call.read
  Call.write { meter with quoted := meter.quoted + 1 }

/-- The request of a branch. Depth never changes a branch. -/
def RouteRequest.branch (req : RouteRequest) (budget : ℕ) : RouteRequest :=
  { req with amountIn := .lit budget, depthTargets := [] }

def tryQuoteBranch (req : RouteRequest) (path : CandidatePath) (budget : ℕ) : Search (Option RouteQuote) := do
  chargeBudget
  countQuote
  match quotePath (req.branch budget) req.descriptors path with
  | .ok quote => return some quote
  | .error .splitBudgetExceeded => Call.check (.error .splitBudgetExceeded)
  | .error _ => return none

/-! ### Gates -/

def passesDust (config : SplitConfig) (budget : ℕ) (quote : RouteQuote) : Except RoutingError Bool :=
  if budget < config.minLegInput.val then .ok false
  else if quote.netOutput.amount < config.minLegOutput then .ok false
  else if 0 < config.minLegUsdMicros.val then do
    let conversion ← okOr config.usdConversion .invalidSplitConfig
    let usd ← okOr (mulDivFloor (.lit budget) conversion.usdMicrosPerAtomic.numeratorAtomic
      conversion.usdMicrosPerAtomic.denominatorAtomic) .invalidSplitConfig
    return decide (config.minLegUsdMicros.val ≤ usd.val)
  else .ok true

def splitImproves (split single : U128) (bps : Bps) : Bool :=
  cmpU128Products split.val 10000 single.val (10000 + bps.get) = .gt

/-! ### Candidates -/

structure SplitLegQuote where
  amountIn : AtomicAmount
  quote : RouteQuote

structure SplitQuote where
  split : SplitPlan
  netDelta : NetDelta
  legs : List SplitLegQuote
  grossOutput : AssetAmount
  netOutput : AssetAmount
  taxCost : Option AssetAmount
  dexFee : Option AssetAmount
  score : RouteScore
  canonicalKey : List LegKey

def splitPrimaryNet (candidate : SplitQuote) (gasPriceInOutput : Option GasConversion) :
    Except RoutingError U128 := do
  let net ← netAfterGas candidate.netOutput candidate.score.gasCost gasPriceInOutput
  return net.getD candidate.netOutput.amount

structure Branch where
  budget : ℕ
  quote : RouteQuote

variable (quotes : List RouteQuote)

def aggregateState : Except RoutingError Freshness := do
  let oldest := quotes.foldl (fun o q => o.add q.plan.state.observedAtMs q.plan.state.sequence) OldestState.start
  let sequence ← okOr oldest.sequenceMin (.internal "split has no branches")
  return ⟨oldest.observedMin, .zero, sequence⟩

def addGas (total : Option AssetAmount) (cost : AssetAmount) : Option AssetAmount :=
  match total with
  | none => some cost
  | some current =>
    if current.asset = cost.asset then (current.amount.checkedAdd cost.amount).map (⟨current.asset, ·⟩)
    else none

def splitGasFrom (req : RouteRequest) :
    Option AssetAmount → List RouteQuote → Except RoutingError (Option AssetAmount)
  | total, [] => .ok total
  | total, quote :: rest => do
    match ← estimateGasCost req quote.plan.legs.length with
    | none => return none
    | some cost =>
      match addGas total cost with
      | none => return none
      | some sum => splitGasFrom req (some sum) rest

def splitGasCost (req : RouteRequest) (quotes : List RouteQuote) : Except RoutingError (Option AssetAmount) :=
  splitGasFrom req none quotes

def splitImpact : Bps :=
  quotes.foldl (fun impact quote =>
    match quote.routeImpactBps with
    | some branchImpact => if branchImpact ≤ impact then impact else branchImpact
    | none => impact) (.lit 0)

def buildSplitScore (req : RouteRequest) (quotes : List RouteQuote) (aggregate : NetDelta)
    (split : SplitPlan) :
    Except RoutingError RouteScore := do
  let gasCost ← splitGasCost req quotes
  let score : RouteScore := {
    grossOutput := aggregate.grossOutput
    simulatedNetOutput := aggregate.netOutput
    taxCost := aggregate.taxCost
    dexFee := aggregate.dexFee
    providerFee := none
    gasCost := gasCost
    priceImpact := splitImpact quotes
    expectedSlippage := req.scoring.expectedSlippageBps
    mevRisk := req.scoring.mevRiskBps
    failureProbability := req.scoring.failureProbabilityBps
    stateAgeMs := stateAge req.nowMs split.state.observedAtMs
    providerReliability := req.scoring.providerReliabilityBps
    latencyMs := req.scoring.latencyMs }
  validateScore req.intent score
  return score

/-- Every branch passes the dust gate; the first that does not ends the loop. -/
def allPassDust (config : SplitConfig) : List Branch → Except RoutingError Bool
  | [] => .ok true
  | branch :: rest => do
    if ← passesDust config branch.budget branch.quote then allPassDust config rest else return false

def outputSum : Option U128 :=
  quotes.foldlM (fun total quote => total.checkedAdd quote.plan.expectedNetOutput.amount) Unsigned.zero

/-- The candidate made of the branches, whose aggregate and plan have been checked. -/
def splitQuoteOf (legs : List Branch) (aggregate : NetDelta) (split : SplitPlan) (score : RouteScore) :
    SplitQuote where
  split := split
  netDelta := aggregate
  legs := legs.map fun branch => ⟨.lit branch.budget, branch.quote⟩
  grossOutput := aggregate.grossOutput
  netOutput := aggregate.netOutput
  taxCost := aggregate.taxCost
  dexFee := aggregate.dexFee
  score := score
  canonicalKey := split.legs.flatMap fun leg => canonicalKey leg.route.legs

def buildSplitQuote (req : RouteRequest) (legs : List Branch) (config : SplitConfig) :
    Except RoutingError (Option SplitQuote) := do
  if legs.length < minSplitLegs ∨ maxSplitLegs < legs.length then return none
  if !(← allPassDust config legs) then return none
  let quotes := legs.map (·.quote)
  match NetDelta.aggregate (quotes.map (·.netDelta)), outputSum quotes with
  | .ok aggregate, some sum => do
    let expectedNetOutput : AssetAmount := ⟨req.intent.tokenOut, sum⟩
    if expectedNetOutput ≠ aggregate.netOutput then return none
    let state ← aggregateState quotes
    let split : SplitPlan :=
      ⟨legs.map fun branch => ⟨.lit branch.budget, branch.quote.plan⟩, expectedNetOutput, state⟩
    if (split.validate req.intent).toBool = false then return none
    let score ← buildSplitScore req quotes aggregate split
    return some (splitQuoteOf legs aggregate split score)
  | _, _ => return none

end PrivateExecution.Routing
