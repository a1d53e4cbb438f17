import PrivateExecution.Market.Pool
import PrivateExecution.Domain.Split
import PrivateExecution.Preview.Bridge

/-!
# Routing requests

What the route planner is given and what it answers with (`routing/src/lib.rs`, `label.rs`,
`graph.rs`, `quote.rs`, `score.rs`, `error.rs`): pools with the labels that end up in a route, the
request, the quote of one path with its hops, and the errors.
-/

namespace PrivateExecution.Routing

/-! ### Limits -/

def maxRouteHops : ℕ := 2
def maxPoolsScanned : ℕ := 256
def maxBridgeAssets : ℕ := 32
def maxRouteCandidates : ℕ := 64

/-! ### Errors -/

inductive PoolKindClass where
  | cpmm | clmm | bin
deriving DecidableEq

inductive BridgeRejectClass where
  | domain | netDeltaInconsistent | direction | chain | inputAsset | outputAsset | assessedAsset
  | assessmentDelta | taxCap | freshness
deriving DecidableEq

def BridgeRejectClass.fromBridgeError : BridgeError → BridgeRejectClass
  | .domain _ => .domain
  | .netDeltaInconsistent _ => .netDeltaInconsistent
  | .directionMismatch => .direction
  | .chainMismatch => .chain
  | .inputAssetMismatch => .inputAsset
  | .outputAssetMismatch => .outputAsset
  | .assessedAssetMismatch => .assessedAsset
  | .assessmentDeltaMismatch => .assessmentDelta
  | .taxCapExceeded => .taxCap
  | .freshnessUnavailable => .freshness

inductive RoutingError where
  | domain (e : DomainError)
  | tax (e : TaxSafetyError)
  | noViableRoute | taxAssessmentRequired | staleState | stalePoolState | resyncRequired
  | unsupportedPoolKind | minAmountOutExceedsQuote | unsupportedBinTaxComposition
  | inputConservationViolated | budgetExceeded | sameAssetPair | unsupportedHopCount | emptyPoolSet
  | poolChainMismatch | poolStateInvalid | poolSetTooLarge | invalidVenueLabel | invalidPoolRef
  | taxAssessmentNotFresh | taxAssessmentMismatch | zeroNetOutput | gasConversionFailed
  | gasChainMismatch | impactUnavailable | impactExceedsCap | zeroHopOutput | amountOverflow
  | hopSimulationFailed (kind : PoolKindClass)
  | scoreInconsistent (reason : String)
  | selectedRejected (reason : BridgeRejectClass)
  | internal (reason : String)
  | unsupportedSplitLegCount | invalidSplitConfig | splitBudgetExceeded
deriving DecidableEq

/-! ### Pools -/

/-- What `validate_label` checks: at most 64 bytes, printable ASCII without blanks. -/
def isLabel (value : String) : Bool :=
  !value.isEmpty && decide (value.utf8ByteSize ≤ 64) &&
    value.toList.all fun c => decide (0x21 ≤ c.toNat ∧ c.toNat ≤ 0x7e)

@[ext] structure Label where
  asStr : String
  /-- What `new` checks. -/
  valid : isLabel asStr = true

def Label.lit (value : String) : Label :=
  if h : isLabel value = true then ⟨value, h⟩ else ⟨"?", by decide⟩

@[ext] structure PoolDescriptor where
  envelope : PoolStateEnvelope
  venue : Label
  legPoolRef : Label
  impactOverrideBps : Option Bps

structure CandidateLeg where
  /-- The position of the pool in the request. -/
  descriptorIndex : ℕ
  tokenIn : AssetId
  tokenOut : AssetId

structure CandidatePath where
  legs : List CandidateLeg

structure CandidateSet where
  paths : List CandidatePath
  truncated : Bool

/-! ### The request -/

structure ScoringInputs where
  expectedSlippageBps : Bps
  mevRiskBps : Bps
  failureProbabilityBps : Bps
  providerReliabilityBps : Bps
  latencyMs : U64

abbrev GasEstimator : Type := ChainId → ℕ → Except RoutingError AssetAmount

structure GasConversion where
  gasAsset : AssetId
  outputAsset : AssetId
  ratio : PriceRatio

structure RouteRequest where
  intent : TradeIntent
  descriptors : List PoolDescriptor
  amountIn : AtomicAmount
  assessment : TaxAssessment
  maxHops : ℕ
  nowMs : I64
  freshnessPolicy : FreshnessPolicy
  scoring : ScoringInputs
  gas : Option GasEstimator
  gasPriceInOutput : Option GasConversion
  depthTargets : List Bps

/-! ### Quotes -/

structure HopQuote where
  venue : String
  poolRef : String
  tokenIn : AssetId
  tokenOut : AssetId
  amountIn : AtomicAmount
  amountOut : AtomicAmount
  fee : Option AssetAmount
  kind : PoolKindClass
  impactBps : Option Bps

structure RouteQuote where
  plan : RoutePlan
  netDelta : NetDelta
  hopQuotes : List HopQuote
  grossOutput : AssetAmount
  netOutput : AssetAmount
  taxCost : Option AssetAmount
  routeImpactBps : Option Bps

end PrivateExecution.Routing
