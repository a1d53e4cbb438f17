import PrivateExecution.Domain.Preview

/-!
# Split plans

A trade that is spread over parallel routes (`domain/src/lib.rs`, `SplitPlan`) and the validation of a
preview against it (`domain/src/execution_preview.rs`, `validate_split`). The plan is checked branch by
branch; the pools, the output sum and the oldest market state are carried from one branch to the next.
-/

namespace PrivateExecution

def maxSplitLegs : ℕ := 5

structure SplitLeg where
  amountIn : AtomicAmount
  route : RoutePlan

structure SplitPlan where
  legs : List SplitLeg
  expectedNetOutput : AssetAmount
  state : Freshness

structure SplitTotals where
  outputSum : U128
  observedMin : I64
  sequenceMin : Option U64
  usedPools : List String

def I64.max : I64 := ⟨2 ^ 63 - 1, by decide⟩

def SplitTotals.start : SplitTotals := ⟨.zero, .max, none, []⟩

/-- The route legs of a branch are on the chain of the intent and use no pool again. -/
def checkPools (chain : ChainId) : List RouteLeg → List String → Except DomainError (List String)
  | [], used => .ok used
  | leg :: rest, used => do
    ensure (leg.tokenIn.chain = chain ∧ leg.tokenOut.chain = chain) .chainMismatch
    ensure (leg.poolRef ∉ used) .splitPoolReused
    checkPools chain rest (used ++ [leg.poolRef])

def SplitLeg.check (intent : TradeIntent) (totals : SplitTotals) (leg : SplitLeg) :
    Except DomainError SplitTotals := do
  ensure (leg.amountIn.val ≠ 0) .zeroTradeAmount
  leg.route.validate
  match leg.route.legs.head?, leg.route.legs.getLast? with
  | some first, some last => do
    ensure (first.tokenIn = intent.tokenIn ∧ last.tokenOut = intent.tokenOut) .splitLegTokenMismatch
    let usedPools ← checkPools intent.chain leg.route.legs totals.usedPools
    ensure (legsFunded leg.route.legs) .splitLegUnmodeledFunding
    ensure (leg.route.expectedNetOutput.asset = intent.tokenOut) .splitOutputAssetMismatch
    ensure (first.amountIn ≤ leg.amountIn) .splitLegUnmodeledFunding
    let outputSum ← okOr (totals.outputSum.checkedAdd leg.route.expectedNetOutput.amount)
      .splitOutputOverflow
    let observed := leg.route.state.observedAtMs
    let sequence := leg.route.state.sequence
    return {
      outputSum := outputSum
      observedMin := if observed < totals.observedMin then observed else totals.observedMin
      sequenceMin := some (totals.sequenceMin.elim sequence fun current =>
        if current ≤ sequence then current else sequence)
      usedPools := usedPools }
  | _, _ => .error .emptyRoute

def SplitPlan.validate (split : SplitPlan) (intent : TradeIntent) : Except DomainError Unit := do
  ensure (split.legs ≠ []) .emptySplitPlan
  ensure (split.legs.length ≤ maxSplitLegs) .splitLegCountExceeded
  let totals ← split.legs.foldlM (SplitLeg.check intent) SplitTotals.start
  ensure (intent.tokenIn ≠ intent.tokenOut) .sameAssetPair
  ensure (split.expectedNetOutput.asset = intent.tokenOut ∧
    split.expectedNetOutput.amount = totals.outputSum) .splitOutputConservationViolated
  ensure (split.expectedNetOutput.amount.val ≠ 0) .zeroTradeAmount
  ensure (0 < split.state.observedAtMs.val) .staleMarketState
  ensure (split.state.sequence.val ≠ 0) .resyncRequired
  let expectedSequence ← okOr totals.sequenceMin .emptySplitPlan
  ensure (split.state.observedAtMs = totals.observedMin ∧ split.state.sequence = expectedSequence)
    .splitStateMismatch

def SplitPlan.inputSum {ε : Type} (e : ε) (legs : List SplitLeg) : Except ε U128 :=
  legs.foldlM (fun total leg => okOr (total.checkedAdd leg.amountIn) e) Unsigned.zero

def ExecutionPreview.validateSplit (p : ExecutionPreview) (intent : TradeIntent) (split : SplitPlan)
    (nowMs : I64) : Except DomainError Unit := do
  intent.validate nowMs
  split.validate intent
  p.validateInternal
  ensure (p.intentId = intent.id) .intentIdMismatch
  ensure (p.chain = intent.chain) .chainMismatch
  ensure (p.tokenIn = intent.tokenIn) .inputAssetMismatch
  ensure (p.tokenOut = intent.tokenOut) .outputAssetMismatch
  ensure (p.side = intent.side) .tradeSideMismatch
  let inputSum ← SplitPlan.inputSum .splitInputConservationViolated split.legs
  ensure (inputSum = p.simulatedNetInput.amount) .splitInputConservationViolated
  ensure (split.expectedNetOutput = p.simulatedNetOutput) .splitOutputConservationViolated
  p.localStateFreshness.require
  validateRouteFreshness split.state nowMs
  p.validateAmounts intent
  intent.limitPrice.forM fun limit => do
    let satisfied ← p.satisfiesLimitPrice limit
    ensure (satisfied = true) .limitPriceViolated

end PrivateExecution
