import PrivateExecution.Preview.Bridge
import PrivateExecution.Policy.Engine

/-!
# The pre-sign revalidation gate

`revalidate_pre_sign` (`execution-preview/src/revalidation.rs`) is the last local check before a trade
is signed. It re-reads every trusted fact, the approval, the recipient, the allowlists, the route,
the freshness of route, wallet and allowance, the tax, the balance, the allowance and the minimum
output, and only then lets the bridge build the preview.
-/

namespace PrivateExecution

structure WalletBalance where
  walletRef : WalletRef
  chain : ChainId
  asset : AssetId
  available : AtomicAmount
  freshness : Freshness

structure AllowanceState where
  walletRef : WalletRef
  chain : ChainId
  asset : AssetId
  spenderRef : String
  amount : AtomicAmount
  freshness : Freshness

inductive AllowanceObservation where
  | notRequired
  | required (state : AllowanceState)

def AllowanceObservation.state : AllowanceObservation → Option AllowanceState
  | .notRequired => none
  | .required state => some state

structure RouteLegRef where
  venue : String
  poolRef : String
  tokenIn : AssetId
  tokenOut : AssetId
deriving DecidableEq

/-- The structural identity of a route. -/
structure RouteBinding where
  legs : List RouteLegRef
deriving DecidableEq

def RouteBinding.fromRoute (route : RoutePlan) : RouteBinding :=
  ⟨route.legs.map fun leg => ⟨leg.venue, leg.poolRef, leg.tokenIn, leg.tokenOut⟩⟩

structure RevalidationInput where
  intent : TradeIntent
  approval : Option ApprovedExecution
  policyLimits : PolicyLimits
  allowedPrograms : List String
  tradingEnabled : Bool
  nowMs : I64
  freshnessPolicy : FreshnessPolicy
  route : RoutePlan
  netDelta : NetDelta
  basisAssessment : TaxAssessment
  taxObservation : Option TaxObservation
  approvedRouteBinding : RouteBinding
  minOut : AssetAmount
  walletBalance : WalletBalance
  allowance : AllowanceObservation

inductive RevalidationReason where
  | tradingDisabled | approvalMissing | approvalBindingMismatch | policyExpired | recipientMismatch
  | venueNotAllowlisted | programNotAllowlisted | selectedRouteMismatch | stateRegression
  | staleState | resyncRequired | taxObservationStale | taxChanged | taxCapExceeded
  | tokenNotSellable | missingTaxObservation | insufficientBalance | insufficientAllowance
  | allowanceSpenderMismatch | missingAllowanceObservation | minOutNotMet | amountPolicyViolation
  | unsupportedAmountType | netDeltaInconsistent | domainInvalid | bridgeInvalid

/-- Why a revalidation is aborted. The gate answers `Valid` with the preview, or one of these. -/
inductive RevalidationAbort where
  | requote (reason : RevalidationReason)
  | final (reason : RevalidationReason)

/-! ### Helpers of the gate -/

def expectedSpenderRef (binding : RouteBinding) (chain : ChainId) : Option String :=
  binding.legs.head?.map fun first => if chain = .solana then first.poolRef else first.venue

def classifyFreshness (policy : FreshnessPolicy) (freshness : Freshness) (nowMs : I64) :
    Option FreshnessStatus :=
  if freshness.sequence.val = 0 then some .resyncRequired
  else evaluateFreshness policy freshness.observedAtMs nowMs false

def requireFresh : Option FreshnessStatus → Except RevalidationAbort Unit
  | some .fresh => .ok ()
  | some .stale => .error (.requote .staleState)
  | some .resyncRequired => .error (.final .resyncRequired)
  | none => .error (.final .stateRegression)

def mapTaxError : TaxSafetyError → RevalidationAbort
  | .missingObservation => .final .missingTaxObservation
  | .staleObservation | .freshnessEvaluationFailed => .requote .taxObservationStale
  | .resyncRequired => .final .resyncRequired
  | .tokenNotSellable => .final .tokenNotSellable
  | .buyTaxExceedsCap | .sellTaxExceedsCap => .final .taxCapExceeded
  | .invalidTradeIntent _ | .invalidTaxObservation _ | .chainMismatch | .assessedAssetMismatch
  | .buySimulationFailed | .sellSimulationFailed | .zeroGrossOutput | .zeroNetOutput
  | .zeroGrossInput | .zeroNetInput => .final .domainInvalid

def mapBridgeError : BridgeError → RevalidationAbort
  | .netDeltaInconsistent _ => .final .netDeltaInconsistent
  | .freshnessUnavailable => .requote .staleState
  | .taxCapExceeded => .final .taxCapExceeded
  | .domain .staleMarketState => .requote .staleState
  | .domain .resyncRequired => .final .resyncRequired
  | .domain .limitPriceViolated => .requote .minOutNotMet
  | .domain (.inconsistentNetEconomics _) => .requote .amountPolicyViolation
  | .domain .unsupportedAmountType => .final .unsupportedAmountType
  | .domain _ => .final .domainInvalid
  | .assessedAssetMismatch | .assessmentDeltaMismatch | .chainMismatch | .inputAssetMismatch
  | .outputAssetMismatch | .directionMismatch => .final .domainInvalid

/-! ### The gate -/

namespace RevalidationInput

variable (i : RevalidationInput)

/-- Step 1: the approval is there, binds the intent and has not expired. -/
def checkApproval : Except RevalidationAbort Unit := do
  let approval ← okOr i.approval (.final .approvalMissing)
  ensure (approval.intentId = i.intent.id ∧ approval.walletRef = i.intent.walletRef ∧
    approval.chain = i.intent.chain ∧ approval.idempotencyKey = i.intent.idempotencyKey)
    (.final .approvalBindingMismatch)
  ensure (∀ expires ∈ approval.expiresAtMs, i.nowMs < expires) (.final .policyExpired)

/-- Step 2: every snapshot is one of the intent's wallet on the intent's chain. -/
def checkRecipient : Except RevalidationAbort Unit := do
  ensure (i.walletBalance.walletRef = i.intent.walletRef ∧ i.walletBalance.chain = i.intent.chain)
    (.final .recipientMismatch)
  i.taxObservation.forM fun o =>
    ensure (o.walletRef = i.intent.walletRef ∧ o.chain = i.intent.chain) (.final .recipientMismatch)
  i.allowance.state.forM fun a =>
    ensure (a.walletRef = i.intent.walletRef ∧ a.chain = i.intent.chain) (.final .recipientMismatch)

def checkAllowlists : Except RevalidationAbort Unit := do
  ensure (i.policyLimits.allowedVenues = [] ∨
    ∀ leg ∈ i.route.legs, leg.venue ∈ i.policyLimits.allowedVenues) (.final .venueNotAllowlisted)
  ensure (∀ leg ∈ i.route.legs, leg.tokenIn.chain = .solana ∨ leg.tokenOut.chain = .solana →
    leg.poolRef ∈ i.allowedPrograms) (.final .programNotAllowlisted)
  i.taxObservation.forM fun o =>
    if o.chain = .solana then ensure (o.routerRef ∈ i.allowedPrograms) (.final .programNotAllowlisted)
    else ensure (expectedSpenderRef i.approvedRouteBinding i.intent.chain = some o.routerRef)
      (.final .allowanceSpenderMismatch)

/-- Steps 4 and 5: the route is the approved one, and route, wallet and allowance are fresh. -/
def checkState : Except RevalidationAbort Unit := do
  ensure (RouteBinding.fromRoute i.route = i.approvedRouteBinding) (.requote .selectedRouteMismatch)
  requireFresh (classifyFreshness i.freshnessPolicy i.route.state i.nowMs)
  requireFresh (classifyFreshness i.freshnessPolicy i.walletBalance.freshness i.nowMs)
  i.allowance.state.forM fun a => requireFresh (classifyFreshness i.freshnessPolicy a.freshness i.nowMs)

/-- Step 6: the tax is assessed again and has not changed. -/
def reassess : Except RevalidationAbort TaxAssessment := do
  let observation ← okOr i.taxObservation (.final .missingTaxObservation)
  let fresh ← (evaluateTaxSafety i.intent (some observation) i.nowMs i.freshnessPolicy).mapError
    mapTaxError
  ensure (fresh.buyTax = i.basisAssessment.buyTax ∧ fresh.sellTax = i.basisAssessment.sellTax)
    (.requote .taxChanged)
  return fresh

/-- Steps 7 and 8: balance and allowance cover the wallet debit. -/
def checkFunds : Except RevalidationAbort Unit := do
  ensure (i.walletBalance.asset = i.netDelta.netInput.asset) (.final .stateRegression)
  ensure (i.netDelta.netInput.amount ≤ i.walletBalance.available) (.requote .insufficientBalance)
  i.allowance.state.forM fun a => do
    ensure (expectedSpenderRef i.approvedRouteBinding i.intent.chain = some a.spenderRef)
      (.final .allowanceSpenderMismatch)
    ensure (a.asset = i.netDelta.netInput.asset) (.final .stateRegression)
    ensure (i.netDelta.netInput.amount ≤ a.amount) (.requote .insufficientAllowance)

/-- Step 9: the minimum output and the slippage floor. -/
def checkMinOut : Except RevalidationAbort Unit := do
  ensure (i.minOut.asset = i.intent.tokenOut) (.final .minOutNotMet)
  ensure (i.minOut.amount ≤ i.netDelta.netOutput.amount) (.requote .minOutNotMet)
  ensure (cmpU128Products i.minOut.amount.val 10000 i.route.expectedNetOutput.amount.val
    (10000 - i.intent.risk.maxSlippage.get) ≠ .lt) (.final .amountPolicyViolation)

end RevalidationInput

def revalidatePreSign (i : RevalidationInput) : Except RevalidationAbort ExecutionPreview := do
  ensure (i.tradingEnabled = true) (.final .tradingDisabled)
  i.checkApproval
  i.checkRecipient
  i.checkAllowlists
  i.checkState
  let fresh ← i.reassess
  i.checkFunds
  i.checkMinOut
  (validateDeltaPreviewWithAssessment i.intent i.route i.netDelta fresh i.nowMs).mapError mapBridgeError

end PrivateExecution
