import PrivateExecution.Routing.Score

/-!
# The single-path planner

`plan_single_path` (`routing/src/lib.rs`) quotes every candidate path, ranks what could be quoted and scored
by `compareScored`, and keeps what the bridge verifies. A failing candidate is dropped; only the score is a
hard error.
-/

namespace PrivateExecution.Routing

open Collections

variable (failures : List RoutingError)

def allAre (e : RoutingError) : Prop := ∀ failure ∈ failures, failure = e

instance (failures : List RoutingError) (e : RoutingError) : Decidable (allAre failures e) :=
  inferInstanceAs (Decidable (∀ failure ∈ failures, failure = e))

def RoutingError.isInternal : RoutingError → Bool
  | .internal _ => true
  | _ => false

/-- The kernel failure that all candidates share, if they do. -/
def sharedHopFailure : RoutingError :=
  match failures with
  | .hopSimulationFailed kind :: _ =>
    if allAre failures (.hopSimulationFailed kind) then .hopSimulationFailed kind else .noViableRoute
  | _ => .noViableRoute

def aggregateFailure : RoutingError :=
  if failures = [] then .noViableRoute
  else if allAre failures .impactUnavailable then .impactUnavailable
  else if allAre failures .impactExceedsCap then .impactExceedsCap
  else if allAre failures .gasChainMismatch then .gasChainMismatch
  else if allAre failures .gasConversionFailed then .gasConversionFailed
  else if failures.all (·.isInternal) then .internal "all candidates failed an internal invariant"
  else sharedHopFailure failures

structure RoutingDecision where
  candidates : List ScoredRoute
  selected : Option RouteQuote
  truncated : Bool

/-- The depth of a direct hop over a concentrated liquidity or bin pool. The amount is what enters the
first hop. -/
def pathDepth (req : RouteRequest) (path : CandidatePath) (quote : RouteQuote) : Option DepthRank :=
  if req.depthTargets ≠ [] ∧ path.legs.length = 1 then do
    let leg ← path.legs.head?
    let desc ← req.descriptors[leg.descriptorIndex]?
    let amount := (quote.plan.legs.head?.map (·.amountIn)).getD req.amountIn
    match desc.envelope.state with
    | .cpmm _ => none
    | state => (depthRank state leg.tokenIn amount req.depthTargets).toOption
  else none

/-- One round of the candidate loop: a failure of the candidate, or the ranked route. -/
def rankCandidate (req : RouteRequest) (path : CandidatePath) :
    Except RoutingError (Except RoutingError RankedRoute) :=
  match estimateGasCost req path.legs.length with
  | .error e => .ok (.error e)
  | .ok gasCost =>
    match quotePath req req.descriptors path with
    | .error e => .ok (.error e)
    | .ok quote => do
      let score ← buildScore req.intent quote req.scoring gasCost req.nowMs
      match netAfterGas quote.netOutput gasCost req.gasPriceInOutput with
      | .error e => return .error e
      | .ok net => return .ok ⟨⟨quote, score⟩, net, pathDepth req path quote⟩

def rankCandidates (req : RouteRequest) :
    List CandidatePath → Except RoutingError (List RankedRoute × List RoutingError)
  | [] => .ok ([], [])
  | path :: rest => do
    let outcome ← rankCandidate req path
    let (ranked, failures) ← rankCandidates req rest
    match outcome with
    | .ok route => return (route :: ranked, failures)
    | .error e => return (ranked, e :: failures)

def verifySingle (req : RouteRequest) (route : ScoredRoute) : Except BridgeError ExecutionPreview :=
  validateDeltaPreviewWithAssessment req.intent route.quote.plan route.quote.netDelta req.assessment req.nowMs

def firstReject {A : Type} (verify : A → Except BridgeError ExecutionPreview) :
    List A → Option BridgeRejectClass
  | [] => none
  | a :: rest =>
    match verify a with
    | .ok _ => firstReject verify rest
    | .error e => some (.fromBridgeError e)

/-- The checks of a request that both planners make. -/
def checkRouteRequest (req : RouteRequest) : Except RoutingError Unit := do
  ensure (req.intent.tokenIn ≠ req.intent.tokenOut) .sameAssetPair
  ensure (req.intent.amountType = .inputAssetAtomic) (.domain .unsupportedAmountType)
  ensure (¬(req.maxHops = 0 ∨ maxRouteHops < req.maxHops)) .unsupportedHopCount
  (req.intent.validate req.nowMs).mapError .domain
  ensure (¬(req.amountIn.val = 0 ∨ req.intent.amount < req.amountIn)) .inputConservationViolated

def planSinglePath (req : RouteRequest) : Except RoutingError RoutingDecision := do
  checkRouteRequest req
  validateAssessment req
  let set ← enumerateCandidates req.intent req.maxHops req.descriptors
  let (ranked, failures) ← rankCandidates req set.paths
  if ranked = [] then .error (aggregateFailure failures)
  else
    let routes := (sortBy compareScored ranked).map (·.route)
    let verified := routes.filter fun route => (verifySingle req route).toBool
    if verified = [] then .error (.selectedRejected ((firstReject (verifySingle req) routes).getD .domain))
    else return ⟨verified, verified.head?.map (·.quote), set.truncated⟩

end PrivateExecution.Routing
