import PrivateExecution.Routing.Impact
import PrivateExecution.Routing.Request

/-!
# The quote of a path

`quotePath` composes the exact-input quotes of the hops of one candidate path (`routing/src/quote.rs`):
every pool has to be fresh under two policies, the tax of a sell is taken before the first hop and that
of a buy after the last.
-/

namespace PrivateExecution.Routing

def nonzero (amount : AssetAmount) : Option AssetAmount :=
  if amount.amount.val = 0 then none else some amount

/-! ### Freshness -/

def requireFresh (status : Option FreshnessStatus) (reason : String) (stale resync : RoutingError) :
    Except RoutingError Unit :=
  match status with
  | none => .error (.internal reason)
  | some .fresh => .ok ()
  | some .stale => .error stale
  | some .resyncRequired => .error resync

def validateAssessmentFields (intent : TradeIntent) (assessment : TaxAssessment)
    (freshnessPolicy : FreshnessPolicy) (nowMs : I64) : Except RoutingError Unit := do
  ensure (assessment.chain = intent.chain) .taxAssessmentMismatch
  ensure (assessment.assessedAsset = assessedAssetForIntent intent) .taxAssessmentMismatch
  ensure (assessment.freshness.status = .fresh) .taxAssessmentNotFresh
  ensure (assessment.freshness.sequence.val ≠ 0) .taxAssessmentNotFresh
  let reason := "assessment freshness evaluation failed"
  requireFresh (evaluateFreshness freshnessPolicy assessment.freshness.observedAtMs nowMs false) reason
    .taxAssessmentNotFresh .taxAssessmentNotFresh
  requireFresh (evaluateFreshness .default assessment.freshness.observedAtMs nowMs false) reason
    .taxAssessmentNotFresh .taxAssessmentNotFresh

def validateAssessment (req : RouteRequest) : Except RoutingError Unit :=
  validateAssessmentFields req.intent req.assessment req.freshnessPolicy req.nowMs

def checkEnvelopeFreshness (envelope : PoolStateEnvelope) (callerPolicy : FreshnessPolicy) (nowMs : I64) :
    Except RoutingError Unit := do
  ensure (envelope.sequence.val ≠ 0) .resyncRequired
  ensure (¬envelope.observedAtMs.val ≤ 0) .stalePoolState
  let reason := "pool freshness evaluation failed"
  requireFresh (evaluateFreshness callerPolicy envelope.observedAtMs nowMs false) reason
    .stalePoolState .resyncRequired
  requireFresh (evaluateFreshness .default envelope.observedAtMs nowMs false) reason
    .stalePoolState .resyncRequired

/-- The oldest state the loops below have seen: time and sequence. -/
structure OldestState where
  observedMin : I64
  sequenceMin : Option U64

def OldestState.start : OldestState := ⟨.max, none⟩

def OldestState.add (o : OldestState) (observed : I64) (sequence : U64) : OldestState where
  observedMin := if observed < o.observedMin then observed else o.observedMin
  sequenceMin := some (match o.sequenceMin with
    | some current => if current ≤ sequence then current else sequence
    | none => sequence)

def lookup (descriptors : List PoolDescriptor) (leg : CandidateLeg) : Except RoutingError PoolDescriptor :=
  okOr descriptors[leg.descriptorIndex]? (.internal "candidate descriptor index out of range")

def pathFreshness (req : RouteRequest) (descriptors : List PoolDescriptor) :
    List CandidateLeg → OldestState → Except RoutingError OldestState
  | [], oldest => .ok oldest
  | leg :: rest, oldest => do
    let descriptor ← lookup descriptors leg
    checkEnvelopeFreshness descriptor.envelope req.freshnessPolicy req.nowMs
    pathFreshness req descriptors rest
      (oldest.add descriptor.envelope.observedAtMs descriptor.envelope.sequence)

/-! ### Tax -/

def mapTaxError : TaxSafetyError → RoutingError
  | .staleObservation | .resyncRequired => .taxAssessmentNotFresh
  | .assessedAssetMismatch | .chainMismatch => .taxAssessmentMismatch
  | .zeroNetOutput | .zeroGrossOutput => .zeroNetOutput
  | .zeroNetInput | .zeroGrossInput => .zeroHopOutput
  | other => .tax other

/-- What enters the first hop, and the tax taken before it. -/
def inputTax (req : RouteRequest) : Except RoutingError (AtomicAmount × Option AssetAmount) :=
  match req.intent.side with
  | .buy => .ok (req.amountIn, none)
  | .sell => do
    let taxed ← (Fault.typed (applySellTaxToInput req.assessment ⟨req.intent.tokenIn, req.amountIn⟩)
      quiet_applySellTax).mapError mapTaxError
    return (taxed.netTransferableInput.amount, nonzero taxed.taxCost)

/-- What is left of the output of the last hop, and the tax of the route. -/
def outputTax (req : RouteRequest) (output : AtomicAmount) (inputTaxCost : Option AssetAmount) :
    Except RoutingError (AtomicAmount × Option AssetAmount) :=
  match req.intent.side with
  | .buy => do
    let taxed ← (Fault.typed (applyBuyTaxToOutput req.assessment ⟨req.intent.tokenOut, output⟩)
      quiet_applyBuyTax).mapError mapTaxError
    return (taxed.netOutput.amount, nonzero taxed.taxCost)
  | .sell => .ok (output, inputTaxCost)

/-! ### Hops -/

structure SimulatedHop where
  amountOut : AtomicAmount
  fee : Option AssetAmount
  kind : PoolKindClass
  impactBps : Option Bps

/-- The exact impact when depth is enabled, what the descriptor says otherwise. -/
def hopImpact (depthEnabled : Bool) (exact override : Option Bps) : Option Bps :=
  if depthEnabled then exact else override

def simulateHop (descriptor : PoolDescriptor) (tokenIn tokenOut : AssetId) (amountIn : AtomicAmount)
    (depthEnabled : Bool) : Except RoutingError SimulatedHop :=
  match descriptor.envelope.state with
  | .cpmm pool => do
    let quote ← (simulateCpmmExactInput pool ⟨tokenIn, amountIn, some tokenOut⟩).mapError
      fun _ => .hopSimulationFailed .cpmm
    return ⟨quote.output.amount, nonzero quote.poolFee, .cpmm,
      cpmmImpactBps quote.effectiveInput.amount quote.resultingReserveIn amountIn⟩
  | .clmm pool => do
    let quote ← (simulateClmmExactInput pool ⟨tokenIn, amountIn, some tokenOut⟩).mapError
      fun _ => .hopSimulationFailed .clmm
    return ⟨quote.output.amount, nonzero quote.fee, .clmm,
      hopImpact depthEnabled (clmmImpactBps pool.sqrtPriceX64 quote.resultingSqrtPriceX64)
        descriptor.impactOverrideBps⟩
  | .bin pool => do
    let quote ← (simulateBinExactInput pool ⟨tokenIn, amountIn, some tokenOut⟩).mapError
      fun _ => .hopSimulationFailed .bin
    return ⟨quote.output.amount, nonzero quote.fee, .bin,
      hopImpact depthEnabled (binImpactBps pool.binStep pool.decimals0 pool.decimals1
        pool.activeBinId quote.resultingActiveBinId) descriptor.impactOverrideBps⟩

/-- The hop loop of `quote_path`: the hops and what the last one returns. -/
def composeHops (descriptors : List PoolDescriptor) (depthEnabled : Bool) :
    List CandidateLeg → AtomicAmount → Except RoutingError (List HopQuote × AtomicAmount)
  | [], current => .ok ([], current)
  | leg :: rest, current => do
    let descriptor ← lookup descriptors leg
    let hop ← simulateHop descriptor leg.tokenIn leg.tokenOut current depthEnabled
    ensure (hop.amountOut.val ≠ 0) .zeroHopOutput
    let (hops, output) ← composeHops descriptors depthEnabled rest hop.amountOut
    return (⟨descriptor.venue.asStr, descriptor.legPoolRef.asStr, leg.tokenIn, leg.tokenOut, current,
      hop.amountOut, hop.fee, hop.kind, hop.impactBps⟩ :: hops, output)

def checkImpact (cap : Bps) (routeImpact : Option Bps) : Except RoutingError Unit :=
  if cap.get = 0 then .ok ()
  else
    match routeImpact with
    | none => .error .impactUnavailable
    | some impact => ensure (impact ≤ cap) .impactExceedsCap

/-- A hop as a leg of the route. The leg spends what its hop spends. -/
def HopQuote.leg (hop : HopQuote) : RouteLeg :=
  ⟨hop.venue, hop.poolRef, hop.tokenIn, hop.tokenOut, hop.amountIn, hop.amountOut⟩

/-- `dex_fee` exists for a single hop only. -/
def dexFee (hops : List HopQuote) : Option AssetAmount :=
  match hops with
  | [hop] => hop.fee
  | _ => none

def quotePath (req : RouteRequest) (descriptors : List PoolDescriptor) (path : CandidatePath) :
    Except RoutingError RouteQuote := do
  ensure (path.legs ≠ []) (.internal "candidate path has no legs")
  let oldest ← pathFreshness req descriptors path.legs .start
  let sequence ← okOr oldest.sequenceMin (.internal "candidate has no used pools")
  let (amount, inputTaxCost) ← inputTax req
  ensure (amount.val ≠ 0) .zeroHopOutput
  let (hopQuotes, output) ← composeHops descriptors (!req.depthTargets.isEmpty) path.legs amount
  let routeImpact := combineImpacts (hopQuotes.map (·.impactBps))
  checkImpact req.intent.risk.maxPriceImpact routeImpact
  let (netAmount, taxCost) ← outputTax req output inputTaxCost
  ensure (netAmount.val ≠ 0) .zeroNetOutput
  let grossOutput : AssetAmount := ⟨req.intent.tokenOut, output⟩
  let netOutput : AssetAmount := ⟨req.intent.tokenOut, netAmount⟩
  let plan : RoutePlan :=
    ⟨hopQuotes.map HopQuote.leg, netOutput, ⟨oldest.observedMin, .zero, sequence⟩⟩
  plan.validate.mapError .domain
  let netDelta : NetDelta :=
    ⟨req.intent.tokenIn, req.intent.tokenOut, ⟨req.intent.tokenIn, req.amountIn⟩, grossOutput, netOutput,
      dexFee hopQuotes, taxCost⟩
  netDelta.validate.mapError fun _ => .internal "composed net delta failed validation"
  return ⟨plan, netDelta, hopQuotes, grossOutput, netOutput, taxCost, routeImpact⟩

/-! ### What a quote stands on -/

/-- A hop of a quote is the simulation of its leg's pool. -/
structure HopOf (descriptors : List PoolDescriptor) (depthEnabled : Bool) (leg : CandidateLeg)
    (hop : HopQuote) : Prop where
  simulated : ∃ descriptor ∈ descriptors[leg.descriptorIndex]?,
    hop.venue = descriptor.venue.asStr ∧ hop.poolRef = descriptor.legPoolRef.asStr ∧
      simulateHop descriptor leg.tokenIn leg.tokenOut hop.amountIn depthEnabled =
        .ok ⟨hop.amountOut, hop.fee, hop.kind, hop.impactBps⟩
  tokenIn : hop.tokenIn = leg.tokenIn
  tokenOut : hop.tokenOut = leg.tokenOut

lemma composeHops_spec {descriptors : List PoolDescriptor} {depthEnabled : Bool} :
    ∀ {legs : List CandidateLeg} {current output : AtomicAmount} {hops : List HopQuote},
      composeHops descriptors depthEnabled legs current = .ok (hops, output) →
        List.Forall₂ (HopOf descriptors depthEnabled) legs hops
  | [], current, output, hops, h => by
    cases h
    exact .nil
  | leg :: rest, current, output, hops, h => by
    rw [composeHops] at h
    obtain ⟨descriptor, hlookup, h⟩ := bind_ok.1 h
    obtain ⟨hop, hhop, h⟩ := bind_ok.1 h
    obtain ⟨-, h⟩ := ensure_ok.1 h
    obtain ⟨⟨hops', output'⟩, hrest, h⟩ := bind_ok.1 h
    cases h
    exact .cons ⟨⟨descriptor, okOr_eq_ok.1 hlookup, rfl, rfl, hhop⟩, rfl, rfl⟩ (composeHops_spec hrest)

/-- What a quote is made of. -/
structure Quoted (req : RouteRequest) (descriptors : List PoolDescriptor) (path : CandidatePath)
    (q : RouteQuote) : Prop where
  amounts : ∃ amount tax, inputTax req = .ok (amount, tax) ∧
    composeHops descriptors (!req.depthTargets.isEmpty) path.legs amount =
      .ok (q.hopQuotes, q.grossOutput.amount) ∧
    outputTax req q.grossOutput.amount tax = .ok (q.netOutput.amount, q.taxCost)
  impact : checkImpact req.intent.risk.maxPriceImpact q.routeImpactBps = .ok ()
  combined : q.routeImpactBps = combineImpacts (q.hopQuotes.map (·.impactBps))

lemma quotePath_inv {req : RouteRequest} {descriptors : List PoolDescriptor} {path : CandidatePath}
    {q : RouteQuote} (h : quotePath req descriptors path = .ok q) : Quoted req descriptors path q := by
  unfold quotePath at h
  obtain ⟨-, h⟩ := ensure_ok.1 h
  obtain ⟨_, -, h⟩ := bind_ok.1 h
  obtain ⟨_, -, h⟩ := bind_ok.1 h
  obtain ⟨⟨amount, inputTaxCost⟩, htax, h⟩ := bind_ok.1 h
  obtain ⟨-, h⟩ := ensure_ok.1 h
  obtain ⟨⟨hopQuotes, output⟩, hhops, h⟩ := bind_ok.1 h
  obtain ⟨⟨⟩, himpact, h⟩ := bind_ok.1 h
  obtain ⟨⟨netAmount, taxCost⟩, hnet, h⟩ := bind_ok.1 h
  obtain ⟨-, h⟩ := ensure_ok.1 h
  obtain ⟨_, -, h⟩ := bind_ok.1 h
  obtain ⟨_, -, h⟩ := bind_ok.1 h
  cases h
  exact ⟨⟨amount, inputTaxCost, htax, hhops, hnet⟩, himpact, rfl⟩

/-! ### The impact cap -/

/-- The exact impact of a hop, as a part of one: what it takes of the deepened reserve of a constant
product pool, how far it moves the price of the others. -/
def exactImpact (descriptor : PoolDescriptor) (tokenIn tokenOut : AssetId) (amountIn : AtomicAmount) :
    Option ℚ :=
  match descriptor.envelope.state with
  | .cpmm pool =>
    (simulateCpmmExactInput pool ⟨tokenIn, amountIn, some tokenOut⟩).toOption.map fun quote =>
      let reserveIn := if tokenIn = pool.token0 then pool.reserve0 else pool.reserve1
      quote.effectiveInput.amount.val / (reserveIn.val + quote.effectiveInput.amount.val)
  | .clmm pool =>
    (simulateClmmExactInput pool ⟨tokenIn, amountIn, some tokenOut⟩).toOption.map fun quote =>
      relativeMove (pool.sqrtPriceX64.val ^ 2) (quote.resultingSqrtPriceX64.val ^ 2)
  | .bin pool =>
    (simulateBinExactInput pool ⟨tokenIn, amountIn, some tokenOut⟩).toOption.map fun quote =>
      relativeMove (binPrice pool.binStep pool.activeBinId) (binPrice pool.binStep quote.resultingActiveBinId)

lemma impact_le_cap {cap : Bps} (hcap : 0 < cap.get) {hops : List HopQuote}
    (h : checkImpact cap (combineImpacts (hops.map (·.impactBps))) = .ok ()) :
    ∀ hop ∈ hops, ∃ i, hop.impactBps = some i ∧ i ≤ cap := by
  unfold checkImpact at h
  rw [if_neg hcap.ne'] at h
  split at h
  · cases h
  · rename_i impact himpact
    intro hop hhop
    obtain ⟨i, hi, hle⟩ := (combineFrom_le himpact).2 _ (List.mem_map_of_mem hhop)
    exact ⟨i, hi, Nat.le_trans hle (ensure_eq_ok.1 h)⟩

lemma cpmm_hop_impact {pool : CpmmPoolState} {request : CpmmExactInputRequest}
    {quote : CpmmSimulationQuote} {i : Bps} (h : simulateCpmmExactInput pool request = .ok quote)
    (hi : cpmmImpactBps quote.effectiveInput.amount quote.resultingReserveIn request.amountIn = some i) :
    (quote.effectiveInput.amount.val : ℚ) / ((if request.tokenIn = pool.token0 then pool.reserve0
      else pool.reserve1).val + quote.effectiveInput.amount.val) < (i.get + 1) / 10000 := by
  obtain ⟨-, token0In, a, hdir, ha, -, -, -, -, heff, hres⟩ := simulateCpmm_inv h
  obtain ⟨-, -, -, hin, -⟩ := cpmmAmounts_spec ha
  have hside : (if token0In then pool.reserve0 else pool.reserve1) =
      if request.tokenIn = pool.token0 then pool.reserve0 else pool.reserve1 := by
    unfold isToken0In at hdir
    split_ifs at hdir with htok <;> cases hdir <;> simp [htok]
  rw [hside] at hin
  rw [hres] at hi
  obtain ⟨hval, hpos⟩ := cpmmImpactBps_spec hin hi
  generalize (if request.tokenIn = pool.token0 then pool.reserve0 else pool.reserve1).val = reserve at *
  generalize quote.effectiveInput.amount.val = e at *
  have hden : 0 < reserve + e := by omega
  have hlt : 10000 * e < (i.get + 1) * (reserve + e) := by
    rw [hval]
    exact Nat.lt_mul_of_div_lt (Nat.lt_succ_self _) hden
  rw [div_lt_div_iff₀ (by exact_mod_cast hden) (by norm_num)]
  have hlt' : (10000 : ℚ) * e < (i.get + 1) * (reserve + e) := by exact_mod_cast hlt
  linarith

lemma simulateHop_impact {descriptor : PoolDescriptor} {tokenIn tokenOut : AssetId}
    {amountIn : AtomicAmount} {hop : SimulatedHop} {i : Bps}
    (h : simulateHop descriptor tokenIn tokenOut amountIn true = .ok hop) (hi : hop.impactBps = some i) :
    ∃ x, exactImpact descriptor tokenIn tokenOut amountIn = some x ∧ match descriptor.envelope.state with
      | .cpmm _ => x < (i.get + 1) / 10000
      | .clmm _ | .bin _ => x ≤ i.get / 10000 := by
  unfold simulateHop at h
  unfold exactImpact
  split at h
  · rename_i pool _
    obtain ⟨quote, hquote, h⟩ := bind_ok.1 h
    cases h
    have hok := mapError_eq_ok hquote
    simp only [hok, Except.toOption, Option.map_some]
    have hbound := cpmm_hop_impact hok hi
    exact ⟨_, rfl, hbound⟩
  · rename_i pool _
    obtain ⟨quote, hquote, h⟩ := bind_ok.1 h
    cases h
    have hok := mapError_eq_ok hquote
    obtain ⟨hs, hr⟩ := simulateClmm_price_lt hok
    simp only [hok, Except.toOption, Option.map_some]
    have hbound := clmmImpactBps_sound hs hr hi
    exact ⟨_, rfl, hbound⟩
  · rename_i pool _
    obtain ⟨quote, hquote, h⟩ := bind_ok.1 h
    cases h
    have hok := mapError_eq_ok hquote
    simp only [hok, Except.toOption, Option.map_some]
    have hbound := binImpactBps_sound (simulateBin_step_lt hok) hi
    exact ⟨_, rfl, hbound⟩

/-- What the cap bounds at one leg of an accepted path: the impact is known exactly, within the cap where
it is a price move, and less than one basis point above the cap at a constant product pool. -/
def WithinCap (descriptors : List PoolDescriptor) (cap : Bps) (leg : CandidateLeg) (hop : HopQuote) : Prop :=
  ∃ descriptor ∈ descriptors[leg.descriptorIndex]?,
    ∃ x, exactImpact descriptor leg.tokenIn leg.tokenOut hop.amountIn = some x ∧
      match descriptor.envelope.state with
      | .cpmm _ => x < (cap.get + 1) / 10000
      | .clmm _ | .bin _ => x ≤ cap.get / 10000

lemma HopOf.withinCap {descriptors : List PoolDescriptor} {cap i : Bps} {leg : CandidateLeg}
    {hop : HopQuote} (h : HopOf descriptors true leg hop) (hi : hop.impactBps = some i) (hle : i ≤ cap) :
    WithinCap descriptors cap leg hop := by
  obtain ⟨descriptor, hlookup, -, -, hsim⟩ := h.simulated
  obtain ⟨x, hx, hbound⟩ := simulateHop_impact hsim hi
  have hcast : (i.get : ℚ) ≤ cap.get := by exact_mod_cast hle
  refine ⟨descriptor, hlookup, x, hx, ?_⟩
  cases hstate : descriptor.envelope.state with
  | cpmm pool =>
    simp only [hstate] at hbound ⊢
    linarith
  | clmm pool =>
    simp only [hstate] at hbound ⊢
    linarith
  | bin pool =>
    simp only [hstate] at hbound ⊢
    linarith

/-- No hop of an accepted path moves its pool beyond the cap. A constant product hop is measured in whole
basis points, rounded down. -/
theorem accepted_hop_impact {req : RouteRequest} {descriptors : List PoolDescriptor}
    {path : CandidatePath} {q : RouteQuote} (h : quotePath req descriptors path = .ok q)
    (hdepth : req.depthTargets ≠ []) (hcap : 0 < req.intent.risk.maxPriceImpact.get) :
    List.Forall₂ (WithinCap descriptors req.intent.risk.maxPriceImpact) path.legs q.hopQuotes := by
  have hq := quotePath_inv h
  obtain ⟨_, _, -, hhops, -⟩ := hq.amounts
  have hhops := composeHops_spec hhops
  rw [List.isEmpty_eq_false_iff.2 hdepth, Bool.not_false] at hhops
  have hle := (List.forall₂_and_left _ _).2 ⟨impact_le_cap hcap (hq.combined ▸ hq.impact), hhops.flip⟩
  exact hle.flip.imp fun leg hop ⟨⟨i, hi, hic⟩, hof⟩ => hof.withinCap hi hic

/-! ### A purchase over a stable pair -/

namespace RouteSample

def usdc : AssetId := ⟨.base, "USDC"⟩
def weth : AssetId := ⟨.base, "WETH"⟩
def token : AssetId := ⟨.base, "TOKEN"⟩

def intent (amountIn : AtomicAmount) : TradeIntent :=
  .marketBuy usdc token amountIn ⟨.lit 0, .lit 0, .lit 100, .lit 0, none⟩

def cpmm (token0 token1 : AssetId) : PoolKindState :=
  .cpmm ⟨token0, token1, .lit 6, .lit 6, .lit 1000000,
    .lit 1000000, none, .lit 0⟩

def bin (token0 token1 : AssetId) : PoolKindState :=
  .bin ⟨token0, token1, .lit 6, .lit 6, 0, 10, .lit 0,
    [⟨0, .lit 1000000, .lit 1000000⟩]⟩

def descriptor (address : String) (sequence : U64) (state : PoolKindState) : PoolDescriptor where
  envelope := ⟨⟨.base, address⟩, sequence, .lit 1000, state⟩
  venue := .lit "dex"
  legPoolRef := .lit "pool"
  impactOverrideBps := none

def request (amountIn : AtomicAmount) (descriptors : List PoolDescriptor) : RouteRequest where
  intent := intent amountIn
  descriptors := descriptors
  amountIn := amountIn
  assessment := ⟨token, .base, .lit 0, .lit 0,
    ⟨.fresh, .lit 1000, .lit 7⟩, .lit 7⟩
  maxHops := 2
  nowMs := .lit 1000
  freshnessPolicy := .default
  scoring := ⟨.lit 0, .lit 0, .lit 0, .lit 0, .zero⟩
  gas := none
  gasPriceInOutput := none
  depthTargets := [(.lit 100)]

def twoPools : List PoolDescriptor :=
  [descriptor "A" (.lit 7) (bin usdc weth), descriptor "B" (.lit 7) (cpmm weth token)]

end RouteSample

open RouteSample in
theorem accepted_hop_impact_over_a_bin : ∃ q,
    quotePath (request (.lit 1000) twoPools) twoPools ⟨[⟨0, usdc, weth⟩, ⟨1, weth, token⟩]⟩ =
      .ok q ∧ List.Forall₂ (WithinCap twoPools (.lit 100)) [⟨0, usdc, weth⟩, ⟨1, weth, token⟩] q.hopQuotes := by
  have hruns : (quotePath (request (.lit 1000) twoPools) twoPools
    ⟨[⟨0, usdc, weth⟩, ⟨1, weth, token⟩]⟩).toBool := by decide +kernel
  obtain ⟨q, hq⟩ := exists_ok_of_toBool hruns
  have hbound := accepted_hop_impact hq (by decide) (by decide)
  exact ⟨q, hq, hbound⟩

open RouteSample in
/-- A constant product hop whose exact impact is above the cap of one percent and rounds down to it. -/
theorem rounded_impact_passes_cap :
    ∃ req d q, quotePath req [d] ⟨[⟨0, usdc, token⟩]⟩ = .ok q ∧ req.depthTargets ≠ [] ∧
      0 < req.intent.risk.maxPriceImpact.get ∧ q.hopQuotes.map (·.amountIn) = [(.lit 10150)] ∧
      ∃ x, exactImpact d usdc token (.lit 10150) = some x ∧
        (req.intent.risk.maxPriceImpact.get : ℚ) / 10000 < x := by
  let pool := descriptor "A" (.lit 7) (cpmm usdc token)
  have hruns : ((quotePath (request (.lit 10150) [pool]) [pool] ⟨[⟨0, usdc, token⟩]⟩).toOption.map
    fun q => q.hopQuotes.map (·.amountIn)) = some [(.lit 10150)] := by decide +kernel
  obtain ⟨q, hq, hhops⟩ := Option.map_eq_some_iff.1 hruns
  refine ⟨request (.lit 10150) [pool], pool, q, toOption_eq_some hq, by decide, by decide, hhops,
    10150 / 1010150, by decide +kernel, ?_⟩
  norm_num [request, intent, TradeIntent.marketBuy]

end PrivateExecution.Routing
