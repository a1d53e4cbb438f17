import PrivateExecution.Domain.Preview

/-!
# Tax assessments and net deltas

What the exact simulation of a route is checked against before it becomes an execution preview. A
tax observation is turned into a tax assessment by `evaluateTaxSafety` (`tax-engine/src/assessment.rs`);
the simulated balance changes of the wallet are a `NetDelta`, and `validateDeltaPreviewWithAssessment`
(`execution-preview/src/lib.rs`) accepts them only if the assessment explains their tax exactly, and
then hands the preview to `ExecutionPreview.validate`.
-/

namespace PrivateExecution

/-! ### Tax assessments -/

structure TaxObservation where
  chain : ChainId
  token : AssetId
  poolRef : String
  routerRef : String
  walletRef : WalletRef
  amount : AtomicAmount
  blockOrSlot : U64
  buyTax : Bps
  sellTax : Bps
  buySucceeds : Bool
  sellSucceeds : Bool
  sellable : Bool
  observedAtMs : I64
  expiresAtMs : I64

def TaxObservation.validate (o : TaxObservation) : Except DomainError Unit := do
  ensure o.token.isValid .chainMismatch
  ensure (o.token.chain = o.chain) .chainMismatch
  ensure (isBlank o.poolRef = false ∧ isBlank o.routerRef = false) .emptyRouteRef
  o.walletRef.validate
  ensure (o.amount.val ≠ 0) .zeroTradeAmount
  ensure (o.observedAtMs < o.expiresAtMs) .invalidObservationWindow
  ensure (o.sellable = true ∨ o.sellSucceeds = false) .incoherentSellability

inductive TaxSafetyError where
  | invalidTradeIntent (e : DomainError)
  | invalidTaxObservation (e : DomainError)
  | missingObservation | chainMismatch | assessedAssetMismatch | freshnessEvaluationFailed
  | staleObservation | resyncRequired | buySimulationFailed | sellSimulationFailed
  | tokenNotSellable | buyTaxExceedsCap | sellTaxExceedsCap | zeroGrossOutput | zeroNetOutput
  | zeroGrossInput | zeroNetInput
deriving DecidableEq

/-- What is kept of a freshness evaluation: its status and the observation it is about. -/
structure SafeFreshnessMeta where
  status : FreshnessStatus
  observedAtMs : I64
  sequence : U64

structure TaxAssessment where
  assessedAsset : AssetId
  chain : ChainId
  buyTax : Bps
  sellTax : Bps
  freshness : SafeFreshnessMeta
  blockOrSlot : U64

variable (intent : TradeIntent)

def assessedAssetForIntent : AssetId :=
  match intent.side with
  | .buy => intent.tokenOut
  | .sell => intent.tokenIn

/-- What a freshness status means for a tax observation. -/
def FreshnessStatus.requireTax : FreshnessStatus → Except TaxSafetyError Unit
  | .fresh => .ok ()
  | .stale => .error .staleObservation
  | .resyncRequired => .error .resyncRequired

def evaluateTaxSafety (observation : Option TaxObservation) (nowMs : I64)
    (policy : FreshnessPolicy) : Except TaxSafetyError TaxAssessment := do
  (intent.validate nowMs).mapError .invalidTradeIntent
  let obs ← okOr observation .missingObservation
  obs.validate.mapError .invalidTaxObservation
  ensure (obs.chain = intent.chain) .chainMismatch
  ensure (obs.token = assessedAssetForIntent intent) .assessedAssetMismatch
  let status ← okOr (evaluateFreshness policy obs.observedAtMs nowMs false) .freshnessEvaluationFailed
  status.requireTax
  ensure (obs.buySucceeds = true) .buySimulationFailed
  ensure (obs.sellable = true) .tokenNotSellable
  ensure (obs.sellSucceeds = true) .sellSimulationFailed
  ensure (obs.buyTax ≤ intent.risk.maxBuyTax) .buyTaxExceedsCap
  ensure (obs.sellTax ≤ intent.risk.maxSellTax) .sellTaxExceedsCap
  return ⟨assessedAssetForIntent intent, intent.chain, obs.buyTax, obs.sellTax,
    ⟨status, obs.observedAtMs, obs.blockOrSlot⟩, obs.blockOrSlot⟩

/-! ### Net deltas -/

inductive BridgeError where
  | domain (e : DomainError)
  | netDeltaInconsistent (reason : String)
  | directionMismatch | chainMismatch | inputAssetMismatch | outputAssetMismatch
  | assessedAssetMismatch | assessmentDeltaMismatch | taxCapExceeded | freshnessUnavailable
deriving DecidableEq

/-- `floor(amount * bps / 10000)`, on the quotient and the remainder of the amount. -/
def floorBps (amount : U128) (bps : Bps) : Except BridgeError U128 := do
  let overflow : BridgeError := .netDeltaInconsistent "tax amount overflowed u128"
  let q := amount.val / 10000
  let r := amount.val % 10000
  let qPart : U128 ← okOr (Unsigned.ofNat? (q * bps.get)) overflow
  let rPart : U128 ← okOr (Unsigned.ofNat? (r * bps.get)) overflow
  okOr (Unsigned.ofNat? (qPart.val + rPart.val / 10000)) overflow

lemma floorBps_eq (amount : U128) (bps : Bps) :
    ∃ tax : U128, floorBps amount bps = .ok tax ∧ tax.val = amount.val * bps.get / 10000 := by
  have hbps := bps.le
  have hlt := amount.lt
  have hdiv := Nat.div_add_mod amount.val 10000
  have hmod := Nat.mod_lt amount.val (show 0 < 10000 by norm_num)
  have hqle := Nat.mul_le_mul_left (amount.val / 10000) hbps
  have hrle := Nat.mul_le_mul_left (amount.val % 10000) hbps
  have hq : amount.val / 10000 * bps.get < 2 ^ 128 := by omega
  have hr : amount.val % 10000 * bps.get < 2 ^ 128 := by omega
  have hsplit : amount.val * bps.get =
      10000 * (amount.val / 10000 * bps.get) + amount.val % 10000 * bps.get := by
    conv_lhs => rw [← hdiv, Nat.add_mul, Nat.mul_assoc]
  have hsum : amount.val / 10000 * bps.get + amount.val % 10000 * bps.get / 10000 =
      amount.val * bps.get / 10000 := by omega
  have hle : amount.val * bps.get / 10000 ≤ amount.val := by omega
  refine ⟨⟨amount.val * bps.get / 10000, lt_of_le_of_lt hle hlt⟩, ?_, rfl⟩
  simp only [floorBps, Unsigned.ofNat?, dif_pos hq, dif_pos hr, okOr, Except.bind, bind, hsum,
    dif_pos (lt_of_le_of_lt hle hlt)]

structure NetDelta where
  tokenIn : AssetId
  tokenOut : AssetId
  netInput : AssetAmount
  grossOutput : AssetAmount
  netOutput : AssetAmount
  dexFee : Option AssetAmount
  taxCost : Option AssetAmount
deriving DecidableEq

namespace NetDelta

def require (p : Prop) [Decidable p] (reason : String) : Except BridgeError Unit :=
  ensure p (.netDeltaInconsistent reason)

def validateFee (d : NetDelta) (fee : AssetAmount) : Except BridgeError Unit := do
  require (fee.amount.val ≠ 0) "dex_fee must be non-zero when present"
  require (fee.asset = d.tokenIn) "dex_fee must be denominated in token_in"
  require (fee.amount ≤ d.netInput.amount) "dex_fee must not exceed net_input"

/-- The tax part of `validate`: output tax is taken from the gross output, input tax from the net
input before the swap. -/
def validateTax (d : NetDelta) (tax : AssetAmount) : Except BridgeError Unit := do
  require (tax.amount.val ≠ 0) "tax_cost must be non-zero when present"
  require (tax.asset = d.tokenIn ∨ tax.asset = d.tokenOut)
    "tax_cost must be denominated in token_in or token_out"
  if tax.asset = d.tokenOut then do
    let total ← okOr (d.netOutput.amount.checkedAdd tax.amount)
      (.netDeltaInconsistent "net_output and tax_cost overflow u128")
    require (total = d.grossOutput.amount) "net_output plus tax_cost must equal gross_output"
  else do
    require (d.netOutput.amount = d.grossOutput.amount)
      "net_output must equal gross_output for sell-side input tax"
    require (tax.amount ≤ d.netInput.amount) "tax_cost must not exceed net_input"
    let poolInput ← okOr (d.netInput.amount.checkedSub tax.amount)
      (.netDeltaInconsistent "tax_cost must not exceed net_input")
    let fee : U128 := (d.dexFee.map (·.amount)).getD Unsigned.zero
    require (fee ≤ poolInput) "net_input after tax must cover dex_fee"

def validate (d : NetDelta) : Except BridgeError Unit := do
  require (d.tokenIn ≠ d.tokenOut) "token_in and token_out must differ"
  require (d.tokenIn.chain = d.tokenOut.chain) "token_in and token_out must share a chain"
  require (d.netInput.asset = d.tokenIn) "net_input must be denominated in token_in"
  require (d.grossOutput.asset = d.tokenOut) "gross_output must be denominated in token_out"
  require (d.netOutput.asset = d.tokenOut) "net_output must be denominated in token_out"
  require (d.netInput.amount.val ≠ 0) "net_input must be non-zero"
  require (d.grossOutput.amount.val ≠ 0) "gross_output must be non-zero"
  require (d.netOutput.amount.val ≠ 0) "net_output must be non-zero"
  require (d.netOutput.amount ≤ d.grossOutput.amount) "net_output must not exceed gross_output"
  d.dexFee.forM d.validateFee
  match d.taxCost with
  | some tax => d.validateTax tax
  | none =>
    require (d.netOutput.amount = d.grossOutput.amount)
      "net_output must equal gross_output when no tax is present"

end NetDelta

/-! ### The bridge -/

def buildExecutionPreview (delta : NetDelta) (freshness : FreshnessStatus) :
    Except BridgeError ExecutionPreview := do
  delta.validate
  ensure (delta.tokenIn.chain = intent.chain ∧ delta.tokenOut.chain = intent.chain) .chainMismatch
  ensure (delta.tokenIn = intent.tokenIn) .inputAssetMismatch
  ensure (delta.tokenOut = intent.tokenOut) .outputAssetMismatch
  delta.taxCost.forM fun tax =>
    ensure (tax.asset = match intent.side with
      | .buy => delta.tokenOut
      | .sell => delta.tokenIn) .directionMismatch
  return ⟨intent.id, intent.chain, delta.tokenIn, delta.tokenOut, intent.side, delta.netInput,
    delta.netOutput, delta.grossOutput, ⟨none, delta.dexFee, none, delta.taxCost⟩, freshness⟩

def validateDeltaPreview (route : RoutePlan) (delta : NetDelta) (nowMs : I64) :
    Except BridgeError ExecutionPreview := do
  let freshness ← okOr (evaluateFreshness .default route.state.observedAtMs nowMs false)
    .freshnessUnavailable
  let preview ← buildExecutionPreview intent delta freshness
  (preview.validate intent route nowMs).mapError .domain
  return preview

/-- One side of the assessment: the assessed asset, the tax it implies on `taxed`, and the cap. -/
def checkAssessedTax (assessed expected : AssetId) (taxed : U128) (tax cap : Bps)
    (taxCost : Option AssetAmount) : Except BridgeError Unit := do
  ensure (assessed = expected) .assessedAssetMismatch
  let cost ← floorBps taxed tax
  ensure (taxCost = if cost.val = 0 then none else some ⟨expected, cost⟩) .assessmentDeltaMismatch
  ensure (tax ≤ cap) .taxCapExceeded

def validateDeltaPreviewWithAssessment (route : RoutePlan) (delta : NetDelta)
    (assessment : TaxAssessment) (nowMs : I64) : Except BridgeError ExecutionPreview := do
  ensure (assessment.freshness.status = .fresh) .freshnessUnavailable
  ensure (assessment.chain = intent.chain) .chainMismatch
  match intent.side with
  | .buy =>
    checkAssessedTax assessment.assessedAsset intent.tokenOut delta.grossOutput.amount
      assessment.buyTax intent.risk.maxBuyTax delta.taxCost
  | .sell =>
    checkAssessedTax assessment.assessedAsset intent.tokenIn delta.netInput.amount
      assessment.sellTax intent.risk.maxSellTax delta.taxCost
  validateDeltaPreview intent route delta nowMs

end PrivateExecution
