import PrivateExecution.Relay.Verdicts
import PrivateExecution.Preview.Revalidation
import PrivateExecution.Market.Backend
import PrivateExecution.Simulation.Wide

/-!
# `RelayMarketExecutionPort`

Market orders over the relay (`market-execution/src/lib.rs`, called by the market path of
`agent-backend/src/trade.rs`). An order is quoted, authorized by the policy engine, revalidated and
handed to the relay; `mapOutcome` turns what the relay returns into the outcome that is reported.
`Failed` is meant to say that the order was definitively rejected or failed before submission.
-/

namespace PrivateExecution

open Async

/-! ### Requests and outcomes -/

/-- What the port reads of a quoted route; the quote itself is an input of the model. -/
structure RouteQuote where
  plan : RoutePlan
  netDelta : NetDelta

structure MarketExecutionRequest where
  intent : TradeIntent
  quote : RouteQuote
  nowMs : I64
  routerSource : RouterSource

inductive MarketExecutionOutcome where
  | submitted
  | filled (netInput netOutput : U128)
  | unknown
  | failed

inductive MarketExecutionError where
  | unavailable | denied

abbrev MarketResult := Except MarketExecutionError MarketExecutionOutcome

structure MarketExecutionTrust where
  policyContext : PolicyContext
  walletBalance : WalletBalance
  allowance : AllowanceObservation
  taxObservation : TaxObservation
  allowedPrograms : List String
  freshnessPolicy : FreshnessPolicy

/-! ### The minimum output -/

def checkedCeilMulDiv (a b d : ℕ) : Except MarketExecutionError U128 := do
  ensure (d ≠ 0) .denied
  let product := mulU128Wide a b
  let quotient ← okOr (divU256ByU128Floor product.1 product.2 d) .denied
  okOr (Unsigned.ofNat?
    (if cmpU128Products quotient d a b = .lt then quotient + 1 else quotient)) .denied

def marketMinOut (intent : TradeIntent) (route : RoutePlan) : Except MarketExecutionError AssetAmount := do
  let floor ← checkedCeilMulDiv route.expectedNetOutput.amount.val
    (10000 - intent.risk.maxSlippage.get) 10000
  return ⟨intent.tokenOut, if floor.val = 0 then (.lit 1) else floor⟩

section

variable [Sha256]

/-! ### The port -/

/-- What the injected sources tell one call: the quote of the router, the trusted pre-sign state and
the prepared reference. -/
structure MarketSources where
  quote : TradeIntent → AtomicAmount → I64 → RouterSource → Except BackendError RouteQuote
  trust : MarketExecutionRequest → Except MarketExecutionError MarketExecutionTrust
  preparedRef : TradeIntent → Except MarketExecutionError PreparedExecutionRef

/-- The backend of one process: its configuration, its relay and the limits of the relay's policy
engine. -/
structure MarketBackend where
  config : TradingBackendConfig
  relay : RelayId
  limits : PolicyLimits

namespace RelayMarketExecutionPort

def mapOutcome : RelayResult → MarketResult
  | .ok (.confirmed _ (some fill)) => .ok (.filled fill.netInput fill.netOutput)
  | .ok (.confirmed _ none) => .ok .unknown
  | .ok (.submitted _ _) | .ok .reserved | .ok .signed | .ok .prepared => .ok .submitted
  | .ok .unknown => .ok .unknown
  | .ok (.rejected _) | .ok .failedBeforeSubmit => .ok .failed
  | .error .tradingDisabled => .error .denied
  | .error .chainHealthUnavailable | .error .signingUnavailable => .error .unavailable
  | .error .signingFailed | .error .signingRequestMismatch | .error .chainMismatch
  | .error .missingSignedPayload | .error .signedPayloadEmpty | .error .signedPayloadTooLarge
  | .error .signedPayloadDigestMismatch | .error .reservationUnavailable | .error .storeUnavailable
  | .error .idempotencyConflict => .ok .failed
  | .error .adapterUnavailable | .error .adapterTimeout | .error .adapterRejected
  | .error .unknownSubmissionState | .error .invalidTransition => .ok .unknown

def revalidationInput (limits : PolicyLimits) (request : MarketExecutionRequest)
    (trust : MarketExecutionTrust) (approved : ApprovedExecution) (minOut : AssetAmount)
    (basis : TaxAssessment) (enabled : Bool) : RevalidationInput where
  intent := request.intent
  approval := some approved
  policyLimits := limits
  allowedPrograms := trust.allowedPrograms
  tradingEnabled := enabled
  nowMs := request.nowMs
  freshnessPolicy := trust.freshnessPolicy
  route := request.quote.plan
  netDelta := request.quote.netDelta
  basisAssessment := basis
  taxObservation := some trust.taxObservation
  approvedRouteBinding := .fromRoute request.quote.plan
  minOut := minOut
  walletBalance := trust.walletBalance
  allowance := trust.allowance

/-- The last part of `execute`: the prepared reference, then the relay. -/
def delegate (relay : RelayId) (sources : MarketSources) (request : MarketExecutionRequest)
    (approved : ApprovedExecution) (preview : ExecutionPreview) : RelayProg MarketResult :=
  match sources.preparedRef request.intent with
  | .error e => return .error e
  | .ok prepared => do
    let result ← PrivateExecution.execute relay
      ⟨request.intent, prepared, approved, request.quote.plan, preview, request.nowMs⟩
    return mapOutcome result

/-- The authorized part of `execute`: minimum output, tax basis and revalidation. The kill switch
is read once more for the gate. -/
def revalidate (backend : MarketBackend) (sources : MarketSources) (request : MarketExecutionRequest)
    (trust : MarketExecutionTrust) (approved : ApprovedExecution) : RelayProg MarketResult :=
  match marketMinOut request.intent request.quote.plan with
  | .error e => return .error e
  | .ok minOut =>
    match evaluateTaxSafety request.intent (some trust.taxObservation) request.nowMs
        trust.freshnessPolicy with
    | .error _ => return .error .denied
    | .ok basis => do
      let enabled : Bool ← ask (.isTradingEnabled backend.relay)
      match revalidatePreSign
          (revalidationInput backend.limits request trust approved minOut basis enabled) with
      | .error _ => return .error .denied
      | .ok preview => delegate backend.relay sources request approved preview

def execute (backend : MarketBackend) (sources : MarketSources) (request : MarketExecutionRequest) :
    RelayProg MarketResult :=
  if request.routerSource ≠ .localRouter then return .error .denied
  else
    match sources.trust request with
    | .error e => return .error e
    | .ok trust => do
      let enabled : Bool ← ask (.isTradingEnabled backend.relay)
      match PolicyEngine.authorizeTrade enabled backend.limits request.intent trust.policyContext with
      | .error _ => return .error .denied
      | .ok approved => revalidate backend sources request trust approved

def reconcile (relay : RelayId) (binding : AttemptBinding) (nowMs : I64) : RelayProg MarketResult := do
  let result ← PrivateExecution.reconcile relay binding nowMs
  return mapOutcome result

end RelayMarketExecutionPort

/-! ### The backend -/

def BackendError.toMarket : BackendError → MarketExecutionError
  | .denied => .denied
  | .unavailable => .unavailable

namespace MarketBackend

def executeMarketOrder (backend : MarketBackend) (sources : MarketSources) (command : MarketCommand)
    (nowMs : I64) : RelayProg MarketResult :=
  match previewIntent backend.config command with
  | .error e => return .error e.toMarket
  | .ok (intent, amountIn) =>
    match sources.quote intent amountIn nowMs command.router with
    | .error e => return .error e.toMarket
    | .ok quote => RelayMarketExecutionPort.execute backend sources ⟨intent, quote, nowMs, command.router⟩

def reconcileMarketOrder (backend : MarketBackend) (command : MarketCommand) (nowMs : I64) :
    RelayProg MarketResult :=
  match previewIntent backend.config command with
  | .error e => return .error e.toMarket
  | .ok (intent, _) => RelayMarketExecutionPort.reconcile backend.relay (.fromIntent intent) nowMs

end MarketBackend

/-- With trading enabled, what an order is handed to the relay with. -/
def MarketBackend.acceptedInput (backend : MarketBackend) (sources : MarketSources)
    (command : MarketCommand) (nowMs : I64) : Except MarketExecutionError RelayExecutionInput := do
  let (intent, amountIn) ← (previewIntent backend.config command).mapError (·.toMarket)
  let quote ← (sources.quote intent amountIn nowMs command.router).mapError (·.toMarket)
  let request : MarketExecutionRequest := ⟨intent, quote, nowMs, command.router⟩
  ensure (command.router = .localRouter) .denied
  let trust ← sources.trust request
  let approved ← (PolicyEngine.authorizeTrade true backend.limits intent trust.policyContext).mapError
    fun _ => .denied
  let minOut ← marketMinOut intent quote.plan
  let basis ← (evaluateTaxSafety intent (some trust.taxObservation) nowMs
    trust.freshnessPolicy).mapError fun _ => .denied
  let preview ← (revalidatePreSign (RelayMarketExecutionPort.revalidationInput backend.limits request
    trust approved minOut basis true)).mapError fun _ => .denied
  let prepared ← sources.preparedRef intent
  return ⟨intent, prepared, approved, quote.plan, preview, nowMs⟩

lemma MarketBackend.acceptedInput_spec {backend : MarketBackend} {sources : MarketSources}
    {command : MarketCommand} {nowMs : I64} {input : RelayExecutionInput}
    (h : backend.acceptedInput sources command nowMs = .ok input) :
    (∃ amountIn, previewIntent backend.config command = .ok (input.intent, amountIn)) ∧
    ∀ {faults : Bool} {t : Tid} {w : RelayWorld}, (w.relays backend.relay).tradingEnabled = true →
      Plays (relayHost faults) t (backend.executeMarketOrder sources command nowMs) w
        [⟨.isTradingEnabled backend.relay, true⟩, ⟨.isTradingEnabled backend.relay, true⟩]
        (execute backend.relay input >>= fun r => pure (RelayMarketExecutionPort.mapOutcome r)) w := by
  simp only [acceptedInput, bind_ok, Prod.exists] at h
  obtain ⟨intent, amountIn, hintent, quote, hquote, _, hrouter, trust, htrust, approved, happroved,
    minOut, hminOut, basis, hbasis, preview, hpreview, prepared, hprepared, h⟩ := h
  cases h
  replace hintent := mapError_eq_ok hintent
  replace hquote := mapError_eq_ok hquote
  replace happroved := mapError_eq_ok happroved
  replace hbasis := mapError_eq_ok hbasis
  replace hpreview := mapError_eq_ok hpreview
  have hnot : ¬ command.router ≠ .localRouter := not_not.2 (ensure_eq_ok.1 hrouter)
  refine ⟨⟨amountIn, hintent⟩, fun {faults t w} henabled => ?_⟩
  have hread : ∀ {f : Bool → RelayProg MarketResult} {events q},
      Plays (relayHost faults) t (f true) w events q w →
      Plays (relayHost faults) t (ask (.isTradingEnabled backend.relay) >>= f) w
        (⟨.isTradingEnabled backend.relay, true⟩ :: events) q w :=
    fun hf => .call (H := relayHost faults) ⟨henabled.symm, rfl⟩ hf
  simp only [executeMarketOrder, hintent, hquote, RelayMarketExecutionPort.execute, if_neg hnot, htrust]
  refine hread ?_
  simp only [happroved, RelayMarketExecutionPort.revalidate, hminOut, hbasis]
  refine hread ?_
  simp only [hpreview, RelayMarketExecutionPort.delegate, hprepared]
  exact .refl _ _

inductive MarketCall where
  | execute (backend : MarketBackend) (sources : MarketSources) (command : MarketCommand) (nowMs : I64)
  | reconcile (backend : MarketBackend) (command : MarketCommand) (nowMs : I64)

namespace MarketCall

def body : MarketCall → RelayProg MarketResult
  | .execute backend sources command nowMs => backend.executeMarketOrder sources command nowMs
  | .reconcile backend command nowMs => backend.reconcileMarketOrder command nowMs

def config : MarketCall → TradingBackendConfig
  | .execute backend _ _ _ | .reconcile backend _ _ => backend.config

def command : MarketCall → MarketCommand
  | .execute _ _ command _ | .reconcile _ command _ => command

def isExecute : MarketCall → Bool
  | .execute _ _ _ _ => true
  | .reconcile _ _ _ => false

variable (c : MarketCall)

/-- The attempt a call is about. A command that is refused has no identity and does not reach the
relay; its call is given a binding that nothing is done with. -/
def binding : AttemptBinding :=
  match previewIntent c.config c.command with
  | .ok (intent, _) => .fromIntent intent
  | .error _ => ⟨c.config.owner, c.config.walletRef, .lit "-", .lit "-", c.config.chain⟩

def key : DurableKey := c.binding.key

lemma key_eq {c : MarketCall} {intent : TradeIntent} {amountIn : AtomicAmount}
    (h : previewIntent c.config c.command = .ok (intent, amountIn)) :
    c.key = (AttemptBinding.fromIntent intent).key := by
  simp only [key, binding, h]

def entry : Phase :=
  if c.isExecute then .unclaimed c.binding else .observing c.binding none

lemma startsFresh : StartsFresh entry
  | .execute _ _ _ _ => .inl ⟨_, rfl⟩
  | .reconcile _ _ _ => .inr ⟨_, rfl⟩

lemma entry_key : (entry c).binding.key = c.key := by
  cases c <;> rfl

lemma entry_executing : (entry c).executing = c.isExecute := by
  cases c <;> rfl

/-- What a call may report in a phase: a refusal before it reaches the relay, or what the relay
returned. -/
def Ends (p : Phase) (v : MarketResult) : Prop :=
  (∃ e, v = .error e) ∨ ∃ r, Phase.Ends p r ∧ RelayMarketExecutionPort.mapOutcome r = v

lemma execute_follows (backend : MarketBackend) (sources : MarketSources)
    (request : MarketExecutionRequest) :
    (relayCode entry Ends).Follows Ends (.unclaimed (.fromIntent request.intent))
      (RelayMarketExecutionPort.execute backend sources request) := by
  have hrefuse : ∀ (p : Phase) (e : MarketExecutionError), Ends p (.error e) := fun _ e => .inl ⟨e, rfl⟩
  unfold RelayMarketExecutionPort.execute
  refine follows_ite (fun _ => hrefuse _ _) fun _ => ?_
  rcases sources.trust request with e | trust
  · exact hrefuse _ e
  refine follows_quiet rfl fun enabled => ?_
  rcases PolicyEngine.authorizeTrade enabled backend.limits request.intent trust.policyContext
    with e | approved
  · exact hrefuse _ _
  simp only [RelayMarketExecutionPort.revalidate]
  rcases marketMinOut request.intent request.quote.plan with e | minOut
  · exact hrefuse _ e
  simp only
  rcases evaluateTaxSafety request.intent (some trust.taxObservation) request.nowMs
    trust.freshnessPolicy with e | basis
  · exact hrefuse _ _
  refine follows_quiet rfl fun enabled' => ?_
  rcases revalidatePreSign (RelayMarketExecutionPort.revalidationInput backend.limits request trust
    approved minOut basis enabled') with e | preview
  · exact hrefuse _ _
  simp only [RelayMarketExecutionPort.delegate]
  rcases sources.preparedRef request.intent with e | prepared
  · exact hrefuse _ e
  let input : RelayExecutionInput :=
    ⟨request.intent, prepared, approved, request.quote.plan, preview, request.nowMs⟩
  have hrelay : (relayCode entry Ends).Follows Phase.Ends (.unclaimed (.fromIntent input.intent))
      (PrivateExecution.execute backend.relay input) := PrivateExecution.execute_follows _ input
  exact hrelay.bind fun p r hr => .inr ⟨r, hr, rfl⟩

lemma follows : (relayCode entry Ends).Follows Ends (entry c) c.body := by
  cases c with
  | execute backend sources command nowMs =>
    simp only [entry, isExecute, binding, config, MarketCall.command, body,
      MarketBackend.executeMarketOrder, if_true]
    rcases previewIntent backend.config command with e | ⟨intent, amountIn⟩
    · exact .inl ⟨_, rfl⟩
    simp only
    rcases sources.quote intent amountIn nowMs command.router with e | quote
    · exact .inl ⟨_, rfl⟩
    exact execute_follows backend sources ⟨intent, quote, nowMs, command.router⟩
  | reconcile backend command nowMs =>
    simp only [entry, isExecute, binding, config, MarketCall.command, body,
      MarketBackend.reconcileMarketOrder]
    rcases previewIntent backend.config command with e | ⟨intent, amountIn⟩
    · exact .inl ⟨_, rfl⟩
    exact (reconcile_follows backend.relay nowMs).bind fun p r hr => .inr ⟨r, hr, rfl⟩

lemma Ends.failed {p : Phase} (h : Ends p (.ok .failed)) :
    p.KnowsRejected ∨ p.GivesUp ∨ p.refused = true ∨ ∃ b, p = .blind b := by
  obtain ⟨e, he⟩ | ⟨r, hends, hr⟩ := h
  · cases he
  have hok : ∀ o, r = .ok o → (∃ reason, o = .rejected reason) ∨ o = .failedBeforeSubmit := by
    rintro o rfl
    cases o with
    | rejected reason => exact .inl ⟨reason, rfl⟩
    | failedBeforeSubmit => exact .inr rfl
    | confirmed reference fill => cases fill <;> cases hr
    | prepared | reserved | signed | submitted | unknown => cases hr
  refine (hends.negative hok ⟨?_, ?_⟩).imp_left And.left
  · rintro rfl
    cases hr
  · rintro rfl
    cases hr

end MarketCall

/-! ### The verdict -/

abbrev marketPool : Code MarketCall RelayOp RelayOp.Ans MarketResult := Code.ofProg MarketCall.body

/-- In every run, from its start to any point of it: if an `execute` or a `reconcile` that was told
what became of the attempt reports `Failed`, then the adapter reported a rejection of the attempt,
or nothing is sent for it, neither before nor after. -/
theorem failed_not_traded {faults : Bool} {relays : RelaySetup}
    {σ : Config RelayWorld MarketCall RelayOp RelayOp.Ans MarketResult marketPool.State}
    (h : Reach (relayHost faults) marketPool (.boot relays) σ) {t : Tid} {c : MarketCall}
    (hret : .returned t c (.ok .failed) ∈ σ.trace)
    (hinformed : Informed MarketCall.isExecute MarketCall.key t c σ.trace) :
    RejectionSeen c.key σ.trace ∨ submits c.key σ.trace = 0 := by
  obtain ⟨τ, hτ, hm⟩ := h.follows MarketCall.follows
  rw [← hm.trace] at hinformed hret ⊢
  obtain ⟨p, hends, hknown, hbelongs⟩ := known_of_returned MarketCall.startsFresh hτ hret
  rcases MarketCall.Ends.failed hends with hrejected | hp
  · have hkey : p.binding.key = c.key := by rw [hbelongs.2.1, MarketCall.entry_key]
    rw [← hkey]
    exact .inl (hknown.rejected hrejected)
  · exact .inr (hinformed.unsent hτ MarketCall.entry_key MarketCall.entry_executing hknown hbelongs hp)

lemma RejectionSeen.asked {Call Ret : Type} {k : DurableKey} {trace : List (RelayLabel Call Ret)}
    (h : RejectionSeen k trace) : ∃ t o r, .did t o r ∈ trace ∧ o.asksChain = true ∧
      ∀ b request, (⟨o, r⟩ : Σ o : RelayOp, o.Ans) ≠ ⟨.submit b request, .error .adapterTimeout⟩ := by
  obtain ⟨t, b, -, ⟨request, h⟩ | ⟨request, now, reason, h | h⟩⟩ := h
  · exact ⟨t, _, _, h, rfl, fun _ _ he => by cases he⟩
  · exact ⟨t, _, _, h, rfl, fun _ _ he => by cases he⟩
  · exact ⟨t, _, _, h, rfl, fun _ _ he => by cases he⟩

end

namespace Sample

attribute [local instance] Sha256.sha2

def limits : PolicyLimits where
  maxTradeUsd := .lit 100
  maxHourlyTurnoverUsd := .lit 100
  maxDailyTurnoverUsd := .lit 100
  maxBuyTax := .lit 0
  maxSellTax := .lit 0
  maxPriceImpact := .lit 100
  maxSlippage := .lit 50
  allowedChains := [.base]
  allowedVenues := []
  tradeUsd_ne := by decide
  hourly_le := by decide
  daily_le := by decide
  chains_ne := base_ne_nil
  venues_notBlank := notBlank_nil

def backend (relay : RelayId) : MarketBackend where
  config := ⟨intent.userId, intent.walletRef, .base, intent.risk⟩
  relay := relay
  limits := limits

def command : MarketCommand where
  channel := .web
  tokenIn := ⟨.base, "0xusdc"⟩
  tokenOut := ⟨.base, "0xweth"⟩
  side := .buy
  amount := .tokenAtomic (.lit 1000)
  maxSlippageBps := none
  maxPriceImpactBps := none
  router := .localRouter

def sources : MarketSources where
  quote _ _ _ _ := .ok
    { plan := input.route
      netDelta := ⟨usdc, weth, ⟨usdc, .lit 1000⟩, ⟨weth, .lit 7⟩,
        ⟨weth, .lit 7⟩, some ⟨usdc, .lit 3⟩, none⟩ }
  trust _ := .ok
    { policyContext := ⟨nowMs, .lit 1, ⟨Unsigned.zero, Unsigned.zero⟩, none, by decide, notBlank_none⟩
      walletBalance := ⟨intent.walletRef, .base, usdc, .lit 1000, input.route.state⟩
      allowance := .notRequired
      taxObservation := ⟨.base, weth, "pool", "venue", intent.walletRef, .lit 1,
        .lit 1, .lit 0, .lit 0, true, true, true, nowMs,
        .lit 1000001⟩
      allowedPrograms := []
      freshnessPolicy := .default }
  preparedRef i := .ok ⟨"prepared-2", i.id, i.idempotencyKey, by decide⟩

lemma command_binds : ∃ input signing, (backend 0).acceptedInput sources command nowMs = .ok input ∧
    input.bind payload = .ok signing := by
  have hok : ((backend 0).acceptedInput sources command nowMs >>= fun input =>
    (input.bind payload).mapError fun _ => .denied).toBool := by decide +kernel
  obtain ⟨signing, hsigning⟩ := exists_ok_of_toBool hok
  obtain ⟨input, hinput, hbind⟩ := bind_ok.1 hsigning
  exact ⟨input, signing, hinput, mapError_eq_ok hbind⟩

lemma command_submits (faults : Bool) (answer : Except RelayError SubmissionReceipt) :
    ∃ (σ : Config RelayWorld MarketCall RelayOp RelayOp.Ans MarketResult marketPool.State)
      (request : SubmitRequest) (events : List (Σ o : RelayOp, o.Ans)) (intent : TradeIntent)
      (amountIn : AtomicAmount), Reach (relayHost faults) marketPool (.boot relays) σ ∧
      previewIntent (backend 0).config command = .ok (intent, amountIn) ∧
      σ.trace = .returned 0 (.execute (backend 0) sources command nowMs)
        (RelayMarketExecutionPort.mapOutcome (.ok (settledOutcome answer))) ::
        ((events.map fun e => .did 0 e.1 e.2).reverse ++
          [.started 0 (.execute (backend 0) sources command nowMs)]) ∧
      events.filter (fun e => e.1.asksChain) = [⟨.submit (.fromIntent intent) request, answer⟩] ∧
      .did 0 (.submit (.fromIntent intent) request) answer ∈ σ.trace ∧
      ∀ j ≠ 0, σ.world.relays j = (RelayWorld.boot relays).relays j := by
  obtain ⟨input, signing, hinput, hbind⟩ := command_binds
  obtain ⟨⟨amountIn, hintent⟩, hplays⟩ := MarketBackend.acceptedInput_spec hinput
  obtain ⟨request, hrun⟩ : ∃ request, Completes faults 0 0 (.fromIntent input.intent)
      (some ⟨.submit (.fromIntent input.intent) request, answer⟩) (settledOutcome answer)
      (execute 0 input) (.boot relays) :=
    execute_submits (calm_boot _ _) rfl hbind signing.attests_signed answer
  obtain ⟨σ, events, hσ, htrace, hasked, hsub, -, hother⟩ := hrun.reach MarketCall.body
    (.execute (backend 0) sources command nowMs) RelayMarketExecutionPort.mapOutcome
    (σ := .boot (.boot relays)) (hplays rfl) rfl .refl
  exact ⟨σ, request, events, input.intent, amountIn, hσ, hintent, htrace, hasked, hsub, hother⟩

def overTelegram : MarketCommand := { command with channel := .telegram }

lemma overTelegram_preview {intent : TradeIntent} {amountIn : AtomicAmount}
    (h : previewIntent (backend 0).config command = .ok (intent, amountIn)) :
    previewIntent (backend 0).config overTelegram = .ok ({ intent with source := .telegram }, amountIn) := by
  rw [overTelegram, previewIntent_channel, h]
  rfl

end Sample

section

attribute [local instance] Sha256.sha2

/-- The verdict is wrong for the sample order: it is submitted and the adapter times out, the process
restarts with an empty journal, and a `reconcile` of the same command, later and over another
channel, reports `Failed` because the store is unavailable. -/
theorem failed_after_submission :
    ∃ (σ : Config RelayWorld MarketCall RelayOp RelayOp.Ans MarketResult marketPool.State)
      (t : Tid) (c : MarketCall), Reach (relayHost true) marketPool (.boot Sample.relays) σ ∧
      .returned t c (.ok .failed) ∈ σ.trace ∧ ¬ RejectionSeen c.key σ.trace ∧ 0 < submits c.key σ.trace := by
  obtain ⟨σ, request, events, intent, amountIn, hσ, hintent, htrace, hasked, hsub, hother⟩ :=
    Sample.command_submits true (.error .adapterTimeout)
  let later : I64 := .lit 2000000
  let c : MarketCall := .reconcile (Sample.backend 1) Sample.overTelegram later
  have hpreview : previewIntent c.config c.command =
      .ok ({ intent with source := .telegram }, amountIn) := Sample.overTelegram_preview hintent
  have hbody : c.body = PrivateExecution.reconcile 1 (.fromIntent intent) later >>=
      fun r => pure (RelayMarketExecutionPort.mapOutcome r) := by
    change (match previewIntent c.config c.command with | .error e => _ | .ok (_, _) => _) = _
    rw [hpreview]
    rfl
  have hkey : c.key = (AttemptBinding.fromIntent intent).key := by
    rw [MarketCall.key_eq hpreview]
    rfl
  -- the second process: neither the outcome nor the submission can be read
  have hjournal : (σ.world.relays 1).journal (AttemptBinding.fromIntent intent).key = none := by
    rw [hother 1 (by decide)]
    rfl
  obtain ⟨τ, hτ, -, htrace'⟩ := hσ.call (c := c) (by
    rw [hbody]
    exact reconcile_blind RelayMarketExecutionPort.mapOutcome hjournal)
  refine ⟨τ, σ.next, c, hτ, ?_, ?_, ?_⟩
  · rw [htrace']
    exact .head _
  · intro hseen
    obtain ⟨t, o, r, hdid, hasks, hne⟩ := hseen.asked
    rw [htrace', did_mem_call, htrace, did_mem_call] at hdid
    rcases hdid with ⟨-, he⟩ | ⟨-, he⟩ | hnil
    · simp only [List.mem_cons, List.not_mem_nil, or_false] at he
      rcases he with he | he | he <;> cases he <;> cases hasks
    · have hsubmit : ⟨o, r⟩ ∈ events.filter fun e => e.1.asksChain := List.mem_filter.2 ⟨he, hasks⟩
      rw [hasked] at hsubmit
      exact hne _ _ (List.mem_singleton.1 hsubmit)
    · cases hnil
  · have hmem : .did 0 (.submit (.fromIntent intent) request) (.error .adapterTimeout) ∈ τ.trace := by
      rw [htrace']
      exact .tail _ (List.mem_append_right _ (.tail _ hsub))
    rw [hkey]
    exact submits_pos hmem

/-- The sample order is submitted and rejected: `Failed` is reported, and the rejection was seen. -/
theorem rejected_order_failed :
    ∃ (σ : Config RelayWorld MarketCall RelayOp RelayOp.Ans MarketResult marketPool.State)
      (c : MarketCall), Reach (relayHost true) marketPool (.boot Sample.relays) σ ∧
      .returned 0 c (.ok .failed) ∈ σ.trace ∧
      Informed MarketCall.isExecute MarketCall.key 0 c σ.trace ∧ 0 < submits c.key σ.trace ∧
      (RejectionSeen c.key σ.trace ∨ submits c.key σ.trace = 0) := by
  obtain ⟨σ, request, events, intent, amountIn, hσ, hintent, htrace, -, hsub, -⟩ :=
    Sample.command_submits true (.error .adapterRejected)
  let c : MarketCall := .execute (Sample.backend 0) Sample.sources Sample.command Sample.nowMs
  have hret : .returned 0 c (.ok .failed) ∈ σ.trace := by
    rw [htrace]
    exact .head _
  have hinformed : Informed MarketCall.isExecute MarketCall.key 0 c σ.trace := by
    refine ⟨fun _ _ t' c' hstart _ _ => ?_, fun hreconcile => ?_⟩
    · rw [htrace, started_mem_call] at hstart
      rcases hstart with ⟨rfl, -⟩ | hnil
      · rfl
      · cases hnil
    · cases hreconcile
  have hkey : c.key = (AttemptBinding.fromIntent intent).key := MarketCall.key_eq hintent
  refine ⟨σ, c, hσ, hret, hinformed, ?_, failed_not_traded hσ hret hinformed⟩
  rw [hkey]
  exact submits_pos hsub

end

end PrivateExecution
