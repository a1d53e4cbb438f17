import PrivateExecution.Policy.Wallet
import PrivateExecution.Routing.Quote

/-!
# The impact ceiling, end to end

The policy engine compares the impact cap of an intent with the ceiling of the limits; the router holds
the routes of that intent against the cap. The two read the field alike except at zero, which the engine
takes for the strictest cap and the router for none (`agent-backend/src/trade.rs` calls it the
"unbounded" sentinel).
-/

namespace PrivateExecution.Routing

open PolicyEngine

/-- Every route that is quoted for the intent with depth targets reports an impact within the ceiling. -/
def Enforced (ceiling : Bps) (intent : TradeIntent) : Prop :=
  ∀ (req : RouteRequest) (descriptors : List PoolDescriptor) (path : CandidatePath) (q : RouteQuote),
    req.intent = intent → req.depthTargets ≠ [] → quotePath req descriptors path = .ok q →
      ∃ i, q.routeImpactBps = some i ∧ i ≤ ceiling

lemma checkImpact_eq_ok {cap : Bps} {impact : Option Bps} (hcap : 0 < cap.get)
    (h : checkImpact cap impact = .ok ()) : ∃ i, impact = some i ∧ i ≤ cap := by
  unfold checkImpact at h
  rw [if_neg hcap.ne'] at h
  cases impact with
  | none => cases h
  | some i => exact ⟨i, rfl, ensure_eq_ok.1 h⟩

/-! ### A pool without depth -/

variable (intent : TradeIntent)

def thinPool : CpmmPoolState where
  token0 := intent.tokenIn
  token1 := intent.tokenOut
  decimals0 := .lit 6
  decimals1 := .lit 6
  reserve0 := .lit 1
  reserve1 := .lit 1000000
  totalLpSupply := none
  feeBps := .lit 0

def thinDescriptor : PoolDescriptor where
  envelope := ⟨⟨intent.chain, "thin"⟩, .lit 1, .lit 1000, .cpmm (thinPool intent)⟩
  venue := .lit "dex"
  legPoolRef := .lit "thin"
  impactOverrideBps := none

def thinRequest : RouteRequest where
  intent := intent
  descriptors := [thinDescriptor intent]
  amountIn := .lit 100000000
  assessment := ⟨assessedAssetForIntent intent, intent.chain, .lit 0, .lit 0,
    ⟨.fresh, .lit 1000, .lit 1⟩, .lit 1⟩
  maxHops := 1
  nowMs := .lit 1000
  freshnessPolicy := .default
  scoring := ⟨.lit 0, .lit 0, .lit 0, .lit 0, .zero⟩
  gas := none
  gasPriceInOutput := none
  depthTargets := [(.lit 100)]

structure ValidPair (intent : TradeIntent) : Prop where
  tokenIn : intent.tokenIn.isValid = true
  tokenOut : intent.tokenOut.isValid = true
  ne : intent.tokenIn ≠ intent.tokenOut
  chainIn : intent.tokenIn.chain = intent.chain
  chainOut : intent.tokenOut.chain = intent.chain

lemma validPair_of_validate {intent : TradeIntent} {nowMs : I64} (h : intent.validate nowMs = .ok ()) :
    ValidPair intent := by
  unfold TradeIntent.validate at h
  obtain ⟨_, -, h⟩ := bind_ok.1 h
  obtain ⟨_, -, h⟩ := bind_ok.1 h
  obtain ⟨_, -, h⟩ := bind_ok.1 h
  obtain ⟨_, -, h⟩ := bind_ok.1 h
  simp only [ensure_ok] at h
  obtain ⟨-, hin, hout, -, hne, ⟨hchainIn, hchainOut⟩, -⟩ := h
  exact ⟨hin, hout, hne, hchainIn, hchainOut⟩

section

variable {intent : TradeIntent} (h : ValidPair intent)
include h

lemma thinPool_valid : (thinPool intent).validate = .ok () := by
  simp [CpmmPoolState.validate, validatePair, thinPool, ensure_ok, ensure_eq_ok, h.tokenIn,
    h.tokenOut, h.ne, h.chainIn, h.chainOut, maxDecimals]

lemma thin_hop : simulateHop (thinDescriptor intent) intent.tokenIn intent.tokenOut
    (.lit 100000000) true = .ok ⟨.lit 999999, none, .cpmm, some (.lit 9999)⟩ := by
  have hruns : ((cpmmAmounts (.lit 1) (.lit 1000000) (.lit 100000000)
      (.lit 0)).toOption.map fun a =>
        (a.fee, a.effectiveInput, a.amountOut, a.resultingReserveIn)) =
      some ((.lit 0), .lit 100000000, .lit 999999,
        (.lit 100000001)) := by
    decide +kernel
  obtain ⟨a, ha, hvalues⟩ := Option.map_eq_some_iff.1 hruns
  simp only [Prod.mk.injEq] at hvalues
  obtain ⟨hfee, heff, hout, hres⟩ := hvalues
  have hquote : simulateCpmmExactInput (thinPool intent) ⟨intent.tokenIn, .lit 100000000,
      some intent.tokenOut⟩ = .ok ⟨⟨intent.tokenIn, .lit 100000000⟩, ⟨intent.tokenOut, a.amountOut⟩,
        ⟨intent.tokenIn, a.fee⟩, ⟨intent.tokenIn, a.effectiveInput⟩, .lit 0, a.resultingReserveIn,
        a.resultingReserveOut, a.resultingReserveIn, a.resultingReserveOut⟩ := by
    refine bind_ok.2 ⟨(), by rw [thinPool_valid h]; rfl, ?_⟩
    refine ensure_ok.2 ⟨by simp, ensure_ok.2 ⟨by simp [thinPool],
      ensure_ok.2 ⟨rfl, ?_⟩⟩⟩
    refine bind_ok.2 ⟨true, by simp [isToken0In, thinPool, okOr], ?_⟩
    refine ensure_ok.2 ⟨by simp [thinPool], ensure_ok.2 ⟨by simp [thinPool], ?_⟩⟩
    exact bind_ok.2 ⟨a, toOption_eq_some ha, rfl⟩
  refine bind_ok.2 ⟨_, by rw [hquote]; rfl, ?_⟩
  have himpact : cpmmImpactBps ((.lit 100000000) : U128) (.lit 100000001)
      (.lit 100000000) = some (.lit 9999) := by decide +kernel
  simp only [hfee, heff, hout, hres, himpact, nonzero]
  rfl

lemma thin_applyTax (zeroGross zeroNet : TaxSafetyError) {amount : AtomicAmount} (hpos : amount.val ≠ 0) :
    applyTax (thinRequest intent).assessment (.lit 0) zeroGross zeroNet
      ⟨assessedAssetForIntent intent, amount⟩ =
        .ok (⟨assessedAssetForIntent intent, .zero⟩, ⟨assessedAssetForIntent intent, amount⟩) := by
  have hchain : (assessedAssetForIntent intent).chain = intent.chain := by
    unfold assessedAssetForIntent
    split <;> simp only [h.chainIn, h.chainOut]
  obtain ⟨tax, net, hsplit, htax, hsum⟩ := taxSplit_eq amount (.lit 0)
  have hzero : tax = .zero := Unsigned.ext (by simpa [Unsigned.zero] using htax)
  have hnet : net = amount := Unsigned.ext (by simp only [hzero] at hsum; simpa [Unsigned.zero] using hsum)
  subst hzero hnet
  refine bind_ok.2 ⟨(), rfl, ensure_ok.2 ⟨⟨hchain, rfl⟩, ensure_ok.2 ⟨rfl,
    ensure_ok.2 ⟨hpos, bind_ok.2 ⟨_, hsplit, ensure_ok.2 ⟨hpos, rfl⟩⟩⟩⟩⟩⟩

lemma thin_inputTax : inputTax (thinRequest intent) = .ok ((.lit 100000000), none) := by
  unfold inputTax
  cases hside : intent.side with
  | buy => simp only [thinRequest, hside]
  | sell =>
    have htax := thin_applyTax h .zeroGrossInput .zeroNetInput
      (show ((.lit 100000000) : AtomicAmount).val ≠ 0 by simp)
    rw [show assessedAssetForIntent intent = intent.tokenIn by simp [assessedAssetForIntent, hside]] at htax
    have hsell : applySellTaxToInput (thinRequest intent).assessment
        ⟨(thinRequest intent).intent.tokenIn, (thinRequest intent).amountIn⟩ = .ok _ :=
      bind_ok.2 ⟨_, htax, rfl⟩
    simp only [show (thinRequest intent).intent.side = .sell from hside]
    exact bind_ok.2 ⟨_, by rw [Fault.typed_eq_ok.2 hsell]; rfl, rfl⟩

lemma thin_outputTax : outputTax (thinRequest intent) (.lit 999999) none = .ok ((.lit 999999), none) := by
  unfold outputTax
  cases hside : intent.side with
  | sell => simp only [thinRequest, hside]
  | buy =>
    have htax := thin_applyTax h .zeroGrossOutput .zeroNetOutput
      (show ((.lit 999999) : AtomicAmount).val ≠ 0 by simp)
    rw [show assessedAssetForIntent intent = intent.tokenOut by simp [assessedAssetForIntent, hside]] at htax
    have hbuy : applyBuyTaxToOutput (thinRequest intent).assessment
        ⟨(thinRequest intent).intent.tokenOut, .lit 999999⟩ = .ok _ :=
      bind_ok.2 ⟨_, htax, rfl⟩
    simp only [show (thinRequest intent).intent.side = .buy from hside]
    exact bind_ok.2 ⟨_, by rw [Fault.typed_eq_ok.2 hbuy]; rfl, rfl⟩

lemma thin_quote (hcap : intent.risk.maxPriceImpact.get = 0) :
    ∃ q, quotePath (thinRequest intent) [thinDescriptor intent]
        ⟨[⟨0, intent.tokenIn, intent.tokenOut⟩]⟩ = .ok q ∧ q.routeImpactBps = some (.lit 9999) := by
  have hfresh : pathFreshness (thinRequest intent) [thinDescriptor intent]
      [⟨0, intent.tokenIn, intent.tokenOut⟩] .start =
        .ok ⟨.lit 1000, some (.lit 1)⟩ := rfl
  have hhops : composeHops [thinDescriptor intent] true [⟨0, intent.tokenIn, intent.tokenOut⟩]
      (.lit 100000000) = .ok ([⟨"dex", "thin", intent.tokenIn, intent.tokenOut,
        .lit 100000000, .lit 999999, none, .cpmm, some (.lit 9999)⟩],
        (.lit 999999)) :=
    bind_ok.2 ⟨_, rfl, bind_ok.2 ⟨_, thin_hop h,
      ensure_ok.2 ⟨by simp, bind_ok.2 ⟨_, rfl, rfl⟩⟩⟩⟩
  have hplan : (⟨[⟨"dex", "thin", intent.tokenIn, intent.tokenOut, .lit 100000000,
      .lit 999999⟩], ⟨intent.tokenOut, .lit 999999⟩,
      ⟨.lit 1000, .zero, .lit 1⟩⟩ : RoutePlan).validate = .ok () := by
    have hdex : isBlank "dex" = false := by decide
    have hthin : isBlank "thin" = false := by decide
    simp [RoutePlan.validate, RouteLeg.validate, ensure_ok, ensure_eq_ok, h.tokenIn, h.tokenOut,
      h.ne, legsContiguous, hdex, hthin]
  have hdelta : (⟨intent.tokenIn, intent.tokenOut, ⟨intent.tokenIn, .lit 100000000⟩,
      ⟨intent.tokenOut, .lit 999999⟩, ⟨intent.tokenOut, .lit 999999⟩, none, none⟩ :
      NetDelta).validate = .ok () := by
    simp [NetDelta.validate, NetDelta.require, ensure_ok, ensure_eq_ok, h.ne, h.chainIn, h.chainOut]
    exact le_refl (999999 : ℕ)
  exact ⟨_, ensure_ok.2 ⟨by simp, bind_ok.2 ⟨_, hfresh, bind_ok.2 ⟨_, rfl,
    bind_ok.2 ⟨_, thin_inputTax h, ensure_ok.2 ⟨by simp, bind_ok.2 ⟨_, hhops,
      bind_ok.2 ⟨(), if_pos hcap, bind_ok.2 ⟨_, thin_outputTax h,
        ensure_ok.2 ⟨by simp, bind_ok.2 ⟨(), congrArg (Except.mapError _) hplan,
          bind_ok.2 ⟨(), congrArg (Except.mapError _) hdelta, rfl⟩⟩⟩⟩⟩⟩⟩⟩⟩⟩⟩, rfl⟩

end

/-! ### The ceiling -/

theorem approved_quote_within_ceiling {enabled : Bool} {limits : PolicyLimits} {intent : TradeIntent}
    {ctx : PolicyContext} (happroves : Approves enabled limits intent ctx) :
    (0 < intent.risk.maxPriceImpact.get → Enforced limits.maxPriceImpact intent) ∧
      (limits.maxPriceImpact.get < 9999 → Enforced limits.maxPriceImpact intent →
        0 < intent.risk.maxPriceImpact.get) := by
  have hpasses := approves_iff.1 happroves
  constructor
  · rintro hcap req descriptors path q rfl - hq
    obtain ⟨i, hi, hle⟩ := checkImpact_eq_ok hcap (quotePath_inv hq).impact
    obtain ⟨-, -, hceiling, -⟩ := hpasses.risk
    exact ⟨i, hi, Nat.le_trans hle hceiling⟩
  · intro hceiling henforced
    by_contra hcap
    obtain ⟨q, hq, himpact⟩ := thin_quote (validPair_of_validate hpasses.valid) (by omega)
    obtain ⟨i, hi, hle⟩ := henforced (thinRequest intent) _ _ q rfl (List.cons_ne_nil _ _) hq
    rw [himpact] at hi
    obtain rfl := Option.some.inj hi
    exact absurd hle (Nat.not_le.2 hceiling)

namespace Ceiling

/-- Limits that let trades of at most a dollar through, at one percent of impact. -/
def limits : PolicyLimits where
  maxTradeUsd := .lit 1000000
  maxHourlyTurnoverUsd := .lit 1000000
  maxDailyTurnoverUsd := .lit 1000000
  maxBuyTax := .lit 100
  maxSellTax := .lit 100
  maxPriceImpact := .lit 100
  maxSlippage := .lit 100
  allowedChains := [.base]
  allowedVenues := []
  tradeUsd_ne := by decide
  hourly_le := le_refl (1000000 : ℕ)
  daily_le := le_refl (1000000 : ℕ)
  chains_ne := base_ne_nil
  venues_notBlank := notBlank_nil

/-- The smallest buy, with an impact cap of its own. -/
def capped (cap : Bps) : TradeIntent :=
  { Smallest.intent .base with risk := ⟨.lit 0, .lit 0, cap, .lit 0, none⟩ }

end Ceiling

open Ceiling in
theorem capped_quote_within_ceiling :
    Approves true limits (capped (.lit 50)) Smallest.ctx ∧ Enforced (.lit 100) (capped (.lit 50)) := by
  have happroves : Approves true limits (capped (.lit 50)) Smallest.ctx :=
    exists_ok_of_toBool (by decide +kernel)
  exact ⟨happroves, (approved_quote_within_ceiling happroves).1 (by decide)⟩

open Ceiling in
/-- The engine takes a cap of zero for the strictest one, and the router quotes an impact of 9999 basis
points for it. -/
theorem zero_cap_quoted_above_ceiling : ∃ req q,
    Approves true limits req.intent Smallest.ctx ∧ req.depthTargets ≠ [] ∧
      quotePath req req.descriptors ⟨[⟨0, req.intent.tokenIn, req.intent.tokenOut⟩]⟩ = .ok q ∧
      q.routeImpactBps = some (.lit 9999) ∧ limits.maxPriceImpact = (.lit 100) := by
  have happroves : Approves true limits (capped (.lit 0)) Smallest.ctx :=
    exists_ok_of_toBool (by decide +kernel)
  obtain ⟨q, hq, himpact⟩ := thin_quote (validPair_of_validate (approves_iff.1 happroves).valid) rfl
  exact ⟨thinRequest (capped (.lit 0)), q, happroves, List.cons_ne_nil _ _, hq, himpact, rfl⟩

end PrivateExecution.Routing
