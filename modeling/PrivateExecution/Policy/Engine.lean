import PrivateExecution.Privy.Signing

/-!
# The policy engine

The authority every trade is checked against (`policy/src/lib.rs`): the kill switch, the intent's
own validation, the trusted valuation, the chain, the size and turnover limits, the risk caps and
the venue, in this order. An approval carries the identity of the intent it was given for
(`PolicyEngine.authorizeTrade_spec`).
-/

namespace PrivateExecution

abbrev UsdMicros := U64

inductive PolicyError where
  | tradingDisabled | invalidTradingEnabled | invalidLimits | intentInvalid | chainNotAllowed
  | invalidValuation | valuationMismatch | valuationOutOfRange | tradeSizeExceeded
  | hourlyTurnoverExceeded | dailyTurnoverExceeded | turnoverOverflow | riskLimitExceeded
  | venueNotAllowed

structure PolicyLimits where
  maxTradeUsd : UsdMicros
  maxHourlyTurnoverUsd : UsdMicros
  maxDailyTurnoverUsd : UsdMicros
  maxBuyTax : Bps
  maxSellTax : Bps
  maxPriceImpact : Bps
  maxSlippage : Bps
  allowedChains : List ChainId
  allowedVenues : List String
  tradeUsd_ne : maxTradeUsd.val ≠ 0
  hourly_le : maxTradeUsd ≤ maxHourlyTurnoverUsd
  daily_le : maxTradeUsd ≤ maxDailyTurnoverUsd
  chains_ne : allowedChains ≠ []
  venues_notBlank : ∀ v ∈ allowedVenues, isBlank v = false

structure TurnoverSnapshot where
  hourlyUsedUsd : UsdMicros
  dailyUsedUsd : UsdMicros

structure PolicyContext where
  nowMs : I64
  tradeUsd : UsdMicros
  turnover : TurnoverSnapshot
  venue : Option String
  tradeUsd_ne : tradeUsd.val ≠ 0
  venue_notBlank : ∀ v ∈ venue, isBlank v = false

lemma notBlank_none : ∀ v ∈ (none : Option String), isBlank v = false := nofun

lemma base_ne_nil : [ChainId.base] ≠ [] := List.cons_ne_nil _ _

lemma notBlank_nil : ∀ v ∈ ([] : List String), isBlank v = false := nofun

namespace PolicyEngine

def checkValuation (intent : TradeIntent) (ctx : PolicyContext) : Except PolicyError Unit := do
  ensure (ctx.tradeUsd.val ≠ 0) .invalidValuation
  if intent.amountType = .usdMicros then
    ensure (intent.amount.val < 2 ^ 64) .valuationOutOfRange
    ensure (intent.amount.val = ctx.tradeUsd.val) .valuationMismatch

def checkTurnover (used trade limit : UsdMicros) (exceeded : PolicyError) : Except PolicyError Unit := do
  let total ← okOr (used.checkedAdd trade) .turnoverOverflow
  ensure (total ≤ limit) exceeded

def checkVenue (allowed : List String) (venue : Option String) : Except PolicyError Unit :=
  if allowed = [] then .ok ()
  else do
    let v ← okOr venue .venueNotAllowed
    ensure (v ∈ allowed) .venueNotAllowed

/-- Authorizes a trade. `enabled` is what the live kill switch reads. -/
def authorizeTrade (enabled : Bool) (limits : PolicyLimits) (intent : TradeIntent)
    (ctx : PolicyContext) : Except PolicyError ApprovedExecution := do
  ensure (enabled = true) .tradingDisabled
  (intent.validate ctx.nowMs).mapError fun _ => .intentInvalid
  checkValuation intent ctx
  ensure (intent.chain ∈ limits.allowedChains) .chainNotAllowed
  ensure (ctx.tradeUsd ≤ limits.maxTradeUsd) .tradeSizeExceeded
  checkTurnover ctx.turnover.hourlyUsedUsd ctx.tradeUsd limits.maxHourlyTurnoverUsd
    .hourlyTurnoverExceeded
  checkTurnover ctx.turnover.dailyUsedUsd ctx.tradeUsd limits.maxDailyTurnoverUsd
    .dailyTurnoverExceeded
  ensure (intent.risk.maxBuyTax ≤ limits.maxBuyTax ∧ intent.risk.maxSellTax ≤ limits.maxSellTax ∧
    intent.risk.maxPriceImpact ≤ limits.maxPriceImpact ∧
    intent.risk.maxSlippage ≤ limits.maxSlippage) .riskLimitExceeded
  checkVenue limits.allowedVenues ctx.venue
  return ⟨intent.id, intent.walletRef, intent.chain, intent.idempotencyKey, intent.expiryMs,
    ctx.tradeUsd, ctx.nowMs⟩

end PolicyEngine

end PrivateExecution
