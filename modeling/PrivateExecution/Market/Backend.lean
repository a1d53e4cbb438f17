import PrivateExecution.Privy.Signing

/-!
# Market commands

The part of the agent backend that turns a market command into a trade intent
(`agent-backend/src/trade.rs`). Owner, wallet, chain and risk caps come from the trusted
configuration, the command contributes the pair, the side and the amount. The identity of the intent
is a hash of the canonical command fields: neither the time nor the channel is among them, so the
same command over another channel is the same attempt (`previewIntent_channel`).
-/

namespace PrivateExecution

inductive AgentChannel where
  | mcp | telegram | web

inductive RouterSource where
  | okx | localRouter
deriving DecidableEq

inductive AmountSpec where
  | tokenAtomic (value : U128)
  | stablecoinAtomic (value : U128)
  | usdMicros (value : U64)

structure AssetRef where
  chain : ChainId
  address : String

inductive BackendError where
  | denied | unavailable

def AssetRef.isValid (a : AssetRef) : Bool :=
  !isBlank a.address && (utf8 a.address).length ≤ 128 && !a.address.toList.any isWhiteSpace &&
    a.chain.isValid

def AssetRef.toAssetId (a : AssetRef) : Option AssetId :=
  if a.isValid then
    let asset : AssetId := ⟨a.chain, a.address⟩
    if asset.isValid then some asset else none
  else none

structure MarketCommand where
  channel : AgentChannel
  tokenIn : AssetRef
  tokenOut : AssetRef
  side : TradeSide
  amount : AmountSpec
  maxSlippageBps : Option (Unsigned 16)
  maxPriceImpactBps : Option (Unsigned 16)
  router : RouterSource

structure TradingBackendConfig where
  owner : UserId
  walletRef : WalletRef
  chain : ChainId
  risk : RiskConstraints

/-! ### Identity -/

def chainCode : ChainId → String
  | .solana => "solana"
  | .base => "base"
  | .bnbChain => "bnb_chain"
  | .ethereum => "ethereum"
  | .robinhoodAssociated => "robinhood_associated"
  | .other name => "other:" ++ name

def channelSource : AgentChannel → TradeSource
  | .mcp => .mcp
  | .telegram => .telegram
  | .web => .web

def prefixedHex [Sha256] (domain label : String) (parts : List (List UInt8)) : String :=
  let layout := utf8 domain ++ parts.flatMap fun part => beBytes 8 part.length ++ part
  label ++ "-" ++ hexLower (Sha256.digest layout).toList

structure DerivedIdentity where
  idempotencyKey : String
  intentId : String

def DerivedIdentity.preview [Sha256] (parts : List (List UInt8)) : DerivedIdentity where
  idempotencyKey := prefixedHex "agent.market.preview.idem.v1" "idem" parts
  intentId := prefixedHex "agent.market.preview.intent.v1" "intent" parts

def effectiveCap (trusted : Bps) (requested : Option (Unsigned 16)) : Except BackendError Bps :=
  match requested with
  | none => .ok trusted
  | some value =>
    if h : 0 < value.val ∧ value.val ≤ trusted.get then .ok ⟨value.val, h.2.trans trusted.le⟩
    else .error .denied

def previewParts (config : TradingBackendConfig) (c : MarketCommand) (amountIn : AtomicAmount)
    (maxSlippage maxPriceImpact : Bps) : List (List UInt8) :=
  [utf8 config.owner.asStr, utf8 config.walletRef.asStr, utf8 (chainCode config.chain),
    utf8 (chainCode c.tokenIn.chain), utf8 c.tokenIn.address,
    utf8 (chainCode c.tokenOut.chain), utf8 c.tokenOut.address,
    [match c.side with
      | .buy => 1
      | .sell => 2],
    amountIn.toBeBytes, maxSlippage.toBeBytes, maxPriceImpact.toBeBytes,
    config.risk.maxBuyTax.toBeBytes, config.risk.maxSellTax.toBeBytes] ++
  match c.router with
  | .okx => [utf8 "okx"]
  | .localRouter => []

def AmountSpec.inputAmount : AmountSpec → Except BackendError AtomicAmount
  | .tokenAtomic value | .stablecoinAtomic value =>
    if 0 < value.val then .ok value else .error .denied
  | .usdMicros _ => .error .denied

def previewIntent [Sha256] (config : TradingBackendConfig) (c : MarketCommand) :
    Except BackendError (TradeIntent × AtomicAmount) := do
  ensure (c.tokenIn.chain = config.chain ∧ c.tokenOut.chain = config.chain) .denied
  let assetIn ← okOr c.tokenIn.toAssetId .denied
  let assetOut ← okOr c.tokenOut.toAssetId .denied
  ensure (assetIn ≠ assetOut) .denied
  let amountIn ← c.amount.inputAmount
  let maxSlippage ← effectiveCap config.risk.maxSlippage c.maxSlippageBps
  let maxPriceImpact ← effectiveCap config.risk.maxPriceImpact c.maxPriceImpactBps
  let derived := DerivedIdentity.preview (previewParts config c amountIn maxSlippage maxPriceImpact)
  let id ← okOr (StringId.new .intentId derived.intentId) .denied
  let key ← okOr (StringId.new .idempotencyKey derived.idempotencyKey) .denied
  return (⟨id, channelSource c.channel, config.owner, config.walletRef, config.chain, assetIn,
    assetOut, c.side, .inputAssetAtomic, amountIn, .market, none,
    ⟨config.risk.maxBuyTax, config.risk.maxSellTax, maxPriceImpact, maxSlippage, none⟩, false, none,
    Unsigned.zero, key⟩, amountIn)

lemma previewIntent_channel [Sha256] (config : TradingBackendConfig) (c : MarketCommand)
    (channel : AgentChannel) : previewIntent config { c with channel := channel } =
      (fun x => ({ x.1 with source := channelSource channel }, x.2)) <$> previewIntent config c := by
  simp only [previewIntent, map_bind, map_pure]
  rfl

end PrivateExecution
