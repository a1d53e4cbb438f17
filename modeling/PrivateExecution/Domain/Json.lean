import PrivateExecution.Domain.LimitOrder
import PrivateExecution.Privy.Signing

/-!
# The JSON form of the domain

The bytes that `serde_json::to_vec` writes for the types of the domain: compact, fields in the order
of their declaration, identifiers and amounts as plain strings and numbers, `None` as `null`.
-/

namespace PrivateExecution

/-- `serde_json::to_vec` and `serde_json::from_slice` for one type. -/
class Serde (α : Type) where
  toVec : α → Option (List UInt8)
  fromSlice : List UInt8 → Option α
  /-- What was written reads back. -/
  fromSlice_toVec : ∀ {a bytes}, toVec a = some bytes → fromSlice bytes = some a

/-- The JSON text of a value. -/
class ToJson (α : Type) where
  json : α → List UInt8

export ToJson (json)

/-- `Serde` on finitely many values with distinct texts; nothing else is written. -/
@[reducible] def Serde.ofList {α : Type} [ToJson α] [DecidableEq α] (values : List α)
    (h : ∀ a ∈ values, ∀ b ∈ values, json a = json b → a = b) : Serde α where
  toVec a := if a ∈ values then some (json a) else none
  fromSlice bytes := values.find? fun a => json a == bytes
  fromSlice_toVec := by
    intro a bytes hw
    split_ifs at hw with ha
    cases hw
    cases hfind : values.find? fun b => json b == json a with
    | none => exact absurd (beq_self_eq_true (json a)) (List.find?_eq_none.1 hfind a ha)
    | some b =>
      have heq : (json b == json a) = true := List.find?_some (p := fun b => json b == json a) hfind
      rw [h b (List.mem_of_find?_eq_some hfind) a ha (eq_of_beq heq)]

/-! ### JSON text -/

namespace Json

def escape (b : UInt8) : List UInt8 :=
  if b = 0x22 ∨ b = 0x5c then [0x5c, b]
  else if b = 0x08 then utf8 "\\b"
  else if b = 0x09 then utf8 "\\t"
  else if b = 0x0a then utf8 "\\n"
  else if b = 0x0c then utf8 "\\f"
  else if b = 0x0d then utf8 "\\r"
  else if b < 0x20 then utf8 "\\u00" ++ utf8 (hexLower [b])
  else [b]

def string (s : String) : List UInt8 := 0x22 :: (utf8 s).flatMap escape ++ [0x22]

def number (n : ℤ) : List UInt8 :=
  (if n < 0 then [0x2d] else []) ++ (Nat.toDigits 10 n.natAbs).map fun c => UInt8.ofNat c.toNat

def join : List (List UInt8) → List UInt8
  | [] => []
  | [x] => x
  | x :: y :: rest => x ++ 0x2c :: join (y :: rest)

def array (xs : List (List UInt8)) : List UInt8 := 0x5b :: join xs ++ [0x5d]

def object (fields : List (String × List UInt8)) : List UInt8 :=
  0x7b :: join (fields.map fun f => string f.1 ++ 0x3a :: f.2) ++ [0x7d]

end Json

open Json

instance {α : Type} [ToJson α] : ToJson (Option α) := ⟨fun x => x.elim (utf8 "null") json⟩
instance {α : Type} [ToJson α] : ToJson (List α) := ⟨fun xs => array (xs.map json)⟩
instance : ToJson String := ⟨string⟩
instance {w : ℕ} : ToJson (Unsigned w) := ⟨fun x => number x.val⟩
instance : ToJson I64 := ⟨fun x => number x.val⟩
instance : ToJson Bps := ⟨fun x => number x.get⟩
instance {k : IdKind} : ToJson (StringId k) := ⟨fun x => string x.asStr⟩
instance {n : ℕ} : ToJson (Vector UInt8 n) :=
  ⟨fun bytes => array (bytes.toList.map fun b => number b.toNat)⟩

instance : ToJson ChainId where
  json
    | .solana => object [("kind", string "solana")]
    | .base => object [("kind", string "base")]
    | .bnbChain => object [("kind", string "bnb_chain")]
    | .ethereum => object [("kind", string "ethereum")]
    | .robinhoodAssociated => object [("kind", string "robinhood_associated")]
    | .other value => object [("kind", string "other"), ("value", string value)]

instance : ToJson AssetId := ⟨fun a => object [("chain", json a.chain), ("address", json a.address)]⟩

instance : ToJson AssetAmount :=
  ⟨fun a => object [("asset", json a.asset), ("amount", json a.amount)]⟩

instance : ToJson PriceRatio := ⟨fun r => object
  [("numerator_atomic", json r.numeratorAtomic), ("denominator_atomic", json r.denominatorAtomic)]⟩

instance : ToJson Freshness := ⟨fun f => object
  [("observed_at_ms", json f.observedAtMs), ("chain_height", json f.chainHeight),
   ("sequence", json f.sequence)]⟩

instance : ToJson TradeSource where
  json
    | .web => string "web"
    | .mcp => string "mcp"
    | .telegram => string "telegram"
    | .internal => string "internal"

instance : ToJson TradeSide where
  json
    | .buy => string "buy"
    | .sell => string "sell"

instance : ToJson OrderType where
  json
    | .market => string "market"
    | .limit => string "limit"

instance : ToJson AmountType where
  json
    | .inputAssetAtomic => string "input_asset_atomic"
    | .outputAssetAtomic => string "output_asset_atomic"
    | .usdMicros => string "usd_micros"

instance : ToJson FreshnessStatus where
  json
    | .fresh => string "fresh"
    | .stale => string "stale"
    | .resyncRequired => string "resync_required"

instance : ToJson LimitPrice := ⟨fun p => object
  [("numerator_asset", json p.numeratorAsset), ("denominator_asset", json p.denominatorAsset),
   ("ratio", json p.ratio)]⟩

instance : ToJson RiskConstraints := ⟨fun r => object
  [("max_buy_tax", json r.maxBuyTax), ("max_sell_tax", json r.maxSellTax),
   ("max_price_impact", json r.maxPriceImpact), ("max_slippage", json r.maxSlippage),
   ("max_total_cost", json r.maxTotalCost)]⟩

instance : ToJson RouteLeg := ⟨fun l => object
  [("venue", json l.venue), ("pool_ref", json l.poolRef), ("token_in", json l.tokenIn),
   ("token_out", json l.tokenOut), ("amount_in", json l.amountIn),
   ("expected_amount_out", json l.expectedAmountOut)]⟩

instance : ToJson RoutePlan := ⟨fun r => object
  [("legs", json r.legs), ("expected_net_output", json r.expectedNetOutput), ("state", json r.state)]⟩

instance : ToJson ExecutionCostComponents := ⟨fun c => object
  [("gas_cost", json c.gasCost), ("dex_fee", json c.dexFee), ("provider_fee", json c.providerFee),
   ("tax_cost", json c.taxCost)]⟩

instance : ToJson ExecutionPreview := ⟨fun p => object
  [("intent_id", json p.intentId), ("chain", json p.chain), ("token_in", json p.tokenIn),
   ("token_out", json p.tokenOut), ("side", json p.side),
   ("simulated_net_input", json p.simulatedNetInput),
   ("simulated_net_output", json p.simulatedNetOutput), ("gross_output", json p.grossOutput),
   ("cost_components", json p.costComponents),
   ("local_state_freshness", json p.localStateFreshness)]⟩

end PrivateExecution
