import PrivateExecution.Market.Pool
import PrivateExecution.Simulation.Tax
import PrivateExecution.Simulation.Wide
import Mathlib.Tactic.Linarith

/-!
# Constant product quotes

The exact-input quote of a constant product pool (`simulation/src/cpmm.rs`), the same quote with the
tax of a buy or of a sell around it, and the round trip of both (`buy_tax.rs`, `sell_tax.rs`,
`roundtrip_tax.rs`): the net output of a buy is sold back into the pool the buy left behind.
-/

namespace PrivateExecution

/-! ### Errors -/

inductive SimulationError where
  | invalidPoolState (e : MarketTypeError)
  | zeroInputAmount | zeroReserve
  | invalidFeeBps (fee : ℕ)
  | assetNotFoundInPool (asset : AssetId)
  | outputAssetMismatch (expected received : AssetId)
  | chainMismatch | zeroEffectiveInput | zeroOutputAmount | impossibleOutput | arithmeticOverflow
  | invariantViolated

inductive CpmmSimulationErrorClass where
  | invalidPoolState | zeroInputAmount | zeroReserve | invalidFeeBps | assetNotFoundInPool
  | outputAssetMismatch | chainMismatch | zeroEffectiveInput | zeroOutputAmount | impossibleOutput
  | arithmeticOverflow | invariantViolated

def SimulationError.class : SimulationError → CpmmSimulationErrorClass
  | .invalidPoolState _ => .invalidPoolState
  | .zeroInputAmount => .zeroInputAmount
  | .zeroReserve => .zeroReserve
  | .invalidFeeBps _ => .invalidFeeBps
  | .assetNotFoundInPool _ => .assetNotFoundInPool
  | .outputAssetMismatch _ _ => .outputAssetMismatch
  | .chainMismatch => .chainMismatch
  | .zeroEffectiveInput => .zeroEffectiveInput
  | .zeroOutputAmount => .zeroOutputAmount
  | .impossibleOutput => .impossibleOutput
  | .arithmeticOverflow => .arithmeticOverflow
  | .invariantViolated => .invariantViolated

inductive TaxAwareSimulationError where
  | cpmm (e : CpmmSimulationErrorClass)
  | tax (e : TaxSafetyError)

/-! ### The swap -/

section

structure CpmmExactInputRequest where
  tokenIn : AssetId
  amountIn : AtomicAmount
  /-- The output asset the caller expects, if it says so. -/
  tokenOut : Option AssetId

structure CpmmSimulationQuote where
  input : AssetAmount
  output : AssetAmount
  poolFee : AssetAmount
  effectiveInput : AssetAmount
  feeBps : Bps
  resultingReserve0 : AtomicAmount
  resultingReserve1 : AtomicAmount
  resultingReserveIn : AtomicAmount
  resultingReserveOut : AtomicAmount

def isToken0In (token0 token1 tokenIn : AssetId) : Option Bool :=
  if tokenIn = token0 then some true
  else if tokenIn = token1 then some false
  else none

lemma token_of_isToken0In {token0 token1 tokenIn : AssetId} {token0In : Bool}
    (h : isToken0In token0 token1 tokenIn = some token0In) : tokenIn = token0 ∨ tokenIn = token1 := by
  unfold isToken0In at h
  split_ifs at h with h0 h1
  · exact .inl h0
  · exact .inr h1

/-- `j` is not before `i` in the direction a swap moves: down when token 0 goes in, up otherwise. -/
def Onward (token0In : Bool) (i j : ℕ) : Prop := if token0In then j ≤ i else i ≤ j

lemma Onward.refl (token0In : Bool) (i : ℕ) : Onward token0In i i := by
  cases token0In <;> exact le_rfl

lemma Onward.trans {token0In : Bool} {i j k : ℕ} (hij : Onward token0In i j) (hjk : Onward token0In j k) :
    Onward token0In i k := by
  cases token0In with
  | false => exact le_trans (α := ℕ) hij hjk
  | true => exact le_trans (α := ℕ) hjk hij

structure CpmmAmounts where
  fee : U128
  effectiveInput : U128
  amountOut : U128
  resultingReserveIn : U128
  resultingReserveOut : U128

/-- Steps 8 to 12: fee, output and resulting reserves. -/
def cpmmAmounts (reserveIn reserveOut amountIn : U128) (feeBps : Bps) :
    Except SimulationError CpmmAmounts := do
  let feeNumerator : U128 ← okOr (Unsigned.ofNat? (amountIn.val * feeBps.get)) .arithmeticOverflow
  let fee : U128 ← okOr (Unsigned.ofNat? (feeNumerator.val / 10000)) .arithmeticOverflow
  let effectiveInput ← okOr (amountIn.checkedSub fee) .arithmeticOverflow
  ensure (effectiveInput.val ≠ 0) .zeroEffectiveInput
  let denominator ← okOr (reserveIn.checkedAdd effectiveInput) .arithmeticOverflow
  let amountOut ← okOr (mulDivFloor effectiveInput reserveOut denominator) .arithmeticOverflow
  ensure (amountOut.val ≠ 0) .zeroOutputAmount
  ensure (¬reserveOut ≤ amountOut) .impossibleOutput
  let resultingReserveIn ← okOr (reserveIn.checkedAdd amountIn) .arithmeticOverflow
  let resultingReserveOut ← okOr (reserveOut.checkedSub amountOut) .arithmeticOverflow
  ensure (cmpU128Products resultingReserveIn.val resultingReserveOut.val reserveIn.val
    reserveOut.val ≠ .lt) .invariantViolated
  return ⟨fee, effectiveInput, amountOut, resultingReserveIn, resultingReserveOut⟩

variable (pool : CpmmPoolState) (request : CpmmExactInputRequest)

def simulateCpmmExactInput : Except SimulationError CpmmSimulationQuote := do
  pool.validate.mapError .invalidPoolState
  ensure (request.amountIn.val ≠ 0) .zeroInputAmount
  ensure (pool.reserve0.val ≠ 0 ∧ pool.reserve1.val ≠ 0) .zeroReserve
  ensure (request.tokenIn.chain = pool.token0.chain) .chainMismatch
  let token0In ← okOr (isToken0In pool.token0 pool.token1 request.tokenIn)
    (.assetNotFoundInPool request.tokenIn)
  let tokenOut := if token0In then pool.token1 else pool.token0
  let reserveIn := if token0In then pool.reserve0 else pool.reserve1
  let reserveOut := if token0In then pool.reserve1 else pool.reserve0
  ensure (∀ callerOut ∈ request.tokenOut, callerOut = tokenOut)
    (.outputAssetMismatch tokenOut (request.tokenOut.getD tokenOut))
  ensure (pool.feeBps.get < 10000) (.invalidFeeBps pool.feeBps.get)
  let a ← cpmmAmounts reserveIn reserveOut request.amountIn pool.feeBps
  return {
    input := ⟨request.tokenIn, request.amountIn⟩
    output := ⟨tokenOut, a.amountOut⟩
    poolFee := ⟨request.tokenIn, a.fee⟩
    effectiveInput := ⟨request.tokenIn, a.effectiveInput⟩
    feeBps := pool.feeBps
    resultingReserve0 := if token0In then a.resultingReserveIn else a.resultingReserveOut
    resultingReserve1 := if token0In then a.resultingReserveOut else a.resultingReserveIn
    resultingReserveIn := a.resultingReserveIn
    resultingReserveOut := a.resultingReserveOut }

lemma cpmmAmounts_spec {reserveIn reserveOut amountIn : U128} {feeBps : Bps} {a : CpmmAmounts}
    (h : cpmmAmounts reserveIn reserveOut amountIn feeBps = .ok a) :
    a.effectiveInput.val ≤ amountIn.val ∧
      a.amountOut.val =
        a.effectiveInput.val * reserveOut.val / (reserveIn.val + a.effectiveInput.val) ∧
      a.amountOut.val < reserveOut.val ∧
      a.resultingReserveIn.val = reserveIn.val + amountIn.val ∧
      a.resultingReserveOut.val = reserveOut.val - a.amountOut.val := by
  unfold cpmmAmounts at h
  obtain ⟨feeNumerator, -, h⟩ := bind_ok.1 h
  obtain ⟨fee, -, h⟩ := bind_ok.1 h
  obtain ⟨effectiveInput, heff, h⟩ := bind_ok.1 h
  obtain ⟨-, h⟩ := ensure_ok.1 h
  obtain ⟨denominator, hden, h⟩ := bind_ok.1 h
  obtain ⟨amountOut, hout, h⟩ := bind_ok.1 h
  obtain ⟨-, h⟩ := ensure_ok.1 h
  obtain ⟨hlt, h⟩ := ensure_ok.1 h
  obtain ⟨resultingIn, hin, h⟩ := bind_ok.1 h
  obtain ⟨resultingOut, hres, h⟩ := bind_ok.1 h
  obtain ⟨-, h⟩ := ensure_ok.1 h
  cases h
  rw [okOr_eq_ok, Unsigned.checkedSub_eq_some] at heff hres
  rw [okOr_eq_ok, Unsigned.checkedAdd_eq_some] at hden hin
  rw [okOr_eq_ok, mulDivFloor_eq_some, hden] at hout
  exact ⟨by dsimp only; omega, hout.2, not_le.1 hlt, hin, hres.2⟩

lemma simulateCpmm_inv {pool : CpmmPoolState} {request : CpmmExactInputRequest}
    {q : CpmmSimulationQuote} (h : simulateCpmmExactInput pool request = .ok q) :
    pool.token0 ≠ pool.token1 ∧ ∃ token0In a,
      isToken0In pool.token0 pool.token1 request.tokenIn = some token0In ∧
      cpmmAmounts (if token0In then pool.reserve0 else pool.reserve1)
        (if token0In then pool.reserve1 else pool.reserve0) request.amountIn pool.feeBps = .ok a ∧
      q.input = ⟨request.tokenIn, request.amountIn⟩ ∧
      q.output = ⟨if token0In then pool.token1 else pool.token0, a.amountOut⟩ ∧
      q.resultingReserve0 = (if token0In then a.resultingReserveIn else a.resultingReserveOut) ∧
      q.resultingReserve1 = (if token0In then a.resultingReserveOut else a.resultingReserveIn) ∧
      q.effectiveInput.amount = a.effectiveInput ∧ q.resultingReserveIn = a.resultingReserveIn := by
  unfold simulateCpmmExactInput at h
  obtain ⟨_, hpool, h⟩ := bind_ok.1 h
  simp only [ensure_ok] at h
  obtain ⟨-, -, -, h⟩ := h
  obtain ⟨token0In, hdir, h⟩ := bind_ok.1 h
  simp only [ensure_ok] at h
  obtain ⟨-, -, h⟩ := h
  obtain ⟨a, ha, h⟩ := bind_ok.1 h
  cases h
  exact ⟨validatePair_ne (mapError_eq_ok hpool), token0In, a, okOr_eq_ok.1 hdir, ha, rfl, rfl, rfl, rfl,
    rfl, rfl⟩

/-! ### Taxes around the swap -/

structure TaxAwareCpmmBuyQuote where
  cpmmQuote : CpmmSimulationQuote
  taxOutput : BuyTaxOutput

structure TaxAwareCpmmSellQuote where
  cpmmQuote : CpmmSimulationQuote
  taxInput : SellTaxInput

structure TaxAwareCpmmRoundtripQuote where
  buyQuote : TaxAwareCpmmBuyQuote
  sellQuote : TaxAwareCpmmSellQuote

def cpmmQuote : Except (Fault TaxAwareSimulationError) CpmmSimulationQuote :=
  (simulateCpmmExactInput pool request).mapError fun e => .error (.cpmm e.class)

def simulateTaxAwareCpmmBuyExactInput (assessment : TaxAssessment) :
    Except (Fault TaxAwareSimulationError) TaxAwareCpmmBuyQuote := do
  let quote ← cpmmQuote pool request
  let taxOutput ← (applyBuyTaxToOutput assessment quote.output).mapError (Fault.map .tax)
  return ⟨quote, taxOutput⟩

/-- The tax comes first, the swap is that of what is left. The assertion is that of a debug build. -/
def simulateTaxAwareCpmmSellExactInput (assessment : TaxAssessment) :
    Except (Fault TaxAwareSimulationError) TaxAwareCpmmSellQuote := do
  let taxInput ← (applySellTaxToInput assessment ⟨request.tokenIn, request.amountIn⟩).mapError
    (Fault.map .tax)
  let quote ← cpmmQuote pool { request with amountIn := taxInput.netTransferableInput.amount }
  ensure (quote.input = taxInput.netTransferableInput)
    (.panicked "assertion `left == right` failed")
  return ⟨quote, taxInput⟩

def CpmmPoolState.after (quote : CpmmSimulationQuote) : CpmmPoolState :=
  { pool with reserve0 := quote.resultingReserve0, reserve1 := quote.resultingReserve1 }

def simulateTaxAwareCpmmRoundtripExactInput (buyAssessment sellAssessment : TaxAssessment) :
    Except (Fault TaxAwareSimulationError) TaxAwareCpmmRoundtripQuote := do
  let buyQuote ← simulateTaxAwareCpmmBuyExactInput pool request buyAssessment
  let sellQuote ← simulateTaxAwareCpmmSellExactInput (pool.after buyQuote.cpmmQuote)
    ⟨buyQuote.taxOutput.netOutput.asset, buyQuote.taxOutput.netOutput.amount, some request.tokenIn⟩
    sellAssessment
  return ⟨buyQuote, sellQuote⟩

end

section

variable {pool : CpmmPoolState} {request : CpmmExactInputRequest} {assessment : TaxAssessment}

lemma cpmmQuote_eq_ok {q : CpmmSimulationQuote} (h : cpmmQuote pool request = .ok q) :
    simulateCpmmExactInput pool request = .ok q := mapError_eq_ok h

lemma quiet_cpmmQuote : Fault.Quiet (cpmmQuote pool request) := by
  unfold cpmmQuote
  cases simulateCpmmExactInput pool request with
  | error e => exact Fault.quiet_error _
  | ok q => exact Fault.quiet_ok q

lemma buy_inv {q : TaxAwareCpmmBuyQuote}
    (h : simulateTaxAwareCpmmBuyExactInput pool request assessment = .ok q) :
    simulateCpmmExactInput pool request = .ok q.cpmmQuote ∧
      applyBuyTaxToOutput assessment q.cpmmQuote.output = .ok q.taxOutput := by
  obtain ⟨quote, hquote, h⟩ := bind_ok.1 h
  obtain ⟨out, hout, h⟩ := bind_ok.1 h
  cases h
  exact ⟨cpmmQuote_eq_ok hquote, mapError_eq_ok hout⟩

lemma sell_inv {q : TaxAwareCpmmSellQuote}
    (h : simulateTaxAwareCpmmSellExactInput pool request assessment = .ok q) :
    applySellTaxToInput assessment ⟨request.tokenIn, request.amountIn⟩ = .ok q.taxInput ∧
      simulateCpmmExactInput pool { request with amountIn := q.taxInput.netTransferableInput.amount } =
        .ok q.cpmmQuote := by
  obtain ⟨taxInput, htax, h⟩ := bind_ok.1 h
  obtain ⟨quote, hquote, h⟩ := bind_ok.1 h
  obtain ⟨-, h⟩ := ensure_ok.1 h
  cases h
  exact ⟨mapError_eq_ok htax, cpmmQuote_eq_ok hquote⟩

lemma quiet_buy : Fault.Quiet (simulateTaxAwareCpmmBuyExactInput pool request assessment) :=
  .bind quiet_cpmmQuote fun _ _ => .bind (.mapError _ quiet_applyBuyTax) fun _ _ => Fault.quiet_ok _

/-- The asserted equality holds: the quote is that of the request it was asked for. -/
lemma quiet_sell : Fault.Quiet (simulateTaxAwareCpmmSellExactInput pool request assessment) := by
  refine .bind (.mapError _ quiet_applySellTax) fun taxInput htax => ?_
  refine .bind quiet_cpmmQuote fun quote hquote => ?_
  obtain ⟨-, hasset, -⟩ := applySellTax_spec (mapError_eq_ok htax)
  obtain ⟨-, _, _, -, -, hinput, -⟩ := simulateCpmm_inv (cpmmQuote_eq_ok hquote)
  have heq : quote.input = taxInput.netTransferableInput := by
    rw [hinput]
    exact AssetAmount.ext hasset.symm rfl
  refine .bind ?_ fun _ _ => Fault.quiet_ok _
  rw [ensure_eq_ok.2 heq]
  exact Fault.quiet_ok ()

end

/-! ### The round trip -/

/-- The constant product step there and back. `b` is bought for an effective input of at most `a`;
at most `b` is sold into the reserves this leaves. -/
lemma swapBack_le {rin rout x a b e : ℕ} (hx : x ≤ a) (hb : b = x * rout / (rin + x)) (hlt : b < rout)
    (he : e ≤ b) : e * (rin + a) / (rout - b + e) ≤ a := by
  apply Nat.div_le_of_le_mul
  obtain ⟨k, rfl⟩ := Nat.exists_eq_add_of_lt hlt
  have hswap : b * (rin + x) ≤ x * (b + k + 1) := by
    have := Nat.div_mul_le_self (x * (b + k + 1)) (rin + x)
    rwa [← hb] at this
  have hpaid : b * rin ≤ (k + 1) * a := by
    have := Nat.mul_le_mul_right (k + 1) hx
    linarith [Nat.mul_add b rin x, Nat.mul_add x b (k + 1), Nat.mul_comm b x, Nat.mul_comm a (k + 1)]
  have hsub : b + k + 1 - b = k + 1 := by omega
  rw [hsub]
  calc e * (rin + a) = e * rin + e * a := Nat.mul_add e rin a
    _ ≤ b * rin + e * a := by gcongr
    _ ≤ (k + 1) * a + e * a := by gcongr
    _ = (k + 1 + e) * a := (Nat.add_mul _ _ _).symm

section

variable {pool : CpmmPoolState} {request : CpmmExactInputRequest}

lemma isToken0In_flip {token0 token1 tokenIn : AssetId} {token0In : Bool} (hne : token0 ≠ token1)
    (h : isToken0In token0 token1 tokenIn = some token0In) :
    isToken0In token0 token1 (if token0In then token1 else token0) = some (!token0In) := by
  cases token0In
  · simp [isToken0In]
  · simp [isToken0In, hne.symm]

lemma swapBack_output_le {buy sell : CpmmSimulationQuote} {amount : U128} {tokenOut : Option AssetId}
    (hbuy : simulateCpmmExactInput pool request = .ok buy)
    (hsell : simulateCpmmExactInput (pool.after buy) ⟨buy.output.asset, amount, tokenOut⟩ = .ok sell)
    (hle : amount.val ≤ buy.output.amount.val) : sell.output.amount.val ≤ request.amountIn.val := by
  obtain ⟨hne, token0In, a, hdir, ha, -, hout, hres0, hres1, -, -⟩ := simulateCpmm_inv hbuy
  obtain ⟨-, back, b, hback, hb, -, hout', -⟩ := simulateCpmm_inv hsell
  obtain ⟨heff, hamount, hlt, hin, hres⟩ := cpmmAmounts_spec ha
  obtain ⟨heff', hamount', -⟩ := cpmmAmounts_spec hb
  have hflip : back = !token0In := by
    rw [hout, CpmmPoolState.after, isToken0In_flip hne hdir] at hback
    exact (Option.some.inj hback).symm
  -- The sides of the staged pool, in terms of the buy's own sides.
  have hsides : (if back then (pool.after buy).reserve0 else (pool.after buy).reserve1) =
        a.resultingReserveOut ∧
      (if back then (pool.after buy).reserve1 else (pool.after buy).reserve0) =
        a.resultingReserveIn := by
    rw [hflip]
    cases token0In <;> simp [CpmmPoolState.after, hres0, hres1]
  rw [hsides.1, hsides.2] at hamount'
  rw [hout] at hle
  rw [hout', hamount', hin, hres]
  exact swapBack_le heff hamount hlt (heff'.trans hle)

lemma roundtrip_inv {buyAssessment sellAssessment : TaxAssessment} {rt : TaxAwareCpmmRoundtripQuote}
    (h : simulateTaxAwareCpmmRoundtripExactInput pool request buyAssessment sellAssessment = .ok rt) :
    simulateTaxAwareCpmmBuyExactInput pool request buyAssessment = .ok rt.buyQuote ∧
      simulateTaxAwareCpmmSellExactInput (pool.after rt.buyQuote.cpmmQuote)
        ⟨rt.buyQuote.taxOutput.netOutput.asset, rt.buyQuote.taxOutput.netOutput.amount,
          some request.tokenIn⟩ sellAssessment = .ok rt.sellQuote := by
  obtain ⟨buyQuote, hbuy, h⟩ := bind_ok.1 h
  obtain ⟨sellQuote, hsell, h⟩ := bind_ok.1 h
  cases h
  exact ⟨hbuy, hsell⟩

/-- A buy followed by the sale of its proceeds never creates value, splits every taxed amount
exactly, and sells exactly the net output of the buy. No amount and no rate makes it panic. -/
theorem cpmm_roundtrip_no_gain (pool : CpmmPoolState) (request : CpmmExactInputRequest)
    (buyAssessment sellAssessment : TaxAssessment) :
    (∀ m, simulateTaxAwareCpmmRoundtripExactInput pool request buyAssessment sellAssessment ≠
      .error (.panicked m)) ∧
    (∀ assessment gross m, applyBuyTaxToOutput assessment gross ≠ .error (.panicked m) ∧
      applySellTaxToInput assessment gross ≠ .error (.panicked m)) ∧
    ∀ rt, simulateTaxAwareCpmmRoundtripExactInput pool request buyAssessment sellAssessment = .ok rt →
      rt.sellQuote.cpmmQuote.output.amount ≤ request.amountIn ∧
      rt.buyQuote.taxOutput.taxCost.amount.val + rt.buyQuote.taxOutput.netOutput.amount.val =
        rt.buyQuote.taxOutput.grossOutput.amount.val ∧
      rt.sellQuote.taxInput.taxCost.amount.val +
          rt.sellQuote.taxInput.netTransferableInput.amount.val =
        rt.sellQuote.taxInput.grossInput.amount.val ∧
      rt.sellQuote.taxInput.grossInput = rt.buyQuote.taxOutput.netOutput := by
  refine ⟨?_, fun _ _ m => ⟨quiet_applyBuyTax m, quiet_applySellTax m⟩, fun rt h => ?_⟩
  · exact Fault.Quiet.bind quiet_buy fun _ _ => .bind quiet_sell fun _ _ => Fault.quiet_ok _
  · obtain ⟨hbuy, hsell⟩ := roundtrip_inv h
    obtain ⟨hswap, htaxOut⟩ := buy_inv hbuy
    obtain ⟨htaxIn, hswap'⟩ := sell_inv hsell
    obtain ⟨hgross, hasset, hsum, -⟩ := applyBuyTax_spec htaxOut
    obtain ⟨hgross', -, hsum'⟩ := applySellTax_spec htaxIn
    refine ⟨?_, hsum, hsum', hgross'⟩
    rw [hgross] at hsum
    rw [hgross'] at hsum'
    rw [hasset] at hswap'
    exact swapBack_output_le hswap hswap' (by dsimp only at hsum'; omega)

end

namespace CpmmPoolState.Sample

def pool : CpmmPoolState where
  token0 := ⟨.base, "TOKEN"⟩
  token1 := ⟨.base, "USDC"⟩
  decimals0 := .lit 18
  decimals1 := .lit 6
  reserve0 := .lit 1000000
  reserve1 := .lit 1000000
  totalLpSupply := none
  feeBps := .lit 30

def assessment : TaxAssessment :=
  ⟨⟨.base, "TOKEN"⟩, .base, .lit 100, .lit 200,
    ⟨.fresh, .lit 1000, .lit 7⟩, .lit 7⟩

def request : CpmmExactInputRequest := ⟨⟨.base, "USDC"⟩, .lit 10000, none⟩

end CpmmPoolState.Sample

open CpmmPoolState.Sample in
theorem cpmm_roundtrip_returns_less : ∃ rt,
    simulateTaxAwareCpmmRoundtripExactInput pool request assessment assessment = .ok rt ∧
    rt.sellQuote.cpmmQuote.output.amount ≤ request.amountIn := by
  have hruns : (simulateTaxAwareCpmmRoundtripExactInput pool request assessment assessment).toBool :=
    by decide +kernel
  obtain ⟨rt, hrt⟩ := exists_ok_of_toBool hruns
  exact ⟨rt, hrt, ((cpmm_roundtrip_no_gain pool request assessment assessment).2.2 rt hrt).1⟩

end PrivateExecution
