import PrivateExecution.Domain.Primitives
import Mathlib.Data.List.Chain

/-!
# Pool states

The three kinds of liquidity pools a quote is computed on (`market-types/src/pool.rs`): constant
product, concentrated liquidity and liquidity bins. A pool state is what an adapter observed; nothing
is assumed of it but what `validate` checks, and every simulation starts by running that check.
-/

namespace PrivateExecution

abbrev U8 := Unsigned 8

inductive MarketTypeError where
  | emptyAddress | chainMismatch | samePoolTokens | zeroSequence
  | invalidTimestamp (ms : ℤ)
  | decimalsExceeded (decimals max : ℕ)
  | invalidTickSpacing (spacing : ℕ)
  | tickOutOfRange (tick min max : ℤ)
  | tickSpacingMismatch (tick : ℤ) (spacing : ℕ)
  | clmmTicksExceeded (count max : ℕ)
  | unsortedClmmTicks
  | duplicateClmmTick (tick : ℤ)
  | invalidTickLiquidity (tick : ℤ)
  | invalidBinStep (step : ℕ)
  | binOutOfRange (bin min max : ℤ)
  | binsExceeded (count max : ℕ)
  | unsortedBins
  | duplicateBin (bin : ℤ)
  | emptyBin (bin : ℤ)
  | binReserveSideViolation (bin active : ℤ)
  | poolKindMismatch (expected received : String)
  | zeroAmount | zeroPrice | zeroQuantity | sameAssetPair | targetMismatch
  | invalidSequenceRange (start stop : ℕ)
  | staleSequence (sequence current : ℕ)
  | duplicateSequence (sequence : ℕ)
  | resyncRequired (reason : String)
  | unsupportedPayloadForTarget (what : String)
  | arithmeticOverflow (what : String)
  | depthLevelsExceeded (count max : ℕ)
  | unsortedDepthLevels (side : String)
  | duplicateDepthPriceLevel (side : String)
  | crossedOrderBook | emptyDepthLevels
  | invalidCandleWindow (openMs closeMs : ℤ)
  | candleWindowExceeded (durationMs maxMs : ℕ)
  | invalidCandleBounds (reason : String)
  | invalidCandleTimeframe (timeframe : String)
  | retainedWindowsExceeded (count max : ℕ)
  | staleCandleWindow (candleOpenMs currentCloseMs : ℤ)
  | consumerQueueCapacityExceeded (count max : ℕ)
  | consumerBatchSizeExceeded (size max : ℕ)
  | invalidConsumerConfig (reason : String)
  | unacknowledgedBatchPending (batchId : ℕ)
  | invalidBatchAcknowledgement (expected received : ℕ)
  | noPendingBatchToAcknowledge
deriving DecidableEq

def maxDecimals : ℕ := 30
def minTick : ℤ := -887272
def maxTick : ℤ := 887272
def maxClmmTicks : ℕ := 10000
def minBinId : ℤ := -8388608
def maxBinId : ℤ := 8388608
def maxBinCount : ℕ := 10000
def maxBinStepBps : ℕ := 1000

def validatePair (token0 token1 : AssetId) (decimals0 decimals1 : U8) : Except MarketTypeError Unit := do
  ensure token0.isValid .emptyAddress
  ensure token1.isValid .emptyAddress
  ensure (token0 ≠ token1) .samePoolTokens
  ensure (token0.chain = token1.chain) .chainMismatch
  ensure (decimals0.val ≤ maxDecimals) (.decimalsExceeded decimals0.val maxDecimals)
  ensure (decimals1.val ≤ maxDecimals) (.decimalsExceeded decimals1.val maxDecimals)

lemma validatePair_ne {token0 token1 : AssetId} {decimals0 decimals1 : U8} {u : Unit}
    (h : validatePair token0 token1 decimals0 decimals1 = .ok u) : token0 ≠ token1 := by
  simp only [validatePair, ensure_ok] at h
  exact h.2.2.1

/-! ### Constant product -/

structure CpmmPoolState where
  token0 : AssetId
  token1 : AssetId
  decimals0 : U8
  decimals1 : U8
  reserve0 : AtomicAmount
  reserve1 : AtomicAmount
  totalLpSupply : Option AtomicAmount
  feeBps : Bps

def CpmmPoolState.validate (p : CpmmPoolState) : Except MarketTypeError Unit :=
  validatePair p.token0 p.token1 p.decimals0 p.decimals1

/-! ### Concentrated liquidity -/

structure ClmmTick where
  index : ℤ
  liquidityGross : U128
  liquidityNet : ℤ
deriving DecidableEq

structure ClmmPoolState where
  token0 : AssetId
  token1 : AssetId
  decimals0 : U8
  decimals1 : U8
  tickSpacing : U32
  currentTick : ℤ
  sqrtPriceX64 : U128
  liquidity : U128
  feeBps : Bps
  ticks : List ClmmTick

def U32.asI32 (n : U32) : ℤ := if n.val < 2 ^ 31 then n.val else n.val - 2 ^ 32

def checkTickOrder (prev : Option ClmmTick) (tick : ClmmTick) : Except MarketTypeError Unit :=
  match prev with
  | none => .ok ()
  | some p => do
    ensure (tick.index ≠ p.index) (.duplicateClmmTick tick.index)
    ensure (¬tick.index < p.index) .unsortedClmmTicks

/-- The loop of the CLMM validation over the ticks, after the tick `prev`. -/
def validateTicks (spacing : U32) : Option ClmmTick → List ClmmTick → Except MarketTypeError Unit
  | _, [] => .ok ()
  | prev, tick :: rest => do
    ensure (minTick ≤ tick.index ∧ tick.index ≤ maxTick) (.tickOutOfRange tick.index minTick maxTick)
    -- The remainder of Rust has the sign of the dividend.
    ensure (tick.index.tmod spacing.asI32 = 0) (.tickSpacingMismatch tick.index spacing.val)
    ensure (tick.liquidityNet.natAbs ≤ tick.liquidityGross.val) (.invalidTickLiquidity tick.index)
    checkTickOrder prev tick
    validateTicks spacing (some tick) rest

def ClmmPoolState.validate (p : ClmmPoolState) : Except MarketTypeError Unit := do
  validatePair p.token0 p.token1 p.decimals0 p.decimals1
  ensure (p.tickSpacing.val ≠ 0) (.invalidTickSpacing 0)
  ensure (minTick ≤ p.currentTick ∧ p.currentTick ≤ maxTick)
    (.tickOutOfRange p.currentTick minTick maxTick)
  ensure (p.ticks.length ≤ maxClmmTicks) (.clmmTicksExceeded p.ticks.length maxClmmTicks)
  validateTicks p.tickSpacing none p.ticks

lemma validateTicks_sorted {spacing : U32} {ticks : List ClmmTick} :
    ∀ {prev : Option ClmmTick} {u : Unit}, validateTicks spacing prev ticks = .ok u →
      (prev.toList ++ ticks).Pairwise (fun a b => a.index < b.index) := by
  induction ticks with
  | nil =>
    intro prev u _
    cases prev <;> simp
  | cons tick rest ih =>
    intro prev u h
    simp only [validateTicks, ensure_ok] at h
    obtain ⟨_, horder, hrest⟩ := bind_ok.1 h.2.2.2
    have hsorted := ih hrest
    cases prev with
    | none => simpa using hsorted
    | some p =>
      simp only [checkTickOrder, ensure_ok, ensure_eq_ok] at horder
      have hlt : p.index < tick.index := by omega
      simp only [Option.toList_some, List.singleton_append, List.pairwise_cons, List.mem_cons,
        forall_eq_or_imp] at hsorted ⊢
      exact ⟨⟨hlt, fun t ht => lt_trans hlt (hsorted.1 t ht)⟩, hsorted⟩

lemma validateTicks_range {spacing : U32} {ticks : List ClmmTick} :
    ∀ {prev : Option ClmmTick} {u : Unit}, validateTicks spacing prev ticks = .ok u →
      ∀ t ∈ ticks, minTick ≤ t.index ∧ t.index ≤ maxTick := by
  induction ticks with
  | nil => simp
  | cons tick rest ih =>
    intro prev u h
    simp only [validateTicks, ensure_ok] at h
    obtain ⟨_, -, hrest⟩ := bind_ok.1 h.2.2.2
    simp only [List.mem_cons, forall_eq_or_imp]
    exact ⟨h.1, ih hrest⟩

/-! ### Bins -/

structure LiquidityBin where
  id : ℤ
  reserve0 : AtomicAmount
  reserve1 : AtomicAmount

structure BinPoolState where
  token0 : AssetId
  token1 : AssetId
  decimals0 : U8
  decimals1 : U8
  activeBinId : ℤ
  binStep : ℕ
  feeBps : Bps
  bins : List LiquidityBin

def checkBinOrder (prev : Option LiquidityBin) (bin : LiquidityBin) : Except MarketTypeError Unit :=
  match prev with
  | none => .ok ()
  | some p => do
    ensure (bin.id ≠ p.id) (.duplicateBin bin.id)
    ensure (¬bin.id < p.id) .unsortedBins

/-- The loop of the bin validation, after the bin `prev`. Below the active bin there is only
token 1, above it only token 0. -/
def validateBins (active : ℤ) : Option LiquidityBin → List LiquidityBin → Except MarketTypeError Unit
  | _, [] => .ok ()
  | prev, bin :: rest => do
    ensure (minBinId ≤ bin.id ∧ bin.id ≤ maxBinId) (.binOutOfRange bin.id minBinId maxBinId)
    checkBinOrder prev bin
    ensure (¬(bin.reserve0.val = 0 ∧ bin.reserve1.val = 0)) (.emptyBin bin.id)
    ensure (¬(bin.id < active ∧ bin.reserve0.val ≠ 0)) (.binReserveSideViolation bin.id active)
    ensure (¬(active < bin.id ∧ bin.reserve1.val ≠ 0)) (.binReserveSideViolation bin.id active)
    validateBins active (some bin) rest

def BinPoolState.validate (p : BinPoolState) : Except MarketTypeError Unit := do
  validatePair p.token0 p.token1 p.decimals0 p.decimals1
  ensure (p.binStep ≠ 0 ∧ p.binStep ≤ maxBinStepBps) (.invalidBinStep p.binStep)
  ensure (minBinId ≤ p.activeBinId ∧ p.activeBinId ≤ maxBinId)
    (.binOutOfRange p.activeBinId minBinId maxBinId)
  ensure (p.bins.length ≤ maxBinCount) (.binsExceeded p.bins.length maxBinCount)
  validateBins p.activeBinId none p.bins

lemma validateBins_sorted {active : ℤ} {bins : List LiquidityBin} :
    ∀ {prev : Option LiquidityBin} {u : Unit}, validateBins active prev bins = .ok u →
      (prev.toList ++ bins).Pairwise (fun a b => a.id < b.id) := by
  induction bins with
  | nil =>
    intro prev u _
    cases prev <;> simp
  | cons bin rest ih =>
    intro prev u h
    simp only [validateBins, ensure_ok] at h
    obtain ⟨_, horder, h⟩ := bind_ok.1 h.2
    simp only [ensure_ok] at h
    have hsorted := ih h.2.2.2
    cases prev with
    | none => simpa using hsorted
    | some p =>
      simp only [checkBinOrder, ensure_ok, ensure_eq_ok] at horder
      have hlt : p.id < bin.id := by omega
      simp only [Option.toList_some, List.singleton_append, List.pairwise_cons, List.mem_cons,
        forall_eq_or_imp] at hsorted ⊢
      exact ⟨⟨hlt, fun b hb => lt_trans hlt (hsorted.1 b hb)⟩, hsorted⟩

inductive PoolKindState where
  | cpmm (p : CpmmPoolState)
  | clmm (p : ClmmPoolState)
  | bin (p : BinPoolState)

namespace PoolKindState

def validate : PoolKindState → Except MarketTypeError Unit
  | .cpmm p => p.validate
  | .clmm p => p.validate
  | .bin p => p.validate

def token0 : PoolKindState → AssetId
  | .cpmm p => p.token0
  | .clmm p => p.token0
  | .bin p => p.token0

def token1 : PoolKindState → AssetId
  | .cpmm p => p.token1
  | .clmm p => p.token1
  | .bin p => p.token1

end PoolKindState

/-! ### Envelopes -/

structure PoolId where
  chain : ChainId
  address : String
deriving DecidableEq

def PoolId.validate (id : PoolId) : Except MarketTypeError Unit := do
  ensure (id.chain.isValid = true) .chainMismatch
  ensure (isBlank id.address = false) .emptyAddress

/-- A pool state with its identity and the time and sequence it was observed at. -/
structure PoolStateEnvelope where
  poolId : PoolId
  sequence : U64
  observedAtMs : I64
  state : PoolKindState

def PoolStateEnvelope.validate (e : PoolStateEnvelope) : Except MarketTypeError Unit := do
  e.poolId.validate
  ensure (e.sequence.val ≠ 0) .zeroSequence
  ensure (¬e.observedAtMs.val ≤ 0) (.invalidTimestamp e.observedAtMs.val)
  e.state.validate
  ensure (e.state.token0.chain = e.poolId.chain) .chainMismatch

end PrivateExecution
