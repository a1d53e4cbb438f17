import PrivateExecution.Simulation.Cpmm
import Mathlib.Algebra.Order.Field.Power
import Mathlib.Tactic.FieldSimp
import Mathlib.Tactic.Positivity

/-!
# Bin quotes

The exact-input quote of a bin pool (`simulation/src/bin.rs`). A bin trades at one price, the reduced
fraction `atomicBinPrice` of `((10000 + bin_step) / 10000) ^ bin_id * 10 ^ (decimals_1 - decimals_0)`;
a swap empties the bins one after another, downwards when token 0 is sold and upwards when token 1 is,
and counts the steps from bin to bin against `maxBinCrosses`.
-/

namespace PrivateExecution

inductive BinSimulationError where
  | invalidPoolState | zeroInputAmount | invalidFee | invalidBinStep | invalidRange
  | binCrossingExceeded | invalidAssetDirection | outputAssetMismatch | chainMismatch
  | zeroEffectiveInput | zeroOutputAmount | arithmeticOverflow | invariantViolated
  | outputUnreachable | staleOrUnavailableState

def MarketTypeError.toBin : MarketTypeError → BinSimulationError
  | .chainMismatch => .chainMismatch
  | .invalidBinStep _ | .binOutOfRange .. => .invalidBinStep
  | .binsExceeded .. | .unsortedBins | .duplicateBin _ | .emptyBin _ | .binReserveSideViolation .. =>
    .invalidRange
  | _ => .invalidPoolState

/-! ### Fractions -/

def gcdU128 (a b : ℕ) : ℕ := if b = 0 then a else gcdU128 b (a % b)
termination_by b
decreasing_by exact Nat.mod_lt _ (Nat.pos_of_ne_zero ‹_›)

lemma gcdU128_eq (a b : ℕ) : gcdU128 a b = Nat.gcd a b := by
  induction a, b using gcdU128.induct with
  | case1 a => simp [gcdU128]
  | case2 a b hb ih => rw [gcdU128, if_neg hb, ih, Nat.gcd_comm, ← Nat.gcd_rec, Nat.gcd_comm]

def reduceFraction (num den : ℕ) : ℕ × ℕ :=
  let divisor := gcdU128 num den
  if divisor ≤ 1 then (num, den) else (num / divisor, den / divisor)

lemma reduceFraction_eq {num den : ℕ} (hden : den ≠ 0) :
    reduceFraction num den = (num / num.gcd den, den / num.gcd den) := by
  have hpos : 0 < num.gcd den := Nat.gcd_pos_of_pos_right _ (Nat.pos_of_ne_zero hden)
  unfold reduceFraction
  rw [gcdU128_eq]
  dsimp only
  split_ifs with h
  · rw [show num.gcd den = 1 by omega, Nat.div_one, Nat.div_one]
  · rfl

/-- A fraction of naturals with a non-zero denominator, and what it stands for. -/
def IsFraction (p : ℕ × ℕ) (x : ℚ) : Prop := p.2 ≠ 0 ∧ (p.1 : ℚ) / p.2 = x

lemma isFraction_reduce {num den : ℕ} {x : ℚ} (h : IsFraction (num, den) x) :
    IsFraction (reduceFraction num den) x := by
  obtain ⟨hden, hx⟩ := h
  have hpos : 0 < num.gcd den := Nat.gcd_pos_of_pos_right _ (Nat.pos_of_ne_zero hden)
  obtain ⟨a, ha⟩ := Nat.gcd_dvd_left num den
  obtain ⟨b, hb⟩ := Nat.gcd_dvd_right num den
  rw [reduceFraction_eq hden]
  generalize num.gcd den = g at *
  subst ha hb
  simp only [IsFraction, Nat.mul_div_cancel_left _ hpos] at hx ⊢
  have hb : b ≠ 0 := fun h => hden (by rw [h, Nat.mul_zero])
  have hg : (g : ℚ) ≠ 0 := Nat.cast_ne_zero.2 hpos.ne'
  refine ⟨hb, ?_⟩
  rw [← hx]
  push_cast
  rw [mul_div_mul_left _ _ hg]

/-- Scales `x / y` by the factor `f`, after cancelling `f` against `y`. -/
def scaleFraction (x y f : ℕ) : Option (ℕ × ℕ) :=
  let cancel := gcdU128 y f
  (Unsigned.ofNat? (x * (f / cancel)) : Option U128).map fun num => (num.val, y / cancel)

/-- The scaled fraction, before its numerator is checked. -/
def scaledPair (x y f : ℕ) : ℕ × ℕ := (x * (f / y.gcd f), y / y.gcd f)

lemma scaleFraction_eq_some {x y f : ℕ} {p : ℕ × ℕ} :
    scaleFraction x y f = some p ↔ p = scaledPair x y f ∧ (scaledPair x y f).1 < 2 ^ 128 := by
  simp only [scaleFraction, gcdU128_eq, Option.map_eq_some_iff, Unsigned.ofNat?_eq_some]
  constructor
  · rintro ⟨num, hnum, rfl⟩
    exact ⟨Prod.ext hnum rfl, lt_of_eq_of_lt hnum.symm num.lt⟩
  · rintro ⟨rfl, hlt⟩
    exact ⟨⟨_, hlt⟩, rfl, rfl⟩

lemma isFraction_scaledPair {x y f : ℕ} {v : ℚ} (h : IsFraction (x, y) v) :
    IsFraction (scaledPair x y f) (v * f) := by
  obtain ⟨hy, hv⟩ := h
  unfold scaledPair
  have hpos : 0 < y.gcd f := Nat.gcd_pos_of_pos_left _ (Nat.pos_of_ne_zero hy)
  obtain ⟨a, ha⟩ := Nat.gcd_dvd_left y f
  obtain ⟨b, hb⟩ := Nat.gcd_dvd_right y f
  generalize y.gcd f = g at *
  subst ha hb
  simp only [IsFraction, Nat.mul_div_cancel_left _ hpos] at hv ⊢
  have ha : a ≠ 0 := fun h => hy (by rw [h, Nat.mul_zero])
  have haq : (a : ℚ) ≠ 0 := Nat.cast_ne_zero.2 ha
  have hgq : (g : ℚ) ≠ 0 := Nat.cast_ne_zero.2 hpos.ne'
  refine ⟨ha, ?_⟩
  rw [← hv]
  push_cast
  field_simp

/-! ### The price of a bin -/

def checkedPow (base exponent : ℕ) : Option U128 := Unsigned.ofNat? (base ^ exponent)

variable (binStep : ℕ) (binId : ℤ)

/-- The power of the reduced base, upside down for a negative id. -/
def rawBinPrice : Except BinSimulationError (ℕ × ℕ) := do
  let baseNum : U128 ← okOr (Unsigned.ofNat? (10000 + binStep)) .arithmeticOverflow
  let base := reduceFraction baseNum.val 10000
  let numPow ← okOr (checkedPow base.1 binId.natAbs) .arithmeticOverflow
  let denPow ← okOr (checkedPow base.2 binId.natAbs) .arithmeticOverflow
  return if 0 ≤ binId then (numPow.val, denPow.val) else (denPow.val, numPow.val)

/-- The scaling of a raw price by the difference of the decimals. -/
def scaleDecimals (decimals0 decimals1 : ℕ) (raw : ℕ × ℕ) : Option (ℕ × ℕ) := do
  let factor ← checkedPow 10 (decimals1 - decimals0 + (decimals0 - decimals1))
  if decimals0 ≤ decimals1 then scaleFraction raw.1 raw.2 factor.val
  else (scaleFraction raw.2 raw.1 factor.val).map Prod.swap

def atomicBinPrice (decimals0 decimals1 : U8) (binId : ℤ) : Except BinSimulationError (U128 × U128) := do
  let raw ← rawBinPrice binStep binId
  let scaled ← okOr (scaleDecimals decimals0.val decimals1.val raw) .arithmeticOverflow
  let reduced := reduceFraction scaled.1 scaled.2
  let num : U128 ← okOr (Unsigned.ofNat? reduced.1) .arithmeticOverflow
  let den : U128 ← okOr (Unsigned.ofNat? reduced.2) .arithmeticOverflow
  ensure (¬(num.val = 0 ∨ den.val = 0)) .arithmeticOverflow
  return (num, den)

def binPrice : ℚ := ((10000 + binStep : ℚ) / 10000) ^ binId

lemma binPrice_pos : 0 < binPrice binStep binId :=
  zpow_pos (by positivity) binId

section

variable {binStep : ℕ} {a r : ℤ}

lemma binPrice_add (n : ℤ) : binPrice binStep (a + n) = binPrice binStep a * binPrice binStep n :=
  zpow_add₀ (by positivity) a n

lemma one_le_binPrice {n : ℤ} (h : 0 ≤ n) : 1 ≤ binPrice binStep n := by
  refine one_le_zpow₀ ?_ h
  rw [le_div_iff₀ (by norm_num)]
  linarith [Nat.cast_nonneg (α := ℚ) binStep]

lemma binPrice_mono (h : a ≤ r) : binPrice binStep a ≤ binPrice binStep r := by
  have hr : r = a + (r - a) := by ring
  rw [hr, binPrice_add]
  exact le_mul_of_one_le_right (binPrice_pos _ _).le (one_le_binPrice (by omega))

end

lemma IsFraction.pow {p : ℕ × ℕ} {x : ℚ} (h : IsFraction p x) (n : ℕ) :
    IsFraction (p.1 ^ n, p.2 ^ n) (x ^ n) := by
  refine ⟨pow_ne_zero n h.1, ?_⟩
  rw [← h.2, div_pow]
  push_cast
  rfl

lemma IsFraction.swap {p : ℕ × ℕ} {x : ℚ} (h : IsFraction p x) (hx : x ≠ 0) : IsFraction p.swap x⁻¹ := by
  refine ⟨fun h0 => hx ?_, ?_⟩
  · rw [← h.2, show p.1 = 0 from h0, Nat.cast_zero, zero_div]
  · rw [← h.2, inv_div]
    rfl

def reducedBase : ℕ × ℕ := reduceFraction (10000 + binStep) 10000

def exactRaw : ℕ × ℕ :=
  let pow := ((reducedBase binStep).1 ^ binId.natAbs, (reducedBase binStep).2 ^ binId.natAbs)
  if 0 ≤ binId then pow else pow.swap

lemma rawBinPrice_eq_ok {binStep : ℕ} {binId : ℤ} {raw : ℕ × ℕ} :
    rawBinPrice binStep binId = .ok raw ↔ raw = exactRaw binStep binId ∧ 10000 + binStep < 2 ^ 128 ∧
      (reducedBase binStep).1 ^ binId.natAbs < 2 ^ 128 ∧ (reducedBase binStep).2 ^ binId.natAbs < 2 ^ 128 := by
  simp only [rawBinPrice, bind_ok, okOr_eq_ok, Unsigned.ofNat?_eq_some, checkedPow, exactRaw,
    reducedBase]
  constructor
  · rintro ⟨base, hbase, num, hnum, den, hden, h⟩
    rw [hbase] at hnum hden
    have hbase' := base.lt
    have hnum' := num.lt
    have hden' := den.lt
    rw [hbase] at hbase'
    rw [hnum] at hnum'
    rw [hden] at hden'
    cases h
    rw [hnum, hden]
    exact ⟨rfl, hbase', hnum', hden'⟩
  · rintro ⟨rfl, hbase, hnum, hden⟩
    exact ⟨⟨_, hbase⟩, rfl, ⟨_, hnum⟩, rfl, ⟨_, hden⟩, rfl, rfl⟩

lemma isFraction_exactRaw : IsFraction (exactRaw binStep binId) (binPrice binStep binId) := by
  have hfrac : IsFraction (reducedBase binStep) ((10000 + binStep : ℚ) / 10000) := by
    refine isFraction_reduce ⟨by norm_num, ?_⟩
    push_cast
    rfl
  have hpow := hfrac.pow binId.natAbs
  unfold exactRaw binPrice
  dsimp only
  split_ifs with hid
  · rwa [← zpow_natCast, Int.natAbs_of_nonneg hid] at hpow
  · have hne : ((10000 + binStep : ℚ) / 10000) ^ binId.natAbs ≠ 0 := by positivity
    have hswap := hpow.swap hne
    rwa [← zpow_natCast, ← zpow_neg, show -(binId.natAbs : ℤ) = binId by omega] at hswap

def exactDecimals (decimals0 decimals1 : ℕ) (raw : ℕ × ℕ) : ℕ × ℕ :=
  let factor := 10 ^ (decimals1 - decimals0 + (decimals0 - decimals1))
  if decimals0 ≤ decimals1 then scaledPair raw.1 raw.2 factor
  else (scaledPair raw.2 raw.1 factor).swap

lemma isFraction_exactDecimals {decimals0 decimals1 : ℕ} {raw : ℕ × ℕ} {x : ℚ} (hx : x ≠ 0)
    (hraw : IsFraction raw x) :
    IsFraction (exactDecimals decimals0 decimals1 raw) (x * 10 ^ ((decimals1 : ℤ) - decimals0)) := by
  unfold exactDecimals
  dsimp only
  split_ifs with hle
  · have := isFraction_scaledPair (f := 10 ^ (decimals1 - decimals0 + (decimals0 - decimals1))) hraw
    rwa [Nat.cast_pow, ← zpow_natCast, Nat.cast_ofNat,
      show ((decimals1 - decimals0 + (decimals0 - decimals1) : ℕ) : ℤ) = decimals1 - decimals0 by
        omega] at this
  · have := (isFraction_scaledPair (f := 10 ^ (decimals1 - decimals0 + (decimals0 - decimals1)))
      (hraw.swap hx)).swap (mul_ne_zero (inv_ne_zero hx) (by positivity))
    rwa [mul_inv, inv_inv, Nat.cast_pow, ← zpow_natCast, Nat.cast_ofNat, ← zpow_neg,
      show -((decimals1 - decimals0 + (decimals0 - decimals1) : ℕ) : ℤ) = decimals1 - decimals0 by
        omega] at this

lemma scaleDecimals_eq {decimals0 decimals1 : ℕ} {raw p : ℕ × ℕ}
    (h : scaleDecimals decimals0 decimals1 raw = some p) : p = exactDecimals decimals0 decimals1 raw := by
  simp only [scaleDecimals, checkedPow, Option.bind_eq_bind, Option.bind_eq_some_iff,
    Unsigned.ofNat?_eq_some] at h
  obtain ⟨factor, hfactor, h⟩ := h
  simp only [exactDecimals, ← hfactor]
  split_ifs at h ⊢
  · exact (scaleFraction_eq_some.1 h).1
  · obtain ⟨q, hq, rfl⟩ := Option.map_eq_some_iff.1 h
    rw [(scaleFraction_eq_some.1 hq).1]

lemma atomicBinPrice_spec {binStep : ℕ} {decimals0 decimals1 : U8} {binId : ℤ} {num den : U128}
    (h : atomicBinPrice binStep decimals0 decimals1 binId = .ok (num, den)) :
    0 < num.val ∧ 0 < den.val ∧ (num.val : ℚ) / den.val =
      binPrice binStep binId * 10 ^ ((decimals1.val : ℤ) - decimals0.val) := by
  unfold atomicBinPrice at h
  obtain ⟨raw, hraw, h⟩ := bind_ok.1 h
  obtain ⟨scaled, hscaled, h⟩ := bind_ok.1 h
  obtain ⟨n, hn, h⟩ := bind_ok.1 h
  obtain ⟨d, hd, h⟩ := bind_ok.1 h
  obtain ⟨hne, h⟩ := ensure_ok.1 h
  cases h
  have hexact := @isFraction_exactDecimals decimals0.val decimals1.val _ _
    (binPrice_pos _ _).ne' (isFraction_exactRaw binStep binId)
  rw [← (rawBinPrice_eq_ok.1 hraw).1] at hexact
  rw [← scaleDecimals_eq (okOr_eq_ok.1 hscaled)] at hexact
  have hfrac := isFraction_reduce hexact
  rw [okOr_eq_ok, Unsigned.ofNat?_eq_some] at hn hd
  push Not at hne
  refine ⟨Nat.pos_of_ne_zero hne.1, Nat.pos_of_ne_zero hne.2, ?_⟩
  rw [hn, hd]
  exact hfrac.2

/-! ### The walk -/

def maxBinCrosses : ℕ := 32

structure BinExactInputRequest where
  tokenIn : AssetId
  amountIn : AtomicAmount
  tokenOut : Option AssetId

structure BinSimulationQuote where
  input : AssetAmount
  output : AssetAmount
  fee : AssetAmount
  effectiveInput : AssetAmount
  feeBps : Bps
  resultingActiveBinId : ℤ
  binsCrossed : ℕ

def binMulDivCeil (a b c : U128) : Option U128 := do
  let quotient ← mulDivFloor a b c
  if cmpU128Products quotient.val c.val a.val b.val = .lt then Unsigned.ofNat? (quotient.val + 1)
  else some quotient

section

variable {pool : BinPoolState}

/-- The state of the walk; the bins it stands in are positions in the pool. -/
structure BinState (pool : BinPoolState) where
  index : Fin pool.bins.length
  remaining : U128
  output : U128
  crossed : ℕ
  /-- The last bin that gave output. -/
  lastOutput : Fin pool.bins.length

/-- One iteration up to the choice of the next bin: takes from the current bin what the remaining
input pays for. -/
def fillBin (token0In : Bool) (st : BinState pool) : Except BinSimulationError (BinState pool) :=
  let bin := pool.bins.get st.index
  let available := if token0In then bin.reserve1 else bin.reserve0
  if available.val = 0 then .ok st
  else do
    let (n, d) ← atomicBinPrice pool.binStep pool.decimals0 pool.decimals1 bin.id
    let (outputNumerator, outputDenominator) := if token0In then (n, d) else (d, n)
    let need ← okOr (binMulDivCeil available outputDenominator outputNumerator) .arithmeticOverflow
    if need ≤ st.remaining then do
      let output ← okOr (st.output.checkedAdd available) .arithmeticOverflow
      let remaining ← okOr (st.remaining.checkedSub need) .arithmeticOverflow
      return { st with output := output, remaining := remaining, lastOutput := st.index }
    else do
      let partialOutput ← okOr (mulDivFloor st.remaining outputNumerator outputDenominator)
        .arithmeticOverflow
      let output ← okOr (st.output.checkedAdd partialOutput) .arithmeticOverflow
      return { st with
        output := output, remaining := .zero
        lastOutput := if 0 < partialOutput.val then st.index else st.lastOutput }

def nextBinIndex (token0In : Bool) (index : Fin pool.bins.length) : Option (Fin pool.bins.length) :=
  if token0In then
    if index.val = 0 then none else some ⟨index.val - 1, by have := index.isLt; omega⟩
  else if h : index.val + 1 < pool.bins.length then some ⟨index.val + 1, h⟩
  else none

/-- The loop. It goes on only by counting a crossing. -/
def binLoop (token0In : Bool) (st : BinState pool) : Except BinSimulationError (BinState pool) := do
  let filled ← fillBin token0In st
  if filled.remaining.val = 0 then return filled
  else if maxBinCrosses ≤ st.crossed then .error .binCrossingExceeded
  else
    match nextBinIndex token0In st.index with
    | none => .error .binCrossingExceeded
    | some next => binLoop token0In { filled with index := next, crossed := st.crossed + 1 }
termination_by maxBinCrosses - st.crossed

end

def simulateBinExactInput (pool : BinPoolState) (request : BinExactInputRequest) :
    Except BinSimulationError BinSimulationQuote := do
  pool.validate.mapError MarketTypeError.toBin
  ensure (request.amountIn.val ≠ 0) .zeroInputAmount
  ensure (request.tokenIn.chain = pool.token0.chain) .chainMismatch
  let token0In ← okOr (isToken0In pool.token0 pool.token1 request.tokenIn) .invalidAssetDirection
  let expectedOut := if token0In then pool.token1 else pool.token0
  request.tokenOut.forM fun callerOut => do
    ensure (callerOut.chain = pool.token0.chain) .chainMismatch
    ensure (callerOut ≠ request.tokenIn) .invalidAssetDirection
    ensure (callerOut = expectedOut) .outputAssetMismatch
  ensure (pool.feeBps.get < 10000) .invalidFee
  let active ← okOr (pool.bins.findFinIdx? fun bin => bin.id = pool.activeBinId) .invalidRange
  let fee ← okOr (mulDivFloor request.amountIn ⟨pool.feeBps.get, by have := pool.feeBps.le; omega⟩
    (.lit 10000)) .arithmeticOverflow
  let effectiveInput ← okOr (request.amountIn.checkedSub fee) .arithmeticOverflow
  ensure (effectiveInput.val ≠ 0) .zeroEffectiveInput
  let final ← binLoop token0In ⟨active, effectiveInput, .zero, 0, active⟩
  ensure (final.output.val ≠ 0) .zeroOutputAmount
  return {
    input := ⟨request.tokenIn, request.amountIn⟩
    output := ⟨expectedOut, final.output⟩
    fee := ⟨request.tokenIn, fee⟩
    effectiveInput := ⟨request.tokenIn, effectiveInput⟩
    feeBps := pool.feeBps
    resultingActiveBinId := (pool.bins.get final.lastOutput).id
    binsCrossed := final.crossed }

lemma simulateBin_step_lt {pool : BinPoolState} {request : BinExactInputRequest} {q : BinSimulationQuote}
    (h : simulateBinExactInput pool request = .ok q) : pool.binStep < 2 ^ 16 := by
  obtain ⟨_, hvalid, -⟩ := bind_ok.1 h
  obtain ⟨_, -, hvalid⟩ := bind_ok.1 (mapError_eq_ok hvalid)
  obtain ⟨⟨-, hle⟩, -⟩ := ensure_ok.1 hvalid
  unfold maxBinStepBps at hle
  omega

end PrivateExecution
