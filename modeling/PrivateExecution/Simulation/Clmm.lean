import PrivateExecution.Simulation.Cpmm
import PrivateExecution.Simulation.TickMath
import PrivateExecution.Simulation.U512

/-!
# Concentrated liquidity quotes

The exact-input quote of a concentrated liquidity pool (`simulation/src/clmm.rs`). The pool's
initialized ticks cut the prices into ranges of constant liquidity; a swap walks through them, down
when token 0 is sold and up when token 1 is, and the two walks treat a boundary differently: going up
the tick is crossed as soon as its price is reached, going down only when there is input left to go
further.
-/

namespace PrivateExecution

/-- The difference where it is known not to underflow. -/
def Unsigned.minus {w : ℕ} (a b : Unsigned w) : Unsigned w :=
  ⟨a.val - b.val, a.sub_lt b⟩

@[simp] lemma Unsigned.minus_val {w : ℕ} (a b : Unsigned w) : (a.minus b).val = a.val - b.val := rfl

def MarketTypeError.toClmm : MarketTypeError → ClmmSimulationError
  | .chainMismatch => .chainMismatch
  | .tickOutOfRange .. | .tickSpacingMismatch .. => .invalidTick
  | .clmmTicksExceeded .. | .unsortedClmmTicks | .duplicateClmmTick _ | .invalidTickLiquidity _ =>
    .invalidRange
  | _ => .invalidPoolState

structure ClmmExactInputRequest where
  tokenIn : AssetId
  amountIn : AtomicAmount
  tokenOut : Option AssetId

structure ClmmSimulationQuote where
  input : AssetAmount
  output : AssetAmount
  fee : AssetAmount
  effectiveInput : AssetAmount
  feeBps : Bps
  resultingSqrtPriceX64 : U128
  resultingTick : ℤ
  resultingLiquidity : U128
deriving DecidableEq

def maxClmmTickCrosses : ℕ := 32

variable (liquidity : U128)

/-- A checked addition, or a checked subtraction of the absolute value. -/
def addNet (net : ℤ) : Option U128 :=
  if 0 ≤ net then Unsigned.ofNat? (liquidity.val + net.natAbs)
  else if net.natAbs ≤ liquidity.val then Unsigned.ofNat? (liquidity.val - net.natAbs)
  else none

def checkedAddNet (net : ℤ) : Except ClmmSimulationError U128 := do
  let newLiq ← okOr (addNet liquidity net) .arithmeticOverflow
  ensure (newLiq.val ≠ 0) .invalidLiquidity
  return newLiq

def checkedSubNet (net : ℤ) : Except ClmmSimulationError U128 :=
  checkedAddNet liquidity (-net)

/-! ### Amounts and prices of one step -/

section

/-- `ceil(L * 2^64 * (s - sLower) / (s * sLower))`: the token 0 that moves the price down to
`sLower`. -/
def amount0Max (liquidity s sLower : U128) : Except ClmmSimulationError U512 := do
  let num ← okOr (U512.mulU128 liquidity (s.minus sLower)).shl64 .arithmeticOverflow
  okOr (num.divCeil (U512.mulU128 s sLower)) .arithmeticOverflow

/-- `floor(L * 2^64 * (sNext - s) / (s * sNext))`: the token 0 that a move up pays out. -/
def amount0Out (liquidity s sNext : U128) : Except ClmmSimulationError U128 := do
  let num ← okOr (U512.mulU128 liquidity (sNext.minus s)).shl64 .arithmeticOverflow
  let quot ← okOr (num.divFloor (U512.mulU128 s sNext)) .arithmeticOverflow
  okOr quot.asU128 .arithmeticOverflow

/-- `ceil(L * deltaS / 2^64)`: the token 1 that moves the price up by `deltaS`. -/
def amount1Max (liquidity deltaS : U128) : Except ClmmSimulationError U512 := do
  let den ← okOr U512.one.shl64 .arithmeticOverflow
  okOr ((U512.mulU128 liquidity deltaS).divCeil den) .arithmeticOverflow

/-- `floor(L * deltaS / 2^64)`: the token 1 that a move down pays out. -/
def amount1Out (liquidity deltaS : U128) : Except ClmmSimulationError U128 := do
  ensure ((mulU128Wide liquidity.val deltaS.val).1 / 2 ^ 64 = 0) .arithmeticOverflow
  return .wrap (mulShift 64 liquidity.val deltaS.val)

/-- `ceil(L * 2^64 * s / (L * 2^64 + input * s))`: the price after an input of token 0. -/
def nextPriceDown (liquidity s input : U128) : Except ClmmSimulationError U128 := do
  let num ← okOr (U512.mulU128 liquidity s).shl64 .arithmeticOverflow
  let lX64 ← okOr (U512.fromU128 liquidity).shl64 .arithmeticOverflow
  let den ← okOr (lX64.add (U512.mulU128 input s)) .arithmeticOverflow
  let quot ← okOr (num.divCeil den) .arithmeticOverflow
  okOr quot.asU128 .arithmeticOverflow

/-- `s + floor(input * 2^64 / L)`: the price after an input of token 1. -/
def nextPriceUp (liquidity s input : U128) : Except ClmmSimulationError U128 := do
  let num ← okOr (U512.fromU128 input).shl64 .arithmeticOverflow
  let quot ← okOr (num.divFloor (U512.fromU128 liquidity)) .arithmeticOverflow
  let deltaS ← okOr quot.asU128 .arithmeticOverflow
  okOr (s.checkedAdd deltaS) .arithmeticOverflow

end

/-! ### The walk -/

abbrev TickRange (ticks : List ClmmTick) : Type := Fin (ticks.length - 1)

section

variable {ticks : List ClmmTick}

variable (i : TickRange ticks)

def lowerTick : ClmmTick := ticks.get ⟨i.val, by have := i.isLt; omega⟩

def upperTick : ClmmTick := ticks.get ⟨i.val + 1, by have := i.isLt; omega⟩

structure ClmmState (ticks : List ClmmTick) where
  s : U128
  tick : ℤ
  liquidity : U128
  remaining : U128
  output : U128
  crosses : ℕ
  range : TickRange ticks

variable (st : ClmmState ticks)

/-- Into the range below, when the price stands on the lower boundary. Returns the new lower
boundary. -/
def crossDown : Except ClmmSimulationError (ClmmState ticks × U128) := do
  ensure (st.range.val ≠ 0) .tickCrossingExceeded
  ensure (st.crosses < maxClmmTickCrosses) .tickCrossingExceeded
  let liquidity ← checkedSubNet st.liquidity (lowerTick st.range).liquidityNet
  let range : TickRange ticks := ⟨st.range.val - 1, lt_of_le_of_lt (Nat.sub_le _ _) st.range.isLt⟩
  let sLower ← sqrtPriceFromTickIndex (lowerTick range).index
  return ({ st with liquidity, range, crosses := st.crosses + 1 }, sLower)

def finishDown (sLower : U128) : Except ClmmSimulationError (ClmmState ticks) := do
  let sNext ← nextPriceDown st.liquidity st.s st.remaining
  ensure (¬(sNext ≤ sLower ∨ st.s ≤ sNext)) .invariantViolated
  let out ← amount1Out st.liquidity (st.s.minus sNext)
  ensure (¬(out.val = 0 ∧ st.output.val = 0)) .zeroOutputAmount
  let output ← okOr (st.output.checkedAdd out) .arithmeticOverflow
  let resTick ← tickIndexFromSqrtPrice sNext.val
  ensure (¬resTick < (lowerTick st.range).index) .invariantViolated
  return { st with s := sNext, tick := resTick, output }

def reachDown (sLower : U128) (deltaXMax : U512) : Except ClmmSimulationError (ClmmState ticks) := do
  ensure ((U512.fromU128 st.remaining).cmp deltaXMax = .gt → st.range.val ≠ 0) .tickCrossingExceeded
  ensure ((U512.fromU128 st.remaining).cmp deltaXMax = .gt → st.crosses < maxClmmTickCrosses)
    .tickCrossingExceeded
  let inputStep ← okOr deltaXMax.asU128 .arithmeticOverflow
  let out ← amount1Out st.liquidity (st.s.minus sLower)
  let output ← okOr (st.output.checkedAdd out) .arithmeticOverflow
  let remaining ← okOr (st.remaining.checkedSub inputStep) .arithmeticOverflow
  return { st with s := sLower, tick := (lowerTick st.range).index, remaining, output }

/-- The range the next step down works in, and its lower boundary. -/
def enterDown : Except ClmmSimulationError (ClmmState ticks × U128) := do
  let boundary ← sqrtPriceFromTickIndex (lowerTick st.range).index
  if st.s = boundary then crossDown st else return (st, boundary)

/-- One iteration of the loop with token 0 going in. The flag is set by `break`. -/
def stepDown : Except ClmmSimulationError (ClmmState ticks × Bool) := do
  let (st, sLower) ← enterDown st
  ensure (¬st.s ≤ sLower) .invariantViolated
  let deltaXMax ← amount0Max st.liquidity st.s sLower
  if ((U512.fromU128 st.remaining).cmp deltaXMax).isLT then return (← finishDown st sLower, true)
  else return (← reachDown st sLower deltaXMax, false)

def finishUp (sUpper : U128) : Except ClmmSimulationError (ClmmState ticks) := do
  let sNext ← nextPriceUp st.liquidity st.s st.remaining
  ensure (¬(sUpper ≤ sNext ∨ sNext ≤ st.s)) .invariantViolated
  let out ← amount0Out st.liquidity st.s sNext
  ensure (¬(out.val = 0 ∧ st.output.val = 0)) .zeroOutputAmount
  let output ← okOr (st.output.checkedAdd out) .arithmeticOverflow
  let resTick ← tickIndexFromSqrtPrice sNext.val
  ensure (¬(upperTick st.range).index ≤ resTick) .invariantViolated
  return { st with s := sNext, tick := resTick, output }

def rangeAbove : Option (TickRange ticks) :=
  if h : i.val + 1 < ticks.length - 1 then some ⟨i.val + 1, h⟩ else none

def reachUp (sUpper : U128) (deltaYMax : U512) : Except ClmmSimulationError (ClmmState ticks) := do
  let range ← okOr (rangeAbove st.range) .tickCrossingExceeded
  ensure (st.crosses < maxClmmTickCrosses) .tickCrossingExceeded
  let inputStep ← okOr deltaYMax.asU128 .arithmeticOverflow
  let out ← amount0Out st.liquidity st.s sUpper
  let output ← okOr (st.output.checkedAdd out) .arithmeticOverflow
  let remaining ← okOr (st.remaining.checkedSub inputStep) .arithmeticOverflow
  let liquidity ← checkedAddNet st.liquidity (upperTick st.range).liquidityNet
  return {
    s := sUpper
    tick := (upperTick st.range).index
    liquidity
    remaining
    output
    crosses := st.crosses + 1
    range }

def stepUp : Except ClmmSimulationError (ClmmState ticks × Bool) := do
  let sUpper ← sqrtPriceFromTickIndex (upperTick st.range).index
  ensure (¬sUpper ≤ st.s) .invariantViolated
  let deltaYMax ← amount1Max st.liquidity (sUpper.minus st.s)
  if ((U512.fromU128 st.remaining).cmp deltaYMax).isLT then return (← finishUp st sUpper, true)
  else return (← reachUp st sUpper deltaYMax, false)

/-- The loop. Every iteration that does not end it crosses a tick or, as the first one down, moves to
one, so `clmmFuel` iterations are never used up. -/
def clmmLoop (step : ClmmState ticks → Except ClmmSimulationError (ClmmState ticks × Bool)) :
    ℕ → ClmmState ticks → Except ClmmSimulationError (ClmmState ticks)
  | 0, _ => .error .tickCrossingExceeded
  | fuel + 1, st =>
    if st.remaining.val = 0 then .ok st
    else do
      let (next, done) ← step st
      if done then .ok next else clmmLoop step fuel next

def clmmFuel : ℕ := maxClmmTickCrosses + 3

end

/-! ### The simulation -/

variable (pool : ClmmPoolState)

/-- Steps 3 to 5: liquidity, price and tick of the pool. -/
def ClmmPoolState.checkState : Except ClmmSimulationError Unit := do
  ensure (pool.liquidity.val ≠ 0) .invalidLiquidity
  ensure (pool.sqrtPriceX64.val ≠ 0 ∧ minSqrtPriceX64 ≤ pool.sqrtPriceX64.val ∧
    pool.sqrtPriceX64.val ≤ maxSqrtPriceX64) .invalidPrice
  ensure (minTick ≤ pool.currentTick ∧ pool.currentTick ≤ maxTick) .invalidTick

/-- The first range that contains the current tick. -/
def ClmmPoolState.findRange : Option (TickRange pool.ticks) :=
  (List.finRange (pool.ticks.length - 1)).find? fun i =>
    decide ((@lowerTick pool.ticks i).index ≤ pool.currentTick ∧
      pool.currentTick < (@upperTick pool.ticks i).index)

/-- Steps 10 and 11: tick and price agree, and both lie in one range of initialized ticks. -/
def ClmmPoolState.checkRange : Except ClmmSimulationError (TickRange pool.ticks) := do
  let recoveredTick ← tickIndexFromSqrtPrice pool.sqrtPriceX64.val
  ensure (recoveredTick = pool.currentTick) .invalidRange
  ensure (¬pool.ticks.length < 2) .invalidRange
  ensure (¬((∃ t ∈ pool.ticks.head?, pool.currentTick < t.index) ∨
    ∃ t ∈ pool.ticks.getLast?, t.index ≤ pool.currentTick)) .invalidRange
  let range ← okOr pool.findRange .invalidRange
  let sLower ← sqrtPriceFromTickIndex (lowerTick range).index
  let sUpper ← sqrtPriceFromTickIndex (upperTick range).index
  ensure (¬sUpper ≤ sLower) .invalidRange
  ensure (¬(pool.sqrtPriceX64 < sLower ∨ sUpper ≤ pool.sqrtPriceX64)) .invalidRange
  return range

variable (request : ClmmExactInputRequest)

/-- Step 9: the output asset the caller asserts. -/
def checkTokenOut (expectedOut : AssetId) : Except ClmmSimulationError Unit :=
  match request.tokenOut with
  | none => .ok ()
  | some callerOut => do
    ensure (callerOut.chain = pool.token0.chain) .chainMismatch
    ensure (callerOut ≠ request.tokenIn) .invalidAssetDirection
    ensure (callerOut = expectedOut) .outputAssetMismatch

def ClmmPoolState.start (range : TickRange pool.ticks) (effectiveInput : U128) : ClmmState pool.ticks where
  s := pool.sqrtPriceX64
  tick := pool.currentTick
  liquidity := pool.liquidity
  remaining := effectiveInput
  output := .zero
  crosses := 0
  range := range

def simulateClmmExactInput : Except ClmmSimulationError ClmmSimulationQuote := do
  pool.validate.mapError MarketTypeError.toClmm
  ensure (request.amountIn.val ≠ 0) .zeroInputAmount
  pool.checkState
  ensure (pool.feeBps.get < 10000) .invalidFee
  ensure (request.tokenIn.chain = pool.token0.chain) .chainMismatch
  let token0In ← okOr (isToken0In pool.token0 pool.token1 request.tokenIn) .invalidAssetDirection
  let expectedOut := if token0In then pool.token1 else pool.token0
  checkTokenOut pool request expectedOut
  let range ← pool.checkRange
  let fee : U128 ← okOr (mulDivFloor request.amountIn (.wrap pool.feeBps.get) (.lit 10000))
    .arithmeticOverflow
  let effectiveInput ← okOr (request.amountIn.checkedSub fee) .arithmeticOverflow
  ensure (effectiveInput.val ≠ 0) .zeroEffectiveInput
  let final ← clmmLoop (if token0In then stepDown else stepUp) clmmFuel
    (pool.start range effectiveInput)
  ensure (final.output.val ≠ 0) .zeroOutputAmount
  return {
    input := ⟨request.tokenIn, request.amountIn⟩
    output := ⟨expectedOut, final.output⟩
    fee := ⟨request.tokenIn, fee⟩
    effectiveInput := ⟨request.tokenIn, effectiveInput⟩
    feeBps := pool.feeBps
    resultingSqrtPriceX64 := final.s
    resultingTick := final.tick
    resultingLiquidity := final.liquidity }

end PrivateExecution
