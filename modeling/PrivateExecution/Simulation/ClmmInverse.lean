import PrivateExecution.Simulation.ClmmOrder
import PrivateExecution.Simulation.ClmmRoundtrip
import PrivateExecution.Simulation.CpmmInverse

/-!
# Concentrated liquidity quotes for an exact output

`simulate_clmm_exact_output` (`simulation/src/clmm.rs`) searches the least input with the exact-input walk
as its only oracle. The walk can fail between two of its successes, and the search gives up when it meets
such a hole; so a quote need not exist. One that does exist is minimal.
-/

namespace PrivateExecution

section

structure ClmmExactOutputRequest where
  tokenIn : AssetId
  amountOut : AtomicAmount
  /-- The output asset the caller expects, if it says so. -/
  tokenOut : Option AssetId

structure ClmmExactOutputQuote where
  input : AssetAmount
  requestedOutput : AssetAmount
  output : AssetAmount
  fee : AssetAmount
  effectiveInput : AssetAmount
  feeBps : Bps
  resultingSqrtPriceX64 : U128
  resultingTick : ℤ
  resultingLiquidity : U128

variable (pool : ClmmPoolState) (request : ClmmExactOutputRequest)

def clmmOracle (tokenIn : AssetId) (g : ℕ) : Except ClmmSimulationError ℕ :=
  (simulateClmmExactInput pool ⟨tokenIn, .lit g, none⟩).map fun quote => quote.output.amount.val

/-- The quote of the input that was found, from the exact-input simulation (step 12). -/
def realizeClmmOutput (expectedOut : AssetId)
    (minimalIn : ℕ) : Except ClmmSimulationError ClmmExactOutputQuote := do
  let realized ← simulateClmmExactInput pool ⟨request.tokenIn, .lit minimalIn, none⟩
  ensure (request.amountOut ≤ realized.output.amount) .invariantViolated
  return {
    input := realized.input
    requestedOutput := ⟨expectedOut, request.amountOut⟩
    output := realized.output
    fee := realized.fee
    effectiveInput := realized.effectiveInput
    feeBps := realized.feeBps
    resultingSqrtPriceX64 := realized.resultingSqrtPriceX64
    resultingTick := realized.resultingTick
    resultingLiquidity := realized.resultingLiquidity }

/-- The check of the caller's assertion is
that of the exact-input simulation; it reads the tokens of a request only. -/
def simulateClmmExactOutput : Except ClmmSimulationError ClmmExactOutputQuote := do
  pool.validate.mapError MarketTypeError.toClmm
  ensure (request.amountOut.val ≠ 0) .zeroOutputAmount
  pool.checkState
  ensure (pool.feeBps.get < 10000) .invalidFee
  ensure (request.tokenIn.chain = pool.token0.chain) .chainMismatch
  let token0In ← okOr (isToken0In pool.token0 pool.token1 request.tokenIn) .invalidAssetDirection
  let expectedOut := if token0In then pool.token1 else pool.token0
  checkTokenOut pool ⟨request.tokenIn, request.amountOut, request.tokenOut⟩ expectedOut
  match ← findMinGrossInput request.amountOut.val (clmmOracle pool request.tokenIn) clmmProbeClass with
  | .found minimalIn => realizeClmmOutput pool request expectedOut minimalIn
  | .unreachable => .error .outputUnreachable
  | .invariant => .error .invariantViolated

end

/-! ### The exact-input simulation of an admitted swap -/

/-- The pool admits swaps of the token, in the direction `token0In` and from the range `range` on. -/
structure ClmmAdmits (pool : ClmmPoolState) (tokenIn : AssetId) (token0In : Bool)
    (range : TickRange pool.ticks) : Prop where
  valid : pool.validate = .ok ()
  state : pool.checkState = .ok ()
  fee : pool.feeBps.get < 10000
  chain : tokenIn.chain = pool.token0.chain
  direction : isToken0In pool.token0 pool.token1 tokenIn = some token0In
  coherent : pool.checkRange = .ok range

section

variable {pool : ClmmPoolState} {tokenIn : AssetId} {tokenOut : Option AssetId} {token0In : Bool}
  {range : TickRange pool.ticks} {a : U128} {q : ClmmSimulationQuote}

lemma admits_of_simulateClmm (h : simulateClmmExactInput pool ⟨tokenIn, a, tokenOut⟩ = .ok q) :
    0 < a.val ∧ ∃ token0In range, ClmmAdmits pool tokenIn token0In range := by
  unfold simulateClmmExactInput at h
  obtain ⟨_, hvalid, h⟩ := bind_ok.1 h
  obtain ⟨ha, h⟩ := ensure_ok.1 h
  obtain ⟨_, hstate, h⟩ := bind_ok.1 h
  obtain ⟨hfee, h⟩ := ensure_ok.1 h
  obtain ⟨hchain, h⟩ := ensure_ok.1 h
  obtain ⟨token0In, hdirection, h⟩ := bind_ok.1 h
  obtain ⟨_, -, h⟩ := bind_ok.1 h
  obtain ⟨range, hrange, -⟩ := bind_ok.1 h
  exact ⟨Nat.pos_of_ne_zero ha, token0In, range, mapError_eq_ok hvalid, hstate, hfee, hchain,
    okOr_eq_ok.1 hdirection, hrange⟩

section

variable (h : ClmmAdmits pool tokenIn token0In range)

include h

lemma ClmmAdmits.simulate (ha : 0 < a.val)
    {fee input : U128} (hfee : fee.val = a.val * pool.feeBps.get / 10000)
    (hinput : input.val = a.val - fee.val) (tokenOut : Option AssetId) :
    simulateClmmExactInput pool ⟨tokenIn, a, tokenOut⟩ = (do
      checkTokenOut pool ⟨tokenIn, a, tokenOut⟩ (if token0In then pool.token1 else pool.token0)
      let final ← clmmLoop (if token0In then stepDown else stepUp) clmmFuel (pool.start range input)
      ensure (final.output.val ≠ 0) .zeroOutputAmount
      return {
        input := ⟨tokenIn, a⟩
        output := ⟨if token0In then pool.token1 else pool.token0, final.output⟩
        fee := ⟨tokenIn, fee⟩
        effectiveInput := ⟨tokenIn, input⟩
        feeBps := pool.feeBps
        resultingSqrtPriceX64 := final.s
        resultingTick := final.tick
        resultingLiquidity := final.liquidity }) := by
  have hle : fee.val ≤ a.val := by
    rw [hfee]
    refine Nat.div_le_of_le_mul ?_
    rw [Nat.mul_comm 10000]
    exact Nat.mul_le_mul_left _ h.fee.le
  have hpos : input.val ≠ 0 := by
    rw [hinput, hfee]
    exact (effectiveOf_pos h.fee ha).ne'
  have hwrap : (Unsigned.wrap pool.feeBps.get : U128).val = pool.feeBps.get := by
    rw [Unsigned.wrap_val]
    exact Nat.mod_eq_of_lt (by have := h.fee; omega)
  have hcharged : mulDivFloor a (.wrap pool.feeBps.get) (.lit 10000) = some fee :=
    mulDivFloor_eq_some.2 ⟨by decide, by rw [hwrap]; exact hfee⟩
  unfold simulateClmmExactInput
  rw [h.valid]
  refine (ensure_pos ha.ne').trans ?_
  rw [h.state]
  refine (ensure_pos h.fee).trans ?_
  rw [ensure_pos h.chain, okOr_some h.direction]
  refine congrArg (checkTokenOut pool ⟨tokenIn, a, tokenOut⟩ _ >>= ·) (funext fun _ => ?_)
  rw [h.coherent]
  refine (okOr_some hcharged).trans ?_
  rw [okOr_some (Unsigned.checkedSub_eq_some.2 ⟨hle, hinput⟩), ensure_pos hpos]

lemma ClmmAdmits.exists_input (a : U128) :
    ∃ fee input : U128, fee.val = a.val * pool.feeBps.get / 10000 ∧ input.val = a.val - fee.val ∧
      input.val = effectiveOf pool.feeBps.get a.val := by
  have hle : a.val * pool.feeBps.get / 10000 ≤ a.val := by
    refine Nat.div_le_of_le_mul ?_
    rw [Nat.mul_comm 10000]
    exact Nat.mul_le_mul_left _ h.fee.le
  exact ⟨⟨_, lt_of_le_of_lt hle a.lt⟩, ⟨_, Unsigned.sub_lt ..⟩, rfl, rfl, rfl⟩

lemma ClmmAdmits.of_quote (ha : 0 < a.val)
    {fee input : U128} (hfee : fee.val = a.val * pool.feeBps.get / 10000) (hinput : input.val = a.val - fee.val)
    (hq : simulateClmmExactInput pool ⟨tokenIn, a, tokenOut⟩ = .ok q) :
    ∃ final, clmmLoop (if token0In then stepDown else stepUp) clmmFuel (pool.start range input) = .ok final ∧
      final.output.val ≠ 0 ∧ q.input.amount = a ∧ q.output.amount = final.output ∧
      q.resultingSqrtPriceX64 = final.s := by
  rw [h.simulate ha hfee hinput] at hq
  obtain ⟨_, -, hq⟩ := bind_ok.1 hq
  obtain ⟨final, hrun, hq⟩ := bind_ok.1 hq
  obtain ⟨hne, hq⟩ := ensure_ok.1 hq
  cases hq
  exact ⟨final, hrun, hne, rfl, rfl, rfl⟩

end

lemma notLow_checkTokenOut (request : ClmmExactInputRequest) (out : AssetId) :
    NotLow (checkTokenOut pool request out) := by
  unfold checkTokenOut
  split
  · exact .ok _
  · exact .bind (.ensure (by decide)) fun _ _ => .bind (.ensure (by decide)) fun _ _ => .ensure (by decide)

/-- **The order of the quotes.** Above a quote there is no failure for want of output, and every further
quote has no less output and a price no less far along. -/
lemma simulateClmm_order (a' : U128) (tokenOut' : Option AssetId)
    (hq : simulateClmmExactInput pool ⟨tokenIn, a, tokenOut⟩ = .ok q) (hle : a.val ≤ a'.val) :
    NotLow (simulateClmmExactInput pool ⟨tokenIn, a', tokenOut'⟩) ∧
      ∀ q', simulateClmmExactInput pool ⟨tokenIn, a', tokenOut'⟩ = .ok q' →
        q.output.amount.val ≤ q'.output.amount.val ∧
        ∀ token0In, isToken0In pool.token0 pool.token1 tokenIn = some token0In →
          Onward token0In q.resultingSqrtPriceX64.val q'.resultingSqrtPriceX64.val := by
  obtain ⟨ha, token0In, range, h⟩ := admits_of_simulateClmm hq
  obtain ⟨fee, input, hfee, hinput, heff⟩ := h.exists_input a
  obtain ⟨fee', input', hfee', hinput', heff'⟩ := h.exists_input a'
  obtain ⟨final, hrun, hne, -, hout, hprice⟩ := h.of_quote ha hfee hinput hq
  have hbehind : ClmmState.Behind (pool.start range input) (pool.start range input') := by
    refine ⟨?_, rfl⟩
    change input.val ≤ input'.val
    rw [heff, heff']
    exact effectiveOf_mono h.fee ha hle
  obtain ⟨hnotlow, hmono⟩ := clmmLoop_mono hbehind hrun hne
  have ha' : 0 < a'.val := by omega
  constructor
  · rw [h.simulate ha' hfee' hinput']
    refine .bind (notLow_checkTokenOut _ _) fun _ _ => .bind hnotlow fun final' hrun' => ?_
    have hgrows := (hmono final' hrun').output
    rw [ensure_pos (by omega : final'.output.val ≠ 0)]
    exact .ok _
  · intro q' hq'
    obtain ⟨final', hrun', -, -, hout', hprice'⟩ := h.of_quote ha' hfee' hinput' hq'
    obtain ⟨hgrows, honward⟩ := hmono final' hrun'
    rw [hout, hout', hprice, hprice']
    refine ⟨hgrows, fun direction hdirection => ?_⟩
    obtain rfl := Option.some.inj (h.direction.symm.trans hdirection)
    exact honward

end

/-! ### The inverse -/

section

variable {pool : ClmmPoolState} {request : ClmmExactOutputRequest} {q : ClmmExactOutputQuote}

lemma exactOutput_inv (h : simulateClmmExactOutput pool request = .ok q) :
    ∃ g quote, findMinGrossInput request.amountOut.val (clmmOracle pool request.tokenIn) clmmProbeClass =
        .ok (.found g) ∧
      simulateClmmExactInput pool ⟨request.tokenIn, .lit g, none⟩ = .ok quote ∧
      simulateClmmExactInput pool ⟨request.tokenIn, .lit g, request.tokenOut⟩ = .ok quote ∧
      request.amountOut ≤ quote.output.amount ∧ q.input.amount = .lit g ∧ q.output = quote.output := by
  unfold simulateClmmExactOutput at h
  obtain ⟨_, -, h⟩ := bind_ok.1 h
  obtain ⟨-, h⟩ := ensure_ok.1 h
  obtain ⟨_, -, h⟩ := bind_ok.1 h
  obtain ⟨-, h⟩ := ensure_ok.1 h
  obtain ⟨-, h⟩ := ensure_ok.1 h
  obtain ⟨token0In, hdirection, h⟩ := bind_ok.1 h
  obtain ⟨_, hcheck, h⟩ := bind_ok.1 h
  obtain ⟨outcome, hfind, h⟩ := bind_ok.1 h
  cases outcome with
  | unreachable => cases h
  | invariant => cases h
  | found g =>
    obtain ⟨quote, hquote, h⟩ := bind_ok.1 h
    obtain ⟨hle, h⟩ := ensure_ok.1 h
    cases h
    obtain ⟨ha, direction, range, hadmits⟩ := admits_of_simulateClmm hquote
    obtain rfl := Option.some.inj (hadmits.direction.symm.trans (okOr_eq_ok.1 hdirection))
    obtain ⟨fee, input, hfee, hinput, -⟩ := hadmits.exists_input (.lit g)
    obtain ⟨_, -, -, hin, -⟩ := hadmits.of_quote ha hfee hinput hquote
    refine ⟨g, quote, hfind, hquote, ?_, hle, hin, rfl⟩
    -- the assertion passed for the output request, and only its tokens are read
    have hcheck' : checkTokenOut pool ⟨request.tokenIn, .lit g, request.tokenOut⟩
        (if direction then pool.token1 else pool.token0) = .ok () := hcheck
    rw [← hquote, hadmits.simulate ha hfee hinput, hadmits.simulate ha hfee hinput, hcheck']
    rfl

end

/-- **Exact-output quotes are minimal.** -/
theorem clmm_exact_output_minimal (pool : ClmmPoolState) (request : ClmmExactOutputRequest) :
    (∀ q, simulateClmmExactOutput pool request = .ok q →
      (∃ quote, simulateClmmExactInput pool ⟨request.tokenIn, q.input.amount, request.tokenOut⟩ = .ok quote ∧
        request.amountOut ≤ quote.output.amount ∧ q.output = quote.output) ∧
      ∀ (g : U128) (tokenOut : Option AssetId) (quote : ClmmSimulationQuote), g < q.input.amount →
        simulateClmmExactInput pool ⟨request.tokenIn, g, tokenOut⟩ = .ok quote →
        quote.output.amount < request.amountOut) ∧
    ∀ (g g' : U128) (tokenOut : Option AssetId) (quote : ClmmSimulationQuote), g ≤ g' →
      simulateClmmExactInput pool ⟨request.tokenIn, g, tokenOut⟩ = .ok quote →
      (∀ quote', simulateClmmExactInput pool ⟨request.tokenIn, g', tokenOut⟩ = .ok quote' →
        quote.output.amount ≤ quote'.output.amount) ∧
      simulateClmmExactInput pool ⟨request.tokenIn, g', tokenOut⟩ ≠ .error .zeroOutputAmount ∧
      simulateClmmExactInput pool ⟨request.tokenIn, g', tokenOut⟩ ≠ .error .zeroEffectiveInput := by
  constructor
  · intro q hq
    obtain ⟨g, quote, hfind, -, hquote, hle, hinput, hout⟩ := exactOutput_inv hq
    obtain ⟨hpos, hlt, -, hshort⟩ := found_spec hfind
    have hval : (Unsigned.lit g : U128).val = g := Unsigned.lit_val hlt
    rw [hinput]
    refine ⟨⟨quote, hquote, hle, hout⟩, fun g' tokenOut quote' hless hquote' => ?_⟩
    have hless : g'.val < g := hval ▸ hless
    have hval' : (Unsigned.lit (g - 1) : U128).val = g - 1 := Unsigned.lit_val (by omega)
    obtain ⟨hnotlow, horder⟩ := simulateClmm_order (.lit (g - 1)) none hquote' (by omega)
    obtain ⟨hpos', -⟩ := admits_of_simulateClmm hquote'
    rcases hshort (by omega) with ⟨out, hprev, hfew⟩ | ⟨e, hprev, hlow⟩
    · obtain ⟨previous, hprevious, rfl⟩ := except_map_eq_ok.1 hprev
      exact lt_of_le_of_lt (horder previous hprevious).1 hfew
    · refine absurd hlow (hnotlow e ?_)
      cases hprevious : simulateClmmExactInput pool ⟨request.tokenIn, .lit (g - 1), none⟩ with
      | ok previous => simp [clmmOracle, hprevious, Except.map] at hprev
      | error e' => simpa [clmmOracle, hprevious, Except.map] using hprev
  · intro g g' tokenOut quote hle hquote
    obtain ⟨hnotlow, horder⟩ := simulateClmm_order g' tokenOut hquote hle
    exact ⟨fun quote' hquote' => (horder quote' hquote').1, fun h => hnotlow _ h rfl,
      fun h => hnotlow _ h rfl⟩

open ClmmPoolState.Sample in
theorem sample_output_minimal :
    ∃ q, simulateClmmExactOutput pool ⟨⟨.base, "USDC"⟩, .lit 5, none⟩ = .ok q ∧
      ∀ (g : U128) (quote : ClmmSimulationQuote), g < q.input.amount →
        simulateClmmExactInput pool ⟨⟨.base, "USDC"⟩, g, none⟩ = .ok quote →
        quote.output.amount < (.lit 5 : U128) := by
  have hruns : (simulateClmmExactOutput pool ⟨⟨.base, "USDC"⟩, .lit 5, none⟩).toBool := by decide +kernel
  obtain ⟨q, hq⟩ := exists_ok_of_toBool hruns
  have hminimal := ((clmm_exact_output_minimal pool ⟨⟨.base, "USDC"⟩, .lit 5, none⟩).1 q hq).2
  exact ⟨q, hq, fun g quote hless hquote => hminimal g none quote hless hquote⟩

end PrivateExecution
