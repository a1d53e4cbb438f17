import PrivateExecution.Simulation.BinWalk
import PrivateExecution.Simulation.CpmmInverse
import PrivateExecution.Simulation.MinimalInput

/-!
# Bin quotes for an exact output

`simulate_bin_exact_output` (`simulation/src/bin.rs`) searches the least input with the exact-input walk
as its only oracle.
-/

namespace PrivateExecution

section

structure BinExactOutputRequest where
  tokenIn : AssetId
  amountOut : AtomicAmount
  /-- The output asset the caller expects, if it says so. -/
  tokenOut : Option AssetId

structure BinExactOutputQuote where
  input : AssetAmount
  requestedOutput : AssetAmount
  output : AssetAmount
  fee : AssetAmount
  effectiveInput : AssetAmount
  feeBps : Bps
  resultingActiveBinId : ℤ
  binsCrossed : ℕ

def binProbeClass : BinSimulationError → ProbeClass
  | .zeroOutputAmount | .zeroEffectiveInput => .low
  | .invariantViolated => .hole
  | .binCrossingExceeded | .arithmeticOverflow => .high
  | _ => .unexpected

variable (pool : BinPoolState) (request : BinExactOutputRequest)

def binOracle (tokenIn : AssetId) (g : ℕ) : Except BinSimulationError ℕ :=
  (simulateBinExactInput pool ⟨tokenIn, .lit g, none⟩).map fun quote => quote.output.amount.val

/-- The quote of the input that was found, from the exact-input simulation (step 9). -/
def realizeBinOutput (expectedOut : AssetId)
    (minimalIn : ℕ) : Except BinSimulationError BinExactOutputQuote := do
  let realized ← simulateBinExactInput pool ⟨request.tokenIn, .lit minimalIn, none⟩
  ensure (request.amountOut ≤ realized.output.amount) .invariantViolated
  return {
    input := realized.input
    requestedOutput := ⟨expectedOut, request.amountOut⟩
    output := realized.output
    fee := realized.fee
    effectiveInput := realized.effectiveInput
    feeBps := realized.feeBps
    resultingActiveBinId := realized.resultingActiveBinId
    binsCrossed := realized.binsCrossed }

def simulateBinExactOutput : Except BinSimulationError BinExactOutputQuote := do
  pool.validate.mapError MarketTypeError.toBin
  ensure (request.amountOut.val ≠ 0) .zeroOutputAmount
  ensure (request.tokenIn.chain = pool.token0.chain) .chainMismatch
  let token0In ← okOr (isToken0In pool.token0 pool.token1 request.tokenIn) .invalidAssetDirection
  let expectedOut := if token0In then pool.token1 else pool.token0
  request.tokenOut.forM fun callerOut => do
    ensure (callerOut.chain = pool.token0.chain) .chainMismatch
    ensure (callerOut ≠ request.tokenIn) .invalidAssetDirection
    ensure (callerOut = expectedOut) .outputAssetMismatch
  ensure (pool.feeBps.get < 10000) .invalidFee
  match ← findMinGrossInput request.amountOut.val (binOracle pool request.tokenIn) binProbeClass with
  | .found minimalIn => realizeBinOutput pool request expectedOut minimalIn
  | .unreachable => .error .outputUnreachable
  | .invariant => .error .invariantViolated

end

/-! ### The exact-input simulation of an admitted swap -/

/-- The pool admits swaps of the token, in the direction `token0In` and from the bin `active` on. -/
structure BinAdmits (pool : BinPoolState) (tokenIn : AssetId) (token0In : Bool)
    (active : Fin pool.bins.length) : Prop where
  valid : pool.validate = .ok ()
  chain : tokenIn.chain = pool.token0.chain
  direction : isToken0In pool.token0 pool.token1 tokenIn = some token0In
  fee : pool.feeBps.get < 10000
  active : pool.bins.findFinIdx? (fun bin => bin.id = pool.activeBinId) = some active

/-- The caller expects the token that is paid out, if it says so. -/
def Expects (pool : BinPoolState) (token0In : Bool) (tokenOut : Option AssetId) : Prop :=
  ∀ callerOut ∈ tokenOut, callerOut = if token0In then pool.token1 else pool.token0

def BinPoolState.start (pool : BinPoolState) (active : Fin pool.bins.length) (input : U128) : BinState pool :=
  ⟨active, input, .zero, 0, active⟩

section

variable {pool : BinPoolState} {tokenIn : AssetId} {tokenOut : Option AssetId} {token0In : Bool}
  {active : Fin pool.bins.length} {a : U128}

lemma admits_of_simulateBin {q : BinSimulationQuote}
    (h : simulateBinExactInput pool ⟨tokenIn, a, tokenOut⟩ = .ok q) :
    0 < a.val ∧ ∃ token0In active, BinAdmits pool tokenIn token0In active := by
  unfold simulateBinExactInput at h
  obtain ⟨_, hvalid, h⟩ := bind_ok.1 h
  obtain ⟨ha, h⟩ := ensure_ok.1 h
  obtain ⟨hchain, h⟩ := ensure_ok.1 h
  obtain ⟨token0In, hdirection, h⟩ := bind_ok.1 h
  obtain ⟨_, -, h⟩ := bind_ok.1 h
  obtain ⟨hfee, h⟩ := ensure_ok.1 h
  obtain ⟨active, hactive, -⟩ := bind_ok.1 h
  exact ⟨Nat.pos_of_ne_zero ha, token0In, active, mapError_eq_ok hvalid, hchain, okOr_eq_ok.1 hdirection, hfee,
    okOr_eq_ok.1 hactive⟩

variable (h : BinAdmits pool tokenIn token0In active)

include h

lemma BinAdmits.tokens : pool.token0 ≠ pool.token1 ∧ pool.token0.chain = pool.token1.chain ∧
      tokenIn = if token0In then pool.token0 else pool.token1 := by
  obtain ⟨_, hpair, -⟩ := bind_ok.1 h.valid
  simp only [validatePair, ensure_ok] at hpair
  refine ⟨hpair.2.2.1, hpair.2.2.2.1, ?_⟩
  have hdirection := h.direction
  unfold isToken0In at hdirection
  split_ifs at hdirection with h0 h1
  all_goals
    obtain rfl := Option.some.inj hdirection
    assumption

lemma BinAdmits.checkTokenOut (hout : Expects pool token0In tokenOut) : (tokenOut.forM fun callerOut => do
      ensure (callerOut.chain = pool.token0.chain) BinSimulationError.chainMismatch
      ensure (callerOut ≠ tokenIn) .invalidAssetDirection
      ensure (callerOut = if token0In then pool.token1 else pool.token0) .outputAssetMismatch) = .ok () := by
  cases tokenOut with
  | none => rfl
  | some callerOut =>
    obtain ⟨hne, hchain, hin⟩ := h.tokens
    obtain rfl : callerOut = _ := hout callerOut rfl
    refine (ensure_pos ?_).trans ((ensure_pos ?_).trans (ensure_eq_ok.2 rfl))
    · cases token0In
      · rfl
      · exact hchain.symm
    · rw [hin]
      cases token0In
      · exact hne
      · exact hne.symm

lemma BinAdmits.charged_le : a.val * pool.feeBps.get / 10000 ≤ a.val := by
  refine Nat.div_le_of_le_mul ?_
  rw [Nat.mul_comm 10000]
  exact Nat.mul_le_mul_left _ h.fee.le

lemma BinAdmits.simulate (hout : Expects pool token0In tokenOut) (ha : 0 < a.val) {fee input : U128}
    (hfee : fee.val = a.val * pool.feeBps.get / 10000) (hinput : input.val = a.val - fee.val) :
    simulateBinExactInput pool ⟨tokenIn, a, tokenOut⟩ = (do
      let final ← binLoop token0In (pool.start active input)
      ensure (final.output.val ≠ 0) .zeroOutputAmount
      return {
        input := ⟨tokenIn, a⟩
        output := ⟨if token0In then pool.token1 else pool.token0, final.output⟩
        fee := ⟨tokenIn, fee⟩
        effectiveInput := ⟨tokenIn, input⟩
        feeBps := pool.feeBps
        resultingActiveBinId := (pool.bins.get final.lastOutput).id
        binsCrossed := final.crossed }) := by
  have hpos : input.val ≠ 0 := by
    rw [hinput, hfee]
    exact (effectiveOf_pos h.fee ha).ne'
  unfold simulateBinExactInput
  rw [h.valid]
  refine (ensure_pos ha.ne').trans ?_
  rw [ensure_pos h.chain, okOr_some h.direction]
  dsimp only
  rw [h.checkTokenOut hout]
  refine (ensure_pos h.fee).trans ?_
  rw [okOr_some h.active, okOr_some (mulDivFloor_eq_some.2 ⟨by decide, hfee⟩),
    okOr_some (Unsigned.checkedSub_eq_some.2 ⟨by rw [hfee]; exact h.charged_le, hinput⟩),
    ensure_pos hpos]
  rfl

lemma BinAdmits.exists_input (a : U128) :
    ∃ fee input : U128, fee.val = a.val * pool.feeBps.get / 10000 ∧ input.val = a.val - fee.val :=
  ⟨⟨_, lt_of_le_of_lt h.charged_le a.lt⟩, ⟨_, Unsigned.sub_lt ..⟩, rfl, rfl⟩

omit h

lemma expects_none : Expects pool token0In none := by
  intro callerOut hout
  cases hout

lemma BinAdmits.simulate_none (h : BinAdmits pool tokenIn token0In active)
    (hout : Expects pool token0In tokenOut) (ha : 0 < a.val) :
    simulateBinExactInput pool ⟨tokenIn, a, tokenOut⟩ = simulateBinExactInput pool ⟨tokenIn, a, none⟩ := by
  obtain ⟨fee, input, hfee, hinput⟩ := h.exists_input a
  rw [h.simulate hout ha hfee hinput, h.simulate expects_none ha hfee hinput]

/-- The quote of an input comes from the walk of its effective input: the walk fails, it gives nothing, or
its output is quoted. -/
structure BinWalks (pool : BinPoolState) (tokenIn : AssetId) (tokenOut : Option AssetId) (token0In : Bool)
    (active : Fin pool.bins.length) (a input : U128) : Prop where
  input_eq : input.val = effectiveOf pool.feeBps.get a.val
  fails : ∀ e, binLoop token0In (pool.start active input) = .error e →
    simulateBinExactInput pool ⟨tokenIn, a, tokenOut⟩ = .error e
  gives_none : ∀ final, binLoop token0In (pool.start active input) = .ok final → final.output.val = 0 →
    simulateBinExactInput pool ⟨tokenIn, a, tokenOut⟩ = .error .zeroOutputAmount
  gives : ∀ final, binLoop token0In (pool.start active input) = .ok final → final.output.val ≠ 0 →
    ∃ q, simulateBinExactInput pool ⟨tokenIn, a, tokenOut⟩ = .ok q ∧ q.input.amount = a ∧
      q.output.amount = final.output ∧ q.resultingActiveBinId = (pool.bins.get final.lastOutput).id

lemma BinAdmits.walks (h : BinAdmits pool tokenIn token0In active)
    (hout : Expects pool token0In tokenOut) (ha : 0 < a.val) :
    ∃ input, BinWalks pool tokenIn tokenOut token0In active a input := by
  obtain ⟨fee, input, hfee, hinput⟩ := h.exists_input a
  have hrun := h.simulate hout ha hfee hinput
  refine ⟨input, by rw [hinput, hfee, effectiveOf], ?_, ?_, ?_⟩
  · intro e he
    rw [hrun, he]
    rfl
  · intro final hfinal hzero
    rw [hrun, hfinal]
    exact ensure_neg (not_not.2 hzero)
  · intro final hfinal hne
    exact ⟨_, hrun.trans (by rw [hfinal]; exact ensure_pos hne), rfl, rfl, rfl⟩

lemma BinWalks.of_quote {input : U128} {q : BinSimulationQuote}
    (h : BinWalks pool tokenIn tokenOut token0In active a input)
    (hq : simulateBinExactInput pool ⟨tokenIn, a, tokenOut⟩ = .ok q) :
    ∃ final, binLoop token0In (pool.start active input) = .ok final ∧ q.input.amount = a ∧
      q.output.amount = final.output ∧ q.resultingActiveBinId = (pool.bins.get final.lastOutput).id := by
  cases hrun : binLoop token0In (pool.start active input) with
  | error e => cases hq.symm.trans (h.fails e hrun)
  | ok final =>
    by_cases hzero : final.output.val = 0
    · cases hq.symm.trans (h.gives_none final hrun hzero)
    · obtain ⟨q', hq', hrest⟩ := h.gives final hrun hzero
      obtain rfl := Except.ok.inj (hq.symm.trans hq')
      exact ⟨final, rfl, hrest⟩

lemma BinPoolState.start_onward (pool : BinPoolState) {active : Fin pool.bins.length} (input : U128) :
    Onward token0In (pool.start active input).lastOutput.val (pool.start active input).index.val := .refl ..

end

/-! ### The facts the search rests on -/

section

variable {pool : BinPoolState} {tokenIn : AssetId} {token0In : Bool} {active : Fin pool.bins.length}

lemma binOracle_ok {g out : ℕ} (h : binOracle pool tokenIn g = .ok out) : 0 < g ∧ g < 2 ^ 128 := by
  obtain ⟨q, hq, -⟩ := except_map_eq_ok.1 h
  obtain ⟨_, -, hq⟩ := bind_ok.1 hq
  obtain ⟨hne, -⟩ := ensure_ok.1 hq
  by_cases hlt : g < 2 ^ 128
  · rw [Unsigned.lit_val hlt] at hne
    exact ⟨Nat.pos_of_ne_zero hne, hlt⟩
  · rw [Unsigned.lit, dif_neg hlt] at hne
    exact absurd rfl hne

def answerOf : Except BinSimulationError (BinState pool) → Except BinSimulationError ℕ
  | .error e => .error e
  | .ok final => if final.output.val = 0 then .error .zeroOutputAmount else .ok final.output.val

lemma BinAdmits.oracle (h : BinAdmits pool tokenIn token0In active) {g : ℕ} (hpos : 0 < g)
    (hlt : g < 2 ^ 128) :
    ∃ input : U128, input.val = effectiveOf pool.feeBps.get g ∧
      binOracle pool tokenIn g = answerOf (binLoop token0In (pool.start active input)) := by
  have hval : (Unsigned.lit g : U128).val = g := Unsigned.lit_val hlt
  obtain ⟨input, hwalks⟩ : ∃ input, BinWalks pool tokenIn none token0In active (.lit g) input :=
    h.walks expects_none (by omega)
  refine ⟨input, by rw [hwalks.input_eq, hval], ?_⟩
  unfold binOracle answerOf
  cases hrun : binLoop token0In (pool.start active input) with
  | error e =>
    rw [hwalks.fails e hrun]
    rfl
  | ok final =>
    by_cases hzero : final.output.val = 0
    · rw [hwalks.gives_none final hrun hzero]
      exact (if_pos hzero).symm
    · obtain ⟨q, hq, -, hout, -⟩ := hwalks.gives final hrun hzero
      rw [hq, Except.map, hout]
      exact (if_neg hzero).symm

lemma answerOf_eq_ok {run : Except BinSimulationError (BinState pool)} {out : ℕ}
    (h : answerOf run = .ok out) : ∃ final, run = .ok final ∧ final.output.val = out := by
  cases run with
  | error e => cases h
  | ok final =>
    rw [answerOf] at h
    split_ifs at h
    exact ⟨final, rfl, Except.ok.inj h⟩

lemma answerOf_eq_error {start : BinState pool} {e : BinSimulationError}
    (h : answerOf (binLoop token0In start) = .error e) :
    binLoop token0In start = .error e ∧ binProbeClass e = .high ∨
      binProbeClass e = .low ∧ ∃ final, binLoop token0In start = .ok final ∧ final.output.val = 0 := by
  cases hrun : binLoop token0In start with
  | error e' =>
    rw [hrun] at h
    obtain rfl := Except.error.inj h
    refine .inl ⟨rfl, ?_⟩
    rcases binLoop_error hrun with rfl | rfl <;> rfl
  | ok final =>
    rw [hrun, answerOf] at h
    split_ifs at h with hzero
    obtain rfl := Except.error.inj h
    exact .inr ⟨rfl, final, rfl, hzero⟩

lemma BinAdmits.oracle_mono (h : BinAdmits pool tokenIn token0In active) {g g' : ℕ} {input input' : U128}
    {final : BinState pool} (hpos : 0 < g) (hle : g ≤ g') (hinput : input.val = effectiveOf pool.feeBps.get g)
    (hinput' : input'.val = effectiveOf pool.feeBps.get g')
    (hrun : binLoop token0In (pool.start active input') = .ok final) :
    ∃ final', binLoop token0In (pool.start active input) = .ok final' ∧ BinState.Lags token0In final' final := by
  have hbehind : BinState.Behind (pool.start active input) (pool.start active input') := by
    refine ⟨input, ?_, rfl⟩
    change input.val ≤ input'.val
    rw [hinput, hinput']
    exact effectiveOf_mono h.fee hpos hle
  exact binLoop_mono hbehind (pool.start_onward input') hrun

lemma BinAdmits.staged (h : BinAdmits pool tokenIn token0In active) :
    Staged (binOracle pool tokenIn) binProbeClass where
  fails := by
    intro g e hpos hlt he
    obtain ⟨input, -, hanswer⟩ := h.oracle hpos hlt
    rcases answerOf_eq_error (hanswer.symm.trans he) with ⟨-, hc⟩ | ⟨hc, -⟩
    · exact .inr hc
    · exact .inl hc
  mono := by
    intro g g' out out' hle hg hg'
    obtain ⟨hpos, -⟩ := binOracle_ok hg
    obtain ⟨-, hlt⟩ := binOracle_ok hg'
    obtain ⟨input, hinput, hanswer⟩ := h.oracle hpos (by omega)
    obtain ⟨input', hinput', hanswer'⟩ := h.oracle (by omega) hlt
    obtain ⟨final, hrun, rfl⟩ := answerOf_eq_ok (hanswer.symm.trans hg)
    obtain ⟨final', hrun', rfl⟩ := answerOf_eq_ok (hanswer'.symm.trans hg')
    obtain ⟨_, hfinal, hlags⟩ := h.oracle_mono hpos hle hinput hinput' hrun'
    obtain rfl := Except.ok.inj (hrun.symm.trans hfinal)
    exact hlags.output
  low := by
    rintro g g' hpos hle hlt ⟨e, he, hc⟩
    obtain ⟨input, hinput, hanswer⟩ := h.oracle hpos (by omega)
    obtain ⟨input', hinput', hanswer'⟩ := h.oracle (by omega) hlt
    rcases answerOf_eq_error (hanswer'.symm.trans he) with ⟨-, hc'⟩ | ⟨-, final', hrun', hzero⟩
    · cases hc.symm.trans hc'
    obtain ⟨final, hfinal, hlags⟩ := h.oracle_mono hpos hle hinput hinput' hrun'
    have hnone : final.output.val = 0 := Nat.le_zero.1 (hzero ▸ hlags.output)
    refine ⟨.zeroOutputAmount, ?_, rfl⟩
    rw [hanswer, hfinal]
    exact if_pos hnone
  high := by
    rintro g g' hpos hle hlt ⟨e, he, hc⟩
    obtain ⟨input, hinput, hanswer⟩ := h.oracle hpos (by omega)
    obtain ⟨input', hinput', hanswer'⟩ := h.oracle (by omega) hlt
    rcases answerOf_eq_error (hanswer.symm.trans he) with ⟨hrun, -⟩ | ⟨hc', -⟩
    · cases hrun' : binLoop token0In (pool.start active input') with
      | ok final' =>
        obtain ⟨final, hfinal, -⟩ := h.oracle_mono hpos hle hinput hinput' hrun'
        cases hrun.symm.trans hfinal
      | error e' =>
        have he' : binOracle pool tokenIn g' = .error e' := by
          rw [hanswer', hrun']
          rfl
        refine ⟨e', he', ?_⟩
        rcases binLoop_error hrun' with rfl | rfl <;> rfl
    · cases hc.symm.trans hc'

end

/-! ### The inverse -/

section

variable {pool : BinPoolState} {request : BinExactOutputRequest} {token0In : Bool}
  {active : Fin pool.bins.length}

lemma BinAdmits.exactOutput_eq (h : BinAdmits pool request.tokenIn token0In active)
    (hout : Expects pool token0In request.tokenOut) (ho : request.amountOut.val ≠ 0) :
    simulateBinExactOutput pool request = (do
      match ← findMinGrossInput request.amountOut.val (binOracle pool request.tokenIn) binProbeClass with
      | .found minimalIn =>
        realizeBinOutput pool request (if token0In then pool.token1 else pool.token0) minimalIn
      | .unreachable => .error .outputUnreachable
      | .invariant => .error .invariantViolated) := by
  unfold simulateBinExactOutput
  rw [h.valid]
  refine (ensure_pos ho).trans ?_
  rw [ensure_pos h.chain, okOr_some h.direction]
  dsimp only
  rw [h.checkTokenOut hout]
  exact ensure_pos h.fee

/-- The exact-input simulation yields the requested output for the input. -/
def BinYields (pool : BinPoolState) (request : BinExactOutputRequest) (a : U128) : Prop :=
  ∃ quote, simulateBinExactInput pool ⟨request.tokenIn, a, request.tokenOut⟩ = .ok quote ∧
    request.amountOut ≤ quote.output.amount

lemma pos_of_simulate {a : U128} {tokenIn : AssetId} {tokenOut : Option AssetId} {q : BinSimulationQuote}
    (h : simulateBinExactInput pool ⟨tokenIn, a, tokenOut⟩ = .ok q) : 0 < a.val := by
  obtain ⟨_, -, h⟩ := bind_ok.1 h
  exact Nat.pos_of_ne_zero (ensure_ok.1 h).1

lemma BinAdmits.yields_iff (h : BinAdmits pool request.tokenIn token0In active)
    (hout : Expects pool token0In request.tokenOut) {a : U128} :
    BinYields pool request a ↔ Covers request.amountOut.val (binOracle pool request.tokenIn) a.val := by
  unfold BinYields Covers binOracle
  simp only [except_map_eq_ok, Unsigned.lit_self]
  constructor
  · rintro ⟨quote, hquote, hle⟩
    rw [h.simulate_none hout (pos_of_simulate hquote)] at hquote
    exact ⟨_, ⟨quote, hquote, rfl⟩, hle⟩
  · rintro ⟨_, ⟨quote, hquote, rfl⟩, hle⟩
    rw [← h.simulate_none hout (pos_of_simulate hquote)] at hquote
    exact ⟨quote, hquote, hle⟩

lemma BinAdmits.realize (h : BinAdmits pool request.tokenIn token0In active) {out : AssetId} {g : ℕ}
    (hpos : 0 < g) (hlt : g < 2 ^ 128)
    (hcov : Covers request.amountOut.val (binOracle pool request.tokenIn) g) :
    ∃ q, realizeBinOutput pool request out g = .ok q ∧ q.input.amount = .lit g := by
  obtain ⟨_, hg, hle⟩ := hcov
  obtain ⟨quote, hquote, rfl⟩ := except_map_eq_ok.1 hg
  have hval : (Unsigned.lit g : U128).val = g := Unsigned.lit_val hlt
  obtain ⟨input, hwalks⟩ : ∃ input, BinWalks pool request.tokenIn none token0In active (.lit g) input :=
    h.walks expects_none (by omega)
  obtain ⟨final, -, hinput, -⟩ := hwalks.of_quote hquote
  have hle' : request.amountOut ≤ quote.output.amount := hle
  simp only [realizeBinOutput, hquote, ensure, if_pos hle', bind, Except.bind, pure, Except.pure]
  exact ⟨_, rfl, hinput⟩

lemma BinAdmits.exactOutput (h : BinAdmits pool request.tokenIn token0In active)
    (hout : Expects pool token0In request.tokenOut) (ho : request.amountOut.val ≠ 0) :
    (∃ q, simulateBinExactOutput pool request = .ok q ∧ BinYields pool request q.input.amount ∧
      ∀ a, BinYields pool request a → q.input.amount ≤ a) ∨
    simulateBinExactOutput pool request = .error .outputUnreachable ∧ ∀ a, ¬ BinYields pool request a := by
  have hpositive : ∀ {a : U128}, BinYields pool request a → 0 < a.val := fun ⟨_, hq, _⟩ => pos_of_simulate hq
  rw [h.exactOutput_eq hout ho]
  rcases h.staged.find request.amountOut.val with ⟨g, hfind, hpos, hlt, hcov, hleast⟩ | ⟨hfind, hnone⟩
  · obtain ⟨q, hq, hinput⟩ := h.realize hpos hlt hcov
    have hval : q.input.amount.val = g := by rw [hinput, Unsigned.lit_val hlt]
    rw [hfind]
    refine .inl ⟨q, hq, ?_, fun a ha => ?_⟩
    · rw [h.yields_iff hout, hval]
      exact hcov
    · rw [Unsigned.le_def, hval]
      exact hleast a.val (hpositive ha) a.lt ((h.yields_iff hout).1 ha)
  · rw [hfind]
    refine .inr ⟨rfl, fun a ha => ?_⟩
    exact hnone a.val (hpositive ha) a.lt ((h.yields_iff hout).1 ha)

end

lemma exists_admits {pool : BinPoolState} {tokenIn : AssetId} (hvalid : pool.validate = .ok ())
    (hactive : ∃ bin ∈ pool.bins, bin.id = pool.activeBinId) (hfee : pool.feeBps.get < 10000)
    (hin : tokenIn = pool.token0 ∨ tokenIn = pool.token1) :
    ∃ token0In active, BinAdmits pool tokenIn token0In active ∧
      tokenIn = if token0In then pool.token0 else pool.token1 := by
  obtain ⟨_, hpair, -⟩ := bind_ok.1 hvalid
  simp only [validatePair, ensure_ok] at hpair
  have hne : pool.token0 ≠ pool.token1 := hpair.2.2.1
  have hsome : (pool.bins.findFinIdx? fun bin => bin.id = pool.activeBinId).isSome := by
    simpa using hactive
  obtain ⟨active, hactive⟩ := Option.isSome_iff_exists.1 hsome
  rcases hin with rfl | rfl
  · exact ⟨true, active, ⟨hvalid, rfl, if_pos rfl, hfee, hactive⟩, rfl⟩
  · refine ⟨false, active, ⟨hvalid, hpair.2.2.2.1.symm, ?_, hfee, hactive⟩, rfl⟩
    rw [isToken0In, if_neg hne.symm, if_pos rfl]

/-- **Exact-output quotes of bins invert exact-input quotes.** -/
theorem bin_exact_output_inverts (pool : BinPoolState) (request : BinExactOutputRequest)
    (hvalid : pool.validate = .ok ()) (hactive : ∃ bin ∈ pool.bins, bin.id = pool.activeBinId)
    (hfee : pool.feeBps.get < 10000)
    (hdirection : request.tokenIn = pool.token0 ∧ (∀ out ∈ request.tokenOut, out = pool.token1) ∨
      request.tokenIn = pool.token1 ∧ ∀ out ∈ request.tokenOut, out = pool.token0)
    (ho : request.amountOut.val ≠ 0) :
    (∃ q, simulateBinExactOutput pool request = .ok q ∧ BinYields pool request q.input.amount ∧
      ∀ a, BinYields pool request a → q.input.amount ≤ a) ∨
    simulateBinExactOutput pool request = .error .outputUnreachable ∧ ∀ a, ¬ BinYields pool request a := by
  have hin : request.tokenIn = pool.token0 ∨ request.tokenIn = pool.token1 :=
    hdirection.imp And.left And.left
  obtain ⟨token0In, active, hadmits, htoken⟩ := exists_admits hvalid hactive hfee hin
  refine hadmits.exactOutput ?_ ho
  intro callerOut hcaller
  have hne := hadmits.tokens.1
  cases token0In with
  | false =>
    rcases hdirection with ⟨h0, -⟩ | ⟨-, hout⟩
    · exact absurd (h0.symm.trans htoken) hne
    · exact hout callerOut hcaller
  | true =>
    rcases hdirection with ⟨-, hout⟩ | ⟨h1, -⟩
    · exact hout callerOut hcaller
    · exact absurd (htoken.symm.trans h1) hne

namespace BinPoolState.Sample

/-- A pool of three bins around par, with a step of one percent and a fee of 30 basis points. -/
def pool : BinPoolState where
  token0 := ⟨.base, "TOKEN"⟩
  token1 := ⟨.base, "USDC"⟩
  decimals0 := .lit 6
  decimals1 := .lit 6
  activeBinId := 0
  binStep := 100
  feeBps := .lit 30
  bins := [⟨-1, .lit 0, .lit 500⟩, ⟨0, .lit 300, .lit 400⟩, ⟨1, .lit 600, .lit 0⟩]

def request : BinExactOutputRequest := ⟨⟨.base, "TOKEN"⟩, .lit 450, none⟩

end BinPoolState.Sample

open BinPoolState.Sample in
theorem sample_bins_invert : ∃ q, simulateBinExactOutput pool request = .ok q ∧
    BinYields pool request q.input.amount ∧ ∀ a, BinYields pool request a → q.input.amount ≤ a := by
  have hruns : (simulateBinExactInput pool ⟨request.tokenIn, .lit 500, none⟩).toOption.any
      fun q => decide (request.amountOut ≤ q.output.amount) := by decide +kernel
  obtain ⟨quote, hquote, hle⟩ := Option.any_eq_true _ _ |>.1 hruns
  have hyields : BinYields pool request (.lit 500) :=
    ⟨quote, toOption_eq_some hquote, of_decide_eq_true hle⟩
  have hdirection : request.tokenIn = pool.token0 ∧ ∀ out ∈ request.tokenOut, out = pool.token1 :=
    ⟨rfl, fun out hout => by cases hout⟩
  exact (bin_exact_output_inverts pool request (by decide +kernel) (by decide +kernel) (by decide +kernel)
    (.inl hdirection) (by decide +kernel)).resolve_right fun h => h.2 _ hyields

end PrivateExecution
