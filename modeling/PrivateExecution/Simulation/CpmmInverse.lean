import PrivateExecution.Simulation.Cpmm

/-!
# Constant product quotes for an exact output

`simulate_cpmm_exact_output` (`simulation/src/cpmm.rs`) computes the least input for a requested output
in closed form: the least effective input through the constant product, then the least gross input
through the floored fee. It realises the quote with the exact-input simulation and probes the input one
below.
-/

namespace PrivateExecution

structure CpmmExactOutputRequest where
  tokenIn : AssetId
  amountOut : AtomicAmount
  /-- The output asset the caller expects, if it says so. -/
  tokenOut : Option AssetId

structure CpmmExactOutputQuote where
  input : AssetAmount
  requestedOutput : AssetAmount
  output : AssetAmount
  poolFee : AssetAmount
  effectiveInput : AssetAmount
  feeBps : Bps
  resultingReserve0 : AtomicAmount
  resultingReserve1 : AtomicAmount
  resultingReserveIn : AtomicAmount
  resultingReserveOut : AtomicAmount

/-- The least effective input for an output (step 9). -/
def effectiveMin (reserveIn reserveOut amountOut : U128) : Except SimulationError U128 := do
  ensure (¬reserveOut ≤ amountOut) .impossibleOutput
  let denominator ← okOr (reserveOut.checkedSub amountOut) .arithmeticOverflow
  let effective ← okOr (mulDivCeil reserveIn amountOut denominator) .arithmeticOverflow
  ensure (effective.val ≠ 0) .invariantViolated
  return effective

/-- The least gross input with an effective input (step 10). The threshold is a 256-bit number that is
incremented word by word. -/
def grossMin (effective : U128) (feeBps : Bps) : Except SimulationError U128 := do
  let scaled := mulU128Wide 10000 (effective.val - 1)
  let carry := 2 ^ 128 ≤ scaled.2 + 1
  let hi : U128 ← okOr (Unsigned.ofNat? (if carry then scaled.1 + 1 else scaled.1)) .arithmeticOverflow
  let lo := (scaled.2 + 1) % 2 ^ 128
  let amountIn ← okOr ((divU256ByU128Ceil hi.val lo (10000 - feeBps.get)).bind Unsigned.ofNat?)
    .arithmeticOverflow
  ensure (amountIn.val ≠ 0) .invariantViolated
  return amountIn

/-- One unit less must not cover the request (step 13). -/
def proveMinimal (pool : CpmmPoolState) (tokenIn tokenOut : AssetId) (amountIn requested : U128) :
    Except SimulationError Unit :=
  if amountIn.val ≤ 1 then .ok ()
  else
    match simulateCpmmExactInput pool ⟨tokenIn, .lit (amountIn.val - 1), some tokenOut⟩ with
    | .ok previous => ensure (¬requested ≤ previous.output.amount) .invariantViolated
    | .error .zeroOutputAmount | .error .zeroEffectiveInput => .ok ()
    | .error other => .error other

/-- The quote of an input, once the exact-input simulation confirms it (steps 11 to 14). -/
def realizeExactOutput (pool : CpmmPoolState) (request : CpmmExactOutputRequest) (tokenOut : AssetId)
    (amountIn : U128) : Except SimulationError CpmmExactOutputQuote := do
  let realized ← simulateCpmmExactInput pool ⟨request.tokenIn, amountIn, some tokenOut⟩
  ensure (request.amountOut ≤ realized.output.amount) .invariantViolated
  proveMinimal pool request.tokenIn tokenOut amountIn request.amountOut
  return {
    input := realized.input
    requestedOutput := ⟨tokenOut, request.amountOut⟩
    output := realized.output
    poolFee := realized.poolFee
    effectiveInput := realized.effectiveInput
    feeBps := realized.feeBps
    resultingReserve0 := realized.resultingReserve0
    resultingReserve1 := realized.resultingReserve1
    resultingReserveIn := realized.resultingReserveIn
    resultingReserveOut := realized.resultingReserveOut }

def simulateCpmmExactOutput (pool : CpmmPoolState) (request : CpmmExactOutputRequest) :
    Except SimulationError CpmmExactOutputQuote := do
  pool.validate.mapError .invalidPoolState
  ensure (request.amountOut.val ≠ 0) .zeroOutputAmount
  ensure (pool.reserve0.val ≠ 0 ∧ pool.reserve1.val ≠ 0) .zeroReserve
  ensure (request.tokenIn.chain = pool.token0.chain) .chainMismatch
  let token0In ← okOr (isToken0In pool.token0 pool.token1 request.tokenIn)
    (.assetNotFoundInPool request.tokenIn)
  let tokenOut := if token0In then pool.token1 else pool.token0
  let reserveIn := if token0In then pool.reserve0 else pool.reserve1
  let reserveOut := if token0In then pool.reserve1 else pool.reserve0
  ensure (∀ callerOut ∈ request.tokenOut, callerOut = tokenOut)
    (.outputAssetMismatch tokenOut (request.tokenOut.getD tokenOut))
  ensure (pool.feeBps.get < 10000) (.invalidFeeBps pool.feeBps.get)
  let effective ← effectiveMin reserveIn reserveOut request.amountOut
  let amountIn ← grossMin effective pool.feeBps
  realizeExactOutput pool request tokenOut amountIn

/-! ### The two adjunctions -/

def effectiveOf (fee a : ℕ) : ℕ := a - a * fee / 10000

def cpmmOutput (rin rout e : ℕ) : ℕ := e * rout / (rin + e)

section

variable {rin rout fee a b e o : ℕ}

lemma effectiveOf_pos (hfee : fee < 10000) (ha : 0 < a) : 0 < effectiveOf fee a := by
  have hlt : a * fee / 10000 < a := by
    rw [Nat.div_lt_iff_lt_mul (by norm_num)]
    exact Nat.mul_lt_mul_of_pos_left hfee ha
  exact Nat.sub_pos_of_lt hlt

lemma le_effectiveOf_iff (hfee : fee < 10000) (he : 0 < e) :
    e ≤ effectiveOf fee a ↔ (10000 * (e - 1) + 1) ⌈/⌉ (10000 - fee) ≤ a := by
  have hsplit : (10000 - fee) * a + a * fee = 10000 * a := by
    rw [Nat.mul_comm a fee, ← Nat.add_mul, Nat.sub_add_cancel hfee.le]
  rw [ceilDiv_le_iff_le_mul (by omega)]
  unfold effectiveOf
  generalize (10000 - fee) * a = rest at *
  generalize a * fee = charged at *
  omega

lemma effectiveOf_mono (hfee : fee < 10000) (ha : 0 < a) (hle : a ≤ b) :
    effectiveOf fee a ≤ effectiveOf fee b := by
  have hpos := effectiveOf_pos hfee ha
  exact (le_effectiveOf_iff hfee hpos).2 (((le_effectiveOf_iff hfee hpos).1 le_rfl).trans hle)

lemma le_cpmmOutput_iff (hrin : 0 < rin) (ho : o < rout) :
    o ≤ cpmmOutput rin rout e ↔ rin * o ⌈/⌉ (rout - o) ≤ e := by
  obtain ⟨k, rfl⟩ := Nat.exists_eq_add_of_lt ho
  have hsub : o + k + 1 - o = k + 1 := by omega
  rw [cpmmOutput, Nat.le_div_iff_mul_le (by omega), hsub, ceilDiv_le_iff_le_mul (Nat.succ_pos k)]
  constructor
  · intro h
    linarith [Nat.mul_add o rin e, Nat.mul_add e o (k + 1), Nat.mul_comm o e, Nat.mul_comm rin o,
      Nat.mul_comm e (k + 1)]
  · intro h
    linarith [Nat.mul_add o rin e, Nat.mul_add e o (k + 1), Nat.mul_comm o e, Nat.mul_comm rin o,
      Nat.mul_comm e (k + 1)]

lemma cpmmOutput_lt (hrin : 0 < rin) (hrout : 0 < rout) : cpmmOutput rin rout e < rout := by
  rw [cpmmOutput, Nat.div_lt_iff_lt_mul (by omega), Nat.mul_comm rout, Nat.add_mul]
  exact Nat.lt_add_of_pos_left (Nat.mul_pos hrin hrout)

lemma product_le (he : e ≤ a) : rin * rout ≤ (rin + a) * (rout - cpmmOutput rin rout e) := by
  have hpaid : (rin + e) * cpmmOutput rin rout e ≤ e * rout := Nat.mul_div_le ..
  calc rin * rout = (rin + e) * rout - e * rout := by rw [Nat.add_mul, Nat.add_sub_cancel]
    _ ≤ (rin + e) * rout - (rin + e) * cpmmOutput rin rout e := Nat.sub_le_sub_left hpaid _
    _ = (rin + e) * (rout - cpmmOutput rin rout e) := (Nat.mul_sub ..).symm
    _ ≤ (rin + a) * (rout - cpmmOutput rin rout e) := by gcongr

end

/-! ### When a swap succeeds -/

section

variable {rin rout a : U128} {feeBps : Bps} {m : CpmmAmounts}

def Fits (rin a : U128) (feeBps : Bps) : Prop :=
  a.val * feeBps.get < 2 ^ 128 ∧ rin.val + a.val < 2 ^ 128

lemma Fits.mono {b : U128} (h : Fits rin a feeBps) (hle : b.val ≤ a.val) : Fits rin b feeBps :=
  ⟨lt_of_le_of_lt (Nat.mul_le_mul_right _ hle) h.1, lt_of_le_of_lt (Nat.add_le_add_left hle _) h.2⟩

lemma cpmmAmounts_cases (hrin : 0 < rin.val) (hrout : 0 < rout.val) (hfee : feeBps.get < 10000)
    (ha : 0 < a.val) :
    cpmmAmounts rin rout a feeBps = .error .arithmeticOverflow ∧ ¬ Fits rin a feeBps ∨
      cpmmAmounts rin rout a feeBps = .error .zeroOutputAmount ∧
        cpmmOutput rin.val rout.val (effectiveOf feeBps.get a.val) = 0 ∨
      Fits rin a feeBps ∧ ∃ m, cpmmAmounts rin rout a feeBps = .ok m ∧ m.amountOut.val ≠ 0 ∧
        m.amountOut.val = cpmmOutput rin.val rout.val (effectiveOf feeBps.get a.val) := by
  have heff := effectiveOf_pos hfee ha
  have hle : effectiveOf feeBps.get a.val ≤ a.val := Nat.sub_le ..
  have hlt := cpmmOutput_lt (e := effectiveOf feeBps.get a.val) hrin hrout
  by_cases hmul : a.val * feeBps.get < 2 ^ 128
  · have hcharged : a.val * feeBps.get / 10000 ≤ a.val := by
      refine Nat.div_le_of_le_mul ?_
      rw [Nat.mul_comm 10000]
      exact Nat.mul_le_mul_left _ hfee.le
    obtain ⟨num, hnum⟩ := Unsigned.exists_val hmul
    obtain ⟨fee, hfeeval⟩ := Unsigned.exists_val (lt_of_le_of_lt (Nat.div_le_self num.val 10000) num.lt)
    obtain ⟨eff, heffval⟩ := Unsigned.exists_val (a.sub_lt fee)
    have heq : eff.val = effectiveOf feeBps.get a.val := by rw [heffval, hfeeval, hnum, effectiveOf]
    rw [← heq] at heff hle hlt ⊢
    unfold cpmmAmounts
    rw [okOr_some (Unsigned.ofNat?_eq_some.2 hnum), okOr_some (Unsigned.ofNat?_eq_some.2 hfeeval),
      okOr_some (Unsigned.checkedSub_eq_some.2 ⟨by rw [hfeeval, hnum]; exact hcharged, heffval⟩),
      ensure_pos heff.ne']
    by_cases hden : rin.val + eff.val < 2 ^ 128
    · obtain ⟨den, hdenval⟩ := Unsigned.exists_val hden
      obtain ⟨out, hout⟩ := Unsigned.exists_val (hlt.trans rout.lt)
      have hdiv : mulDivFloor eff rout den = some out :=
        mulDivFloor_eq_some.2 ⟨by omega, by rw [hout, cpmmOutput, hdenval]⟩
      rw [← hout] at hlt ⊢
      rw [okOr_some (Unsigned.checkedAdd_eq_some.2 hdenval), okOr_some hdiv]
      by_cases hzero : out.val = 0
      · exact .inr (.inl ⟨ensure_neg (not_not.2 hzero), hzero⟩)
      have hbelow : ¬rout ≤ out := Nat.not_le_of_lt hlt
      rw [ensure_pos hzero, ensure_pos hbelow]
      by_cases hres : rin.val + a.val < 2 ^ 128
      · obtain ⟨resIn, hresIn⟩ := Unsigned.exists_val hres
        obtain ⟨resOut, hresOut⟩ := Unsigned.exists_val (rout.sub_lt out)
        have hkept : cmpU128Products resIn.val resOut.val rin.val rout.val ≠ .lt := by
          rw [cmpU128Products_eq resIn.lt resOut.lt rin.lt rout.lt, hresIn, hresOut, hout]
          exact (compare_ge_iff_ge).2 (product_le hle)
        rw [okOr_some (Unsigned.checkedAdd_eq_some.2 hresIn),
          okOr_some (Unsigned.checkedSub_eq_some.2 ⟨hlt.le, hresOut⟩), ensure_pos hkept]
        exact .inr (.inr ⟨⟨hmul, hres⟩, _, rfl, hzero, rfl⟩)
      · refine .inl ⟨?_, fun h => hres h.2⟩
        rw [okOr_bind_of_none (dif_neg hres)]
    · refine .inl ⟨?_, fun h => hden (lt_of_le_of_lt (Nat.add_le_add_left hle _) h.2)⟩
      rw [okOr_bind_of_none (dif_neg hden)]
  · refine .inl ⟨?_, fun h => hmul h.1⟩
    rw [cpmmAmounts, okOr_bind_of_none (dif_neg hmul)]

end

/-! ### Past the checks

A computation is past its checks if it answers or reports a violated invariant; the checks themselves
fail with other errors. -/

/-- The computation succeeds or reports a violated invariant. -/
def Reached {α : Type} (x : Except SimulationError α) : Prop :=
  x = .error .invariantViolated ∨ ∃ a, x = .ok a

section

variable {α β : Type} {e : SimulationError}

lemma Reached.ensure {p : Prop} [Decidable p] {f : Unit → Except SimulationError β}
    (he : e ≠ .invariantViolated) (h : Reached (PrivateExecution.ensure p e >>= f)) : p ∧ Reached (f ()) := by
  by_cases hp : p
  · rw [ensure_pos hp] at h
    exact ⟨hp, h⟩
  · rw [ensure_neg hp] at h
    rcases h with h | ⟨a, h⟩
    · exact absurd (Except.error.inj h) he
    · cases h

lemma Reached.okOr {x : Option α} {f : α → Except SimulationError β} (he : e ≠ .invariantViolated)
    (h : Reached (PrivateExecution.okOr x e >>= f)) : ∃ a, x = some a ∧ Reached (f a) := by
  cases x with
  | some a => exact ⟨a, rfl, h⟩
  | none =>
    rcases h with h | ⟨a, h⟩
    · exact absurd (Except.error.inj h) he
    · cases h

lemma Reached.validate {pool : CpmmPoolState} {f : Unit → Except SimulationError β}
    (h : Reached (pool.validate.mapError SimulationError.invalidPoolState >>= f)) :
    pool.validate = .ok () ∧ Reached (f ()) := by
  cases hvalid : pool.validate with
  | ok u =>
    rw [hvalid] at h
    exact ⟨rfl, h⟩
  | error e =>
    rw [hvalid] at h
    rcases h with h | ⟨a, h⟩ <;> cases h

end

/-! ### Both directions of a pool -/

/-- The pool admits swaps of the token, in the direction `token0In`; the caller's expectation of the other
token is right. -/
structure CpmmAdmits (pool : CpmmPoolState) (tokenIn : AssetId) (tokenOut : Option AssetId)
    (token0In : Bool) : Prop where
  valid : pool.validate = .ok ()
  reserves : pool.reserve0.val ≠ 0 ∧ pool.reserve1.val ≠ 0
  chain : tokenIn.chain = pool.token0.chain
  direction : isToken0In pool.token0 pool.token1 tokenIn = some token0In
  expected : ∀ callerOut ∈ tokenOut, callerOut = if token0In then pool.token1 else pool.token0
  fee : pool.feeBps.get < 10000

def CpmmPoolState.reserveIn (pool : CpmmPoolState) (token0In : Bool) : U128 :=
  if token0In then pool.reserve0 else pool.reserve1

def CpmmPoolState.reserveOut (pool : CpmmPoolState) (token0In : Bool) : U128 :=
  if token0In then pool.reserve1 else pool.reserve0

def CpmmPoolState.outputOf (pool : CpmmPoolState) (token0In : Bool) (a : ℕ) : ℕ :=
  cpmmOutput (pool.reserveIn token0In).val (pool.reserveOut token0In).val
    (effectiveOf pool.feeBps.get a)

section

variable {pool : CpmmPoolState} {tokenIn : AssetId} {tokenOut tokenOut' : Option AssetId} {token0In : Bool}
  {a : U128} {q : CpmmSimulationQuote}

variable (h : CpmmAdmits pool tokenIn tokenOut token0In)

include h

lemma CpmmAdmits.reserveIn_pos : 0 < (pool.reserveIn token0In).val := by
  cases token0In
  · exact Nat.pos_of_ne_zero h.reserves.2
  · exact Nat.pos_of_ne_zero h.reserves.1

lemma CpmmAdmits.reserveOut_pos : 0 < (pool.reserveOut token0In).val := by
  cases token0In
  · exact Nat.pos_of_ne_zero h.reserves.1
  · exact Nat.pos_of_ne_zero h.reserves.2

lemma CpmmAdmits.named :
    CpmmAdmits pool tokenIn (some (if token0In then pool.token1 else pool.token0)) token0In :=
  { h with expected := by simp }

lemma CpmmAdmits.simulate (ha : 0 < a.val) : simulateCpmmExactInput pool ⟨tokenIn, a, tokenOut⟩ =
      (cpmmAmounts (pool.reserveIn token0In) (pool.reserveOut token0In) a pool.feeBps).map fun m =>
        { input := ⟨tokenIn, a⟩
          output := ⟨if token0In then pool.token1 else pool.token0, m.amountOut⟩
          poolFee := ⟨tokenIn, m.fee⟩
          effectiveInput := ⟨tokenIn, m.effectiveInput⟩
          feeBps := pool.feeBps
          resultingReserve0 := if token0In then m.resultingReserveIn else m.resultingReserveOut
          resultingReserve1 := if token0In then m.resultingReserveOut else m.resultingReserveIn
          resultingReserveIn := m.resultingReserveIn
          resultingReserveOut := m.resultingReserveOut } := by
  unfold simulateCpmmExactInput
  rw [h.valid]
  refine (ensure_pos ha.ne').trans ?_
  rw [ensure_pos h.reserves, ensure_pos h.chain, okOr_some h.direction]
  refine (ensure_pos h.expected).trans ((ensure_pos h.fee).trans ?_)
  rfl

lemma CpmmAdmits.cases (ha : 0 < a.val) :
    simulateCpmmExactInput pool ⟨tokenIn, a, tokenOut⟩ = .error .arithmeticOverflow ∧
        ¬ Fits (pool.reserveIn token0In) a pool.feeBps ∨
      simulateCpmmExactInput pool ⟨tokenIn, a, tokenOut⟩ = .error .zeroOutputAmount ∧
        pool.outputOf token0In a.val = 0 ∨
      Fits (pool.reserveIn token0In) a pool.feeBps ∧
        ∃ q, simulateCpmmExactInput pool ⟨tokenIn, a, tokenOut⟩ = .ok q ∧
          q.input.amount = a ∧ q.output.amount.val ≠ 0 ∧
          q.output.amount.val = pool.outputOf token0In a.val := by
  rw [h.simulate ha]
  rcases cpmmAmounts_cases h.reserveIn_pos h.reserveOut_pos h.fee ha with
    ⟨heq, hfits⟩ | ⟨heq, hzero⟩ | ⟨hfits, m, heq, hne, hout⟩
  · exact .inl ⟨by rw [heq]; rfl, hfits⟩
  · exact .inr (.inl ⟨by rw [heq]; rfl, hzero⟩)
  · exact .inr (.inr ⟨hfits, _, by rw [heq]; rfl, rfl, hne, hout⟩)

omit h

lemma admits_of_simulate (h : Reached (simulateCpmmExactInput pool ⟨tokenIn, a, tokenOut⟩)) :
    0 < a.val ∧ ∃ token0In, CpmmAdmits pool tokenIn tokenOut token0In := by
  unfold simulateCpmmExactInput at h
  obtain ⟨hvalid, h⟩ := h.validate
  obtain ⟨ha, h⟩ := h.ensure (by simp)
  obtain ⟨hreserves, h⟩ := h.ensure (by simp)
  obtain ⟨hchain, h⟩ := h.ensure (by simp)
  obtain ⟨token0In, hdirection, h⟩ := h.okOr (by simp)
  obtain ⟨hexpected, h⟩ := h.ensure (by simp)
  obtain ⟨hfee, -⟩ := h.ensure (by simp)
  exact ⟨Nat.pos_of_ne_zero ha, token0In, hvalid, hreserves, hchain, hdirection, hexpected, hfee⟩

lemma simulate_ne_invariantViolated (pool : CpmmPoolState) (request : CpmmExactInputRequest) :
    simulateCpmmExactInput pool request ≠ .error .invariantViolated := by
  intro h
  obtain ⟨ha, token0In, hadmits⟩ := admits_of_simulate (.inl h)
  rcases hadmits.cases ha with ⟨heq, -⟩ | ⟨heq, -⟩ | ⟨-, q, heq, -⟩
  all_goals cases h.symm.trans heq

end

/-! ### The closed form -/

section

variable {rin rout o e : U128} {feeBps : Bps}

variable (rout) in
lemma effectiveMin_cases (hrin : 0 < rin.val) (ho : 0 < o.val) :
    effectiveMin rin rout o = .error .impossibleOutput ∧ rout.val ≤ o.val ∨
      o.val < rout.val ∧
        (effectiveMin rin rout o = .error .arithmeticOverflow ∧
            2 ^ 128 ≤ rin.val * o.val ⌈/⌉ (rout.val - o.val) ∨
          ∃ e, effectiveMin rin rout o = .ok e ∧ 0 < e.val ∧
            e.val = rin.val * o.val ⌈/⌉ (rout.val - o.val)) := by
  unfold effectiveMin
  by_cases hle : rout ≤ o
  · exact .inl ⟨ensure_neg (not_not.2 hle), hle⟩
  have hlt : o.val < rout.val := Nat.lt_of_not_le hle
  refine .inr ⟨hlt, ?_⟩
  obtain ⟨den, hden⟩ := Unsigned.exists_val (rout.sub_lt o)
  have hpos : 0 < den.val := by omega
  rw [ensure_pos hle, okOr_some (Unsigned.checkedSub_eq_some.2 ⟨hlt.le, hden⟩), ← hden]
  by_cases hfits : rin.val * o.val ⌈/⌉ den.val < 2 ^ 128
  · have hmul : mulDivCeil rin o den = some ⟨_, hfits⟩ := mulDivCeil_eq_some.2 ⟨hpos, rfl⟩
    have hne : rin.val * o.val ⌈/⌉ den.val ≠ 0 := by
      intro hzero
      have hle := (ceilDiv_le_iff_le_mul hpos).1 hzero.le
      have := Nat.mul_pos hrin ho
      omega
    rw [okOr_some hmul]
    exact .inr ⟨_, ensure_pos hne, Nat.pos_of_ne_zero hne, rfl⟩
  · have hnone : mulDivCeil rin o den = none := by
      refine Option.eq_none_iff_forall_ne_some.2 fun q hq => hfits ?_
      rw [← (mulDivCeil_eq_some.1 hq).2]
      exact q.lt
    rw [okOr_bind_of_none hnone]
    exact .inl ⟨rfl, not_lt.1 hfits⟩

lemma grossMin_cases (hfee : feeBps.get < 10000) (he : 0 < e.val) :
    grossMin e feeBps = .error .arithmeticOverflow ∧
        2 ^ 128 ≤ (10000 * (e.val - 1) + 1) ⌈/⌉ (10000 - feeBps.get) ∨
      ∃ g, grossMin e feeBps = .ok g ∧ 0 < g.val ∧
        g.val = (10000 * (e.val - 1) + 1) ⌈/⌉ (10000 - feeBps.get) := by
  have helt := e.lt
  have hpos : 0 < 10000 - feeBps.get := by omega
  unfold grossMin
  rw [mulU128Wide_eq (by norm_num) (by omega)]
  dsimp only
  generalize hm : 10000 * (e.val - 1) = m
  have hword : (if 2 ^ 128 ≤ m % 2 ^ 128 + 1 then m / 2 ^ 128 + 1 else m / 2 ^ 128) < 2 ^ 128 := by
    split_ifs <;> omega
  obtain ⟨hi, hhi⟩ : ∃ hi : U128,
      hi.val = if 2 ^ 128 ≤ m % 2 ^ 128 + 1 then m / 2 ^ 128 + 1 else m / 2 ^ 128 := ⟨⟨_, hword⟩, rfl⟩
  -- the two words carry the incremented number
  have hwide : hi.val * 2 ^ 128 + (m % 2 ^ 128 + 1) % 2 ^ 128 = m + 1 := by
    rw [hhi]
    split_ifs <;> omega
  have hdiv : ∀ q, divU256ByU128Ceil hi.val ((m % 2 ^ 128 + 1) % 2 ^ 128) (10000 - feeBps.get) = some q ↔
      q = (m + 1) ⌈/⌉ (10000 - feeBps.get) ∧ q < 2 ^ 128 := by
    intro q
    rw [divU256ByU128Ceil_eq_some (Nat.mod_lt _ (by norm_num)) (by omega), hwide]
    simp [hpos]
  rw [okOr_some (Unsigned.ofNat?_eq_some.2 hhi)]
  by_cases hfits : (m + 1) ⌈/⌉ (10000 - feeBps.get) < 2 ^ 128
  · have hne : (m + 1) ⌈/⌉ (10000 - feeBps.get) ≠ 0 := by
      intro hzero
      have hle := (ceilDiv_le_iff_le_mul hpos).1 hzero.le
      omega
    have hsome : (divU256ByU128Ceil hi.val ((m % 2 ^ 128 + 1) % 2 ^ 128) (10000 - feeBps.get)).bind
        Unsigned.ofNat? = some (⟨_, hfits⟩ : U128) := by
      rw [(hdiv _).2 ⟨rfl, hfits⟩]
      exact dif_pos hfits
    rw [okOr_some hsome]
    exact .inr ⟨_, ensure_pos hne, Nat.pos_of_ne_zero hne, rfl⟩
  · have hnone : divU256ByU128Ceil hi.val ((m % 2 ^ 128 + 1) % 2 ^ 128) (10000 - feeBps.get) = none := by
      refine Option.eq_none_iff_forall_ne_some.2 fun q hq => hfits ?_
      rw [← ((hdiv q).1 hq).1]
      exact ((hdiv q).1 hq).2
    rw [hnone]
    exact .inl ⟨rfl, not_lt.1 hfits⟩

end

/-! ### The inverse -/

section

variable {pool : CpmmPoolState} {tokenIn : AssetId} {tokenOut : Option AssetId} {token0In : Bool}
  {o g : U128} {q : CpmmExactOutputQuote}

/-- An input covers the request: its arithmetic fits and its output is enough. -/
def CpmmPoolState.Covers (pool : CpmmPoolState) (token0In : Bool) (o a : U128) : Prop :=
  Fits (pool.reserveIn token0In) a pool.feeBps ∧ o.val ≤ pool.outputOf token0In a.val

lemma CpmmAdmits.least (h : CpmmAdmits pool tokenIn tokenOut token0In) (ho : 0 < o.val) : (∃ e, (do
        let effective ← effectiveMin (pool.reserveIn token0In) (pool.reserveOut token0In) o
        grossMin effective pool.feeBps) = .error e ∧ e ≠ .invariantViolated ∧
      ∀ a : U128, ¬ o.val ≤ pool.outputOf token0In a.val) ∨
    ∃ g, (do
        let effective ← effectiveMin (pool.reserveIn token0In) (pool.reserveOut token0In) o
        grossMin effective pool.feeBps) = .ok g ∧ 0 < g.val ∧
      ∀ a : ℕ, o.val ≤ pool.outputOf token0In a ↔ g.val ≤ a := by
  rcases effectiveMin_cases (pool.reserveOut token0In) h.reserveIn_pos ho with
    ⟨heq, hle⟩ | ⟨hlt, ⟨heq, hbig⟩ | ⟨e, heq, hpos, hval⟩⟩
  · refine .inl ⟨_, by rw [heq]; rfl, by simp, fun a ha => ?_⟩
    rw [CpmmPoolState.outputOf] at ha
    exact absurd (ha.trans_lt (cpmmOutput_lt h.reserveIn_pos h.reserveOut_pos)) (Nat.not_lt.2 hle)
  · refine .inl ⟨_, by rw [heq]; rfl, by simp, fun a ha => ?_⟩
    rw [CpmmPoolState.outputOf, le_cpmmOutput_iff h.reserveIn_pos hlt] at ha
    have hle : effectiveOf pool.feeBps.get a.val ≤ a.val := Nat.sub_le ..
    exact Nat.not_le_of_lt a.lt (hbig.trans (ha.trans hle))
  · have hcovers : ∀ a : ℕ, o.val ≤ pool.outputOf token0In a ↔
        (10000 * (e.val - 1) + 1) ⌈/⌉ (10000 - pool.feeBps.get) ≤ a := by
      intro a
      rw [CpmmPoolState.outputOf, le_cpmmOutput_iff h.reserveIn_pos hlt, ← hval,
        le_effectiveOf_iff h.fee hpos]
    have hbind : ∀ f : U128 → Except SimulationError U128,
        (effectiveMin (pool.reserveIn token0In) (pool.reserveOut token0In) o >>= f) = f e :=
      fun f => by rw [heq]; rfl
    rw [hbind]
    rcases grossMin_cases h.fee hpos with ⟨hgross, hbig⟩ | ⟨g, hgross, hgpos, hgval⟩
    · refine .inl ⟨_, hgross, by simp, fun a ha => ?_⟩
      exact Nat.not_le_of_lt a.lt (hbig.trans ((hcovers a.val).1 ha))
    · exact .inr ⟨g, hgross, hgpos, fun a => by rw [hcovers, hgval]⟩

lemma CpmmAdmits.proveMinimal (h : CpmmAdmits pool tokenIn tokenOut token0In)
    (hfits : Fits (pool.reserveIn token0In) g pool.feeBps)
    (hleast : ∀ a : ℕ, o.val ≤ pool.outputOf token0In a ↔ g.val ≤ a) :
    proveMinimal pool tokenIn (if token0In then pool.token1 else pool.token0) g o = .ok () := by
  unfold PrivateExecution.proveMinimal
  by_cases hone : g.val ≤ 1
  · exact if_pos hone
  rw [if_neg hone]
  have hval : (Unsigned.lit (g.val - 1) : U128).val = g.val - 1 := Unsigned.lit_val (by have := g.lt; omega)
  rcases h.named.cases (a := .lit (g.val - 1)) (by omega) with
    ⟨-, hover⟩ | ⟨heq, -⟩ | ⟨-, previous, heq, -, -, hout⟩
  · exact absurd (hfits.mono (by omega)) hover
  · rw [heq]
  · rw [heq]
    refine ensure_eq_ok.2 fun hle => ?_
    rw [Unsigned.le_def, hout, hval, hleast] at hle
    omega

variable {request : CpmmExactOutputRequest}

lemma CpmmAdmits.exactOutput_eq (h : CpmmAdmits pool request.tokenIn request.tokenOut token0In)
    (ho : 0 < request.amountOut.val) :
    simulateCpmmExactOutput pool request =
      (do
        let effective ← effectiveMin (pool.reserveIn token0In) (pool.reserveOut token0In) request.amountOut
        grossMin effective pool.feeBps) >>=
      realizeExactOutput pool request (if token0In then pool.token1 else pool.token0) := by
  unfold simulateCpmmExactOutput
  rw [h.valid]
  refine (ensure_pos ho.ne').trans ?_
  rw [ensure_pos h.reserves, ensure_pos h.chain, okOr_some h.direction]
  refine (ensure_pos h.expected).trans ((ensure_pos h.fee).trans ?_)
  rw [bind_assoc]
  rfl

lemma realizeExactOutput_of_minimal {out : AssetId} {realized : CpmmSimulationQuote}
    (hrun : simulateCpmmExactInput pool ⟨request.tokenIn, g, some out⟩ = .ok realized)
    (hle : request.amountOut ≤ realized.output.amount)
    (hmin : proveMinimal pool request.tokenIn out g request.amountOut = .ok ()) :
    ∃ q, realizeExactOutput pool request out g = .ok q ∧ q.input = realized.input ∧
      q.output = realized.output := by
  simp only [realizeExactOutput, hrun, hmin, ensure, if_pos hle, bind, Except.bind, pure, Except.pure]
  exact ⟨_, rfl, rfl, rfl⟩

lemma CpmmAdmits.exactOutput (h : CpmmAdmits pool request.tokenIn request.tokenOut token0In)
    (ho : 0 < request.amountOut.val) :
    (∃ e, simulateCpmmExactOutput pool request = .error e ∧ e ≠ .invariantViolated ∧
      ∀ a : U128, ¬ pool.Covers token0In request.amountOut a) ∨
    ∃ q realized, simulateCpmmExactOutput pool request = .ok q ∧
      simulateCpmmExactInput pool ⟨request.tokenIn, q.input.amount, request.tokenOut⟩ = .ok realized ∧
      q.output = realized.output ∧ request.amountOut ≤ realized.output.amount ∧
      ∀ a : U128, pool.Covers token0In request.amountOut a → q.input.amount ≤ a := by
  rw [h.exactOutput_eq ho]
  rcases h.least ho with ⟨e, heq, hne, hnone⟩ | ⟨g, heq, hpos, hleast⟩
  · exact .inl ⟨e, by rw [heq]; rfl, hne, fun a ha => hnone a ha.2⟩
  have hcovered : request.amountOut.val ≤ pool.outputOf token0In g.val := (hleast g.val).2 le_rfl
  have hrealize : ∀ f : U128 → Except SimulationError CpmmExactOutputQuote,
      ((do
        let effective ← effectiveMin (pool.reserveIn token0In) (pool.reserveOut token0In) request.amountOut
        grossMin effective pool.feeBps) >>= f) = f g := fun f => by rw [heq]; rfl
  rw [hrealize]
  rcases h.named.cases hpos with ⟨hrun, hover⟩ | ⟨-, hzero⟩ | ⟨hfits, realized, hrun, hin, -, hout⟩
  · refine .inl ⟨.arithmeticOverflow, ?_, by simp, fun a ha => hover ?_⟩
    · rw [realizeExactOutput, hrun]
      rfl
    · exact ha.1.mono ((hleast a.val).1 ha.2)
  · omega
  · have hle : request.amountOut ≤ realized.output.amount := by rw [Unsigned.le_def, hout]; exact hcovered
    obtain ⟨q, hq, hqin, hqout⟩ := realizeExactOutput_of_minimal hrun hle (h.proveMinimal hfits hleast)
    refine .inr ⟨q, realized, hq, ?_, hqout, hle, ?_⟩
    · rw [hqin, hin, h.simulate hpos, ← h.named.simulate hpos, hrun]
    · intro a ha
      rw [hqin, hin]
      exact (hleast a.val).1 ha.2

lemma admits_of_exactOutput (h : Reached (simulateCpmmExactOutput pool request)) :
    0 < request.amountOut.val ∧ ∃ token0In, CpmmAdmits pool request.tokenIn request.tokenOut token0In := by
  unfold simulateCpmmExactOutput at h
  obtain ⟨hvalid, h⟩ := h.validate
  obtain ⟨ho, h⟩ := h.ensure (by simp)
  obtain ⟨hreserves, h⟩ := h.ensure (by simp)
  obtain ⟨hchain, h⟩ := h.ensure (by simp)
  obtain ⟨token0In, hdirection, h⟩ := h.okOr (by simp)
  obtain ⟨hexpected, h⟩ := h.ensure (by simp)
  obtain ⟨hfee, -⟩ := h.ensure (by simp)
  exact ⟨Nat.pos_of_ne_zero ho, token0In, hvalid, hreserves, hchain, hdirection, hexpected, hfee⟩

lemma exactOutput_ne_invariantViolated (pool : CpmmPoolState) (request : CpmmExactOutputRequest) :
    simulateCpmmExactOutput pool request ≠ .error .invariantViolated := by
  intro h
  obtain ⟨ho, token0In, hadmits⟩ := admits_of_exactOutput (.inl h)
  rcases hadmits.exactOutput ho with ⟨e, heq, hne, -⟩ | ⟨q, realized, heq, -⟩
  · exact hne (Except.error.inj (heq.symm.trans h))
  · cases heq.symm.trans h

lemma CpmmAdmits.covers_iff (h : CpmmAdmits pool tokenIn tokenOut token0In) (ho : 0 < o.val) {a : U128} :
    (∃ q, simulateCpmmExactInput pool ⟨tokenIn, a, tokenOut⟩ = .ok q ∧ o ≤ q.output.amount) ↔
      pool.Covers token0In o a := by
  constructor
  · rintro ⟨q, hq, hle⟩
    obtain ⟨ha, -⟩ := admits_of_simulate (.inr ⟨q, hq⟩)
    rcases h.cases ha with ⟨heq, -⟩ | ⟨heq, -⟩ | ⟨hfits, q', heq, -, -, hout⟩
    · cases hq.symm.trans heq
    · cases hq.symm.trans heq
    · obtain rfl := Except.ok.inj (hq.symm.trans heq)
      exact ⟨hfits, by rw [← hout]; exact hle⟩
  · rintro ⟨hfits, hle⟩
    have ha : 0 < a.val := by
      refine Nat.pos_of_ne_zero fun hzero => ?_
      simp only [hzero, CpmmPoolState.outputOf, effectiveOf, cpmmOutput, Nat.zero_mul, Nat.zero_div,
        Nat.sub_zero] at hle
      omega
    rcases h.cases ha with ⟨-, hover⟩ | ⟨-, hzero⟩ | ⟨-, q, heq, -, -, hout⟩
    · exact absurd hfits hover
    · omega
    · exact ⟨q, heq, by rw [Unsigned.le_def, hout]; exact hle⟩

/-- **Exact-output quotes invert exact-input quotes.** -/
theorem exact_output_inverts (pool : CpmmPoolState) (request : CpmmExactOutputRequest)
    (ho : request.amountOut.val ≠ 0) :
    ((∃ q, simulateCpmmExactOutput pool request = .ok q) ↔
      ∃ (a : U128) (quote : CpmmSimulationQuote),
        simulateCpmmExactInput pool ⟨request.tokenIn, a, request.tokenOut⟩ = .ok quote ∧
        request.amountOut ≤ quote.output.amount) ∧
    (∀ q, simulateCpmmExactOutput pool request = .ok q →
      (∃ quote, simulateCpmmExactInput pool ⟨request.tokenIn, q.input.amount, request.tokenOut⟩ = .ok quote ∧
        request.amountOut ≤ quote.output.amount ∧ q.output = quote.output) ∧
      ∀ (a : U128) (quote : CpmmSimulationQuote),
        simulateCpmmExactInput pool ⟨request.tokenIn, a, request.tokenOut⟩ = .ok quote →
        request.amountOut ≤ quote.output.amount → q.input.amount ≤ a) ∧
    simulateCpmmExactOutput pool request ≠ .error .invariantViolated ∧
    ∀ a : U128, simulateCpmmExactInput pool ⟨request.tokenIn, a, request.tokenOut⟩ ≠
      .error .invariantViolated := by
  have ho := Nat.pos_of_ne_zero ho
  refine ⟨⟨?_, ?_⟩, ?_, exactOutput_ne_invariantViolated pool request,
    fun a => simulate_ne_invariantViolated pool _⟩
  · rintro ⟨q, hq⟩
    obtain ⟨-, token0In, h⟩ := admits_of_exactOutput (.inr ⟨q, hq⟩)
    rcases h.exactOutput ho with ⟨e, heq, -⟩ | ⟨q, realized, -, hrun, -, hle, -⟩
    · cases hq.symm.trans heq
    · exact ⟨_, realized, hrun, hle⟩
  · rintro ⟨a, quote, hquote, hle⟩
    obtain ⟨-, token0In, h⟩ := admits_of_simulate (.inr ⟨quote, hquote⟩)
    rcases h.exactOutput ho with ⟨e, -, -, hnone⟩ | ⟨q, realized, hq, -⟩
    · exact absurd ((h.covers_iff ho).1 ⟨quote, hquote, hle⟩) (hnone a)
    · exact ⟨q, hq⟩
  · intro q hq
    obtain ⟨-, token0In, h⟩ := admits_of_exactOutput (.inr ⟨q, hq⟩)
    rcases h.exactOutput ho with ⟨e, heq, -⟩ | ⟨q', realized, hq', hrun, hout, hle, hleast⟩
    · cases hq.symm.trans heq
    · obtain rfl := Except.ok.inj (hq.symm.trans hq')
      refine ⟨⟨realized, hrun, hle, hout⟩, fun a quote hquote hcovers => ?_⟩
      exact hleast a ((h.covers_iff ho).1 ⟨quote, hquote, hcovers⟩)

end

open CpmmPoolState.Sample in
/-- Five thousand tokens of the sample pool have a least price. -/
theorem sample_output_inverts : ∃ q, simulateCpmmExactOutput pool ⟨⟨.base, "USDC"⟩, .lit 5000, none⟩ = .ok q ∧
    ∀ (a : U128) (quote : CpmmSimulationQuote),
      simulateCpmmExactInput pool ⟨⟨.base, "USDC"⟩, a, none⟩ = .ok quote →
      (.lit 5000 : U128) ≤ quote.output.amount → q.input.amount ≤ a := by
  have hruns : (simulateCpmmExactOutput pool ⟨⟨.base, "USDC"⟩, .lit 5000, none⟩).toBool := by decide +kernel
  obtain ⟨q, hq⟩ := exists_ok_of_toBool hruns
  have hinverts := exact_output_inverts pool ⟨⟨.base, "USDC"⟩, .lit 5000, none⟩ (by decide +kernel)
  exact ⟨q, hq, (hinverts.2.1 q hq).2⟩

/-! ### Runs of swaps -/

/-- The pool that a sequence of swaps leaves behind. -/
def cpmmSwaps : CpmmPoolState → List CpmmExactInputRequest → Except SimulationError CpmmPoolState
  | pool, [] => .ok pool
  | pool, request :: requests => do
    let quote ← simulateCpmmExactInput pool request
    cpmmSwaps (pool.after quote) requests

lemma simulateCpmm_product {pool : CpmmPoolState} {request : CpmmExactInputRequest} {q : CpmmSimulationQuote}
    (h : simulateCpmmExactInput pool request = .ok q) :
    pool.reserve0.val * pool.reserve1.val ≤ q.resultingReserve0.val * q.resultingReserve1.val := by
  obtain ⟨-, token0In, a, -, ha, -, -, hres0, hres1, -, -⟩ := simulateCpmm_inv h
  obtain ⟨heff, hamount, -, hin, hout⟩ := cpmmAmounts_spec ha
  have hproduct (rin rout : ℕ) : rin * rout ≤ (rin + request.amountIn.val) *
    (rout - cpmmOutput rin rout a.effectiveInput.val) := product_le heff
  rw [hres0, hres1]
  cases token0In with
  | true =>
    change _ ≤ a.resultingReserveIn.val * a.resultingReserveOut.val
    rw [hin, hout, hamount]
    exact hproduct _ _
  | false =>
    change _ ≤ a.resultingReserveOut.val * a.resultingReserveIn.val
    rw [Nat.mul_comm, Nat.mul_comm a.resultingReserveOut.val, hin, hout, hamount]
    exact hproduct _ _

lemma cpmmSwaps_product : ∀ {requests pool final}, cpmmSwaps pool requests = .ok final →
    pool.reserve0.val * pool.reserve1.val ≤ final.reserve0.val * final.reserve1.val
  | [], pool, final, h => by
    cases h
    exact le_rfl
  | request :: requests, pool, final, h => by
    obtain ⟨quote, hquote, h⟩ := bind_ok.1 h
    exact (simulateCpmm_product hquote).trans (cpmmSwaps_product h)

lemma cpmmSwaps_ne_invariantViolated : ∀ {requests pool},
    cpmmSwaps pool requests ≠ .error .invariantViolated
  | [], pool, h => by cases h
  | request :: requests, pool, h => by
    rw [cpmmSwaps] at h
    cases hquote : simulateCpmmExactInput pool request with
    | error e =>
      rw [hquote] at h
      cases h
      exact simulate_ne_invariantViolated pool request hquote
    | ok quote =>
      rw [hquote] at h
      exact cpmmSwaps_ne_invariantViolated h

/-- **No sequence of swaps drains a pool.** The product of the reserves never falls, so they never both
fall, and the check of the product never fails. -/
theorem cpmm_swaps_keep_product (pool : CpmmPoolState) (requests : List CpmmExactInputRequest) :
    cpmmSwaps pool requests ≠ .error .invariantViolated ∧ ∀ final, cpmmSwaps pool requests = .ok final →
      pool.reserve0.val * pool.reserve1.val ≤ final.reserve0.val * final.reserve1.val ∧
      (final.reserve0 < pool.reserve0 → pool.reserve1 ≤ final.reserve1) ∧
      (final.reserve1 < pool.reserve1 → pool.reserve0 ≤ final.reserve0) := by
  refine ⟨cpmmSwaps_ne_invariantViolated, fun final h => ?_⟩
  have hproduct := cpmmSwaps_product h
  refine ⟨hproduct, fun hlt => ?_, fun hlt => ?_⟩
  · by_contra hle
    exact absurd hproduct (not_le.2 (Nat.mul_lt_mul'' hlt (not_le.1 hle)))
  · by_contra hle
    exact absurd hproduct (not_le.2 (Nat.mul_lt_mul'' (not_le.1 hle) hlt))

end PrivateExecution
