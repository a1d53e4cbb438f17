import PrivateExecution.Simulation.Clmm
import Mathlib.Data.Nat.Cast.Order.Field
import Mathlib.Tactic.FieldSimp
import Mathlib.Tactic.Positivity

/-!
# The walk through the ranges, exactly

What a step of the concentrated liquidity walk does, in exact rational terms. Between two prices `a`
and `b` a range of liquidity `L` holds `token0 L a b` of one token and `token1 L a b` of the other;
every amount the code computes is one of these rounded against the trader, and every price it moves
to stops short of the exact one.
-/

namespace PrivateExecution

/-! ### Exact amounts -/

def token0 (liquidity a b : ℚ) : ℚ := liquidity * 2 ^ 64 * (1 / a - 1 / b)

def token1 (liquidity a b : ℚ) : ℚ := liquidity * (b - a) / 2 ^ 64

section

variable {l a b c : ℚ}

@[simp] lemma token0_self (l a : ℚ) : token0 l a a = 0 := by simp [token0]

@[simp] lemma token1_self (l a : ℚ) : token1 l a a = 0 := by simp [token1]

lemma token0_add (l a b c : ℚ) : token0 l a b + token0 l b c = token0 l a c := by
  unfold token0
  ring

lemma token1_add (l a b c : ℚ) : token1 l a b + token1 l b c = token1 l a c := by
  unfold token1
  ring

lemma token0_le_iff (hl : 0 < l) (ha : 0 < a) (hb : 0 < b) : token0 l b c ≤ token0 l a c ↔ a ≤ b := by
  unfold token0
  rw [mul_le_mul_iff_right₀ (by positivity), sub_le_sub_iff_right, one_div_le_one_div hb ha]

lemma token1_le_iff (hl : 0 < l) : token1 l c a ≤ token1 l c b ↔ a ≤ b := by
  unfold token1
  rw [div_le_div_iff_of_pos_right (by positivity), mul_le_mul_iff_right₀ hl, sub_le_sub_iff_right]

lemma token0_nonneg (hl : 0 < l) (ha : 0 < a) (hab : a ≤ b) : 0 ≤ token0 l a b := by
  rw [← token0_self l b, token0_le_iff hl ha (ha.trans_le hab)]
  exact hab

lemma token1_nonneg (hl : 0 < l) (hab : a ≤ b) : 0 ≤ token1 l a b := by
  rw [← token1_self l a, token1_le_iff hl]
  exact hab

end

/-! ### Every rounding is against the trader -/

section

variable {liquidity s sNext sLower input deltaS out : U128}

lemma amount1Out_eq (h : amount1Out liquidity deltaS = .ok out) :
    out.val = liquidity.val * deltaS.val / 2 ^ 64 := by
  obtain ⟨hfits, h⟩ := ensure_ok.1 h
  cases h
  rw [mulU128Wide_eq liquidity.lt deltaS.lt] at hfits
  simp only at hfits
  rw [Unsigned.wrap_val, mulShift64_eq liquidity.lt deltaS.lt]
  omega

lemma amount0Out_eq (h : amount0Out liquidity s sNext = .ok out) :
    0 < s.val * sNext.val ∧ out.val = liquidity.val * (sNext.val - s.val) * 2 ^ 64 / (s.val * sNext.val) := by
  simp only [amount0Out, bind_ok, okOr_eq_ok, U512.shl64_eq_some, U512.divFloor_eq_some,
    U512.asU128_eq_some, U512.toNat_mulU128, Unsigned.minus_val] at h
  obtain ⟨num, hnum, quot, ⟨hden, hquot⟩, hout⟩ := h
  exact ⟨hden, by rw [hout, hquot, hnum]⟩

lemma nextPriceDown_eq (h : nextPriceDown liquidity s input = .ok sNext) :
    0 < liquidity.val * 2 ^ 64 + input.val * s.val ∧
      sNext.val = liquidity.val * s.val * 2 ^ 64 ⌈/⌉ (liquidity.val * 2 ^ 64 + input.val * s.val) := by
  simp only [nextPriceDown, bind_ok, okOr_eq_ok, U512.shl64_eq_some, U512.divCeil_eq_some,
    U512.asU128_eq_some, U512.add_eq_some, U512.toNat_mulU128, U512.toNat_fromU128] at h
  obtain ⟨num, hnum, lX64, hl64, den, hden, quot, ⟨hpos, hquot⟩, hnext⟩ := h
  rw [hden, hl64] at hpos
  exact ⟨hpos, by rw [hnext, hquot, hnum, hden, hl64]⟩

lemma nextPriceUp_eq (h : nextPriceUp liquidity s input = .ok sNext) :
    0 < liquidity.val ∧ sNext.val = s.val + input.val * 2 ^ 64 / liquidity.val := by
  simp only [nextPriceUp, bind_ok, okOr_eq_ok, U512.shl64_eq_some, U512.divFloor_eq_some,
    U512.asU128_eq_some, U512.toNat_fromU128, Unsigned.checkedAdd_eq_some] at h
  obtain ⟨num, hnum, quot, ⟨hpos, hquot⟩, delta, hdelta, hnext⟩ := h
  exact ⟨hpos, by rw [hnext, hdelta, hquot, hnum]⟩

lemma le_of_ceilDiv {n d z : ℕ} (hd : 0 < d) (h : z = n ⌈/⌉ d) : (n : ℚ) / d ≤ z := by
  have hle : n ≤ d * z := by
    rw [h]
    exact (ceilDiv_le_iff_le_mul hd).1 le_rfl
  rw [div_le_iff₀ (by exact_mod_cast hd), mul_comm]
  exact_mod_cast hle

lemma le_of_floorDiv {n d z : ℕ} (h : z = n / d) : (z : ℚ) ≤ n / d := by
  rw [h]
  exact Nat.cast_div_le

lemma amount0Max_spec {z : U512} (hle : sLower.val ≤ s.val) (h : amount0Max liquidity s sLower = .ok z) :
    0 < sLower.val ∧ token0 liquidity.val sLower.val s.val ≤ z.toNat := by
  simp only [amount0Max, bind_ok, okOr_eq_ok, U512.shl64_eq_some, U512.divCeil_eq_some,
    U512.toNat_mulU128, Unsigned.minus_val] at h
  obtain ⟨num, hnum, hden, hz⟩ := h
  have hs : 0 < sLower.val := Nat.pos_of_mul_pos_left hden
  refine ⟨hs, le_trans (le_of_eq ?_) (le_of_ceilDiv hden hz)⟩
  have h0 : (sLower.val : ℚ) ≠ 0 := by exact_mod_cast hs.ne'
  have h1 : (s.val : ℚ) ≠ 0 := by exact_mod_cast (hs.trans_le hle).ne'
  rw [hnum, token0]
  push_cast [Nat.cast_sub hle]
  field_simp
  ring

lemma amount0Out_spec (hle : s.val ≤ sNext.val) (h : amount0Out liquidity s sNext = .ok out) :
    0 < s.val ∧ (out.val : ℚ) ≤ token0 liquidity.val s.val sNext.val := by
  obtain ⟨hden, hout⟩ := amount0Out_eq h
  have hs : 0 < s.val := Nat.pos_of_mul_pos_right hden
  refine ⟨hs, le_trans (le_of_floorDiv hout) (le_of_eq ?_)⟩
  have h0 : (s.val : ℚ) ≠ 0 := by exact_mod_cast hs.ne'
  have h1 : (sNext.val : ℚ) ≠ 0 := by exact_mod_cast (hs.trans_le hle).ne'
  rw [token0]
  push_cast [Nat.cast_sub hle]
  field_simp
  ring

lemma amount1Max_spec {z : U512} (hle : s.val ≤ sNext.val)
    (h : amount1Max liquidity (sNext.minus s) = .ok z) : token1 liquidity.val s.val sNext.val ≤ z.toNat := by
  simp only [amount1Max, bind_ok, okOr_eq_ok, U512.shl64_eq_some, U512.divCeil_eq_some,
    U512.toNat_mulU128, Unsigned.minus_val, U512.toNat_one] at h
  obtain ⟨den, hden, hpos, hz⟩ := h
  refine le_trans (le_of_eq ?_) (le_of_ceilDiv hpos hz)
  rw [hden, token1]
  push_cast [Nat.cast_sub hle]
  ring

lemma amount1Out_spec (hle : sNext.val ≤ s.val) (h : amount1Out liquidity (s.minus sNext) = .ok out) :
    (out.val : ℚ) ≤ token1 liquidity.val sNext.val s.val := by
  refine le_trans (le_of_floorDiv (amount1Out_eq h)) (le_of_eq ?_)
  rw [token1, Unsigned.minus_val]
  push_cast [Nat.cast_sub hle]
  ring

lemma nextPriceDown_spec (hs : 0 < s.val) (hl : 0 < liquidity.val)
    (h : nextPriceDown liquidity s input = .ok sNext) :
    0 < sNext.val ∧ token0 liquidity.val sNext.val s.val ≤ input.val := by
  obtain ⟨hden, hnext⟩ := nextPriceDown_eq h
  have hle := le_of_ceilDiv hden hnext
  have hl' : (0 : ℚ) < liquidity.val := by exact_mod_cast hl
  have hs' : (0 : ℚ) < s.val := by exact_mod_cast hs
  push_cast at hle
  have hpos' : (0 : ℚ) < sNext.val := lt_of_lt_of_le (by positivity) hle
  refine ⟨by exact_mod_cast hpos', ?_⟩
  rw [div_le_iff₀ (by positivity)] at hle
  have hkey : token0 liquidity.val sNext.val s.val =
      liquidity.val * 2 ^ 64 * (s.val - sNext.val) / (sNext.val * s.val) := by
    rw [token0]
    field_simp
  rw [hkey, div_le_iff₀ (by positivity)]
  linarith

lemma nextPriceUp_spec (h : nextPriceUp liquidity s input = .ok sNext) :
    token1 liquidity.val s.val sNext.val ≤ input.val := by
  obtain ⟨hpos, hnext⟩ := nextPriceUp_eq h
  have hle : (((input.val * 2 ^ 64 / liquidity.val : ℕ)) : ℚ) ≤ _ := le_of_floorDiv rfl
  have hl : (0 : ℚ) < liquidity.val := by exact_mod_cast hpos
  rw [le_div_iff₀ hl] at hle
  push_cast at hle
  rw [token1, hnext, div_le_iff₀ (by positivity)]
  push_cast
  linarith

end

/-! ### Ends of steps -/

section

variable {ticks : List ClmmTick} {st st' : ClmmState ticks} {next : Except ClmmSimulationError U128}
  {beyond : U128 → Prop} [DecidablePred beyond] {gives : U128 → Except ClmmSimulationError U128}
  {outside : ℤ → Prop} [DecidablePred outside]

/-- The last step in either direction: to the price `next`, which is not `beyond` the range, for what it
`gives`. -/
def finishWith (next : Except ClmmSimulationError U128) (beyond : U128 → Prop) [DecidablePred beyond]
    (gives : U128 → Except ClmmSimulationError U128) (outside : ℤ → Prop) [DecidablePred outside]
    (st : ClmmState ticks) : Except ClmmSimulationError (ClmmState ticks) := do
  let sNext ← next
  ensure (¬beyond sNext) .invariantViolated
  let out ← gives sNext
  ensure (¬(out.val = 0 ∧ st.output.val = 0)) .zeroOutputAmount
  let output ← okOr (st.output.checkedAdd out) .arithmeticOverflow
  let resTick ← tickIndexFromSqrtPrice sNext.val
  ensure (¬outside resTick) .invariantViolated
  return { st with s := sNext, tick := resTick, output }

/-- A last step as numbers. -/
structure Finished (next : Except ClmmSimulationError U128) (beyond : U128 → Prop)
    (gives : U128 → Except ClmmSimulationError U128) (outside : ℤ → Prop) (st st' : ClmmState ticks)
    (out : U128) : Prop where
  next : next = .ok st'.s
  within : ¬beyond st'.s
  gives : gives st'.s = .ok out
  paid : ¬(out.val = 0 ∧ st.output.val = 0)
  output : st'.output.val = st.output.val + out.val
  tick : tickIndexFromSqrtPrice st'.s.val = .ok st'.tick
  inside : ¬outside st'.tick
  rest : st' = { st with s := st'.s, tick := st'.tick, output := st'.output }

lemma finishWith_eq_ok (h : finishWith next beyond gives outside st = .ok st') :
    ∃ out, Finished next beyond gives outside st st' out := by
  unfold finishWith at h
  obtain ⟨sNext, hnext, h⟩ := bind_ok.1 h
  obtain ⟨hwithin, h⟩ := ensure_ok.1 h
  obtain ⟨out, hout, h⟩ := bind_ok.1 h
  obtain ⟨hpaid, h⟩ := ensure_ok.1 h
  obtain ⟨output, houtput, h⟩ := bind_ok.1 h
  obtain ⟨resTick, htick, h⟩ := bind_ok.1 h
  obtain ⟨hinside, h⟩ := ensure_ok.1 h
  cases h
  rw [okOr_eq_ok, Unsigned.checkedAdd_eq_some] at houtput
  exact ⟨out, hnext, hwithin, hout, hpaid, houtput, htick, hinside, rfl⟩

lemma reachDown_eq_ok {sLower : U128} {deltaXMax : U512} (h : reachDown st sLower deltaXMax = .ok st') :
    ∃ out remaining, amount1Out st.liquidity (st.s.minus sLower) = .ok out ∧
      st.remaining.val = remaining.val + deltaXMax.toNat ∧ st'.output.val = st.output.val + out.val ∧
      st' = { st with s := sLower, tick := (lowerTick st.range).index, remaining, output := st'.output } := by
  unfold reachDown at h
  obtain ⟨-, h⟩ := ensure_ok.1 h
  obtain ⟨-, h⟩ := ensure_ok.1 h
  obtain ⟨inputStep, hstep, h⟩ := bind_ok.1 h
  obtain ⟨out, hout, h⟩ := bind_ok.1 h
  obtain ⟨output, houtput, h⟩ := bind_ok.1 h
  obtain ⟨remaining, hrem, h⟩ := bind_ok.1 h
  cases h
  rw [okOr_eq_ok, U512.asU128_eq_some] at hstep
  rw [okOr_eq_ok, Unsigned.checkedAdd_eq_some] at houtput
  rw [okOr_eq_ok, Unsigned.checkedSub_eq_some, hstep] at hrem
  exact ⟨out, remaining, hout, by omega, houtput, rfl⟩

lemma reachUp_eq_ok {sUpper : U128} {deltaYMax : U512} (h : reachUp st sUpper deltaYMax = .ok st') :
    ∃ out remaining liquidity range, amount0Out st.liquidity st.s sUpper = .ok out ∧
      st.remaining.val = remaining.val + deltaYMax.toNat ∧ st'.output.val = st.output.val + out.val ∧
      checkedAddNet st.liquidity (upperTick st.range).liquidityNet = .ok liquidity ∧
      rangeAbove st.range = some range ∧ st.crosses < maxClmmTickCrosses ∧
      st' = ⟨sUpper, (upperTick st.range).index, liquidity, remaining, st'.output, st.crosses + 1, range⟩ := by
  unfold reachUp at h
  obtain ⟨range, hrange, h⟩ := bind_ok.1 h
  obtain ⟨hcrosses, h⟩ := ensure_ok.1 h
  obtain ⟨inputStep, hstep, h⟩ := bind_ok.1 h
  obtain ⟨out, hout, h⟩ := bind_ok.1 h
  obtain ⟨output, houtput, h⟩ := bind_ok.1 h
  obtain ⟨remaining, hrem, h⟩ := bind_ok.1 h
  obtain ⟨liquidity, hliquidity, h⟩ := bind_ok.1 h
  cases h
  rw [okOr_eq_ok, U512.asU128_eq_some] at hstep
  rw [okOr_eq_ok, Unsigned.checkedAdd_eq_some] at houtput
  rw [okOr_eq_ok, Unsigned.checkedSub_eq_some, hstep] at hrem
  exact ⟨out, remaining, liquidity, range, hout, by omega, houtput, hliquidity, okOr_eq_ok.1 hrange, hcrosses, rfl⟩

end

/-! ### One iteration -/

section

variable {ticks : List ClmmTick} {st mid st' : ClmmState ticks} {done : Bool}

def lowerPrice (i : TickRange ticks) : ℕ := sqrtPriceOf (lowerTick i).index

def upperPrice (i : TickRange ticks) : ℕ := sqrtPriceOf (upperTick i).index

lemma sqrtPrice_eq_ok {tick : ℤ} {s : U128} (h : sqrtPriceFromTickIndex tick = .ok s) :
    s.val = sqrtPriceOf tick := by
  obtain ⟨-, h⟩ := ensure_ok.1 h
  cases h
  rfl

lemma checkedAddNet_spec {l l' : U128} {net : ℤ} (h : checkedAddNet l net = .ok l') :
    (l'.val : ℤ) = l.val + net ∧ 0 < l'.val := by
  unfold checkedAddNet at h
  obtain ⟨newLiq, hnew, h⟩ := bind_ok.1 h
  obtain ⟨hpos, h⟩ := ensure_ok.1 h
  cases h
  refine ⟨?_, Nat.pos_of_ne_zero hpos⟩
  rw [okOr_eq_ok, addNet] at hnew
  split_ifs at hnew
  · rw [Unsigned.ofNat?_eq_some] at hnew
    omega
  · rw [Unsigned.ofNat?_eq_some] at hnew
    omega

/-- A tick crossed downwards, the price standing on it. -/
structure CrossesDown (st mid : ClmmState ticks) : Prop where
  range : mid.range.val + 1 = st.range.val
  atBoundary : st.s.val = lowerPrice st.range
  liquidity : (mid.liquidity.val : ℤ) = st.liquidity.val - (lowerTick st.range).liquidityNet
  pos : 0 < mid.liquidity.val
  price : mid.s = st.s
  remaining : mid.remaining = st.remaining
  output : mid.output = st.output
  crosses : mid.crosses = st.crosses + 1
  crosses_le : mid.crosses ≤ maxClmmTickCrosses

/-- A move down inside one range: it pays at least what the range holds and receives at most that. -/
structure MovesDown (mid st' : ClmmState ticks) (spent out : ℕ) : Prop where
  range : st'.range = mid.range
  liquidity : st'.liquidity = mid.liquidity
  crosses : st'.crosses = mid.crosses
  below : st'.s.val < mid.s.val
  above : lowerPrice mid.range ≤ st'.s.val
  lower_pos : 0 < lowerPrice mid.range
  cost : token0 mid.liquidity.val st'.s.val mid.s.val ≤ spent
  output : st'.output.val = mid.output.val + out
  gain : (out : ℚ) ≤ token1 mid.liquidity.val st'.s.val mid.s.val

/-- Where the last move ends. -/
structure FinishesDown (mid st' : ClmmState ticks) (spent : ℕ) : Prop where
  spent_eq : spent = mid.remaining.val
  inside : lowerPrice mid.range < st'.s.val
  tick : tickIndexFromSqrtPrice st'.s.val = .ok st'.tick
  tick_ge : (lowerTick mid.range).index ≤ st'.tick

/-- Where every other move ends. -/
structure ReachesDown (mid st' : ClmmState ticks) (spent : ℕ) : Prop where
  spent_eq : st'.remaining.val + spent = mid.remaining.val
  price : st'.s.val = lowerPrice mid.range
  tick : st'.tick = (lowerTick mid.range).index

variable {step : ClmmState ticks → Except ClmmSimulationError (ClmmState ticks × Bool)} {sLower : U128}

lemma crossDown_spec (h : crossDown st = .ok (mid, sLower))
    (hs : st.s.val = lowerPrice st.range) : CrossesDown st mid ∧ sLower.val = lowerPrice mid.range := by
  unfold crossDown at h
  simp only [ensure_ok] at h
  obtain ⟨hrange, hcrosses, h⟩ := h
  obtain ⟨liquidity, hliq, h⟩ := bind_ok.1 h
  obtain ⟨low, hlow, h⟩ := bind_ok.1 h
  cases h
  obtain ⟨hval, hpos⟩ := checkedAddNet_spec hliq
  refine ⟨⟨?_, hs, ?_, hpos, rfl, rfl, rfl, rfl, hcrosses⟩, sqrtPrice_eq_ok hlow⟩
  · show st.range.val - 1 + 1 = st.range.val
    omega
  · show (liquidity.val : ℤ) = _
    omega

lemma enterDown_spec (h : enterDown st = .ok (mid, sLower)) :
    (mid = st ∨ CrossesDown st mid) ∧ sLower.val = lowerPrice mid.range := by
  unfold enterDown at h
  obtain ⟨boundary, hboundary, h⟩ := bind_ok.1 h
  have hval := sqrtPrice_eq_ok hboundary
  split_ifs at h with heq
  · obtain ⟨hcross, hlow⟩ := crossDown_spec h (by rw [heq]; exact hval)
    exact ⟨.inr hcross, hlow⟩
  · cases h
    exact ⟨.inl rfl, hval⟩

lemma finishDown_spec (hl : 0 < mid.liquidity.val)
    (hlow : sLower.val = lowerPrice mid.range) (hpos : 0 < sLower.val) (hlt : sLower.val < mid.s.val)
    (h : finishDown mid sLower = .ok st') :
    ∃ out, MovesDown mid st' mid.remaining.val out ∧ FinishesDown mid st' mid.remaining.val := by
  obtain ⟨out, hend⟩ := finishWith_eq_ok h
  have hinside : sLower.val < st'.s.val := not_le.1 fun hle => hend.within (.inl hle)
  have hbelow : st'.s.val < mid.s.val := not_le.1 fun hle => hend.within (.inr hle)
  rw [hend.rest]
  exact ⟨out.val, ⟨rfl, rfl, rfl, hbelow, hlow ▸ hinside.le, hlow ▸ hpos,
    (nextPriceDown_spec (hpos.trans hlt) hl hend.next).2, hend.output, amount1Out_spec hbelow.le hend.gives⟩,
    ⟨rfl, hlow ▸ hinside, hend.tick, not_lt.1 hend.inside⟩⟩

lemma reachDown_spec {deltaXMax : U512} (hlow : sLower.val = lowerPrice mid.range)
    (hpos : 0 < sLower.val) (hlt : sLower.val < mid.s.val)
    (hmax : token0 mid.liquidity.val sLower.val mid.s.val ≤ deltaXMax.toNat)
    (h : reachDown mid sLower deltaXMax = .ok st') :
    ∃ spent out, MovesDown mid st' spent out ∧ ReachesDown mid st' spent := by
  obtain ⟨out, remaining, hout, hrem, houtput, hst⟩ := reachDown_eq_ok h
  rw [hst]
  exact ⟨deltaXMax.toNat, out.val, ⟨rfl, rfl, rfl, hlt, hlow.ge, hlow ▸ hpos, hmax, houtput,
    amount1Out_spec hlt.le hout⟩, ⟨hrem.symm, hlow, rfl⟩⟩

lemma stepDown_spec (hl : 0 < st.liquidity.val) (h : stepDown st = .ok (st', done)) :
    ∃ mid, (mid = st ∨ CrossesDown st mid) ∧ ∃ spent out, MovesDown mid st' spent out ∧
      (done = true ∧ FinishesDown mid st' spent ∨ done = false ∧ ReachesDown mid st' spent) := by
  unfold stepDown at h
  obtain ⟨⟨mid, sLower⟩, henter, h⟩ := bind_ok.1 h
  obtain ⟨hmid, hlow⟩ := enterDown_spec henter
  have hl' : 0 < mid.liquidity.val := by
    rcases hmid with rfl | hcross
    · exact hl
    · exact hcross.pos
  obtain ⟨hlt, h⟩ := ensure_ok.1 h
  have hlt : sLower.val < mid.s.val := not_le.1 hlt
  obtain ⟨deltaXMax, hdelta, h⟩ := bind_ok.1 h
  obtain ⟨hpos, hmax⟩ := amount0Max_spec hlt.le hdelta
  refine ⟨mid, hmid, ?_⟩
  split_ifs at h
  · obtain ⟨next, hnext, h⟩ := bind_ok.1 h
    cases h
    obtain ⟨out, hmove, hfinish⟩ := finishDown_spec hl' hlow hpos hlt hnext
    exact ⟨_, out, hmove, .inl ⟨rfl, hfinish⟩⟩
  · obtain ⟨next, hnext, h⟩ := bind_ok.1 h
    cases h
    obtain ⟨spent, out, hmove, hreach⟩ := reachDown_spec hlow hpos hlt hmax hnext
    exact ⟨spent, out, hmove, .inr ⟨rfl, hreach⟩⟩

/-- A tick crossed upwards by the move that reached it. -/
structure CrossesUp (mid st' : ClmmState ticks) : Prop where
  range : st'.range.val = mid.range.val + 1
  liquidity : (st'.liquidity.val : ℤ) = mid.liquidity.val + (upperTick mid.range).liquidityNet
  pos : 0 < st'.liquidity.val
  price : st'.s.val = upperPrice mid.range
  tick : st'.tick = (upperTick mid.range).index
  crosses : st'.crosses = mid.crosses + 1
  crosses_le : st'.crosses ≤ maxClmmTickCrosses

/-- A move up inside one range, to the price of `st'`. -/
structure MovesUp (mid st' : ClmmState ticks) (spent out : ℕ) : Prop where
  above : mid.s.val < st'.s.val
  below : st'.s.val ≤ upperPrice mid.range
  start_pos : 0 < mid.s.val
  cost : token1 mid.liquidity.val mid.s.val st'.s.val ≤ spent
  output : st'.output.val = mid.output.val + out
  gain : (out : ℚ) ≤ token0 mid.liquidity.val mid.s.val st'.s.val

/-- Where the last move ends. -/
structure FinishesUp (mid st' : ClmmState ticks) (spent : ℕ) : Prop where
  range : st'.range = mid.range
  liquidity : st'.liquidity = mid.liquidity
  crosses : st'.crosses = mid.crosses
  spent_eq : spent = mid.remaining.val
  inside : st'.s.val < upperPrice mid.range
  tick : tickIndexFromSqrtPrice st'.s.val = .ok st'.tick
  tick_lt : st'.tick < (upperTick mid.range).index

lemma finishUp_spec {sUpper : U128} (hup : sUpper.val = upperPrice st.range)
    (h : finishUp st sUpper = .ok st') :
    ∃ out, MovesUp st st' st.remaining.val out ∧ FinishesUp st st' st.remaining.val := by
  obtain ⟨out, hend⟩ := finishWith_eq_ok h
  have hinside : st'.s.val < sUpper.val := not_le.1 fun hle => hend.within (.inl hle)
  have habove : st.s.val < st'.s.val := not_le.1 fun hle => hend.within (.inr hle)
  obtain ⟨hpos, hgain⟩ := amount0Out_spec habove.le hend.gives
  rw [hend.rest]
  exact ⟨out.val, ⟨habove, hup ▸ hinside.le, hpos, nextPriceUp_spec hend.next, hend.output, hgain⟩,
    ⟨rfl, rfl, rfl, rfl, hup ▸ hinside, hend.tick, not_le.1 hend.inside⟩⟩

lemma reachUp_spec {sUpper : U128} {deltaYMax : U512} (hup : sUpper.val = upperPrice st.range)
    (hlt : st.s.val < sUpper.val) (hmax : token1 st.liquidity.val st.s.val sUpper.val ≤ deltaYMax.toNat)
    (h : reachUp st sUpper deltaYMax = .ok st') :
    ∃ spent out, MovesUp st st' spent out ∧ CrossesUp st st' ∧
      st'.remaining.val + spent = st.remaining.val := by
  obtain ⟨out, remaining, liquidity, range, hout, hrem, houtput, hliq, hrange, hcrosses, hst⟩ := reachUp_eq_ok h
  obtain ⟨hpos, hgain⟩ := amount0Out_spec hlt.le hout
  obtain ⟨hval, hlpos⟩ := checkedAddNet_spec hliq
  have hidx : range.val = st.range.val + 1 := by
    rw [rangeAbove] at hrange
    split_ifs at hrange
    cases hrange
    rfl
  rw [hst]
  exact ⟨deltaYMax.toNat, out.val, ⟨hlt, hup.le, hpos, hmax, houtput, hgain⟩,
    ⟨hidx, hval, hlpos, hup, rfl, rfl, hcrosses⟩, hrem.symm⟩

lemma stepUp_spec (h : stepUp st = .ok (st', done)) :
    ∃ spent out, MovesUp st st' spent out ∧
      (done = true ∧ FinishesUp st st' spent ∨
        done = false ∧ CrossesUp st st' ∧ st'.remaining.val + spent = st.remaining.val) := by
  unfold stepUp at h
  obtain ⟨sUpper, hupper, h⟩ := bind_ok.1 h
  have hup : sUpper.val = upperPrice st.range := sqrtPrice_eq_ok hupper
  obtain ⟨hlt, h⟩ := ensure_ok.1 h
  have hlt : st.s.val < sUpper.val := not_le.1 hlt
  obtain ⟨deltaYMax, hdelta, h⟩ := bind_ok.1 h
  split_ifs at h
  · obtain ⟨next, hnext, h⟩ := bind_ok.1 h
    cases h
    obtain ⟨out, hmove, hfinish⟩ := finishUp_spec hup hnext
    exact ⟨_, out, hmove, .inl ⟨rfl, hfinish⟩⟩
  · obtain ⟨next, hnext, h⟩ := bind_ok.1 h
    cases h
    obtain ⟨spent, out, hmove, hcross, hspent⟩ :=
      reachUp_spec hup hlt (amount1Max_spec hlt.le hdelta) hnext
    exact ⟨spent, out, hmove, .inr ⟨rfl, hcross, hspent⟩⟩

lemma clmmLoop_rule (Inv Final : ClmmState ticks → Prop)
    (hend : ∀ st, Inv st → st.remaining.val = 0 → Final st)
    (hnext : ∀ st st', Inv st → 0 < st.remaining.val → step st = .ok (st', false) → Inv st')
    (hdone : ∀ st st', Inv st → 0 < st.remaining.val → step st = .ok (st', true) → Final st') :
    ∀ {fuel : ℕ} {st final : ClmmState ticks}, Inv st → clmmLoop step fuel st = .ok final → Final final := by
  intro fuel
  induction fuel with
  | zero => exact fun _ h => nomatch h
  | succ fuel ih =>
    intro st final hinv h
    rw [clmmLoop] at h
    split_ifs at h with hzero
    · cases h
      exact hend st hinv hzero
    · have hpos := Nat.pos_of_ne_zero hzero
      obtain ⟨⟨next, done⟩, hstep, h⟩ := bind_ok.1 h
      cases done with
      | true =>
        cases h
        exact hdone st _ hinv hpos hstep
      | false => exact ih (hnext st next hinv hpos hstep) h

lemma measured_iterations (Inv : ClmmState ticks → Prop) (left : ClmmState ticks → ℕ)
    (hnext : ∀ st st', Inv st → step st = .ok (st', false) → Inv st' ∧ left st' < left st)
    {states : ℕ → ClmmState ticks} {n : ℕ} (hinv : Inv (states 0))
    (hsteps : ∀ i < n, step (states i) = .ok (states (i + 1), false)) :
    Inv (states n) ∧ n + left (states n) ≤ left (states 0) := by
  induction n with
  | zero => exact ⟨hinv, by omega⟩
  | succ n ih =>
    obtain ⟨hinv', hle⟩ := ih fun i hi => hsteps i (by omega)
    obtain ⟨hinv'', hlt⟩ := hnext _ _ hinv' (hsteps n (by omega))
    exact ⟨hinv'', by omega⟩

/-- **The walk ends.** The bound on crossings bounds the iterations that do not end the loop, in both
directions, below the number that `clmmLoop` is run with. -/
theorem clmm_walk_terminates {pool : ClmmPoolState} {range : TickRange pool.ticks} {effectiveInput : U128}
    {n : ℕ} (token0In : Bool) (states : ℕ → ClmmState pool.ticks) (hl : 0 < pool.liquidity.val)
    (hstart : states 0 = pool.start range effectiveInput)
    (hsteps : ∀ i < n, (if token0In then stepDown else stepUp) (states i) = .ok (states (i + 1), false)) :
    n < clmmFuel := by
  cases token0In with
  | false =>
    obtain ⟨-, hle⟩ := measured_iterations (fun _ => True) (fun st => maxClmmTickCrosses - st.crosses)
      (fun st st' _ h => by
        obtain ⟨_, _, -, ⟨hdone, -⟩ | ⟨-, hcross, -⟩⟩ := stepUp_spec h
        · cases hdone
        · have := hcross.crosses
          have := hcross.crosses_le
          exact ⟨trivial, by omega⟩) trivial hsteps
    unfold clmmFuel
    omega
  | true =>
    -- After its first iteration the walk stands on a boundary, and has to cross it.
    obtain ⟨-, hle⟩ := measured_iterations (fun st => 0 < st.liquidity.val)
      (fun st => maxClmmTickCrosses - st.crosses + if st.s.val = lowerPrice st.range then 0 else 1)
      (fun st st' hpos h => by
        obtain ⟨mid, hmid, _, _, hmove, ⟨hdone, -⟩ | ⟨-, hreach⟩⟩ := stepDown_spec hpos h
        · cases hdone
        have hat : st'.s.val = lowerPrice st'.range := by rw [hreach.price, hmove.range]
        have hbelow := hmove.below
        have habove := hmove.above
        rw [if_pos hat, hmove.crosses, hmove.liquidity]
        rcases hmid with rfl | hcross
        · rw [if_neg (by omega)]
          exact ⟨hpos, by omega⟩
        · rw [if_pos hcross.atBoundary]
          have := hcross.crosses
          have := hcross.crosses_le
          exact ⟨hcross.pos, by omega⟩) (hstart ▸ hl) hsteps
    unfold clmmFuel
    split_ifs at hle <;> omega

end

/-! ### The simulation -/

section

variable {pool : ClmmPoolState} {request : ClmmExactInputRequest}

/-- The range a tick and a price stand in. -/
structure StandsIn {ticks : List ClmmTick} (range : TickRange ticks) (s : ℕ) (t : ℤ) : Prop where
  tick : tickIndexFromSqrtPrice s = .ok t
  tick_ge : (lowerTick range).index ≤ t
  tick_lt : t < (upperTick range).index
  price_ge : lowerPrice range ≤ s
  price_lt : s < upperPrice range

lemma checkRange_spec {range : TickRange pool.ticks} (h : pool.checkRange = .ok range) :
    StandsIn range pool.sqrtPriceX64.val pool.currentTick := by
  unfold ClmmPoolState.checkRange at h
  obtain ⟨tick, htick, h⟩ := bind_ok.1 h
  simp only [ensure_ok] at h
  obtain ⟨heq, -, -, h⟩ := h
  obtain ⟨found, hfound, h⟩ := bind_ok.1 h
  obtain ⟨sLower, hlower, h⟩ := bind_ok.1 h
  obtain ⟨sUpper, hupper, h⟩ := bind_ok.1 h
  simp only [ensure_ok] at h
  obtain ⟨-, hprice, h⟩ := h
  cases h
  have hmem := List.find?_some (okOr_eq_ok.1 hfound)
  rw [decide_eq_true_eq] at hmem
  have hlow : sLower.val = lowerPrice range := sqrtPrice_eq_ok hlower
  have hup : sUpper.val = upperPrice range := sqrtPrice_eq_ok hupper
  refine ⟨heq ▸ htick, hmem.1, hmem.2, ?_, ?_⟩
  · exact hlow ▸ not_lt.1 fun hlt => hprice (.inl hlt)
  · exact hup ▸ not_le.1 fun hle => hprice (.inr hle)

/-- What a successful simulation ran: the walk from the pool's own state to the quoted one. -/
structure Simulated (pool : ClmmPoolState) (request : ClmmExactInputRequest) (q : ClmmSimulationQuote)
    (token0In : Bool) (range : TickRange pool.ticks) (input : U128) (final : ClmmState pool.ticks) : Prop where
  direction : isToken0In pool.token0 pool.token1 request.tokenIn = some token0In
  coherent : pool.checkRange = .ok range
  input_le : input.val ≤ request.amountIn.val
  input_pos : 0 < input.val
  walk : clmmLoop (if token0In then stepDown else stepUp) clmmFuel (pool.start range input) = .ok final
  input : q.input = ⟨request.tokenIn, request.amountIn⟩
  output : q.output = ⟨if token0In then pool.token1 else pool.token0, final.output⟩
  price : q.resultingSqrtPriceX64 = final.s
  tick : q.resultingTick = final.tick
  liquidity : q.resultingLiquidity = final.liquidity

lemma simulateClmm_inv {q : ClmmSimulationQuote} (h : simulateClmmExactInput pool request = .ok q) :
    (∃ u, pool.validate = .ok u) ∧ (∃ u, pool.checkState = .ok u) ∧
      ∃ token0In range input final, Simulated pool request q token0In range input final := by
  unfold simulateClmmExactInput at h
  obtain ⟨u, hvalid, h⟩ := bind_ok.1 h
  obtain ⟨-, h⟩ := ensure_ok.1 h
  obtain ⟨u', hstate, h⟩ := bind_ok.1 h
  obtain ⟨-, h⟩ := ensure_ok.1 h
  obtain ⟨-, h⟩ := ensure_ok.1 h
  obtain ⟨token0In, hdir, h⟩ := bind_ok.1 h
  obtain ⟨-, -, h⟩ := bind_ok.1 h
  obtain ⟨range, hrange, h⟩ := bind_ok.1 h
  obtain ⟨fee, -, h⟩ := bind_ok.1 h
  obtain ⟨input, hinput, h⟩ := bind_ok.1 h
  obtain ⟨hpos, h⟩ := ensure_ok.1 h
  obtain ⟨final, hwalk, h⟩ := bind_ok.1 h
  obtain ⟨-, h⟩ := ensure_ok.1 h
  cases h
  rw [okOr_eq_ok, Unsigned.checkedSub_eq_some] at hinput
  exact ⟨⟨u, mapError_eq_ok hvalid⟩, ⟨u', hstate⟩, token0In, range, input, final,
    okOr_eq_ok.1 hdir, hrange, by omega, Nat.pos_of_ne_zero hpos, hwalk, rfl, rfl, rfl, rfl, rfl⟩

lemma checkState_pos {u : Unit} (h : pool.checkState = .ok u) :
    0 < pool.liquidity.val ∧ 0 < pool.sqrtPriceX64.val := by
  obtain ⟨hl, h⟩ := ensure_ok.1 h
  obtain ⟨⟨hs, -⟩, -⟩ := ensure_ok.1 h
  exact ⟨Nat.pos_of_ne_zero hl, Nat.pos_of_ne_zero hs⟩

lemma simulateClmm_price_lt {q : ClmmSimulationQuote} (h : simulateClmmExactInput pool request = .ok q) :
    pool.sqrtPriceX64.val < 2 ^ 97 ∧ q.resultingSqrtPriceX64.val < 2 ^ 97 := by
  obtain ⟨-, ⟨_, hstate⟩, token0In, range, input, final, hsim⟩ := simulateClmm_inv h
  have hl := (checkState_pos hstate).1
  have hpool : pool.sqrtPriceX64.val < 2 ^ 97 := by
    obtain ⟨-, hstate⟩ := ensure_ok.1 hstate
    obtain ⟨⟨-, -, hle⟩, -⟩ := ensure_ok.1 hstate
    unfold maxSqrtPriceX64 at hle
    omega
  have hwalk := hsim.walk
  refine ⟨hpool, ?_⟩
  rw [hsim.price]
  cases token0In with
  | true =>
    refine (clmmLoop_rule (fun st => 0 < st.liquidity.val ∧ st.s.val < 2 ^ 97)
      (fun st => st.s.val < 2 ^ 97) (fun st hst _ => hst.2) ?_ ?_ ⟨hl, hpool⟩ hwalk)
    all_goals
      rintro st st' ⟨hlst, hst⟩ - hstep
      obtain ⟨mid, hmid, spent, out, hmove, -⟩ := stepDown_spec hlst hstep
      have hlt := hmove.below
      rcases hmid with rfl | hcross
    · exact ⟨hmove.liquidity ▸ hlst, by omega⟩
    · exact ⟨hmove.liquidity ▸ hcross.pos, by rw [hcross.price] at hlt; omega⟩
    · omega
    · rw [hcross.price] at hlt
      omega
  | false =>
    refine (clmmLoop_rule (fun st => st.s.val < 2 ^ 97) (fun st => st.s.val < 2 ^ 97)
      (fun st hst _ => hst) ?_ ?_ hpool hwalk)
    all_goals
      rintro st st' - - hstep
      obtain ⟨spent, out, hmove, -⟩ := stepUp_spec hstep
      exact lt_trans (lt_of_le_of_lt hmove.below (sqrtPriceOf_lt_two_pow _)) (by norm_num)

end

end PrivateExecution
