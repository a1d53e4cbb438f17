import PrivateExecution.FixedPoint.Limbs
import PrivateExecution.Simulation.Bin
import PrivateExecution.Simulation.ClmmWalk
import Mathlib.Algebra.Order.BigOperators.Ring.Finset

/-!
# Price impact

How far a hop moves the price of its pool, in whole basis points (`routing/src/impact.rs` and the
predicates of `routing/src/depth.rs`).
-/

namespace PrivateExecution.Routing

open FixedPoint

def relativeMove (before after : ℚ) : ℚ := |after - before| / before

@[simp] lemma relativeMove_self (x : ℚ) : relativeMove x x = 0 := by simp [relativeMove]

lemma relativeMove_le_of_fall {before after t : ℚ} (hb : 0 < before) (hle : after ≤ before) :
    relativeMove before after ≤ t / 10000 ↔ (10000 - t) * before ≤ 10000 * after := by
  rw [relativeMove, abs_of_nonpos (by linarith), div_le_div_iff₀ hb (by norm_num)]
  constructor <;> intro h <;> linarith

lemma relativeMove_le_of_rise {before after t : ℚ} (hb : 0 < before) (hle : before ≤ after) :
    relativeMove before after ≤ t / 10000 ↔ 10000 * after ≤ (10000 + t) * before := by
  rw [relativeMove, abs_of_nonneg (by linarith), div_le_div_iff₀ hb (by norm_num)]
  constructor <;> intro h <;> linarith

lemma relativeMove_mono {x y z : ℚ} (hx : 0 < x) (h : z ≤ y ∧ y ≤ x ∨ x ≤ y ∧ y ≤ z) :
    relativeMove x y ≤ relativeMove x z := by
  refine div_le_div_of_nonneg_right ?_ hx.le
  rcases h with ⟨hzy, hyx⟩ | ⟨hxy, hyz⟩
  · rw [abs_of_nonpos (by linarith), abs_of_nonpos (by linarith)]
    linarith
  · rw [abs_of_nonneg (by linarith), abs_of_nonneg (by linarith)]
    linarith

/-! ### Constant product -/

def cpmmImpactBps (effectiveInput resultingReserveIn amountIn : U128) : Option Bps := do
  let reserveIn ← resultingReserveIn.checkedSub amountIn
  let denominator ← reserveIn.checkedAdd effectiveInput
  if denominator.val = 0 ∨ effectiveInput.val = 0 then none
  else do
    let value ← mulDivFloor (.lit 10000) effectiveInput denominator
    -- `u16::try_from` and `Bps::new`.
    Bps.new value.val

lemma cpmmImpactBps_spec {effectiveInput resultingReserveIn amountIn reserveIn : U128} {b : Bps}
    (hres : resultingReserveIn.val = reserveIn.val + amountIn.val)
    (h : cpmmImpactBps effectiveInput resultingReserveIn amountIn = some b) :
    b.get = 10000 * effectiveInput.val / (reserveIn.val + effectiveInput.val) ∧ 0 < effectiveInput.val := by
  simp only [cpmmImpactBps, Option.bind_eq_bind, Option.bind_eq_some_iff,
    Unsigned.checkedSub_eq_some, Unsigned.checkedAdd_eq_some] at h
  obtain ⟨r, ⟨-, hr⟩, d, hd, h⟩ := h
  split_ifs at h with hzero
  obtain ⟨v, hv, h⟩ := Option.bind_eq_some_iff.1 h
  push Not at hzero
  rw [mulDivFloor_eq_some] at hv
  refine ⟨?_, Nat.pos_of_ne_zero hzero.2⟩
  rw [Bps.new_eq_some.1 h, hv.2, hd, hr, hres, Nat.add_sub_cancel, Unsigned.lit_val (by decide)]

def largerImpact (largest : Option Bps) (impact : Bps) : Bps :=
  match largest with
  | some current => if impact ≤ current then current else impact
  | none => impact

def combineFrom : Option Bps → List (Option Bps) → Option Bps
  | largest, [] => largest
  | _, none :: _ => none
  | largest, some impact :: rest => combineFrom (some (largerImpact largest impact)) rest

def combineImpacts (impacts : List (Option Bps)) : Option Bps := combineFrom none impacts

lemma le_largerImpact (largest : Option Bps) (impact : Bps) :
    impact ≤ largerImpact largest impact ∧ ∀ l ∈ largest, l ≤ largerImpact largest impact := by
  unfold largerImpact
  cases largest with
  | none => exact ⟨le_refl impact.get, nofun⟩
  | some current =>
    simp only [Option.mem_some_iff, forall_eq']
    split_ifs with h
    · exact ⟨h, le_refl current.get⟩
    · exact ⟨le_refl impact.get, le_of_lt (not_le.1 h : current.get < impact.get)⟩

lemma combineFrom_le {b : Bps} : ∀ {impacts : List (Option Bps)} {largest : Option Bps},
    combineFrom largest impacts = some b →
      (∀ l ∈ largest, l ≤ b) ∧ ∀ impact ∈ impacts, ∃ i, impact = some i ∧ i ≤ b
  | [], largest, h => by
    rw [combineFrom] at h
    refine ⟨fun l hl => ?_, by simp⟩
    rw [h, Option.mem_some_iff] at hl
    exact hl ▸ le_refl b.get
  | none :: _, largest, h => nomatch h
  | some impact :: rest, largest, h => by
    rw [combineFrom] at h
    obtain ⟨hgrow, hrest⟩ := combineFrom_le h
    obtain ⟨himpact, hlargest⟩ := le_largerImpact largest impact
    have hle := hgrow _ rfl
    simp only [List.mem_cons, forall_eq_or_imp]
    exact ⟨fun l hl => Nat.le_trans (hlargest l hl) hle, ⟨impact, rfl, Nat.le_trans himpact hle⟩,
      hrest⟩

/-! ### The smallest band -/

/-- The bisection of both impact functions. -/
def smallestBand (within : ℕ → Bool) (lo hi : ℕ) : ℕ :=
  if lo < hi then
    let mid := lo + (hi - lo) / 2
    if within mid then smallestBand within lo mid else smallestBand within (mid + 1) hi
  else lo
termination_by hi - lo

/-- The smallest band that contains a move, `None` when even the widest does not. -/
def ceilingBps (within : ℕ → Bool) : Option Bps :=
  if within 10000 then Bps.new (smallestBand within 0 10000) else none

lemma within_smallestBand {within : ℕ → Bool} {lo hi : ℕ} (hle : lo ≤ hi) (h : within hi = true) :
    within (smallestBand within lo hi) = true := by
  induction lo, hi using smallestBand.induct within with
  | case1 lo hi hlt mid hmid ih =>
    rw [smallestBand, if_pos hlt]
    dsimp only
    rw [if_pos hmid]
    exact ih (by omega) hmid
  | case2 lo hi hlt mid hmid ih =>
    rw [smallestBand, if_pos hlt]
    dsimp only
    rw [if_neg hmid]
    exact ih (by omega) h
  | case3 lo hi hlt =>
    rw [smallestBand, if_neg hlt, show lo = hi by omega]
    exact h

lemma ceilingBps_within {within : ℕ → Bool} {b : Bps} (h : ceilingBps within = some b) :
    within b.get = true := by
  unfold ceilingBps at h
  split_ifs at h with hmax
  rw [Bps.new_eq_some.1 h]
  exact within_smallestBand (Nat.zero_le _) hmax

/-! ### Concentrated liquidity -/

variable (binStep : ℕ) (poolSqrt resultingSqrt : U128)

/-- Whether the move from the price of the square root `poolSqrt` to that of `resultingSqrt` is at
most `targetBps` basis points. -/
def clmmWithin (targetBps : ℕ) : Bool :=
  if resultingSqrt = poolSqrt then true
  else if resultingSqrt < poolSqrt then
    cmpU128Products ((10000 - targetBps) * poolSqrt.val) poolSqrt.val (10000 * resultingSqrt.val)
      resultingSqrt.val ≠ .gt
  else
    cmpU128Products (10000 * resultingSqrt.val) resultingSqrt.val ((10000 + targetBps) * poolSqrt.val)
      poolSqrt.val ≠ .gt

def clmmImpactBps : Option Bps :=
  if poolSqrt.val = 0 ∨ resultingSqrt.val = 0 then none else ceilingBps (clmmWithin poolSqrt resultingSqrt)

lemma clmmWithin_iff {s r : U128} {t : ℕ} (hpos : 0 < s.val) (hs : s.val < 2 ^ 97)
    (hr : r.val < 2 ^ 97) (ht : t ≤ 10000) :
    clmmWithin s r t = true ↔ relativeMove (s.val ^ 2) (r.val ^ 2) ≤ t / 10000 := by
  have hsq : (0 : ℚ) < s.val ^ 2 := by positivity
  have hle10 : ∀ {n x : ℕ}, n ≤ 20000 → x < 2 ^ 97 → n * x < 2 ^ 128 := fun hn hx =>
    lt_of_le_of_lt (Nat.mul_le_mul hn hx.le) (by norm_num)
  unfold clmmWithin
  split_ifs with heq hlt
  · rw [heq, relativeMove_self]
    exact iff_of_true rfl (by positivity)
  · have hle : (r.val : ℚ) ^ 2 ≤ s.val ^ 2 := by
      exact_mod_cast Nat.pow_le_pow_left (le_of_lt hlt) 2
    rw [relativeMove_le_of_fall hsq hle, decide_eq_true_eq,
      cmpU128Products_eq (hle10 (by omega) hs) s.lt (hle10 (by omega) hr) r.lt, Ne,
      Nat.compare_eq_gt, not_lt, ← Nat.cast_le (α := ℚ)]
    push_cast [Nat.cast_sub ht]
    rw [pow_two, pow_two, ← mul_assoc, ← mul_assoc]
  · have hle : (s.val : ℚ) ^ 2 ≤ r.val ^ 2 := by
      exact_mod_cast Nat.pow_le_pow_left (not_lt.1 hlt) 2
    rw [relativeMove_le_of_rise hsq hle, decide_eq_true_eq,
      cmpU128Products_eq (hle10 (by omega) hr) r.lt (hle10 (by omega) hs) s.lt, Ne,
      Nat.compare_eq_gt, not_lt, ← Nat.cast_le (α := ℚ)]
    push_cast
    rw [pow_two, pow_two, ← mul_assoc, ← mul_assoc]

lemma clmmImpactBps_sound {s r : U128} {b : Bps} (hs : s.val < 2 ^ 97) (hr : r.val < 2 ^ 97)
    (h : clmmImpactBps s r = some b) : relativeMove (s.val ^ 2) (r.val ^ 2) ≤ b.get / 10000 := by
  unfold clmmImpactBps at h
  split_ifs at h with hzero
  push Not at hzero
  exact (clmmWithin_iff (Nat.pos_of_ne_zero hzero.1) hs hr b.le).1 (ceilingBps_within h)

/-! ### Bins -/

/-- A 256-bit number times a small factor, in three limbs, highest first. -/
def scaleU256 (value : ℕ × ℕ) (scalar : ℕ) : ℕ × ℕ × ℕ :=
  let (lowCarry, low) := mulU128Wide value.2 scalar
  let (highCarry, high) := mulU128Wide value.1 scalar
  let mid := (high + lowCarry) % 2 ^ 128
  let carry := if 2 ^ 128 ≤ high + lowCarry then 1 else 0
  ((highCarry + carry) % 2 ^ 128, mid, low)

def cmpScaledU256 (a : ℕ × ℕ) (scaleA : ℕ) (b : ℕ × ℕ) (scaleB : ℕ) : Ordering :=
  let (aTop, aMid, aLow) := scaleU256 a scaleA
  let (bTop, bMid, bLow) := scaleU256 b scaleB
  (compare aTop bTop).then ((compare aMid bMid).then (compare aLow bLow))

/-- Whether `after / before` is within `targetBps` of one. -/
def binPriceWithin (before after : U128 × U128) (rose : Bool) (targetBps : ℕ) : Bool :=
  let numerator := mulU128Wide after.1.val before.2.val
  let denominator := mulU128Wide after.2.val before.1.val
  if rose then cmpScaledU256 numerator 10000 denominator (10000 + targetBps) ≠ .gt
  else cmpScaledU256 numerator 10000 denominator (10000 - targetBps) ≠ .lt

def maxInBandExponent : ℕ := 92108

def binBase : ℕ × ℕ :=
  let divisor := gcdU128 (10000 + binStep) 10000
  ((10000 + binStep) / divisor, 10000 / divisor)

def powBig (base exponent : ℕ) : List ℕ := powLimbs (2 ^ 64) base exponent

def mulBigSmall (value : List ℕ) (factor : ℕ) : List ℕ := mulSmall (2 ^ 64) value factor

/-- Compares `lhsScale * baseNum ^ exponent` with `rhsScale * baseDen ^ exponent`. -/
def binPowCmp (baseNum baseDen exponent lhsScale rhsScale : ℕ) : Ordering :=
  cmpLimbs (mulBigSmall (powBig baseNum exponent) lhsScale) (mulBigSmall (powBig baseDen exponent) rhsScale)

/-- The fallback for a bin whose own price is not representable. -/
def binExponentWithin (activeBinId resultingBinId : ℤ) (targetBps : ℕ) : Bool :=
  let diff := resultingBinId - activeBinId
  let (baseNum, baseDen) := binBase binStep
  let exponent := diff.natAbs
  if diff = 0 then true
  else if 0 < diff then
    if targetBps < exponent * binStep ∨ maxInBandExponent < exponent then false
    else binPowCmp baseNum baseDen exponent 10000 (10000 + targetBps) ≠ .gt
  else if 10000 ≤ targetBps then true
  else if 10000 * targetBps < exponent * binStep * (10000 - targetBps) ∨ maxInBandExponent < exponent then
    false
  else binPowCmp baseNum baseDen exponent (10000 - targetBps) 10000 ≠ .gt

def binWithin (decimals0 decimals1 : U8) (activeBinId resultingBinId : ℤ) (targetBps : ℕ) : Bool :=
  if resultingBinId = activeBinId then true
  else
    match atomicBinPrice binStep decimals0 decimals1 activeBinId,
      atomicBinPrice binStep decimals0 decimals1 resultingBinId with
    | .ok before, .ok after => binPriceWithin before after (activeBinId < resultingBinId) targetBps
    | _, _ => binExponentWithin binStep activeBinId resultingBinId targetBps

def binImpactBps (decimals0 decimals1 : U8) (activeBinId resultingBinId : ℤ) : Option Bps :=
  ceilingBps (binWithin binStep decimals0 decimals1 activeBinId resultingBinId)

lemma cmpScaledU256_eq {a b c d x y : ℕ} (ha : a < 2 ^ 128) (hb : b < 2 ^ 128) (hc : c < 2 ^ 128)
    (hd : d < 2 ^ 128) (hx : x < 2 ^ 64) (hy : y < 2 ^ 64) :
    cmpScaledU256 (mulU128Wide a b) x (mulU128Wide c d) y = compare (a * b * x) (c * d * y) := by
  -- The three limbs of a scaled product are its digits in base `2 ^ 128`.
  have hlimbs : ∀ {p q z : ℕ}, p < 2 ^ 128 → q < 2 ^ 128 → z < 2 ^ 64 →
      scaleU256 (mulU128Wide p q) z = (p * q * z / 2 ^ 256, p * q * z / 2 ^ 128 % 2 ^ 128,
        p * q * z % 2 ^ 128) := by
    intro p q z hp hq hz
    have hpq : p * q < 2 ^ 256 := lt_of_lt_of_le (Nat.mul_lt_mul'' hp hq) (by norm_num)
    have hlo : p * q % 2 ^ 128 < 2 ^ 128 := Nat.mod_lt _ (by norm_num)
    have hhi : p * q / 2 ^ 128 < 2 ^ 128 := Nat.div_lt_of_lt_mul (by omega)
    have hz' : z < 2 ^ 128 := by omega
    have hdigits := Nat.div_add_mod (p * q) (2 ^ 128)
    unfold scaleU256
    rw [mulU128Wide_eq hp hq]
    dsimp only
    rw [mulU128Wide_eq hlo hz', mulU128Wide_eq hhi hz']
    dsimp only
    have hlz : p * q % 2 ^ 128 * z ≤ 2 ^ 128 * 2 ^ 64 := Nat.mul_le_mul hlo.le hz.le
    have hhz : p * q / 2 ^ 128 * z ≤ 2 ^ 128 * 2 ^ 64 := Nat.mul_le_mul hhi.le hz.le
    have hsum : p * q * z = 2 ^ 128 * (p * q / 2 ^ 128 * z) + p * q % 2 ^ 128 * z := by
      conv_lhs => rw [← hdigits, Nat.add_mul, Nat.mul_assoc]
    rw [hsum]
    generalize p * q % 2 ^ 128 * z = u at *
    generalize p * q / 2 ^ 128 * z = v at *
    clear hsum hdigits hhi hlo hpq hz' hz hp hq
    refine Prod.ext ?_ (Prod.ext ?_ ?_)
    · dsimp only
      split_ifs <;> omega
    · dsimp only
      omega
    · dsimp only
      omega
  unfold cmpScaledU256
  rw [hlimbs ha hb hx, hlimbs hc hd hy]
  dsimp only
  generalize a * b * x = u
  generalize c * d * y = v
  have hm : ∀ w : ℕ, w / 2 ^ 128 % 2 ^ 128 < 2 ^ 128 := fun w => Nat.mod_lt _ (by norm_num)
  have hl : ∀ w : ℕ, w % 2 ^ 128 < 2 ^ 128 := fun w => Nat.mod_lt _ (by norm_num)
  rw [← Ordering.then_assoc, ← compare_limb (hm u) (hm v), ← compare_limb (hl u) (hl v)]
  congr 1 <;> omega

lemma isFraction_binBase : IsFraction (binBase binStep) ((10000 + binStep : ℚ) / 10000) := by
  have h : IsFraction (10000 + binStep, 10000) ((10000 + binStep : ℚ) / 10000) :=
    ⟨by norm_num, by push_cast; rfl⟩
  have := isFraction_reduce h
  rwa [reduceFraction_eq (by norm_num), ← gcdU128_eq] at this

lemma binPowCmp_eq {num den x y : ℕ} (e : ℕ) (hnum : num < 2 ^ 64) (hden : den < 2 ^ 64)
    (hx : x < 2 ^ 64) (hy : y < 2 ^ 64) : binPowCmp num den e x y = compare (num ^ e * x) (den ^ e * y) := by
  have hB : (1 : ℕ) < 2 ^ 64 := by norm_num
  have hpow := fun base => (canonical_powLimbs hB e : Canonical _ (powLimbs _ base e))
  rw [binPowCmp, mulBigSmall, mulBigSmall, powBig, powBig,
    cmpLimbs_eq hB (canonical_mulSmall (by norm_num) (hpow num)) (canonical_mulSmall (by norm_num) (hpow den)),
    ofDigits_mulSmall hx (hpow num), ofDigits_mulSmall hy (hpow den), ofDigits_powLimbs hB hnum,
    ofDigits_powLimbs hB hden]

lemma binBase_lt {binStep : ℕ} (h : binStep < 2 ^ 16) :
    (binBase binStep).1 < 2 ^ 64 ∧ (binBase binStep).2 < 2 ^ 64 :=
  ⟨lt_of_le_of_lt (Nat.div_le_self _ _) (by omega), lt_of_le_of_lt (Nat.div_le_self _ _) (by norm_num)⟩

section

variable {binStep t : ℕ} {a r : ℤ}

lemma binPrice_natCast (e : ℕ) :
    IsFraction ((binBase binStep).1 ^ e, (binBase binStep).2 ^ e) (binPrice binStep e) := by
  have := (isFraction_binBase binStep).pow e
  rwa [← zpow_natCast] at this

lemma pow_mul_le_iff (e x y : ℕ) :
    (binBase binStep).1 ^ e * x ≤ (binBase binStep).2 ^ e * y ↔ x * binPrice binStep e ≤ y := by
  obtain ⟨hdne, hfrac⟩ := @binPrice_natCast binStep e
  dsimp only at hdne hfrac
  have hdpos : (0 : ℚ) < ((binBase binStep).2 ^ e : ℕ) := by exact_mod_cast Nat.pos_of_ne_zero hdne
  rw [div_eq_iff hdpos.ne'] at hfrac
  rw [← Nat.cast_le (α := ℚ), Nat.cast_mul, Nat.cast_mul, hfrac, mul_comm _ (y : ℚ), mul_right_comm,
    mul_comm _ (x : ℚ)]
  exact mul_le_mul_iff_of_pos_right hdpos

lemma rise_within_iff (e : ℕ) : relativeMove (binPrice binStep a) (binPrice binStep (a + e)) ≤ t / 10000 ↔
      10000 * binPrice binStep e ≤ 10000 + t := by
  have hpos := binPrice_pos binStep a
  rw [relativeMove_le_of_rise hpos (binPrice_mono (by omega)), binPrice_add, mul_left_comm,
    mul_comm (10000 + (t : ℚ)), mul_le_mul_iff_right₀ hpos]

lemma fall_within_iff (e : ℕ) : relativeMove (binPrice binStep (r + e)) (binPrice binStep r) ≤ t / 10000 ↔
      (10000 - t) * binPrice binStep e ≤ 10000 := by
  have hpos := binPrice_pos binStep r
  rw [relativeMove_le_of_fall (binPrice_pos _ _) (binPrice_mono (by omega)), binPrice_add, mul_left_comm,
    mul_comm 10000, mul_le_mul_iff_right₀ hpos]

lemma binExponentWithin_sound (hstep : binStep < 2 ^ 16) (ht : t ≤ 10000)
    (h : binExponentWithin binStep a r t = true) :
    relativeMove (binPrice binStep a) (binPrice binStep r) ≤ t / 10000 := by
  obtain ⟨hnum, hden⟩ := binBase_lt hstep
  unfold binExponentWithin at h
  dsimp only at h
  split_ifs at h with heq hrise hout hmax hout
  · rw [show r = a by omega, relativeMove_self]
    positivity
  · rw [decide_eq_true_eq, binPowCmp_eq _ hnum hden (by norm_num) (by omega), Ne, Nat.compare_eq_gt,
      not_lt] at h
    rw [pow_mul_le_iff, Nat.cast_add, Nat.cast_ofNat] at h
    have := (rise_within_iff (a := a) _).2 h
    rwa [show a + ((r - a).natAbs : ℤ) = r by omega] at this
  · -- The widest band of a fall contains every price.
    rw [relativeMove_le_of_fall (binPrice_pos _ _) (binPrice_mono (by omega)),
      show (t : ℚ) = 10000 by exact_mod_cast (by omega : t = 10000)]
    linarith [binPrice_pos binStep r]
  · rw [decide_eq_true_eq, binPowCmp_eq _ hnum hden (by omega) (by norm_num), Ne, Nat.compare_eq_gt,
      not_lt] at h
    rw [pow_mul_le_iff, Nat.cast_sub ht, Nat.cast_ofNat] at h
    have := (fall_within_iff (r := r) _).2 h
    rwa [show r + ((r - a).natAbs : ℤ) = a by omega] at this

variable {decimals0 decimals1 : U8}

lemma binPriceWithin_iff {before after : U128 × U128}
    (hbefore : atomicBinPrice binStep decimals0 decimals1 a = .ok before)
    (hafter : atomicBinPrice binStep decimals0 decimals1 r = .ok after) (ht : t ≤ 10000) :
    binPriceWithin before after (a < r) t = true ↔
      relativeMove (binPrice binStep a) (binPrice binStep r) ≤ t / 10000 := by
  obtain ⟨n0, d0⟩ := before
  obtain ⟨n1, d1⟩ := after
  obtain ⟨hn0, hd0, h0⟩ := atomicBinPrice_spec hbefore
  obtain ⟨hn1, hd1, h1⟩ := atomicBinPrice_spec hafter
  have hd0' : (0 : ℚ) < d0.val := by exact_mod_cast hd0
  have hd1' : (0 : ℚ) < d1.val := by exact_mod_cast hd1
  have hscale : (0 : ℚ) < 10 ^ ((decimals1.val : ℤ) - decimals0.val) := by positivity
  rw [div_eq_iff hd0'.ne'] at h0
  rw [div_eq_iff hd1'.ne'] at h1
  have hpos := binPrice_pos binStep a
  -- What both sides of a comparison have in common.
  have hcommon : (0 : ℚ) < 10 ^ ((decimals1.val : ℤ) - decimals0.val) * d0.val * d1.val := by positivity
  unfold binPriceWithin
  dsimp only
  split_ifs with hrise <;> rw [decide_eq_true_eq] at hrise
  · rw [decide_eq_true_eq, cmpScaledU256_eq n1.lt d0.lt d1.lt n0.lt (by norm_num) (by omega), Ne,
      Nat.compare_eq_gt, not_lt, ← Nat.cast_le (α := ℚ),
      relativeMove_le_of_rise hpos (binPrice_mono hrise.le)]
    push_cast [h0, h1]
    rw [← mul_le_mul_iff_of_pos_right hcommon (b := 10000 * binPrice binStep r)]
    constructor <;> intro h <;> linarith
  · rw [decide_eq_true_eq, cmpScaledU256_eq n1.lt d0.lt d1.lt n0.lt (by norm_num) (by omega), Ne,
      Nat.compare_eq_lt, not_lt, ← Nat.cast_le (α := ℚ),
      relativeMove_le_of_fall hpos (binPrice_mono (by omega))]
    push_cast [h0, h1, Nat.cast_sub ht]
    rw [← mul_le_mul_iff_of_pos_right hcommon (b := (10000 - t) * binPrice binStep a)]
    constructor <;> intro h <;> linarith

lemma binWithin_sound (hstep : binStep < 2 ^ 16) (ht : t ≤ 10000)
    (h : binWithin binStep decimals0 decimals1 a r t = true) :
    relativeMove (binPrice binStep a) (binPrice binStep r) ≤ t / 10000 := by
  unfold binWithin at h
  split_ifs at h with heq
  · rw [heq, relativeMove_self]
    positivity
  · split at h
    · rename_i before after hbefore hafter
      exact (binPriceWithin_iff hbefore hafter ht).1 h
    · exact binExponentWithin_sound hstep ht h

lemma binImpactBps_sound {b : Bps} (hstep : binStep < 2 ^ 16)
    (h : binImpactBps binStep decimals0 decimals1 a r = some b) :
    relativeMove (binPrice binStep a) (binPrice binStep r) ≤ b.get / 10000 :=
  binWithin_sound hstep b.le (ceilingBps_within h)

end

end PrivateExecution.Routing
