import PrivateExecution.Market.Pool
import PrivateExecution.Simulation.Wide

/-!
# Ticks and square root prices

The two conversions of the concentrated liquidity kernel (`simulation/src/clmm.rs`). A tick is turned
into a square root price by multiplying the table entries of its set bits; a price is turned back by an
approximate logarithm of 14 fractional bits, which leaves at most two ticks to choose from.
-/

namespace PrivateExecution

inductive ClmmSimulationError where
  | invalidPoolState | zeroInputAmount | invalidLiquidity | invalidFee | invalidPrice | invalidTick
  | invalidRange | tickCrossingExceeded | invalidAssetDirection | outputAssetMismatch | chainMismatch
  | zeroEffectiveInput | zeroOutputAmount | arithmeticOverflow | invariantViolated | outputUnreachable
  | staleOrUnavailableState
deriving DecidableEq

def minSqrtPriceX64 : ℕ := 4295048016
def maxSqrtPriceX64 : ℕ := 79226673515401279992447579055

/-! ### From ticks to prices -/

/-- The factors of the bits 1 to 18 of a non-negative tick, with 96 fractional bits. -/
def positiveFactors : List ℕ :=
  [79236085330515764027303304731, 79244008939048815603706035061, 79259858533276714757314932305,
    79291567232598584799939703904, 79355022692464371645785046466, 79482085999252804386437311141,
    79736823300114093921829183326, 80248749790819932309965073892, 81282483887344747381513967011,
    83390072131320151908154831281, 87770609709833776024991924138, 97234110755111693312479820773,
    119332217159966728226237229890, 179736315981702064433883588727, 407748233172238350107850275304,
    2098478828474011932436660412517, 55581415166113811149459800483533,
    389923685446031399322330549999935511]

/-- The factors of the bits 1 to 18 of the absolute value of a negative tick, with 64 fractional
bits. -/
def negativeFactors : List ℕ :=
  [18444899583751176498, 18443055278223354162, 18439367220385604838, 18431993317065449817,
    18417254355718160513, 18387811781193591352, 18329067761203520168, 18212142134806087854,
    17980523815641551639, 17526086738831147013, 16651378430235024244, 15030750278693429944,
    12247334978882834399, 8131365268884726200, 3584323654723342297, 696457651847595233,
    26294789957452057, 37481735321082]

/-- The product of two fixed-point numbers with `k` fractional bits: the bits `k, ..., k + 127` of
the wide product. -/
def mulShift (k n0 n1 : ℕ) : ℕ :=
  (mulU128Wide n0 n1).2 / 2 ^ k + (mulU128Wide n0 n1).1 * 2 ^ (128 - k) % 2 ^ 128

def mulShift96 (n0 n1 : ℕ) : ℕ := mulShift 96 n0 n1

/-- The factors of the set bits of `tick`, from bit `k` on, multiplied into `ratio`. -/
def applyFactors (mul : ℕ → ℕ → ℕ) (tick : ℕ) : ℕ → List ℕ → ℕ → ℕ
  | _, [], ratio => ratio
  | k, factor :: factors, ratio =>
    applyFactors mul tick (k + 1) factors (if tick.testBit k then mul ratio factor else ratio)

def getSqrtPricePositiveTick (tick : ℕ) : ℕ :=
  let ratio := if tick.testBit 0 then 79232123823359799118286999567 else 79228162514264337593543950336
  applyFactors mulShift96 tick 1 positiveFactors ratio / 2 ^ 32

def getSqrtPriceNegativeTick (absTick : ℕ) : ℕ :=
  let ratio := if absTick.testBit 0 then 18445821805675392311 else 18446744073709551616
  applyFactors (mulShift 64) absTick 1 negativeFactors ratio

variable (s : ℕ) (tick : ℤ)

/-- The square root price of a tick, also outside the checked range. -/
def sqrtPriceOf : ℕ :=
  if 0 ≤ tick then getSqrtPricePositiveTick tick.natAbs else getSqrtPriceNegativeTick tick.natAbs

lemma mulShift96_eq {n0 n1 : ℕ} (h0 : n0 < 2 ^ 128) (h1 : n1 < 2 ^ 128) :
    mulShift96 n0 n1 = n0 * n1 / 2 ^ 96 % 2 ^ 128 := by
  rw [mulShift96, mulShift, mulU128Wide_eq h0 h1]
  omega

lemma mulShift64_eq {n0 n1 : ℕ} (h0 : n0 < 2 ^ 128) (h1 : n1 < 2 ^ 128) :
    mulShift 64 n0 n1 = n0 * n1 / 2 ^ 64 % 2 ^ 128 := by
  rw [mulShift, mulU128Wide_eq h0 h1]
  omega

lemma applyFactors_lt {mul : ℕ → ℕ → ℕ} {tick B : ℕ} :
    ∀ {factors : List ℕ} {k ratio : ℕ}, (∀ f ∈ factors, ∀ a < B, mul a f < B) →
      ratio < B → applyFactors mul tick k factors ratio < B
  | [], _, _, _, h => h
  | f :: factors, k, ratio, hmul, h => by
    rw [applyFactors]
    refine applyFactors_lt (fun g hg => hmul g (List.mem_cons_of_mem _ hg)) ?_
    split_ifs
    · exact hmul f List.mem_cons_self _ h
    · exact h

lemma sqrtPriceOf_lt_two_pow : sqrtPriceOf tick < 2 ^ 96 := by
  unfold sqrtPriceOf
  split_ifs
  · refine Nat.div_lt_of_lt_mul (applyFactors_lt (B := 2 ^ 128) ?_ ?_)
    · intro f hf a ha
      rw [mulShift96_eq ha ((by decide : ∀ f ∈ positiveFactors, f < 2 ^ 128) f hf)]
      exact Nat.mod_lt _ (by norm_num)
    · split_ifs <;> norm_num
  · refine lt_trans (applyFactors_lt (B := 2 ^ 64 + 1) ?_ ?_) (by norm_num : 2 ^ 64 + 1 < 2 ^ 96)
    · intro f hf a ha
      have hlt := (by decide : ∀ f ∈ negativeFactors, f < 2 ^ 64) f hf
      have hle : a * f ≤ 2 ^ 64 * 2 ^ 64 := Nat.mul_le_mul (by omega) hlt.le
      rw [mulShift64_eq (by omega) (by omega)]
      omega
    · split_ifs <;> norm_num

lemma sqrtPriceOf_lt : sqrtPriceOf tick < 2 ^ 128 :=
  lt_trans (sqrtPriceOf_lt_two_pow tick) (by norm_num)

def sqrtPriceFromTickIndex : Except ClmmSimulationError U128 := do
  ensure (minTick ≤ tick ∧ tick ≤ maxTick) .invalidTick
  return ⟨sqrtPriceOf tick, sqrtPriceOf_lt tick⟩

/-! ### From prices to ticks -/

/-- The fraction of the binary logarithm of `r / 2 ^ 63`, one bit of weight `bit` at a time. -/
def log2Fraction : ℕ → ℕ → ℕ → ℕ
  | 0, _, _ => 0
  | k + 1, bit, r =>
    let square := r * r % 2 ^ 128
    let isRMoreThanTwo := square / 2 ^ 127
    bit * isRMoreThanTwo + log2Fraction k (bit / 2) (square / 2 ^ (63 + isRMoreThanTwo))

def normalized : ℕ :=
  if 64 ≤ Nat.log2 s then s / 2 ^ (Nat.log2 s - 63) else s * 2 ^ (63 - Nat.log2 s)

/-- The approximate binary logarithm of `s / 2 ^ 64`, with 32 fractional bits. -/
def log2pX32 : ℤ :=
  (Nat.log2 s - 64) * 2 ^ 32 + (log2Fraction 14 (2 ^ 63) (normalized s) / 2 ^ 32 : ℕ)

def wrappingMulI128 (a b : ℤ) : ℤ := (a * b).bmod (2 ^ 128)

/-- A logarithm to the base of one tick, with 64 fractional bits. -/
def logbpX64 : ℤ := wrappingMulI128 (log2pX32 s) 59543866431248

/-- The lower candidate. The cast is that of `as i32`. -/
def tickLow : ℤ := ((logbpX64 s - 184467440737095516) / 2 ^ 64).bmod (2 ^ 32)

def tickHigh : ℤ := ((logbpX64 s + 15793534762490258745) / 2 ^ 64).bmod (2 ^ 32)

def tickCandidate : Except ClmmSimulationError ℤ :=
  if tickLow s = tickHigh s then .ok (tickLow s)
  else do
    let actual ← sqrtPriceFromTickIndex (tickHigh s)
    return if actual.val ≤ s then tickHigh s else tickLow s

def tickIndexFromSqrtPrice : Except ClmmSimulationError ℤ := do
  ensure (minSqrtPriceX64 ≤ s ∧ s ≤ maxSqrtPriceX64) .invalidPrice
  let candidate ← tickCandidate s
  return max minTick (min candidate maxTick)

/-! ### The logarithm is monotone -/

lemma log2Fraction_le : ∀ k bit r : ℕ, log2Fraction k bit r ≤ 2 * bit
  | 0, _, _ => Nat.zero_le _
  | k + 1, bit, r => by
    have hrest := log2Fraction_le k (bit / 2)
      (r * r % 2 ^ 128 / 2 ^ (63 + r * r % 2 ^ 128 / 2 ^ 127))
    have hbit : r * r % 2 ^ 128 / 2 ^ 127 ≤ 1 := by omega
    have hmul := Nat.mul_le_mul_left bit hbit
    rw [log2Fraction]
    omega

lemma square_normalized {r : ℕ} (hlow : 2 ^ 63 ≤ r) (hhigh : r < 2 ^ 64) :
    r * r % 2 ^ 128 = r * r ∧ (r * r / 2 ^ 127 = 0 ∨ r * r / 2 ^ 127 = 1) ∧
      2 ^ 63 ≤ r * r / 2 ^ (63 + r * r / 2 ^ 127) ∧ r * r / 2 ^ (63 + r * r / 2 ^ 127) < 2 ^ 64 := by
  have hmin : 2 ^ 63 * 2 ^ 63 ≤ r * r := Nat.mul_le_mul hlow hlow
  have hmax : r * r < 2 ^ 64 * 2 ^ 64 := Nat.mul_lt_mul'' hhigh hhigh
  have hcases : r * r / 2 ^ 127 = 0 ∨ r * r / 2 ^ 127 = 1 := by omega
  refine ⟨Nat.mod_eq_of_lt (by omega), hcases, ?_⟩
  rcases hcases with h | h <;> rw [h] <;> omega

lemma log2Fraction_mono : ∀ {k bit r r' : ℕ}, 2 ^ 63 ≤ r → r ≤ r' → r' < 2 ^ 64 →
    log2Fraction k bit r ≤ log2Fraction k bit r'
  | 0, _, _, _, _, _, _ => Nat.le_refl _
  | k + 1, bit, r, r', hlow, hle, hhigh => by
    obtain ⟨hmod, hbit, hlow', hhigh'⟩ := square_normalized hlow (by omega)
    obtain ⟨hmod', hbit', hlow'', hhigh''⟩ := square_normalized (hlow.trans hle) hhigh
    have hsquare : r * r ≤ r' * r' := Nat.mul_le_mul hle hle
    simp only [log2Fraction, hmod, hmod']
    rcases hbit with h | h <;> rcases hbit' with h' | h' <;> rw [h] at hlow' hhigh' ⊢ <;>
      rw [h'] at hlow'' hhigh'' ⊢
    · exact Nat.add_le_add_left
        (log2Fraction_mono hlow' (Nat.div_le_div_right hsquare) hhigh'') _
    · have := log2Fraction_le k (bit / 2) (r * r / 2 ^ (63 + 0))
      omega
    · omega
    · exact Nat.add_le_add_left
        (log2Fraction_mono hlow' (Nat.div_le_div_right hsquare) hhigh'') _

lemma normalized_bounds {s : ℕ} (hs : 0 < s) : 2 ^ 63 ≤ normalized s ∧ normalized s < 2 ^ 64 := by
  have hlow : 2 ^ Nat.log2 s ≤ s := Nat.log2_self_le (by omega)
  have hhigh : s < 2 ^ (Nat.log2 s + 1) := Nat.lt_log2_self
  unfold normalized
  split_ifs with h
  · rw [Nat.le_div_iff_mul_le (Nat.two_pow_pos _), Nat.div_lt_iff_lt_mul (Nat.two_pow_pos _), ← pow_add,
      ← pow_add]
    constructor
    · exact (Nat.pow_le_pow_right (by norm_num) (by omega)).trans hlow
    · exact hhigh.trans_le (Nat.pow_le_pow_right (by norm_num) (by omega))
  · constructor
    · calc 2 ^ 63 = 2 ^ Nat.log2 s * 2 ^ (63 - Nat.log2 s) := by
            rw [← pow_add]
            congr 1
            omega
        _ ≤ s * 2 ^ (63 - Nat.log2 s) := Nat.mul_le_mul_right _ hlow
    · calc s * 2 ^ (63 - Nat.log2 s) < 2 ^ (Nat.log2 s + 1) * 2 ^ (63 - Nat.log2 s) := by gcongr
        _ = 2 ^ 64 := by
            rw [← pow_add]
            congr 1
            omega

lemma log2pX32_mono {s s' : ℕ} (hs : 0 < s) (hle : s ≤ s') : log2pX32 s ≤ log2pX32 s' := by
  have hs' : 0 < s' := hs.trans_le hle
  have hlog : Nat.log2 s ≤ Nat.log2 s' := (Nat.le_log2 hs'.ne').2 ((Nat.log2_self_le hs.ne').trans hle)
  unfold log2pX32
  rcases hlog.lt_or_eq with hlt | heq
  · have := log2Fraction_le 14 (2 ^ 63) (normalized s)
    omega
  · have hnorm : normalized s ≤ normalized s' := by
      unfold normalized
      rw [heq]
      split_ifs
      · exact Nat.div_le_div_right hle
      · exact Nat.mul_le_mul_right _ hle
    have hfraction : log2Fraction 14 (2 ^ 63) (normalized s) ≤ log2Fraction 14 (2 ^ 63) (normalized s') :=
      log2Fraction_mono (normalized_bounds hs).1 hnorm (normalized_bounds hs').2
    rw [heq]
    omega

/-! ### The candidates -/

section

variable {s s' : ℕ}

def ValidPrice (s : ℕ) : Prop := minSqrtPriceX64 ≤ s ∧ s ≤ maxSqrtPriceX64

section

variable (h : ValidPrice s)

include h

lemma log2pX32_bounds : -(2 ^ 37) ≤ log2pX32 s ∧ log2pX32 s ≤ 2 ^ 38 := by
  have hlow : 32 ≤ Nat.log2 s := (Nat.le_log2 (by have := h.1; unfold minSqrtPriceX64 at this; omega)).2
    (by have := h.1; unfold minSqrtPriceX64 at this; omega)
  have hhigh : Nat.log2 s < 97 := (Nat.log2_lt (by have := h.1; unfold minSqrtPriceX64 at this; omega)).2
    (by have := h.2; unfold maxSqrtPriceX64 at this; omega)
  have := log2Fraction_le 14 (2 ^ 63) (normalized s)
  unfold log2pX32
  omega

lemma candidates_eq :
    tickLow s = (log2pX32 s * 59543866431248 - 184467440737095516) / 2 ^ 64 ∧
      tickHigh s = (log2pX32 s * 59543866431248 + 15793534762490258745) / 2 ^ 64 := by
  obtain ⟨hlow, hhigh⟩ := log2pX32_bounds h
  have hmul : logbpX64 s = log2pX32 s * 59543866431248 :=
    Int.bmod_eq_of_le (by norm_num; omega) (by norm_num; omega)
  unfold tickLow tickHigh
  rw [hmul]
  exact ⟨Int.bmod_eq_of_le (by norm_num; omega) (by norm_num; omega),
    Int.bmod_eq_of_le (by norm_num; omega) (by norm_num; omega)⟩

lemma tickLow_mono (h' : ValidPrice s') (hle : s ≤ s') : tickLow s ≤ tickLow s' := by
  have := log2pX32_mono (by have := h.1; unfold minSqrtPriceX64 at this; omega) hle
  rw [(candidates_eq h).1, (candidates_eq h').1]
  omega

lemma tickHigh_mono (h' : ValidPrice s') (hle : s ≤ s') : tickHigh s ≤ tickHigh s' := by
  have := log2pX32_mono (by have := h.1; unfold minSqrtPriceX64 at this; omega) hle
  rw [(candidates_eq h).2, (candidates_eq h').2]
  omega

lemma tickHigh_le : tickHigh s ≤ tickLow s + 1 := by
  rw [(candidates_eq h).1, (candidates_eq h).2]
  omega

lemma tickLow_le : tickLow s ≤ tickHigh s := by
  rw [(candidates_eq h).1, (candidates_eq h).2]
  omega

end

lemma candidate_inv {t : ℤ} (h : tickCandidate s = .ok t) :
    (t = tickLow s ∧ (tickLow s = tickHigh s ∨ s < sqrtPriceOf (tickHigh s))) ∨
      (t = tickHigh s ∧ (tickLow s = tickHigh s ∨ sqrtPriceOf (tickHigh s) ≤ s)) := by
  unfold tickCandidate at h
  split_ifs at h with heq
  · cases h
    exact .inl ⟨rfl, .inl heq⟩
  · obtain ⟨actual, hactual, h⟩ := bind_ok.1 h
    obtain ⟨-, hactual⟩ := ensure_ok.1 hactual
    cases hactual
    cases h
    split_ifs with hle
    · exact .inr ⟨rfl, .inr hle⟩
    · exact .inl ⟨rfl, .inr (not_le.1 hle)⟩

lemma tickIndexFromSqrtPrice_mono {t t' : ℤ} (hle : s ≤ s') (h : tickIndexFromSqrtPrice s = .ok t)
    (h' : tickIndexFromSqrtPrice s' = .ok t') : t ≤ t' := by
  obtain ⟨hvalid, h⟩ := ensure_ok.1 h
  obtain ⟨hvalid', h'⟩ := ensure_ok.1 h'
  obtain ⟨c, hc, h⟩ := bind_ok.1 h
  obtain ⟨c', hc', h'⟩ := bind_ok.1 h'
  have hlow := tickLow_mono hvalid hvalid' hle
  have hhigh := tickHigh_mono hvalid hvalid' hle
  have hgap := tickHigh_le hvalid
  have hgap' := tickHigh_le hvalid'
  have hcc : c ≤ c' := by
    rcases candidate_inv hc with ⟨rfl, -⟩ | ⟨rfl, hpick⟩ <;>
      rcases candidate_inv hc' with ⟨rfl, hpick'⟩ | ⟨rfl, -⟩
    · exact hlow
    · exact hlow.trans (tickLow_le hvalid')
    · -- The upper candidate of `s` against the lower one of `s'`: when they differ by one, both
      -- were chosen by comparing with the price of the same tick.
      by_contra hgt
      have heq : tickHigh s = tickHigh s' := by omega
      rw [heq] at hpick
      rcases hpick with hpick | hpick
      · omega
      · rcases hpick' with hpick' | hpick'
        · omega
        · omega
    · exact hhigh
  cases h
  cases h'
  exact max_le_max_left _ (min_le_min_right _ hcc)

end

end PrivateExecution
