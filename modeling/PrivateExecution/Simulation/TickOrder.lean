import PrivateExecution.Simulation.TickInverse

/-!
# Tick prices over the whole admitted domain

Ticks from -887272 to 887272 are admitted, and their prices should grow with them. They do from tick
-524287 to tick 397582 and not beyond (`sqrtPrice_strictMono_iff`): the table ends at bit 18, so tick
-524288 gets the price of tick 0, and the entry of bit 18 for non-negative ticks, ten times too large,
makes the product leave the 128-bit word at tick 397583.
-/

namespace PrivateExecution

open Real

/-! ### Where the bits 0 to 17 decide -/

lemma log_sqrtPriceOf_coarse {t : ℤ} (hlow : -2 ^ 19 < t) (hhigh : t < 2 ^ 18) :
    0 < sqrtPriceOf t ∧ |log (sqrtPriceOf t) - (64 * log 2 + tickLog * t)| ≤ 1 / 10 ^ 6 := by
  by_cases hsound : -443636 ≤ t
  · obtain ⟨hpos, hlog⟩ := log_sqrtPriceOf (t := t) ⟨hsound, by omega⟩
    exact ⟨hpos, hlog.trans (by norm_num [priceError])⟩
  · obtain ⟨n, rfl⟩ := Int.exists_eq_neg_ofNat (by omega : t ≤ 0)
    have hn : (n : ℝ) ≤ 524287 := by exact_mod_cast (by omega : n ≤ 524287)
    have hb := tickLog_bounds
    have hlog2 := log_two_gt_d9
    obtain ⟨hpos, hlog⟩ := log_negativeTick_within (n := n) (k := 26) (by omega) (by norm_num)
      (by push_cast; nlinarith)
    rw [sqrtPriceOf, if_neg (by omega), Int.natAbs_neg, Int.natAbs_natCast, Int.cast_neg,
      Int.cast_natCast, mul_neg, ← sub_eq_add_neg]
    exact ⟨hpos, hlog.trans (by norm_num)⟩

lemma sqrtPriceOf_lt_coarse {t t' : ℤ} (hlow : -2 ^ 19 < t) (hlt : t < t') (hhigh : t' < 2 ^ 18) :
    sqrtPriceOf t * (1 + 4 / 10 ^ 5 : ℝ) < sqrtPriceOf t' := by
  obtain ⟨hpos, hlog⟩ := log_sqrtPriceOf_coarse hlow (hlt.trans hhigh)
  obtain ⟨hpos', hlog'⟩ := log_sqrtPriceOf_coarse (hlow.trans hlt) hhigh
  rw [abs_le] at hlog hlog'
  have hstep : (t : ℝ) + 1 ≤ t' := by exact_mod_cast hlt
  have hb := tickLog_bounds.1
  have hmul : tickLog * (t + 1) ≤ tickLog * t' := mul_le_mul_of_nonneg_left hstep (by linarith)
  have hpos0 : (0 : ℝ) < sqrtPriceOf t := by exact_mod_cast hpos
  rw [← log_lt_log_iff (by positivity) (by exact_mod_cast hpos'), log_mul hpos0.ne' (by norm_num)]
  have hfactor := log_le_sub_one_of_pos (by norm_num : (0 : ℝ) < 1 + 4 / 10 ^ 5)
  linarith

/-! ### Ticks with bit 18 -/

lemma applyFactors_concat_add {mul : ℕ → ℕ → ℕ} {n c : ℕ} :
    ∀ {cs : List ℕ} {k a : ℕ}, n < 2 ^ (k + cs.length) →
      applyFactors mul (2 ^ (k + cs.length) + n) k (cs ++ [c]) a = mul (applyFactors mul n k cs a) c
  | [], k, a, hlt => by
    have hbit : (2 ^ k + n).testBit k = true := by
      simp [Nat.testBit_two_pow_add_eq, Nat.testBit_lt_two_pow (i := k) hlt]
    simp [applyFactors, hbit]
  | d :: cs, k, a, hlt => by
    have hbit : (2 ^ (k + (d :: cs).length) + n).testBit k = n.testBit k :=
      Nat.testBit_two_pow_add_gt (by simp) n
    rw [List.cons_append, applyFactors, hbit, applyFactors]
    rw [show k + (d :: cs).length = k + 1 + cs.length by rw [List.length_cons]; omega] at hlt ⊢
    exact applyFactors_concat_add hlt

/-- The product of the entries of the bits 0 to 17, before it is shifted. -/
def lowProduct (n : ℕ) : ℕ := applyFactors mulShift96 n 0 positiveTable (2 ^ 96)

lemma defects_evaluated : sqrtPriceOf 397583 < sqrtPriceOf 397582 ∧
    sqrtPriceOf (-524287) < sqrtPriceOf (-524288) ∧ sqrtPriceOf 262143 < sqrtPriceOf 262144 ∧
    10 ^ 6 ≤ sqrtPriceOf (-1) ∧
    lowProduct 135438 * 389923685446031399322330549999935511 < 2 ^ 224 := by decide +kernel

lemma positiveTick_bit18 {n : ℕ} (h : n < 2 ^ 18) :
    getSqrtPricePositiveTick (2 ^ 18 + n) =
      mulShift96 (lowProduct n) 389923685446031399322330549999935511 / 2 ^ 32 := by
  have hfactors : positiveTable ++ [389923685446031399322330549999935511] =
      79232123823359799118286999567 :: positiveFactors := by decide
  obtain ⟨-, -, -, -, hstart⟩ := positiveTable_checked
  have hproduct : applyFactors mulShift96 (2 ^ (0 + positiveTable.length) + n) 0
      (positiveTable ++ [389923685446031399322330549999935511]) (2 ^ 96) = _ := applyFactors_concat_add h
  rw [hfactors, applyFactors, hstart] at hproduct
  rw [lowProduct, ← hproduct]
  rfl

lemma lowProduct_div {n : ℕ} (h : n < 2 ^ 18) : lowProduct n / 2 ^ 32 = sqrtPriceOf n := by
  rw [sqrtPriceOf, if_pos (by omega), Int.natAbs_natCast, getSqrtPricePositiveTick_eq h, lowProduct]

lemma lowProduct_lt {n : ℕ} (h : n < 2 ^ 18) : lowProduct n < 2 ^ 128 := by
  have := sqrtPriceOf_lt_two_pow n
  rw [← lowProduct_div h] at this
  omega

lemma lowProduct_add_lt {n n' : ℕ} (hlt : n < n') (h : n' < 2 ^ 18) :
    lowProduct n + 2 ^ 32 < lowProduct n' := by
  have hone : sqrtPriceOf (-1) * (1 + 4 / 10 ^ 5 : ℝ) < sqrtPriceOf n :=
    sqrtPriceOf_lt_coarse (by norm_num) (by omega) (by omega)
  have hgap : sqrtPriceOf n * (1 + 4 / 10 ^ 5 : ℝ) < sqrtPriceOf n' :=
    sqrtPriceOf_lt_coarse (by omega) (by omega) (by omega)
  have hlarge : (10 ^ 6 : ℝ) ≤ sqrtPriceOf (-1) := by
    exact_mod_cast defects_evaluated.2.2.2.1
  have htwo : (sqrtPriceOf n : ℝ) + 2 < sqrtPriceOf n' := by linarith
  have htwo' : sqrtPriceOf n + 2 < sqrtPriceOf n' := by exact_mod_cast htwo
  rw [← lowProduct_div (hlt.trans h), ← lowProduct_div h] at htwo'
  omega

lemma positiveTick_bit18_eq {n : ℕ} (h : n ≤ 135438) :
    getSqrtPricePositiveTick (2 ^ 18 + n) =
      lowProduct n * 389923685446031399322330549999935511 / 2 ^ 96 / 2 ^ 32 := by
  obtain ⟨-, -, -, -, hmax⟩ := defects_evaluated
  have hle : lowProduct n ≤ lowProduct 135438 := by
    rcases h.lt_or_eq with hlt | rfl
    · exact (Nat.le_add_right _ _).trans (lowProduct_add_lt hlt (by norm_num)).le
    · exact le_rfl
  have hfits := lt_of_le_of_lt (Nat.mul_le_mul_right 389923685446031399322330549999935511 hle) hmax
  rw [positiveTick_bit18 (by omega), mulShift96_eq (lowProduct_lt (by omega)) (by norm_num),
    Nat.mod_eq_of_lt (by omega)]

lemma positiveTick_bit18_lt {n n' : ℕ} (hlt : n < n') (h : n' ≤ 135438) :
    getSqrtPricePositiveTick (2 ^ 18 + n) < getSqrtPricePositiveTick (2 ^ 18 + n') := by
  rw [positiveTick_bit18_eq (by omega), positiveTick_bit18_eq h]
  have := lowProduct_add_lt hlt (by omega)
  omega

/-! ### The order of all prices -/

lemma sqrtPriceOf_bit18 {t : ℤ} (h : 2 ^ 18 ≤ t) :
    sqrtPriceOf t = getSqrtPricePositiveTick (2 ^ 18 + (t.natAbs - 2 ^ 18)) := by
  have hsplit : 2 ^ 18 + (t.natAbs - 2 ^ 18) = t.natAbs := by omega
  rw [hsplit, sqrtPriceOf, if_pos (by omega)]

lemma sqrtPriceOf_strictMono {t t' : ℤ} (hlow : -2 ^ 19 < t) (hlt : t < t') (hhigh : t' ≤ 397582) :
    sqrtPriceOf t < sqrtPriceOf t' := by
  have hcoarse : ∀ {u u' : ℤ}, -2 ^ 19 < u → u < u' → u' < 2 ^ 18 → sqrtPriceOf u < sqrtPriceOf u' := by
    intro u u' hu huu' hu'
    have hgap := sqrtPriceOf_lt_coarse hu huu' hu'
    have h0 : (0 : ℝ) ≤ sqrtPriceOf u := Nat.cast_nonneg _
    exact_mod_cast (by linarith : (sqrtPriceOf u : ℝ) < sqrtPriceOf u')
  have hbit : ∀ {u u' : ℤ}, 2 ^ 18 ≤ u → u < u' → u' ≤ 397582 → sqrtPriceOf u < sqrtPriceOf u' := by
    intro u u' hu huu' hu'
    rw [sqrtPriceOf_bit18 hu, sqrtPriceOf_bit18 (by omega)]
    exact positiveTick_bit18_lt (by omega) (by omega)
  by_cases h' : t' < 2 ^ 18
  · exact hcoarse hlow hlt h'
  by_cases h : 2 ^ 18 ≤ t
  · exact hbit h hlt hhigh
  obtain ⟨-, -, hcross, -⟩ := defects_evaluated
  have hleft : sqrtPriceOf t ≤ sqrtPriceOf 262143 := by
    by_cases heq : t = 262143
    · rw [heq]
    · exact (hcoarse hlow (by omega) (by norm_num)).le
  have hright : sqrtPriceOf 262144 ≤ sqrtPriceOf t' := by
    by_cases heq : t' = 262144
    · rw [heq]
    · exact (hbit (by norm_num) (by omega) hhigh).le
  omega

def PricesIncrease (t₁ t₂ : ℤ) : Prop :=
  ∃ p₁ p₂ : U128, sqrtPriceFromTickIndex t₁ = .ok p₁ ∧ sqrtPriceFromTickIndex t₂ = .ok p₂ ∧ p₁.val < p₂.val

lemma pricesIncrease_iff {t₁ t₂ : ℤ} : PricesIncrease t₁ t₂ ↔
    (minTick ≤ t₁ ∧ t₁ ≤ maxTick) ∧ (minTick ≤ t₂ ∧ t₂ ≤ maxTick) ∧ sqrtPriceOf t₁ < sqrtPriceOf t₂ := by
  constructor
  · rintro ⟨p₁, p₂, h₁, h₂, hlt⟩
    obtain ⟨hb₁, h₁⟩ := ensure_ok.1 h₁
    obtain ⟨hb₂, h₂⟩ := ensure_ok.1 h₂
    cases h₁
    cases h₂
    exact ⟨hb₁, hb₂, hlt⟩
  · rintro ⟨hb₁, hb₂, hlt⟩
    exact ⟨_, _, sqrtPriceFromTickIndex_eq_ok hb₁, sqrtPriceFromTickIndex_eq_ok hb₂, hlt⟩

/-- Prices grow on an interval of ticks around 0 exactly when it stops short of both defects. -/
theorem sqrtPrice_strictMono_iff (m n : ℕ) :
    (∀ t₁ t₂ : ℤ, -m ≤ t₁ → t₁ < t₂ → t₂ ≤ n → PricesIncrease t₁ t₂) ↔ m < 524288 ∧ n < 397583 := by
  constructor
  · intro hmono
    constructor
    · by_contra hm
      have h := (pricesIncrease_iff.1 (hmono (-524288) (-524287) (by omega) (by norm_num) (by omega))).2.2
      exact absurd h defects_evaluated.2.1.le.not_gt
    · by_contra hn
      have h := (pricesIncrease_iff.1 (hmono 397582 397583 (by omega) (by norm_num) (by omega))).2.2
      exact absurd h defects_evaluated.1.le.not_gt
  · rintro ⟨hm, hn⟩ t₁ t₂ h₁ hlt h₂
    refine pricesIncrease_iff.2 ⟨?_, ?_, sqrtPriceOf_strictMono (by omega) hlt (by omega)⟩ <;>
      unfold minTick maxTick <;> omega

theorem sqrtPrice_not_strictMono :
    ¬ ∀ t₁ t₂ : ℤ, minTick ≤ t₁ → t₁ < t₂ → t₂ ≤ maxTick → PricesIncrease t₁ t₂ := by
  intro hmono
  have h := hmono 397582 397583 (by decide) (by norm_num) (by decide)
  exact absurd (pricesIncrease_iff.1 h).2.2 defects_evaluated.1.le.not_gt

/-! ### The floor of a price -/

/-- The first price whose lower candidate has bit 18. -/
def floorLimit : ℕ := 9078652392231436315262976

lemma floorLimit_evaluated : minSqrtPriceX64 ≤ sqrtPriceOf 262143 ∧ floorLimit - 1 ≤ maxSqrtPriceX64 ∧
    tickLow (floorLimit - 1) = 262143 ∧ floorLimit < sqrtPriceOf (262143 + 1) ∧
    tickIndexFromSqrtPrice floorLimit = .ok 262144 := by decide +kernel

/-- The tick found for `p` is the floor: `p` lies between its price and that of the next tick. -/
def IsFloorTick (p : ℕ) : Prop :=
  ∃ (t : ℤ) (q q' : U128), tickIndexFromSqrtPrice p = .ok t ∧ sqrtPriceFromTickIndex t = .ok q ∧
    sqrtPriceFromTickIndex (t + 1) = .ok q' ∧ q.val ≤ p ∧ p < q'.val

lemma isFloorTick_of_tick {p : ℕ} {t : ℤ} (hmin : minTick ≤ t) (hmax : t + 1 ≤ maxTick)
    (ht : tickIndexFromSqrtPrice p = .ok t) (hle : sqrtPriceOf t ≤ p) (hlt : p < sqrtPriceOf (t + 1)) :
    IsFloorTick p :=
  ⟨t, _, _, ht, sqrtPriceFromTickIndex_eq_ok ⟨hmin, by omega⟩,
    sqrtPriceFromTickIndex_eq_ok ⟨by omega, hmax⟩, hle, hlt⟩

lemma exists_neighbours {f : ℤ → ℕ} {a b : ℤ} {p : ℕ} (hab : a ≤ b) (ha : f a ≤ p) :
    p < f b → ∃ t, a ≤ t ∧ t < b ∧ f t ≤ p ∧ p < f (t + 1) := by
  induction b, hab using Int.leInduction with
  | base => intro hb; omega
  | succ b hab ih =>
    intro hb
    by_cases hmid : p < f b
    · obtain ⟨t, hat, htb, hle, hlt⟩ := ih hmid
      exact ⟨t, hat, by omega, hle, hlt⟩
    · exact ⟨b, hab, by omega, by omega, hb⟩

lemma isFloorTick_sound {p : ℕ} (hmin : minSqrtPriceX64 ≤ p) (hlt : p < sqrtPriceOf 262143) :
    IsFloorTick p := by
  obtain ⟨hfirst, hmax⟩ := sqrtPriceOf_ends
  obtain ⟨t, hlow, hhigh, hle, hlt⟩ :=
    exists_neighbours (by norm_num : (-443636 : ℤ) ≤ 262143) (hfirst.trans_le hmin) hlt
  have ht : SoundTick t := ⟨hlow, hhigh.le⟩
  have ht' : SoundTick (t + 1) := ⟨by omega, hhigh⟩
  exact isFloorTick_of_tick ht.in_bounds.1 ht'.in_bounds.2
    (tickIndex_eq_floor ⟨hmin, by omega⟩ ht ht' hle hlt) hle hlt

/-- The prices of tick 262143: the next price is ten times too large, and they stay below it. -/
lemma isFloorTick_last {p : ℕ} (hle : sqrtPriceOf 262143 ≤ p) (hlt : p < floorLimit) : IsFloorTick p := by
  obtain ⟨hmin, hmax, hlast, hnext, -⟩ := floorLimit_evaluated
  have hvalid : ValidPrice p := ⟨by omega, by omega⟩
  have hvalid' : ValidPrice (floorLimit - 1) := ⟨by omega, hmax⟩
  have hlow : tickLow p ≤ 262143 := hlast ▸ tickLow_mono hvalid hvalid' (by omega)
  have hhigh : 262143 ≤ tickHigh p := le_tickHigh hvalid (by decide) hle
  exact isFloorTick_of_tick (by decide) (by decide)
    (tickIndex_of_candidates hvalid (by decide) (by decide) hlow hhigh hle (by omega)) hle (by omega)

lemma not_isFloorTick_floorLimit : ¬ IsFloorTick floorLimit := by
  obtain ⟨-, -, -, hprice, htick⟩ := floorLimit_evaluated
  rintro ⟨t, q, q', ht, hq, -, hle, -⟩
  rw [htick] at ht
  cases ht
  obtain ⟨-, hq⟩ := ensure_ok.1 hq
  cases hq
  exact absurd hle hprice.not_ge

/-- The tick found is the floor for all prices below a bound exactly when the bound does not exceed
`floorLimit`. -/
theorem tickIndex_floor_iff (b : ℕ) : (∀ p, minSqrtPriceX64 ≤ p → p < b → IsFloorTick p) ↔ b ≤ floorLimit := by
  constructor
  · intro hfloor
    by_contra hb
    exact not_isFloorTick_floorLimit (hfloor floorLimit (by decide) (by omega))
  · intro hb p hmin hlt
    by_cases hlast : sqrtPriceOf 262143 ≤ p
    · exact isFloorTick_last hlast (by omega)
    · exact isFloorTick_sound hmin (by omega)

theorem tickIndex_not_floor : ¬ ∀ p, minSqrtPriceX64 ≤ p → p < maxSqrtPriceX64 → IsFloorTick p := by
  intro hfloor
  exact not_isFloorTick_floorLimit (hfloor floorLimit (by decide) (by decide))

end PrivateExecution
