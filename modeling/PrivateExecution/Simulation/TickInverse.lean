import PrivateExecution.FixedPoint.Log
import PrivateExecution.Simulation.TickMath
import Mathlib.Analysis.Complex.ExponentialBounds

/-!
# Ticks and prices are inverse to each other

The square root price of tick `t` is meant to be `sqrt (1.0001 ^ t)`, and the tick of a price is meant
to be the highest one whose price does not exceed it. Both hold as long as the bits 0 to 17 of the
table are the only ones used (`log_sqrtPriceOf`, `tickIndex_eq_floor`): the entry of bit 18 for
non-negative ticks is ten times too large, so from tick 262144 on prices are not those of their ticks.
-/

namespace PrivateExecution

open Real FixedPoint

/-! ### One tick -/

/-- The logarithm of the square root price ratio of neighbouring ticks. -/
noncomputable def tickLog : ℝ := log (sqrt (10001 / 10000))

lemma tickLog_eq : tickLog = log (10001 / 10000) / 2 := log_sqrt (by norm_num)

lemma tickLog_bounds : 0.0000499975001666 < tickLog ∧ tickLog < 0.0000499975001668 := by
  have h := abs_log_sub_add_sum_range_le (x := (-1 / 10000 : ℝ)) (by norm_num [abs_lt]) 3
  rw [show (1 : ℝ) - -1 / 10000 = 10001 / 10000 by norm_num, abs_le] at h
  norm_num [Finset.sum_range_succ, abs_of_pos] at h
  rw [tickLog_eq]
  norm_num
  constructor <;> linarith [h.1, h.2]

/-! ### The price of a tick -/

lemma applyFactors_eq {B tick : ℕ} {mul : ℕ → ℕ → ℕ}
    (hmul : ∀ a c, a < 2 ^ 128 → c < 2 ^ 128 → mul a c = a * c / 2 ^ B % 2 ^ 128) :
    ∀ {cs : List ℕ} {k a : ℕ}, (∀ c ∈ cs, c < 2 ^ 128) → (a : ℝ) * bitPeak B tick k cs < 2 ^ 128 →
      applyFactors mul tick k cs a = bitProduct B tick k cs a
  | [], _, _, _, _ => rfl
  | c :: cs, k, a, hcs, hfits => by
    have hK := one_le_bitPeak (B := B) (n := tick) (k + 1) cs
    have hcs' : ∀ d ∈ cs, d < 2 ^ 128 := fun d hd => hcs d (List.mem_cons_of_mem _ hd)
    rw [applyFactors, bitProduct]
    rw [bitPeak] at hfits
    by_cases hbit : tick.testBit k
    · simp only [hbit, if_true] at hfits ⊢
      have hle : ((a * c / 2 ^ B : ℕ) : ℝ) ≤ a * max 1 ((c : ℝ) / 2 ^ B) := by
        refine Nat.cast_div_le.trans ?_
        push_cast
        rw [mul_div_assoc]
        gcongr
        exact le_max_right _ _
      have hfits' : ((a * c / 2 ^ B : ℕ) : ℝ) * bitPeak B tick (k + 1) cs < 2 ^ 128 := by
        refine lt_of_le_of_lt (mul_le_mul_of_nonneg_right hle (by linarith)) ?_
        linarith
      have hlt : ∀ m : ℕ, (m : ℝ) * bitPeak B tick (k + 1) cs < 2 ^ 128 → m < 2 ^ 128 := by
        intro m hm
        have : (m : ℝ) < 2 ^ 128 := lt_of_le_of_lt (le_mul_of_one_le_right (by positivity) hK) hm
        exact_mod_cast this
      have ha : a < 2 ^ 128 := by
        refine hlt a (lt_of_le_of_lt ?_ hfits)
        gcongr
        exact le_mul_of_one_le_left (by linarith) (le_max_left _ _)
      rw [hmul a c ha (hcs c List.mem_cons_self), Nat.mod_eq_of_lt (hlt _ hfits'),
        applyFactors_eq hmul hcs' hfits']
    · simp only [hbit, Bool.false_eq_true, if_false, one_mul] at hfits ⊢
      exact applyFactors_eq hmul hcs' hfits

lemma applyFactors_concat {mul : ℕ → ℕ → ℕ} {tick c : ℕ} :
    ∀ {cs : List ℕ} {k a : ℕ}, tick < 2 ^ (k + cs.length) →
      applyFactors mul tick k (cs ++ [c]) a = applyFactors mul tick k cs a
  | [], k, a, hlt => by
    have hbit : tick.testBit k = false := Nat.testBit_lt_two_pow hlt
    simp [applyFactors, hbit]
  | d :: cs, k, a, hlt => by
    rw [List.length_cons, ← Nat.add_assoc, Nat.add_right_comm] at hlt
    rw [List.cons_append, applyFactors, applyFactors, applyFactors_concat hlt]

noncomputable def priceError : ℝ := 1 / 10000000

def negativeTable : List ℕ := 18445821805675392311 :: negativeFactors

def positiveTable : List ℕ := 79232123823359799118286999567 :: positiveFactors.dropLast

lemma powers_of_root {B c num den : ℕ} {cs : List ℕ}
    (hchain : List.IsChain (SquareNear 44 B) (c :: cs)) (hpos : ∀ d ∈ c :: cs, 0 < d) (hnum : 0 < num)
    (hden : 0 < den) (hle : 2 ^ 44 * (c * c * den) ≤ (2 ^ 44 + 1) * (num * 2 ^ (2 * B)))
    (hge : 2 ^ 44 * (num * 2 ^ (2 * B)) ≤ (2 ^ 44 + 1) * (c * c * den)) :
    Powers B (log (num / den) / 2) (1 / 2 ^ 43) 0 (c :: cs) := by
  refine powers_of_squares hchain hpos ?_
  have h := abs_le.1 (log_root (hpos c List.mem_cons_self) hnum hden hle hge)
  rw [abs_le, pow_zero, mul_one, mul_one]
  constructor <;> linarith

lemma negativeTable_checked : List.IsChain (SquareNear 44 64) negativeTable ∧
    (∀ c ∈ negativeTable, 0 < c) ∧ (∀ c ∈ negativeTable, c ≤ 2 ^ 64) ∧
    (∀ c ∈ negativeTable, c < 2 ^ 128) ∧
    mulShift 64 (2 ^ 64) 18445821805675392311 = 18445821805675392311 := by decide +kernel

lemma positiveTable_checked : List.IsChain (SquareNear 44 96) positiveTable ∧
    (∀ c ∈ positiveTable, 0 < c) ∧ (∀ c ∈ positiveTable, 2 ^ 96 ≤ c) ∧
    (∀ c ∈ positiveTable, c < 2 ^ 128) ∧
    mulShift96 (2 ^ 96) 79232123823359799118286999567 = 79232123823359799118286999567 := by
  decide +kernel

lemma negativeTable_powers : Powers 64 (-tickLog) (1 / 2 ^ 43) 0 negativeTable := by
  have hbase : log (((10000 : ℕ) : ℝ) / (10001 : ℕ)) / 2 = -tickLog := by
    rw [tickLog_eq, show ((10000 : ℕ) : ℝ) / (10001 : ℕ) = (10001 / 10000)⁻¹ by norm_num, log_inv]
    ring
  rw [← hbase]
  obtain ⟨hchain, hpos, -⟩ := negativeTable_checked
  exact powers_of_root hchain hpos (by norm_num) (by norm_num) (by norm_num) (by norm_num)

lemma positiveTable_powers : Powers 96 tickLog (1 / 2 ^ 43) 0 positiveTable := by
  have hbase : log (((10001 : ℕ) : ℝ) / (10000 : ℕ)) / 2 = tickLog := by
    rw [tickLog_eq]
    norm_num
  rw [← hbase]
  obtain ⟨hchain, hpos, -⟩ := positiveTable_checked
  exact powers_of_root hchain hpos (by norm_num) (by norm_num) (by norm_num) (by norm_num)

/-! #### Non-negative ticks -/

lemma bitPeak_eq_bitFactor {B n : ℕ} : ∀ {k : ℕ} {cs : List ℕ}, (∀ c ∈ cs, 2 ^ B ≤ c) →
    bitPeak B n k cs = bitFactor B n k cs
  | _, [], _ => rfl
  | k, c :: cs, h => by
    have hc : (1 : ℝ) ≤ c / 2 ^ B := by
      rw [one_le_div (by positivity)]
      exact_mod_cast h c List.mem_cons_self
    rw [bitPeak, bitFactor, max_eq_right hc,
      bitPeak_eq_bitFactor fun d hd => h d (List.mem_cons_of_mem _ hd)]

lemma bitPeak_eq_one {B n : ℕ} : ∀ {k : ℕ} {cs : List ℕ}, (∀ c ∈ cs, c ≤ 2 ^ B) → bitPeak B n k cs = 1
  | _, [], _ => rfl
  | k, c :: cs, h => by
    have hc : (c : ℝ) / 2 ^ B ≤ 1 := by
      rw [div_le_one (by positivity)]
      exact_mod_cast h c List.mem_cons_self
    rw [bitPeak, max_eq_left hc, bitPeak_eq_one fun d hd => h d (List.mem_cons_of_mem _ hd)]
    simp

lemma getSqrtPricePositiveTick_eq {tick : ℕ} (h : tick < 2 ^ 18) :
    getSqrtPricePositiveTick tick = applyFactors mulShift96 tick 0 positiveTable (2 ^ 96) / 2 ^ 32 := by
  have hfactors : positiveFactors =
      positiveFactors.dropLast ++ [389923685446031399322330549999935511] := by decide
  obtain ⟨-, -, -, -, hstart⟩ := positiveTable_checked
  have hlast : ∀ ratio, applyFactors mulShift96 tick 1 positiveFactors ratio =
      applyFactors mulShift96 tick 1 positiveFactors.dropLast ratio := by
    intro ratio
    conv_lhs => rw [hfactors]
    exact applyFactors_concat h
  rw [positiveTable, applyFactors, hstart, ← hlast]
  rfl

lemma getSqrtPriceNegativeTick_eq (absTick : ℕ) :
    getSqrtPriceNegativeTick absTick = applyFactors (mulShift 64) absTick 0 negativeTable (2 ^ 64) := by
  obtain ⟨-, -, -, -, hstart⟩ := negativeTable_checked
  rw [negativeTable, applyFactors, hstart]
  rfl

lemma log_positiveTick {n : ℕ} (h : n < 2 ^ 18) :
    0 < getSqrtPricePositiveTick n ∧
      |log (getSqrtPricePositiveTick n) - (64 * log 2 + tickLog * n)| ≤ priceError := by
  obtain ⟨hb, hb'⟩ := tickLog_bounds
  have hlog2 := log_two_gt_d9
  have hn : (n : ℝ) ≤ 2 ^ 18 := by exact_mod_cast h.le
  have hn0 : (0 : ℝ) ≤ n := by positivity
  obtain ⟨hpos, hlog⟩ := log_bitFactor (n := n) positiveTable_powers h
  rw [pow_zero, Nat.div_one, mul_one, abs_le] at hlog
  set E := bitFactor 96 n 0 positiveTable with hE
  obtain ⟨-, -, hlarge, hword, -⟩ := positiveTable_checked
  have hpeak : bitPeak 96 n 0 positiveTable = E := bitPeak_eq_bitFactor hlarge
  have hone : 1 ≤ E := hpeak ▸ one_le_bitPeak 0 positiveTable
  have hE32 : E < 2 ^ 32 := by
    rw [← log_lt_log_iff hpos (by positivity), log_pow]
    push_cast
    nlinarith
  have hprod : applyFactors mulShift96 n 0 positiveTable (2 ^ 96) = bitProduct 96 n 0 positiveTable (2 ^ 96) := by
    refine applyFactors_eq (fun a c => mulShift96_eq) hword ?_
    rw [hpeak]
    push_cast
    nlinarith
  obtain ⟨hlow, hhigh⟩ := bitProduct_bounds (B := 96) (n := n) 0 positiveTable (2 ^ 96)
  rw [hpeak, ← hE] at hlow
  rw [← hE] at hhigh
  rw [getSqrtPricePositiveTick_eq h, hprod]
  generalize bitProduct 96 n 0 positiveTable (2 ^ 96) = R at hlow hhigh ⊢
  have hlen : (positiveTable.length : ℝ) = 18 := by
    rw [show positiveTable.length = 18 by decide]
    norm_num
  rw [hlen] at hlow
  push_cast at hlow hhigh
  have hdown : ((R / 2 ^ 32 : ℕ) : ℝ) ≤ 2 ^ 64 * E := by
    refine Nat.cast_div_le.trans ?_
    push_cast
    rw [div_le_iff₀ (by positivity)]
    linarith
  have hup : 2 ^ 64 * E * (1 - 1 / 2 ^ 60) ≤ (R / 2 ^ 32 : ℕ) := by
    have hdiv := Nat.lt_mul_of_div_lt (Nat.lt_succ_self (R / 2 ^ 32)) (Nat.two_pow_pos 32)
    have hdiv' : (R : ℝ) ≤ ((R / 2 ^ 32 : ℕ) + 1) * 2 ^ 32 := by exact_mod_cast hdiv.le
    linarith
  have hP : 0 < ((R / 2 ^ 32 : ℕ) : ℝ) := lt_of_lt_of_le (by nlinarith) hup
  have hX : log (2 ^ 64 * E) = 64 * log 2 + log E := by
    rw [log_mul (by positivity) hpos.ne', log_pow]
    norm_num
  have h1 := log_le_log hP hdown
  have h2 := log_sub_ge (by positivity) (by positivity) (by norm_num) hup
  rw [hX] at h1 h2
  refine ⟨by exact_mod_cast hP, ?_⟩
  unfold priceError
  rw [abs_le]
  constructor <;> linarith

lemma log_negativeTick_within {n k : ℕ} (h : n < 2 ^ 19) (hk : 6 ≤ k)
    (hlarge : k * log 2 ≤ 64 * log 2 - tickLog * n - 1 / 2 ^ 24) :
    0 < getSqrtPriceNegativeTick n ∧
      |log (getSqrtPriceNegativeTick n) - (64 * log 2 - tickLog * n)| ≤ 38 / 2 ^ k + 1 / 2 ^ 24 := by
  have hn : (n : ℝ) ≤ 2 ^ 19 := by exact_mod_cast h.le
  obtain ⟨hpos, hlog⟩ := log_bitFactor (n := n) negativeTable_powers h
  rw [pow_zero, Nat.div_one, mul_one, abs_le] at hlog
  set E := bitFactor 64 n 0 negativeTable with hE
  obtain ⟨-, -, hsmall, hword, -⟩ := negativeTable_checked
  have hpeak : bitPeak 64 n 0 negativeTable = 1 := bitPeak_eq_one hsmall
  have hprod : applyFactors (mulShift 64) n 0 negativeTable (2 ^ 64) =
      bitProduct 64 n 0 negativeTable (2 ^ 64) := by
    refine applyFactors_eq (fun a c => mulShift64_eq) hword ?_
    rw [hpeak]
    norm_num
  obtain ⟨hlow, hhigh⟩ := bitProduct_bounds (B := 64) (n := n) 0 negativeTable (2 ^ 64)
  rw [hpeak, ← hE] at hlow
  rw [← hE] at hhigh
  rw [getSqrtPriceNegativeTick_eq, hprod]
  generalize bitProduct 64 n 0 negativeTable (2 ^ 64) = R at hlow hhigh ⊢
  have hlen : (negativeTable.length : ℝ) = 19 := by
    rw [show negativeTable.length = 19 by decide]
    norm_num
  rw [hlen] at hlow
  push_cast at hlow hhigh
  have hX : log (2 ^ 64 * E) = 64 * log 2 + log E := by
    rw [log_mul (by positivity) hpos.ne', log_pow]
    norm_num
  have hbig : (2 : ℝ) ^ k ≤ 2 ^ 64 * E := by
    rw [← log_le_log_iff (by positivity) (by positivity), hX, log_pow]
    linarith
  have hk64 : (2 : ℝ) ^ 6 ≤ 2 ^ k := pow_le_pow_right₀ (by norm_num) hk
  have hloss : (19 : ℝ) / 2 ^ k ≤ 1 / 2 := by
    rw [div_le_iff₀ (by positivity)]
    linarith
  have hup : 2 ^ 64 * E * (1 - 19 / 2 ^ k) ≤ R := by
    have : 19 ≤ 2 ^ 64 * E * (19 / 2 ^ k) := by
      rw [← mul_div_assoc, le_div_iff₀ (by positivity)]
      linarith
    linarith
  have hR : 0 < (R : ℝ) := lt_of_lt_of_le (mul_pos (by positivity) (by linarith)) hup
  have hdown : (R : ℝ) ≤ 2 ^ 64 * E := by linarith
  have h1 := log_le_log hR hdown
  have h2 := log_sub_ge (by positivity) (by positivity) hloss hup
  rw [hX] at h1 h2
  have h38 : (38 : ℝ) / 2 ^ k = 2 * (19 / 2 ^ k) := by ring
  have h0 : (0 : ℝ) ≤ 19 / 2 ^ k := by positivity
  refine ⟨by exact_mod_cast hR, ?_⟩
  rw [abs_le]
  constructor <;> linarith

lemma log_negativeTick {n : ℕ} (h : n ≤ 443636) :
    0 < getSqrtPriceNegativeTick n ∧
      |log (getSqrtPriceNegativeTick n) - (64 * log 2 - tickLog * n)| ≤ priceError := by
  obtain ⟨-, hb⟩ := tickLog_bounds
  have hlog2 := log_two_gt_d9
  have hn : (n : ℝ) ≤ 443636 := by exact_mod_cast h
  have hn0 : (0 : ℝ) ≤ n := by positivity
  obtain ⟨hpos, hlog⟩ := log_negativeTick_within (n := n) (k := 31) (by omega) (by norm_num)
    (by push_cast; nlinarith)
  exact ⟨hpos, hlog.trans (by norm_num [priceError])⟩

/-- The ticks whose prices use sound table entries only. -/
def SoundTick (t : ℤ) : Prop := -443636 ≤ t ∧ t ≤ 262143

instance (t : ℤ) : Decidable (SoundTick t) := inferInstanceAs (Decidable (_ ∧ _))

lemma log_sqrtPriceOf {t : ℤ} (h : SoundTick t) :
    0 < sqrtPriceOf t ∧ |log (sqrtPriceOf t) - (64 * log 2 + tickLog * t)| ≤ priceError := by
  obtain ⟨hlow, hhigh⟩ := h
  unfold sqrtPriceOf
  split_ifs with hsign
  · obtain ⟨n, rfl⟩ := Int.eq_ofNat_of_zero_le hsign
    rw [Int.natAbs_natCast, Int.cast_natCast]
    exact log_positiveTick (by omega)
  · obtain ⟨n, hn⟩ := Int.exists_eq_neg_ofNat (le_of_not_ge hsign)
    subst hn
    rw [Int.natAbs_neg, Int.natAbs_natCast, Int.cast_neg, Int.cast_natCast, mul_neg, ← sub_eq_add_neg]
    exact log_negativeTick (by omega)

lemma sqrtPriceOf_lt_sqrtPriceOf {t t' : ℤ} (h : SoundTick t) (h' : SoundTick t') (hlt : t < t') :
    sqrtPriceOf t < sqrtPriceOf t' := by
  obtain ⟨hpos, hlog⟩ := log_sqrtPriceOf h
  obtain ⟨hpos', hlog'⟩ := log_sqrtPriceOf h'
  rw [abs_le] at hlog hlog'
  have hstep : (t : ℝ) + 1 ≤ t' := by exact_mod_cast hlt
  have hb := tickLog_bounds.1
  have hmul : tickLog * (t + 1) ≤ tickLog * t' := mul_le_mul_of_nonneg_left hstep (by linarith)
  unfold priceError at hlog hlog'
  have hlt' : log (sqrtPriceOf t) < log (sqrtPriceOf t') := by linarith
  exact_mod_cast (log_lt_log_iff (by exact_mod_cast hpos) (by exact_mod_cast hpos')).1 hlt'

/-! ### The logarithm of a price -/

lemma log_normalized {r : ℕ} (hlow : 2 ^ 63 ≤ r) (hhigh : r < 2 ^ 64) :
    63 * log 2 ≤ log r ∧ log r ≤ 64 * log 2 ∧ 1 / (r : ℝ) ≤ 1 / 2 ^ 63 := by
  have hlow' : (2 : ℝ) ^ 63 ≤ r := by exact_mod_cast hlow
  have hhigh' : (r : ℝ) ≤ 2 ^ 64 := by exact_mod_cast hhigh.le
  have hr : (0 : ℝ) < r := lt_of_lt_of_le (by positivity) hlow'
  have h1 := log_le_log (by positivity) hlow'
  have h2 := log_le_log hr hhigh'
  rw [log_pow] at h1 h2
  push_cast at h1 h2
  exact ⟨h1, h2, one_div_le_one_div_of_le (by positivity) hlow'⟩

lemma log2Fraction_dvd (c : ℕ) : ∀ k r : ℕ, 2 ^ (c + 1) ∣ log2Fraction k (2 ^ (k + c)) r
  | 0, _ => dvd_zero _
  | k + 1, r => by
    have hhalf : 2 ^ (k + 1 + c) / 2 = 2 ^ (k + c) := by
      rw [show k + 1 + c = k + c + 1 by omega, pow_succ, Nat.mul_div_cancel _ (by norm_num)]
    simp only [log2Fraction, hhalf]
    exact dvd_add (Dvd.dvd.mul_right (pow_dvd_pow 2 (by omega)) _) (log2Fraction_dvd c k _)

/-- Squaring doubles the logarithm, and the bit taken out of the square is the next bit of it. After
`k` bits an interval of one unit of the last bit is left, widened by the truncated squares. -/
lemma log2Fraction_log (c : ℕ) : ∀ {k r : ℕ}, 2 ^ 63 ≤ r → r < 2 ^ 64 →
    log2Fraction k (2 ^ (k + c)) r * log 2 ≤ 2 ^ (k + c + 1) * (log r - 63 * log 2) ∧
      2 ^ (k + c + 1) * (log r - 63 * log 2) ≤
        log2Fraction k (2 ^ (k + c)) r * log 2 + 2 ^ (c + 1) * log 2 + 2 ^ (k + c + 1) / 2 ^ 63
  | 0, r, hlow, hhigh => by
    obtain ⟨h1, h2, -⟩ := log_normalized hlow hhigh
    simp only [log2Fraction, Nat.cast_zero, zero_mul, zero_add]
    have hpow : (0 : ℝ) < 2 ^ (c + 1) := by positivity
    constructor
    · exact mul_nonneg hpow.le (by linarith)
    · have := mul_le_mul_of_nonneg_left (by linarith : log r - 63 * log 2 ≤ log 2) hpow.le
      have : (0 : ℝ) ≤ 2 ^ (c + 1) / 2 ^ 63 := by positivity
      linarith
  | k + 1, r, hlow, hhigh => by
    obtain ⟨hmod, hbit, hlow', hhigh'⟩ := square_normalized hlow hhigh
    have hhalf : 2 ^ (k + 1 + c) / 2 = 2 ^ (k + c) := by
      rw [show k + 1 + c = k + c + 1 by omega, pow_succ, Nat.mul_div_cancel _ (by norm_num)]
    simp only [log2Fraction, hhalf, hmod]
    generalize he : r * r / 2 ^ 127 = e at hbit hlow' hhigh' ⊢
    obtain ⟨ih1, ih2⟩ := log2Fraction_log c (k := k) hlow' hhigh'
    have hdiv := log_div_bounds (Nat.two_pow_pos (63 + e)) (lt_of_lt_of_le (by norm_num) hlow')
    have hinv := (log_normalized hlow' hhigh').2.2
    have hr : (0 : ℝ) < r := by exact_mod_cast lt_of_lt_of_le (by norm_num) hlow
    have hsq : log (r * r : ℕ) = 2 * log r := by
      push_cast
      rw [log_mul hr.ne' hr.ne']
      ring
    have htwo : log (2 ^ (63 + e) : ℕ) = 63 * log 2 + e * log 2 := by
      push_cast
      rw [log_pow]
      push_cast
      ring
    rw [hsq, htwo] at hdiv
    generalize r * r / 2 ^ (63 + e) = r' at *
    generalize log2Fraction k (2 ^ (k + c)) r' = F at *
    have hpow : (0 : ℝ) < 2 ^ (k + c + 1) := by positivity
    have h1 := mul_le_mul_of_nonneg_left hdiv.1 hpow.le
    have h2 := mul_le_mul_of_nonneg_left (hdiv.2.trans (add_le_add_right hinv _)) hpow.le
    have hdouble : (2 : ℝ) ^ (k + 1 + c + 1) = 2 * 2 ^ (k + c + 1) := by ring
    have hsum : ((2 ^ (k + 1 + c) * e + F : ℕ) : ℝ) = 2 ^ (k + c + 1) * e + F := by
      push_cast
      ring
    rw [hdouble, hsum]
    constructor <;> linarith

lemma log2pX32_log {s : ℕ} (hs : 0 < s) :
    log2pX32 s * 2 ^ 32 * log 2 ≤ 2 ^ 64 * (log s - 64 * log 2) ∧
      2 ^ 64 * (log s - 64 * log 2) ≤ (log2pX32 s * 2 ^ 32 + 2 ^ 50) * log 2 + 4 := by
  obtain ⟨hlow, hhigh⟩ := normalized_bounds hs
  obtain ⟨h1, h2⟩ := log2Fraction_log 49 (k := 14) hlow hhigh
  obtain ⟨m, hm⟩ : 2 ^ 32 ∣ log2Fraction 14 (2 ^ (14 + 49)) (normalized s) :=
    (pow_dvd_pow 2 (by norm_num)).trans (log2Fraction_dvd 49 14 (normalized s))
  have hN : (log2pX32 s : ℝ) * 2 ^ 32 = ((Nat.log2 s : ℝ) - 64) * 2 ^ 64 + 2 ^ 32 * m := by
    unfold log2pX32
    rw [hm, Nat.mul_div_cancel_left _ (by norm_num)]
    push_cast
    ring
  have hnorm : log s ≤ log (normalized s) + ((Nat.log2 s : ℝ) - 63) * log 2 + 1 / 2 ^ 63 ∧
      log (normalized s) + ((Nat.log2 s : ℝ) - 63) * log 2 ≤ log s := by
    have hs' : (0 : ℝ) < s := by exact_mod_cast hs
    have hinv := (log_normalized hlow hhigh).2.2
    unfold normalized at hlow hinv ⊢
    split_ifs at hlow hinv ⊢ with h64
    · have hdiv := log_div_bounds (Nat.two_pow_pos (Nat.log2 s - 63)) (lt_of_lt_of_le (by norm_num) hlow)
      have hpow : log (2 ^ (Nat.log2 s - 63) : ℕ) = ((Nat.log2 s : ℝ) - 63) * log 2 := by
        push_cast
        rw [log_pow, Nat.cast_sub (by omega)]
        norm_num
      rw [hpow] at hdiv
      constructor <;> linarith
    · have hpow : log (s * 2 ^ (63 - Nat.log2 s) : ℕ) = log s + (63 - (Nat.log2 s : ℝ)) * log 2 := by
        push_cast
        rw [log_mul hs'.ne' (by positivity), log_pow, Nat.cast_sub (by omega)]
        norm_num
      rw [hpow]
      have : (0 : ℝ) ≤ 1 / 2 ^ 63 := by positivity
      constructor <;> linarith
  rw [hm] at h1 h2
  push_cast at h1 h2
  rw [hN]
  constructor <;> linarith

/-! ### The tick of a price -/

lemma abs_mul_sub_le {x lo hi m M : ℝ} (hlo : lo ≤ x) (hhi : x ≤ hi) (hm : |m| ≤ M) :
    |x * m - lo * m| ≤ (hi - lo) * M := by
  rw [← sub_mul, abs_mul, abs_of_nonneg (sub_nonneg.2 hlo)]
  exact mul_le_mul (by linarith) hm (abs_nonneg _) (by linarith)

section

variable {s : ℕ} {t : ℤ}

lemma log_two_mul (hs : ValidPrice s) : |log 2 * log2pX32 s - 0.6931471803 * log2pX32 s| ≤ 150 := by
  obtain ⟨hlow, hhigh⟩ := log2pX32_bounds hs
  have hlow' : (-(2 ^ 37) : ℝ) ≤ log2pX32 s := by exact_mod_cast hlow
  have hhigh' : (log2pX32 s : ℝ) ≤ 2 ^ 38 := by exact_mod_cast hhigh
  have h := abs_mul_sub_le log_two_gt_d9.le log_two_lt_d9.le
    (abs_le.2 ⟨by linarith, hhigh'⟩ : |(log2pX32 s : ℝ)| ≤ 2 ^ 38)
  exact h.trans (by norm_num)

lemma tickLog_mul (h : SoundTick t) : |tickLog * t - 0.0000499975001666 * t| ≤ 1 / 10 ^ 9 := by
  obtain ⟨hlow, hhigh⟩ := h
  have hlow' : (-443636 : ℝ) ≤ t := by exact_mod_cast hlow
  have hhigh' : (t : ℝ) ≤ 262143 := by exact_mod_cast hhigh
  have h := abs_mul_sub_le tickLog_bounds.1.le tickLog_bounds.2.le
    (abs_le.2 ⟨hlow', by linarith⟩ : |(t : ℝ)| ≤ 443636)
  exact h.trans (by norm_num)

lemma le_tickHigh (hs : ValidPrice s) (ht : SoundTick t) (hle : sqrtPriceOf t ≤ s) : t ≤ tickHigh s := by
  obtain ⟨hpos, hprice⟩ := log_sqrtPriceOf ht
  have hlog := log_le_log (by exact_mod_cast hpos) (by exact_mod_cast hle : (sqrtPriceOf t : ℝ) ≤ s)
  obtain ⟨-, hup⟩ := log2pX32_log (hpos.trans_le hle)
  obtain ⟨hNlow, hNhigh⟩ := log2pX32_bounds hs
  have hN := abs_le.1 (log_two_mul hs)
  have hT := abs_le.1 (tickLog_mul ht)
  have hprice' := abs_le.1 hprice
  have hlog2 := log_two_lt_d9
  have h1 : (-(2 ^ 37) : ℝ) ≤ log2pX32 s := by exact_mod_cast hNlow
  have h2 : (log2pX32 s : ℝ) ≤ 2 ^ 38 := by exact_mod_cast hNhigh
  unfold priceError at hprice'
  rw [(candidates_eq hs).2, Int.le_ediv_iff_mul_le (by norm_num)]
  have hgoal : (t : ℝ) * 2 ^ 64 ≤ log2pX32 s * 59543866431248 + 15793534762490258745 := by linarith
  exact_mod_cast hgoal

lemma tickLow_le_of_lt (hs : ValidPrice s) (ht : SoundTick (t + 1)) (hlt : s < sqrtPriceOf (t + 1)) :
    tickLow s ≤ t := by
  obtain ⟨hpos, hprice⟩ := log_sqrtPriceOf ht
  have hs0 : 0 < s := lt_of_lt_of_le (by norm_num [minSqrtPriceX64]) hs.1
  have hlog := log_le_log (by exact_mod_cast hs0) (by exact_mod_cast hlt.le : (s : ℝ) ≤ sqrtPriceOf (t + 1))
  obtain ⟨hdown, -⟩ := log2pX32_log hs0
  obtain ⟨hNlow, hNhigh⟩ := log2pX32_bounds hs
  have hN := abs_le.1 (log_two_mul hs)
  have hT := abs_le.1 (tickLog_mul ht)
  have hprice' := abs_le.1 hprice
  have h1 : (-(2 ^ 37) : ℝ) ≤ log2pX32 s := by exact_mod_cast hNlow
  have h2 : (log2pX32 s : ℝ) ≤ 2 ^ 38 := by exact_mod_cast hNhigh
  unfold priceError at hprice'
  rw [(candidates_eq hs).1, ← Int.lt_add_one_iff, Int.ediv_lt_iff_lt_mul (by norm_num)]
  push_cast at hT hprice'
  have hgoal : (log2pX32 s * 59543866431248 - 184467440737095516 : ℝ) < (t + 1) * 2 ^ 64 := by linarith
  exact_mod_cast hgoal

lemma sqrtPriceFromTickIndex_eq_ok (h : minTick ≤ t ∧ t ≤ maxTick) :
    sqrtPriceFromTickIndex t = .ok ⟨sqrtPriceOf t, sqrtPriceOf_lt t⟩ :=
  ensure_ok.2 ⟨h, rfl⟩

lemma SoundTick.in_bounds (h : SoundTick t) : minTick ≤ t ∧ t ≤ maxTick := by
  obtain ⟨hlow, hhigh⟩ := h
  unfold minTick maxTick
  omega

/-- Between its two candidates, the comparison of the price finds the tick. -/
lemma tickIndex_of_candidates (hs : ValidPrice s) (ht : minTick ≤ t) (ht' : t + 1 ≤ maxTick)
    (hlow : tickLow s ≤ t) (hhigh : t ≤ tickHigh s) (hle : sqrtPriceOf t ≤ s)
    (hlt : s < sqrtPriceOf (t + 1)) : tickIndexFromSqrtPrice s = .ok t := by
  have hgap := tickHigh_le hs
  have hcand : tickCandidate s = .ok t := by
    unfold tickCandidate
    split_ifs with heq
    · rw [show tickLow s = t by omega]
    · rcases hhigh.lt_or_eq with h | h
      · rw [show tickHigh s = t + 1 by omega, show tickLow s = t by omega,
          sqrtPriceFromTickIndex_eq_ok ⟨by omega, ht'⟩]
        show Except.ok (if sqrtPriceOf (t + 1) ≤ s then t + 1 else t) = .ok t
        rw [if_neg (not_le.2 hlt)]
      · rw [← h, sqrtPriceFromTickIndex_eq_ok ⟨ht, by omega⟩]
        show Except.ok (if sqrtPriceOf t ≤ s then t else tickLow s) = .ok t
        rw [if_pos hle]
  refine ensure_ok.2 ⟨hs, ?_⟩
  rw [hcand]
  show Except.ok (max minTick (min t maxTick)) = .ok t
  rw [min_eq_left (by omega), max_eq_right ht]

lemma tickIndex_eq_floor (hs : ValidPrice s) (ht : SoundTick t) (ht' : SoundTick (t + 1))
    (hle : sqrtPriceOf t ≤ s) (hlt : s < sqrtPriceOf (t + 1)) : tickIndexFromSqrtPrice s = .ok t :=
  tickIndex_of_candidates hs ht.in_bounds.1 ht'.in_bounds.2 (tickLow_le_of_lt hs ht' hlt)
    (le_tickHigh hs ht hle) hle hlt

lemma sqrtPriceOf_ends : sqrtPriceOf (-443636) = minSqrtPriceX64 ∧ sqrtPriceOf 262143 ≤ maxSqrtPriceX64 := by
  decide +kernel

lemma validPrice_sqrtPriceOf (ht : SoundTick t) : ValidPrice (sqrtPriceOf t) := by
  obtain ⟨hmin, hmax⟩ := sqrtPriceOf_ends
  obtain ⟨hlow, hhigh⟩ := ht
  constructor
  · rw [← hmin]
    rcases hlow.lt_or_eq with h | h
    · exact (sqrtPriceOf_lt_sqrtPriceOf (by decide) ⟨hlow, hhigh⟩ h).le
    · rw [h]
  · refine le_trans ?_ hmax
    rcases hhigh.lt_or_eq with h | h
    · exact (sqrtPriceOf_lt_sqrtPriceOf ⟨hlow, hhigh⟩ (by decide) h).le
    · rw [h]

lemma tickIndex_sqrtPriceOf (ht : SoundTick t) (ht' : SoundTick (t + 1)) :
    tickIndexFromSqrtPrice (sqrtPriceOf t) = .ok t :=
  tickIndex_eq_floor (validPrice_sqrtPriceOf ht) ht ht' le_rfl
    (sqrtPriceOf_lt_sqrtPriceOf ht ht' (lt_add_one t))

end

end PrivateExecution
