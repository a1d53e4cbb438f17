import PrivateExecution.Routing.Impact
import Mathlib.Data.Rat.Floor

/-!
# The band of a bin move, exactly

`Routing.Impact` shows that a bin move found inside a band is inside it. Here is the converse: a move that
is inside is found, whichever of the two comparisons decides it. So the predicate of `bin_within`
(`routing/src/depth.rs`) is exact, and the bisection of `bin_impact_bps` returns the ceiling of the move.
-/

namespace PrivateExecution.Routing

section

variable {binStep t : ℕ} {a r : ℤ}

lemma relativeMove_binPrice (a r : ℤ) :
    relativeMove (binPrice binStep a) (binPrice binStep r) = |binPrice binStep (r - a) - 1| := by
  have hr : r = a + (r - a) := by ring
  have hpos := binPrice_pos binStep a
  conv_lhs => rw [hr, binPrice_add]
  rw [relativeMove, ← mul_sub_one, abs_mul, abs_of_pos hpos, mul_div_cancel_left₀ _ hpos.ne']

lemma bernoulli (binStep e : ℕ) : 1 + (e * binStep : ℚ) / 10000 ≤ binPrice binStep e := by
  have hstep : (0 : ℚ) ≤ binStep / 10000 := by positivity
  have hle := one_add_mul_le_pow (by linarith : (-2 : ℚ) ≤ binStep / 10000) e
  have hbase : (1 : ℚ) + binStep / 10000 = (10000 + binStep) / 10000 := by ring
  rw [hbase, ← zpow_natCast] at hle
  calc 1 + (e * binStep : ℚ) / 10000 = 1 + e * (binStep / 10000) := by ring
    _ ≤ binPrice binStep e := hle

lemma tenThousand_lt_pow : 10000 ^ (maxInBandExponent + 1 + 1) < 10001 ^ (maxInBandExponent + 1) := by
  decide +kernel

section

variable (hstep : 1 ≤ binStep)

include hstep

lemma tenThousand_lt_binPrice {e : ℕ} (he : maxInBandExponent < e) :
    10000 < binPrice binStep e := by
  have hcast : ∀ n : ℕ, 10000 ^ (n + 1) < 10001 ^ n → (10000 : ℚ) < (10001 / 10000) ^ n := by
    intro n hn
    rw [div_pow, lt_div_iff₀ (by positivity), ← pow_succ']
    exact_mod_cast hn
  have hbase : (10001 / 10000 : ℚ) ≤ (10000 + binStep) / 10000 := by
    have : (1 : ℚ) ≤ binStep := by exact_mod_cast hstep
    linarith
  calc (10000 : ℚ) < (10001 / 10000) ^ (maxInBandExponent + 1) :=
      hcast (maxInBandExponent + 1) tenThousand_lt_pow
    _ ≤ (10001 / 10000) ^ e := pow_le_pow_right₀ (by norm_num) he
    _ ≤ ((10000 + binStep) / 10000) ^ e := pow_le_pow_left₀ (by norm_num) hbase e
    _ = binPrice binStep e := (zpow_natCast _ e).symm

lemma rise_enters {e : ℕ} (ht : t ≤ 10000)
    (h : 10000 * binPrice binStep e ≤ 10000 + t) : e * binStep ≤ t ∧ e ≤ maxInBandExponent := by
  have hle : e * binStep ≤ t := by
    have := bernoulli binStep e
    have hq : (e * binStep : ℚ) ≤ t := by linarith
    exact_mod_cast hq
  have hes : e * 1 ≤ e * binStep := Nat.mul_le_mul_left e hstep
  exact ⟨hle, by unfold maxInBandExponent; omega⟩

lemma fall_enters {e : ℕ} (ht : t < 10000)
    (h : (10000 - t) * binPrice binStep e ≤ 10000) :
    e * binStep * (10000 - t) ≤ 10000 * t ∧ e ≤ maxInBandExponent := by
  have htq : (1 : ℚ) ≤ 10000 - t := by
    have : (t : ℚ) + 1 ≤ 10000 := by exact_mod_cast ht
    linarith
  refine ⟨?_, ?_⟩
  · have hmul := mul_le_mul_of_nonneg_left (bernoulli binStep e) (by linarith : 0 ≤ 10000 - (t : ℚ))
    have hq : (e * binStep : ℚ) * (10000 - t) ≤ 10000 * t := by linarith
    have hcast : ((10000 - t : ℕ) : ℚ) = 10000 - t := by push_cast [Nat.cast_sub ht.le]; rfl
    rw [← hcast] at hq
    exact_mod_cast hq
  · by_contra hlt
    have hbig := tenThousand_lt_binPrice hstep (not_le.1 hlt)
    have hscale := le_mul_of_one_le_left (binPrice_pos binStep e).le htq
    linarith

lemma binExponentWithin_iff (hmax : binStep < 2 ^ 16) (ht : t ≤ 10000) :
    binExponentWithin binStep a r t = true ↔
      relativeMove (binPrice binStep a) (binPrice binStep r) ≤ t / 10000 := by
  refine ⟨binExponentWithin_sound hmax ht, fun h => ?_⟩
  obtain ⟨hnum, hden⟩ := binBase_lt hmax
  unfold binExponentWithin
  dsimp only
  split_ifs with heq hrise hout hwide hout
  · rfl
  · -- Left early although inside: excluded by Bernoulli.
    rw [show r = a + ((r - a).natAbs : ℤ) by omega, rise_within_iff] at h
    have := rise_enters hstep ht h
    omega
  · rw [show r = a + ((r - a).natAbs : ℤ) by omega, rise_within_iff] at h
    rw [decide_eq_true_eq, binPowCmp_eq _ hnum hden (by norm_num) (by omega), Ne, Nat.compare_eq_gt, not_lt,
      pow_mul_le_iff, Nat.cast_add, Nat.cast_ofNat]
    simpa using h
  · rfl
  · rw [show a = r + ((r - a).natAbs : ℤ) by omega, fall_within_iff] at h
    have := fall_enters hstep (not_le.1 hwide) h
    omega
  · rw [show a = r + ((r - a).natAbs : ℤ) by omega, fall_within_iff] at h
    rw [decide_eq_true_eq, binPowCmp_eq _ hnum hden (by omega) (by norm_num), Ne, Nat.compare_eq_gt, not_lt,
      pow_mul_le_iff, Nat.cast_sub ht, Nat.cast_ofNat]
    simpa using h

lemma binWithin_iff {decimals0 decimals1 : U8} (hmax : binStep < 2 ^ 16)
    (ht : t ≤ 10000) :
    binWithin binStep decimals0 decimals1 a r t = true ↔
      relativeMove (binPrice binStep a) (binPrice binStep r) ≤ t / 10000 := by
  unfold binWithin
  split_ifs with heq
  · rw [heq, relativeMove_self]
    exact iff_of_true rfl (by positivity)
  · split
    · rename_i before after hbefore hafter
      exact binPriceWithin_iff hbefore hafter ht
    · exact binExponentWithin_iff hstep hmax ht

end

end

/-! ### The smallest band -/

lemma smallestBand_eq {within : ℕ → Bool} {c lo hi : ℕ} (hlo : lo ≤ c) (hhi : c ≤ hi)
    (h : ∀ t ≤ hi, within t = true ↔ c ≤ t) : smallestBand within lo hi = c := by
  induction lo, hi using smallestBand.induct within with
  | case1 lo hi hlt mid hmid ih =>
    rw [smallestBand, if_pos hlt]
    dsimp only
    rw [if_pos hmid]
    exact ih hlo ((h mid (by omega)).1 hmid) fun t ht => h t (by omega)
  | case2 lo hi hlt mid hmid ih =>
    rw [smallestBand, if_pos hlt]
    dsimp only
    rw [if_neg hmid]
    have : ¬ c ≤ mid := fun hle => hmid ((h mid (by omega)).2 hle)
    exact ih (by omega) hhi h
  | case3 lo hi hlt =>
    rw [smallestBand, if_neg hlt]
    omega

lemma ceilingBps_eq {within : ℕ → Bool} {move : ℚ} (h : ∀ t ≤ 10000, within t = true ↔ move ≤ t / 10000) :
    ceilingBps within = Bps.new ⌈10000 * move⌉₊ := by
  have hceil : ∀ t ≤ 10000, within t = true ↔ ⌈10000 * move⌉₊ ≤ t := by
    intro t ht
    rw [h t ht, Nat.ceil_le, le_div_iff₀ (by norm_num), mul_comm]
  unfold ceilingBps
  by_cases hle : ⌈10000 * move⌉₊ ≤ 10000
  · rw [if_pos ((hceil 10000 le_rfl).2 hle), smallestBand_eq (Nat.zero_le _) hle hceil]
  · rw [if_neg (fun hw => hle ((hceil 10000 le_rfl).1 hw)), eq_comm, Option.eq_none_iff_forall_not_mem]
    intro b hb
    exact hle (Bps.new_eq_some.1 hb ▸ b.le)

/-- The move between two bins is found inside a band exactly when the ratio of their prices is, and its
impact is the ceiling of the relative move, known when that is a number of basis points. -/
theorem bin_impact_exact {binStep : ℕ} (decimals0 decimals1 : U8) (a b : ℤ) (hmin : 1 ≤ binStep)
    (hmax : binStep ≤ 1000) :
    (∀ t ≤ 10000, binWithin binStep decimals0 decimals1 a b t = true ↔
      (10000 - t : ℚ) / 10000 ≤ ((10000 + binStep) / 10000) ^ (b - a) ∧
        ((10000 + binStep) / 10000) ^ (b - a) ≤ (10000 + t : ℚ) / 10000) ∧
    (binImpactBps binStep decimals0 decimals1 a b).map Bps.get =
      let move : ℚ := |((10000 + binStep) / 10000) ^ (b - a) - 1|
      if ⌈10000 * move⌉₊ ≤ 10000 then some ⌈10000 * move⌉₊ else none := by
  have hwithin : ∀ t ≤ 10000, binWithin binStep decimals0 decimals1 a b t = true ↔
      |binPrice binStep (b - a) - 1| ≤ (t : ℚ) / 10000 := by
    intro t ht
    rw [binWithin_iff hmin (by omega) ht, relativeMove_binPrice]
  refine ⟨fun t ht => ?_, ?_⟩
  · rw [hwithin t ht, abs_le, binPrice]
    constructor <;> rintro ⟨hlow, hhigh⟩ <;> constructor <;> linarith
  · rw [binImpactBps, ceilingBps_eq hwithin]
    dsimp only [binPrice]
    unfold Bps.new
    split_ifs with hle
    · rfl
    · rfl

/-- A fall of five bins of ten basis points is one of 50, rounded up. -/
theorem sample_impact_exact :
    (binImpactBps 10 (.lit 6) (.lit 18) 8 3).map Bps.get = some 50 ∧
      (binWithin 10 (.lit 6) (.lit 18) 8 3 49 = true ↔
        (10000 - (49 : ℕ) : ℚ) / 10000 ≤ ((10000 + (10 : ℕ)) / 10000) ^ (3 - 8 : ℤ) ∧
          ((10000 + (10 : ℕ)) / 10000) ^ (3 - 8 : ℤ) ≤ (10000 + (49 : ℕ) : ℚ) / 10000) := by
  have h := @bin_impact_exact 10 (.lit 6) (.lit 18) 8 3 (by decide) (by decide)
  refine ⟨?_, h.1 49 (by decide)⟩
  rw [h.2]
  dsimp only
  have hceil : ⌈(10000 : ℚ) * |((10000 + (10 : ℕ) : ℚ) / 10000) ^ (3 - 8 : ℤ) - 1|⌉₊ = 50 := by
    rw [Nat.ceil_eq_iff (by decide)]
    norm_num [abs_of_neg]
  rw [hceil, if_pos (by decide)]

end PrivateExecution.Routing
