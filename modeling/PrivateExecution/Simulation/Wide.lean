import PrivateExecution.Domain.Preview
import Mathlib.Algebra.Order.Floor.Div
import Mathlib.Data.Nat.Bitwise
import Mathlib.Tactic.Ring

/-!
# Wide products and quotients

The 256-bit helpers all quoting code is written with (`simulation/src/cpmm.rs`). A product is kept as
two 128-bit halves; a quotient of such a pair is taken by long division, one bit of the low half at a
time, on a 128-bit remainder whose overflowing top bit is looked at before the shift.
-/

namespace PrivateExecution

/-! ### Products -/

lemma mulU128Wide_eq {a b : ℕ} (ha : a < 2 ^ 128) (hb : b < 2 ^ 128) :
    mulU128Wide a b = (a * b / 2 ^ 128, a * b % 2 ^ 128) := by
  have ha0 : a % 2 ^ 64 < 2 ^ 64 := Nat.mod_lt _ (by norm_num)
  have hb0 : b % 2 ^ 64 < 2 ^ 64 := Nat.mod_lt _ (by norm_num)
  have ha1 : a / 2 ^ 64 < 2 ^ 64 := Nat.div_lt_of_lt_mul (by omega)
  have hb1 : b / 2 ^ 64 < 2 ^ 64 := Nat.div_lt_of_lt_mul (by omega)
  have hab : a * b = a / 2 ^ 64 * (b / 2 ^ 64) * 2 ^ 128 +
      (a % 2 ^ 64 * (b / 2 ^ 64) + a / 2 ^ 64 * (b % 2 ^ 64)) * 2 ^ 64 +
      a % 2 ^ 64 * (b % 2 ^ 64) := by
    conv_lhs => rw [← Nat.div_add_mod a (2 ^ 64), ← Nat.div_add_mod b (2 ^ 64)]
    ring
  -- The partial products stay as atoms; only that each is a product of two limbs matters.
  have hp : ∀ x y : ℕ, x < 2 ^ 64 → y < 2 ^ 64 → x * y ≤ (2 ^ 64 - 1) * (2 ^ 64 - 1) :=
    fun x y hx hy => Nat.mul_le_mul (by omega) (by omega)
  have h1 := hp _ _ ha0 hb1
  have h2 := hp _ _ ha1 hb0
  have h0 := hp _ _ ha0 hb0
  rw [hab]
  unfold mulU128Wide
  dsimp only
  generalize a % 2 ^ 64 * (b / 2 ^ 64) = p1 at *
  generalize a / 2 ^ 64 * (b % 2 ^ 64) = p2 at *
  generalize a % 2 ^ 64 * (b % 2 ^ 64) = p0 at *
  generalize a / 2 ^ 64 * (b / 2 ^ 64) = p3 at *
  clear hab hp ha0 hb0 ha1 hb1 ha hb
  refine Prod.ext ?_ ?_
  · dsimp only
    split_ifs <;> omega
  · dsimp only
    omega

lemma cmpU128Products_eq {a b c d : ℕ} (ha : a < 2 ^ 128) (hb : b < 2 ^ 128) (hc : c < 2 ^ 128)
    (hd : d < 2 ^ 128) : cmpU128Products a b c d = compare (a * b) (c * d) := by
  simp only [cmpU128Products, mulU128Wide_eq ha hb, mulU128Wide_eq hc hd, Nat.compare_eq_ite_lt]
  split_ifs <;> first | rfl | omega

/-! ### Quotients -/

/-- One round of the long division below: shift in bit `i` of `lo`, subtract if it fits. The 128-bit
remainder wraps when its top bit is shifted out. -/
def divRound (lo den : ℕ) (acc : ℕ × ℕ) (i : ℕ) : ℕ × ℕ :=
  let rem := (2 * acc.1 + lo / 2 ^ i % 2) % 2 ^ 128
  if acc.1 / 2 ^ 127 ≠ 0 ∨ den ≤ rem then ((rem + 2 ^ 128 - den) % 2 ^ 128, acc.2 + 2 ^ i)
  else (rem, acc.2)

def divU256ByU128Floor (hi lo den : ℕ) : Option ℕ :=
  if den = 0 ∨ den ≤ hi then none
  else if hi = 0 then some (lo / den)
  else some ((List.range 128).reverse.foldl (divRound lo den) (hi, 0)).2

def divU256ByU128Ceil (hi lo den : ℕ) : Option ℕ := do
  let quotient ← divU256ByU128Floor hi lo den
  if mulU128Wide quotient den ≠ (hi, lo) then
    if quotient + 1 < 2 ^ 128 then some (quotient + 1) else none
  else some quotient

/-- The rounds over the bits `i - 1, ..., 0`: what is left to divide is the remainder followed by
these bits. -/
lemma divRounds_eq {lo den : ℕ} (hden : den < 2 ^ 128) :
    ∀ {i rem q : ℕ}, rem < den →
      ((List.range i).reverse.foldl (divRound lo den) (rem, q)).2 = q + (rem * 2 ^ i + lo % 2 ^ i) / den := by
  intro i
  induction i with
  | zero =>
    intro rem q hrem
    simp [Nat.mod_one, Nat.div_eq_of_lt hrem]
  | succ i ih =>
    intro rem q hrem
    have hbit : lo / 2 ^ i % 2 < 2 := Nat.mod_lt _ (by norm_num)
    have hlow : lo % 2 ^ (i + 1) = lo % 2 ^ i + 2 ^ i * (lo / 2 ^ i % 2) := Nat.mod_pow_succ
    rw [List.range_succ, List.reverse_append, List.reverse_singleton, List.singleton_append,
      List.foldl_cons, divRound, hlow]
    generalize lo / 2 ^ i % 2 = bit at *
    -- `2 * rem + bit` is the exact value the shifted remainder stands for.
    have hnum : rem * 2 ^ (i + 1) + (lo % 2 ^ i + 2 ^ i * bit) =
        (2 * rem + bit) * 2 ^ i + lo % 2 ^ i := by ring
    rw [hnum]
    dsimp only
    by_cases hfits : den ≤ 2 * rem + bit
    · have hrem' : ((2 * rem + bit) % 2 ^ 128 + 2 ^ 128 - den) % 2 ^ 128 = 2 * rem + bit - den := by
        omega
      have hsplit : (2 * rem + bit) * 2 ^ i + lo % 2 ^ i =
          (2 * rem + bit - den) * 2 ^ i + lo % 2 ^ i + den * 2 ^ i := by
        obtain ⟨k, hk⟩ := Nat.exists_eq_add_of_le hfits
        rw [hk, Nat.add_sub_cancel_left]
        ring
      rw [if_pos (by omega), hrem', ih (by omega), hsplit, Nat.add_mul_div_left _ _ (by omega : 0 < den)]
      ring
    · rw [if_neg (by omega), Nat.mod_eq_of_lt (by omega : 2 * rem + bit < 2 ^ 128), ih (by omega)]

lemma divU256ByU128Floor_eq {hi lo den : ℕ} (hlo : lo < 2 ^ 128) (hden : den < 2 ^ 128) :
    divU256ByU128Floor hi lo den = if den ≤ hi then none else some ((hi * 2 ^ 128 + lo) / den) := by
  unfold divU256ByU128Floor
  by_cases hle : den ≤ hi
  · simp [hle]
  · rw [if_neg (by omega), if_neg hle]
    split_ifs with hzero
    · rw [hzero, Nat.zero_mul, Nat.zero_add]
    · rw [divRounds_eq hden (not_le.1 hle), Nat.zero_add, Nat.mod_eq_of_lt hlo]

lemma divU256ByU128Floor_eq_some {hi lo den q : ℕ} (hlo : lo < 2 ^ 128) (hden : den < 2 ^ 128) :
    divU256ByU128Floor hi lo den = some q ↔ 0 < den ∧ q = (hi * 2 ^ 128 + lo) / den ∧ q < 2 ^ 128 := by
  rw [divU256ByU128Floor_eq hlo hden]
  rcases Nat.eq_zero_or_pos den with rfl | hpos
  · simp
  · have hfits : den ≤ hi ↔ ¬(hi * 2 ^ 128 + lo) / den < 2 ^ 128 := by
      rw [not_lt, Nat.le_div_iff_mul_le hpos]
      omega
    by_cases h : (hi * 2 ^ 128 + lo) / den < 2 ^ 128
    · rw [if_neg (by rw [hfits]; exact not_not.2 h), Option.some.injEq, eq_comm]
      exact ⟨fun e => ⟨hpos, e, e ▸ h⟩, fun e => e.2.1⟩
    · rw [if_pos (hfits.2 h)]
      exact ⟨nofun, fun e => absurd (e.2.1 ▸ e.2.2) h⟩

lemma ceilDiv_eq_ite {n den : ℕ} (hpos : 0 < den) :
    n ⌈/⌉ den = if n / den * den = n then n / den else n / den + 1 := by
  have hdiv := Nat.div_add_mod' n den
  have hmod := Nat.mod_lt n hpos
  rw [Nat.ceilDiv_eq_add_pred_div]
  split_ifs with hexact
  · rw [← hexact, Nat.add_sub_assoc hpos, Nat.add_comm, Nat.add_mul_div_right _ _ hpos,
      Nat.div_eq_of_lt (by omega), Nat.zero_add, hexact]
  · have hsum : n + den - 1 = n % den - 1 + (n / den + 1) * den := by
      rw [Nat.add_mul, Nat.one_mul]
      omega
    rw [hsum, Nat.add_mul_div_right _ _ hpos, Nat.div_eq_of_lt (by omega), Nat.zero_add]

lemma divU256ByU128Ceil_eq_some {hi lo den q : ℕ} (hlo : lo < 2 ^ 128) (hden : den < 2 ^ 128) :
    divU256ByU128Ceil hi lo den = some q ↔ 0 < den ∧ q = (hi * 2 ^ 128 + lo) ⌈/⌉ den ∧ q < 2 ^ 128 := by
  generalize hn : hi * 2 ^ 128 + lo = n
  have hfloor : ∀ f, divU256ByU128Floor hi lo den = some f ↔ 0 < den ∧ f = n / den ∧ f < 2 ^ 128 := by
    intro f
    rw [divU256ByU128Floor_eq_some hlo hden, hn]
  by_cases hfits : 0 < den ∧ n / den < 2 ^ 128
  · obtain ⟨hpos, hlt⟩ := hfits
    have hexact : mulU128Wide (n / den) den = (hi, lo) ↔ n / den * den = n := by
      rw [mulU128Wide_eq hlt hden, Prod.mk.injEq]
      omega
    rw [divU256ByU128Ceil, (hfloor _).2 ⟨hpos, rfl, hlt⟩, ceilDiv_eq_ite hpos, Option.bind_eq_bind,
      Option.bind_some]
    by_cases hex : n / den * den = n
    · rw [if_neg (not_not.2 (hexact.2 hex)), if_pos hex, Option.some.injEq, eq_comm]
      exact ⟨fun e => ⟨hpos, e, e ▸ hlt⟩, fun e => e.2.1⟩
    · rw [if_pos (mt hexact.1 hex), if_neg hex, Option.ite_none_right_eq_some, Option.some.injEq]
      exact ⟨fun e => ⟨hpos, e.2.symm, e.2 ▸ e.1⟩, fun e => ⟨e.2.1 ▸ e.2.2, e.2.1.symm⟩⟩
  · have hnone : divU256ByU128Floor hi lo den = none :=
      Option.eq_none_iff_forall_ne_some.2 fun f hf =>
        hfits ⟨((hfloor f).1 hf).1, ((hfloor f).1 hf).2.1 ▸ ((hfloor f).1 hf).2.2⟩
    rw [divU256ByU128Ceil, hnone, Option.bind_eq_bind, Option.bind_none]
    refine ⟨nofun, fun ⟨hpos, hq, hlt⟩ => absurd ⟨hpos, ?_⟩ hfits⟩
    rw [hq, ceilDiv_eq_ite hpos] at hlt
    split_ifs at hlt <;> omega

/-! ### Products divided -/

section

variable {a b den q : ℕ}

lemma divFloor_mul_eq_some (ha : a < 2 ^ 128) (hb : b < 2 ^ 128) (hden : den < 2 ^ 128) :
    divU256ByU128Floor (mulU128Wide a b).1 (mulU128Wide a b).2 den = some q ↔
      0 < den ∧ q = a * b / den ∧ q < 2 ^ 128 := by
  rw [mulU128Wide_eq ha hb, divU256ByU128Floor_eq_some (Nat.mod_lt _ (by norm_num)) hden,
    Nat.div_add_mod']

lemma divCeil_mul_eq_some (ha : a < 2 ^ 128) (hb : b < 2 ^ 128) (hden : den < 2 ^ 128) :
    divU256ByU128Ceil (mulU128Wide a b).1 (mulU128Wide a b).2 den = some q ↔
      0 < den ∧ q = a * b ⌈/⌉ den ∧ q < 2 ^ 128 := by
  rw [mulU128Wide_eq ha hb, divU256ByU128Ceil_eq_some (Nat.mod_lt _ (by norm_num)) hden,
    Nat.div_add_mod']

end

/-- A product divided, rounded down, as the callers write it. -/
def mulDivFloor (a b den : U128) : Option U128 :=
  (divU256ByU128Floor (mulU128Wide a.val b.val).1 (mulU128Wide a.val b.val).2 den.val).bind
    Unsigned.ofNat?

def mulDivCeil (a b den : U128) : Option U128 :=
  (divU256ByU128Ceil (mulU128Wide a.val b.val).1 (mulU128Wide a.val b.val).2 den.val).bind
    Unsigned.ofNat?

lemma mulDivFloor_eq_some {a b den q : U128} :
    mulDivFloor a b den = some q ↔ 0 < den.val ∧ q.val = a.val * b.val / den.val := by
  simp only [mulDivFloor, Option.bind_eq_some_iff, divFloor_mul_eq_some a.lt b.lt den.lt,
    Unsigned.ofNat?_eq_some]
  exact ⟨fun ⟨_, ⟨hpos, hv, _⟩, hq⟩ => ⟨hpos, hq.trans hv⟩,
    fun ⟨hpos, hq⟩ => ⟨q.val, ⟨hpos, hq, q.lt⟩, rfl⟩⟩

lemma mulDivCeil_eq_some {a b den q : U128} :
    mulDivCeil a b den = some q ↔ 0 < den.val ∧ q.val = a.val * b.val ⌈/⌉ den.val := by
  simp only [mulDivCeil, Option.bind_eq_some_iff, divCeil_mul_eq_some a.lt b.lt den.lt,
    Unsigned.ofNat?_eq_some]
  exact ⟨fun ⟨_, ⟨hpos, hv, _⟩, hq⟩ => ⟨hpos, hq.trans hv⟩,
    fun ⟨hpos, hq⟩ => ⟨q.val, ⟨hpos, hq, q.lt⟩, rfl⟩⟩

end PrivateExecution
