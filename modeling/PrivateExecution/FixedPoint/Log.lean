import Mathlib.Analysis.SpecialFunctions.Log.Basic
import Mathlib.Data.Nat.Bitwise

/-!
# Logarithms of fixed-point numbers

Fixed-point code multiplies and truncates; what it computes is seen best through the logarithm, where
a truncation is a small additive error (`log_div_bounds`, `log_sub_le_of_mul_le`).
-/

namespace PrivateExecution.FixedPoint

open Real

/-! ### Truncation -/

lemma log_div_bounds {n d : ℕ} (hd : 0 < d) (hq : 0 < n / d) :
    log (n / d : ℕ) ≤ log n - log d ∧ log n - log d ≤ log (n / d : ℕ) + 1 / (n / d : ℕ) := by
  have hn : 0 < n := Nat.pos_of_ne_zero (by rintro rfl; simp at hq)
  have hd' : (0 : ℝ) < d := by exact_mod_cast hd
  have hn' : (0 : ℝ) < n := by exact_mod_cast hn
  have hq' : (0 : ℝ) < (n / d : ℕ) := by exact_mod_cast hq
  rw [← log_div hn'.ne' hd'.ne']
  constructor
  · exact log_le_log hq' Nat.cast_div_le
  · have hlt : (n : ℝ) / d ≤ (n / d : ℕ) + 1 := by
      rw [div_le_iff₀ hd']
      exact_mod_cast (Nat.lt_mul_of_div_lt (Nat.lt_succ_self _) hd).le
    have hratio : log ((n : ℝ) / d / (n / d : ℕ)) ≤ (n : ℝ) / d / (n / d : ℕ) - 1 :=
      log_le_sub_one_of_pos (by positivity)
    rw [log_div (by positivity) hq'.ne'] at hratio
    have hle : (n : ℝ) / d / (n / d : ℕ) - 1 ≤ 1 / (n / d : ℕ) := by
      rw [div_sub_one hq'.ne', div_le_div_iff_of_pos_right hq']
      linarith
    linarith

lemma log_sub_le_of_mul_le {p a b : ℕ} (ha : 0 < a) (hb : 0 < b) (h : 2 ^ p * a ≤ (2 ^ p + 1) * b) :
    log a - log b ≤ 1 / 2 ^ p := by
  have ha' : (0 : ℝ) < a := by exact_mod_cast ha
  have hb' : (0 : ℝ) < b := by exact_mod_cast hb
  have h' : (2 : ℝ) ^ p * a ≤ (2 ^ p + 1) * b := by exact_mod_cast h
  have hratio : log ((a : ℝ) / b) ≤ a / b - 1 := log_le_sub_one_of_pos (by positivity)
  rw [log_div ha'.ne' hb'.ne'] at hratio
  have hle : (a : ℝ) / b - 1 ≤ 1 / 2 ^ p := by
    rw [div_sub_one hb'.ne', div_le_div_iff₀ hb' (by positivity)]
    linarith
  linarith

lemma log_sub_ge {x y loss : ℝ} (hx : 0 < x) (h0 : 0 ≤ loss) (hloss : loss ≤ 1 / 2)
    (hy : x * (1 - loss) ≤ y) : log x - 2 * loss ≤ log y := by
  have hpos : 0 < 1 - loss := by linarith
  have hlog : log x + log (1 - loss) ≤ log y := by
    rw [← log_mul hx.ne' hpos.ne']
    exact log_le_log (by positivity) hy
  have hinv : (1 - loss)⁻¹ ≤ 1 + 2 * loss := by
    rw [inv_le_iff_one_le_mul₀ hpos]
    nlinarith
  linarith [one_sub_inv_le_log_of_pos hpos]

/-! ### Tables of powers -/

/-- With `B` fractional bits, `c'` is the square of `c` up to one part in `2 ^ p`. -/
def SquareNear (p B c c' : ℕ) : Prop :=
  2 ^ p * (c * c) ≤ (2 ^ p + 1) * (c' * 2 ^ B) ∧ 2 ^ p * (c' * 2 ^ B) ≤ (2 ^ p + 1) * (c * c)

instance (p B c c' : ℕ) : Decidable (SquareNear p B c c') := inferInstanceAs (Decidable (_ ∧ _))

/-- The entries are the powers with exponents `2 ^ k, 2 ^ (k + 1), ...` of the base with logarithm
`κ`, up to a relative error of `ε` in the exponent. -/
def Powers (B : ℕ) (κ ε : ℝ) : ℕ → List ℕ → Prop
  | _, [] => True
  | k, c :: cs => 0 < c ∧ |log c - B * log 2 - κ * 2 ^ k| ≤ ε * 2 ^ k ∧ Powers B κ ε (k + 1) cs

lemma log_square {p B c c' : ℕ} (hc : 0 < c) (hc' : 0 < c') (h : SquareNear p B c c') :
    |log c' - B * log 2 - 2 * (log c - B * log 2)| ≤ 1 / 2 ^ p := by
  have h1 := log_sub_le_of_mul_le (Nat.mul_pos hc hc) (Nat.mul_pos hc' (Nat.two_pow_pos B)) h.1
  have h2 := log_sub_le_of_mul_le (Nat.mul_pos hc' (Nat.two_pow_pos B)) (Nat.mul_pos hc hc) h.2
  have hlog : log (c * c : ℕ) = 2 * log c := by
    push_cast
    rw [log_mul (by positivity) (by positivity)]
    ring
  have hlog' : log (c' * 2 ^ B : ℕ) = log c' + B * log 2 := by
    push_cast
    rw [log_mul (by positivity) (by positivity), log_pow]
  rw [hlog, hlog'] at h1 h2
  rw [abs_le]
  constructor <;> linarith

lemma log_root {p B c num den : ℕ} (hc : 0 < c) (hnum : 0 < num) (hden : 0 < den)
    (hle : 2 ^ p * (c * c * den) ≤ (2 ^ p + 1) * (num * 2 ^ (2 * B)))
    (hge : 2 ^ p * (num * 2 ^ (2 * B)) ≤ (2 ^ p + 1) * (c * c * den)) :
    |2 * (log c - B * log 2) - log (num / den)| ≤ 1 / 2 ^ p := by
  have hl : 0 < c * c * den := by positivity
  have hr : 0 < num * 2 ^ (2 * B) := by positivity
  have h1 := log_sub_le_of_mul_le hl hr hle
  have h2 := log_sub_le_of_mul_le hr hl hge
  have hlog : log (c * c * den : ℕ) = 2 * log c + log den := by
    push_cast
    rw [log_mul (by positivity) (by positivity), log_mul (by positivity) (by positivity)]
    ring
  have hlog' : log (num * 2 ^ (2 * B) : ℕ) = log num + 2 * (B * log 2) := by
    push_cast
    rw [log_mul (by positivity) (by positivity), log_pow]
    push_cast
    ring
  rw [hlog, hlog'] at h1 h2
  rw [log_div (by positivity) (by positivity), abs_le]
  constructor <;> linarith

/-- Repeated squaring doubles the error of the logarithm, and with it keeps its size relative to the
exponent. -/
lemma powers_of_squares {p B : ℕ} {κ ε : ℝ} :
    ∀ {cs : List ℕ} {k c : ℕ}, List.IsChain (SquareNear p B) (c :: cs) → (∀ d ∈ c :: cs, 0 < d) →
      |log c - B * log 2 - κ * 2 ^ k| ≤ ε * 2 ^ k - 1 / 2 ^ p → Powers B κ ε k (c :: cs) := by
  intro cs
  induction cs with
  | nil =>
    intro k c _ hpos hbase
    have hp : (0 : ℝ) ≤ 1 / 2 ^ p := by positivity
    exact ⟨hpos c List.mem_cons_self, hbase.trans (by linarith), trivial⟩
  | cons c' cs ih =>
    intro k c hchain hpos hbase
    obtain ⟨hsq, hrest⟩ := List.isChain_cons_cons.1 hchain
    have hc := hpos c List.mem_cons_self
    have hc' := hpos c' (List.mem_cons_of_mem _ List.mem_cons_self)
    have hp : (0 : ℝ) ≤ 1 / 2 ^ p := by positivity
    refine ⟨hc, hbase.trans (by linarith), ih hrest (fun d hd => hpos d (List.mem_cons_of_mem _ hd)) ?_⟩
    have hstep := abs_le.1 (log_square hc hc' hsq)
    have hprev := abs_le.1 hbase
    rw [abs_le, pow_succ]
    constructor <;> linarith

/-! ### Products over the set bits -/

/-- The truncated product of `a` with the entries of the set bits of `n`, from bit `k` on. -/
def bitProduct (B n : ℕ) : ℕ → List ℕ → ℕ → ℕ
  | _, [], a => a
  | k, c :: cs, a => bitProduct B n (k + 1) cs (if n.testBit k then a * c / 2 ^ B else a)

noncomputable def bitFactor (B n : ℕ) : ℕ → List ℕ → ℝ
  | _, [] => 1
  | k, c :: cs => (if n.testBit k then (c : ℝ) / 2 ^ B else 1) * bitFactor B n (k + 1) cs

noncomputable def bitPeak (B n : ℕ) : ℕ → List ℕ → ℝ
  | _, [] => 1
  | k, c :: cs => (if n.testBit k then max 1 ((c : ℝ) / 2 ^ B) else 1) * bitPeak B n (k + 1) cs

section

variable {B n : ℕ}

lemma bitFactor_nonneg : ∀ (k : ℕ) (cs : List ℕ), 0 ≤ bitFactor B n k cs
  | _, [] => zero_le_one
  | k, c :: cs => by
    refine mul_nonneg ?_ (bitFactor_nonneg (k + 1) cs)
    split_ifs
    · positivity
    · exact zero_le_one

lemma one_le_bitPeak : ∀ (k : ℕ) (cs : List ℕ), 1 ≤ bitPeak B n k cs
  | _, [] => le_rfl
  | k, c :: cs => by
    refine one_le_mul_of_one_le_of_one_le ?_ (one_le_bitPeak (k + 1) cs)
    split_ifs
    · exact le_max_left _ _
    · exact le_rfl

lemma bitFactor_le_bitPeak : ∀ (k : ℕ) (cs : List ℕ), bitFactor B n k cs ≤ bitPeak B n k cs
  | _, [] => le_rfl
  | k, c :: cs => by
    refine mul_le_mul ?_ (bitFactor_le_bitPeak (k + 1) cs) (bitFactor_nonneg _ _) ?_
    · split_ifs
      · exact le_max_right _ _
      · exact le_rfl
    · split_ifs <;> positivity

lemma bitProduct_bounds : ∀ (k : ℕ) (cs : List ℕ) (a : ℕ),
    a * bitFactor B n k cs - cs.length * bitPeak B n k cs ≤ bitProduct B n k cs a ∧
      (bitProduct B n k cs a : ℝ) ≤ a * bitFactor B n k cs
  | _, [], a => by simp [bitProduct, bitFactor, bitPeak]
  | k, c :: cs, a => by
    have hE := bitFactor_nonneg (B := B) (n := n) (k + 1) cs
    have hK := one_le_bitPeak (B := B) (n := n) (k + 1) cs
    have hEK := bitFactor_le_bitPeak (B := B) (n := n) (k + 1) cs
    simp only [bitProduct, bitFactor, bitPeak, List.length_cons, Nat.cast_add, Nat.cast_one]
    by_cases hbit : n.testBit k
    · simp only [hbit, if_true]
      obtain ⟨hlow, hhigh⟩ := bitProduct_bounds (k + 1) cs (a * c / 2 ^ B)
      have hle : ((a * c / 2 ^ B : ℕ) : ℝ) ≤ a * (c / 2 ^ B) := by
        refine Nat.cast_div_le.trans (le_of_eq ?_)
        push_cast
        ring
      have hge : (a : ℝ) * (c / 2 ^ B) - 1 ≤ (a * c / 2 ^ B : ℕ) := by
        have := Nat.lt_mul_of_div_lt (Nat.lt_succ_self (a * c / 2 ^ B)) (Nat.two_pow_pos B)
        have hcast : (a : ℝ) * c ≤ ((a * c / 2 ^ B : ℕ) + 1) * 2 ^ B := by exact_mod_cast this.le
        rw [← mul_div_assoc, sub_le_iff_le_add, div_le_iff₀ (by positivity)]
        linarith
      have hmax : bitPeak B n (k + 1) cs ≤ max 1 ((c : ℝ) / 2 ^ B) * bitPeak B n (k + 1) cs :=
        le_mul_of_one_le_left (by linarith) (le_max_left _ _)
      constructor
      · have h1 := mul_le_mul_of_nonneg_right hge hE
        have h2 := mul_le_mul_of_nonneg_left hmax (by positivity : (0 : ℝ) ≤ cs.length)
        nlinarith
      · have h1 := mul_le_mul_of_nonneg_right hle hE
        nlinarith
    · simp only [hbit, Bool.false_eq_true, if_false, one_mul]
      obtain ⟨hlow, hhigh⟩ := bitProduct_bounds (k + 1) cs a
      exact ⟨by linarith, hhigh⟩

lemma bits_succ (k : ℕ) :
    n / 2 ^ k * 2 ^ k = (if n.testBit k then 2 ^ k else 0) + n / 2 ^ (k + 1) * 2 ^ (k + 1) := by
  have hbit : n.testBit k = decide (n / 2 ^ k % 2 = 1) := Nat.testBit_eq_decide_div_mod_eq
  have hdiv : n / 2 ^ (k + 1) = n / 2 ^ k / 2 := by rw [pow_succ, Nat.div_div_eq_div_mul]
  have hmod := Nat.div_add_mod (n / 2 ^ k) 2
  rw [hdiv, hbit, pow_succ]
  generalize n / 2 ^ k = m at *
  rcases Nat.mod_two_eq_zero_or_one m with h | h
  · rw [h, if_neg (by decide), Nat.zero_add]
    rw [h, Nat.add_zero] at hmod
    calc m * 2 ^ k = 2 * (m / 2) * 2 ^ k := by rw [hmod]
      _ = m / 2 * (2 ^ k * 2) := by ring
  · rw [h, if_pos (by decide)]
    rw [h] at hmod
    calc m * 2 ^ k = (2 * (m / 2) + 1) * 2 ^ k := by rw [hmod]
      _ = 2 ^ k + m / 2 * (2 ^ k * 2) := by ring

lemma log_bitFactor {κ ε : ℝ} : ∀ {k : ℕ} {cs : List ℕ}, Powers B κ ε k cs → n < 2 ^ (k + cs.length) →
    0 < bitFactor B n k cs ∧
      |log (bitFactor B n k cs) - κ * (n / 2 ^ k * 2 ^ k : ℕ)| ≤ ε * (n / 2 ^ k * 2 ^ k : ℕ)
  | k, [], _, hlt => by
    have hzero : n / 2 ^ k = 0 := Nat.div_eq_of_lt hlt
    simp [bitFactor, hzero]
  | k, c :: cs, ⟨hc, hentry, hrest⟩, hlt => by
    have hlt' : n < 2 ^ (k + 1 + cs.length) := by
      rwa [List.length_cons, ← Nat.add_assoc, Nat.add_right_comm] at hlt
    obtain ⟨hpos, hlog⟩ := log_bitFactor hrest hlt'
    have hc' : (0 : ℝ) < c := by exact_mod_cast hc
    rw [bits_succ, bitFactor]
    by_cases hbit : n.testBit k
    · simp only [hbit, if_true]
      have hfactor : log ((c : ℝ) / 2 ^ B) = log c - B * log 2 := by
        rw [log_div hc'.ne' (by positivity), log_pow]
      refine ⟨by positivity, ?_⟩
      rw [log_mul (by positivity) hpos.ne', hfactor]
      push_cast at hlog ⊢
      have h1 := abs_le.1 hentry
      have h2 := abs_le.1 hlog
      rw [abs_le]
      constructor <;> linarith
    · simp only [hbit, Bool.false_eq_true, if_false, one_mul, Nat.zero_add]
      exact ⟨hpos, hlog⟩

end

end PrivateExecution.FixedPoint
