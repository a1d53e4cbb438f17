import Mathlib.Data.Nat.Digits.Defs

/-!
# Numbers in limbs

Numbers of any size as lists of limbs below a base `B`, lowest limb first; the number is
`Nat.ofDigits B`. Multiplication by one limb carries upwards, trimming drops the zero limbs at the top,
and two trimmed numbers are compared by their lengths and then from the top (`cmpLimbs_eq`).
-/

namespace PrivateExecution.FixedPoint

variable {B factor : ℕ}

def mulLimbs (B factor : ℕ) : List ℕ → ℕ → List ℕ
  | [], carry => if carry = 0 then [] else [carry % B]
  | limb :: rest, carry =>
    let acc := limb * factor + carry
    acc % B :: mulLimbs B factor rest (acc / B)

def trimLimbs (l : List ℕ) : List ℕ :=
  if 1 < l.length ∧ l.getLast? = some 0 then trimLimbs l.dropLast else l
termination_by l.length

def cmpLimbs (l r : List ℕ) : Ordering :=
  if l.length ≠ r.length then compare l.length r.length else compare l.reverse r.reverse

def mulSmall (B : ℕ) (l : List ℕ) (factor : ℕ) : List ℕ := trimLimbs (mulLimbs B factor l 0)

def powLimbs (B base : ℕ) : ℕ → List ℕ
  | 0 => [1]
  | n + 1 => mulSmall B (powLimbs B base n) base

structure Canonical (B : ℕ) (l : List ℕ) : Prop where
  lt : ∀ d ∈ l, d < B
  ne : l ≠ []
  top : 1 < l.length → l.getLast? ≠ some 0

/-! ### Multiplication -/

lemma mulLimbs_lt (hB : 0 < B) : ∀ {l : List ℕ} {carry : ℕ}, ∀ d ∈ mulLimbs B factor l carry, d < B
  | [], carry => by
    unfold mulLimbs
    split_ifs
    · simp
    · simp [Nat.mod_lt _ hB]
  | limb :: rest, carry => by
    simp only [mulLimbs, List.mem_cons, forall_eq_or_imp]
    exact ⟨Nat.mod_lt _ hB, mulLimbs_lt hB⟩

lemma ofDigits_mulLimbs (hfactor : factor < B) :
    ∀ {l : List ℕ} {carry : ℕ}, (∀ d ∈ l, d < B) → carry < B →
      Nat.ofDigits B (mulLimbs B factor l carry) = Nat.ofDigits B l * factor + carry
  | [], carry, _, hcarry => by
    unfold mulLimbs
    split_ifs with h
    · simp [h]
    · simp [Nat.mod_eq_of_lt hcarry]
  | limb :: rest, carry, hl, hcarry => by
    simp only [List.mem_cons, forall_eq_or_imp] at hl
    -- The carry stays a limb: `(B - 1) * (B - 1) + (B - 1) < B * B`.
    have hnext : (limb * factor + carry) / B < B := by
      have hprod : limb * factor ≤ (B - 1) * (B - 1) := Nat.mul_le_mul (by omega) (by omega)
      have hsq : (B - 1) * (B - 1) + (B - 1) = (B - 1) * B := by
        conv_rhs => rw [show B = B - 1 + 1 by omega]
        rw [Nat.add_sub_cancel, Nat.mul_succ]
      have hlt : (B - 1) * B < B * B := Nat.mul_lt_mul_of_pos_right (by omega) (by omega)
      exact Nat.div_lt_of_lt_mul (by omega)
    have hdiv := Nat.div_add_mod (limb * factor + carry) B
    simp only [mulLimbs, Nat.ofDigits_cons, ofDigits_mulLimbs hfactor hl.2 hnext]
    calc (limb * factor + carry) % B + B * (Nat.ofDigits B rest * factor + (limb * factor + carry) / B)
        = B * ((limb * factor + carry) / B) + (limb * factor + carry) % B +
            B * Nat.ofDigits B rest * factor := by ring
      _ = (limb + B * Nat.ofDigits B rest) * factor + carry := by rw [hdiv]; ring

lemma mulLimbs_ne_nil {l : List ℕ} {carry : ℕ} (h : l ≠ []) : mulLimbs B factor l carry ≠ [] := by
  cases l with
  | nil => exact absurd rfl h
  | cons limb rest => simp [mulLimbs]

/-! ### Trimming -/

lemma ofDigits_trimLimbs (l : List ℕ) : Nat.ofDigits B (trimLimbs l) = Nat.ofDigits B l := by
  induction l using trimLimbs.induct with
  | case1 l h ih =>
    rw [trimLimbs, if_pos h, ih]
    obtain ⟨init, hinit⟩ := List.getLast?_eq_some_iff.1 h.2
    rw [hinit, List.dropLast_concat, Nat.ofDigits_append_zero]
  | case2 l h => rw [trimLimbs, if_neg h]

lemma canonical_trimLimbs {l : List ℕ} (hlt : ∀ d ∈ l, d < B) (hne : l ≠ []) : Canonical B (trimLimbs l) := by
  induction l using trimLimbs.induct with
  | case1 l h ih =>
    rw [trimLimbs, if_pos h]
    refine ih (fun d hd => hlt d (List.dropLast_subset l hd)) ?_
    rw [← List.length_pos_iff, List.length_dropLast]
    omega
  | case2 l h =>
    rw [trimLimbs, if_neg h]
    exact ⟨hlt, hne, fun hlen htop => h ⟨hlen, htop⟩⟩

lemma canonical_mulSmall {l : List ℕ} (hB : 0 < B) (h : Canonical B l) : Canonical B (mulSmall B l factor) :=
  canonical_trimLimbs (mulLimbs_lt hB) (mulLimbs_ne_nil h.ne)

lemma ofDigits_mulSmall {l : List ℕ} (hfactor : factor < B) (h : Canonical B l) :
    Nat.ofDigits B (mulSmall B l factor) = Nat.ofDigits B l * factor := by
  rw [mulSmall, ofDigits_trimLimbs, ofDigits_mulLimbs hfactor h.lt (by omega), Nat.add_zero]

lemma canonical_powLimbs {base : ℕ} (hB : 1 < B) : ∀ n, Canonical B (powLimbs B base n)
  | 0 => ⟨by simpa [powLimbs] using hB, by simp [powLimbs], by simp [powLimbs]⟩
  | n + 1 => canonical_mulSmall (by omega) (canonical_powLimbs hB n)

lemma ofDigits_powLimbs {base : ℕ} (hB : 1 < B) (hbase : base < B) :
    ∀ n, Nat.ofDigits B (powLimbs B base n) = base ^ n
  | 0 => by simp [powLimbs]
  | n + 1 => by
    rw [powLimbs, ofDigits_mulSmall hbase (canonical_powLimbs hB n), ofDigits_powLimbs hB hbase n,
      pow_succ]

/-! ### Comparison -/

lemma compare_append_singleton :
    ∀ {l r : List ℕ} {a b : ℕ}, l.length = r.length →
      compare (l ++ [a]) (r ++ [b]) = (compare l r).then (compare a b)
  | [], [], a, b, _ => by simp [List.compare_cons_cons]
  | x :: l, y :: r, a, b, h => by
    simp only [List.cons_append, List.compare_cons_cons,
      compare_append_singleton (Nat.succ.inj h), Ordering.then_assoc]

lemma compare_limb {a b x y : ℕ} (ha : a < B) (hb : b < B) :
    compare (a + B * x) (b + B * y) = (compare x y).then (compare a b) := by
  rcases lt_trichotomy x y with h | h | h
  · have : B * (x + 1) ≤ B * y := Nat.mul_le_mul_left _ h
    rw [Nat.mul_add] at this
    rw [Nat.compare_eq_lt.2 h, Nat.compare_eq_lt.2 (by omega)]
    rfl
  · subst h
    rw [Nat.compare_eq_eq.2 rfl]
    simp only [Nat.compare_eq_ite_lt, Ordering.then]
    split_ifs <;> first | rfl | omega
  · have : B * (y + 1) ≤ B * x := Nat.mul_le_mul_left _ h
    rw [Nat.mul_add] at this
    rw [Nat.compare_eq_gt.2 h, Nat.compare_eq_gt.2 (by omega)]
    rfl

lemma compare_reverse :
    ∀ {l r : List ℕ}, (∀ d ∈ l, d < B) → (∀ d ∈ r, d < B) → l.length = r.length →
      compare l.reverse r.reverse = compare (Nat.ofDigits B l) (Nat.ofDigits B r)
  | [], [], _, _, _ => by simp
  | a :: l, b :: r, hl, hr, h => by
    simp only [List.mem_cons, forall_eq_or_imp] at hl hr
    rw [List.reverse_cons, List.reverse_cons, compare_append_singleton (by simpa using h),
      compare_reverse hl.2 hr.2 (Nat.succ.inj h), Nat.ofDigits_cons, Nat.ofDigits_cons]
    exact (compare_limb hl.1 hr.1).symm

lemma ofDigits_lt_of_length {l r : List ℕ} (hB : 1 < B) (hl : Canonical B l) (hr : Canonical B r)
    (h : l.length < r.length) : Nat.ofDigits B l < Nat.ofDigits B r := by
  have hpos : 0 < l.length := List.length_pos_iff.2 hl.ne
  obtain ⟨top, htop⟩ : ∃ top, r.getLast? = some top :=
    ⟨_, List.getLast?_eq_some_getLast hr.ne⟩
  have hne : top ≠ 0 := fun h0 => hr.top (by omega) (h0 ▸ htop)
  obtain ⟨init, hinit⟩ := List.getLast?_eq_some_iff.1 htop
  have hlen : l.length ≤ init.length := by
    rw [hinit, List.length_append, List.length_singleton] at h
    omega
  calc Nat.ofDigits B l < B ^ l.length := Nat.ofDigits_lt_base_pow_length hB hl.lt
    _ ≤ B ^ init.length := Nat.pow_le_pow_right (by omega) hlen
    _ ≤ B ^ init.length * top := Nat.le_mul_of_pos_right _ (Nat.pos_of_ne_zero hne)
    _ ≤ Nat.ofDigits B r := by
      rw [hinit, Nat.ofDigits_append, Nat.ofDigits_singleton]
      exact Nat.le_add_left _ _

lemma cmpLimbs_eq {l r : List ℕ} (hB : 1 < B) (hl : Canonical B l) (hr : Canonical B r) :
    cmpLimbs l r = compare (Nat.ofDigits B l) (Nat.ofDigits B r) := by
  unfold cmpLimbs
  split_ifs with h
  · rcases Nat.lt_or_gt_of_ne h with hlt | hgt
    · rw [Nat.compare_eq_lt.2 hlt, Nat.compare_eq_lt.2 (ofDigits_lt_of_length hB hl hr hlt)]
    · rw [Nat.compare_eq_gt.2 hgt, Nat.compare_eq_gt.2 (ofDigits_lt_of_length hB hr hl hgt)]
  · exact compare_reverse hl.lt hr.lt (not_not.1 h)

end PrivateExecution.FixedPoint
