import PrivateExecution.Simulation.Wide
import Mathlib.Data.Nat.Log

/-!
# 512-bit integers

The integer type of the concentrated liquidity kernel (`simulation/src/clmm.rs`, `U512`): four 128-bit
limbs, the lowest first, with shifts, checked addition and subtraction and a shift-and-subtract
division.
-/

namespace PrivateExecution

def Unsigned.wrap {w : ℕ} (n : ℕ) : Unsigned w := ⟨n % 2 ^ w, Nat.mod_lt _ (Nat.two_pow_pos w)⟩

@[simp] lemma Unsigned.wrap_val {w n : ℕ} : (Unsigned.wrap n : Unsigned w).val = n % 2 ^ w := (rfl)

def Unsigned.leadingZeros (x : U128) : ℕ := if x.val = 0 then 128 else 127 - Nat.log2 x.val

@[ext] structure U512 where
  w0 : U128
  w1 : U128
  w2 : U128
  w3 : U128
deriving DecidableEq

namespace U512

variable (x : U512) (a b : U128)

def toNat : ℕ :=
  x.w0.val + 2 ^ 128 * (x.w1.val + 2 ^ 128 * (x.w2.val + 2 ^ 128 * x.w3.val))

/-! ### Limb by limb -/

def zero : U512 := ⟨.zero, .zero, .zero, .zero⟩

def one : U512 := ⟨.lit 1, .zero, .zero, .zero⟩

def fromU128 (a : U128) : U512 := ⟨a, .zero, .zero, .zero⟩

def mulU128 : U512 :=
  ⟨.wrap (mulU128Wide a.val b.val).2, .wrap (mulU128Wide a.val b.val).1, .zero, .zero⟩

/-- The bits an or joins are disjoint, so it is written as a sum. -/
def shl64 : Option U512 :=
  if x.w3.val / 2 ^ 64 ≠ 0 then none
  else some ⟨.wrap (x.w0.val * 2 ^ 64), .wrap (x.w1.val * 2 ^ 64 + x.w0.val / 2 ^ 64),
    .wrap (x.w2.val * 2 ^ 64 + x.w1.val / 2 ^ 64), .wrap (x.w3.val * 2 ^ 64 + x.w2.val / 2 ^ 64)⟩

def shl1 : Option U512 :=
  if x.w3.val / 2 ^ 127 ≠ 0 then none
  else some ⟨.wrap (x.w0.val * 2), .wrap (x.w1.val * 2 + x.w0.val / 2 ^ 127),
    .wrap (x.w2.val * 2 + x.w1.val / 2 ^ 127), .wrap (x.w3.val * 2 + x.w2.val / 2 ^ 127)⟩

def shr1 : U512 :=
  ⟨.wrap (x.w0.val / 2 + x.w1.val * 2 ^ 127 % 2 ^ 128),
    .wrap (x.w1.val / 2 + x.w2.val * 2 ^ 127 % 2 ^ 128),
    .wrap (x.w2.val / 2 + x.w3.val * 2 ^ 127 % 2 ^ 128), .wrap (x.w3.val / 2)⟩

/-- One limb of a sum and its carry, by two overflowing additions. -/
def addLimb (carry : Bool) : U128 × Bool :=
  let sum1 : U128 := .wrap (a.val + b.val)
  let c1 := decide (2 ^ 128 ≤ a.val + b.val)
  let sum2 : U128 := .wrap (sum1.val + carry.toNat)
  let c2 := decide (2 ^ 128 ≤ sum1.val + carry.toNat)
  (sum2, c1 || c2)

def add (x y : U512) : Option U512 :=
  let (r0, c0) := addLimb x.w0 y.w0 false
  let (r1, c1) := addLimb x.w1 y.w1 c0
  let (r2, c2) := addLimb x.w2 y.w2 c1
  let (r3, c3) := addLimb x.w3 y.w3 c2
  if c3 then none else some ⟨r0, r1, r2, r3⟩

/-- One limb of a difference and its borrow, by two overflowing subtractions. -/
def subLimb (borrow : Bool) : U128 × Bool :=
  let diff1 : U128 := .wrap (a.val + 2 ^ 128 - b.val)
  let b1 := decide (a.val < b.val)
  let diff2 : U128 := .wrap (diff1.val + 2 ^ 128 - borrow.toNat)
  let b2 := decide (diff1.val < borrow.toNat)
  (diff2, b1 || b2)

def sub (x y : U512) : Option U512 :=
  let (r0, b0) := subLimb x.w0 y.w0 false
  let (r1, b1) := subLimb x.w1 y.w1 b0
  let (r2, b2) := subLimb x.w2 y.w2 b1
  let (r3, b3) := subLimb x.w3 y.w3 b2
  if b3 then none else some ⟨r0, r1, r2, r3⟩

def isZero : Bool :=
  x.w0.val == 0 && x.w1.val == 0 && x.w2.val == 0 && x.w3.val == 0

def bits : ℕ :=
  if x.w3.val ≠ 0 then 512 - x.w3.leadingZeros
  else if x.w2.val ≠ 0 then 384 - x.w2.leadingZeros
  else if x.w1.val ≠ 0 then 256 - x.w1.leadingZeros
  else if x.w0.val ≠ 0 then 128 - x.w0.leadingZeros
  else 0

def cmp (x y : U512) : Ordering :=
  (compare x.w3.val y.w3.val).then ((compare x.w2.val y.w2.val).then
    ((compare x.w1.val y.w1.val).then (compare x.w0.val y.w0.val)))

def asU128 : Option U128 :=
  if x.w1.val ≠ 0 ∨ x.w2.val ≠ 0 ∨ x.w3.val ≠ 0 then none else some x.w0

/-! ### What they do to the number -/

lemma toNat_lt : x.toNat < 2 ^ 256 * 2 ^ 256 := by
  have h0 := x.w0.lt
  have h1 := x.w1.lt
  have h2 := x.w2.lt
  have h3 := x.w3.lt
  unfold toNat
  omega

variable {x y z den : U512}

lemma toNat_injective (h : x.toNat = y.toNat) : x = y := by
  have hx0 := x.w0.lt
  have hx1 := x.w1.lt
  have hx2 := x.w2.lt
  have hy0 := y.w0.lt
  have hy1 := y.w1.lt
  have hy2 := y.w2.lt
  unfold toNat at h
  refine U512.ext (Unsigned.ext ?_) (Unsigned.ext ?_) (Unsigned.ext ?_) (Unsigned.ext ?_) <;> omega

@[simp] lemma toNat_zero : zero.toNat = 0 := rfl

@[simp] lemma toNat_one : one.toNat = 1 := rfl

@[simp] lemma toNat_fromU128 (a : U128) : (fromU128 a).toNat = a.val := by
  simp [toNat, fromU128, Unsigned.zero]

@[simp] lemma toNat_mulU128 : (mulU128 a b).toNat = a.val * b.val := by
  have hhi : a.val * b.val / 2 ^ 128 < 2 ^ 128 :=
    Nat.div_lt_of_lt_mul (Nat.mul_lt_mul'' a.lt b.lt)
  simp only [toNat, mulU128, mulU128Wide_eq a.lt b.lt, Unsigned.wrap_val, Unsigned.zero]
  omega

lemma eq_some_iff {o : Option U512} {n : ℕ}
    (hn : n < 2 ^ 256 * 2 ^ 256 → ∃ x, o = some x ∧ x.toNat = n)
    (hnone : 2 ^ 256 * 2 ^ 256 ≤ n → o = none) : o = some z ↔ z.toNat = n := by
  rcases Nat.lt_or_ge n (2 ^ 256 * 2 ^ 256) with h | h
  · obtain ⟨x, rfl, hx⟩ := hn h
    rw [Option.some.injEq]
    exact ⟨fun e => e ▸ hx, fun e => toNat_injective (hx.trans e.symm)⟩
  · rw [hnone h]
    have := toNat_lt z
    exact ⟨nofun, fun e => by omega⟩

lemma shl64_eq_some : x.shl64 = some z ↔ z.toNat = x.toNat * 2 ^ 64 := by
  have h0 := x.w0.lt
  have h1 := x.w1.lt
  have h2 := x.w2.lt
  have h3 := x.w3.lt
  unfold shl64
  refine eq_some_iff (fun h => ⟨_, if_neg ?_, ?_⟩) fun h => if_pos ?_
  · unfold toNat at h
    omega
  · simp only [toNat, Unsigned.wrap_val] at h ⊢
    omega
  · unfold toNat at h
    omega

lemma shl1_eq_some : x.shl1 = some z ↔ z.toNat = x.toNat * 2 := by
  have h0 := x.w0.lt
  have h1 := x.w1.lt
  have h2 := x.w2.lt
  have h3 := x.w3.lt
  unfold shl1
  refine eq_some_iff (fun h => ⟨_, if_neg ?_, ?_⟩) fun h => if_pos ?_
  · unfold toNat at h
    omega
  · simp only [toNat, Unsigned.wrap_val] at h ⊢
    omega
  · unfold toNat at h
    omega

@[simp] lemma toNat_shr1 : x.shr1.toNat = x.toNat / 2 := by
  have h0 := x.w0.lt
  have h1 := x.w1.lt
  have h2 := x.w2.lt
  have h3 := x.w3.lt
  simp only [toNat, shr1, Unsigned.wrap_val]
  omega

lemma toNat_decide_or (p q : Prop) [Decidable p] [Decidable q] :
    (decide p || decide q).toNat = if p ∨ q then 1 else 0 := by
  rw [← Bool.decide_or, Bool.toNat, Bool.cond_decide]

lemma addLimb_spec (carry : Bool) :
    (addLimb a b carry).1.val + 2 ^ 128 * (addLimb a b carry).2.toNat = a.val + b.val + carry.toNat := by
  have ha := a.lt
  have hb := b.lt
  have hc : carry.toNat ≤ 1 := Bool.toNat_le carry
  simp only [addLimb, toNat_decide_or, Unsigned.wrap_val]
  split_ifs <;> omega

lemma subLimb_spec (borrow : Bool) :
    (subLimb a b borrow).1.val + b.val + borrow.toNat = a.val + 2 ^ 128 * (subLimb a b borrow).2.toNat := by
  have ha := a.lt
  have hb := b.lt
  have hc : borrow.toNat ≤ 1 := Bool.toNat_le borrow
  simp only [subLimb, toNat_decide_or, Unsigned.wrap_val]
  split_ifs <;> omega

lemma add_eq_some : x.add y = some z ↔ z.toNat = x.toNat + y.toNat := by
  obtain ⟨⟨r0, c0⟩, hr0⟩ : ∃ p, addLimb x.w0 y.w0 false = p := ⟨_, rfl⟩
  obtain ⟨⟨r1, c1⟩, hr1⟩ : ∃ p, addLimb x.w1 y.w1 c0 = p := ⟨_, rfl⟩
  obtain ⟨⟨r2, c2⟩, hr2⟩ : ∃ p, addLimb x.w2 y.w2 c1 = p := ⟨_, rfl⟩
  obtain ⟨⟨r3, c3⟩, hr3⟩ : ∃ p, addLimb x.w3 y.w3 c2 = p := ⟨_, rfl⟩
  have h0 := addLimb_spec x.w0 y.w0 false
  have h1 := addLimb_spec x.w1 y.w1 c0
  have h2 := addLimb_spec x.w2 y.w2 c1
  have h3 := addLimb_spec x.w3 y.w3 c2
  rw [hr0] at h0
  rw [hr1] at h1
  rw [hr2] at h2
  rw [hr3] at h3
  -- The four limbs and the last carry stand for the sum.
  have hsum : (⟨r0, r1, r2, r3⟩ : U512).toNat + 2 ^ 256 * 2 ^ 256 * c3.toNat = x.toNat + y.toNat := by
    simp only [toNat, Bool.toNat_false] at h0 h1 h2 h3 ⊢
    omega
  have hlt := toNat_lt ⟨r0, r1, r2, r3⟩
  simp only [add, hr0, hr1, hr2, hr3]
  cases c3 <;> simp only [Bool.toNat_false, Bool.toNat_true] at hsum
  · exact eq_some_iff (fun _ => ⟨_, if_neg Bool.false_ne_true, by omega⟩) fun h => by omega
  · exact eq_some_iff (fun h => by omega) fun _ => if_pos rfl

lemma sub_eq_some : x.sub y = some z ↔ z.toNat + y.toNat = x.toNat := by
  obtain ⟨⟨r0, c0⟩, hr0⟩ : ∃ p, subLimb x.w0 y.w0 false = p := ⟨_, rfl⟩
  obtain ⟨⟨r1, c1⟩, hr1⟩ : ∃ p, subLimb x.w1 y.w1 c0 = p := ⟨_, rfl⟩
  obtain ⟨⟨r2, c2⟩, hr2⟩ : ∃ p, subLimb x.w2 y.w2 c1 = p := ⟨_, rfl⟩
  obtain ⟨⟨r3, c3⟩, hr3⟩ : ∃ p, subLimb x.w3 y.w3 c2 = p := ⟨_, rfl⟩
  have h0 := subLimb_spec x.w0 y.w0 false
  have h1 := subLimb_spec x.w1 y.w1 c0
  have h2 := subLimb_spec x.w2 y.w2 c1
  have h3 := subLimb_spec x.w3 y.w3 c2
  rw [hr0] at h0
  rw [hr1] at h1
  rw [hr2] at h2
  rw [hr3] at h3
  have hdiff : (⟨r0, r1, r2, r3⟩ : U512).toNat + y.toNat = x.toNat + 2 ^ 256 * 2 ^ 256 * c3.toNat := by
    simp only [toNat, Bool.toNat_false] at h0 h1 h2 h3 ⊢
    omega
  have hlt := toNat_lt ⟨r0, r1, r2, r3⟩
  have hz := toNat_lt z
  simp only [sub, hr0, hr1, hr2, hr3]
  cases c3 <;> simp only [Bool.toNat_false, Bool.toNat_true] at hdiff
  · rw [if_neg Bool.false_ne_true, Option.some.injEq]
    exact ⟨fun e => by rw [← e]; omega, fun e => toNat_injective (by omega)⟩
  · rw [if_pos rfl]
    exact ⟨nofun, fun e => by omega⟩

@[simp] lemma isZero_iff : x.isZero = true ↔ x.toNat = 0 := by
  simp only [isZero, toNat, Bool.and_eq_true, beq_iff_eq]
  omega

lemma compare_then {lo lo' hi hi' : ℕ} (h : lo < 2 ^ 128) (h' : lo' < 2 ^ 128) :
    (compare hi hi').then (compare lo lo') = compare (lo + 2 ^ 128 * hi) (lo' + 2 ^ 128 * hi') := by
  simp only [Nat.compare_eq_ite_lt]
  split_ifs <;> first | rfl | omega

lemma cmp_eq (x y : U512) : x.cmp y = compare x.toNat y.toNat := by
  rw [cmp, toNat, toNat, ← compare_then x.w0.lt y.w0.lt, ← compare_then x.w1.lt y.w1.lt,
    ← compare_then x.w2.lt y.w2.lt, Ordering.then_assoc, Ordering.then_assoc]

lemma cmp_isGE : (x.cmp y).isGE = true ↔ y.toNat ≤ x.toNat := by
  rw [cmp_eq, Nat.isGE_compare]

lemma cmp_isLT : (x.cmp y).isLT = true ↔ x.toNat < y.toNat := by
  rw [cmp_eq, Nat.compare_eq_ite_lt]
  split_ifs <;> simp [Ordering.isLT, *]

lemma asU128_eq_some {a : U128} : x.asU128 = some a ↔ a.val = x.toNat := by
  have h0 := x.w0.lt
  have ha := a.lt
  unfold asU128
  split_ifs with h
  · unfold toNat
    exact ⟨nofun, fun e => by omega⟩
  · rw [Option.some.injEq, Unsigned.ext_iff]
    unfold toNat
    omega

lemma length_of_top {n j : ℕ} {w : U128} (rest : ℕ) (hw : w.val ≠ 0) (hrest : rest < (2 ^ 128) ^ j)
    (hn : n = rest + (2 ^ 128) ^ j * w.val) :
    2 ^ (128 * (j + 1) - w.leadingZeros - 1) ≤ n ∧ n < 2 ^ (128 * (j + 1) - w.leadingZeros) := by
  have hlog : Nat.log2 w.val < 128 := (Nat.log2_lt hw).2 w.lt
  have hlow : 2 ^ Nat.log2 w.val ≤ w.val := Nat.log2_self_le hw
  have hhigh : w.val < 2 ^ (Nat.log2 w.val + 1) := Nat.lt_log2_self
  have hlen : 128 * (j + 1) - w.leadingZeros = 128 * j + (Nat.log2 w.val + 1) := by
    rw [Unsigned.leadingZeros, if_neg hw]
    omega
  rw [hlen, ← Nat.add_assoc, Nat.add_sub_cancel, Nat.add_assoc, pow_add, pow_add, pow_mul, hn]
  constructor
  · exact (Nat.mul_le_mul_left _ hlow).trans (Nat.le_add_left _ _)
  · calc rest + (2 ^ 128) ^ j * w.val < (2 ^ 128) ^ j + (2 ^ 128) ^ j * w.val := by gcongr
      _ = (2 ^ 128) ^ j * (w.val + 1) := by ring
      _ ≤ (2 ^ 128) ^ j * 2 ^ (Nat.log2 w.val + 1) := Nat.mul_le_mul_left _ hhigh

lemma bits_spec (hx : 0 < x.toNat) :
    2 ^ (x.bits - 1) ≤ x.toNat ∧ x.toNat < 2 ^ x.bits ∧ x.bits ≤ 512 := by
  have h0 := x.w0.lt
  have h1 := x.w1.lt
  have h2 := x.w2.lt
  rw [bits, ← and_assoc]
  split_ifs with hw3 hw2 hw1 hw0
  · refine ⟨length_of_top (j := 3) (x.w0.val + 2 ^ 128 * (x.w1.val + 2 ^ 128 * x.w2.val)) hw3 ?_ ?_,
      Nat.sub_le _ _⟩
    · omega
    · unfold toNat
      ring
  · refine ⟨length_of_top (j := 2) (x.w0.val + 2 ^ 128 * x.w1.val) hw2 ?_ ?_, by omega⟩
    · omega
    · unfold toNat
      omega
  · refine ⟨length_of_top (j := 1) x.w0.val hw1 ?_ ?_, by omega⟩
    · omega
    · unfold toNat
      omega
  · refine ⟨length_of_top (j := 0) 0 hw0 ?_ ?_, by omega⟩
    · norm_num
    · unfold toNat
      omega
  · unfold toNat at hx
    omega

/-! ### Division -/

/-- `quot.0[i / 128] |= 1 << (i % 128)`. -/
def setBit (i : ℕ) : U512 :=
  let mask := 2 ^ (i % 128)
  match i / 128 with
  | 0 => { x with w0 := .wrap (x.w0.val ||| mask) }
  | 1 => { x with w1 := .wrap (x.w1.val ||| mask) }
  | 2 => { x with w2 := .wrap (x.w2.val ||| mask) }
  | _ => { x with w3 := .wrap (x.w3.val ||| mask) }

def shlBy : ℕ → U512 → Option U512
  | 0, x => some x
  | k + 1, x => x.shl1.bind (shlBy k)

/-- The loop over the bits `i - 1, ..., 0` of the quotient. -/
def divSteps : ℕ → U512 → U512 → U512 → Option (U512 × U512)
  | 0, rem, quot, _ => some (quot, rem)
  | i + 1, rem, quot, den =>
    if (rem.cmp den).isGE then (rem.sub den).bind fun rem => divSteps i rem (quot.setBit i) den.shr1
    else divSteps i rem quot den.shr1

def divRem (x den : U512) : Option (U512 × U512) :=
  if den.isZero then none
  else if (x.cmp den).isLT then some (zero, x)
  else if x = den then some (one, zero)
  else
    let shift := x.bits - den.bits
    (shlBy shift den).bind fun currentDen => divSteps (shift + 1) x zero currentDen

def divFloor (x den : U512) : Option U512 := (x.divRem den).map Prod.fst

def divCeil (x den : U512) : Option U512 :=
  (x.divRem den).bind fun (quot, rem) => if rem.isZero then some quot else quot.add one

lemma or_two_pow {n k : ℕ} (h : 2 ^ (k + 1) ∣ n) : n ||| 2 ^ k = n + 2 ^ k := by
  obtain ⟨m, rfl⟩ := h
  exact (Nat.two_pow_add_eq_or_of_lt (Nat.pow_lt_pow_right (by norm_num) (Nat.lt_add_one k)) m).symm

lemma add_two_pow_lt {n k : ℕ} (hk : k < 128) (hn : n < 2 ^ 128) (h : 2 ^ (k + 1) ∣ n) :
    n + 2 ^ k < 2 ^ 128 := by
  obtain ⟨m, rfl⟩ := h
  obtain ⟨j, hj⟩ : ∃ j, 128 = k + 1 + j := ⟨128 - (k + 1), by omega⟩
  have hsize : (2 : ℕ) ^ 128 = 2 ^ (k + 1) * 2 ^ j := by rw [hj, pow_add]
  rw [hsize] at hn ⊢
  have hm : m + 1 ≤ 2 ^ j := Nat.lt_of_mul_lt_mul_left hn
  calc 2 ^ (k + 1) * m + 2 ^ k < 2 ^ (k + 1) * m + 2 ^ (k + 1) := by
        gcongr <;> omega
    _ = 2 ^ (k + 1) * (m + 1) := by ring
    _ ≤ 2 ^ (k + 1) * 2 ^ j := Nat.mul_le_mul_left _ hm

lemma dvd_limb {j k w : ℕ} (rest hi : ℕ) (hk : k < 128) (hrest : rest < (2 ^ 128) ^ j)
    (h : 2 ^ (128 * j + k + 1) ∣ rest + (2 ^ 128) ^ j * (w + 2 ^ 128 * hi)) : 2 ^ (k + 1) ∣ w := by
  rw [Nat.add_assoc, pow_add, pow_mul] at h
  have hzero : rest = 0 := Nat.eq_zero_of_dvd_of_lt
    ((Nat.dvd_add_left (Nat.dvd_mul_right _ _)).1 (dvd_of_mul_right_dvd h)) hrest
  rw [hzero, Nat.zero_add] at h
  have hwhole := Nat.dvd_of_mul_dvd_mul_left (Nat.pow_pos (Nat.two_pow_pos 128)) h
  have hpow : 2 ^ (k + 1) ∣ 2 ^ 128 := Nat.pow_dvd_pow 2 hk
  exact (Nat.dvd_add_left (hpow.mul_right hi)).1 hwhole

lemma toNat_setBit {i : ℕ} (hi : i < 512) (h : 2 ^ (i + 1) ∣ x.toNat) :
    (x.setBit i).toNat = x.toNat + 2 ^ i := by
  have h0 := x.w0.lt
  have h1 := x.w1.lt
  have h2 := x.w2.lt
  have hk : i % 128 < 128 := Nat.mod_lt _ (by norm_num)
  have hsplit : i = 128 * (i / 128) + i % 128 := (Nat.div_add_mod i 128).symm
  have hpow : 2 ^ i = (2 ^ 128) ^ (i / 128) * 2 ^ (i % 128) := by
    rw [← pow_mul, ← pow_add, ← hsplit]
  have hlimb : ∀ w : U128, 2 ^ (i % 128 + 1) ∣ w.val →
      (w.val ||| 2 ^ (i % 128)) % 2 ^ 128 = w.val + 2 ^ (i % 128) := fun w hw => by
    rw [or_two_pow hw, Nat.mod_eq_of_lt (add_two_pow_lt hk w.lt hw)]
  rw [hsplit] at h
  rw [hpow]
  unfold setBit
  obtain hj | hj | hj | hj : i / 128 = 0 ∨ i / 128 = 1 ∨ i / 128 = 2 ∨ i / 128 = 3 := by omega
  all_goals rw [hj] at h ⊢
  · have hw := hlimb x.w0 (dvd_limb (j := 0) 0 (x.w1.val + 2 ^ 128 * (x.w2.val + 2 ^ 128 * x.w3.val)) hk
      (by norm_num) (by simpa [toNat] using h))
    simp only [toNat, Unsigned.wrap_val, hw]
    ring
  · have hw := hlimb x.w1 (dvd_limb (j := 1) x.w0.val (x.w2.val + 2 ^ 128 * x.w3.val) hk (by omega)
      (by simpa [toNat] using h))
    simp only [toNat, Unsigned.wrap_val, hw]
    ring
  · have hw := hlimb x.w2 (dvd_limb (j := 2) (x.w0.val + 2 ^ 128 * x.w1.val) x.w3.val hk (by omega)
      (by convert h using 1; unfold toNat; ring))
    simp only [toNat, Unsigned.wrap_val, hw]
    ring
  · have hw := hlimb x.w3 (dvd_limb (j := 3) (x.w0.val + 2 ^ 128 * (x.w1.val + 2 ^ 128 * x.w2.val)) 0 hk
      (by omega) (by convert h using 1; unfold toNat; ring))
    simp only [toNat, Unsigned.wrap_val, hw]
    ring

lemma exists_toNat {n : ℕ} (h : n < 2 ^ 256 * 2 ^ 256) : ∃ x : U512, x.toNat = n := by
  refine ⟨⟨.wrap n, .wrap (n / 2 ^ 128), .wrap (n / 2 ^ 256), .wrap (n / 2 ^ 256 / 2 ^ 128)⟩, ?_⟩
  simp only [toNat, Unsigned.wrap_val]
  omega

lemma shlBy_spec {k : ℕ} : ∀ {x : U512}, x.toNat * 2 ^ k < 2 ^ 256 * 2 ^ 256 →
    ∃ z, shlBy k x = some z ∧ z.toNat = x.toNat * 2 ^ k := by
  induction k with
  | zero => exact fun {x} _ => ⟨x, rfl, by rw [pow_zero, Nat.mul_one]⟩
  | succ k ih =>
    intro x h
    have hpow : x.toNat * 2 ^ (k + 1) = x.toNat * 2 * 2 ^ k := by ring
    rw [hpow] at h ⊢
    obtain ⟨y, hy⟩ := exists_toNat
      (lt_of_le_of_lt (Nat.le_mul_of_pos_right (x.toNat * 2) (Nat.two_pow_pos k)) h)
    rw [← hy] at h ⊢
    obtain ⟨z, hz, hval⟩ := ih h
    exact ⟨z, by rw [shlBy, shl1_eq_some.2 hy, Option.bind_some, hz], hval⟩

lemma divSteps_spec {n d : ℕ} (hd : 0 < d) {i : ℕ} (hi : i ≤ 512) :
    ∀ {rem quot den : U512}, rem.toNat < d * 2 ^ i → 2 ^ i ∣ quot.toNat → den.toNat = d * 2 ^ i / 2 →
      n = quot.toNat * d + rem.toNat →
      ∃ q r : U512, divSteps i rem quot den = some (q, r) ∧ q.toNat = n / d ∧ r.toNat = n % d := by
  induction i with
  | zero =>
    intro rem quot den hrem _ _ hn
    rw [pow_zero, Nat.mul_one] at hrem
    have hdiv : n / d = quot.toNat ∧ n % d = rem.toNat :=
      (Nat.div_mod_unique hd).2 ⟨by rw [hn, Nat.add_comm, Nat.mul_comm], hrem⟩
    exact ⟨quot, rem, rfl, hdiv.1.symm, hdiv.2.symm⟩
  | succ i ih =>
    intro rem quot den hrem hquot hden hn
    have hpow : d * 2 ^ (i + 1) = d * 2 ^ i * 2 := by ring
    rw [hpow] at hrem hden
    rw [Nat.mul_div_cancel _ (by norm_num)] at hden
    have hshr : den.shr1.toNat = d * 2 ^ i / 2 := by rw [toNat_shr1, hden]
    rw [divSteps]
    by_cases hge : den.toNat ≤ rem.toNat
    · obtain ⟨rem', hrem'⟩ := exists_toNat (lt_of_le_of_lt (Nat.sub_le _ den.toNat) rem.toNat_lt)
      have hsub : rem.sub den = some rem' := sub_eq_some.2 (by omega)
      have hbit := toNat_setBit (by omega) hquot
      rw [if_pos (cmp_isGE.2 hge), hsub, Option.bind_some]
      refine ih (by omega) (by omega) ?_ hshr ?_
      · rw [hbit]
        exact Nat.dvd_add ((Nat.pow_dvd_pow 2 (Nat.le_succ i)).trans hquot) (Nat.dvd_refl _)
      · rw [hbit, Nat.add_mul, Nat.mul_comm (2 ^ i) d]
        omega
    · rw [if_neg (mt cmp_isGE.1 hge)]
      exact ih (by omega) (by omega) ((Nat.pow_dvd_pow 2 (Nat.le_succ i)).trans hquot) hshr hn

lemma divRem_spec (hden : 0 < den.toNat) :
    ∃ q r : U512, x.divRem den = some (q, r) ∧ q.toNat = x.toNat / den.toNat ∧
      r.toNat = x.toNat % den.toNat := by
  unfold divRem
  rw [if_neg (by rw [isZero_iff]; omega)]
  by_cases hlt : x.toNat < den.toNat
  · rw [if_pos (cmp_isLT.2 hlt)]
    exact ⟨zero, x, rfl, (Nat.div_eq_of_lt hlt).symm, (Nat.mod_eq_of_lt hlt).symm⟩
  · rw [if_neg (mt cmp_isLT.1 hlt)]
    by_cases heq : x = den
    · rw [if_pos heq, heq]
      exact ⟨one, zero, rfl, (Nat.div_self hden).symm, (Nat.mod_self _).symm⟩
    · rw [if_neg heq]
      obtain ⟨-, hx, hbits⟩ := bits_spec (x := x) (by omega)
      obtain ⟨hlow, hhigh, -⟩ := bits_spec hden
      have hle : den.bits - 1 < x.bits :=
        (Nat.pow_lt_pow_iff_right (by norm_num)).1 (lt_of_le_of_lt (hlow.trans (not_lt.1 hlt)) hx)
      have hpos : 0 < den.bits := Nat.pos_of_ne_zero fun h => by rw [h] at hhigh; omega
      -- The shifted denominator has as many bits as the number.
      have hfits : den.toNat * 2 ^ (x.bits - den.bits) < 2 ^ 256 * 2 ^ 256 := by
        calc den.toNat * 2 ^ (x.bits - den.bits) < 2 ^ den.bits * 2 ^ (x.bits - den.bits) := by
              gcongr
          _ = 2 ^ (x.bits / 2 + (x.bits - x.bits / 2)) := by
              rw [← pow_add]
              congr 1
              omega
          _ = 2 ^ (x.bits / 2) * 2 ^ (x.bits - x.bits / 2) := pow_add _ _ _
          _ ≤ 2 ^ 256 * 2 ^ 256 := Nat.mul_le_mul (Nat.pow_le_pow_right (by norm_num) (by omega))
              (Nat.pow_le_pow_right (by norm_num) (by omega))
      obtain ⟨top, htop, hval⟩ := shlBy_spec hfits
      dsimp only
      rw [htop, Option.bind_some]
      refine divSteps_spec hden (by omega) ?_ (Nat.dvd_zero _) ?_ (by simp)
      · calc x.toNat < 2 ^ x.bits := hx
          _ ≤ 2 ^ (den.bits - 1 + (x.bits - den.bits + 1)) := Nat.pow_le_pow_right (by norm_num) (by omega)
          _ = 2 ^ (den.bits - 1) * 2 ^ (x.bits - den.bits + 1) := pow_add _ _ _
          _ ≤ den.toNat * 2 ^ (x.bits - den.bits + 1) := Nat.mul_le_mul_right _ hlow
      · rw [hval, pow_succ, ← Nat.mul_assoc, Nat.mul_div_cancel _ (by norm_num)]

lemma divFloor_eq_some :
    x.divFloor den = some z ↔ 0 < den.toNat ∧ z.toNat = x.toNat / den.toNat := by
  rcases Nat.eq_zero_or_pos den.toNat with hzero | hpos
  · rw [divFloor, divRem, if_pos (isZero_iff.2 hzero)]
    simp [hzero]
  · obtain ⟨q, r, hdiv, hq, -⟩ := divRem_spec (x := x) hpos
    rw [divFloor, hdiv, Option.map_some, Option.some.injEq, ← hq]
    exact ⟨fun e => ⟨hpos, congrArg toNat e.symm⟩, fun e => (toNat_injective e.2).symm⟩

lemma divCeil_eq_some :
    x.divCeil den = some z ↔ 0 < den.toNat ∧ z.toNat = x.toNat ⌈/⌉ den.toNat := by
  rcases Nat.eq_zero_or_pos den.toNat with hzero | hpos
  · rw [divCeil, divRem, if_pos (isZero_iff.2 hzero)]
    simp [hzero]
  · obtain ⟨q, r, hdiv, hq, hr⟩ := divRem_spec (x := x) hpos
    have hexact : r.toNat = 0 ↔ x.toNat / den.toNat * den.toNat = x.toNat := by
      have := Nat.div_add_mod' x.toNat den.toNat
      omega
    rw [divCeil, hdiv, Option.bind_some, ceilDiv_eq_ite hpos]
    dsimp only
    by_cases hzero : r.toNat = 0
    · rw [if_pos (isZero_iff.2 hzero), if_pos (hexact.1 hzero), Option.some.injEq, ← hq]
      exact ⟨fun e => ⟨hpos, congrArg toNat e.symm⟩, fun e => (toNat_injective e.2).symm⟩
    · rw [if_neg (mt isZero_iff.1 hzero), if_neg (mt hexact.2 hzero), add_eq_some, toNat_one, hq]
      exact ⟨fun e => ⟨hpos, e⟩, fun e => e.2⟩

lemma divRem_eq_some {x den q r : U512} : x.divRem den = some (q, r) ↔
    0 < den.toNat ∧ q.toNat = x.toNat / den.toNat ∧ r.toNat = x.toNat % den.toNat := by
  rcases Nat.eq_zero_or_pos den.toNat with hzero | hpos
  · rw [divRem, if_pos (isZero_iff.2 hzero)]
    simp [hzero]
  · obtain ⟨q', r', hdiv, hq, hr⟩ := divRem_spec (x := x) hpos
    rw [hdiv, Option.some.injEq, Prod.mk.injEq, ← hq, ← hr]
    constructor
    · rintro ⟨rfl, rfl⟩
      exact ⟨hpos, rfl, rfl⟩
    · rintro ⟨-, hq, hr⟩
      exact ⟨(toNat_injective hq).symm, (toNat_injective hr).symm⟩

end U512

/-- **Wide arithmetic is exact**: the 256-bit product and its two quotients, and the operations on 512
bits. An operation answers `none` only where the exact result does not fit or the divisor is zero. -/
theorem wide_arithmetic_exact :
    (∀ a b : U128, (mulU128Wide a.val b.val).1 < 2 ^ 128 ∧ (mulU128Wide a.val b.val).2 < 2 ^ 128 ∧
      (mulU128Wide a.val b.val).1 * 2 ^ 128 + (mulU128Wide a.val b.val).2 = a.val * b.val) ∧
    (∀ (hi lo den : U128) (q : ℕ), let n := hi.val * 2 ^ 128 + lo.val
      (divU256ByU128Floor hi.val lo.val den.val = some q ↔ 0 < den.val ∧ q = n / den.val ∧ q < 2 ^ 128) ∧
      (divU256ByU128Ceil hi.val lo.val den.val = some q ↔ 0 < den.val ∧ q = n ⌈/⌉ den.val ∧ q < 2 ^ 128)) ∧
    ∀ x y q r : U512,
      (x.divRem y = some (q, r) ↔
        0 < y.toNat ∧ q.toNat = x.toNat / y.toNat ∧ r.toNat = x.toNat % y.toNat) ∧
      (x.divFloor y = some q ↔ 0 < y.toNat ∧ q.toNat = x.toNat / y.toNat) ∧
      (x.divCeil y = some q ↔ 0 < y.toNat ∧ q.toNat = x.toNat ⌈/⌉ y.toNat) ∧
      (x.add y = some q ↔ q.toNat = x.toNat + y.toNat) ∧
      (x.sub y = some q ↔ q.toNat + y.toNat = x.toNat) ∧
      (x.shl64 = some q ↔ q.toNat = x.toNat * 2 ^ 64) ∧ (x.shl1 = some q ↔ q.toNat = x.toNat * 2) ∧
      x.shr1.toNat = x.toNat / 2 := by
  refine ⟨fun a b => ?_, fun hi lo den q => ⟨?_, ?_⟩, fun x y q r => ?_⟩
  · have hfits : a.val * b.val < 2 ^ 128 * 2 ^ 128 := Nat.mul_lt_mul'' a.lt b.lt
    rw [mulU128Wide_eq a.lt b.lt]
    exact ⟨Nat.div_lt_of_lt_mul hfits, Nat.mod_lt _ (by norm_num), Nat.div_add_mod' _ _⟩
  · exact divU256ByU128Floor_eq_some lo.lt den.lt
  · exact divU256ByU128Ceil_eq_some lo.lt den.lt
  · exact ⟨U512.divRem_eq_some, U512.divFloor_eq_some, U512.divCeil_eq_some, U512.add_eq_some,
      U512.sub_eq_some, U512.shl64_eq_some, U512.shl1_eq_some, U512.toNat_shr1⟩

end PrivateExecution
