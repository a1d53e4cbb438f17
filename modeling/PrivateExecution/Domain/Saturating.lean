import PrivateExecution.Domain.Primitives

/-!
# Saturating and wrapping arithmetic

`Ord::max`, `Ord::min`, the `saturating_*` operations and wrapping of the machine integers, with their
values as numbers.
-/

namespace PrivateExecution

abbrev U16 := Unsigned 16

namespace Unsigned

variable {w : ℕ}

instance : Max (Unsigned w) := ⟨fun a b => if a ≤ b then b else a⟩
instance : Min (Unsigned w) := ⟨fun a b => if a ≤ b then a else b⟩

variable (a b : Unsigned w)

@[simp] lemma val_max : (Max.max a b).val = Max.max a.val b.val := by
  change (if a.val ≤ b.val then b else a).val = _
  rw [apply_ite Unsigned.val, max_def]

@[simp] lemma val_min : (Min.min a b).val = Min.min a.val b.val := by
  change (if a.val ≤ b.val then a else b).val = _
  rw [apply_ite Unsigned.val, min_def]

def saturatingSub (a b : Unsigned w) : Unsigned w := ⟨a.val - b.val, sub_lt a b⟩

@[simp] lemma val_saturatingSub : (a.saturatingSub b).val = a.val - b.val := rfl

def saturatingMul (a b : Unsigned w) : Unsigned w := (ofNat? (a.val * b.val)).getD max

lemma val_saturatingMul :
    (a.saturatingMul b).val = Min.min (a.val * b.val) (2 ^ w - 1) := by
  unfold saturatingMul ofNat?
  split_ifs with h
  · exact (min_eq_left (Nat.le_sub_one_of_lt h)).symm
  · exact (min_eq_right (le_trans (Nat.sub_le _ _) (not_lt.1 h))).symm

def divBy (a : Unsigned w) (n : ℕ) : Unsigned w := ⟨a.val / n, lt_of_le_of_lt (Nat.div_le_self _ _) a.lt⟩

lemma val_divBy (a : Unsigned w) (n : ℕ) : (a.divBy n).val = a.val / n := rfl

def wrappingAdd (a b : Unsigned w) : Unsigned w := ⟨(a.val + b.val) % 2 ^ w, Nat.mod_lt _ (Nat.two_pow_pos w)⟩

lemma val_saturatingAdd :
    (a.saturatingAdd b).val = Min.min (a.val + b.val) (2 ^ w - 1) := by
  unfold saturatingAdd checkedAdd
  split_ifs with h
  · exact (min_eq_left (Nat.le_sub_one_of_lt h)).symm
  · exact (min_eq_right (le_trans (Nat.sub_le _ _) (not_lt.1 h))).symm

lemma saturatingAdd_val_of_lt {a b : Unsigned w} (h : a.val + b.val < 2 ^ w) :
    (a.saturatingAdd b).val = a.val + b.val := by
  rw [val_saturatingAdd, min_eq_left (Nat.le_sub_one_of_lt h)]

end Unsigned

namespace I64

instance : Max I64 := ⟨fun a b => if a ≤ b then b else a⟩

def saturatingSub (a b : I64) : I64 := clamp (a.val - b.val)

def saturatingMul (a b : I64) : I64 := clamp (a.val * b.val)

def divBy (a : I64) (n : ℕ) : I64 := clamp (a.val.tdiv n)

def ofInt? (x : ℤ) : Option I64 := if h : -(2 ^ 63) ≤ x ∧ x < 2 ^ 63 then some ⟨x, h⟩ else none

/-- The value modulo `2 ^ 64`: a release build wraps, and so does `as i64`. -/
def wrap (x : ℤ) : I64 :=
  ⟨x.bmod (2 ^ 64), by
    have hlo := Int.le_bmod (x := x) (m := 2 ^ 64) (by decide)
    have hhi := Int.bmod_lt (x := x) (m := 2 ^ 64) (by decide)
    omega⟩

end I64

end PrivateExecution
