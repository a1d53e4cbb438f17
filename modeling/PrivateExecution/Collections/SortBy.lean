import Mathlib.Data.List.Sort

/-!
# Stable sorting by a comparison

Sorting by a three-way comparison. Elements that compare equal keep their order, which insertion from the
back gives.
-/

namespace Collections

open Std

variable {α : Type}

def sortBy (cmp : α → α → Ordering) (l : List α) : List α := l.insertionSort fun a b => (cmp a b).isLE = true

variable {cmp : α → α → Ordering} {l : List α} {a b : α}

lemma isLE_total [OrientedCmp cmp] (a b : α) : (cmp a b).isLE = true ∨ (cmp b a).isLE = true := by
  rw [@OrientedCmp.eq_swap _ cmp _ a b]
  cases cmp b a with
  | lt => exact .inr rfl
  | eq => exact .inl rfl
  | gt => exact .inl rfl

lemma pairwise_sortBy [TransCmp cmp] (l : List α) :
    (sortBy cmp l).Pairwise fun a b => (cmp a b).isLE = true := by
  have htotal : Std.Total fun a b => (cmp a b).isLE = true := ⟨isLE_total⟩
  have htrans : IsTrans α fun a b => (cmp a b).isLE = true := ⟨fun _ _ _ => TransCmp.isLE_trans⟩
  exact List.pairwise_insertionSort _ l

lemma isLE_compareLex {cmp' : α → α → Ordering} (h : (compareLex cmp cmp' a b).isLE = true) :
    (cmp a b).isLE = true ∧ (cmp a b = .eq → (cmp' a b).isLE = true) := by
  unfold compareLex at h
  cases hab : cmp a b with
  | lt => exact ⟨rfl, fun heq => by cases heq⟩
  | eq =>
    rw [hab] at h
    exact ⟨rfl, fun _ => h⟩
  | gt =>
    rw [hab] at h
    cases h

lemma transCmp_on {β : Type} (cmp : β → β → Ordering) [TransCmp cmp] (f : α → β) :
    TransCmp fun a b => cmp (f a) (f b) where
  eq_swap := OrientedCmp.eq_swap
  isLE_trans := TransCmp.isLE_trans

/-- A comparison that looks at a key first sorts by it, however it breaks ties. -/
lemma pairwise_sortBy_then {rest : α → α → Ordering} {key : α → ℕ}
    (h : ∀ a b, cmp a b = (compare (key b) (key a)).then (rest a b)) (l : List α) :
    (sortBy cmp l).Pairwise fun a b => key b ≤ key a := by
  have hle (a b : α) (hab : (cmp a b).isLE = true) : key b ≤ key a := by
    by_contra hlt
    rw [h, Nat.compare_eq_gt.2 (Nat.not_le.1 hlt)] at hab
    cases hab
  have hgt (a b : α) (hab : ¬(cmp a b).isLE = true) : key a ≤ key b := by
    by_contra hlt
    rw [h, Nat.compare_eq_lt.2 (Nat.not_le.1 hlt)] at hab
    exact hab rfl
  induction l with
  | nil => exact .nil
  | cons a l ih =>
    change (List.orderedInsert _ a (sortBy cmp l)).Pairwise _
    generalize sortBy cmp l = sorted at ih
    induction sorted with
    | nil => exact List.pairwise_singleton _ _
    | cons b sorted ihs =>
      obtain ⟨hb, hsorted⟩ := List.pairwise_cons.1 ih
      rw [List.orderedInsert]
      split_ifs with hab
      · refine .cons (fun c hc => ?_) ih
        rcases List.mem_cons.1 hc with rfl | hc
        · exact hle a _ hab
        · exact (hb c hc).trans (hle a b hab)
      · refine .cons (fun c hc => ?_) (ihs hsorted)
        rcases (List.mem_orderedInsert _).1 hc with rfl | hc
        · exact hgt _ b hab
        · exact hb c hc

end Collections
