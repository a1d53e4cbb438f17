import Mathlib.Data.List.Pairwise
import Mathlib.Data.List.Sort

/-!
# Ladders: sorted lists edited in place

A ladder is a list of entries in strictly ascending order of a key. An update removes the entry with
its key, replaces it, or is inserted in front of the first entry with a larger key, each at the first
position found from the front.
-/

namespace Ladder

variable {α K : Type} [LinearOrder K] (key : α → K)

def Ascending (l : List α) : Prop := l.Pairwise fun a b => key a < key b

/-- Without the entry under the key. -/
def remove (k : K) (l : List α) : List α := l.eraseP fun a => key a = k

/-- With the entry under the key changed. -/
def revise (k : K) (f : α → α) : List α → List α
  | [] => []
  | a :: l => if key a = k then f a :: l else a :: revise k f l

/-- Inserts an entry in front of the first one with a larger key, or at the end. -/
def place (x : α) : List α → List α
  | [] => [x]
  | a :: l => if key x < key a then x :: a :: l else a :: place x l

def edit (gone : α → Bool) (f : α → α → α) (l : List α) (x : α) : List α :=
  if gone x then remove key (key x) l
  else if l.any fun a => key a = key x then revise key (key x) (f x) l
  else place key x l

variable {key} {l l' : List α} {x a : α} {k : K}

lemma Ascending.sublist (h : Ascending key l) (hs : l'.Sublist l) : Ascending key l' := List.Pairwise.sublist hs h

/-! ### The three edits -/

lemma mem_remove (h : Ascending key l) : a ∈ remove key k l ↔ a ∈ l ∧ key a ≠ k := by
  unfold remove
  induction l with
  | nil => simp
  | cons b l ih =>
    obtain ⟨hb, hl⟩ := List.pairwise_cons.1 h
    rw [List.eraseP_cons]
    by_cases hk : key b = k
    · simp only [hk, decide_true, cond_true, List.mem_cons]
      constructor
      · intro ha
        exact ⟨.inr ha, fun hka => absurd (hb a ha) (by rw [hk, hka]; exact lt_irrefl k)⟩
      · rintro ⟨rfl | ha, hne⟩
        · exact absurd hk hne
        · exact ha
    · simp only [hk, decide_false, cond_false, List.mem_cons, ih hl]
      constructor
      · rintro (rfl | ⟨ha, hne⟩)
        · exact ⟨.inl rfl, hk⟩
        · exact ⟨.inr ha, hne⟩
      · rintro ⟨rfl | ha, hne⟩
        · exact .inl rfl
        · exact .inr ⟨ha, hne⟩

lemma Ascending.remove (h : Ascending key l) (k : K) : Ascending key (remove key k l) :=
  h.sublist List.eraseP_sublist

lemma mem_place : a ∈ place key x l ↔ a = x ∨ a ∈ l := by
  induction l with
  | nil => simp [place]
  | cons b l ih =>
    unfold place
    split_ifs
    · simp
    · rw [List.mem_cons, ih, List.mem_cons]
      tauto

lemma Ascending.place (h : Ascending key l) (hnew : ∀ a ∈ l, key a ≠ key x) :
    Ascending key (place key x l) := by
  induction l with
  | nil => exact List.pairwise_singleton _ _
  | cons b l ih =>
    obtain ⟨hb, hl⟩ := List.pairwise_cons.1 h
    unfold Ladder.place
    split_ifs with hlt
    · refine List.pairwise_cons.2 ⟨?_, h⟩
      intro a ha
      rcases List.mem_cons.1 ha with rfl | ha
      · exact hlt
      · exact hlt.trans (hb a ha)
    · have hbx : key b < key x := lt_of_le_of_ne (not_lt.1 hlt) (hnew b (List.mem_cons_self ..))
      refine List.pairwise_cons.2 ⟨?_, ih hl fun a ha => hnew a (List.mem_cons_of_mem _ ha)⟩
      intro a ha
      rcases mem_place.1 ha with rfl | ha
      · exact hbx
      · exact hb a ha

lemma mem_revise {f : α → α} (h : Ascending key l) (hf : ∀ b, key b = key x → f b = x)
    (hmem : ∃ b ∈ l, key b = key x) : a ∈ revise key (key x) f l ↔ a = x ∨ a ∈ l ∧ key a ≠ key x := by
  induction l with
  | nil =>
    obtain ⟨b, hb, -⟩ := hmem
    cases hb
  | cons b l ih =>
    obtain ⟨hb, hl⟩ := List.pairwise_cons.1 h
    unfold revise
    split_ifs with hk
    · have hrest : ∀ c ∈ l, key c ≠ key x := fun c hc hkc => absurd (hb c hc) (by rw [hk, hkc]; exact lt_irrefl _)
      rw [hf b hk, List.mem_cons, List.mem_cons]
      constructor
      · rintro (rfl | ha)
        · exact .inl rfl
        · exact .inr ⟨.inr ha, hrest a ha⟩
      · rintro (rfl | ⟨rfl | ha, hne⟩)
        · exact .inl rfl
        · exact absurd hk hne
        · exact .inr ha
    · obtain ⟨c, hc, hkc⟩ := hmem
      have hc' : c ∈ l := (List.mem_cons.1 hc).resolve_left fun heq => hk (heq ▸ hkc)
      rw [List.mem_cons, ih hl ⟨c, hc', hkc⟩, List.mem_cons]
      constructor
      · rintro (rfl | rfl | ⟨ha, hne⟩)
        · exact .inr ⟨.inl rfl, hk⟩
        · exact .inl rfl
        · exact .inr ⟨.inr ha, hne⟩
      · rintro (rfl | ⟨rfl | ha, hne⟩)
        · exact .inr (.inl rfl)
        · exact .inl rfl
        · exact .inr (.inr ⟨ha, hne⟩)

lemma revise_keys {f : α → α} (hf : ∀ b, key b = k → key (f b) = k) :
    (revise key k f l).map key = l.map key := by
  induction l with
  | nil => rfl
  | cons b l ih =>
    unfold revise
    split_ifs with hk
    · rw [List.map_cons, List.map_cons, hf b hk, hk]
    · rw [List.map_cons, List.map_cons, ih]

lemma Ascending.of_keys (h : Ascending key l) (hkeys : l'.map key = l.map key) : Ascending key l' := by
  have hmap : (l.map key).Pairwise (· < ·) := List.pairwise_map.2 h
  rw [← hkeys] at hmap
  exact List.pairwise_map.1 hmap

/-! ### One update -/

section

variable {gone : α → Bool} {f : α → α → α}

lemma mem_edit (h : Ascending key l) (hf : ∀ b, key b = key x → f x b = x) :
    a ∈ edit key gone f l x ↔ gone x = false ∧ a = x ∨ a ∈ l ∧ key a ≠ key x := by
  unfold edit
  cases hgone : gone x with
  | true => simp [mem_remove h]
  | false =>
    simp only [Bool.false_eq_true, if_false, true_and]
    by_cases hany : (l.any fun a => key a = key x) = true
    · rw [if_pos hany]
      obtain ⟨b, hb, hkb⟩ := List.any_eq_true.1 hany
      exact mem_revise h hf ⟨b, hb, of_decide_eq_true hkb⟩
    · rw [if_neg hany, mem_place]
      have hnew : a ∈ l → key a ≠ key x := fun ha hk => hany (List.any_eq_true.2 ⟨a, ha, decide_eq_true hk⟩)
      exact or_congr_right (iff_self_and.2 hnew)

lemma Ascending.edit (h : Ascending key l) (hf : ∀ b, key b = key x → f x b = x) :
    Ascending key (edit key gone f l x) := by
  unfold Ladder.edit
  cases hgone : gone x with
  | true => exact h.remove _
  | false =>
    simp only [Bool.false_eq_true, if_false]
    by_cases hany : (l.any fun a => key a = key x) = true
    · rw [if_pos hany]
      exact h.of_keys (revise_keys fun b hb => by rw [hf b hb])
    · rw [if_neg hany]
      exact h.place fun a ha hk => hany (List.any_eq_true.2 ⟨a, ha, decide_eq_true hk⟩)

/-! ### Reordered updates -/

lemma Ascending.ext (h : Ascending key l) (h' : Ascending key l') (hmem : ∀ a, a ∈ l ↔ a ∈ l') : l = l' := by
  have : Std.Irrefl fun a b : α => key a < key b := ⟨fun a => lt_irrefl (key a)⟩
  have : Std.Antisymm fun a b : α => key a < key b := ⟨fun a b hab hba => absurd hab hba.asymm⟩
  exact List.Pairwise.eq_of_mem_iff h h' hmem

lemma Ascending.edit_comm (hf : ∀ x b, key b = key x → f x b = x) (h : Ascending key l) {y : α}
    (hne : key x ≠ key y) :
    Ladder.edit key gone f (Ladder.edit key gone f l x) y = Ladder.edit key gone f (Ladder.edit key gone f l y) x := by
  refine ((h.edit (hf x)).edit (hf y)).ext ((h.edit (hf y)).edit (hf x)) fun a => ?_
  rw [mem_edit (h.edit (hf x)) (hf y), mem_edit h (hf x), mem_edit (h.edit (hf y)) (hf x), mem_edit h (hf y)]
  grind

/-- **Updates of distinct keys act as one update of a finite map**: their order does not matter. -/
lemma Ascending.edits_perm (hf : ∀ x b, key b = key x → f x b = x) {xs ys : List α} (hperm : xs.Perm ys) :
    ∀ {l : List α}, Ascending key l → xs.Pairwise (fun a b => key a ≠ key b) →
      xs.foldl (Ladder.edit key gone f) l = ys.foldl (Ladder.edit key gone f) l := by
  induction hperm with
  | nil => exact fun _ _ => rfl
  | cons x _ ih => exact fun h hne => ih (h.edit (hf x)) (List.pairwise_cons.1 hne).2
  | swap x y xs =>
    intro l h hne
    have hyx : key y ≠ key x := (List.pairwise_cons.1 hne).1 x (List.mem_cons_self ..)
    rw [List.foldl_cons, List.foldl_cons, h.edit_comm hf hyx]
    rfl
  | trans hxy _ ih ih' =>
    intro l h hne
    exact (ih h hne).trans (ih' h (hne.perm hxy fun hab => hab.symm))

end

/-! ### Truncated ladders -/

section

variable (key)

def editSet (gone : α → Bool) (s : Set α) (x : α) : Set α :=
  {a | gone x = false ∧ a = x ∨ a ∈ s ∧ key a ≠ key x}

/-- The list holds at most `n` entries of the set, in order. -/
structure Part (n : ℕ) (s : Set α) (l : List α) : Prop where
  ascending : Ascending key l
  length_le : l.length ≤ n
  sub : ∀ a ∈ l, a ∈ s

/-- The list holds exactly the first `n` entries of the set, in order. -/
structure Top (n : ℕ) (s : Set α) (l : List α) : Prop extends Part key n s l where
  rest : ∀ a ∈ s, a ∈ l ∨ l.length = n ∧ ∀ b ∈ l, key b < key a

/-- Each entry out of view that is not updated has `n` entries of the view `e` in front of it. -/
def Clear (n : ℕ) (s : Set α) (l e xs : List α) : Prop :=
  ∀ a ∈ s, a ∉ l → (∀ x ∈ xs, key x ≠ key a) → n ≤ (e.filter fun b => key b < key a).length

variable {key} {gone : α → Bool} {f : α → α → α} {s : Set α} {n : ℕ}

section

variable (hf : ∀ x b, key b = key x → f x b = x)

include hf

lemma Ascending.edits (xs : List α) :
    ∀ {l : List α}, Ascending key l → Ascending key (xs.foldl (Ladder.edit key gone f) l) := by
  induction xs with
  | nil => exact fun h => h
  | cons x xs ih => exact fun h => ih (h.edit (hf x))

lemma edits_sub (xs : List α) :
    ∀ {l : List α} {s : Set α}, Ascending key l → (∀ a ∈ l, a ∈ s) →
      ∀ a ∈ xs.foldl (edit key gone f) l, a ∈ xs.foldl (editSet key gone) s := by
  induction xs with
  | nil => exact fun _ hsub => hsub
  | cons x xs ih =>
    intro l s h hsub
    refine ih (h.edit (hf x)) fun a ha => ?_
    rcases (mem_edit h (hf x)).1 ha with hx | ⟨hl, hne⟩
    · exact .inl hx
    · exact .inr ⟨hsub a hl, hne⟩

lemma mem_edits_or (xs : List α) :
    ∀ {l : List α} {s : Set α}, Ascending key l →
      ∀ a ∈ xs.foldl (editSet key gone) s,
        a ∈ xs.foldl (edit key gone f) l ∨ a ∈ s ∧ a ∉ l ∧ ∀ x ∈ xs, key x ≠ key a := by
  induction xs with
  | nil =>
    intro l s _ a ha
    by_cases hl : a ∈ l
    · exact .inl hl
    · exact .inr ⟨ha, hl, by simp⟩
  | cons x xs ih =>
    intro l s h a ha
    rcases ih (h.edit (hf x)) a ha with hin | ⟨hs, hout, hxs⟩
    · exact .inl hin
    · have hnot := mt (mem_edit h (hf x)).2 hout
      rcases hs with hx | ⟨hs, hne⟩
      · exact absurd (.inl hx) hnot
      · refine .inr ⟨hs, fun hl => hnot (.inr ⟨hl, hne⟩), ?_⟩
        simpa using ⟨hne.symm, hxs⟩

end

variable (gone) in
lemma untouched_edits (hf : ∀ x b, key b = key x → f x b = x) {a : α} (xs : List α) :
    ∀ {l : List α} {s : Set α}, Ascending key l → a ∈ s → a ∉ l → (∀ x ∈ xs, key x ≠ key a) →
      a ∈ xs.foldl (editSet key gone) s ∧ a ∉ xs.foldl (edit key gone f) l := by
  induction xs with
  | nil => exact fun _ hs hl _ => ⟨hs, hl⟩
  | cons x xs ih =>
    intro l s h hs hl hxs
    simp only [List.mem_cons, forall_eq_or_imp] at hxs
    refine ih (h.edit (hf x)) (.inr ⟨hs, hxs.1.symm⟩) ?_ hxs.2
    rintro hmem
    rcases (mem_edit h (hf x)).1 hmem with ⟨-, rfl⟩ | ⟨hl', -⟩
    · exact hxs.1 rfl
    · exact hl hl'

lemma Ascending.front_of_count (h : Ascending key l) {w : K} :
    ∀ {n : ℕ}, n ≤ (l.filter fun b => key b < w).length →
      (l.take n).length = n ∧ ∀ b ∈ l.take n, key b < w := by
  induction l with
  | nil =>
    intro n hn
    rw [Nat.le_zero.1 hn]
    simp
  | cons c l ih =>
    obtain ⟨hc, hl⟩ := List.pairwise_cons.1 h
    intro n hn
    by_cases hw : key c < w
    · rw [List.filter_cons_of_pos (by simpa using hw), List.length_cons] at hn
      cases n with
      | zero => simp
      | succ n =>
        obtain ⟨hlen, hfront⟩ := ih hl (Nat.le_of_succ_le_succ hn)
        rw [List.take_succ_cons]
        exact ⟨by rw [List.length_cons, hlen], by simpa using ⟨hw, hfront⟩⟩
    · -- Nothing after `c` is in front of the key either.
      have hnone : ((c :: l).filter fun b => key b < w) = [] := by
        refine List.filter_eq_nil_iff.2 fun b hb => ?_
        rcases List.mem_cons.1 hb with rfl | hb
        · simpa using hw
        · simpa using (not_lt.1 hw).trans (hc b hb).le
      rw [hnone] at hn
      rw [Nat.le_zero.1 hn]
      simp

lemma Ascending.rest_of_take (h : Ascending key l) (ha : a ∈ l) :
    a ∈ l.take n ∨ (l.take n).length = n ∧ ∀ b ∈ l.take n, key b < key a := by
  rw [← List.take_append_drop n l, List.mem_append] at ha
  rcases ha with ha | ha
  · exact .inl ha
  · refine .inr ⟨?_, fun b hb => ?_⟩
    · have hlt : n < l.length := by
        by_contra hle
        rw [List.drop_eq_nil_of_le (not_lt.1 hle)] at ha
        cases ha
      exact List.length_take_of_le hlt.le
    · have hsplit : Ascending key (l.take n ++ l.drop n) := by rwa [List.take_append_drop]
      exact (List.pairwise_append.1 hsplit).2.2 b hb a ha

lemma Part.edits (hf : ∀ x b, key b = key x → f x b = x) (xs : List α) (h : Part key n s l) :
    Part key n (xs.foldl (editSet key gone) s) ((xs.foldl (edit key gone f) l).take n) where
  ascending := (h.ascending.edits hf xs).sublist (List.take_sublist _ _)
  length_le := List.length_take_le _ _
  sub a ha := edits_sub hf xs h.ascending h.sub a (List.mem_of_mem_take ha)

/-- **A truncated ladder** stays the top of the set after updates exactly if the updates leave enough
entries in view in front of what is out of view. -/
lemma top_edits_iff (hf : ∀ x b, key b = key x → f x b = x) (xs : List α) (h : Top key n s l) :
    Top key n (xs.foldl (editSet key gone) s) ((xs.foldl (edit key gone f) l).take n) ↔
      Clear key n s l (xs.foldl (edit key gone f) l) xs := by
  have hedited : Ascending key (xs.foldl (edit key gone f) l) := h.ascending.edits hf xs
  constructor
  · intro htop a hs hout hxs
    obtain ⟨hin, hnot⟩ := untouched_edits gone hf xs h.ascending hs hout hxs
    obtain ⟨hlen, hfront⟩ := (htop.rest a hin).resolve_left fun hmem => hnot (List.mem_of_mem_take hmem)
    have hall : ((xs.foldl (edit key gone f) l).take n).filter (fun b => key b < key a) =
        (xs.foldl (edit key gone f) l).take n := List.filter_eq_self.2 fun b hb => decide_eq_true (hfront b hb)
    calc n = (((xs.foldl (edit key gone f) l).take n).filter fun b => key b < key a).length := by rw [hall, hlen]
      _ ≤ _ := ((List.take_sublist _ _).filter _).length_le
  · intro hclear
    refine ⟨h.toPart.edits hf xs, fun a ha => ?_⟩
    rcases mem_edits_or hf xs h.ascending a ha with hin | ⟨hs, hout, hxs⟩
    · exact hedited.rest_of_take hin
    · exact .inr (hedited.front_of_count (hclear a hs hout hxs))

lemma Ascending.top (h : Ascending key l) (hmem : ∀ a, a ∈ l ↔ a ∈ s) (n : ℕ) : Top key n s (l.take n) :=
  ⟨⟨h.sublist (List.take_sublist _ _), List.length_take_le _ _, fun a ha => (hmem a).1 (List.mem_of_mem_take ha)⟩,
    fun a ha => h.rest_of_take ((hmem a).2 ha)⟩

end

end Ladder
