import Mathlib.Algebra.Order.Ring.Nat

/-!
# Bisection

Narrowing an interval of natural numbers by a probe that may fail. The two ends carry different
properties: `P` is what a positive probe shows, `Q` what a negative one shows.
-/

namespace Search

variable {ε : Type}

attribute [local simp] bind Except.bind

/-- Narrows `lo < hi` until they are neighbours or the steps are used up: a positive probe raises `lo`,
a negative one lowers `hi`. -/
def bisect (probe : ℕ → Except ε Bool) : ℕ → ℕ → ℕ → Except ε ℕ
  | 0, lo, _ => .ok lo
  | steps + 1, lo, hi =>
    if 1 < hi - lo then do
      let mid := lo + (hi - lo) / 2
      if ← probe mid then bisect probe steps mid hi else bisect probe steps lo mid
    else .ok lo

variable {probe : ℕ → Except ε Bool} {P Q : ℕ → Prop} {steps lo hi r : ℕ}

lemma bisect_succ_eq_ok (h : bisect probe (steps + 1) lo hi = .ok r) :
    hi - lo ≤ 1 ∧ r = lo ∨
      1 < hi - lo ∧
        (probe (lo + (hi - lo) / 2) = .ok true ∧ bisect probe steps (lo + (hi - lo) / 2) hi = .ok r ∨
          probe (lo + (hi - lo) / 2) = .ok false ∧
            bisect probe steps lo (lo + (hi - lo) / 2) = .ok r) := by
  unfold bisect at h
  split_ifs at h with hwide
  · refine .inr ⟨hwide, ?_⟩
    cases hp : probe (lo + (hi - lo) / 2) with
    | error e => simp [hp] at h
    | ok b => cases b <;> simpa [hp] using h
  · exact .inl ⟨not_lt.1 hwide, (Except.ok.inj h).symm⟩

lemma le_of_bisect (h : bisect probe steps lo hi = .ok r) : lo ≤ r := by
  induction steps generalizing lo hi with
  | zero => exact (Except.ok.inj h).le
  | succ steps ih =>
    rcases bisect_succ_eq_ok h with ⟨-, rfl⟩ | ⟨-, ⟨-, hrest⟩ | ⟨-, hrest⟩⟩
    · exact le_rfl
    · exact (Nat.le_add_right ..).trans (ih hrest)
    · exact ih hrest

lemma bisect_neighbours (hP : ∀ m, probe m = .ok true → P m) (hQ : ∀ m, probe m = .ok false → Q m)
    (hlo : P lo) (hhi : Q hi) (hlt : lo < hi) (hsteps : hi - lo ≤ 2 ^ steps)
    (h : bisect probe steps lo hi = .ok r) : r < hi ∧ P r ∧ Q (r + 1) := by
  induction steps generalizing lo hi with
  | zero =>
    obtain rfl : lo = r := Except.ok.inj h
    rw [pow_zero] at hsteps
    have hnext : lo + 1 = hi := by omega
    exact ⟨hlt, hlo, hnext ▸ hhi⟩
  | succ steps ih =>
    rw [pow_succ] at hsteps
    rcases bisect_succ_eq_ok h with ⟨hnarrow, rfl⟩ | ⟨hwide, ⟨hp, hrest⟩ | ⟨hp, hrest⟩⟩
    · have hnext : r + 1 = hi := by omega
      exact ⟨hlt, hlo, hnext ▸ hhi⟩
    · exact ih (hP _ hp) hhi (by omega) (by omega) hrest
    · obtain ⟨hr, hrest⟩ := ih hlo (hQ _ hp) (by omega) (by omega) hrest
      exact ⟨by omega, hrest⟩

lemma bisect_total (h : ∀ m, lo < m → m < hi → ∃ b, probe m = .ok b) (steps : ℕ) :
    ∃ r, bisect probe steps lo hi = .ok r := by
  induction steps generalizing lo hi with
  | zero => exact ⟨lo, rfl⟩
  | succ steps ih =>
    unfold bisect
    split_ifs
    · obtain ⟨b, hb⟩ := h (lo + (hi - lo) / 2) (by omega) (by omega)
      cases b with
      | true =>
        obtain ⟨r, hr⟩ : ∃ r, bisect probe steps (lo + (hi - lo) / 2) hi = .ok r :=
          ih fun m hlo hhi => h m (by omega) hhi
        exact ⟨r, by simp [hb, hr]⟩
      | false =>
        obtain ⟨r, hr⟩ : ∃ r, bisect probe steps lo (lo + (hi - lo) / 2) = .ok r :=
          ih fun m hlo hhi => h m hlo (by omega)
        exact ⟨r, by simp [hb, hr]⟩
    · exact ⟨lo, rfl⟩

/-! ### Probes that do not fail -/

def bisectBool (probe : ℕ → Bool) (steps lo hi : ℕ) : ℕ :=
  match bisect (fun m => (.ok (probe m) : Except Empty Bool)) steps lo hi with
  | .ok r => r
  | .error e => e.elim

section

variable {probe : ℕ → Bool}

lemma bisect_eq_bisectBool :
    bisect (fun m => (.ok (probe m) : Except Empty Bool)) steps lo hi = .ok (bisectBool probe steps lo hi) := by
  unfold bisectBool
  cases bisect (fun m => (.ok (probe m) : Except Empty Bool)) steps lo hi with
  | ok r => rfl
  | error e => exact e.elim

lemma bisectBool_neighbours (steps : ℕ) (hhi : probe hi = false) (hlt : lo < hi) (hsteps : hi - lo ≤ 2 ^ steps) :
    bisectBool probe steps lo hi < hi ∧
      (bisectBool probe steps lo hi = lo ∨ probe (bisectBool probe steps lo hi) = true) ∧
      probe (bisectBool probe steps lo hi + 1) = false :=
  bisect_neighbours (P := fun m => m = lo ∨ probe m = true) (Q := fun m => probe m = false)
    (fun _ hm => .inr (Except.ok.inj hm)) (fun _ hm => Except.ok.inj hm) (.inl rfl) hhi hlt hsteps
    bisect_eq_bisectBool

lemma bisectBool_succ :
    bisectBool probe (steps + 1) lo hi =
      if 1 < hi - lo then
        if probe (lo + (hi - lo) / 2) then bisectBool probe steps (lo + (hi - lo) / 2) hi
        else bisectBool probe steps lo (lo + (hi - lo) / 2) else lo := by
  refine Except.ok.inj (ε := Empty) (bisect_eq_bisectBool.symm.trans ?_)
  rw [bisect]
  split_ifs with hwide hp
  · change (if probe _ = true then _ else _) = _
    rw [if_pos hp, bisect_eq_bisectBool]
  · change (if probe _ = true then _ else _) = _
    rw [if_neg hp, bisect_eq_bisectBool]
  · rfl

/-- The inputs the narrowing probes, in order. -/
def bisectProbes (probe : ℕ → Bool) : ℕ → ℕ → ℕ → List ℕ
  | 0, _, _ => []
  | steps + 1, lo, hi =>
    if 1 < hi - lo then
      let mid := lo + (hi - lo) / 2
      mid :: if probe mid then bisectProbes probe steps mid hi else bisectProbes probe steps lo mid
    else []

/-- An input below `hi` is at most the result exactly when no probe at or below it is negative. -/
lemma le_bisectBool_iff {a : ℕ} (ha : a < hi) (hlt : lo < hi) (hsteps : hi - lo ≤ 2 ^ steps) :
    a ≤ bisectBool probe steps lo hi ↔
      ∀ m ∈ bisectProbes probe steps lo hi, m ≤ a → probe m = true := by
  induction steps generalizing lo hi with
  | zero =>
    rw [pow_zero] at hsteps
    have hle : a ≤ bisectBool probe 0 lo hi := (by omega : a ≤ lo)
    exact iff_of_true hle (List.forall_mem_nil _)
  | succ steps ih =>
    rw [pow_succ] at hsteps
    rw [bisectBool_succ, bisectProbes]
    dsimp only
    split_ifs with hwide hp
    · rw [List.forall_mem_cons, ih ha (by omega) (by omega)]
      exact (and_iff_right fun _ => hp).symm
    · have hneg := Bool.not_eq_true _ ▸ hp
      rw [List.forall_mem_cons]
      rcases Nat.lt_or_ge a (lo + (hi - lo) / 2) with hbelow | habove
      · rw [ih hbelow (by omega) (by omega)]
        exact (and_iff_right fun hle => absurd hle (Nat.not_le.2 hbelow)).symm
      · -- the result stays below the refused probe
        obtain ⟨hres, -⟩ := bisectBool_neighbours steps hneg
          (by omega : lo < lo + (hi - lo) / 2) (by omega)
        exact iff_of_false (by omega) fun h => hp (h.1 habove)
    · exact iff_of_true (by omega) (List.forall_mem_nil _)

end

/-! ### Probes that remember -/

def bisectWith {σ : Type} (probe : σ → ℕ → Except ε (Bool × σ)) : ℕ → σ → ℕ → ℕ → Except ε (ℕ × σ)
  | 0, s, lo, _ => .ok (lo, s)
  | steps + 1, s, lo, hi =>
    if 1 < hi - lo then do
      let mid := lo + (hi - lo) / 2
      let (up, s) ← probe s mid
      if up then bisectWith probe steps s mid hi else bisectWith probe steps s lo mid
    else .ok (lo, s)

lemma bisectWith_eq {σ : Type} {remember : σ → ℕ → Except ε (Bool × σ)} {s : σ}
    (h : ∀ s m, lo < m → m < hi → (remember s m).map Prod.fst = probe m) :
    (bisectWith remember steps s lo hi).map Prod.fst = bisect probe steps lo hi := by
  induction steps generalizing s lo hi with
  | zero => rfl
  | succ steps ih =>
    unfold bisectWith bisect
    split_ifs
    · have hmid := h s (lo + (hi - lo) / 2) (by omega) (by omega)
      dsimp only
      cases hp : remember s (lo + (hi - lo) / 2) with
      | error e =>
        rw [← hmid, hp]
        rfl
      | ok out =>
        obtain ⟨up, s'⟩ := out
        rw [← hmid, hp]
        cases up with
        | true => exact ih fun s m hlo hhi => h s m (by omega) hhi
        | false => exact ih fun s m hlo hhi => h s m hlo (by omega)
    · rfl

lemma bisectWith_le {σ : Type} {remember : σ → ℕ → Except ε (Bool × σ)} {s : σ} {out : ℕ × σ}
    (hle : lo ≤ hi) (h : bisectWith remember steps s lo hi = .ok out) : out.1 ≤ hi := by
  induction steps generalizing s lo hi with
  | zero =>
    obtain rfl := Except.ok.inj h
    exact hle
  | succ steps ih =>
    unfold bisectWith at h
    split_ifs at h
    · dsimp only at h
      cases hp : remember s (lo + (hi - lo) / 2) with
      | error e =>
        rw [hp] at h
        cases h
      | ok answer =>
        obtain ⟨up, s'⟩ := answer
        rw [hp] at h
        cases up with
        | true => exact ih (by omega) h
        | false => exact (ih (by omega) h).trans (by omega)
    · obtain rfl := Except.ok.inj h
      exact hle

/-! ### Lower bounds -/

/-- Narrows `lo ≤ hi` to the first input whose probe is positive, if the probe is monotone: a positive
probe lowers `hi` to it, a negative one raises `lo` above it. -/
def lowerBound (probe : ℕ → Except ε Bool) : ℕ → ℕ → ℕ → Except ε ℕ
  | 0, lo, _ => .ok lo
  | steps + 1, lo, hi =>
    if lo < hi then do
      let mid := lo + (hi - lo) / 2
      if ← probe mid then lowerBound probe steps lo mid else lowerBound probe steps (mid + 1) hi
    else .ok lo

lemma lowerBound_succ_eq_ok (h : lowerBound probe (steps + 1) lo hi = .ok r) :
    hi ≤ lo ∧ r = lo ∨
      lo < hi ∧
        (probe (lo + (hi - lo) / 2) = .ok true ∧ lowerBound probe steps lo (lo + (hi - lo) / 2) = .ok r ∨
          probe (lo + (hi - lo) / 2) = .ok false ∧
            lowerBound probe steps (lo + (hi - lo) / 2 + 1) hi = .ok r) := by
  unfold lowerBound at h
  split_ifs at h with hwide
  · refine .inr ⟨hwide, ?_⟩
    cases hp : probe (lo + (hi - lo) / 2) with
    | error e => simp [hp] at h
    | ok b => cases b <;> simpa [hp] using h
  · exact .inl ⟨not_lt.1 hwide, (Except.ok.inj h).symm⟩

lemma lowerBound_spec (hP : ∀ m, probe m = .ok true → P m) (hQ : ∀ m, probe m = .ok false → Q m)
    (hhi : P hi) (hle : lo ≤ hi) (hsteps : hi - lo < 2 ^ steps)
    (h : lowerBound probe steps lo hi = .ok r) : lo ≤ r ∧ r ≤ hi ∧ P r ∧ (lo < r → Q (r - 1)) := by
  induction steps generalizing lo hi with
  | zero =>
    obtain rfl : lo = r := Except.ok.inj h
    rw [pow_zero] at hsteps
    obtain rfl : lo = hi := by omega
    exact ⟨le_rfl, le_rfl, hhi, fun hlt => absurd hlt (lt_irrefl lo)⟩
  | succ steps ih =>
    rw [pow_succ] at hsteps
    rcases lowerBound_succ_eq_ok h with ⟨hnarrow, rfl⟩ | ⟨hwide, ⟨hp, hrest⟩ | ⟨hp, hrest⟩⟩
    · obtain rfl : r = hi := by omega
      exact ⟨le_rfl, le_rfl, hhi, fun hlt => absurd hlt (lt_irrefl r)⟩
    · obtain ⟨hlo, hr, hrest⟩ := ih (hP _ hp) (by omega) (by omega) hrest
      exact ⟨hlo, by omega, hrest⟩
    · obtain ⟨hlo, hr, hPr, hQr⟩ := ih hhi (by omega) (by omega) hrest
      refine ⟨by omega, hr, hPr, fun _ => ?_⟩
      rcases hlo.eq_or_lt with heq | hlt
      · have hmid : r - 1 = lo + (hi - lo) / 2 := by omega
        rw [hmid]
        exact hQ _ hp
      · exact hQr hlt

lemma lowerBound_total (h : ∀ m, lo ≤ m → m < hi → ∃ b, probe m = .ok b) (steps : ℕ) :
    ∃ r, lowerBound probe steps lo hi = .ok r := by
  induction steps generalizing lo hi with
  | zero => exact ⟨lo, rfl⟩
  | succ steps ih =>
    unfold lowerBound
    split_ifs
    · obtain ⟨b, hb⟩ := h (lo + (hi - lo) / 2) (by omega) (by omega)
      cases b with
      | true =>
        obtain ⟨r, hr⟩ : ∃ r, lowerBound probe steps lo (lo + (hi - lo) / 2) = .ok r :=
          ih fun m hlo hhi => h m hlo (by omega)
        exact ⟨r, by simp [hb, hr]⟩
      | false =>
        obtain ⟨r, hr⟩ : ∃ r, lowerBound probe steps (lo + (hi - lo) / 2 + 1) hi = .ok r :=
          ih fun m hlo hhi => h m (by omega) hhi
        exact ⟨r, by simp [hb, hr]⟩
    · exact ⟨lo, rfl⟩

end Search
