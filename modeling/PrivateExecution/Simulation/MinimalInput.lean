import PrivateExecution.Domain.Primitives
import PrivateExecution.Search.Bisect

/-!
# The search for a minimal input

`find_min_gross_input` (`simulation/src/clmm.rs`) inverts an exact-input kernel that it only probes. It
doubles an input until one covers the target or fails high; a high failure is narrowed to the largest
input below the ceiling. The least covering input is then searched below that bound, and the input one
below it is probed once more.
-/

namespace PrivateExecution

inductive ProbeClass where
  | low | hole | high | unexpected
deriving DecidableEq

inductive MinimalInputSearch where
  | found (g : ℕ)
  | unreachable
  | invariant

/-- How the first phase ends: with a covering upper bound, or with the answer of the search. -/
inductive Located where
  | covering (hi : ℕ)
  | unreachable
  | invariant

/-- The inputs that are doubled through: `1, 2, 4, …, 2^127`, and last `u128::MAX`, after which the search
gives up. -/
def doublings : List ℕ := (List.range 128).map (2 ^ ·) ++ [2 ^ 128 - 1]

section

variable {ε : Type} (target : ℕ) (f : ℕ → Except ε ℕ) (classify : ε → ProbeClass)

/-- One probe between an input that does not fail high and one that does. The answer says whether the
former moves up; the state is `seen_ok`, before whose being set a hole is tolerated. -/
def ceilingProbe (seenOk : Bool) (mid : ℕ) : Except ε (Bool × Bool) :=
  match f mid with
  | .ok _ => .ok (true, true)
  | .error inner =>
    match classify inner with
    | .high => .ok (false, seenOk)
    | .low => .ok (true, seenOk)
    | .hole => if seenOk then .error inner else .ok (true, seenOk)
    | .unexpected => .error inner

/-- The input right below the ceiling covers the target, or nothing does. -/
def belowCeiling (seenOk : Bool) (gMax : ℕ) : Except ε Located :=
  if gMax = 0 then .ok .unreachable
  else
    match f gMax with
    | .ok out => .ok (if target ≤ out then .covering gMax else .unreachable)
    | .error inner =>
      match classify inner with
      | .low => .ok .unreachable
      | .hole => if seenOk then .error inner else .ok .unreachable
      | .high => .ok .invariant
      | .unexpected => .error inner

/-- Phase 1. The narrowing ends with `high = lo + 1`, so that `lo` is the input below the ceiling. -/
def locate : List ℕ → Bool → ℕ → Except ε Located
  | [], _, _ => .ok .unreachable
  | g :: rest, seenOk, prev =>
    match f g with
    | .ok out => if target ≤ out then .ok (.covering g) else locate rest true g
    | .error err =>
      match classify err with
      | .low => locate rest seenOk g
      | .hole => if seenOk then .error err else locate rest seenOk g
      | .high => do
        let (gMax, seenOk) ← Search.bisectWith (ceilingProbe f classify) 128 seenOk prev g
        belowCeiling target f classify seenOk gMax
      | .unexpected => .error err

/-- One probe of phase 2: a low failure does not cover, any other one ends the search. -/
def coversProbe (mid : ℕ) : Except ε Bool :=
  match f mid with
  | .ok out => .ok (decide (target ≤ out))
  | .error err =>
    match classify err with
    | .low => .ok false
    | .hole | .high | .unexpected => .error err

/-- Phase 3: the input covers the target and the one below it does not. -/
def proveFound (g : ℕ) : Except ε MinimalInputSearch :=
  match f g with
  | .error _ => .ok .invariant
  | .ok out =>
    if target ≤ out then
      if 1 < g then
        match f (g - 1) with
        | .ok previous => .ok (if target ≤ previous then .invariant else .found g)
        | .error err =>
          match classify err with
          | .low => .ok (.found g)
          | .hole | .high | .unexpected => .error err
      else .ok (.found g)
    else .ok .invariant

def findMinGrossInput : Except ε MinimalInputSearch := do
  match ← locate target f classify doublings false 0 with
  | .unreachable => return .unreachable
  | .invariant => return .invariant
  | .covering hi =>
    let g ← Search.lowerBound (coversProbe target f classify) 128 1 hi
    proveFound target f classify g

end

section

variable {ε : Type} (target : ℕ) (f : ℕ → Except ε ℕ) (classify : ε → ProbeClass)

def Covers (g : ℕ) : Prop := ∃ out, f g = .ok out ∧ target ≤ out

def FailsWith (c : ProbeClass) (g : ℕ) : Prop := ∃ e, f g = .error e ∧ classify e = c

def FallsShort (g : ℕ) : Prop := (∃ out, f g = .ok out ∧ out < target) ∨ FailsWith f classify .low g

end

section

variable {ε : Type} {target : ℕ} {f : ℕ → Except ε ℕ} {classify : ε → ProbeClass} {g : ℕ}

lemma FallsShort.not_high (h : FallsShort target f classify g) : ¬ FailsWith f classify .high g := by
  rintro ⟨e, he, hc⟩
  rcases h with ⟨out, hf, -⟩ | ⟨e', hf, hc'⟩
  · cases hf.symm.trans he
  · cases hf.symm.trans he
    cases hc.symm.trans hc'

lemma coversProbe_true (h : coversProbe target f classify g = .ok true) : Covers target f g := by
  unfold coversProbe at h
  cases hf : f g with
  | ok out =>
    simp only [hf, Except.ok.injEq, decide_eq_true_eq] at h
    exact ⟨out, hf, h⟩
  | error e => cases hc : classify e <;> simp [hf, hc] at h

lemma coversProbe_false (h : coversProbe target f classify g = .ok false) :
    FallsShort target f classify g := by
  unfold coversProbe at h
  cases hf : f g with
  | ok out =>
    simp only [hf, Except.ok.injEq, decide_eq_false_iff_not, not_le] at h
    exact .inl ⟨out, hf, h⟩
  | error e =>
    cases hc : classify e with
    | low => exact .inr ⟨e, hf, hc⟩
    | _ => simp [hf, hc] at h

lemma proveFound_found {r : ℕ} (h : proveFound target f classify g = .ok (.found r)) :
    r = g ∧ Covers target f g ∧ (1 < g → FallsShort target f classify (g - 1)) := by
  unfold proveFound at h
  cases hf : f g with
  | error e => simp [hf] at h
  | ok out =>
    by_cases hle : target ≤ out
    · by_cases hone : 1 < g
      · cases hprev : f (g - 1) with
        | ok previous =>
          by_cases hcov : target ≤ previous
          · simp [hf, hle, hone, hprev, hcov] at h
          · simp only [hf, hle, hone, hprev, hcov, if_true, if_false, Except.ok.injEq,
              MinimalInputSearch.found.injEq] at h
            exact ⟨h.symm, ⟨out, hf, hle⟩, fun _ => .inl ⟨previous, hprev, not_le.1 hcov⟩⟩
        | error e =>
          cases hc : classify e with
          | low =>
            simp only [hf, hle, hone, hprev, hc, if_true, Except.ok.injEq,
              MinimalInputSearch.found.injEq] at h
            exact ⟨h.symm, ⟨out, hf, hle⟩, fun _ => .inr ⟨e, hprev, hc⟩⟩
          | _ => simp [hf, hle, hone, hprev, hc] at h
      · simp only [hf, hle, hone, if_true, if_false, Except.ok.injEq,
          MinimalInputSearch.found.injEq] at h
        exact ⟨h.symm, ⟨out, hf, hle⟩, fun h => absurd h hone⟩
    · simp [hf, hle] at h

lemma proveFound_of_short (hcov : Covers target f g) (hshort : 1 < g → FallsShort target f classify (g - 1)) :
    proveFound target f classify g = .ok (.found g) := by
  obtain ⟨out, hf, hle⟩ := hcov
  by_cases hone : 1 < g
  · rcases hshort hone with ⟨previous, hprev, hless⟩ | ⟨e, hprev, hc⟩
    · simp [proveFound, hf, hle, hone, hprev, not_le.2 hless]
    · simp [proveFound, hf, hle, hone, hprev, hc]
  · simp [proveFound, hf, hle, hone]

lemma belowCeiling_covering {seenOk : Bool} {gMax hi : ℕ}
    (h : belowCeiling target f classify seenOk gMax = .ok (.covering hi)) :
    hi = gMax ∧ 0 < gMax ∧ Covers target f gMax := by
  unfold belowCeiling at h
  by_cases hzero : gMax = 0
  · simp [hzero] at h
  rw [if_neg hzero] at h
  cases hf : f gMax with
  | ok out =>
    by_cases hle : target ≤ out
    · simp only [hf, hle, if_true, Except.ok.injEq, Located.covering.injEq] at h
      exact ⟨h.symm, Nat.pos_of_ne_zero hzero, out, hf, hle⟩
    · simp [hf, hle] at h
  | error e => cases hc : classify e <;> cases seenOk <;> simp [hf, hc] at h

lemma locate_covering {probes : List ℕ} {seenOk : Bool} {prev hi m : ℕ}
    (hprobes : (prev :: probes).Pairwise (· < ·)) (hm : ∀ g ∈ probes, g ≤ m)
    (h : locate target f classify probes seenOk prev = .ok (.covering hi)) :
    0 < hi ∧ hi ≤ m ∧ Covers target f hi := by
  induction probes generalizing seenOk prev with
  | nil => cases h
  | cons g rest ih =>
    obtain ⟨hprev, hrest⟩ := List.pairwise_cons.1 hprobes
    have hlt : prev < g := hprev g List.mem_cons_self
    have hle : g ≤ m := hm g List.mem_cons_self
    have ih := fun seenOk => @ih seenOk g hrest fun g' hg' => hm g' (List.mem_cons_of_mem _ hg')
    unfold locate at h
    cases hf : f g with
    | ok out =>
      rw [hf] at h
      dsimp only at h
      split_ifs at h with hcov
      · cases h
        exact ⟨by omega, hle, out, hf, hcov⟩
      · exact ih _ h
    | error e =>
      rw [hf] at h
      dsimp only at h
      cases hc : classify e with
      | low =>
        rw [hc] at h
        exact ih _ h
      | hole =>
        rw [hc] at h
        cases seenOk with
        | true => cases h
        | false => exact ih _ h
      | high =>
        rw [hc] at h
        obtain ⟨⟨gMax, seen⟩, hbisect, h⟩ := bind_ok.1 h
        have hmax := Search.bisectWith_le hlt.le hbisect
        obtain ⟨rfl, hpos, hcov⟩ := belowCeiling_covering h
        exact ⟨hpos, hmax.trans hle, hcov⟩
      | unexpected =>
        rw [hc] at h
        cases h

lemma doublings_pairwise : (0 :: doublings).Pairwise (· < ·) := by decide +kernel

lemma le_of_mem_doublings : ∀ g ∈ doublings, g ≤ 2 ^ 128 - 1 := by decide +kernel

lemma found_spec (h : findMinGrossInput target f classify = .ok (.found g)) :
    0 < g ∧ g < 2 ^ 128 ∧ Covers target f g ∧ (1 < g → FallsShort target f classify (g - 1)) := by
  unfold findMinGrossInput at h
  obtain ⟨located, hlocate, h⟩ := bind_ok.1 h
  cases located with
  | unreachable => cases h
  | invariant => cases h
  | covering hi =>
    obtain ⟨hpos, hle, hcov⟩ := locate_covering doublings_pairwise le_of_mem_doublings hlocate
    obtain ⟨r, hsearch, h⟩ := bind_ok.1 h
    obtain ⟨rfl, hcovers, hshort⟩ := proveFound_found h
    have hsteps : hi - 1 < 2 ^ 128 := by omega
    obtain ⟨hone, hhi, -⟩ := Search.lowerBound_spec (P := Covers target f)
      (fun _ => coversProbe_true) (fun _ => coversProbe_false) hcov hpos hsteps hsearch
    exact ⟨hone, by omega, hcovers, hshort⟩

end

/-! ### Kernels whose failures are ordered -/

/-- Over the inputs of 128 bits the failures are low or high, low ones lie below and high ones above every
quote, and quotes do not decrease. -/
structure Staged {ε : Type} (f : ℕ → Except ε ℕ) (classify : ε → ProbeClass) : Prop where
  fails : ∀ {g e}, 0 < g → g < 2 ^ 128 → f g = .error e → classify e = .low ∨ classify e = .high
  mono : ∀ {g g' out out'}, g ≤ g' → f g = .ok out → f g' = .ok out' → out ≤ out'
  low : ∀ {g g'}, 0 < g → g ≤ g' → g' < 2 ^ 128 → FailsWith f classify .low g' → FailsWith f classify .low g
  high : ∀ {g g'}, 0 < g → g ≤ g' → g' < 2 ^ 128 → FailsWith f classify .high g →
    FailsWith f classify .high g'

namespace Staged

variable {ε : Type} {target : ℕ} {f : ℕ → Except ε ℕ} {classify : ε → ProbeClass} {g g' : ℕ}

lemma cases (h : Staged f classify) (target : ℕ) (hpos : 0 < g) (hlt : g < 2 ^ 128) :
    Covers target f g ∨ FallsShort target f classify g ∨ FailsWith f classify .high g := by
  cases hf : f g with
  | ok out =>
    rcases le_or_gt target out with hle | hgt
    · exact .inl ⟨out, hf, hle⟩
    · exact .inr (.inl (.inl ⟨out, hf, hgt⟩))
  | error e =>
    rcases h.fails hpos hlt hf with hc | hc
    · exact .inr (.inl (.inr ⟨e, hf, hc⟩))
    · exact .inr (.inr ⟨e, hf, hc⟩)

lemma not_covers_below (h : Staged f classify) (hpos : 0 < g) (hle : g ≤ g') (hlt : g' < 2 ^ 128)
    (hshort : FallsShort target f classify g') : ¬ Covers target f g := by
  rintro ⟨out, hf, hcov⟩
  rcases hshort with ⟨out', hf', hless⟩ | hlow
  · exact absurd (hcov.trans (h.mono hle hf hf')) (not_le.2 hless)
  · obtain ⟨e, he, -⟩ := h.low hpos hle hlt hlow
    cases hf.symm.trans he

lemma not_covers_above (h : Staged f classify) (hpos : 0 < g) (hle : g ≤ g') (hlt : g' < 2 ^ 128)
    (hhigh : FailsWith f classify .high g) : ¬ Covers target f g' := by
  rintro ⟨out, hf, -⟩
  obtain ⟨e, he, -⟩ := h.high hpos hle hlt hhigh
  cases hf.symm.trans he

def belowHigh (f : ℕ → Except ε ℕ) (classify : ε → ProbeClass) (g : ℕ) : Except ε Bool :=
  match f g with
  | .ok _ => .ok true
  | .error e => .ok (decide (classify e ≠ .high))

lemma ceilingProbe_eq (h : Staged f classify) (hpos : 0 < g) (hlt : g < 2 ^ 128) (seenOk : Bool) :
    (ceilingProbe f classify seenOk g).map Prod.fst = belowHigh f classify g := by
  unfold ceilingProbe belowHigh
  cases hf : f g with
  | ok out => rfl
  | error e =>
    rcases h.fails hpos hlt hf with hc | hc
    all_goals
      simp only [hc]
      rfl

lemma belowHigh_true (h : belowHigh f classify g = .ok true) : ¬ FailsWith f classify .high g := by
  rintro ⟨e, hf, hc⟩
  simp [belowHigh, hf, hc] at h

lemma belowHigh_false (h : belowHigh f classify g = .ok false) : FailsWith f classify .high g := by
  unfold belowHigh at h
  cases hf : f g with
  | ok out => simp [hf] at h
  | error e => exact ⟨e, hf, by simpa [hf] using h⟩

lemma ceiling (h : Staged f classify) {prev : ℕ} (hprev : prev < g) (hg : g < 2 ^ 128)
    (hbelow : prev = 0 ∨ ¬ FailsWith f classify .high prev) (hhigh : FailsWith f classify .high g)
    (seenOk : Bool) :
    ∃ gMax seen, Search.bisectWith (ceilingProbe f classify) 128 seenOk prev g = .ok (gMax, seen) ∧
      gMax < g ∧ (gMax = 0 ∨ ¬ FailsWith f classify .high gMax) ∧ FailsWith f classify .high (gMax + 1) := by
  have hsame : (Search.bisectWith (ceilingProbe f classify) 128 seenOk prev g).map Prod.fst =
      Search.bisect (belowHigh f classify) 128 prev g :=
    Search.bisectWith_eq fun seenOk m hlo hhi => h.ceilingProbe_eq (by omega) (by omega) seenOk
  have hanswers : ∀ m, prev < m → m < g → ∃ b, belowHigh f classify m = .ok b := by
    intro m _ _
    unfold belowHigh
    cases f m <;> exact ⟨_, rfl⟩
  obtain ⟨r, hr⟩ := Search.bisect_total hanswers 128
  rw [hr] at hsame
  obtain ⟨⟨gMax, seen⟩, hrun, rfl⟩ := except_map_eq_ok.1 hsame
  have hsteps : g - prev ≤ 2 ^ 128 := by omega
  obtain ⟨hlt, hmax, hnext⟩ := Search.bisect_neighbours
    (P := fun m => m = 0 ∨ ¬ FailsWith f classify .high m)
    (fun m hm => .inr (belowHigh_true hm)) (fun m => belowHigh_false) hbelow hhigh hprev hsteps hr
  exact ⟨gMax, seen, hrun, hlt, hmax, hnext⟩

/-- What the end of the first phase says about the inputs of 128 bits. -/
def Settles (target : ℕ) (f : ℕ → Except ε ℕ) : Located → Prop
  | .covering hi => 0 < hi ∧ hi < 2 ^ 128 ∧ Covers target f hi
  | .unreachable => ∀ g, 0 < g → g < 2 ^ 128 → ¬ Covers target f g
  | .invariant => False

section

variable (h : Staged f classify)

include h

lemma belowCeiling_settles (target : ℕ) {gMax : ℕ} (hlt : gMax + 1 < 2 ^ 128)
    (hmax : gMax = 0 ∨ ¬ FailsWith f classify .high gMax)
    (hnext : FailsWith f classify .high (gMax + 1)) (seenOk : Bool) :
    ∃ l, belowCeiling target f classify seenOk gMax = .ok l ∧ Settles target f l := by
  have habove : ∀ g, gMax < g → g < 2 ^ 128 → ¬ Covers target f g := fun g hgt hlt =>
    h.not_covers_above (Nat.succ_pos gMax) hgt hlt hnext
  unfold belowCeiling
  by_cases hzero : gMax = 0
  · exact ⟨.unreachable, if_pos hzero, fun g hpos => habove g (by omega)⟩
  have hpos : 0 < gMax := Nat.pos_of_ne_zero hzero
  have hnothing : FallsShort target f classify gMax → Settles target f .unreachable := by
    intro hshort g hgpos hglt
    rcases Nat.lt_or_ge gMax g with hgt | hle
    · exact habove g hgt hglt
    · exact h.not_covers_below hgpos hle (by omega) hshort
  rw [if_neg hzero]
  rcases h.cases target hpos (by omega) with ⟨out, hf, hcov⟩ | hshort | hhigh
  · exact ⟨.covering gMax, by simp [hf, hcov], hpos, by omega, out, hf, hcov⟩
  · refine ⟨.unreachable, ?_, hnothing hshort⟩
    rcases hshort with ⟨out, hf, hless⟩ | ⟨e, hf, hc⟩
    · simp [hf, not_le.2 hless]
    · simp [hf, hc]
  · exact absurd hhigh (hmax.resolve_left hzero)

lemma locate_settles (target : ℕ) :
    ∀ {probes : List ℕ} {seenOk : Bool} {prev : ℕ}, (prev :: probes).Pairwise (· < ·) →
      (∀ g ∈ probes, g < 2 ^ 128) → (prev :: probes).getLast? = some (2 ^ 128 - 1) →
      (prev = 0 ∨ FallsShort target f classify prev) →
      ∃ l, locate target f classify probes seenOk prev = .ok l ∧ Settles target f l := by
  intro probes
  induction probes with
  | nil =>
    intro seenOk prev _ _ hlast hprev
    obtain rfl : prev = 2 ^ 128 - 1 := by simpa using hlast
    refine ⟨.unreachable, rfl, fun g hpos hlt => ?_⟩
    exact h.not_covers_below hpos (by omega) (by norm_num) (hprev.resolve_left (by norm_num))
  | cons g rest ih =>
    intro seenOk prev hprobes hlt hlast hprev
    obtain ⟨hbelow, hrest⟩ := List.pairwise_cons.1 hprobes
    have hprevlt : prev < g := hbelow g List.mem_cons_self
    have hglt : g < 2 ^ 128 := hlt g List.mem_cons_self
    have hgo : FallsShort target f classify g → ∀ seenOk,
        ∃ l, locate target f classify rest seenOk g = .ok l ∧ Settles target f l := fun hshort seenOk =>
      ih hrest (fun g' hg' => hlt g' (List.mem_cons_of_mem _ hg')) (by simpa using hlast) (.inr hshort)
    unfold locate
    rcases h.cases target (by omega : 0 < g) hglt with ⟨out, hf, hcov⟩ | hshort | hhigh
    · exact ⟨.covering g, by simp [hf, hcov], by omega, hglt, out, hf, hcov⟩
    · rcases id hshort with ⟨out, hf, hless⟩ | ⟨e, hf, hc⟩
      · simpa [hf, not_le.2 hless] using hgo hshort true
      · simpa [hf, hc] using hgo hshort seenOk
    · obtain ⟨e, hf, hc⟩ := id hhigh
      have hnothigh : prev = 0 ∨ ¬ FailsWith f classify .high prev := by
        exact hprev.imp id FallsShort.not_high
      obtain ⟨gMax, seen, hrun, hmaxlt, hmax, hnext⟩ := h.ceiling hprevlt hglt hnothigh hhigh seenOk
      obtain ⟨l, hl, hsettles⟩ := h.belowCeiling_settles target (by omega) hmax hnext seen
      refine ⟨l, ?_, hsettles⟩
      simp only [hf, hc, hrun]
      exact hl

lemma coversProbe_total {hi : ℕ} (hpos : 0 < g) (hle : g ≤ hi)
    (hlt : hi < 2 ^ 128) (hcov : Covers target f hi) : ∃ b, coversProbe target f classify g = .ok b := by
  unfold coversProbe
  rcases h.cases target hpos (by omega) with ⟨out, hf, -⟩ | (⟨out, hf, -⟩ | ⟨e, hf, hc⟩) | hhigh
  · exact ⟨_, by rw [hf]⟩
  · exact ⟨_, by rw [hf]⟩
  · exact ⟨false, by simp [hf, hc]⟩
  · exact absurd hcov (h.not_covers_above hpos hle hlt hhigh)

/-- **The search answers.** It finds the least input that covers the target, or says that there is none. -/
lemma find (target : ℕ) :
    (∃ g, findMinGrossInput target f classify = .ok (.found g) ∧ 0 < g ∧ g < 2 ^ 128 ∧
      Covers target f g ∧ ∀ g', 0 < g' → g' < 2 ^ 128 → Covers target f g' → g ≤ g') ∨
    findMinGrossInput target f classify = .ok .unreachable ∧
      ∀ g, 0 < g → g < 2 ^ 128 → ¬ Covers target f g := by
  have hlt : ∀ g ∈ doublings, g < 2 ^ 128 := fun g hg =>
    lt_of_le_of_lt (le_of_mem_doublings g hg) (by norm_num)
  obtain ⟨l, hl, hsettles⟩ := @h.locate_settles _ _ _ target doublings false 0 doublings_pairwise hlt
    (by decide +kernel) (.inl rfl)
  unfold findMinGrossInput
  rw [hl]
  cases l with
  | invariant => exact hsettles.elim
  | unreachable => exact .inr ⟨rfl, hsettles⟩
  | covering hi =>
    obtain ⟨hpos, hhilt, hcov⟩ := hsettles
    have hprobes : ∀ m, 1 ≤ m → m < hi → ∃ b, coversProbe target f classify m = .ok b :=
      fun m hm hmhi => h.coversProbe_total hm hmhi.le hhilt hcov
    obtain ⟨g, hg⟩ := Search.lowerBound_total hprobes 128
    have hsteps : hi - 1 < 2 ^ 128 := by omega
    obtain ⟨hone, hle, hgcov, hshort⟩ := Search.lowerBound_spec (P := Covers target f)
      (fun _ => coversProbe_true) (fun _ => coversProbe_false) hcov hpos hsteps hg
    refine .inl ⟨g, ?_, hone, by omega, hgcov, fun g' hpos' hlt' hcov' => ?_⟩
    · refine Eq.trans ?_ (proveFound_of_short hgcov hshort)
      exact congrArg (· >>= proveFound target f classify) hg
    · by_contra hless
      exact h.not_covers_below hpos' (by omega) (by omega) (hshort (by omega)) hcov'

end

end Staged

end PrivateExecution
