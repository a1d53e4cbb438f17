import PrivateExecution.Simulation.ClmmWalk

/-!
# Concentrated liquidity round trips

The buy and the sell of a concentrated liquidity pool with their taxes, and the round trip of both
(`simulation/src/clmm_buy_tax.rs`, `clmm_sell_tax.rs`, `clmm_roundtrip_tax.rs`).
-/

namespace PrivateExecution

/-! ### Neighbouring ranges -/

section

variable {ticks : List ClmmTick} {i j : TickRange ticks}

lemma upperTick_eq (h : j.val = i.val + 1) : upperTick i = lowerTick j := by
  unfold upperTick lowerTick
  congr 1
  exact Fin.ext h.symm

lemma upperPrice_eq (h : j.val = i.val + 1) : upperPrice i = lowerPrice j := by
  rw [upperPrice, lowerPrice, upperTick_eq h]

def SortedTicks (ticks : List ClmmTick) : Prop := ticks.Pairwise fun a b => a.index < b.index

section

variable (h : SortedTicks ticks)

include h

lemma SortedTicks.get_lt {a b : Fin ticks.length} (hab : a < b) :
    (ticks.get a).index < (ticks.get b).index := List.pairwise_iff_get.1 h a b hab

lemma SortedTicks.lower_lt_upper (hij : i.val ≤ j.val) :
    (lowerTick i).index < (upperTick j).index := h.get_lt (Nat.lt_succ_of_le hij)

lemma SortedTicks.upper_le_lower (hij : i.val < j.val) :
    (upperTick i).index ≤ (lowerTick j).index := by
  rcases (Nat.succ_le_of_lt hij).lt_or_eq with hlt | heq
  · exact (h.get_lt hlt).le
  · rw [upperTick_eq heq.symm]

lemma SortedTicks.le_of_tick {t : ℤ} (hi : (lowerTick i).index ≤ t)
    (hj : t < (upperTick j).index) : i.val ≤ j.val := by
  by_contra hlt
  have := h.upper_le_lower (not_le.1 hlt)
  omega

end

end

/-! ### The ranges of a walk -/

section

variable {ticks : List ClmmTick}

/-- The ranges entered on the way up from the price `s0`: the lowest price and the liquidity of the
range, and the exact amounts between `s0` and that price. -/
inductive Ascent (i0 : TickRange ticks) (s0 l0 : ℕ) : TickRange ticks → ℕ → ℕ → ℚ → ℚ → Prop
  | start : Ascent i0 s0 l0 i0 s0 l0 0 0
  | cross {i j : TickRange ticks} {lo l l' : ℕ} {x y : ℚ} (below : Ascent i0 s0 l0 i lo l x y)
      (next : j.val = i.val + 1) (rise : lo < upperPrice i) (pos : 0 < l')
      (net : (l' : ℤ) = l + (upperTick i).liquidityNet) :
      Ascent i0 s0 l0 j (upperPrice i) l' (x + token0 l lo (upperPrice i))
        (y + token1 l lo (upperPrice i))

/-- The ranges entered on the way down. A walk that starts on a boundary crosses it first. -/
inductive Descent (i0 : TickRange ticks) (s0 l0 : ℕ) : TickRange ticks → ℕ → ℕ → ℚ → ℚ → Prop
  | start : Descent i0 s0 l0 i0 s0 l0 0 0
  | cross {i j : TickRange ticks} {hi l l' : ℕ} {x y : ℚ} (above : Descent i0 s0 l0 i hi l x y)
      (next : i.val = j.val + 1) (fall : lowerPrice i ≤ hi) (low : 0 < lowerPrice i) (pos : 0 < l')
      (net : (l' : ℤ) = l - (lowerTick i).liquidityNet) :
      Descent i0 s0 l0 j (lowerPrice i) l' (x + token0 l (lowerPrice i) hi)
        (y + token1 l (lowerPrice i) hi)

variable {i0 i : TickRange ticks} {s0 l0 lo hi l : ℕ} {x y : ℚ}

namespace Ascent

section

variable (h : Ascent i0 s0 l0 i lo l x y)

include h

lemma pos (hl : 0 < l0) : 0 < l := by
  cases h with
  | start => exact hl
  | cross _ _ _ pos _ => exact pos

lemma start_le : s0 ≤ lo := by
  induction h with
  | start => exact le_rfl
  | cross _ _ rise _ _ ih => exact ih.trans rise.le

lemma nonneg (hl : 0 < l0) : 0 ≤ y := by
  induction h with
  | start => exact le_rfl
  | cross below _ rise _ _ ih =>
    refine add_nonneg ih (token1_nonneg ?_ ?_)
    · exact_mod_cast below.pos hl
    · exact_mod_cast rise.le

lemma boundary_le :
    ∀ k : TickRange ticks, i0.val < k.val → k.val ≤ i.val → lowerPrice k ≤ lo := by
  induction h with
  | start => exact fun k hlt hle => absurd hle (not_le.2 hlt)
  | @cross i j _ _ _ _ _ _ next rise _ _ ih =>
    intro k hlt hle
    rcases hle.lt_or_eq with h' | h'
    · exact (ih k hlt (by omega)).trans rise.le
    · rw [upperPrice_eq next, Fin.ext h']

end

end Ascent

namespace Descent

section

variable (h : Descent i0 s0 l0 i hi l x y)

include h

lemma pos (hl : 0 < l0) : 0 < l := by
  cases h with
  | start => exact hl
  | cross _ _ _ _ pos _ => exact pos

lemma le_start : hi ≤ s0 := by
  induction h with
  | start => exact le_rfl
  | cross _ _ fall _ _ _ ih => exact fall.trans ih

lemma nonneg (hl : 0 < l0) : 0 ≤ x := by
  induction h with
  | start => exact le_rfl
  | cross above _ fall low _ _ ih =>
    refine add_nonneg ih (token0_nonneg ?_ ?_ ?_)
    · exact_mod_cast above.pos hl
    · exact_mod_cast low
    · exact_mod_cast fall

lemma le_boundary :
    ∀ k : TickRange ticks, i.val < k.val → k.val ≤ i0.val → hi ≤ lowerPrice k := by
  induction h with
  | start => exact fun k hlt hle => absurd hle (not_le.2 hlt)
  | @cross i j _ _ _ _ _ _ next fall _ _ _ ih =>
    intro k hlt hle
    rcases (Nat.succ_le_of_lt hlt).lt_or_eq with h' | h'
    · exact fall.trans (ih k (by omega) hle)
    · rw [show i = k from Fin.ext (by omega)]

end

end Descent

end

/-! ### The first walk -/

section

variable {ticks : List ClmmTick} {st0 final st mid st' : ClmmState ticks} {fuel spent out : ℕ}

/-- On the lower boundary of the range. -/
structure OnBoundary (st : ClmmState ticks) : Prop where
  tick : st.tick = (lowerTick st.range).index
  price : st.s.val = lowerPrice st.range

/-- Below the upper boundary of the range, at the tick of the price. -/
structure BelowUpper (st : ClmmState ticks) : Prop where
  tick : tickIndexFromSqrtPrice st.s.val = .ok st.tick
  tick_lt : st.tick < (upperTick st.range).index
  price_lt : st.s.val < upperPrice st.range

/-- Where a walk up may stop: on the boundary it has just crossed, or below the next one. -/
def LandedUp (st : ClmmState ticks) : Prop := OnBoundary st ∨ BelowUpper st

/-- A walk up ends in a range of an ascent. It paid for all the token 1 on its way and received no
more token 0 than was there. -/
structure WalkedUp (st0 st : ClmmState ticks) (lo : ℕ) (x y : ℚ) : Prop where
  ascent : Ascent st0.range st0.s.val st0.liquidity.val st.range lo st.liquidity.val x y
  price : lo ≤ st.s.val
  received : (st.output.val : ℚ) ≤ x + token0 st.liquidity.val lo st.s.val
  paid : y + token1 st.liquidity.val lo st.s.val ≤ st0.remaining.val
  landed : LandedUp st

lemma walkUp (hinput : 0 < st0.remaining.val) (hout : st0.output.val = 0)
    (h : clmmLoop stepUp fuel st0 = .ok final) : ∃ lo x y, WalkedUp st0 final lo x y := by
  refine clmmLoop_rule (fun st => ∃ x y,
      Ascent st0.range st0.s.val st0.liquidity.val st.range st.s.val st.liquidity.val x y ∧
      (st.output.val : ℚ) ≤ x ∧ y + st.remaining.val ≤ st0.remaining.val ∧
      (st.remaining.val = 0 → OnBoundary st))
    (fun st => ∃ lo x y, WalkedUp st0 st lo x y) ?_ ?_ ?_ ?_ h
  · rintro st ⟨x, y, hascent, hreceived, hpaid, htick⟩ hzero
    refine ⟨st.s.val, x, y, hascent, le_rfl, ?_, ?_, .inl (htick hzero)⟩
    · simpa using hreceived
    · simpa [hzero] using hpaid
  · rintro st st' ⟨x, y, hascent, hreceived, hpaid, -⟩ - hstep
    obtain ⟨spent, out, hmove, ⟨hdone, -⟩ | ⟨-, hcross, hspent⟩⟩ := stepUp_spec hstep
    · cases hdone
    have hcost := hmove.cost
    have hgain := hmove.gain
    have hspent' : (st'.remaining.val : ℚ) + spent = st.remaining.val := by exact_mod_cast hspent
    have hcrossed := hascent.cross hcross.range (hcross.price ▸ hmove.above) hcross.pos hcross.liquidity
    rw [← hcross.price] at hcrossed
    refine ⟨_, _, hcrossed, ?_, by linarith, fun _ => ⟨?_, ?_⟩⟩
    · rw [hmove.output]
      push_cast
      linarith
    · rw [hcross.tick, upperTick_eq hcross.range]
    · rw [hcross.price, upperPrice_eq hcross.range]
  · rintro st st' ⟨x, y, hascent, hreceived, hpaid, -⟩ - hstep
    obtain ⟨spent, out, hmove, ⟨-, hfinish⟩ | ⟨hdone, -⟩⟩ := stepUp_spec hstep
    swap
    · cases hdone
    have hcost := hmove.cost
    have hgain := hmove.gain
    rw [hfinish.spent_eq] at hcost
    refine ⟨st.s.val, x, y, ?_, hmove.above.le, ?_, ?_, .inr ⟨hfinish.tick, ?_, ?_⟩⟩
    · rw [hfinish.range, hfinish.liquidity]
      exact hascent
    · rw [hmove.output, hfinish.liquidity]
      push_cast
      linarith
    · rw [hfinish.liquidity]
      linarith
    · rw [hfinish.range]
      exact hfinish.tick_lt
    · rw [hfinish.range]
      exact hfinish.inside
  · exact ⟨0, 0, .start, by simp [hout], by simp, fun hzero => absurd hzero hinput.ne'⟩

/-- Above the lower boundary of the range, at the tick of the price. -/
structure AboveLower (st : ClmmState ticks) (hi : ℕ) : Prop where
  tick : tickIndexFromSqrtPrice st.s.val = .ok st.tick
  tick_ge : (lowerTick st.range).index ≤ st.tick
  price_gt : lowerPrice st.range < st.s.val
  price_lt : st.s.val < hi

/-- Where a walk down may stop: on a boundary that it has not crossed, or above it. -/
def LandedDown (st : ClmmState ticks) (hi : ℕ) : Prop := OnBoundary st ∨ AboveLower st hi

/-- A walk down ends in a range of a descent. It paid for all the token 0 on its way and received no
more token 1 than was there. -/
structure WalkedDown (st0 st : ClmmState ticks) (hi : ℕ) (x y : ℚ) : Prop where
  descent : Descent st0.range st0.s.val st0.liquidity.val st.range hi st.liquidity.val x y
  price : st.s.val ≤ hi
  price_pos : 0 < st.s.val
  received : (st.output.val : ℚ) ≤ y + token1 st.liquidity.val st.s.val hi
  paid : x + token0 st.liquidity.val st.s.val hi ≤ st0.remaining.val
  landed : LandedDown st hi

def OnDescent (st0 st : ClmmState ticks) : Prop :=
  ∃ hi x y, Descent st0.range st0.s.val st0.liquidity.val st.range hi st.liquidity.val x y ∧
    st.s.val ≤ hi ∧ (st.output.val : ℚ) ≤ y + token1 st.liquidity.val st.s.val hi ∧
    x + token0 st.liquidity.val st.s.val hi + st.remaining.val ≤ st0.remaining.val

lemma enterDown_descent (hl : 0 < st.liquidity.val) (hs : 0 < st.s.val)
    (hmid : mid = st ∨ CrossesDown st mid) (h : OnDescent st0 st) :
    0 < mid.liquidity.val ∧ OnDescent st0 mid := by
  rcases hmid with rfl | hcross
  · exact ⟨hl, h⟩
  obtain ⟨hi, x, y, hdescent, hprice, hreceived, hpaid⟩ := h
  have hcrossed := hdescent.cross hcross.range.symm (hcross.atBoundary ▸ hprice)
    (hcross.atBoundary ▸ hs) hcross.pos hcross.liquidity
  rw [← hcross.atBoundary] at hcrossed
  refine ⟨hcross.pos, st.s.val, _, _, hcrossed, ?_, ?_, ?_⟩
  · rw [hcross.price]
  · rw [hcross.price, hcross.output, token1_self, add_zero]
    exact hreceived
  · rw [hcross.price, hcross.remaining, token0_self, add_zero]
    exact hpaid

lemma movesDown_descent (hmove : MovesDown mid st' spent out)
    (h : OnDescent st0 mid) :
    ∃ hi x y, Descent st0.range st0.s.val st0.liquidity.val st'.range hi st'.liquidity.val x y ∧
      st'.s.val < hi ∧ (st'.output.val : ℚ) ≤ y + token1 st'.liquidity.val st'.s.val hi ∧
      x + token0 st'.liquidity.val st'.s.val hi + mid.remaining.val ≤ st0.remaining.val + spent := by
  obtain ⟨hi, x, y, hdescent, hprice, hreceived, hpaid⟩ := h
  have hcost := hmove.cost
  have hgain := hmove.gain
  rw [hmove.range, hmove.liquidity, hmove.output]
  refine ⟨hi, x, y, hdescent, hmove.below.trans_le hprice, ?_, ?_⟩
  · rw [← token1_add _ _ (mid.s.val : ℚ)]
    push_cast
    linarith
  · rw [← token0_add _ _ (mid.s.val : ℚ)]
    linarith

lemma walkDown (hinput : 0 < st0.remaining.val) (hout : st0.output.val = 0) (hs : 0 < st0.s.val)
    (hl : 0 < st0.liquidity.val) (h : clmmLoop stepDown fuel st0 = .ok final) :
    ∃ hi x y, WalkedDown st0 final hi x y := by
  refine clmmLoop_rule (fun st => OnDescent st0 st ∧ 0 < st.s.val ∧ 0 < st.liquidity.val ∧
      (st.remaining.val = 0 → OnBoundary st))
    (fun st => ∃ hi x y, WalkedDown st0 st hi x y) ?_ ?_ ?_ ?_ h
  · rintro st ⟨⟨hi, x, y, hdescent, hprice, hreceived, hpaid⟩, hpos, -, htick⟩ hzero
    refine ⟨hi, x, y, hdescent, hprice, hpos, hreceived, ?_, .inl (htick hzero)⟩
    simpa [hzero] using hpaid
  · rintro st st' ⟨hat, hpos, hlpos, -⟩ - hstep
    obtain ⟨mid, hmid, spent, out, hmove, ⟨hdone, -⟩ | ⟨-, hreach⟩⟩ := stepDown_spec hlpos hstep
    · cases hdone
    obtain ⟨hlpos', hat'⟩ := enterDown_descent hlpos hpos hmid hat
    obtain ⟨hi, x, y, hdescent, hprice, hreceived, hpaid⟩ := movesDown_descent hmove hat'
    refine ⟨⟨hi, x, y, hdescent, hprice.le, hreceived, ?_⟩, ?_, ?_, fun _ => ⟨?_, ?_⟩⟩
    · have hspent : (st'.remaining.val : ℚ) + spent = mid.remaining.val := by
        exact_mod_cast hreach.spent_eq
      linarith
    · exact hmove.lower_pos.trans_le hmove.above
    · rw [hmove.liquidity]
      exact hlpos'
    · rw [hreach.tick, hmove.range]
    · rw [hreach.price, hmove.range]
  · rintro st st' ⟨hat, hpos, hlpos, -⟩ - hstep
    obtain ⟨mid, hmid, spent, out, hmove, ⟨-, hfinish⟩ | ⟨hdone, -⟩⟩ := stepDown_spec hlpos hstep
    swap
    · cases hdone
    obtain ⟨hlpos', hat'⟩ := enterDown_descent hlpos hpos hmid hat
    obtain ⟨hi, x, y, hdescent, hprice, hreceived, hpaid⟩ := movesDown_descent hmove hat'
    refine ⟨hi, x, y, hdescent, hprice.le, hmove.lower_pos.trans_le hmove.above, hreceived, ?_,
      .inr ⟨hfinish.tick, ?_, ?_, hprice⟩⟩
    · have hspent : (spent : ℚ) = mid.remaining.val := by exact_mod_cast hfinish.spent_eq
      linarith
    · rw [hmove.range]
      exact hfinish.tick_ge
    · rw [hmove.range]
      exact hfinish.inside
  · exact ⟨⟨st0.s.val, 0, 0, .start, le_rfl, by simp [hout], by simp⟩, hs, hl,
      fun hzero => absurd hzero hinput.ne'⟩

end

/-! ### The walk back -/

section

variable {ticks : List ClmmTick} {i0 : TickRange ticks} {st0 final st mid st' : ClmmState ticks}
  {s0 l0 fuel spent out : ℕ} {total : ℚ}

/-- A walk back down an ascent: the input left is at most the token 0 above `s0`, and the output so
far with the token 1 above `s0` is at most `total`. -/
def DownAscent (i0 : TickRange ticks) (s0 l0 : ℕ) (total : ℚ) (st : ClmmState ticks) : Prop :=
  ∃ lo x y, Ascent i0 s0 l0 st.range lo st.liquidity.val x y ∧ lo ≤ st.s.val ∧
    (st.remaining.val : ℚ) ≤ x + token0 st.liquidity.val lo st.s.val ∧
    st.output.val + (y + token1 st.liquidity.val lo st.s.val) ≤ total

/-- With input left, the boundary it stands on is one the ascent crossed: below `s0` nothing could
be paid. -/
lemma enterDown_ascent (hlow : lowerPrice i0 ≤ s0)
    (hrem : 0 < st.remaining.val) (hmid : mid = st ∨ CrossesDown st mid)
    (h : DownAscent i0 s0 l0 total st) : DownAscent i0 s0 l0 total mid := by
  rcases hmid with rfl | hcross
  · exact h
  obtain ⟨lo, x, y, hascent, hprice, hinput, hbooks⟩ := h
  have hat := hcross.atBoundary
  have hrange := hcross.range
  have hliq := hcross.liquidity
  generalize hi : st.range = i at hascent hat hrange hliq
  generalize hl : st.liquidity.val = l at hascent hliq hinput hbooks
  cases hascent with
  | start =>
    have hs : st.s.val = s0 := by omega
    rw [hs, token0_self, add_zero] at hinput
    exact absurd hinput (not_le.2 (by exact_mod_cast hrem))
  | @cross i' _ lo' l' _ x' y' below next rise pos net =>
    have hs : st.s.val = upperPrice i' := by rw [hat, upperPrice_eq next]
    have hsame : mid.range = i' := Fin.ext (by omega)
    have hl' : mid.liquidity.val = l' := by
      rw [← upperTick_eq next] at hliq
      omega
    rw [hs, token0_self, add_zero] at hinput
    rw [hs, token1_self, add_zero] at hbooks
    refine ⟨lo', x', y', hsame ▸ hl' ▸ below, ?_, ?_, ?_⟩
    · rw [hcross.price, hs]
      exact rise.le
    · rw [hcross.remaining, hcross.price, hs, hl']
      exact hinput
    · rw [hcross.output, hcross.price, hs, hl']
      exact hbooks

/-- A move down pays for the token 0 it passes, so it does not pass `s0`. -/
lemma movesDown_ascent (hs0 : 0 < s0) (hl0 : 0 < l0)
    (hmove : MovesDown mid st' spent out) (hspent : spent ≤ mid.remaining.val)
    (h : DownAscent i0 s0 l0 total mid) :
    ∃ lo x y, Ascent i0 s0 l0 st'.range lo st'.liquidity.val x y ∧ lo ≤ st'.s.val ∧
      (mid.remaining.val : ℚ) ≤ x + token0 st'.liquidity.val lo st'.s.val + spent ∧
      st'.output.val + (y + token1 st'.liquidity.val lo st'.s.val) ≤ total := by
  obtain ⟨lo, x, y, hascent, hprice, hinput, hbooks⟩ := h
  have hcost := hmove.cost
  have hgain := hmove.gain
  have hspent' : (spent : ℚ) ≤ mid.remaining.val := by exact_mod_cast hspent
  have hl : (0 : ℚ) < mid.liquidity.val := by exact_mod_cast hascent.pos hl0
  have hs' : 0 < st'.s.val := hmove.lower_pos.trans_le hmove.above
  have hge : lo ≤ st'.s.val := by
    have habove := hmove.above
    generalize mid.range = i at hascent habove
    generalize mid.liquidity.val = l at hascent hcost hinput hl
    cases hascent with
    | start =>
      have hle : token0 l0 st'.s.val mid.s.val ≤ token0 l0 s0 mid.s.val := by linarith
      exact_mod_cast (token0_le_iff hl (by exact_mod_cast hs0) (by exact_mod_cast hs')).1 hle
    | cross _ next _ _ _ =>
      rw [upperPrice_eq next]
      exact habove
  rw [hmove.range, hmove.liquidity, hmove.output]
  refine ⟨lo, x, y, hascent, hge, ?_, ?_⟩
  · rw [← token0_add _ _ (st'.s.val : ℚ)] at hinput
    linarith
  · rw [← token1_add _ _ (st'.s.val : ℚ)] at hbooks
    push_cast
    linarith

lemma sellDown (hlow : lowerPrice i0 ≤ s0) (hs0 : 0 < s0)
    (hl0 : 0 < l0) (hstart : DownAscent i0 s0 l0 total st0)
    (h : clmmLoop stepDown fuel st0 = .ok final) : (final.output.val : ℚ) ≤ total := by
  have hend : ∀ {st : ClmmState ticks} {lo : ℕ} {x y : ℚ},
      Ascent i0 s0 l0 st.range lo st.liquidity.val x y → lo ≤ st.s.val →
      st.output.val + (y + token1 st.liquidity.val lo st.s.val) ≤ total → (st.output.val : ℚ) ≤ total := by
    intro st lo x y hascent hprice hbooks
    have hy := hascent.nonneg hl0
    have hl : (0 : ℚ) < st.liquidity.val := by exact_mod_cast hascent.pos hl0
    have htok := token1_nonneg hl (by exact_mod_cast hprice : (lo : ℚ) ≤ st.s.val)
    linarith
  have hpos : ∀ st, DownAscent i0 s0 l0 total st → 0 < st.liquidity.val :=
    fun st ⟨_, _, _, hascent, _⟩ => hascent.pos hl0
  refine clmmLoop_rule (DownAscent i0 s0 l0 total) (fun st => (st.output.val : ℚ) ≤ total)
    ?_ ?_ ?_ hstart h
  · rintro st ⟨lo, x, y, hascent, hprice, -, hbooks⟩ -
    exact hend hascent hprice hbooks
  · intro st st' hinv hrem hstep
    obtain ⟨mid, hmid, spent, out, hmove, ⟨hdone, -⟩ | ⟨-, hreach⟩⟩ := stepDown_spec (hpos st hinv) hstep
    · cases hdone
    have hspent := hreach.spent_eq
    obtain ⟨lo, x, y, hascent, hprice, hinput, hbooks⟩ :=
      movesDown_ascent hs0 hl0 hmove (by omega) (enterDown_ascent hlow hrem hmid hinv)
    refine ⟨lo, x, y, hascent, hprice, ?_, hbooks⟩
    have hspent' : (st'.remaining.val : ℚ) + spent = mid.remaining.val := by exact_mod_cast hspent
    linarith
  · intro st st' hinv hrem hstep
    obtain ⟨mid, hmid, spent, out, hmove, ⟨-, hfinish⟩ | ⟨hdone, -⟩⟩ := stepDown_spec (hpos st hinv) hstep
    swap
    · cases hdone
    obtain ⟨lo, x, y, hascent, hprice, -, hbooks⟩ :=
      movesDown_ascent hs0 hl0 hmove hfinish.spent_eq.le (enterDown_ascent hlow hrem hmid hinv)
    exact hend hascent hprice hbooks

def UpDescent (i0 : TickRange ticks) (s0 l0 : ℕ) (total : ℚ) (st : ClmmState ticks) : Prop :=
  ∃ hi x y, Descent i0 s0 l0 st.range hi st.liquidity.val x y ∧ st.s.val ≤ hi ∧
    (st.remaining.val : ℚ) ≤ y + token1 st.liquidity.val st.s.val hi ∧
    st.output.val + (x + token0 st.liquidity.val st.s.val hi) ≤ total

/-- A move up pays for the token 1 it passes, so it does not pass `s0`. -/
lemma movesUp_le {hi : ℕ} {x y : ℚ} (hl0 : 0 < l0)
    (hmove : MovesUp st st' spent out) (hspent : spent ≤ st.remaining.val)
    (hdescent : Descent i0 s0 l0 st.range hi st.liquidity.val x y)
    (hinput : (st.remaining.val : ℚ) ≤ y + token1 st.liquidity.val st.s.val hi) : st'.s.val ≤ hi := by
  have hcost := hmove.cost
  have hbelow := hmove.below
  have hspent' : (spent : ℚ) ≤ st.remaining.val := by exact_mod_cast hspent
  have hl : (0 : ℚ) < st.liquidity.val := by exact_mod_cast hdescent.pos hl0
  generalize st.range = i at hdescent hbelow
  generalize st.liquidity.val = l at hdescent hcost hinput hl
  cases hdescent with
  | start =>
    have hle : token1 l0 st.s.val st'.s.val ≤ token1 l0 st.s.val s0 := by linarith
    exact_mod_cast (token1_le_iff hl).1 hle
  | cross _ next _ _ _ _ =>
    rw [← upperPrice_eq next]
    exact hbelow

/-- The boundary it reaches is one the descent crossed: `s0` lies below the boundary above it. -/
lemma crossesUp_descent (hup : s0 < upperPrice i0)
    (hl0 : 0 < l0) (hmove : MovesUp st st' spent out) (hcross : CrossesUp st st')
    (hspent : st'.remaining.val + spent = st.remaining.val) (h : UpDescent i0 s0 l0 total st) :
    UpDescent i0 s0 l0 total st' := by
  obtain ⟨hi, x, y, hdescent, hprice, hinput, hbooks⟩ := h
  have hle := movesUp_le hl0 hmove (by omega) hdescent hinput
  have hcost := hmove.cost
  have hgain := hmove.gain
  have hspent' : (st'.remaining.val : ℚ) + spent = st.remaining.val := by exact_mod_cast hspent
  have hs := hcross.price
  have hrange := hcross.range
  have hliq := hcross.liquidity
  generalize st.range = i at hdescent hs hrange hliq
  generalize st.liquidity.val = l at hdescent hliq hcost hgain hinput hbooks
  cases hdescent with
  | start => omega
  | @cross i' _ hi' l' _ x' y' above next fall low pos net =>
    have hs' : st'.s.val = lowerPrice i' := by rw [hs, upperPrice_eq next]
    have hsame : st'.range = i' := Fin.ext (by omega)
    have hl' : st'.liquidity.val = l' := by
      rw [upperTick_eq next] at hliq
      omega
    rw [← hs'] at hinput hbooks
    refine ⟨hi', x', y', hsame ▸ hl' ▸ above, hs' ▸ fall, ?_, ?_⟩
    · rw [hl']
      linarith
    · rw [hl', hmove.output]
      push_cast
      linarith

lemma sellUp (hup : s0 < upperPrice i0) (hl0 : 0 < l0)
    (hstart : UpDescent i0 s0 l0 total st0) (hs : 0 < st0.s.val)
    (h : clmmLoop stepUp fuel st0 = .ok final) : (final.output.val : ℚ) ≤ total := by
  have hend : ∀ {hi l s : ℕ} {x y output : ℚ} {i : TickRange ticks}, Descent i0 s0 l0 i hi l x y →
      0 < s → s ≤ hi → output + (x + token0 l s hi) ≤ total → output ≤ total := by
    intro hi l s x y output i hdescent hpos hprice hbooks
    have hx := hdescent.nonneg hl0
    have hl : (0 : ℚ) < l := by exact_mod_cast hdescent.pos hl0
    have htok := token0_nonneg hl (by exact_mod_cast hpos : (0 : ℚ) < s)
      (by exact_mod_cast hprice : (s : ℚ) ≤ hi)
    linarith
  refine clmmLoop_rule (fun st => UpDescent i0 s0 l0 total st ∧ 0 < st.s.val)
    (fun st => (st.output.val : ℚ) ≤ total) ?_ ?_ ?_ ⟨hstart, hs⟩ h
  · rintro st ⟨⟨hi, x, y, hdescent, hprice, -, hbooks⟩, hpos⟩ -
    exact hend hdescent hpos hprice hbooks
  · rintro st st' ⟨hinv, hpos⟩ - hstep
    obtain ⟨spent, out, hmove, ⟨hdone, -⟩ | ⟨-, hcross, hspent⟩⟩ := stepUp_spec hstep
    · cases hdone
    exact ⟨crossesUp_descent hup hl0 hmove hcross hspent hinv, hpos.trans hmove.above⟩
  · rintro st st' ⟨⟨hi, x, y, hdescent, hprice, hinput, hbooks⟩, hpos⟩ - hstep
    obtain ⟨spent, out, hmove, ⟨-, hfinish⟩ | ⟨hdone, -⟩⟩ := stepUp_spec hstep
    swap
    · cases hdone
    have hle := movesUp_le hl0 hmove hfinish.spent_eq.le hdescent hinput
    have hgain := hmove.gain
    refine hend hdescent (hpos.trans hmove.above) hle ?_
    rw [← token0_add _ _ (st'.s.val : ℚ)] at hbooks
    rw [hmove.output]
    push_cast
    linarith

end

/-! ### The range of the staged pool -/

section

variable {ticks : List ClmmTick} {i0 i j : TickRange ticks} {s0 l0 lo hi l s : ℕ} {x y : ℚ} {t0 t : ℤ}

lemma StandsIn.unique (hsorted : SortedTicks ticks) (h : StandsIn j s t)
    (ht : t = (lowerTick i).index) : j = i := by
  have hle := hsorted.le_of_tick h.tick_ge (ht ▸ hsorted.lower_lt_upper le_rfl)
  have hge := hsorted.le_of_tick ht.ge h.tick_lt
  exact Fin.ext (le_antisymm hle hge)

/-- A pool left by a walk up is found in the range the walk ended in. A lower one would end at a
boundary the walk has passed. -/
lemma Ascent.range_eq (hsorted : SortedTicks ticks) (h : Ascent i0 s0 l0 i lo l x y) (hlo : lo ≤ s)
    (h0 : StandsIn i0 s0 t0) (hj : StandsIn j s t) (ht : t < (upperTick i).index) : j = i := by
  have hle : j.val ≤ i.val := hsorted.le_of_tick hj.tick_ge ht
  refine Fin.ext (hle.antisymm (not_lt.1 fun hlt => ?_))
  have hprice := hj.price_lt
  rcases le_or_gt i0.val j.val with hge | hbelow
  · have hk : j.val + 1 < ticks.length - 1 := lt_of_le_of_lt hlt i.isLt
    have hpassed := h.boundary_le ⟨j.val + 1, hk⟩ (Nat.lt_succ_of_le hge) hlt
    rw [← upperPrice_eq (i := j) rfl] at hpassed
    omega
  · have hmono := tickIndexFromSqrtPrice_mono (h.start_le.trans hlo) h0.tick hj.tick
    have hord := hsorted.upper_le_lower hbelow
    have := h0.tick_ge
    have := hj.tick_lt
    omega

lemma Descent.range_eq (hsorted : SortedTicks ticks) (h : Descent i0 s0 l0 i hi l x y) (hhi : s < hi)
    (h0 : StandsIn i0 s0 t0) (hj : StandsIn j s t) (ht : (lowerTick i).index ≤ t) : j = i := by
  have hle : i.val ≤ j.val := hsorted.le_of_tick ht hj.tick_lt
  refine Fin.ext (le_antisymm (not_lt.1 fun hlt => ?_) hle)
  have hprice := hj.price_ge
  rcases le_or_gt j.val i0.val with hge | habove
  · have hpassed := h.le_boundary j hlt hge
    omega
  · have hmono := tickIndexFromSqrtPrice_mono (hhi.le.trans h.le_start) hj.tick h0.tick
    have hord := hsorted.upper_le_lower habove
    have := h0.tick_lt
    have := hj.tick_ge
    omega

variable {st0 final st1 last : ClmmState ticks} {fuel fuel' : ℕ}

/-- `st1` starts where `final` ended, with no more input than it received. -/
structure Resumes (final st1 : ClmmState ticks) : Prop where
  price : st1.s = final.s
  tick : st1.tick = final.tick
  liquidity : st1.liquidity = final.liquidity
  remaining : st1.remaining.val ≤ final.output.val
  output : st1.output.val = 0

lemma upDown_le (hsorted : SortedTicks ticks) (hbuy : clmmLoop stepUp fuel st0 = .ok final)
    (h0 : StandsIn st0.range st0.s.val st0.tick) (hs : 0 < st0.s.val) (hl : 0 < st0.liquidity.val)
    (hinput : 0 < st0.remaining.val) (hout : st0.output.val = 0)
    (hsell : clmmLoop stepDown fuel' st1 = .ok last) (h1 : StandsIn st1.range st1.s.val st1.tick)
    (hres : Resumes final st1) : last.output.val ≤ st0.remaining.val := by
  obtain ⟨lo, x, y, hwalk⟩ := walkUp hinput hout hbuy
  have hrange : st1.range = final.range := by
    rcases hwalk.landed with hat | hbelow
    · exact h1.unique hsorted (hres.tick.trans hat.tick)
    · exact hwalk.ascent.range_eq hsorted hwalk.price h0 (hres.price ▸ h1) (hres.tick ▸ hbelow.tick_lt)
  have hrem : (st1.remaining.val : ℚ) ≤ final.output.val := by exact_mod_cast hres.remaining
  have hstart : DownAscent st0.range st0.s.val st0.liquidity.val
      (y + token1 final.liquidity.val lo final.s.val) st1 := by
    unfold DownAscent
    rw [hrange, hres.liquidity, hres.price, hres.output]
    exact ⟨lo, x, y, hwalk.ascent, hwalk.price, hrem.trans hwalk.received, by simp⟩
  have hback := sellDown h0.price_ge hs hl hstart hsell
  exact_mod_cast hback.trans hwalk.paid

lemma downUp_le (hsorted : SortedTicks ticks) (hbuy : clmmLoop stepDown fuel st0 = .ok final)
    (h0 : StandsIn st0.range st0.s.val st0.tick) (hs : 0 < st0.s.val) (hl : 0 < st0.liquidity.val)
    (hinput : 0 < st0.remaining.val) (hout : st0.output.val = 0)
    (hsell : clmmLoop stepUp fuel' st1 = .ok last) (h1 : StandsIn st1.range st1.s.val st1.tick)
    (hres : Resumes final st1) : last.output.val ≤ st0.remaining.val := by
  obtain ⟨hi, x, y, hwalk⟩ := walkDown hinput hout hs hl hbuy
  have hrange : st1.range = final.range := by
    rcases hwalk.landed with hat | habove
    · exact h1.unique hsorted (hres.tick.trans hat.tick)
    · exact hwalk.descent.range_eq hsorted habove.price_lt h0 (hres.price ▸ h1)
        (hres.tick ▸ habove.tick_ge)
  have hrem : (st1.remaining.val : ℚ) ≤ final.output.val := by exact_mod_cast hres.remaining
  have hstart : UpDescent st0.range st0.s.val st0.liquidity.val
      (x + token0 final.liquidity.val final.s.val hi) st1 := by
    unfold UpDescent
    rw [hrange, hres.liquidity, hres.price, hres.output]
    exact ⟨hi, x, y, hwalk.descent, hwalk.price, hrem.trans hwalk.received, by simp⟩
  have hback := sellUp h0.price_lt hl hstart (hres.price ▸ hwalk.price_pos) hsell
  exact_mod_cast hback.trans hwalk.paid

end

/-! ### Taxes around the swap -/

section

inductive TaxAwareClmmSimulationError where
  | clmm (e : ClmmSimulationError)
  | tax (e : TaxSafetyError)

structure TaxAwareClmmBuyQuote where
  clmmQuote : ClmmSimulationQuote
  taxOutput : BuyTaxOutput

structure TaxAwareClmmSellQuote where
  clmmQuote : ClmmSimulationQuote
  taxInput : SellTaxInput

structure TaxAwareClmmRoundtripQuote where
  buyQuote : TaxAwareClmmBuyQuote
  sellQuote : TaxAwareClmmSellQuote

variable (pool : ClmmPoolState) (request : ClmmExactInputRequest)

def clmmQuote : Except (Fault TaxAwareClmmSimulationError) ClmmSimulationQuote :=
  (simulateClmmExactInput pool request).mapError fun e => .error (.clmm e)

def simulateTaxAwareClmmBuyExactInput (assessment : TaxAssessment) :
    Except (Fault TaxAwareClmmSimulationError) TaxAwareClmmBuyQuote := do
  let quote ← clmmQuote pool request
  let taxOutput ← (applyBuyTaxToOutput assessment quote.output).mapError (Fault.map .tax)
  return ⟨quote, taxOutput⟩

def simulateTaxAwareClmmSellExactInput (assessment : TaxAssessment) :
    Except (Fault TaxAwareClmmSimulationError) TaxAwareClmmSellQuote := do
  let taxInput ← (applySellTaxToInput assessment ⟨request.tokenIn, request.amountIn⟩).mapError
    (Fault.map .tax)
  let quote ← clmmQuote pool { request with amountIn := taxInput.netTransferableInput.amount }
  ensure (quote.input = taxInput.netTransferableInput)
    (.panicked "assertion `left == right` failed")
  return ⟨quote, taxInput⟩

def ClmmPoolState.after (quote : ClmmSimulationQuote) : ClmmPoolState :=
  { pool with
    currentTick := quote.resultingTick
    sqrtPriceX64 := quote.resultingSqrtPriceX64
    liquidity := quote.resultingLiquidity }

def simulateTaxAwareClmmRoundtripExactInput (buyAssessment sellAssessment : TaxAssessment) :
    Except (Fault TaxAwareClmmSimulationError) TaxAwareClmmRoundtripQuote := do
  let buyQuote ← simulateTaxAwareClmmBuyExactInput pool request buyAssessment
  let sellQuote ← simulateTaxAwareClmmSellExactInput (pool.after buyQuote.clmmQuote)
    ⟨buyQuote.taxOutput.netOutput.asset, buyQuote.taxOutput.netOutput.amount, some request.tokenIn⟩
    sellAssessment
  return ⟨buyQuote, sellQuote⟩

end

/-! ### The round trip -/

section

variable {pool : ClmmPoolState} {request : ClmmExactInputRequest}

lemma validate_sorted {u : Unit} (h : pool.validate = .ok u) :
    pool.token0 ≠ pool.token1 ∧ SortedTicks pool.ticks := by
  unfold ClmmPoolState.validate at h
  obtain ⟨_, hpair, h⟩ := bind_ok.1 h
  simp only [ensure_ok] at h
  obtain ⟨-, -, -, h⟩ := h
  exact ⟨validatePair_ne hpair, validateTicks_sorted h⟩

lemma clmmBack_output_le {buy sell : ClmmSimulationQuote} {amount : U128} {tokenOut : Option AssetId}
    (hbuy : simulateClmmExactInput pool request = .ok buy)
    (hsell : simulateClmmExactInput (pool.after buy) ⟨buy.output.asset, amount, tokenOut⟩ = .ok sell)
    (hle : amount.val ≤ buy.output.amount.val) : sell.output.amount.val ≤ request.amountIn.val := by
  obtain ⟨⟨_, hvalid⟩, ⟨_, hstate⟩, token0In, range, input, final, hsim⟩ := simulateClmm_inv hbuy
  obtain ⟨-, -, back, range', input', last, hsim'⟩ := simulateClmm_inv hsell
  obtain ⟨hne, hsorted⟩ := validate_sorted hvalid
  obtain ⟨hl, hs⟩ := checkState_pos hstate
  have hflip : back = !token0In := by
    have hdir := hsim'.direction
    rw [hsim.output] at hdir
    exact Option.some.inj (hdir.symm.trans (isToken0In_flip hne hsim.direction))
  have hres : Resumes final ((pool.after buy).start range' input') := by
    refine ⟨hsim.price, hsim.tick, hsim.liquidity, ?_, rfl⟩
    rw [hsim.output] at hle
    exact hsim'.input_le.trans hle
  have h0 := checkRange_spec hsim.coherent
  have h1 := checkRange_spec hsim'.coherent
  have hwalk := hsim.walk
  have hwalk' := hsim'.walk
  rw [hsim'.output]
  refine le_trans ?_ hsim.input_le
  cases token0In with
  | false =>
    rw [hflip] at hwalk'
    exact upDown_le hsorted hwalk h0 hs hl hsim.input_pos rfl hwalk' h1 hres
  | true =>
    rw [hflip] at hwalk'
    exact downUp_le hsorted hwalk h0 hs hl hsim.input_pos rfl hwalk' h1 hres

/-- A buy in a concentrated liquidity pool followed by the sale of its proceeds never creates value,
whichever token is bought. -/
theorem clmm_roundtrip_no_gain (pool : ClmmPoolState) (request : ClmmExactInputRequest)
    (buyAssessment sellAssessment : TaxAssessment) (rt : TaxAwareClmmRoundtripQuote)
    (h : simulateTaxAwareClmmRoundtripExactInput pool request buyAssessment sellAssessment = .ok rt) :
    rt.sellQuote.clmmQuote.output.amount ≤ request.amountIn := by
  unfold simulateTaxAwareClmmRoundtripExactInput at h
  obtain ⟨buy, hbuy, h⟩ := bind_ok.1 h
  obtain ⟨sell, hsell, h⟩ := bind_ok.1 h
  cases h
  obtain ⟨quote, hquote, hbuy⟩ := bind_ok.1 hbuy
  obtain ⟨taxOutput, htaxOut, hbuy⟩ := bind_ok.1 hbuy
  cases hbuy
  obtain ⟨taxInput, htaxIn, hsell⟩ := bind_ok.1 hsell
  obtain ⟨quote', hquote', hsell⟩ := bind_ok.1 hsell
  obtain ⟨-, hsell⟩ := ensure_ok.1 hsell
  cases hsell
  obtain ⟨hgross, hasset, hsum, -⟩ := applyBuyTax_spec (mapError_eq_ok htaxOut)
  obtain ⟨hgross', -, hsum'⟩ := applySellTax_spec (mapError_eq_ok htaxIn)
  have hback := mapError_eq_ok hquote'
  rw [hgross] at hsum
  rw [hgross'] at hsum'
  rw [hasset] at hback
  exact clmmBack_output_le (mapError_eq_ok hquote) hback (by dsimp only at hsum'; omega)

end

namespace ClmmPoolState.Sample

def pool : ClmmPoolState where
  token0 := ⟨.base, "TOKEN"⟩
  token1 := ⟨.base, "USDC"⟩
  decimals0 := .lit 18
  decimals1 := .lit 6
  tickSpacing := .lit 10
  currentTick := -10
  sqrtPriceX64 := ⟨sqrtPriceOf (-10), by decide +kernel⟩
  liquidity := .lit 1000000000
  feeBps := .lit 30
  ticks := [⟨-120, .lit 800000000, 800000000⟩, ⟨-20, .lit 200000000, 200000000⟩,
    ⟨0, .lit 500000000, 500000000⟩, ⟨120, .lit 1500000000, -1500000000⟩]

def high : ClmmPoolState :=
  { pool with currentTick := 60, sqrtPriceX64 := ⟨sqrtPriceOf 60, by decide +kernel⟩, liquidity := .lit 1500000000 }

def assessment (token : String) : TaxAssessment :=
  ⟨⟨.base, token⟩, .base, .lit 100, .lit 200,
    ⟨.fresh, .lit 1000, .lit 7⟩, .lit 7⟩

def request (tokenIn : String) : ClmmExactInputRequest := ⟨⟨.base, tokenIn⟩, .lit 1000000, none⟩

end ClmmPoolState.Sample

open ClmmPoolState.Sample in
/-- From the highest range of the pool the whole walk takes three iterations, the last of which ends it. -/
theorem sample_walk_terminates : ∃ states : ℕ → ClmmState high.ticks,
    states 0 = high.start ⟨2, by decide⟩ (.lit 7000000) ∧ stepDown (states 0) = .ok (states 1, false) ∧
      stepDown (states 1) = .ok (states 2, false) ∧ stepDown (states 2) = .ok (states 3, true) ∧
      2 < clmmFuel := by
  let start := high.start ⟨2, by decide⟩ (.lit 7000000)
  have hruns : ((stepDown start).toOption.bind fun a => (stepDown a.1).toOption.bind fun b =>
    (stepDown b.1).toOption.map fun c => (a.2, b.2, c.2)) = some (false, false, true) := by decide +kernel
  obtain ⟨⟨a, _⟩, ha, hruns⟩ := Option.bind_eq_some_iff.1 hruns
  obtain ⟨⟨b, _⟩, hb, hruns⟩ := Option.bind_eq_some_iff.1 hruns
  obtain ⟨⟨c, _⟩, hc, ⟨⟩⟩ := Option.map_eq_some_iff.1 hruns
  have hpos : 0 < high.liquidity.val := by decide
  have hfirst := toOption_eq_some ha
  have hsecond := toOption_eq_some hb
  let states (i : ℕ) := [start, a, b].getD i c
  refine ⟨states, rfl, hfirst, hsecond, toOption_eq_some hc,
    clmm_walk_terminates true states hpos rfl fun i hi => ?_⟩
  obtain rfl | rfl : i = 0 ∨ i = 1 := by omega
  · exact hfirst
  · exact hsecond

open ClmmPoolState.Sample in
theorem clmm_roundtrip_returns_less :
    (∃ rt, simulateTaxAwareClmmRoundtripExactInput pool (request "USDC") (assessment "TOKEN")
        (assessment "TOKEN") = .ok rt ∧
      rt.sellQuote.clmmQuote.output.amount ≤ (request "USDC").amountIn) ∧
    ∃ rt, simulateTaxAwareClmmRoundtripExactInput pool (request "TOKEN") (assessment "USDC")
        (assessment "USDC") = .ok rt ∧ rt.sellQuote.clmmQuote.output.amount ≤ (request "TOKEN").amountIn := by
  have hup : (simulateTaxAwareClmmRoundtripExactInput pool (request "USDC") (assessment "TOKEN")
    (assessment "TOKEN")).toBool := by decide +kernel
  have hdown : (simulateTaxAwareClmmRoundtripExactInput pool (request "TOKEN") (assessment "USDC")
    (assessment "USDC")).toBool := by decide +kernel
  obtain ⟨rt, hrt⟩ := exists_ok_of_toBool hup
  obtain ⟨rt', hrt'⟩ := exists_ok_of_toBool hdown
  exact ⟨⟨rt, hrt, clmm_roundtrip_no_gain pool (request "USDC") _ _ rt hrt⟩, rt', hrt',
    clmm_roundtrip_no_gain pool (request "TOKEN") _ _ rt' hrt'⟩

end PrivateExecution
