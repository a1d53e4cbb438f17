import PrivateExecution.Simulation.ClmmRoundtrip
import PrivateExecution.Simulation.TickInverse

/-!
# Quotes of concentrated liquidity pools compose

A quote's resulting tick, price and liquidity are meant to be a pool that can be quoted again: it
passes every check the simulation makes of its pool, and its liquidity is that of its range.
-/

namespace PrivateExecution

/-! ### Coherent pools -/

/-- The pool passes every check that `simulate_clmm_exact_input` makes of its state. -/
structure ClmmPoolState.Coherent (pool : ClmmPoolState) : Prop where
  valid : pool.validate = .ok ()
  state : pool.checkState = .ok ()
  range : ∃ range, pool.checkRange = .ok range

section

variable {pool : ClmmPoolState} {range : TickRange pool.ticks}

lemma SortedTicks.get_le {ticks : List ClmmTick} (h : SortedTicks ticks) {a b : Fin ticks.length}
    (hab : a ≤ b) : (ticks.get a).index ≤ (ticks.get b).index := by
  rcases hab.lt_or_eq with hlt | rfl
  · exact (h.get_lt hlt).le
  · exact le_rfl

lemma findRange_eq (hsorted : SortedTicks pool.ticks)
    (h : StandsIn range pool.sqrtPriceX64.val pool.currentTick) : pool.findRange = some range := by
  have hfound : pool.findRange.isSome := by
    unfold ClmmPoolState.findRange
    rw [List.find?_isSome]
    exact ⟨range, List.mem_finRange range, decide_eq_true ⟨h.tick_ge, h.tick_lt⟩⟩
  obtain ⟨r, hr⟩ := Option.isSome_iff_exists.1 hfound
  have hmem := List.find?_some hr
  rw [decide_eq_true_eq] at hmem
  have hle := hsorted.le_of_tick hmem.1 h.tick_lt
  have hge := hsorted.le_of_tick h.tick_ge hmem.2
  rw [hr, Fin.ext (le_antisymm hle hge)]

lemma checkRange_of_standsIn (hsorted : SortedTicks pool.ticks)
    (hbounds : ∀ t ∈ pool.ticks, minTick ≤ t.index ∧ t.index ≤ maxTick)
    (h : StandsIn range pool.sqrtPriceX64.val pool.currentTick) : pool.checkRange = .ok range := by
  have hlen := range.isLt
  have hge := h.tick_ge
  have hlt := h.tick_lt
  have houter : ¬((∃ t ∈ pool.ticks.head?, pool.currentTick < t.index) ∨
      ∃ t ∈ pool.ticks.getLast?, t.index ≤ pool.currentTick) := by
    rintro (⟨t, ht, hbelow⟩ | ⟨t, ht, habove⟩)
    · rw [List.head?_eq_getElem?, Option.mem_def, List.getElem?_eq_some_iff] at ht
      obtain ⟨h0, rfl⟩ := ht
      have := hsorted.get_le (a := ⟨0, h0⟩) (b := ⟨range.val, by omega⟩) (Nat.zero_le _)
      exact absurd (this.trans hge) (not_le.2 hbelow)
    · rw [List.getLast?_eq_getElem?, Option.mem_def, List.getElem?_eq_some_iff] at ht
      obtain ⟨h0, rfl⟩ := ht
      have := hsorted.get_le (a := ⟨range.val + 1, by omega⟩) (b := ⟨_, h0⟩)
        (show range.val + 1 ≤ pool.ticks.length - 1 by omega)
      exact absurd (hlt.trans_le this) (not_lt.2 habove)
  have hlow := sqrtPriceFromTickIndex_eq_ok (hbounds (lowerTick range) (List.get_mem _ _))
  have hup := sqrtPriceFromTickIndex_eq_ok (hbounds (upperTick range) (List.get_mem _ _))
  have hprice := h.price_ge.trans_lt h.price_lt
  refine bind_ok.2 ⟨_, h.tick, ?_⟩
  refine ensure_ok.2 ⟨rfl, ensure_ok.2 ⟨by omega, ensure_ok.2 ⟨houter, ?_⟩⟩⟩
  refine bind_ok.2 ⟨range, okOr_eq_ok.2 (findRange_eq hsorted h), ?_⟩
  refine bind_ok.2 ⟨_, hlow, bind_ok.2 ⟨_, hup, ?_⟩⟩
  refine ensure_ok.2 ⟨not_le.2 hprice, ensure_ok.2 ⟨?_, rfl⟩⟩
  rintro (hlt' | hge')
  · exact absurd h.price_ge (not_le.2 hlt')
  · exact absurd h.price_lt (not_lt.2 hge')

end

/-! ### Where a walk ends -/

section

variable {ticks : List ClmmTick} {st : ClmmState ticks} {hi : ℕ}

def SoundTicks (ticks : List ClmmTick) : Prop := ∀ t ∈ ticks, SoundTick t.index

instance (ticks : List ClmmTick) : Decidable (SoundTicks ticks) :=
  inferInstanceAs (Decidable (∀ t ∈ ticks, SoundTick t.index))

lemma SoundTicks.lower (h : SoundTicks ticks) (i : TickRange ticks) : SoundTick (lowerTick i).index :=
  h _ (List.get_mem _ _)

lemma SoundTicks.upper (h : SoundTicks ticks) (i : TickRange ticks) : SoundTick (upperTick i).index :=
  h _ (List.get_mem _ _)

lemma lowerPrice_lt_upperPrice (hsorted : SortedTicks ticks) (hsound : SoundTicks ticks)
    (i : TickRange ticks) : lowerPrice i < upperPrice i :=
  sqrtPriceOf_lt_sqrtPriceOf (hsound.lower i) (hsound.upper i) (hsorted.lower_lt_upper le_rfl)

lemma tickIndex_lowerPrice (hsorted : SortedTicks ticks) (hsound : SoundTicks ticks)
    (i : TickRange ticks) : tickIndexFromSqrtPrice (lowerPrice i) = .ok (lowerTick i).index := by
  have hlt := hsorted.lower_lt_upper (i := i) (j := i) le_rfl
  obtain ⟨hlow, -⟩ := hsound.lower i
  obtain ⟨-, hhigh⟩ := hsound.upper i
  exact tickIndex_sqrtPriceOf (hsound.lower i) ⟨by omega, by omega⟩

lemma tickIndex_lt {s : ℕ} {t u : ℤ} (h : tickIndexFromSqrtPrice s = .ok t) (hu : SoundTick u)
    (hlt : s < sqrtPriceOf u) : t < u := by
  obtain ⟨hvalid, h⟩ := ensure_ok.1 h
  obtain ⟨c, hc, h⟩ := bind_ok.1 h
  cases h
  have hu' : SoundTick (u - 1 + 1) := by rwa [sub_add_cancel]
  have hlow := tickLow_le_of_lt (t := u - 1) hvalid hu' (by rwa [sub_add_cancel])
  have hgap := tickHigh_le hvalid
  have hcand : c < u := by
    rcases candidate_inv hc with ⟨rfl, -⟩ | ⟨rfl, hpick⟩
    · omega
    · rcases hpick with heq | hle
      · omega
      · have hne : tickHigh s ≠ u := by
          rintro heq
          rw [heq] at hle
          exact absurd hlt (not_lt.2 hle)
        omega
  have := hu.1
  unfold minTick
  omega

lemma OnBoundary.standsIn (hsorted : SortedTicks ticks) (hsound : SoundTicks ticks)
    (h : OnBoundary st) : StandsIn st.range st.s.val st.tick := by
  rw [h.price, h.tick]
  exact ⟨tickIndex_lowerPrice hsorted hsound st.range, le_rfl, hsorted.lower_lt_upper le_rfl, le_rfl,
    lowerPrice_lt_upperPrice hsorted hsound st.range⟩

lemma BelowUpper.standsIn (hsorted : SortedTicks ticks) (hsound : SoundTicks ticks)
    (h : BelowUpper st) (hlow : lowerPrice st.range ≤ st.s.val) : StandsIn st.range st.s.val st.tick :=
  ⟨h.tick, tickIndexFromSqrtPrice_mono hlow (tickIndex_lowerPrice hsorted hsound st.range) h.tick,
    h.tick_lt, hlow, h.price_lt⟩

lemma AboveLower.standsIn (hsound : SoundTicks ticks) (h : AboveLower st hi)
    (hup : hi ≤ upperPrice st.range) : StandsIn st.range st.s.val st.tick :=
  ⟨h.tick, h.tick_ge, tickIndex_lt h.tick (hsound.upper st.range) (h.price_lt.trans_le hup),
    h.price_gt.le, h.price_lt.trans_le hup⟩

variable {i0 i : TickRange ticks} {s0 l0 lo l : ℕ} {x y : ℚ}

lemma Ascent.lower_le (h : Ascent i0 s0 l0 i lo l x y) (h0 : lowerPrice i0 ≤ s0) : lowerPrice i ≤ lo := by
  cases h with
  | start => exact h0
  | cross _ next _ _ _ => rw [upperPrice_eq next]

lemma Descent.le_upper (h : Descent i0 s0 l0 i hi l x y) (h0 : s0 < upperPrice i0) : hi ≤ upperPrice i := by
  cases h with
  | start => exact h0.le
  | cross _ next _ _ _ _ => rw [upperPrice_eq next]

variable {st0 : ClmmState ticks}

lemma WalkedUp.standsIn (hsorted : SortedTicks ticks) (hsound : SoundTicks ticks)
    (h : WalkedUp st0 st lo x y) (h0 : StandsIn st0.range st0.s.val st0.tick) :
    StandsIn st.range st.s.val st.tick := by
  rcases h.landed with hat | hbelow
  · exact hat.standsIn hsorted hsound
  · exact hbelow.standsIn hsorted hsound ((h.ascent.lower_le h0.price_ge).trans h.price)

lemma WalkedDown.standsIn (hsorted : SortedTicks ticks) (hsound : SoundTicks ticks)
    (h : WalkedDown st0 st hi x y) (h0 : StandsIn st0.range st0.s.val st0.tick) :
    StandsIn st.range st.s.val st.tick := by
  rcases h.landed with hat | habove
  · exact hat.standsIn hsorted hsound
  · exact habove.standsIn hsound (h.descent.le_upper h0.price_lt)

end

/-! ### The liquidity of a range -/

def netBetween (ticks : List ClmmTick) (a b : ℤ) : ℤ :=
  ((ticks.filter fun t => a < t.index ∧ t.index ≤ b).map (·.liquidityNet)).sum

section

variable {ticks : List ClmmTick}

/-- The net liquidity of the ticks up to and including the lower one of a range. -/
def netTo (i : TickRange ticks) : ℤ := ((ticks.take (i.val + 1)).map (·.liquidityNet)).sum

lemma netTo_succ {i j : TickRange ticks} (h : j.val = i.val + 1) :
    netTo j = netTo i + (upperTick i).liquidityNet := by
  have hlt : i.val + 1 < ticks.length := by have := i.isLt; omega
  unfold netTo
  rw [h, List.take_succ_eq_append_getElem hlt, List.map_append, List.sum_append]
  simp [upperTick]

lemma filter_le_eq_take (hsorted : SortedTicks ticks) {i : TickRange ticks} {t : ℤ}
    (hge : (lowerTick i).index ≤ t) (hlt : t < (upperTick i).index) :
    ticks.filter (fun u => u.index ≤ t) = ticks.take (i.val + 1) := by
  have hlen := i.isLt
  conv_lhs => rw [← List.take_append_drop (i.val + 1) ticks]
  rw [List.filter_append]
  have hbelow : (ticks.take (i.val + 1)).filter (fun u => u.index ≤ t) = ticks.take (i.val + 1) := by
    rw [List.filter_eq_self]
    intro u hu
    obtain ⟨k, hk, rfl⟩ := List.mem_take_iff_getElem.1 hu
    have hkl : k < ticks.length := by omega
    have := hsorted.get_le (a := ⟨k, hkl⟩) (b := ⟨i.val, by omega⟩) (show k ≤ i.val by omega)
    exact decide_eq_true (this.trans hge)
  have habove : (ticks.drop (i.val + 1)).filter (fun u => u.index ≤ t) = [] := by
    rw [List.filter_eq_nil_iff]
    intro u hu
    obtain ⟨k, hk, rfl⟩ := List.mem_drop_iff_getElem.1 hu
    have := hsorted.get_le (a := ⟨i.val + 1, by omega⟩) (b := ⟨i.val + 1 + k, by omega⟩)
      (show i.val + 1 ≤ i.val + 1 + k by omega)
    rw [decide_eq_true_eq, not_le]
    exact hlt.trans_le this
  rw [hbelow, habove, List.append_nil]

lemma sum_filter_le {a b : ℤ} (hab : a ≤ b) : ∀ ticks : List ClmmTick,
    ((ticks.filter fun t => t.index ≤ b).map (·.liquidityNet)).sum =
      ((ticks.filter fun t => t.index ≤ a).map (·.liquidityNet)).sum + netBetween ticks a b
  | [] => rfl
  | t :: ticks => by
    have ih := sum_filter_le hab ticks
    unfold netBetween at ih ⊢
    rcases lt_or_ge a t.index with h | h
    · rcases le_or_gt t.index b with h' | h'
      · simp [h, h', not_le.2 h, ih]
        ring
      · simp [h, not_le.2 h, not_le.2 h', ih]
    · simp [h, not_lt.2 h, h.trans hab, ih]
      ring

lemma netTo_sub (hsorted : SortedTicks ticks) {i j : TickRange ticks} {a b : ℤ} (hab : a ≤ b)
    (hi : (lowerTick i).index ≤ a) (hi' : a < (upperTick i).index) (hj : (lowerTick j).index ≤ b)
    (hj' : b < (upperTick j).index) : netTo j - netTo i = netBetween ticks a b := by
  have h := sum_filter_le hab ticks
  rw [filter_le_eq_take hsorted hi hi', filter_le_eq_take hsorted hj hj'] at h
  unfold netTo
  rw [h]
  ring

variable {i0 i : TickRange ticks} {s0 l0 lo hi l : ℕ} {x y : ℚ}

lemma Ascent.liquidity (h : Ascent i0 s0 l0 i lo l x y) : (l : ℤ) = l0 + (netTo i - netTo i0) := by
  induction h with
  | start => simp
  | cross _ next _ _ net ih =>
    rw [net, ih, netTo_succ next]
    ring

lemma Descent.liquidity (h : Descent i0 s0 l0 i hi l x y) : (l : ℤ) = l0 - (netTo i0 - netTo i) := by
  induction h with
  | start => simp
  | cross _ next _ _ _ net ih =>
    rw [net, ih, netTo_succ next, upperTick_eq next]
    ring

end

/-! ### Swaps -/

def swapAll : ClmmPoolState → List ClmmExactInputRequest → Except ClmmSimulationError ClmmPoolState
  | pool, [] => .ok pool
  | pool, request :: requests => do
    let quote ← simulateClmmExactInput pool request
    swapAll (pool.after quote) requests

/-- The quote moves the liquidity by the net liquidity of the ticks between the two prices. -/
structure MovesLiquidity (pool : ClmmPoolState) (request : ClmmExactInputRequest)
    (q : ClmmSimulationQuote) : Prop where
  up : request.tokenIn = pool.token1 → (q.resultingLiquidity.val : ℤ) =
    pool.liquidity.val + netBetween pool.ticks pool.currentTick q.resultingTick
  down : request.tokenIn = pool.token0 → (q.resultingLiquidity.val : ℤ) =
    pool.liquidity.val - netBetween pool.ticks q.resultingTick pool.currentTick

section

variable {pool : ClmmPoolState} {request : ClmmExactInputRequest} {q : ClmmSimulationQuote}

lemma checkState_eq_ok (hl : 0 < pool.liquidity.val) (hs : ValidPrice pool.sqrtPriceX64.val)
    (ht : minTick ≤ pool.currentTick ∧ pool.currentTick ≤ maxTick) : pool.checkState = .ok () := by
  have hpos : pool.sqrtPriceX64.val ≠ 0 := by
    have := hs.1
    unfold minSqrtPriceX64 at this
    omega
  exact ensure_ok.2 ⟨hl.ne', ensure_ok.2 ⟨⟨hpos, hs.1, hs.2⟩, ensure_eq_ok.2 ht⟩⟩

lemma validPrice_of_tickIndex {s : ℕ} {t : ℤ} (h : tickIndexFromSqrtPrice s = .ok t) : ValidPrice s :=
  (ensure_ok.1 h).1

lemma coherent_after {u : Unit} {range : TickRange pool.ticks} (hvalid : pool.validate = .ok u)
    (hl : 0 < q.resultingLiquidity.val)
    (h : StandsIn range q.resultingSqrtPriceX64.val q.resultingTick) : (pool.after q).Coherent := by
  have hsorted := (validate_sorted hvalid).2
  unfold ClmmPoolState.validate at hvalid
  obtain ⟨_, hpair, hvalid⟩ := bind_ok.1 hvalid
  simp only [ensure_ok] at hvalid
  obtain ⟨hspacing, -, hlen, hticks⟩ := hvalid
  have hbounds := validateTicks_range hticks
  have htick : minTick ≤ q.resultingTick ∧ q.resultingTick ≤ maxTick :=
    ⟨(hbounds (lowerTick range) (List.get_mem _ _)).1.trans h.tick_ge,
      (h.tick_lt.le).trans (hbounds (upperTick range) (List.get_mem _ _)).2⟩
  have hrange : (pool.after q).checkRange = .ok range := checkRange_of_standsIn hsorted hbounds h
  refine ⟨?_, checkState_eq_ok hl (validPrice_of_tickIndex h.tick) htick, range, hrange⟩
  refine bind_ok.2 ⟨_, hpair, ?_⟩
  exact ensure_ok.2 ⟨hspacing, ensure_ok.2 ⟨htick, ensure_ok.2 ⟨hlen, hticks⟩⟩⟩

lemma swap_coherent (hsound : SoundTicks pool.ticks) (h : simulateClmmExactInput pool request = .ok q) :
    (pool.after q).Coherent ∧ MovesLiquidity pool request q := by
  obtain ⟨⟨_, hvalid⟩, ⟨_, hstate⟩, token0In, range, input, final, hsim⟩ := simulateClmm_inv h
  obtain ⟨hne, hsorted⟩ := validate_sorted hvalid
  obtain ⟨hl, hs⟩ := checkState_pos hstate
  have h0 := checkRange_spec hsim.coherent
  have hdir := hsim.direction
  have hwalk := hsim.walk
  cases token0In with
  | false =>
    have hin : request.tokenIn ≠ pool.token0 := by
      intro heq
      simp [isToken0In, heq] at hdir
    obtain ⟨lo, x, y, hup⟩ := walkUp hsim.input_pos rfl hwalk
    have hstands := hup.standsIn hsorted hsound h0
    have hle := tickIndexFromSqrtPrice_mono (hup.ascent.start_le.trans hup.price) h0.tick hstands.tick
    have hliq : (final.liquidity.val : ℤ) = pool.liquidity.val + (netTo final.range - netTo range) :=
      hup.ascent.liquidity
    rw [← hsim.price, ← hsim.tick] at hstands
    rw [← hsim.tick] at hle
    refine ⟨coherent_after hvalid ?_ hstands, fun _ => ?_, fun heq => absurd heq hin⟩
    · rw [hsim.liquidity]
      exact hup.ascent.pos hl
    · rw [hsim.liquidity, hliq, netTo_sub hsorted hle h0.tick_ge h0.tick_lt hstands.tick_ge hstands.tick_lt]
  | true =>
    have hin : request.tokenIn ≠ pool.token1 := by
      intro heq
      simp [isToken0In, heq, hne.symm] at hdir
    obtain ⟨hi, x, y, hdown⟩ := walkDown hsim.input_pos rfl hs hl hwalk
    have hstands := hdown.standsIn hsorted hsound h0
    have hle := tickIndexFromSqrtPrice_mono (hdown.price.trans hdown.descent.le_start) hstands.tick h0.tick
    have hliq : (final.liquidity.val : ℤ) = pool.liquidity.val - (netTo range - netTo final.range) :=
      hdown.descent.liquidity
    rw [← hsim.price, ← hsim.tick] at hstands
    rw [← hsim.tick] at hle
    refine ⟨coherent_after hvalid ?_ hstands, fun heq => absurd heq hin, fun _ => ?_⟩
    · rw [hsim.liquidity]
      exact hdown.descent.pos hl
    · rw [hsim.liquidity, hliq, netTo_sub hsorted hle hstands.tick_ge hstands.tick_lt h0.tick_ge h0.tick_lt]

lemma swapAll_ticks : ∀ {requests : List ClmmExactInputRequest} {pool pool' : ClmmPoolState},
    swapAll pool requests = .ok pool' → pool'.ticks = pool.ticks
  | [], _, _, h => by cases h; rfl
  | _ :: _, pool, pool', h => by
    obtain ⟨quote, -, h⟩ := bind_ok.1 h
    show pool'.ticks = (pool.after quote).ticks
    exact swapAll_ticks h

lemma swapAll_coherent : ∀ {requests : List ClmmExactInputRequest} {pool pool' : ClmmPoolState},
    SoundTicks pool.ticks → pool.Coherent → swapAll pool requests = .ok pool' → pool'.Coherent
  | [], _, _, _, hpool, h => by cases h; exact hpool
  | _ :: _, pool, _, hsound, _, h => by
    obtain ⟨quote, hquote, h⟩ := bind_ok.1 h
    have hsound' : SoundTicks (pool.after quote).ticks := hsound
    exact swapAll_coherent hsound' (swap_coherent hsound hquote).1 h

/-- In every state that swaps from a coherent pool with sound ticks reach, the pool is coherent, and
every further quote leaves a coherent pool whose liquidity has moved by that of the ticks passed. -/
theorem clmm_quotes_compose (pool pool' : ClmmPoolState) (requests : List ClmmExactInputRequest)
    (hsound : SoundTicks pool.ticks) (hrun : swapAll pool requests = .ok pool') :
    (pool.Coherent → pool'.Coherent) ∧ ∀ request q, simulateClmmExactInput pool' request = .ok q →
      (pool'.after q).Coherent ∧ MovesLiquidity pool' request q := by
  have hticks := swapAll_ticks hrun
  exact ⟨fun hpool => swapAll_coherent hsound hpool hrun,
    fun request q h => swap_coherent (hticks ▸ hsound) h⟩

end

open ClmmPoolState.Sample in
/-- A pool with sound ticks, after a swap up and before one down. -/
theorem clmm_quotes_compose_sample : SoundTicks pool.ticks ∧
    ∃ pool', swapAll pool [request "USDC"] = .ok pool' ∧ pool'.Coherent ∧
      ∃ q, simulateClmmExactInput pool' (request "TOKEN") = .ok q ∧ (pool'.after q).Coherent ∧
        MovesLiquidity pool' (request "TOKEN") q := by
  have hsound : SoundTicks pool.ticks := by decide
  have hpool : pool.Coherent :=
    ⟨by decide +kernel, by decide +kernel, exists_ok_of_toBool (by decide +kernel)⟩
  have hruns : (do
    let pool' ← swapAll pool [request "USDC"]
    simulateClmmExactInput pool' (request "TOKEN")).toBool := by decide +kernel
  obtain ⟨q, hq⟩ := exists_ok_of_toBool hruns
  obtain ⟨pool', hrun, hquote⟩ := bind_ok.1 hq
  obtain ⟨hcoherent, hnext⟩ := clmm_quotes_compose pool pool' _ hsound hrun
  exact ⟨hsound, pool', hrun, hcoherent hpool, q, hquote, hnext _ q hquote⟩

namespace ClmmPoolState.Sample

/-- A pool around tick 262144, without a fee. -/
def highPool : ClmmPoolState where
  token0 := ⟨.base, "TOKEN"⟩
  token1 := ⟨.base, "USDC"⟩
  decimals0 := .lit 18
  decimals1 := .lit 6
  tickSpacing := .lit 8
  currentTick := 262143
  sqrtPriceX64 := .lit 9078164368957539035107395
  liquidity := .lit 1000000000000
  feeBps := .lit 0
  ticks := [⟨262136, .lit 1000000000000, 1000000000000⟩,
    ⟨262144, .lit 500000000000, 500000000000⟩,
    ⟨262152, .lit 1500000000000, -1500000000000⟩]

/-- Exactly what the range up to tick 262144 takes. -/
def exactRequest : ClmmExactInputRequest := ⟨⟨.base, "USDC"⟩, .lit 4429400546938897224, none⟩

def exactQuote : ClmmSimulationQuote where
  input := ⟨⟨.base, "USDC"⟩, .lit 4429400546938897224⟩
  output := ⟨⟨.base, "TOKEN"⟩, .lit 1828801⟩
  fee := ⟨⟨.base, "USDC"⟩, .lit 0⟩
  effectiveInput := ⟨⟨.base, "USDC"⟩, .lit 4429400546938897224⟩
  feeBps := .lit 0
  resultingSqrtPriceX64 := .lit 90786182658288488006761891
  resultingTick := 262144
  resultingLiquidity := .lit 1500000000000

end ClmmPoolState.Sample

open ClmmPoolState.Sample in
/-- A coherent pool with ticks well inside the bounds, and a swap that ends on tick 262144: the price
it leaves is that of tick 308197. -/
theorem swap_leaves_wrong_tick : highPool.Coherent ∧
    (∀ t ∈ highPool.ticks, -443636 ≤ t.index ∧ t.index ≤ 443636) ∧
    ∃ q, simulateClmmExactInput highPool exactRequest = .ok q ∧ q.resultingTick = 262144 ∧
      tickIndexFromSqrtPrice q.resultingSqrtPriceX64.val = .ok 308197 ∧ ¬(highPool.after q).Coherent := by
  have hquote : simulateClmmExactInput highPool exactRequest = .ok exactQuote := by decide +kernel
  have hfails : (highPool.after exactQuote).checkRange.toBool = false := by decide +kernel
  refine ⟨⟨by decide +kernel, by decide +kernel, exists_ok_of_toBool (by decide +kernel)⟩,
    by decide, exactQuote, hquote, rfl, by decide +kernel, fun hcoherent => ?_⟩
  obtain ⟨range, hrange⟩ := hcoherent.range
  rw [hrange] at hfails
  cases hfails

end PrivateExecution
