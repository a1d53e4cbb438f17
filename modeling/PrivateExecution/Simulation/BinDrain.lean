import PrivateExecution.Simulation.BinInverse
import PrivateExecution.Simulation.BinPrice
import Mathlib.Data.Nat.Cast.Order.Field

/-!
# A bin swap is no better than the active bin

A walk through the bins leaves the active bin for worse prices only. So the output it has collected,
plus what the rest of its input would bring at the price of the active bin, never grows
(`fillBin_potential`, `binLoop_potential`), and the output of a whole swap is at most its effective
input at that price.
-/

namespace PrivateExecution

section

variable {pool : BinPoolState} {token0In : Bool} {b b' final : BinState pool}

def BinPoolState.rate (pool : BinPoolState) (token0In : Bool) (i : Fin pool.bins.length) : ℚ :=
  let price := atomicPrice pool.binStep pool.decimals0 pool.decimals1 (pool.bins.get i).id
  if token0In then price else price⁻¹

lemma atomicPrice_pos (binStep : ℕ) (decimals0 decimals1 : U8) (binId : ℤ) :
    0 < atomicPrice binStep decimals0 decimals1 binId :=
  mul_pos (binPrice_pos _ _) (zpow_pos (by norm_num) _)

lemma atomicPrice_mono {binStep : ℕ} {decimals0 decimals1 : U8} {i j : ℤ} (h : i ≤ j) :
    atomicPrice binStep decimals0 decimals1 i ≤ atomicPrice binStep decimals0 decimals1 j :=
  mul_le_mul_of_nonneg_right (binPrice_mono h) (zpow_nonneg (by norm_num) _)

lemma BinPoolState.id_le (hvalid : pool.validate = .ok ()) {i j : Fin pool.bins.length} (h : i ≤ j) :
    (pool.bins.get i).id ≤ (pool.bins.get j).id := by
  simp only [BinPoolState.validate, bind_ok, ensure_eq_ok] at hvalid
  obtain ⟨_, -, _, -, _, -, _, -, hbins⟩ := hvalid
  have hsorted : pool.bins.Pairwise fun a b => a.id < b.id := by simpa using validateBins_sorted hbins
  rcases h.lt_or_eq with hlt | rfl
  · exact (List.pairwise_iff_get.1 hsorted i j hlt).le
  · exact le_rfl

lemma BinPoolState.rate_onward (hvalid : pool.validate = .ok ()) {i j : Fin pool.bins.length}
    (h : Onward token0In i.val j.val) : pool.rate token0In j ≤ pool.rate token0In i := by
  unfold BinPoolState.rate
  cases token0In with
  | true => exact atomicPrice_mono (pool.id_le hvalid h)
  | false => exact inv_anti₀ (atomicPrice_pos ..) (atomicPrice_mono (pool.id_le hvalid h))

lemma Priced.rate_eq {num den need : U128} (h : Priced token0In b num den need) :
    pool.rate token0In b.index = num.val / den.val := by
  obtain ⟨p, hp, hpair⟩ := h.price
  obtain ⟨-, -, hprice⟩ := atomicBinPrice_spec hp
  unfold BinPoolState.rate atomicPrice
  rw [← hprice]
  cases token0In with
  | true =>
    obtain ⟨rfl, rfl⟩ := Prod.mk.inj hpair
    rfl
  | false =>
    obtain ⟨rfl, rfl⟩ := Prod.mk.inj hpair
    exact inv_div _ _

/-! ### One bin -/

lemma fillBin_potential {r : ℚ} (hr : pool.rate token0In b.index ≤ r) (h : fillBin token0In b = .ok b') :
    (b'.output.val : ℚ) + b'.remaining.val * r ≤ b.output.val + b.remaining.val * r := by
  rcases fillBin_eq_ok.1 h with ⟨-, rfl⟩ | ⟨num, den, need, hpriced, hfilled⟩
  · exact le_rfl
  rw [hpriced.rate_eq] at hr
  have hnum : (0 : ℚ) < num.val := by exact_mod_cast hpriced.num_pos
  have hden : (0 : ℚ) < den.val := by exact_mod_cast hpriced.den_pos
  cases hfilled with
  | emptied hle houtput hremaining =>
    have hneed := (ceilDiv_le_iff_le_mul hpriced.num_pos).1 hpriced.need.ge
    have hpaid : ((b.available token0In).val : ℚ) ≤ need.val * r := by
      calc ((b.available token0In).val : ℚ) ≤ need.val * (num.val / den.val) := by
            rw [← mul_div_assoc, le_div_iff₀ hden, mul_comm (need.val : ℚ)]
            exact_mod_cast hneed
        _ ≤ need.val * r := mul_le_mul_of_nonneg_left hr (by positivity)
    simp only [houtput, hremaining, Nat.cast_sub hle]
    push_cast
    linarith
  | ended hlt hpart houtput =>
    have hpaid : ((b.remaining.val * num.val / den.val : ℕ) : ℚ) ≤ b.remaining.val * r := by
      refine Nat.cast_div_le.trans ?_
      push_cast
      rw [mul_div_assoc]
      exact mul_le_mul_of_nonneg_left hr (by positivity)
    have hzero : (Unsigned.zero : U128).val = 0 := rfl
    simp only [houtput, hpart, hzero]
    push_cast
    linarith

lemma fillBin_output_le (h : fillBin token0In b = .ok b') :
    b'.output.val ≤ b.output.val + (b.available token0In).val := by
  rcases fillBin_eq_ok.1 h with ⟨-, rfl⟩ | ⟨num, den, need, hpriced, hfilled⟩
  · omega
  cases hfilled with
  | emptied hle houtput hremaining => exact houtput.le
  | ended hlt hpart houtput =>
    have := part_lt hpriced.num_pos hpriced.den_pos hpriced.need hlt
    simp only [houtput, hpart]
    omega

/-! ### The walk -/

def onwardBy (token0In : Bool) (i k : ℕ) : ℕ := if token0In then i - k else i + k

/-- What the bin at a position holds of the token that is paid out. -/
def BinPoolState.outReserve (pool : BinPoolState) (token0In : Bool) (i : ℕ) : ℕ :=
  match pool.bins[i]? with
  | some bin => if token0In then bin.reserve1.val else bin.reserve0.val
  | none => 0

lemma outReserve_index : pool.outReserve token0In b.index = (b.available token0In).val := by
  unfold BinPoolState.outReserve BinState.available
  rw [List.getElem?_eq_getElem b.index.isLt]
  cases token0In <;> rfl

lemma nextBinIndex_val {i j : Fin pool.bins.length} (h : nextBinIndex token0In i = some j) :
    j.val = onwardBy token0In i 1 := by
  unfold nextBinIndex at h
  unfold onwardBy
  split_ifs at h ⊢ <;> cases h <;> rfl

lemma onwardBy_succ (i k : ℕ) : onwardBy token0In (onwardBy token0In i 1) k = onwardBy token0In i (k + 1) := by
  unfold onwardBy
  split_ifs <;> omega

lemma binLoop_potential {r : ℚ}
    (hr : ∀ i : Fin pool.bins.length, Onward token0In b.index i → pool.rate token0In i ≤ r)
    (h : binLoop token0In b = .ok final) :
    (final.output.val : ℚ) + final.remaining.val * r ≤ b.output.val + b.remaining.val * r := by
  -- every further bin is one crossing more
  induction hk : maxBinCrosses - b.crossed using Nat.strong_induction_on generalizing b with
  | _ k ih =>
    obtain ⟨b', hfill, hrest⟩ := binLoop_eq_ok h
    have hstep := fillBin_potential (hr b.index (.refl ..)) hfill
    rcases hrest with ⟨-, rfl⟩ | ⟨-, hcrosses, next, hnext, hrest⟩
    · exact hstep
    · have hr' : ∀ i : Fin pool.bins.length, Onward token0In next i → pool.rate token0In i ≤ r :=
        fun i hi => hr i ((onward_nextBinIndex hnext).trans hi)
      exact (ih _ (by dsimp only; omega) hr' hrest rfl).trans hstep

lemma binLoop_output_le (hcrossed : b.crossed ≤ maxBinCrosses) (h : binLoop token0In b = .ok final) :
    ∃ n, final.crossed = b.crossed + n ∧ final.crossed ≤ maxBinCrosses ∧
      final.output.val ≤ b.output.val +
        ∑ k ∈ Finset.range (n + 1), pool.outReserve token0In (onwardBy token0In b.index k) := by
  induction hk : maxBinCrosses - b.crossed using Nat.strong_induction_on generalizing b with
  | _ k ih =>
    obtain ⟨b', hfill, hrest⟩ := binLoop_eq_ok h
    have hstep := fillBin_output_le hfill
    have hfirst : pool.outReserve token0In (onwardBy token0In b.index 0) = (b.available token0In).val := by
      rw [← outReserve_index]
      cases token0In <;> rfl
    rcases hrest with ⟨-, rfl⟩ | ⟨-, hcrosses, next, hnext, hrest⟩
    · have hsame : final.crossed = b.crossed := by
        rcases fillBin_eq_ok.1 hfill with ⟨-, rfl⟩ | ⟨_, _, _, -, hfilled⟩
        · rfl
        · cases hfilled <;> rfl
      refine ⟨0, hsame, hsame ▸ hcrossed, ?_⟩
      rw [Finset.sum_range_one, hfirst]
      exact hstep
    · obtain ⟨n, hn, hmax, hsum⟩ := ih (maxBinCrosses - (b.crossed + 1)) (by omega)
        (b := { b' with index := next, crossed := b.crossed + 1 }) hcrosses hrest rfl
      refine ⟨n + 1, by rw [hn]; exact Nat.add_right_comm .., hmax, ?_⟩
      rw [Finset.sum_range_succ', hfirst]
      simp only [nextBinIndex_val hnext, onwardBy_succ] at hsum
      omega

end

/-! ### The quote -/

lemma simulateBin_inv {pool : BinPoolState} {request : BinExactInputRequest} {q : BinSimulationQuote}
    (h : simulateBinExactInput pool request = .ok q) :
    ∃ (token0In : Bool) (active : Fin pool.bins.length) (input : U128) (final : BinState pool),
      BinAdmits pool request.tokenIn token0In active ∧
        binLoop token0In (pool.start active input) = .ok final ∧ q.output.amount = final.output ∧
        q.effectiveInput.amount = input ∧ q.binsCrossed = final.crossed ∧
        q.fee.amount.val + q.effectiveInput.amount.val = q.input.amount.val := by
  unfold simulateBinExactInput at h
  obtain ⟨_, hvalid, h⟩ := bind_ok.1 h
  obtain ⟨-, h⟩ := ensure_ok.1 h
  obtain ⟨hchain, h⟩ := ensure_ok.1 h
  obtain ⟨token0In, hdirection, h⟩ := bind_ok.1 h
  obtain ⟨_, -, h⟩ := bind_ok.1 h
  obtain ⟨hfee, h⟩ := ensure_ok.1 h
  obtain ⟨active, hactive, h⟩ := bind_ok.1 h
  obtain ⟨fee, -, h⟩ := bind_ok.1 h
  obtain ⟨input, hinput, h⟩ := bind_ok.1 h
  obtain ⟨-, h⟩ := ensure_ok.1 h
  obtain ⟨final, hfinal, h⟩ := bind_ok.1 h
  obtain ⟨-, h⟩ := ensure_ok.1 h
  cases h
  obtain ⟨hle, hval⟩ := Unsigned.checkedSub_eq_some.1 (okOr_eq_ok.1 hinput)
  refine ⟨token0In, active, input, final,
    ⟨mapError_eq_ok hvalid, hchain, okOr_eq_ok.1 hdirection, hfee, okOr_eq_ok.1 hactive⟩, hfinal, rfl, rfl,
    rfl, ?_⟩
  dsimp only
  omega

/-- The bins a quote has visited: the active one and one more for each crossing. -/
def BinPoolState.visitedReserve (pool : BinPoolState) (token0In : Bool) (active crossed : ℕ) : ℕ :=
  ∑ k ∈ Finset.range (crossed + 1), pool.outReserve token0In (onwardBy token0In active k)

/-- A swap pays no more than its effective input is worth in the active bin and no more than the visited
bins hold, and it charges its fee on top of what it trades. -/
theorem binQuote_bounded (pool : BinPoolState) (request : BinExactInputRequest) (q : BinSimulationQuote)
    (h : simulateBinExactInput pool request = .ok q) :
    (request.tokenIn = pool.token0 → (q.output.amount.val : ℚ) ≤ q.effectiveInput.amount.val *
        atomicPrice pool.binStep pool.decimals0 pool.decimals1 pool.activeBinId) ∧
      (request.tokenIn = pool.token1 → q.output.amount.val *
        atomicPrice pool.binStep pool.decimals0 pool.decimals1 pool.activeBinId ≤
          q.effectiveInput.amount.val) ∧
      (∃ active : Fin pool.bins.length, (pool.bins.get active).id = pool.activeBinId ∧
        q.output.amount.val ≤
          pool.visitedReserve (request.tokenIn = pool.token0) active q.binsCrossed) ∧
      q.fee.amount.val + q.effectiveInput.amount.val = q.input.amount.val ∧ q.binsCrossed ≤ 32 := by
  obtain ⟨token0In, active, input, final, hadmits, hrun, houtput, hinput, hcrossed, hfee⟩ := simulateBin_inv h
  obtain ⟨hne, -, htoken⟩ := hadmits.tokens
  have hactive : (pool.bins.get active).id = pool.activeBinId := by
    simpa using (List.findFinIdx?_eq_some_iff.1 hadmits.active).1
  have hpotential := binLoop_potential (r := pool.rate token0In active)
    (fun i hi => pool.rate_onward hadmits.valid hi) hrun
  obtain ⟨n, hn, hmax, hsum⟩ := binLoop_output_le (Nat.zero_le _) hrun
  have hpos := atomicPrice_pos pool.binStep pool.decimals0 pool.decimals1 pool.activeBinId
  have hworth : (q.output.amount.val : ℚ) ≤ q.effectiveInput.amount.val * pool.rate token0In active := by
    have hrest : (0 : ℚ) ≤ final.remaining.val * pool.rate token0In active := by
      unfold BinPoolState.rate
      rw [hactive]
      cases token0In
      · exact mul_nonneg (Nat.cast_nonneg _) (inv_nonneg.2 hpos.le)
      · exact mul_nonneg (Nat.cast_nonneg _) hpos.le
    have hzero : ((pool.start active input).output.val : ℚ) = 0 := Nat.cast_zero
    rw [hzero, zero_add] at hpotential
    rw [houtput, hinput]
    exact (le_add_of_nonneg_right hrest).trans hpotential
  unfold BinPoolState.rate at hworth
  rw [hactive] at hworth
  refine ⟨?_, ?_, ⟨active, hactive, ?_⟩, hfee, hcrossed ▸ hmax⟩
  · intro h0
    have hdir : token0In = true := by
      cases token0In
      · exact absurd (h0.symm.trans htoken) hne
      · rfl
    simpa [hdir] using hworth
  · intro h1
    have hdir : token0In = false := by
      cases token0In
      · rfl
      · exact absurd (htoken.symm.trans h1) hne
    simp only [hdir, Bool.false_eq_true, if_false] at hworth
    rwa [← div_eq_mul_inv, le_div_iff₀ hpos] at hworth
  · have hdir : decide (request.tokenIn = pool.token0) = token0In := by
      cases token0In
      · exact decide_eq_false fun h0 => hne (h0.symm.trans htoken)
      · exact decide_eq_true htoken
    have hcount : q.binsCrossed = n := by rw [hcrossed, hn]; exact Nat.zero_add n
    rw [hdir, houtput, hcount]
    exact hsum.trans (Nat.zero_add _).le

open BinPoolState.Sample in
/-- A swap that empties the active bin and goes on into the next. -/
theorem binQuote_bounded_sample :
    ∃ q, simulateBinExactInput pool ⟨pool.token0, .lit 500, none⟩ = .ok q ∧
      (q.output.amount.val : ℚ) ≤ q.effectiveInput.amount.val *
        atomicPrice pool.binStep pool.decimals0 pool.decimals1 pool.activeBinId := by
  have hruns : (simulateBinExactInput pool ⟨pool.token0, .lit 500, none⟩).toOption.isSome := by
    decide +kernel
  obtain ⟨q, hq⟩ := Option.isSome_iff_exists.1 hruns
  exact ⟨q, toOption_eq_some hq, (binQuote_bounded _ _ q (toOption_eq_some hq)).1 rfl⟩

end PrivateExecution
