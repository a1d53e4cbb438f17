import PrivateExecution.Simulation.Bin

/-!
# More input goes further through the bins

Two walks through the bins of a pool that differ only in what is left of their input (`BinState.Behind`). If the
one with more input ends, so does the other, with no more output and no further along (`binLoop_mono`).
-/

namespace PrivateExecution

lemma binMulDivCeil_eq_some {a b c q : U128} :
    binMulDivCeil a b c = some q ↔ 0 < c.val ∧ q.val = a.val * b.val ⌈/⌉ c.val := by
  have hround : ∀ quotient : U128, quotient.val = a.val * b.val / c.val → 0 < c.val →
      ((if cmpU128Products quotient.val c.val a.val b.val = .lt then Unsigned.ofNat? (quotient.val + 1)
        else some quotient) = some q ↔ q.val = a.val * b.val ⌈/⌉ c.val) := by
    intro quotient hquot hpos
    have hle : quotient.val * c.val ≤ a.val * b.val := by
      rw [hquot]
      exact Nat.div_mul_le_self ..
    have hcmp := cmpU128Products_eq quotient.lt c.lt a.lt b.lt
    rw [ceilDiv_eq_ite hpos, ← hquot]
    by_cases hexact : quotient.val * c.val = a.val * b.val
    · have hnlt : cmpU128Products quotient.val c.val a.val b.val ≠ .lt := by
        rw [hcmp, Ne, compare_lt_iff_lt]
        omega
      rw [if_neg hnlt, if_pos hexact, Option.some.injEq, Unsigned.ext_iff, eq_comm]
    · have hlt : cmpU128Products quotient.val c.val a.val b.val = .lt := by
        rw [hcmp, compare_lt_iff_lt]
        omega
      rw [if_pos hlt, if_neg hexact, Unsigned.ofNat?_eq_some]
  unfold binMulDivCeil
  simp only [Option.bind_eq_bind, Option.bind_eq_some_iff, mulDivFloor_eq_some]
  constructor
  · rintro ⟨quotient, ⟨hpos, hquot⟩, h⟩
    exact ⟨hpos, (hround quotient hquot hpos).1 h⟩
  · rintro ⟨hpos, hq⟩
    have hle : a.val * b.val / c.val ≤ q.val := by
      rw [hq, ceilDiv_eq_ite hpos]
      split_ifs <;> omega
    have hlt := lt_of_le_of_lt hle q.lt
    exact ⟨⟨_, hlt⟩, ⟨hpos, rfl⟩, (hround ⟨_, hlt⟩ rfl hpos).2 hq⟩

section

variable {pool : BinPoolState} {token0In : Bool} {a b a' b' : BinState pool}

lemma onward_nextBinIndex {i j : Fin pool.bins.length} (h : nextBinIndex token0In i = some j) :
    Onward token0In i.val j.val := by
  unfold nextBinIndex at h
  cases token0In with
  | true =>
    simp only [if_true] at h
    split_ifs at h
    cases h
    exact Nat.sub_le ..
  | false =>
    simp only [Bool.false_eq_true, if_false] at h
    split_ifs at h
    cases h
    exact Nat.le_succ _

def BinState.Behind (a b : BinState pool) : Prop :=
  ∃ r : U128, r.val ≤ b.remaining.val ∧ a = { b with remaining := r }

/-- The first walk has no more output and is no further along. -/
structure BinState.Lags (token0In : Bool) (a b : BinState pool) : Prop where
  output : a.output.val ≤ b.output.val
  last : Onward token0In a.lastOutput.val b.lastOutput.val

lemma BinState.Lags.trans {c : BinState pool} (hab : BinState.Lags token0In a b) (hbc : BinState.Lags token0In b c) :
    BinState.Lags token0In a c :=
  ⟨hab.output.trans hbc.output, hab.last.trans hbc.last⟩

lemma BinState.Behind.lags (h : BinState.Behind a b) : BinState.Lags token0In a b := by
  obtain ⟨r, -, rfl⟩ := h
  exact ⟨le_rfl, .refl ..⟩

/-- What the current bin still holds of the token that is paid out. -/
def BinState.available (token0In : Bool) (st : BinState pool) : U128 :=
  if token0In then (pool.bins.get st.index).reserve1 else (pool.bins.get st.index).reserve0

/-- How a walk leaves a bin whose price is `num / den` in output per input: it is emptied for `need`, or
the input ends in it. -/
inductive Filled (num den need : U128) (available : U128) (st : BinState pool) : BinState pool → Prop
  | emptied {output remaining : U128} (hle : need.val ≤ st.remaining.val)
      (houtput : output.val = st.output.val + available.val)
      (hremaining : remaining.val = st.remaining.val - need.val) :
      Filled num den need available st
        { st with output := output, remaining := remaining, lastOutput := st.index }
  | ended {output part : U128} (hlt : st.remaining.val < need.val)
      (hpart : part.val = st.remaining.val * num.val / den.val)
      (houtput : output.val = st.output.val + part.val) :
      Filled num den need available st
        { st with
          output := output, remaining := .zero
          lastOutput := if 0 < part.val then st.index else st.lastOutput }

/-- The price of a bin in output per input, and the input that empties it. They do not depend on the
input of the walk. -/
structure Priced (token0In : Bool) (st : BinState pool) (num den need : U128) : Prop where
  available_pos : 0 < (st.available token0In).val
  price : ∃ p, atomicBinPrice pool.binStep pool.decimals0 pool.decimals1 (pool.bins.get st.index).id =
    .ok p ∧ (num, den) = if token0In then (p.1, p.2) else (p.2, p.1)
  num_pos : 0 < num.val
  den_pos : 0 < den.val
  need : need.val = (st.available token0In).val * den.val ⌈/⌉ num.val

/-- The part of an iteration that spends input on a bin that has something to give. -/
def spendIn (num den need available : U128) (st : BinState pool) : Except BinSimulationError (BinState pool) :=
  if need ≤ st.remaining then do
    let output ← okOr (st.output.checkedAdd available) .arithmeticOverflow
    let remaining ← okOr (st.remaining.checkedSub need) .arithmeticOverflow
    return { st with output := output, remaining := remaining, lastOutput := st.index }
  else do
    let partialOutput ← okOr (mulDivFloor st.remaining num den) .arithmeticOverflow
    let output ← okOr (st.output.checkedAdd partialOutput) .arithmeticOverflow
    return { st with
      output := output, remaining := .zero
      lastOutput := if 0 < partialOutput.val then st.index else st.lastOutput }

lemma fillBin_empty (h : (a.available token0In).val = 0) : fillBin token0In a = .ok a := if_pos h

lemma fillBin_eq (h : (a.available token0In).val ≠ 0) :
    fillBin token0In a = (do
      let p ← atomicBinPrice pool.binStep pool.decimals0 pool.decimals1 (pool.bins.get a.index).id
      let q := if token0In then (p.1, p.2) else (p.2, p.1)
      let need ← okOr (binMulDivCeil (a.available token0In) q.2 q.1) .arithmeticOverflow
      spendIn q.1 q.2 need (a.available token0In) a) := by
  refine (if_neg h).trans ?_
  cases token0In <;> rfl

lemma spendIn_eq_ok {num den need available : U128} {st' : BinState pool} (hden : 0 < den.val) :
    spendIn num den need available a = .ok st' ↔ Filled num den need available a st' := by
  unfold spendIn
  constructor
  · intro h
    split_ifs at h with hle
    · obtain ⟨output, houtput, h⟩ := bind_ok.1 h
      obtain ⟨remaining, hremaining, h⟩ := bind_ok.1 h
      cases h
      rw [okOr_eq_ok, Unsigned.checkedAdd_eq_some] at houtput
      rw [okOr_eq_ok, Unsigned.checkedSub_eq_some] at hremaining
      exact .emptied hle houtput hremaining.2
    · obtain ⟨part, hpart, h⟩ := bind_ok.1 h
      obtain ⟨output, houtput, h⟩ := bind_ok.1 h
      cases h
      rw [okOr_eq_ok, Unsigned.checkedAdd_eq_some] at houtput
      rw [okOr_eq_ok, mulDivFloor_eq_some] at hpart
      exact .ended (Nat.lt_of_not_le hle) hpart.2 houtput
  · rintro (⟨hle, houtput, hremaining⟩ | ⟨hlt, hpart, houtput⟩)
    · rw [if_pos (Unsigned.le_def.2 hle), okOr_some (Unsigned.checkedAdd_eq_some.2 houtput),
        okOr_some (Unsigned.checkedSub_eq_some.2 ⟨hle, hremaining⟩)]
      rfl
    · have hnle : ¬ need ≤ a.remaining := Nat.not_le_of_lt hlt
      rw [if_neg hnle, okOr_some (mulDivFloor_eq_some.2 ⟨hden, hpart⟩),
        okOr_some (Unsigned.checkedAdd_eq_some.2 houtput)]
      rfl

lemma fillBin_eq_ok :
    fillBin token0In a = .ok a' ↔ (a.available token0In).val = 0 ∧ a' = a ∨
      ∃ num den need, Priced token0In a num den need ∧ Filled num den need (a.available token0In) a a' := by
  by_cases hzero : (a.available token0In).val = 0
  · rw [fillBin_empty hzero]
    constructor
    · exact fun h => .inl ⟨hzero, (Except.ok.inj h).symm⟩
    · rintro (⟨-, rfl⟩ | ⟨num, den, need, hpriced, -⟩)
      · rfl
      · exact absurd hzero hpriced.available_pos.ne'
  rw [fillBin_eq hzero]
  constructor
  · intro h
    obtain ⟨p, hp, h⟩ := bind_ok.1 h
    obtain ⟨hnum, hden, -⟩ := atomicBinPrice_spec hp
    obtain ⟨need, hneed, h⟩ := bind_ok.1 h
    rw [okOr_eq_ok, binMulDivCeil_eq_some] at hneed
    have hden' : 0 < (if token0In then (p.1, p.2) else (p.2, p.1)).2.val := by
      cases token0In
      · exact hnum
      · exact hden
    exact .inr ⟨_, _, need, ⟨Nat.pos_of_ne_zero hzero, ⟨p, hp, rfl⟩, hneed.1, hden', hneed.2⟩,
      (spendIn_eq_ok hden').1 h⟩
  · rintro (⟨h, -⟩ | ⟨num, den, need, hpriced, hfilled⟩)
    · exact absurd h hzero
    obtain ⟨p, hp, hpair⟩ := hpriced.price
    rw [hp]
    have hneed : binMulDivCeil (a.available token0In) den num = some need :=
      binMulDivCeil_eq_some.2 ⟨hpriced.num_pos, hpriced.need⟩
    change okOr (binMulDivCeil _ (if token0In then (p.1, p.2) else (p.2, p.1)).2
      (if token0In then (p.1, p.2) else (p.2, p.1)).1) _ >>= _ = _
    rw [← hpair, okOr_some hneed]
    exact (spendIn_eq_ok hpriced.den_pos).2 hfilled

lemma part_lt {r available num den need : ℕ} (hnum : 0 < num) (hden : 0 < den)
    (hneed : need = available * den ⌈/⌉ num) (hlt : r < need) : r * num / den < available := by
  rw [Nat.div_lt_iff_lt_mul hden]
  by_contra hle
  have hceil : need ≤ r := by
    rw [hneed, ceilDiv_le_iff_le_mul hnum, Nat.mul_comm num]
    exact Nat.le_of_not_lt hle
  omega

lemma fillBin_grows (hinv : Onward token0In b.lastOutput.val b.index.val) (h : fillBin token0In b = .ok b') :
    BinState.Lags token0In b b' ∧ b'.index = b.index ∧ b'.crossed = b.crossed ∧
      Onward token0In b'.lastOutput.val b'.index.val := by
  rcases fillBin_eq_ok.1 h with ⟨-, rfl⟩ | ⟨num, den, need, -, hfilled⟩
  · exact ⟨⟨le_rfl, .refl ..⟩, rfl, rfl, hinv⟩
  cases hfilled with
  | emptied hle houtput hremaining =>
    exact ⟨⟨by simp [houtput], hinv⟩, rfl, rfl, .refl ..⟩
  | ended hlt hpart houtput =>
    refine ⟨⟨by simp [houtput], ?_⟩, rfl, rfl, ?_⟩
    · dsimp only
      split_ifs
      · exact hinv
      · exact .refl ..
    · dsimp only
      split_ifs
      · exact .refl ..
      · exact hinv

lemma fillBin_mono (h : BinState.Behind a b) (hinv : Onward token0In b.lastOutput.val b.index.val)
    (hb : fillBin token0In b = .ok b') :
    ∃ a', fillBin token0In a = .ok a' ∧
      (a'.remaining.val = 0 ∧ BinState.Lags token0In a' b' ∨ BinState.Behind a' b') := by
  obtain ⟨r, hr, rfl⟩ := h
  rcases fillBin_eq_ok.1 hb with ⟨hzero, rfl⟩ | ⟨num, den, need, hpriced, hfilled⟩
  · exact ⟨_, fillBin_empty hzero, .inr ⟨r, hr, rfl⟩⟩
  -- the price is that of the bin, whatever is left of the input
  have hpriced' : Priced token0In { b with remaining := r } num den need :=
    ⟨hpriced.available_pos, hpriced.price, hpriced.num_pos, hpriced.den_pos, hpriced.need⟩
  have hrun : ∀ {a'}, Filled num den need (b.available token0In) { b with remaining := r } a' →
      fillBin token0In { b with remaining := r } = .ok a' := fun hf =>
    fillBin_eq_ok.2 (.inr ⟨num, den, need, hpriced', hf⟩)
  cases hfilled with
  | @emptied output remaining hle houtput hremaining =>
    by_cases hless : r.val < need.val
    · have hpart := part_lt hpriced.num_pos hpriced.den_pos hpriced.need hless
      obtain ⟨part, hpart'⟩ := Unsigned.exists_val (lt_trans hpart (b.available token0In).lt)
      have hfits : b.output.val + part.val < 2 ^ 128 := by
        have := output.lt
        omega
      obtain ⟨output', houtput'⟩ := Unsigned.exists_val hfits
      refine ⟨_, hrun (.ended hless hpart' houtput'), .inl ⟨rfl, ?_, ?_⟩⟩
      · simp only [houtput, houtput']
        omega
      · dsimp only
        split_ifs
        · exact .refl ..
        · exact hinv
    · obtain ⟨rest, hrest⟩ := Unsigned.exists_val (r.sub_lt need)
      refine ⟨_, hrun (.emptied (Nat.le_of_not_lt hless) houtput hrest), .inr ⟨rest, ?_, rfl⟩⟩
      simp only [hremaining, hrest]
      omega
  | @ended output part hlt hpart houtput =>
    have hle : r.val * num.val / den.val ≤ part.val := by
      rw [hpart]
      exact Nat.div_le_div_right (Nat.mul_le_mul_right _ hr)
    obtain ⟨part', hpart'⟩ := Unsigned.exists_val (lt_of_le_of_lt hle part.lt)
    have hfits : b.output.val + part'.val < 2 ^ 128 := by
      have := output.lt
      omega
    obtain ⟨output', houtput'⟩ := Unsigned.exists_val hfits
    refine ⟨_, hrun (.ended (lt_of_le_of_lt hr hlt) hpart' houtput'), .inl ⟨rfl, ?_, ?_⟩⟩
    · simp only [houtput, houtput']
      omega
    · dsimp only
      split_ifs with hpos hpos'
      · exact .refl ..
      · omega
      · exact hinv
      · exact .refl ..

lemma atomicBinPrice_error {binStep : ℕ} {decimals0 decimals1 : U8} {binId : ℤ} {e : BinSimulationError}
    (h : atomicBinPrice binStep decimals0 decimals1 binId = .error e) : e = .arithmeticOverflow := by
  unfold atomicBinPrice at h
  rcases bind_error.1 h with hraw | ⟨raw, -, h⟩
  · unfold rawBinPrice at hraw
    rcases bind_error.1 hraw with hbase | ⟨base, -, hraw⟩
    · exact (okOr_eq_error.1 hbase).2
    rcases bind_error.1 hraw with hnum | ⟨num, -, hraw⟩
    · exact (okOr_eq_error.1 hnum).2
    rcases bind_error.1 hraw with hden | ⟨den, -, hraw⟩
    · exact (okOr_eq_error.1 hden).2
    · cases hraw
  rcases bind_error.1 h with hscaled | ⟨scaled, -, h⟩
  · exact (okOr_eq_error.1 hscaled).2
  rcases bind_error.1 h with hnum | ⟨num, -, h⟩
  · exact (okOr_eq_error.1 hnum).2
  rcases bind_error.1 h with hden | ⟨den, -, h⟩
  · exact (okOr_eq_error.1 hden).2
  rcases bind_error.1 h with hzero | ⟨_, -, h⟩
  · exact (ensure_eq_error.1 hzero).2
  · cases h

lemma fillBin_error {e : BinSimulationError} (h : fillBin token0In b = .error e) :
    e = .arithmeticOverflow := by
  by_cases hzero : (b.available token0In).val = 0
  · rw [fillBin_empty hzero] at h
    cases h
  rw [fillBin_eq hzero] at h
  rcases bind_error.1 h with hprice | ⟨p, -, h⟩
  · exact atomicBinPrice_error hprice
  rcases bind_error.1 h with hneed | ⟨need, -, h⟩
  · exact (okOr_eq_error.1 hneed).2
  unfold spendIn at h
  split_ifs at h
  all_goals
    rcases bind_error.1 h with h | ⟨_, -, h⟩
    · exact (okOr_eq_error.1 h).2
    rcases bind_error.1 h with h | ⟨_, -, h⟩
    · exact (okOr_eq_error.1 h).2
    · cases h

lemma binLoop_eq_ok {final : BinState pool} (h : binLoop token0In b = .ok final) :
    ∃ b', fillBin token0In b = .ok b' ∧
      (b'.remaining.val = 0 ∧ final = b' ∨
        b'.remaining.val ≠ 0 ∧ b.crossed < maxBinCrosses ∧ ∃ next, nextBinIndex token0In b.index = some next ∧
          binLoop token0In { b' with index := next, crossed := b.crossed + 1 } = .ok final) := by
  unfold binLoop at h
  obtain ⟨b', hfill, h⟩ := bind_ok.1 h
  refine ⟨b', hfill, ?_⟩
  split_ifs at h with hzero hcrosses
  · exact .inl ⟨hzero, (Except.ok.inj h).symm⟩
  · cases hnext : nextBinIndex token0In b.index with
    | none => simp [hnext] at h
    | some next =>
      rw [hnext] at h
      exact .inr ⟨hzero, not_le.1 hcrosses, next, rfl, h⟩

lemma binLoop_next {next : Fin pool.bins.length} (hfill : fillBin token0In b = .ok b')
    (hne : b'.remaining.val ≠ 0) (hcrosses : b.crossed < maxBinCrosses)
    (hnext : nextBinIndex token0In b.index = some next) :
    binLoop token0In b = binLoop token0In { b' with index := next, crossed := b.crossed + 1 } := by
  rw [binLoop, hfill]
  change (if b'.remaining.val = 0 then _ else _) = _
  rw [if_neg hne, if_neg (not_le.2 hcrosses), hnext]

lemma binLoop_end (hfill : fillBin token0In b = .ok b') (hzero : b'.remaining.val = 0) :
    binLoop token0In b = .ok b' := by
  rw [binLoop, hfill]
  exact if_pos hzero

lemma binLoop_grows {final : BinState pool} (hinv : Onward token0In b.lastOutput.val b.index.val)
    (h : binLoop token0In b = .ok final) : BinState.Lags token0In b final := by
  -- every further bin is one crossing more
  induction hk : maxBinCrosses - b.crossed using Nat.strong_induction_on generalizing b with
  | _ k ih =>
    obtain ⟨b', hfill, hrest⟩ := binLoop_eq_ok h
    obtain ⟨hlags, hindex, -, hlast⟩ := fillBin_grows hinv hfill
    rcases hrest with ⟨-, rfl⟩ | ⟨-, hcrosses, next, hnext, hrest⟩
    · exact hlags
    · have hinv' : Onward token0In b'.lastOutput.val next.val := by
        rw [hindex] at hlast
        exact hlast.trans (onward_nextBinIndex hnext)
      have hgrows := ih _ (by dsimp only; omega) hinv' hrest rfl
      exact hlags.trans ⟨hgrows.output, hgrows.last⟩

/-- **More input goes further.** If a walk ends, so does one that is behind it, with no more output and no
further along. -/
lemma binLoop_mono {final : BinState pool} (h : BinState.Behind a b)
    (hinv : Onward token0In b.lastOutput.val b.index.val) (hb : binLoop token0In b = .ok final) :
    ∃ final', binLoop token0In a = .ok final' ∧ BinState.Lags token0In final' final := by
  induction hk : maxBinCrosses - b.crossed using Nat.strong_induction_on generalizing a b with
  | _ k ih =>
    obtain ⟨b', hfill, hrest⟩ := binLoop_eq_ok hb
    obtain ⟨a', hfill', hmono⟩ := fillBin_mono h hinv hfill
    have hlags : BinState.Lags token0In a' b' := hmono.elim And.right BinState.Behind.lags
    rcases hrest with ⟨hzero, rfl⟩ | ⟨hne, hcrosses, next, hnext, hrest⟩
    · have hzero' : a'.remaining.val = 0 := by
        rcases hmono with ⟨hzero', -⟩ | ⟨r, hr, rfl⟩
        · exact hzero'
        · exact Nat.le_zero.1 (hzero ▸ hr)
      exact ⟨a', binLoop_end hfill' hzero', hlags⟩
    obtain ⟨-, hindex, -, hlast⟩ := fillBin_grows hinv hfill
    have hinv' : Onward token0In b'.lastOutput.val next.val := by
      rw [hindex] at hlast
      exact hlast.trans (onward_nextBinIndex hnext)
    have hgrows := binLoop_grows hinv' hrest
    by_cases hzero' : a'.remaining.val = 0
    · exact ⟨a', binLoop_end hfill' hzero', hlags.trans ⟨hgrows.output, hgrows.last⟩⟩
    · obtain ⟨r, hr, rfl⟩ := hmono.resolve_left fun hdone => hzero' hdone.1
      obtain ⟨r', -, rfl⟩ := h
      have hbehind : BinState.Behind { b' with index := next, remaining := r, crossed := b.crossed + 1 }
          { b' with index := next, crossed := b.crossed + 1 } := ⟨r, hr, rfl⟩
      obtain ⟨final', hrun, hfinal⟩ := ih _ (by dsimp only; omega) hbehind hinv' hrest rfl
      exact ⟨final', (binLoop_next hfill' hzero' hcrosses hnext).trans hrun, hfinal⟩

lemma binLoop_error {e : BinSimulationError} (h : binLoop token0In b = .error e) :
    e = .arithmeticOverflow ∨ e = .binCrossingExceeded := by
  induction hk : maxBinCrosses - b.crossed using Nat.strong_induction_on generalizing b with
  | _ k ih =>
    unfold binLoop at h
    rcases bind_error.1 h with hfill | ⟨b', -, h⟩
    · exact .inl (fillBin_error hfill)
    split_ifs at h with hzero hcrosses
    · cases h
    · cases h
      exact .inr rfl
    · cases hnext : nextBinIndex token0In b.index with
      | none =>
        rw [hnext] at h
        cases h
        exact .inr rfl
      | some next =>
        rw [hnext] at h
        exact ih _ (by dsimp only; omega) h rfl

end

end PrivateExecution
