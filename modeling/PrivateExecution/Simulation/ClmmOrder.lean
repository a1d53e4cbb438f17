import PrivateExecution.Simulation.ClmmWalk
import PrivateExecution.Simulation.MinimalInput

/-!
# More input goes further through the ranges

Two concentrated liquidity walks that differ only in what is left of their input. The successes of the
walk need not be an interval: a rounding artifact can fail in the middle (`invariantViolated`). What does
hold is an order among the successes.
-/

namespace PrivateExecution

def clmmProbeClass : ClmmSimulationError → ProbeClass
  | .zeroOutputAmount | .zeroEffectiveInput => .low
  | .invariantViolated => .hole
  | .tickCrossingExceeded | .arithmeticOverflow => .high
  | _ => .unexpected

/-! ### Computations that do not fail low -/

def NotLow {α : Type} (x : Except ClmmSimulationError α) : Prop :=
  ∀ e, x = .error e → clmmProbeClass e ≠ .low

section

variable {α β : Type} {x : Except ClmmSimulationError α} {f : α → Except ClmmSimulationError β}
  {e : ClmmSimulationError}

lemma NotLow.ok (a : α) : NotLow (.ok a : Except ClmmSimulationError α) := by
  intro e h
  cases h

lemma NotLow.error (he : clmmProbeClass e ≠ .low) :
    NotLow (.error e : Except ClmmSimulationError α) := by
  intro e' h
  cases h
  exact he

lemma NotLow.bind (hx : NotLow x) (hf : ∀ a, x = .ok a → NotLow (f a)) : NotLow (x >>= f) := by
  intro e h
  rcases bind_error.1 h with h | ⟨a, ha, h⟩
  · exact hx e h
  · exact hf a ha e h

lemma NotLow.pass (hx : NotLow x) (h : (x >>= f) = .error e)
    (he : clmmProbeClass e = .low) : ∃ a, x = .ok a ∧ f a = .error e := by
  rcases bind_error.1 h with h | h
  · exact absurd he (hx e h)
  · exact h

lemma NotLow.map {f : α → β} (hx : NotLow x) : NotLow (x.map f) := by
  cases x with
  | error e => exact .error (hx e rfl)
  | ok a => exact .ok _

lemma NotLow.ensure {p : Prop} [Decidable p] (he : clmmProbeClass e ≠ .low) :
    NotLow (PrivateExecution.ensure p e) := by
  intro e' h
  rw [(ensure_eq_error.1 h).2]
  exact he

lemma NotLow.okOr {o : Option α} (he : clmmProbeClass e ≠ .low) :
    NotLow (PrivateExecution.okOr o e) := by
  intro e' h
  rw [(okOr_eq_error.1 h).2]
  exact he

lemma notLow_sqrtPrice (tick : ℤ) : NotLow (sqrtPriceFromTickIndex tick) :=
  .bind (.ensure (by decide)) fun _ _ => .ok _

lemma notLow_tickIndex (s : ℕ) : NotLow (tickIndexFromSqrtPrice s) := by
  refine .bind (.ensure (by decide)) fun _ _ => .bind ?_ fun _ _ => .ok _
  unfold tickCandidate
  split_ifs
  · exact .ok _
  · exact .bind (notLow_sqrtPrice _) fun _ _ => .ok _

lemma notLow_amount0Max (l s sLower : U128) : NotLow (amount0Max l s sLower) :=
  .bind (.okOr (by decide)) fun _ _ => .okOr (by decide)

lemma notLow_amount1Max (l deltaS : U128) : NotLow (amount1Max l deltaS) :=
  .bind (.okOr (by decide)) fun _ _ => .okOr (by decide)

lemma notLow_amount0Out (l s sNext : U128) : NotLow (amount0Out l s sNext) :=
  .bind (.okOr (by decide)) fun _ _ => .bind (.okOr (by decide)) fun _ _ => .okOr (by decide)

lemma notLow_amount1Out (l deltaS : U128) : NotLow (amount1Out l deltaS) :=
  .bind (.ensure (by decide)) fun _ _ => .ok _

lemma notLow_nextPriceDown (l s input : U128) : NotLow (nextPriceDown l s input) :=
  .bind (.okOr (by decide)) fun _ _ => .bind (.okOr (by decide)) fun _ _ =>
    .bind (.okOr (by decide)) fun _ _ => .bind (.okOr (by decide)) fun _ _ => .okOr (by decide)

lemma notLow_nextPriceUp (l s input : U128) : NotLow (nextPriceUp l s input) :=
  .bind (.okOr (by decide)) fun _ _ => .bind (.okOr (by decide)) fun _ _ =>
    .bind (.okOr (by decide)) fun _ _ => .okOr (by decide)

lemma notLow_checkedAddNet (l : U128) (net : ℤ) : NotLow (checkedAddNet l net) :=
  .bind (.okOr (by decide)) fun _ _ => .bind (.ensure (by decide)) fun _ _ => .ok _

end

/-! ### Iterations that keep an order -/

namespace ClmmState

variable {ticks : List ClmmTick} {a b c : ClmmState ticks} {token0In : Bool}

def withInput (st : ClmmState ticks) (r : U128) : ClmmState ticks := { st with remaining := r }

@[simp] lemma withInput_self (st : ClmmState ticks) : st.withInput st.remaining = st := rfl

def Behind (a b : ClmmState ticks) : Prop := a.remaining.val ≤ b.remaining.val ∧ a = b.withInput a.remaining

/-- The first walk has no more output and its price is no further along. -/
structure Lags (token0In : Bool) (a b : ClmmState ticks) : Prop where
  output : a.output.val ≤ b.output.val
  price : Onward token0In a.s.val b.s.val

lemma Lags.refl (token0In : Bool) (a : ClmmState ticks) : Lags token0In a a := ⟨le_rfl, .refl ..⟩

lemma Lags.trans (hab : Lags token0In a b) (hbc : Lags token0In b c) : Lags token0In a c :=
  ⟨hab.output.trans hbc.output, hab.price.trans hbc.price⟩

lemma Behind.lags (h : Behind a b) : Lags token0In a b := by
  rw [h.2]
  exact ⟨le_rfl, .refl ..⟩

end ClmmState

open ClmmState

section

variable {ticks : List ClmmTick}

/-- One iteration from a state, for every input: below a threshold the input ends in the range, otherwise
the boundary is reached. -/
structure Leg (token0In : Bool) (st : ClmmState ticks)
    (finish reach : U128 → Except ClmmSimulationError (ClmmState ticks)) : Prop where
  finish_grows : ∀ {r st'}, finish r = .ok st' → Lags token0In st st'
  finish_mono : ∀ {r r' st₁ st₂}, r.val ≤ r'.val → finish r = .ok st₁ → finish r' = .ok st₂ →
    Lags token0In st₁ st₂
  finish_low : ∀ {r e}, finish r = .error e → clmmProbeClass e = .low →
    st.output.val = 0 ∧ ∀ {r' st'}, r'.val ≤ r.val → finish r' ≠ .ok st'
  reach_grows : ∀ {r st'}, reach r = .ok st' → Lags token0In st st'
  reach_mono : ∀ {r r' st₁ st₂}, r.val ≤ r'.val → reach r = .ok st₁ → reach r' = .ok st₂ → Behind st₁ st₂
  reach_low : ∀ r, NotLow (reach r)
  finish_reach : ∀ {r r' st₁ st₂}, finish r = .ok st₁ → reach r' = .ok st₂ → Lags token0In st₁ st₂

/-- Every iteration is such a leg, or fails the same way whatever the input. -/
def Legs (token0In : Bool) (step : ClmmState ticks → Except ClmmSimulationError (ClmmState ticks × Bool)) :
    Prop :=
  ∀ st, (∃ e, clmmProbeClass e ≠ .low ∧ ∀ r, step (st.withInput r) = .error e) ∨
    ∃ (threshold : ℕ) (finish reach : U128 → Except ClmmSimulationError (ClmmState ticks)),
      Leg token0In st finish reach ∧ ∀ r, step (st.withInput r) =
        if r.val < threshold then (finish r).map (·, true) else (reach r).map (·, false)

variable {token0In : Bool} {step : ClmmState ticks → Except ClmmSimulationError (ClmmState ticks × Bool)}
  {st st' a b a' b' : ClmmState ticks} {d d' : Bool}

section

variable (h : Legs token0In step)

include h

lemma Legs.grows (hstep : step st = .ok (st', d)) : Lags token0In st st' := by
  rcases h st with ⟨e, -, hfails⟩ | ⟨threshold, finish, reach, hleg, heq⟩
  · cases hstep.symm.trans (hfails st.remaining)
  have hrun := heq st.remaining
  rw [withInput_self, hstep] at hrun
  split_ifs at hrun
  · obtain ⟨_, hfinish, hpair⟩ := except_map_eq_ok.1 hrun.symm
    cases hpair
    exact hleg.finish_grows hfinish
  · obtain ⟨_, hreach, hpair⟩ := except_map_eq_ok.1 hrun.symm
    cases hpair
    exact hleg.reach_grows hreach

lemma Legs.output_of_low {e : ClmmSimulationError} (hstep : step st = .error e)
    (he : clmmProbeClass e = .low) : st.output.val = 0 := by
  rcases h st with ⟨e', hne, hfails⟩ | ⟨threshold, finish, reach, hleg, heq⟩
  · cases hstep.symm.trans (hfails st.remaining)
    exact absurd he hne
  have hrun := heq st.remaining
  rw [withInput_self, hstep] at hrun
  split_ifs at hrun
  · cases hfinish : finish st.remaining with
    | ok st' => simp [hfinish, Except.map] at hrun
    | error e' =>
      rw [hfinish] at hrun
      cases hrun
      exact (hleg.finish_low hfinish he).1
  · exact absurd he ((hleg.reach_low st.remaining).map e hrun.symm)

lemma Legs.order (hab : Behind a b) (ha : step a = .ok (a', d)) :
    NotLow (step b) ∧ ∀ b' d', step b = .ok (b', d') →
      Lags token0In a' b' ∧ (d = false → d' = false ∧ Behind a' b') := by
  obtain ⟨hle, hsame⟩ := hab
  rcases h b with ⟨e, -, hfails⟩ | ⟨threshold, finish, reach, hleg, heq⟩
  · rw [hsame, hfails] at ha
    cases ha
  have hrunb := heq b.remaining
  rw [withInput_self] at hrunb
  rw [hsame, heq] at ha
  rw [hrunb]
  by_cases hless : a.remaining.val < threshold
  · rw [if_pos hless] at ha
    obtain ⟨_, hfinish, hpair⟩ := except_map_eq_ok.1 ha
    cases hpair
    by_cases hless' : b.remaining.val < threshold
    · rw [if_pos hless']
      refine ⟨NotLow.map fun e he hlow => (hleg.finish_low he hlow).2 hle hfinish, fun b' d' hb => ?_⟩
      obtain ⟨_, hfinish', hpair⟩ := except_map_eq_ok.1 hb
      cases hpair
      exact ⟨hleg.finish_mono hle hfinish hfinish', fun hd => by cases hd⟩
    · rw [if_neg hless']
      refine ⟨(hleg.reach_low _).map, fun b' d' hb => ?_⟩
      obtain ⟨_, hreach, hpair⟩ := except_map_eq_ok.1 hb
      cases hpair
      exact ⟨hleg.finish_reach hfinish hreach, fun hd => by cases hd⟩
  · rw [if_neg hless] at ha
    obtain ⟨_, hreach, hpair⟩ := except_map_eq_ok.1 ha
    cases hpair
    rw [if_neg (by omega : ¬ b.remaining.val < threshold)]
    refine ⟨(hleg.reach_low _).map, fun b' d' hb => ?_⟩
    obtain ⟨_, hreach', hpair⟩ := except_map_eq_ok.1 hb
    cases hpair
    have hbehind := hleg.reach_mono hle hreach hreach'
    exact ⟨hbehind.lags, fun _ => ⟨rfl, hbehind⟩⟩

/-! ### The loop -/

lemma Legs.loop_grows {fuel : ℕ} :
    (∀ final, clmmLoop step fuel st = .ok final → Lags token0In st final) ∧
      (st.output.val ≠ 0 → NotLow (clmmLoop step fuel st)) := by
  induction fuel generalizing st with
  | zero => exact ⟨fun final hrun => (by cases hrun), fun _ => .error (by decide)⟩
  | succ fuel ih =>
    unfold clmmLoop
    split_ifs with hzero
    · refine ⟨fun final hrun => ?_, fun _ => .ok _⟩
      cases hrun
      exact .refl ..
    · constructor
      · intro final hrun
        obtain ⟨⟨next, done⟩, hstep, hrun⟩ := bind_ok.1 hrun
        cases done with
        | true =>
          cases hrun
          exact h.grows hstep
        | false => exact (h.grows hstep).trans (ih.1 final hrun)
      · intro hne
        refine .bind (fun e he hlow => hne (h.output_of_low he hlow)) fun p hstep => ?_
        obtain ⟨next, done⟩ := p
        cases done with
        | true => exact .ok _
        | false =>
          have hgrows := (h.grows hstep).output
          exact ih.2 (by omega)

/-- **More input goes further.** If a walk ends with some output, one that it is behind does not fail low,
and if it ends it has no less output and its price is no less far along. -/
lemma Legs.loop_mono {fuel : ℕ} {final : ClmmState ticks} (hab : Behind a b)
    (ha : clmmLoop step fuel a = .ok final) (hne : final.output.val ≠ 0) :
    NotLow (clmmLoop step fuel b) ∧ ∀ final', clmmLoop step fuel b = .ok final' → Lags token0In final final' := by
  induction fuel generalizing a b with
  | zero => cases ha
  | succ fuel ih =>
    unfold clmmLoop at ha
    split_ifs at ha with hzero
    · -- nothing is left: the other walk goes on from here
      obtain rfl := Except.ok.inj ha
      obtain ⟨hgrows, hnotlow⟩ : (∀ final, clmmLoop step (fuel + 1) b = .ok final → Lags token0In b final) ∧
        (b.output.val ≠ 0 → NotLow (clmmLoop step (fuel + 1) b)) := h.loop_grows
      have hout : a.output = b.output := by rw [hab.2]; rfl
      exact ⟨hnotlow (by rw [← hout]; exact hne), fun final' hrun => hab.lags.trans (hgrows final' hrun)⟩
    · obtain ⟨⟨next, done⟩, hstep, ha⟩ := bind_ok.1 ha
      obtain ⟨hnotlow, horder⟩ := h.order hab hstep
      have hzero' : b.remaining.val ≠ 0 := by
        have := hab.1
        omega
      -- what the iteration of the other walk leaves to show
      suffices hgoal : ∀ b' d', step b = .ok (b', d') →
          NotLow (if d' then .ok b' else clmmLoop step fuel b') ∧
            ∀ final', (if d' then .ok b' else clmmLoop step fuel b') = .ok final' → Lags token0In final final' by
        unfold clmmLoop
        rw [if_neg hzero']
        refine ⟨.bind hnotlow fun p hp => (hgoal p.1 p.2 hp).1, fun final' hrun => ?_⟩
        obtain ⟨p, hp, hrun⟩ := bind_ok.1 hrun
        exact (hgoal p.1 p.2 hp).2 final' hrun
      intro b' d' hb
      obtain ⟨hlags, hbehind⟩ := horder b' d' hb
      cases done with
      | true =>
        obtain rfl := Except.ok.inj ha
        cases d' with
        | true =>
          refine ⟨.ok _, fun final' hrun => ?_⟩
          obtain rfl := Except.ok.inj hrun
          exact hlags
        | false =>
          obtain ⟨hgrows, hnotlow'⟩ : (∀ final, clmmLoop step fuel b' = .ok final → Lags token0In b' final) ∧
            (b'.output.val ≠ 0 → NotLow (clmmLoop step fuel b')) := h.loop_grows
          have hout := hlags.output
          exact ⟨hnotlow' (by omega), fun final' hrun => hlags.trans (hgrows final' hrun)⟩
      | false =>
        obtain ⟨rfl, hnext⟩ := hbehind rfl
        exact ih hnext ha

end

end

/-! ### Amounts and prices of one step, as numbers -/

section

variable {liquidity s sNext input deltaS out : U128}

lemma nextPriceDown_anti {input' sNext' : U128} (hle : input.val ≤ input'.val)
    (h : nextPriceDown liquidity s input = .ok sNext) (h' : nextPriceDown liquidity s input' = .ok sNext') :
    sNext'.val ≤ sNext.val := by
  obtain ⟨hpos, heq⟩ := nextPriceDown_eq h
  obtain ⟨hpos', heq'⟩ := nextPriceDown_eq h'
  rw [heq', ceilDiv_le_iff_le_mul hpos']
  have hceil := (ceilDiv_le_iff_le_mul hpos).1 heq.ge
  refine hceil.trans (Nat.mul_le_mul_right _ ?_)
  exact Nat.add_le_add_left (Nat.mul_le_mul_right _ hle) _

lemma nextPriceUp_mono {input' sNext' : U128} (hle : input.val ≤ input'.val)
    (h : nextPriceUp liquidity s input = .ok sNext) (h' : nextPriceUp liquidity s input' = .ok sNext') :
    sNext.val ≤ sNext'.val := by
  rw [(nextPriceUp_eq h).2, (nextPriceUp_eq h').2]
  exact Nat.add_le_add_left (Nat.div_le_div_right (Nat.mul_le_mul_right _ hle)) _

lemma amount1Out_mono {deltaS' out' : U128} (hle : deltaS.val ≤ deltaS'.val)
    (h : amount1Out liquidity deltaS = .ok out) (h' : amount1Out liquidity deltaS' = .ok out') :
    out.val ≤ out'.val := by
  rw [amount1Out_eq h, amount1Out_eq h']
  exact Nat.div_le_div_right (Nat.mul_le_mul_left _ hle)

lemma amount0Out_mono {sNext' out' : U128} (hle : sNext.val ≤ sNext'.val)
    (h : amount0Out liquidity s sNext = .ok out) (h' : amount0Out liquidity s sNext' = .ok out') :
    out.val ≤ out'.val := by
  obtain ⟨hpos, heq⟩ := amount0Out_eq h
  obtain ⟨hpos', heq'⟩ := amount0Out_eq h'
  have hx : 0 < sNext.val := Nat.pos_of_mul_pos_left hpos
  have hfloor : out.val * (s.val * sNext.val) ≤ liquidity.val * (sNext.val - s.val) * 2 ^ 64 := by
    rw [heq]
    exact Nat.div_mul_le_self ..
  have hcross : (sNext.val - s.val) * sNext'.val ≤ (sNext'.val - s.val) * sNext.val := by
    have hmul := Nat.mul_le_mul_left s.val hle
    rw [Nat.sub_mul, Nat.sub_mul, Nat.mul_comm sNext'.val]
    omega
  rw [heq', Nat.le_div_iff_mul_le hpos']
  refine Nat.le_of_mul_le_mul_right ?_ hx
  calc out.val * (s.val * sNext'.val) * sNext.val
      = out.val * (s.val * sNext.val) * sNext'.val := by ring
    _ ≤ liquidity.val * (sNext.val - s.val) * 2 ^ 64 * sNext'.val := Nat.mul_le_mul_right _ hfloor
    _ = liquidity.val * 2 ^ 64 * ((sNext.val - s.val) * sNext'.val) := by ring
    _ ≤ liquidity.val * 2 ^ 64 * ((sNext'.val - s.val) * sNext.val) := Nat.mul_le_mul_left _ hcross
    _ = liquidity.val * (sNext'.val - s.val) * 2 ^ 64 * sNext.val := by ring

end

lemma branch_eq {ticks : List ClmmTick} (threshold : U512) (r : U128)
    (finish reach : Except ClmmSimulationError (ClmmState ticks)) :
    (if ((U512.fromU128 r).cmp threshold).isLT then (do return (← finish, true))
      else (do return (← reach, false))) =
      if r.val < threshold.toNat then finish.map (·, true) else reach.map (·, false) := by
  by_cases hlt : r.val < threshold.toNat
  · rw [if_pos hlt, if_pos (U512.cmp_isLT.2 (by rw [U512.toNat_fromU128]; exact hlt))]
    cases finish <;> rfl
  · rw [if_neg hlt, if_neg fun h => hlt (by rw [← U512.toNat_fromU128]; exact U512.cmp_isLT.1 h)]
    cases reach <;> rfl

/-! ### One leg, from its numbers -/

section

variable {ticks : List ClmmTick} {token0In : Bool} {st mid : ClmmState ticks} {boundary : U128}
  {next gives : U128 → Except ClmmSimulationError U128} {beyond : U128 → Prop} [DecidablePred beyond]
  {outside : ℤ → Prop} [DecidablePred outside]

lemma finishWith_low {next : Except ClmmSimulationError U128} {e : ClmmSimulationError} (hnext : NotLow next)
    (hgives : ∀ p, NotLow (gives p)) (h : finishWith next beyond gives outside st = .error e)
    (he : clmmProbeClass e = .low) :
    ∃ p out, next = .ok p ∧ gives p = .ok out ∧ out.val = 0 ∧ st.output.val = 0 := by
  obtain ⟨p, hp, h⟩ := hnext.pass h he
  obtain ⟨_, -, h⟩ := (NotLow.ensure (by decide)).pass h he
  obtain ⟨out, hout, h⟩ := (hgives p).pass h he
  refine ⟨p, out, hp, hout, ?_⟩
  by_contra hne
  obtain ⟨output, -, h⟩ := (NotLow.okOr (by decide)).pass ((ensure_pos hne).symm.trans h) he
  obtain ⟨resTick, -, h⟩ := (notLow_tickIndex _).pass h he
  obtain ⟨_, -, h⟩ := (NotLow.ensure (by decide)).pass h he
  cases h

lemma Leg.of_numbers {reach : U128 → Except ClmmSimulationError (ClmmState ticks)} (hs : mid.s = st.s)
    (hout : mid.output = st.output)
    (hnext : ∀ {r r' p p' : U128}, r.val ≤ r'.val → next r = .ok p → next r' = .ok p' →
      Onward token0In p.val p'.val)
    (hgives : ∀ {p p' o o' : U128}, Onward token0In p.val p'.val → gives p = .ok o → gives p' = .ok o' →
      o.val ≤ o'.val)
    (hbeyond : ∀ {p : U128}, ¬beyond p → Onward token0In mid.s.val p.val ∧ Onward token0In p.val boundary.val)
    (hstart : Onward token0In mid.s.val boundary.val) (hlow : ∀ r, NotLow (next r) ∧ NotLow (gives r))
    (hreach : ∀ {r : U128} {st' : ClmmState ticks}, reach r = .ok st' →
      ∃ out, gives boundary = .ok out ∧ st'.output.val = mid.output.val + out.val ∧ st'.s = boundary)
    (hmono : ∀ {r r' : U128} {st₁ st₂ : ClmmState ticks}, r.val ≤ r'.val → reach r = .ok st₁ →
      reach r' = .ok st₂ → Behind st₁ st₂)
    (hhigh : ∀ r, NotLow (reach r)) :
    Leg token0In st (fun r => finishWith (next r) beyond gives outside (mid.withInput r)) reach where
  finish_grows := by
    intro r st' h
    obtain ⟨out, hend⟩ := finishWith_eq_ok h
    refine ⟨?_, hs ▸ (hbeyond hend.within).1⟩
    rw [hend.output, ← hout]
    exact Nat.le_add_right ..
  finish_mono := by
    intro r r' st₁ st₂ hle h₁ h₂
    obtain ⟨out₁, hend₁⟩ := finishWith_eq_ok h₁
    obtain ⟨out₂, hend₂⟩ := finishWith_eq_ok h₂
    have honward := hnext hle hend₁.next hend₂.next
    refine ⟨?_, honward⟩
    rw [hend₁.output, hend₂.output]
    exact Nat.add_le_add_left (hgives honward hend₁.gives hend₂.gives) _
  finish_low := by
    intro r e h he
    obtain ⟨p, out, hp, hgive, hzero, hnone⟩ := finishWith_low (hlow r).1 (fun p => (hlow p).2) h he
    refine ⟨by rw [← hout]; exact hnone, ?_⟩
    intro r' st' hle h'
    obtain ⟨out', hend⟩ := finishWith_eq_ok h'
    have hle' := hgives (hnext hle hend.next hp) hend.gives hgive
    exact hend.paid ⟨by omega, hnone⟩
  reach_grows := by
    intro r st' h
    obtain ⟨out, -, houtput, hst⟩ := hreach h
    refine ⟨?_, hst ▸ hs ▸ hstart⟩
    rw [houtput, ← hout]
    exact Nat.le_add_right ..
  reach_mono := hmono
  reach_low := hhigh
  finish_reach := by
    intro r r' st₁ st₂ h₁ h₂
    obtain ⟨out₁, hend⟩ := finishWith_eq_ok h₁
    obtain ⟨out₂, hgive, houtput, hst⟩ := hreach h₂
    have honward := (hbeyond hend.within).2
    refine ⟨?_, hst ▸ honward⟩
    rw [hend.output, houtput]
    exact Nat.add_le_add_left (hgives honward hend.gives hgive) _

end

/-! ### Down -/

section

variable {ticks : List ClmmTick} {st mid st' : ClmmState ticks} {sLower r : U128} {e : ClmmSimulationError}

lemma except_map_bind {α β γ : Type} (x : Except ClmmSimulationError α)
    (g : α → Except ClmmSimulationError β) (f : β → γ) : (x >>= g).map f = x >>= fun a => (g a).map f := by
  cases x <;> rfl

lemma crossDown_withInput (st : ClmmState ticks) (r : U128) :
    crossDown (st.withInput r) = (crossDown st).map fun p => (p.1.withInput r, p.2) := by
  simp only [crossDown, except_map_bind]
  rfl

lemma enterDown_withInput (st : ClmmState ticks) (r : U128) :
    enterDown (st.withInput r) = (enterDown st).map fun p => (p.1.withInput r, p.2) := by
  unfold enterDown
  rw [except_map_bind]
  refine congrArg (sqrtPriceFromTickIndex (lowerTick st.range).index >>= ·) (funext fun boundary => ?_)
  by_cases hat : st.s = boundary
  · rw [if_pos hat, if_pos (show (st.withInput r).s = boundary from hat)]
    exact crossDown_withInput st r
  · rw [if_neg hat, if_neg (show ¬(st.withInput r).s = boundary from hat)]
    rfl

lemma notLow_enterDown (st : ClmmState ticks) : NotLow (enterDown st) := by
  refine .bind (notLow_sqrtPrice _) fun _ _ => ?_
  split_ifs
  · unfold crossDown checkedSubNet
    exact .bind (.ensure (by decide)) fun _ _ => .bind (.ensure (by decide)) fun _ _ =>
      .bind (notLow_checkedAddNet _ _) fun _ _ => .bind (notLow_sqrtPrice _) fun _ _ => .ok _
  · exact .ok _

lemma enterDown_keeps (h : enterDown st = .ok (mid, sLower)) : mid.s = st.s ∧ mid.output = st.output := by
  obtain ⟨boundary, -, h⟩ := bind_ok.1 h
  split_ifs at h
  · unfold crossDown at h
    simp only [ensure_ok] at h
    obtain ⟨-, -, h⟩ := h
    obtain ⟨liquidity, -, h⟩ := bind_ok.1 h
    obtain ⟨low, -, h⟩ := bind_ok.1 h
    cases h
    exact ⟨rfl, rfl⟩
  · cases h
    exact ⟨rfl, rfl⟩

lemma notLow_reachDown (mid : ClmmState ticks) (sLower : U128) (deltaXMax : U512) :
    NotLow (reachDown mid sLower deltaXMax) :=
  .bind (.ensure (by decide)) fun _ _ => .bind (.ensure (by decide)) fun _ _ =>
    .bind (.okOr (by decide)) fun _ _ => .bind (notLow_amount1Out _ _) fun _ _ =>
      .bind (.okOr (by decide)) fun _ _ => .bind (.okOr (by decide)) fun _ _ => .ok _

lemma leg_down (deltaXMax : U512) (hlt : sLower.val < mid.s.val) (hs : mid.s = st.s)
    (hout : mid.output = st.output) :
    Leg true st (fun r => finishDown (mid.withInput r) sLower)
      (fun r => reachDown (mid.withInput r) sLower deltaXMax) := by
  change Leg true st (fun r => finishWith (nextPriceDown mid.liquidity mid.s r) (fun p => p ≤ sLower ∨ mid.s ≤ p)
    (fun p => amount1Out mid.liquidity (mid.s.minus p)) (· < (lowerTick mid.range).index) (mid.withInput r)) _
  refine .of_numbers hs hout nextPriceDown_anti ?_ ?_ hlt.le
    (fun r => ⟨notLow_nextPriceDown _ _ _, notLow_amount1Out _ _⟩) ?_ ?_ fun r => notLow_reachDown _ _ _
  · intro p p' o o' honward h h'
    exact amount1Out_mono (Nat.sub_le_sub_left honward _) h h'
  · intro p hp
    exact ⟨(not_le.1 fun hle => hp (.inr hle)).le, (not_le.1 fun hle => hp (.inl hle)).le⟩
  · intro r st' h
    obtain ⟨out, remaining, hgive, -, houtput, hst⟩ := reachDown_eq_ok h
    exact ⟨out, hgive, houtput, by rw [hst]⟩
  · intro r r' st₁ st₂ hle h₁ h₂
    obtain ⟨out₁, remaining₁, hout₁, hrem₁, houtput₁, hst₁⟩ := reachDown_eq_ok h₁
    obtain ⟨out₂, remaining₂, hout₂, hrem₂, houtput₂, hst₂⟩ := reachDown_eq_ok h₂
    obtain rfl := Except.ok.inj (hout₁.symm.trans hout₂)
    have hsame : st₁.output = st₂.output := Unsigned.ext (houtput₁.trans houtput₂.symm)
    have hrem : remaining₁.val ≤ remaining₂.val :=
      Nat.le_of_add_le_add_right (hrem₁.symm.le.trans (le_trans hle hrem₂.le))
    rw [hst₁, hst₂, hsame]
    exact ⟨hrem, rfl⟩

lemma legs_down : Legs true (@stepDown ticks) := by
  intro st
  cases henter : enterDown st with
  | error e =>
    refine .inl ⟨e, notLow_enterDown st e henter, fun r => ?_⟩
    rw [stepDown, enterDown_withInput, henter]
    rfl
  | ok entered =>
    obtain ⟨mid, sLower⟩ := entered
    obtain ⟨hs, hout⟩ := enterDown_keeps henter
    have hstep : ∀ r, stepDown (st.withInput r) = (do
        ensure (¬mid.s ≤ sLower) .invariantViolated
        let deltaXMax ← amount0Max mid.liquidity mid.s sLower
        if ((U512.fromU128 r).cmp deltaXMax).isLT then return (← finishDown (mid.withInput r) sLower, true)
        else return (← reachDown (mid.withInput r) sLower deltaXMax, false)) := by
      intro r
      rw [stepDown, enterDown_withInput, henter]
      rfl
    by_cases hlt : ¬mid.s ≤ sLower
    · cases hdelta : amount0Max mid.liquidity mid.s sLower with
      | error e =>
        refine .inl ⟨e, notLow_amount0Max _ _ _ e hdelta, fun r => ?_⟩
        rw [hstep, ensure_pos hlt, hdelta]
        rfl
      | ok deltaXMax =>
        refine .inr ⟨deltaXMax.toNat, _, _, leg_down deltaXMax (not_le.1 hlt) hs hout, fun r => ?_⟩
        rw [hstep, ensure_pos hlt, hdelta]
        exact branch_eq deltaXMax r _ _
    · refine .inl ⟨.invariantViolated, by decide, fun r => ?_⟩
      rw [hstep, ensure_neg hlt]

end

/-! ### Up -/

section

variable {ticks : List ClmmTick} {st st' : ClmmState ticks} {sUpper r : U128} {e : ClmmSimulationError}

lemma notLow_reachUp (st : ClmmState ticks) (sUpper : U128) (deltaYMax : U512) :
    NotLow (reachUp st sUpper deltaYMax) :=
  .bind (.okOr (by decide)) fun _ _ => .bind (.ensure (by decide)) fun _ _ =>
    .bind (.okOr (by decide)) fun _ _ => .bind (notLow_amount0Out _ _ _) fun _ _ =>
      .bind (.okOr (by decide)) fun _ _ => .bind (.okOr (by decide)) fun _ _ =>
        .bind (notLow_checkedAddNet _ _) fun _ _ => .ok _

lemma leg_up (deltaYMax : U512) (hlt : st.s.val < sUpper.val) :
    Leg false st (fun r => finishUp (st.withInput r) sUpper)
      (fun r => reachUp (st.withInput r) sUpper deltaYMax) := by
  change Leg false st (fun r => finishWith (nextPriceUp st.liquidity st.s r) (fun p => sUpper ≤ p ∨ p ≤ st.s)
    (fun p => amount0Out st.liquidity st.s p) ((upperTick st.range).index ≤ ·) (st.withInput r)) _
  refine .of_numbers rfl rfl nextPriceUp_mono amount0Out_mono ?_ hlt.le
    (fun r => ⟨notLow_nextPriceUp _ _ _, notLow_amount0Out _ _ _⟩) ?_ ?_ fun r => notLow_reachUp _ _ _
  · intro p hp
    exact ⟨(not_le.1 fun hle => hp (.inr hle)).le, (not_le.1 fun hle => hp (.inl hle)).le⟩
  · intro r st' h
    obtain ⟨out, remaining, liquidity, range, hgive, -, houtput, -, -, -, hst⟩ := reachUp_eq_ok h
    exact ⟨out, hgive, houtput, by rw [hst]⟩
  · intro r r' st₁ st₂ hle h₁ h₂
    obtain ⟨out₁, remaining₁, l₁, range₁, hout₁, hrem₁, houtput₁, hl₁, hrange₁, -, hst₁⟩ := reachUp_eq_ok h₁
    obtain ⟨out₂, remaining₂, l₂, range₂, hout₂, hrem₂, houtput₂, hl₂, hrange₂, -, hst₂⟩ := reachUp_eq_ok h₂
    obtain rfl := Except.ok.inj (hout₁.symm.trans hout₂)
    obtain rfl := Except.ok.inj (hl₁.symm.trans hl₂)
    obtain rfl := Option.some.inj (hrange₁.symm.trans hrange₂)
    have hsame : st₁.output = st₂.output := Unsigned.ext (houtput₁.trans houtput₂.symm)
    have hrem : remaining₁.val ≤ remaining₂.val :=
      Nat.le_of_add_le_add_right (hrem₁.symm.le.trans (le_trans hle hrem₂.le))
    rw [hst₁, hst₂, hsame]
    exact ⟨hrem, rfl⟩

lemma legs_up : Legs false (@stepUp ticks) := by
  intro st
  have hstep : ∀ r, stepUp (st.withInput r) = (do
      let sUpper ← sqrtPriceFromTickIndex (upperTick st.range).index
      ensure (¬sUpper ≤ st.s) .invariantViolated
      let deltaYMax ← amount1Max st.liquidity (sUpper.minus st.s)
      if ((U512.fromU128 r).cmp deltaYMax).isLT then return (← finishUp (st.withInput r) sUpper, true)
      else return (← reachUp (st.withInput r) sUpper deltaYMax, false)) := fun r => rfl
  cases hupper : sqrtPriceFromTickIndex (upperTick st.range).index with
  | error e =>
    refine .inl ⟨e, notLow_sqrtPrice _ e hupper, fun r => ?_⟩
    rw [hstep, hupper]
    rfl
  | ok sUpper =>
    have hstep' : ∀ r, stepUp (st.withInput r) = (do
        ensure (¬sUpper ≤ st.s) .invariantViolated
        let deltaYMax ← amount1Max st.liquidity (sUpper.minus st.s)
        if ((U512.fromU128 r).cmp deltaYMax).isLT then return (← finishUp (st.withInput r) sUpper, true)
        else return (← reachUp (st.withInput r) sUpper deltaYMax, false)) := by
      intro r
      rw [hstep, hupper]
      rfl
    by_cases hlt : ¬sUpper ≤ st.s
    · cases hdelta : amount1Max st.liquidity (sUpper.minus st.s) with
      | error e =>
        refine .inl ⟨e, notLow_amount1Max _ _ e hdelta, fun r => ?_⟩
        rw [hstep', ensure_pos hlt, hdelta]
        rfl
      | ok deltaYMax =>
        refine .inr ⟨deltaYMax.toNat, _, _, leg_up deltaYMax (not_le.1 hlt), fun r => ?_⟩
        rw [hstep', ensure_pos hlt, hdelta]
        exact branch_eq deltaYMax r _ _
    · refine .inl ⟨.invariantViolated, by decide, fun r => ?_⟩
      rw [hstep', ensure_neg hlt]

end

/-- **More input goes further through the ranges**, in both directions. -/
lemma clmmLoop_mono {ticks : List ClmmTick} {token0In : Bool} {fuel : ℕ} {a b final : ClmmState ticks}
    (hab : Behind a b) (ha : clmmLoop (if token0In then stepDown else stepUp) fuel a = .ok final)
    (hne : final.output.val ≠ 0) :
    NotLow (clmmLoop (if token0In then stepDown else stepUp) fuel b) ∧
      ∀ final', clmmLoop (if token0In then stepDown else stepUp) fuel b = .ok final' →
        Lags token0In final final' := by
  cases token0In with
  | true => exact legs_down.loop_mono hab ha hne
  | false => exact legs_up.loop_mono hab ha hne

end PrivateExecution
