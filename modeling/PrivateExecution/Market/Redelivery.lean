import PrivateExecution.Market.Reducer

/-!
# Redelivered pool deltas

A feed may deliver a delta again after it was taken, and the entries of a delta have no order of their
own. Neither matters to a reducer.
-/

namespace PrivateExecution.PoolReducer

open Async

/-! ### The order of the entries -/

def PoolKind.Reordered : (k : PoolKind) → k.Delta → k.Delta → Prop
  | .cpmm, d, d' => d' = d
  | .clmm, (d : ClmmPoolDelta), d' => ∃ ticks, d.ticks.Perm ticks ∧ d' = { d with ticks }
  | .bin, (d : BinPoolDelta), d' => ∃ bins, d.bins.Perm bins ∧ d' = { d with bins }

lemma validateDeltaTicks_eq_ok {ticks : List ClmmTick} {u : Unit} :
    validateDeltaTicks ticks = .ok u ↔
      (∀ t ∈ ticks, validateDeltaTicks [t] = .ok u) ∧ ticks.Pairwise fun a b => a.index ≠ b.index := by
  induction ticks with
  | nil => simp [validateDeltaTicks]
  | cons tick rest ih =>
    rw [validateDeltaTicks, List.forall_mem_cons, List.pairwise_cons]
    simp only [ensure_ok, ih, validateDeltaTicks, List.any_eq_false, decide_eq_true_iff, List.any_nil]
    tauto

lemma validateDeltaBins_eq_ok {bins : List LiquidityBin} {u : Unit} :
    validateDeltaBins bins = .ok u ↔
      (∀ b ∈ bins, validateDeltaBins [b] = .ok u) ∧ bins.Pairwise fun a b => a.id ≠ b.id := by
  induction bins with
  | nil => simp [validateDeltaBins]
  | cons bin rest ih =>
    rw [validateDeltaBins, List.forall_mem_cons, List.pairwise_cons]
    simp only [ensure_ok, ih, validateDeltaBins, List.any_eq_false, decide_eq_true_iff, List.any_nil]
    tauto

lemma list_forM_eq_ok {α E : Type} {l : List α} {f : α → Except E Unit} {u : Unit} :
    l.forM f = .ok u ↔ ∀ a ∈ l, f a = .ok u := by
  induction l with
  | nil => simp [pure, Except.pure]
  | cons a l ih =>
    rw [List.forall_mem_cons, ← ih]
    refine bind_ok.trans ⟨?_, ?_⟩
    · rintro ⟨_, ha, hl⟩
      exact ⟨ha, hl⟩
    · rintro ⟨ha, hl⟩
      exact ⟨_, ha, hl⟩

section

variable {k : PoolKind} {d d' : k.Delta} {u : Unit}

lemma PoolKind.Reordered.validate (h : k.Reordered d d') (hd : k.validateDelta d = .ok u) :
    k.validateDelta d' = .ok u := by
  cases k with
  | cpmm => rfl
  | clmm =>
    obtain ⟨ticks, hperm, rfl⟩ := h
    simp only [validateDelta, ClmmPoolDelta.validate, bind_ok] at hd ⊢
    obtain ⟨_, htick, _, hsqrt, _, hlen, hd⟩ := hd
    obtain ⟨heach, hdistinct⟩ := validateDeltaTicks_eq_ok.1 hd
    refine ⟨_, htick, _, hsqrt, _, hperm.length_eq ▸ hlen, validateDeltaTicks_eq_ok.2 ⟨?_, ?_⟩⟩
    · exact fun t ht => heach t (hperm.mem_iff.2 ht)
    · exact hdistinct.perm hperm fun hab => hab.symm
  | bin =>
    obtain ⟨bins, hperm, rfl⟩ := h
    simp only [validateDelta, BinPoolDelta.validate, bind_ok] at hd ⊢
    obtain ⟨_, hid, _, hstep, _, hlen, hd⟩ := hd
    obtain ⟨heach, hdistinct⟩ := validateDeltaBins_eq_ok.1 hd
    refine ⟨_, hid, _, hstep, _, hperm.length_eq ▸ hlen, validateDeltaBins_eq_ok.2 ⟨?_, ?_⟩⟩
    · exact fun b hb => heach b (hperm.mem_iff.2 hb)
    · exact hdistinct.perm hperm fun hab => hab.symm

lemma PoolKind.Reordered.stage {bound : ℕ} {held staged : k.State} (h : k.Reordered d d')
    (hheld : k.Holds bound held) (hd : k.validateDelta d = .ok u) (hstage : k.stage bound held d = .ok staged) :
    k.stage bound held d' = .ok staged := by
  cases k with
  | cpmm =>
    subst h
    exact hstage
  | clmm =>
    obtain ⟨ticks, hperm, rfl⟩ := h
    simp only [validateDelta, ClmmPoolDelta.validate, bind_ok] at hd
    obtain ⟨_, -, _, -, _, -, hd⟩ := hd
    have hedit : editTicks (ClmmPoolState.ticks held) (ClmmPoolDelta.ticks d) =
      editTicks (ClmmPoolState.ticks held) ticks := hheld.1.edits_perm (fun _ _ _ => rfl) hperm (validateDeltaTicks_eq_ok.1 hd).2
    obtain ⟨_, hspacing, hstage⟩ := bind_ok.1 hstage
    refine bind_ok.2 ⟨(), ?_, hedit ▸ hstage⟩
    exact list_forM_eq_ok.2 fun t ht => list_forM_eq_ok.1 hspacing t (hperm.mem_iff.2 ht)
  | bin =>
    obtain ⟨bins, hperm, rfl⟩ := h
    simp only [validateDelta, BinPoolDelta.validate, bind_ok] at hd
    obtain ⟨_, -, _, -, _, -, hd⟩ := hd
    have hedit : editBins (BinPoolState.bins held) (BinPoolDelta.bins d) =
      editBins (BinPoolState.bins held) bins := hheld.1.edits_perm (fun _ _ _ => rfl) hperm (validateDeltaBins_eq_ok.1 hd).2
    change BinPoolDelta.stage _ bound held = _ at hstage
    unfold BinPoolDelta.stage at hstage
    rw [hedit] at hstage
    exact hstage

end

/-! ### Deliveries -/

/-- What `apply_delta` is called with. -/
structure Delivery (k : PoolKind) where
  range : SequenceRange
  timestampMs : I64
  delta : k.Delta

def Delivery.act {k : PoolKind} (d : Delivery k) : Act k := .applyDelta d.range d.timestampMs d.delta

structure Delivery.Repeats {k : PoolKind} (d d' : Delivery k) : Prop where
  range : d'.range = d.range
  timestampMs : d'.timestampMs = d.timestampMs
  delta : k.Reordered d.delta d'.delta

/-- The deltas `ds` delivered in order, with repeats of delivered ones, those of `seen` included, in
between. -/
inductive Redelivered {k : PoolKind} : List (Delivery k) → List (Delivery k) → List (Delivery k) → Prop where
  | done {seen : List (Delivery k)} : Redelivered seen [] []
  | next {seen ds es : List (Delivery k)} {d d' : Delivery k} (hd : d.Repeats d')
      (hrest : Redelivered (d :: seen) ds es) : Redelivered seen (d :: ds) (d' :: es)
  | again {seen ds es : List (Delivery k)} {d d' : Delivery k} (hseen : d ∈ seen) (hd : d.Repeats d')
      (hrest : Redelivered seen ds es) : Redelivered seen ds (d' :: es)

def Contiguous {k : PoolKind} (r : Reducer k) (a : Act k) : Prop :=
  ∃ stop, (call a r).1 = .ok (.delta (.contiguous stop))

def Harmless {k : PoolKind} (r : Reducer k) (a : Act k) : Prop :=
  (∃ c, (call a r).1 = .ok (.delta c)) ∧ (call a r).2.resyncRequired = false

section

variable {k : PoolKind} {r : Reducer k} {d d' : Delivery k} {staged : k.State}

/-- What is checked of a delta before its sequences are looked at. -/
structure Checked (r : Reducer k) (d : Delivery k) : Prop where
  unlatched : r.resyncRequired = false
  range : d.range.validate = .ok ()
  timestampMs : ensureTimestamp d.timestampMs = .ok ()
  delta : k.validateDelta d.delta = .ok ()

structure Accepts (r : Reducer k) (d : Delivery k) (staged : k.State) : Prop extends Checked r d where
  newer : r.sequence < d.range.stop
  start : d.range.start = Sequence.next r.sequence
  stage : k.stage r.bound r.state d.delta = .ok staged

/-- The delta was taken before. -/
structure Settled (r : Reducer k) (d : Delivery k) : Prop extends Checked r d where
  stop_le : d.range.stop.val ≤ r.sequence.val

lemma Checked.repeats (h : Checked r d) (hd : d.Repeats d') : Checked r d' :=
  ⟨h.unlatched, hd.range ▸ h.range, hd.timestampMs ▸ h.timestampMs, hd.delta.validate h.delta⟩

lemma Contiguous.accepts (h : Contiguous r d.act) : ∃ staged, Accepts r d staged := by
  obtain ⟨stop, h⟩ := h
  change ((Reducer.applyDelta d.range d.timestampMs d.delta >>= fun c => pure (Answer.delta c)) r).1 = _ at h
  unfold Reducer.applyDelta at h
  simp only [Call.bind_assoc, Call.read_bind] at h
  by_cases hlatch : r.resyncRequired = true
  · rw [if_pos hlatch] at h
    cases h
  · rw [if_neg hlatch] at h
    simp only [Call.bind_assoc] at h
    obtain ⟨_, hrange, h⟩ := Call.check_bind_fst h
    obtain ⟨_, htime, h⟩ := Call.check_bind_fst h
    obtain ⟨_, hdelta, h⟩ := Call.check_bind_fst h
    split_ifs at h with hstale hdup hstart
    · cases h
    · cases h
    · cases h
    · simp only [Call.bind_assoc] at h
      obtain ⟨staged, hstage, -⟩ := Call.check_bind_fst h
      exact ⟨staged, ⟨Bool.eq_false_of_not_eq_true hlatch, hrange, htime, hdelta⟩,
        Sequence.lt_of_not hstale hdup, not_not.1 hstart, hstage⟩

lemma Accepts.call_eq (h : Accepts r d staged) :
    call d.act r = (.ok (.delta (.contiguous d.range.stop)),
      { r with state := staged, sequence := d.range.stop, timestampMs := d.timestampMs }) := by
  have hnewer := Unsigned.lt_def.1 h.newer
  have hstale : ¬d.range.stop < r.sequence := fun hlt => by rw [Unsigned.lt_def] at hlt; omega
  have hdup : d.range.stop ≠ r.sequence := fun heq => by rw [heq] at hnewer; exact lt_irrefl _ hnewer
  change (Reducer.applyDelta d.range d.timestampMs d.delta >>= fun c => pure (Answer.delta c)) r = _
  simp only [Reducer.applyDelta, Call.bind_assoc, Call.read_bind, h.unlatched, h.range, h.timestampMs, h.delta,
    Call.check_ok_bind, Bool.false_eq_true, if_false, hstale, hdup, h.start, ne_eq, not_true_eq_false, h.stage]
  rfl

lemma Settled.call_eq (h : Settled r d) : ∃ c, call d.act r = (.ok (.delta c), r) := by
  change ∃ c, (Reducer.applyDelta d.range d.timestampMs d.delta >>= fun c => pure (Answer.delta c)) r = _
  simp only [Reducer.applyDelta, Call.bind_assoc, Call.read_bind, h.unlatched, h.range, h.timestampMs, h.delta,
    Call.check_ok_bind, Bool.false_eq_true, if_false]
  by_cases hstale : d.range.stop < r.sequence
  · exact ⟨_, by rw [if_pos hstale]; rfl⟩
  · have hdup : d.range.stop = r.sequence := by
      rw [Unsigned.lt_def, not_lt] at hstale
      exact Unsigned.ext (h.stop_le.antisymm hstale)
    exact ⟨_, by rw [if_neg hstale, if_pos hdup]; rfl⟩

lemma Accepts.repeats (h : Accepts r d staged) (hholds : k.Holds r.bound r.state) (hd : d.Repeats d') :
    Accepts r d' staged where
  toChecked := h.toChecked.repeats hd
  newer := hd.range ▸ h.newer
  start := hd.range ▸ h.start
  stage := hd.delta.stage hholds h.delta h.stage

lemma Settled.repeats (h : Settled r d) (hd : d.Repeats d') : Settled r d' :=
  ⟨h.toChecked.repeats hd, hd.range ▸ h.stop_le⟩

lemma Accepts.settles {seen : List (Delivery k)} (h : Accepts r d staged) (hseen : ∀ e ∈ seen, Settled r e) :
    ∀ e ∈ d :: seen,
      Settled { r with state := staged, sequence := d.range.stop, timestampMs := d.timestampMs } e := by
  intro e he
  rcases List.mem_cons.1 he with rfl | he
  · exact ⟨⟨h.unlatched, h.range, h.timestampMs, h.delta⟩, le_rfl⟩
  · obtain ⟨⟨hunlatched, hrange, htime, hdelta⟩, hle⟩ := hseen e he
    exact ⟨⟨hunlatched, hrange, htime, hdelta⟩, hle.trans (Unsigned.lt_def.1 h.newer).le⟩

/-! ### The run -/

lemma Redelivered.harmless {r₀ : Reducer k} {seen ds es : List (Delivery k)} (h : Redelivered seen ds es) :
    ∀ {r : Reducer k}, Sound r₀ r → (∀ d ∈ seen, Settled r d) →
      (machine k).Meets Contiguous r (ds.map Delivery.act) →
      (machine k).Meets Harmless r (es.map Delivery.act) ∧
        (machine k).run r (es.map Delivery.act) = (machine k).run r (ds.map Delivery.act) := by
  induction h with
  | done => exact fun _ _ _ => ⟨trivial, rfl⟩
  | @next seen ds es d d' hd hrest ih =>
    intro r hsound hseen hds
    obtain ⟨staged, haccepts⟩ := Contiguous.accepts hds.1
    have hcall := haccepts.call_eq
    have hcall' := (haccepts.repeats (PoolKind.holds hsound.valid hsound.fits) hd).call_eq
    rw [hd.range, hd.timestampMs] at hcall'
    have hnext : Sound r₀ (call d.act r).2 := hsound.outcome (call_outcome r d.act)
    have hmeets : (machine k).Meets Contiguous (call d.act r).2 (ds.map Delivery.act) := hds.2
    rw [hcall] at hnext hmeets
    obtain ⟨hharmless, hrun⟩ := ih hnext (haccepts.settles hseen) hmeets
    refine ⟨⟨⟨⟨_, by rw [hcall']⟩, by rw [hcall']; exact haccepts.unlatched⟩, ?_⟩, ?_⟩
    · change (machine k).Meets Harmless (call d'.act r).2 _
      rwa [hcall']
    · change (machine k).run (call d'.act r).2 _ = (machine k).run (call d.act r).2 _
      rwa [hcall, hcall']
  | @again seen ds es d d' hmem hd hrest ih =>
    intro r hsound hseen hds
    obtain ⟨c, hcall⟩ := ((hseen d hmem).repeats hd).call_eq
    obtain ⟨hharmless, hrun⟩ := ih hsound hseen hds
    refine ⟨⟨⟨⟨c, by rw [hcall]⟩, by rw [hcall]; exact (hseen d hmem).unlatched⟩, ?_⟩, ?_⟩
    · change (machine k).Meets Harmless (call d'.act r).2 _
      rwa [hcall]
    · change (machine k).run (call d'.act r).2 _ = _
      rwa [hcall]

end

/-- **Redelivered and reordered deltas are harmless.** -/
theorem redelivery_harmless (k : PoolKind) (poolId : PoolId) (sequence : Sequence) (timestampMs : I64)
    (state : k.State) (bound : ℕ) (r₀ : Reducer k)
    (hnew : Reducer.new k poolId sequence timestampMs state bound = .ok r₀) (acts : List (Act k))
    (ds es : List (Delivery k))
    (hds : (machine k).Meets Contiguous ((machine k).run r₀ acts) (ds.map Delivery.act))
    (hes : Redelivered [] ds es) :
    let r : Reducer k := (machine k).run r₀ acts
    (machine k).Meets Harmless r (es.map Delivery.act) ∧
      (machine k).run r (es.map Delivery.act) = (machine k).run r (ds.map Delivery.act) := by
  intro r
  have hsound : Sound r₀ r := Machine.run_invariant (M := machine k) (P := Sound r₀) (Reducer.new_eq_ok hnew).2
    fun s a hs => hs.outcome (call_outcome s a)
  exact hes.harmless hsound (fun d hd => by cases hd) hds

/-! The first delta of the sample again with its ticks reversed, and both deltas once more at the end. -/

def Sample.deliveries : List (Delivery .clmm) :=
  [⟨⟨.lit 2, .lit 3⟩, .lit 9, Sample.delta [Sample.tick 4 0, Sample.tick 2 8, Sample.tick (-2) 1]⟩,
    ⟨⟨.lit 4, .lit 4⟩, .lit 9, Sample.delta [Sample.tick 0 0]⟩]

def Sample.reversed : Delivery .clmm :=
  ⟨⟨.lit 2, .lit 3⟩, .lit 9, Sample.delta [Sample.tick (-2) 1, Sample.tick 2 8, Sample.tick 4 0]⟩

theorem redelivery_harmless_sample :
    let r₀ : Reducer .clmm := ⟨⟨.solana, "p"⟩, .lit 1, .lit 5, Sample.pool, 3, false⟩
    let es : List (Delivery .clmm) := Sample.reversed :: Sample.deliveries.flatMap fun d => [d, Sample.reversed]
    (machine .clmm).run r₀ (es.map Delivery.act) = (machine .clmm).run r₀ (Sample.deliveries.map Delivery.act) ∧
      ClmmPoolState.ticks ((machine .clmm).run r₀ (es.map Delivery.act)).state =
        [Sample.tick (-2) 1, Sample.tick 2 8] := by
  intro r₀ es
  have hreversed : Delivery.Repeats (Sample.deliveries.head (by simp [Sample.deliveries])) Sample.reversed :=
    ⟨rfl, rfl, _, (List.reverse_perm _).symm, rfl⟩
  have hsame : ∀ d : Delivery .clmm, d.Repeats d := fun d => ⟨rfl, rfl, _, .refl _, rfl⟩
  have hes : Redelivered [] Sample.deliveries es :=
    .next hreversed (.again (by simp) (hsame _) (.again (by simp [Sample.deliveries]) hreversed
      (.next (hsame _) (.again (by simp [Sample.deliveries]) hreversed .done))))
  have hrun := redelivery_harmless .clmm ⟨.solana, "p"⟩ (.lit 1) (.lit 5) Sample.pool 3 r₀ rfl []
    Sample.deliveries es ⟨⟨.lit 3, by decide +kernel⟩, ⟨.lit 4, by decide +kernel⟩, trivial⟩ hes
  exact ⟨hrun.2, by decide +kernel⟩

end PrivateExecution.PoolReducer
