import PrivateExecution.Domain.Saturating
import PrivateExecution.Async.Machine

/-!
# The adaptive TWAP engine

A large order is executed in slices (`adaptive-exec/src/plan.rs`, `engine.rs`). `AdaptiveTwap.next`
looks at the plan, at what is left of it and at a market observation, and answers with the next chunk,
with completion, or with a halt when the realised slippage exceeds the caller's cap.
-/

namespace PrivateExecution.Twap

/-! ### Plan, state, observation, policy -/

structure TwapPlan where
  totalInput : AtomicAmount
  slices : U32
  minChunk : AtomicAmount
  maxChunk : AtomicAmount
  durationMs : I64
  fallbackIntervalMs : I64
  maxSlippageBps : U16

def TwapPlan.new (totalInput : AtomicAmount) (slices : U32) (minChunk maxChunk : AtomicAmount)
    (durationMs fallbackIntervalMs : I64) (maxSlippageBps : U16) : TwapPlan :=
  let min := max minChunk (.lit 1)
  { totalInput
    slices := max slices (.lit 1)
    minChunk := min
    maxChunk := max maxChunk min
    durationMs := max durationMs .zero
    fallbackIntervalMs := max fallbackIntervalMs .zero
    maxSlippageBps }

/-- What `TwapPlan::new` guarantees of its bounds. -/
structure TwapPlan.Normal (plan : TwapPlan) : Prop where
  slices_pos : 1 ≤ plan.slices.val
  min_pos : 1 ≤ plan.minChunk.val
  min_le_max : plan.minChunk.val ≤ plan.maxChunk.val

section

variable {totalInput minChunk maxChunk : AtomicAmount} {slices : U32}
  {durationMs fallbackIntervalMs : I64} {maxSlippageBps : U16}

lemma TwapPlan.new_slices :
    (new totalInput slices minChunk maxChunk durationMs fallbackIntervalMs maxSlippageBps).slices.val =
      max slices.val 1 := by
  rw [new, Unsigned.val_max, Unsigned.lit_val (by norm_num)]

lemma TwapPlan.new_normal :
    (new totalInput slices minChunk maxChunk durationMs fallbackIntervalMs maxSlippageBps).Normal := by
  have hone : (Unsigned.lit 1 : U128).val = 1 := Unsigned.lit_val (by norm_num)
  constructor
  · rw [new_slices]
    exact le_max_right _ _
  · rw [new, Unsigned.val_max, hone]
    exact le_max_right _ _
  · simp only [new, Unsigned.val_max]
    exact le_max_right _ _

end

structure TwapState where
  remainingInput : AtomicAmount
  slicesDone : U32
  lastChunkAtMs : Option I64
  lastChunk : Option AtomicAmount

def TwapState.new (totalInput : AtomicAmount) : TwapState := ⟨totalInput, .zero, none, none⟩

def TwapState.record (s : TwapState) (chunk : AtomicAmount) (atMs : I64) : TwapState :=
  ⟨s.remainingInput.saturatingSub chunk, s.slicesDone.saturatingAdd (.lit 1), some atMs, some chunk⟩

structure MarketObservation where
  observedAtMs : I64
  lastSlippageBps : Option U16
  liquidityRecoveryBps : Option ℤ
  volatilityBps : Option U16

variable (o : MarketObservation) (twap : AdaptiveTwap) (plan : TwapPlan) (state : TwapState)

def MarketObservation.isEmpty : Bool :=
  o.lastSlippageBps.isNone && o.liquidityRecoveryBps.isNone && o.volatilityBps.isNone

def MarketObservation.isStale (nowMs maxAgeMs : I64) : Bool :=
  decide (maxAgeMs < nowMs.saturatingSub o.observedAtMs)

/-- The realised slippage is above the caller's hard maximum. -/
def MarketObservation.exceeds : Bool :=
  o.lastSlippageBps.any fun slippage => decide (plan.maxSlippageBps < slippage)

structure TwapPolicy where
  accelerateRecoveryBps : ℤ
  decelerateRecoveryBps : ℤ
  highVolatilityBps : U16
  highSlippageFractionOfCapBps : U16
  observationStaleMs : I64

def TwapPolicy.defaultPolicy : TwapPolicy := ⟨500, -500, .lit 300, .lit 5000, .lit 30000⟩

/-! ### One decision -/

inductive ChunkReason where
  | schedule | accelerated | slowed | final | fallbackCron
deriving DecidableEq

inductive HaltReason where
  | slippageExceeded
deriving DecidableEq

inductive TwapDecision where
  | execute (chunk remainingAfter : AtomicAmount) (nextAtMs : I64) (reason : ChunkReason)
  | complete
  | halt (reason : HaltReason)
deriving DecidableEq

structure AdaptiveTwap where
  policy : TwapPolicy

/-- The slices left, at least one: `plan.slices.saturating_sub(state.slices_done).max(1)`. -/
def slicesLeft : U32 :=
  max (plan.slices.saturatingSub state.slicesDone) (.lit 1)

def slippageNearCap (policy : TwapPolicy) (plan : TwapPlan) (o : MarketObservation) : Bool :=
  decide (0 < plan.maxSlippageBps.val) && o.lastSlippageBps.any fun slippage =>
    decide (plan.maxSlippageBps.val * policy.highSlippageFractionOfCapBps.val ≤ slippage.val * 10000)

/-- The chunk, reason and interval the schedule proposes, before the final slice and the bounds are
looked at: the middle part of `next`. -/
def AdaptiveTwap.propose (o : MarketObservation) (nowMs : I64) : AtomicAmount × ChunkReason × I64 :=
  let base := max (state.remainingInput.divBy (slicesLeft plan state).val) (.lit 1)
  if o.isEmpty || o.isStale nowMs twap.policy.observationStaleMs then
    (base, .fallbackCron, max plan.fallbackIntervalMs .zero)
  else
    let baseInterval := plan.durationMs.divBy (max plan.slices (.lit 1)).val
    let volatilityHigh := o.volatilityBps.any fun v => decide (twap.policy.highVolatilityBps ≤ v)
    let recoveryLow := o.liquidityRecoveryBps.any fun r => decide (r ≤ twap.policy.decelerateRecoveryBps)
    let recoveryHigh := o.liquidityRecoveryBps.any fun r => decide (twap.policy.accelerateRecoveryBps ≤ r)
    if volatilityHigh || recoveryLow || slippageNearCap twap.policy plan o then
      (max (base.divBy 2) (.lit 1), .slowed, baseInterval.saturatingMul (.lit 2))
    else if recoveryHigh then
      (base.saturatingMul (.lit 2), .accelerated, max (baseInterval.divBy 2) .zero)
    else (base, .schedule, baseInterval)

/-- The chunk and reason executed when the schedule proposes `chunk`: the last part of `next`. -/
def finalChunk (chunk : AtomicAmount) (reason : ChunkReason) : AtomicAmount × ChunkReason :=
  let remaining := state.remainingInput
  let lo := max plan.minChunk (.lit 1)
  let hi := max plan.maxChunk lo
  let decided :=
    if (slicesLeft plan state).val ≤ 1 ∨ remaining ≤ lo then (remaining, .final)
    else
      let clamped := min (max (min chunk hi) lo) remaining
      if remaining ≤ clamped then (remaining, .final) else (clamped, reason)
  if decided.1.isZero then (min remaining lo, decided.2) else decided

def AdaptiveTwap.next (o : MarketObservation) (nowMs : I64) : TwapDecision :=
  if state.remainingInput.isZero then .complete
  else if o.exceeds plan then .halt .slippageExceeded
  else
    let (proposed, why, interval) := twap.propose plan state o nowMs
    let (chunk, reason) := finalChunk plan state proposed why
    .execute chunk (state.remainingInput.saturatingSub chunk)
      (nowMs.saturatingAdd (max interval .zero)) reason

/-! ### The size of a chunk -/

section

variable {plan : TwapPlan} {state : TwapState} {proposed : AtomicAmount} {why : ChunkReason}

variable (hplan : plan.Normal) (hlive : state.remainingInput.val ≠ 0)

include hplan hlive

/-- The chunk as a number: the bounds of a normal plan need no repair, and a chunk is never zero, so
the two defensive branches of the source change nothing. -/
lemma finalChunk_val : (finalChunk plan state proposed why).1.val =
      if (slicesLeft plan state).val ≤ 1 ∨ state.remainingInput.val ≤ plan.minChunk.val then
        state.remainingInput.val
      else min (max (min proposed.val plan.maxChunk.val) plan.minChunk.val) state.remainingInput.val := by
  have hmin := hplan.min_pos
  have hmax := hplan.min_le_max
  have hlo : (max plan.minChunk (.lit 1)).val = plan.minChunk.val := by
    rw [Unsigned.val_max, Unsigned.lit_val (by norm_num), max_eq_left hmin]
  have hhi : (max plan.maxChunk (max plan.minChunk (.lit 1))).val = plan.maxChunk.val := by
    rw [Unsigned.val_max, hlo, max_eq_left hmax]
  simp only [finalChunk]
  generalize max plan.maxChunk (max plan.minChunk (.lit 1)) = hi at hhi
  generalize max plan.minChunk (.lit 1) = lo at hlo
  have hclamped : (min (max (min proposed hi) lo) state.remainingInput).val =
      min (max (min proposed.val plan.maxChunk.val) plan.minChunk.val) state.remainingInput.val := by
    rw [Unsigned.val_min, Unsigned.val_max, Unsigned.val_min, hhi, hlo]
  simp only [Unsigned.le_def, hlo, hclamped, Unsigned.isZero_iff]
  split_ifs with hlast hcovered hzero
  · rfl
  · exact le_antisymm hcovered (min_le_right _ _)
  · simp only [hclamped] at hzero
    omega
  · exact hclamped

lemma finalChunk_pos : 0 < (finalChunk plan state proposed why).1.val := by
  have hmin := hplan.min_pos
  rw [finalChunk_val hplan hlive]
  split_ifs <;> omega

lemma finalChunk_le : (finalChunk plan state proposed why).1.val ≤ state.remainingInput.val := by
  rw [finalChunk_val hplan hlive]
  split_ifs
  · exact le_rfl
  · exact min_le_right _ _

lemma finalChunk_last (hlast : (slicesLeft plan state).val ≤ 1) :
    (finalChunk plan state proposed why).1.val = state.remainingInput.val := by
  rw [finalChunk_val hplan hlive, if_pos (.inl hlast)]

lemma finalChunk_min (hsmall : (finalChunk plan state proposed why).1.val < plan.minChunk.val) :
    (finalChunk plan state proposed why).1.val = state.remainingInput.val := by
  rw [finalChunk_val hplan hlive] at hsmall ⊢
  split_ifs at hsmall ⊢ <;> omega

lemma finalChunk_max : (finalChunk plan state proposed why).1.val ≤ plan.maxChunk.val ↔
      1 < (slicesLeft plan state).val ∨ state.remainingInput.val ≤ plan.maxChunk.val := by
  have hmax := hplan.min_le_max
  rw [finalChunk_val hplan hlive]
  split_ifs <;> omega

end

section

variable {twap : AdaptiveTwap} {plan : TwapPlan} {state : TwapState} {o : MarketObservation} {nowMs : I64}

lemma AdaptiveTwap.next_complete (hdone : state.remainingInput.val = 0) :
    twap.next plan state o nowMs = .complete := by
  rw [next, if_pos (Unsigned.isZero_iff.2 hdone)]

variable (twap nowMs) in
lemma AdaptiveTwap.next_of_live (hlive : state.remainingInput.val ≠ 0) (hcalm : o.exceeds plan = false) :
    ∃ proposed why nextAtMs, twap.next plan state o nowMs =
      .execute (finalChunk plan state proposed why).1
        (state.remainingInput.saturatingSub (finalChunk plan state proposed why).1) nextAtMs
        (finalChunk plan state proposed why).2 := by
  rw [next, if_neg (mt Unsigned.isZero_iff.1 hlive), if_neg (by simp [hcalm])]
  exact ⟨_, _, _, rfl⟩

lemma AdaptiveTwap.next_execute {chunk after : AtomicAmount} {nextAtMs : I64} {reason : ChunkReason}
    (h : twap.next plan state o nowMs = .execute chunk after nextAtMs reason) :
    state.remainingInput.val ≠ 0 ∧ o.exceeds plan = false ∧
      ∃ proposed why, chunk = (finalChunk plan state proposed why).1 := by
  unfold next at h
  split_ifs at h with hdone hexceeds
  injection h with hchunk
  exact ⟨mt Unsigned.isZero_iff.2 hdone, Bool.eq_false_of_not_eq_true hexceeds, _, _, hchunk.symm⟩

lemma AdaptiveTwap.next_covered (hplan : plan.Normal) {chunk after : AtomicAmount} {nextAtMs : I64}
    {reason : ChunkReason} (h : twap.next plan state o nowMs = .execute chunk after nextAtMs reason) :
    0 < chunk.val ∧ chunk.val ≤ state.remainingInput.val := by
  obtain ⟨hlive, -, proposed, why, rfl⟩ := next_execute h
  exact ⟨finalChunk_pos hplan hlive, finalChunk_le hplan hlive⟩

/-- The bounds the plan states, for one decision. -/
def AdaptiveTwap.WithinBounds (twap : AdaptiveTwap) (plan : TwapPlan) (state : TwapState)
    (o : MarketObservation) (nowMs : I64) : Prop :=
  ∀ chunk after nextAtMs reason, twap.next plan state o nowMs = .execute chunk after nextAtMs reason →
    chunk ≤ plan.maxChunk ∧ (chunk < plan.minChunk → chunk = state.remainingInput)

lemma AdaptiveTwap.withinBounds_iff (hplan : plan.Normal) : twap.WithinBounds plan state o nowMs ↔
      o.exceeds plan = true ∨ 1 < (slicesLeft plan state).val ∨ state.remainingInput ≤ plan.maxChunk := by
  constructor
  · intro hwithin
    by_cases hdone : state.remainingInput.val = 0
    · exact .inr (.inr (by rw [Unsigned.le_def, hdone]; exact Nat.zero_le _))
    · rcases Bool.eq_false_or_eq_true (o.exceeds plan) with hexceeds | hcalm
      · exact .inl hexceeds
      · obtain ⟨proposed, why, nextAtMs, hnext⟩ := next_of_live twap nowMs hdone hcalm
        exact .inr ((finalChunk_max hplan hdone).1 (hwithin _ _ _ _ hnext).1)
  · intro hcond chunk after nextAtMs reason hnext
    obtain ⟨hlive, hcalm, proposed, why, rfl⟩ := next_execute hnext
    have hroom := hcond.resolve_left (by rw [hcalm]; exact Bool.false_ne_true)
    exact ⟨(finalChunk_max hplan hlive).2 hroom,
      fun hsmall => Unsigned.ext (finalChunk_min hplan hlive hsmall)⟩

end

/-! ### Runs of a plan -/

/-- One turn of the scheduler: what is observed, the time of the decision and of the execution. -/
structure Turn where
  observation : MarketObservation
  nowMs : I64
  atMs : I64

abbrev schedule : Async.Machine Turn fun _ => TwapDecision where
  State := TwapState
  step state turn :=
    let decision := twap.next plan state turn.observation turn.nowMs
    match decision with
    | .execute chunk _ _ _ => (decision, state.record chunk turn.atMs)
    | .complete | .halt _ => (decision, state)

/-- **A chunk respects the bounds of its plan exactly if it is not the last slice of a plan with more
than `max_chunk` left** (or if the observation halts the plan, which emits no chunk). -/
theorem chunk_within_bounds (twap : AdaptiveTwap) (totalInput : AtomicAmount) (slices : U32)
    (minChunk maxChunk : AtomicAmount) (durationMs fallbackIntervalMs : I64) (maxSlippageBps : U16)
    (turns : List Turn) (o : MarketObservation) (nowMs : I64) :
    let plan := TwapPlan.new totalInput slices minChunk maxChunk durationMs fallbackIntervalMs maxSlippageBps
    let state : TwapState := (schedule twap plan).run (.new plan.totalInput) turns
    twap.WithinBounds plan state o nowMs ↔
      o.exceeds plan = true ∨ 1 < (slicesLeft plan state).val ∨ state.remainingInput ≤ plan.maxChunk :=
  AdaptiveTwap.withinBounds_iff TwapPlan.new_normal

/-- Three slices of at most 10 for an input of 300: after two slices of 10 the engine executes 280. -/
theorem last_slice_exceeds_max :
    let plan := TwapPlan.new (.lit 300) (.lit 3) (.lit 1) (.lit 10) (.lit 3000) (.lit 1000) (.lit 100)
    let twap : AdaptiveTwap := ⟨.defaultPolicy⟩
    let o : MarketObservation := ⟨.zero, none, none, none⟩
    let state : TwapState := (schedule twap plan).run (.new plan.totalInput)
      [⟨o, .zero, .zero⟩, ⟨o, .lit 1000, .lit 1000⟩]
    twap.next plan state o (.lit 2000) = .execute (.lit 280) .zero (.lit 3000) .final ∧
      ¬ twap.WithinBounds plan state o (.lit 2000) := by
  refine ⟨by decide +kernel, fun hwithin => ?_⟩
  have hchunk := hwithin (.lit 280) .zero (.lit 3000) .final (by decide +kernel)
  exact absurd hchunk.1 (by decide +kernel)

end PrivateExecution.Twap
