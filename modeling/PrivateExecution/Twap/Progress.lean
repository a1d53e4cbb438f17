import PrivateExecution.Twap.Engine
import Mathlib.Algebra.BigOperators.Group.List.Basic

/-!
# Durable progress of a TWAP

What a store persists of a running plan (`adaptive-exec/src/progress.rs`): the plan, its state, a
status with its transition table, a version, and the ledger of the idempotency keys applied so far
with their chunks. Recording an applied key again is a no-op.
-/

namespace PrivateExecution.Twap

inductive TwapStatus where
  | pending | running | complete | halted | cancelled
deriving DecidableEq

def TwapStatus.canTransitionTo : TwapStatus → TwapStatus → Bool
  | .pending, .running | .pending, .cancelled | .running, .running | .running, .complete
  | .running, .halted | .running, .cancelled => true
  | _, _ => false

structure TwapProgress where
  planId : String
  plan : TwapPlan
  state : TwapState
  status : TwapStatus
  version : U64
  updatedAtMs : I64
  applied : List (String × AtomicAmount)

def maxAppliedProgressKeys : ℕ := 4096

inductive ProgressError where
  | emptyId | missingIdempotencyKey | invalidChunk | invalidTransition | idempotencyConflict
  | idempotencyLedgerFull | saturated
deriving DecidableEq

namespace TwapProgress

def new (planId : String) (plan : TwapPlan) : Except ProgressError TwapProgress := do
  ensure (isBlank planId = false) .emptyId
  return ⟨planId, plan, .new plan.totalInput, .pending, .lit 1, .zero, []⟩

variable (p : TwapProgress)

def transition (next : TwapStatus) (atMs : I64) : Except ProgressError TwapProgress := do
  ensure (p.status.canTransitionTo next) .invalidTransition
  let version ← okOr (p.version.checkedAdd (.lit 1)) .saturated
  return { p with status := next, version, updatedAtMs := atMs }

def start (atMs : I64) : Except ProgressError TwapProgress := p.transition .running atMs

def halt (atMs : I64) : Except ProgressError TwapProgress := p.transition .halted atMs

def chunkOf (key : String) : Option AtomicAmount :=
  (p.applied.find? fun entry => entry.1 == key).map Prod.snd

/-- Applies a slice under a key not seen before: the second half of `record_slice`. -/
def applySlice (chunk : AtomicAmount) (atMs : I64) (key : String) : Except ProgressError TwapProgress := do
  ensure (p.status = .running) .invalidTransition
  ensure (¬(chunk.isZero = true ∨ p.state.remainingInput < chunk)) .invalidChunk
  let version ← okOr (p.version.checkedAdd (.lit 1)) .saturated
  let state := p.state.record chunk atMs
  ensure (p.applied.length < maxAppliedProgressKeys) .idempotencyLedgerFull
  return { p with
    state
    status := if state.remainingInput.isZero then .complete else .running
    version
    updatedAtMs := atMs
    applied := p.applied ++ [(key, chunk)] }

def recordSlice (chunk : AtomicAmount) (atMs : I64) (key : String) : Except ProgressError TwapProgress := do
  ensure (isBlank key = false) .missingIdempotencyKey
  match p.chunkOf key with
  | some applied => if applied = chunk then .ok p else .error .idempotencyConflict
  | none => p.applySlice chunk atMs key

end TwapProgress

/-! ### The scheduler -/

/-- What the scheduler does: execute the next slice under a key, or retry the recording of an earlier
key. A key is not blank. -/
inductive Act where
  | slice (turn : Turn) (key : IdempotencyKey)
  | retry (atMs : I64) (key : IdempotencyKey)

/-- One act: the engine's chunk is recorded; a retry records the applied chunk of its key again. -/
def act (twap : AdaptiveTwap) (p : TwapProgress) : Act → Except ProgressError TwapProgress
  | .slice turn key =>
    match twap.next p.plan p.state turn.observation turn.nowMs with
    | .execute chunk _ _ _ => p.recordSlice chunk turn.atMs key.asStr
    | .complete => .ok p
    | .halt _ => p.halt turn.atMs
  | .retry atMs key =>
    match p.chunkOf key.asStr with
    | some chunk => p.recordSlice chunk atMs key.asStr
    | none => .ok p

def drive (twap : AdaptiveTwap) (p : TwapProgress) (acts : List Act) : Except ProgressError TwapProgress :=
  acts.foldlM (act twap) p

def Act.sliceKey : Act → Option String
  | .slice _ key => some key.asStr
  | .retry _ _ => none

def sliceKeys (acts : List Act) : List String := acts.filterMap Act.sliceKey

/-- The observation of the act, if it makes one, does not exceed the plan's slippage cap. -/
def Act.calm (plan : TwapPlan) : Act → Bool
  | .slice turn _ => !turn.observation.exceeds plan
  | .retry _ _ => true

/-! ### The invariant -/

/-- A plan that is on schedule after slices under `keys`: the ledger holds the first of them, and a
plan with input left has recorded all of them and has a slice left. -/
structure OnSchedule (plan : TwapPlan) (keys : List String) (p : TwapProgress) : Prop where
  plan_eq : p.plan = plan
  status_eq : p.status = if p.state.remainingInput.val = 0 then .complete else .running
  version_eq : p.version.val = 2 + p.applied.length
  slicesDone_eq : p.state.slicesDone.val = p.applied.length
  conserved : p.state.remainingInput.val + (p.applied.map fun entry => entry.2.val).sum =
    plan.totalInput.val
  length_le : p.applied.length ≤ plan.slices.val
  keys_prefix : p.applied.map Prod.fst <+: keys
  live : p.state.remainingInput.val ≠ 0 →
    p.applied.map Prod.fst = keys ∧ p.applied.length < plan.slices.val

section

variable {twap : AdaptiveTwap} {plan : TwapPlan} {keys : List String} {p : TwapProgress}

lemma TwapProgress.chunkOf_eq_none {key : String} :
    p.chunkOf key = none ↔ key ∉ p.applied.map Prod.fst := by
  simp only [chunkOf, Option.map_eq_none_iff, List.find?_eq_none, beq_iff_eq, List.mem_map, not_exists,
    not_and]

lemma OnSchedule.start {planId : String} {created : TwapProgress} (hplan : plan.Normal)
    (htotal : 0 < plan.totalInput.val) (hnew : TwapProgress.new planId plan = .ok created) (atMs : I64) :
    ∃ started, created.start atMs = .ok started ∧ OnSchedule plan [] started := by
  simp only [TwapProgress.new, ensure_ok] at hnew
  obtain ⟨-, hcreated⟩ := hnew
  cases hcreated
  refine ⟨_, rfl, ?_⟩
  have hlive : plan.totalInput.val ≠ 0 := Nat.pos_iff_ne_zero.1 htotal
  constructor
  · rfl
  · exact (if_neg hlive).symm
  · rfl
  · rfl
  · exact Nat.add_zero _
  · exact Nat.zero_le _
  · exact List.prefix_rfl
  · exact fun _ => ⟨rfl, hplan.slices_pos⟩

lemma OnSchedule.record (h : OnSchedule plan keys p) (hslices : plan.slices.val ≤ maxAppliedProgressKeys)
    (hlive : p.state.remainingInput.val ≠ 0) {chunk : AtomicAmount} (hpos : 0 < chunk.val)
    (hle : chunk.val ≤ p.state.remainingInput.val)
    (hroom : chunk.val = p.state.remainingInput.val ∨ p.applied.length + 1 < plan.slices.val)
    {key : IdempotencyKey} (hfresh : key.asStr ∉ keys) (atMs : I64) :
    ∃ p', p.recordSlice chunk atMs key.asStr = .ok p' ∧ OnSchedule plan (keys ++ [key.asStr]) p' := by
  obtain ⟨hkeys, hlength⟩ := h.live hlive
  have hunseen : p.chunkOf key.asStr = none := TwapProgress.chunkOf_eq_none.2 (hkeys ▸ hfresh)
  have hrunning : p.status = .running := h.status_eq.trans (if_neg hlive)
  have hchunk : ¬(chunk.isZero = true ∨ p.state.remainingInput < chunk) := by
    rw [Unsigned.isZero_iff, Unsigned.lt_def]
    omega
  have hledger : p.applied.length < maxAppliedProgressKeys := lt_of_lt_of_le hlength hslices
  have hbound : p.applied.length < 4096 := hledger
  obtain ⟨version, hversion, hnumber⟩ :
      ∃ v, p.version.checkedAdd (.lit 1) = some v ∧ v.val = 3 + p.applied.length := by
    have hfits : 3 + p.applied.length < 2 ^ 64 := by omega
    refine ⟨⟨_, hfits⟩, Unsigned.checkedAdd_eq_some.2 ?_, rfl⟩
    rw [Unsigned.lit_val (by norm_num), h.version_eq]
    exact Nat.add_right_comm 2 1 p.applied.length
  have hrecorded : p.recordSlice chunk atMs key.asStr = .ok { p with
      state := p.state.record chunk atMs
      status := if (p.state.record chunk atMs).remainingInput.isZero then .complete else .running
      version
      updatedAtMs := atMs
      applied := p.applied ++ [(key.asStr, chunk)] } := by
    simp only [TwapProgress.recordSlice, ensure_ok, hunseen, TwapProgress.applySlice, hversion]
    refine ⟨key.notBlank, hrunning, hchunk, ?_⟩
    exact ensure_ok.2 ⟨hledger, rfl⟩
  refine ⟨_, hrecorded, ?_⟩
  have hleft : (p.state.record chunk atMs).remainingInput.val = p.state.remainingInput.val - chunk.val := rfl
  constructor
  · exact h.plan_eq
  · simp only [Unsigned.isZero_iff]
  · rw [hnumber, List.length_append, List.length_singleton]
    omega
  · have hone : (Unsigned.lit 1 : U32).val = 1 := Unsigned.lit_val (by norm_num)
    have hfits : p.state.slicesDone.val + (Unsigned.lit 1 : U32).val < 2 ^ 32 := by
      rw [h.slicesDone_eq, hone]
      omega
    rw [TwapState.record, Unsigned.saturatingAdd_val_of_lt hfits, h.slicesDone_eq, hone,
      List.length_append, List.length_singleton]
  · have hsum := h.conserved
    simp only [hleft, List.map_append, List.sum_append, List.map_singleton, List.sum_singleton]
    omega
  · rw [List.length_append, List.length_singleton]
    exact hlength
  · simp only [List.map_append, List.map_singleton, hkeys, List.prefix_rfl]
  · intro hrest
    rw [hleft] at hrest
    rw [List.map_append, List.map_singleton, hkeys, List.length_append, List.length_singleton]
    exact ⟨rfl, hroom.resolve_left (by omega)⟩

lemma OnSchedule.extend (h : OnSchedule plan keys p) (hdone : p.state.remainingInput.val = 0)
    (more : List String) : OnSchedule plan (keys ++ more) p :=
  { h with
    keys_prefix := h.keys_prefix.trans (List.prefix_append _ _)
    live := fun hlive => absurd hdone hlive }

lemma OnSchedule.slicesLeft_le (h : OnSchedule plan keys p)
    (hlast : plan.slices.val ≤ p.applied.length + 1) :
    (slicesLeft plan p.state).val ≤ 1 := by
  rw [slicesLeft, Unsigned.val_max, Unsigned.val_saturatingSub, h.slicesDone_eq,
    Unsigned.lit_val (by norm_num)]
  omega

variable (twap) in
lemma OnSchedule.slice (h : OnSchedule plan keys p) (hplan : plan.Normal)
    (hslices : plan.slices.val ≤ maxAppliedProgressKeys) {turn : Turn} {key : IdempotencyKey}
    (hcalm : turn.observation.exceeds plan = false) (hfresh : key.asStr ∉ keys) :
    ∃ p', act twap p (.slice turn key) = .ok p' ∧ OnSchedule plan (keys ++ [key.asStr]) p' := by
  have heq := h.plan_eq
  by_cases hdone : p.state.remainingInput.val = 0
  · refine ⟨p, ?_, h.extend hdone _⟩
    simp only [act, AdaptiveTwap.next_complete hdone]
  · obtain ⟨proposed, why, nextAtMs, hnext⟩ :=
      AdaptiveTwap.next_of_live twap turn.nowMs hdone hcalm
    have hroom : (finalChunk plan p.state proposed why).1.val = p.state.remainingInput.val ∨
        p.applied.length + 1 < plan.slices.val := by
      rcases Nat.lt_or_ge (p.applied.length + 1) plan.slices.val with hmore | hlast
      · exact .inr hmore
      · exact .inl (finalChunk_last hplan hdone (h.slicesLeft_le hlast))
    simp only [act, heq, hnext]
    exact h.record hslices hdone (finalChunk_pos hplan hdone) (finalChunk_le hplan hdone) hroom hfresh _

lemma act_retry (atMs : I64) (key : IdempotencyKey) : act twap p (.retry atMs key) = .ok p := by
  cases hseen : p.chunkOf key.asStr with
  | none => simp only [act, hseen]
  | some chunk =>
    simp only [act, hseen, TwapProgress.recordSlice, ensure_ok, if_true, and_true]
    exact key.notBlank

variable (twap) in
lemma OnSchedule.drive (hplan : plan.Normal) (hslices : plan.slices.val ≤ maxAppliedProgressKeys)
    {acts : List Act} (h : OnSchedule plan keys p) (hcalm : ∀ a ∈ acts, a.calm plan = true)
    (hfresh : (keys ++ sliceKeys acts).Nodup) :
    ∃ p', Twap.drive twap p acts = .ok p' ∧ OnSchedule plan (keys ++ sliceKeys acts) p' := by
  induction acts generalizing keys p with
  | nil => exact ⟨p, rfl, (List.append_nil keys).symm ▸ h⟩
  | cons a acts ih =>
    have hrest : ∀ b ∈ acts, b.calm plan = true := fun b hb => hcalm b (List.mem_cons_of_mem _ hb)
    cases a with
    | slice turn key =>
      have hassoc : keys ++ sliceKeys (.slice turn key :: acts) = (keys ++ [key.asStr]) ++ sliceKeys acts :=
        (List.append_assoc keys [key.asStr] (sliceKeys acts)).symm
      rw [hassoc] at hfresh ⊢
      have hnew : key.asStr ∉ keys := by
        have hnodup := (List.nodup_append.1 hfresh).1
        exact fun hmem => (List.nodup_append.1 hnodup).2.2 _ hmem _ (List.mem_singleton_self _) rfl
      have hquiet : turn.observation.exceeds plan = false := by
        simpa [Act.calm] using hcalm _ (List.mem_cons_self ..)
      obtain ⟨p₁, hact, h₁⟩ := h.slice twap hplan hslices hquiet hnew
      obtain ⟨p₂, hdrive, h₂⟩ := ih h₁ hrest hfresh
      exact ⟨p₂, by rw [Twap.drive, List.foldlM_cons, hact]; exact hdrive, h₂⟩
    | retry atMs key =>
      obtain ⟨p₁, hdrive, h₁⟩ := ih h hrest hfresh
      exact ⟨p₁, by rw [Twap.drive, List.foldlM_cons, act_retry]; exact hdrive, h₁⟩

end

/-- **An adaptive TWAP executes exactly its total in at most its number of slices.** -/
theorem twap_executes_total (twap : AdaptiveTwap) (totalInput : AtomicAmount) (slices : U32)
    (minChunk maxChunk : AtomicAmount) (durationMs fallbackIntervalMs : I64) (maxSlippageBps : U16)
    (htotal : 0 < totalInput.val) (hslices : slices.val ≤ 4096) (planId : String) (created : TwapProgress)
    (hnew : TwapProgress.new planId (.new totalInput slices minChunk maxChunk durationMs fallbackIntervalMs
      maxSlippageBps) = .ok created)
    (startMs : I64) (acts : List Act) (hfresh : (sliceKeys acts).Nodup)
    (hcalm : ∀ a ∈ acts, a.calm (.new totalInput slices minChunk maxChunk durationMs fallbackIntervalMs
      maxSlippageBps) = true) :
    let plan := TwapPlan.new totalInput slices minChunk maxChunk durationMs fallbackIntervalMs maxSlippageBps
    ∃ p, (created.start startMs >>= fun started => drive twap started acts) = .ok p ∧
      p.state.remainingInput.val + (p.applied.map fun entry => entry.2.val).sum = totalInput.val ∧
      (p.applied.map Prod.fst).Nodup ∧ p.applied.map Prod.fst <+: sliceKeys acts ∧
      p.applied.length ≤ plan.slices.val ∧
      (plan.slices.val ≤ (sliceKeys acts).length → p.status = .complete) ∧
      (p.status = .complete ↔ p.state.remainingInput.val = 0) ∧
      ∀ o nowMs chunk after nextAtMs reason,
        twap.next plan p.state o nowMs = .execute chunk after nextAtMs reason →
          0 < chunk.val ∧ chunk.val ≤ p.state.remainingInput.val := by
  intro plan
  have hplan : plan.Normal := TwapPlan.new_normal
  have hledger : plan.slices.val ≤ maxAppliedProgressKeys := by
    rw [TwapPlan.new_slices, maxAppliedProgressKeys]
    omega
  obtain ⟨started, hstart, hbegun⟩ := OnSchedule.start hplan htotal hnew startMs
  obtain ⟨p, hdrive, h⟩ := hbegun.drive twap hplan hledger hcalm hfresh
  have hstatus : p.status = .complete ↔ p.state.remainingInput.val = 0 := by
    rw [h.status_eq]
    split_ifs with hdone <;> simp [hdone]
  refine ⟨p, by rw [hstart]; exact hdrive, h.conserved, hfresh.sublist h.keys_prefix.sublist, h.keys_prefix,
    h.length_le, ?_, hstatus, fun o nowMs chunk after nextAtMs reason hnext =>
      AdaptiveTwap.next_covered hplan hnext⟩
  intro hasked
  by_contra hrunning
  obtain ⟨hkeys, hlength⟩ := h.live (mt hstatus.2 hrunning)
  rw [← List.length_map Prod.fst, hkeys] at hlength
  exact absurd hasked (Nat.not_le.2 hlength)

section

/-- Three slices of an input of 100, accelerated once, with a retry in between. -/
def Sample.acts : List Act :=
  let seen : MarketObservation := ⟨.zero, some (.lit 10), some 600, none⟩
  [.slice ⟨seen, .lit 1000, .lit 1000⟩ (.lit "a"), .retry (.lit 1500) (.lit "a"),
    .slice ⟨⟨.zero, none, none, none⟩, .lit 2000, .lit 2000⟩ (.lit "b"),
    .slice ⟨seen, .lit 3000, .lit 3000⟩ (.lit "c")]

def Sample.plan : TwapPlan := .new (.lit 100) (.lit 3) (.lit 5) (.lit 50) (.lit 3000) (.lit 1000) (.lit 100)

/-- The plan is executed in slices of 50, 25 and 25. -/
theorem twap_sample_completes : ∃ p,
    ((⟨"plan", Sample.plan, .new (.lit 100), .pending, .lit 1, .zero, []⟩ : TwapProgress).start .zero >>=
      fun started => drive ⟨.defaultPolicy⟩ started Sample.acts) = .ok p ∧ p.status = .complete := by
  obtain ⟨p, hrun, -, -, -, -, hcomplete, -⟩ := twap_executes_total ⟨.defaultPolicy⟩ (.lit 100) (.lit 3)
    (.lit 5) (.lit 50) (.lit 3000) (.lit 1000) (.lit 100) (by decide +kernel) (by decide +kernel) "plan" _ rfl
    .zero Sample.acts (by decide +kernel) (by decide +kernel)
  exact ⟨p, hrun, hcomplete (by decide +kernel)⟩

end

end PrivateExecution.Twap
