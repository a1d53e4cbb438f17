import PrivateExecution.Market.Sequence
import PrivateExecution.Collections.Ladder
import PrivateExecution.Async.Call
import PrivateExecution.Async.Machine

/-!
# Pool reducers

A reducer keeps the state of one pool up to date from a sequenced stream of snapshots and deltas
(`market-types/src/pool.rs`). There are three of them, for the three kinds of pools, and they differ in
what a state and a delta are, in how a delta is staged (`CpmmPoolDelta.stage` and its siblings) and in
what is checked of a state besides `validate`; everything else is one reducer over the kind
(`Reducer k`).
-/

namespace PrivateExecution.PoolReducer

open Async

/-! ### Deltas -/

def maxClmmDeltaTicks : ℕ := 1000
def maxBinDeltaBins : ℕ := 1000

structure CpmmPoolDelta where
  reserve0 : Option AtomicAmount
  reserve1 : Option AtomicAmount
  totalLpSupply : Option AtomicAmount
  feeBps : Option Bps

/-- A `Bps` is in range by construction, which is all that is checked. -/
def CpmmPoolDelta.validate (_ : CpmmPoolDelta) : Except MarketTypeError Unit := .ok ()

structure ClmmPoolDelta where
  currentTick : Option ℤ
  sqrtPriceX64 : Option U128
  liquidity : Option U128
  feeBps : Option Bps
  ticks : List ClmmTick

def validateDeltaTicks : List ClmmTick → Except MarketTypeError Unit
  | [] => .ok ()
  | tick :: rest => do
    ensure (minTick ≤ tick.index ∧ tick.index ≤ maxTick) (.tickOutOfRange tick.index minTick maxTick)
    ensure (tick.liquidityNet.natAbs ≤ tick.liquidityGross.val) (.invalidTickLiquidity tick.index)
    ensure (¬(tick.liquidityGross.val = 0 ∧ tick.liquidityNet ≠ 0)) (.invalidTickLiquidity tick.index)
    ensure ((rest.any fun other => tick.index = other.index) = false) (.duplicateClmmTick tick.index)
    validateDeltaTicks rest

def ClmmPoolDelta.validate (d : ClmmPoolDelta) : Except MarketTypeError Unit := do
  d.currentTick.forM fun tick =>
    ensure (minTick ≤ tick ∧ tick ≤ maxTick) (.tickOutOfRange tick minTick maxTick)
  d.sqrtPriceX64.forM fun sqrt => ensure (sqrt.val ≠ 0) .zeroPrice
  ensure (d.ticks.length ≤ maxClmmDeltaTicks) (.clmmTicksExceeded d.ticks.length maxClmmDeltaTicks)
  validateDeltaTicks d.ticks

structure BinPoolDelta where
  activeBinId : Option ℤ
  binStep : Option ℕ
  feeBps : Option Bps
  bins : List LiquidityBin

def validateDeltaBins : List LiquidityBin → Except MarketTypeError Unit
  | [] => .ok ()
  | bin :: rest => do
    ensure (minBinId ≤ bin.id ∧ bin.id ≤ maxBinId) (.binOutOfRange bin.id minBinId maxBinId)
    ensure ((rest.any fun other => bin.id = other.id) = false) (.duplicateBin bin.id)
    validateDeltaBins rest

def BinPoolDelta.validate (d : BinPoolDelta) : Except MarketTypeError Unit := do
  d.activeBinId.forM fun id =>
    ensure (minBinId ≤ id ∧ id ≤ maxBinId) (.binOutOfRange id minBinId maxBinId)
  d.binStep.forM fun step => ensure (step ≠ 0 ∧ step ≤ maxBinStepBps) (.invalidBinStep step)
  ensure (d.bins.length ≤ maxBinDeltaBins) (.binsExceeded d.bins.length maxBinDeltaBins)
  validateDeltaBins d.bins

/-! ### Staging a delta -/

def CpmmPoolDelta.stage (d : CpmmPoolDelta) (held : CpmmPoolState) :
    Except MarketTypeError CpmmPoolState := do
  d.reserve0.forM fun r => ensure (r.val ≠ 0) .zeroAmount
  d.reserve1.forM fun r => ensure (r.val ≠ 0) .zeroAmount
  let staged := { held with
    reserve0 := d.reserve0.getD held.reserve0
    reserve1 := d.reserve1.getD held.reserve1
    totalLpSupply := d.totalLpSupply.or held.totalLpSupply
    feeBps := d.feeBps.getD held.feeBps }
  ensure (staged.reserve0.val ≠ 0 ∧ staged.reserve1.val ≠ 0) .zeroAmount
  staged.validate
  return staged

/-- The tick list after the updates of a delta: a tick without gross liquidity is removed. -/
def editTicks (ticks updates : List ClmmTick) : List ClmmTick :=
  updates.foldl (Ladder.edit ClmmTick.index (fun t => t.liquidityGross.isZero) fun update _ => update) ticks

def ClmmPoolDelta.stage (d : ClmmPoolDelta) (maxTicks : ℕ) (held : ClmmPoolState) :
    Except MarketTypeError ClmmPoolState := do
  d.ticks.forM fun tick =>
    ensure (tick.index.tmod held.tickSpacing.asI32 = 0) (.tickSpacingMismatch tick.index held.tickSpacing.val)
  d.sqrtPriceX64.forM fun sqrt => ensure (sqrt.val ≠ 0) .zeroPrice
  let staged := { held with
    currentTick := d.currentTick.getD held.currentTick
    sqrtPriceX64 := d.sqrtPriceX64.getD held.sqrtPriceX64
    liquidity := d.liquidity.getD held.liquidity
    feeBps := d.feeBps.getD held.feeBps
    ticks := editTicks held.ticks d.ticks }
  ensure (staged.ticks.length ≤ maxTicks) (.clmmTicksExceeded staged.ticks.length maxTicks)
  staged.validate
  return staged

/-- The bin list after the updates of a delta: an empty bin is removed. -/
def editBins (bins updates : List LiquidityBin) : List LiquidityBin :=
  updates.foldl (Ladder.edit LiquidityBin.id (fun b => b.reserve0.isZero && b.reserve1.isZero)
    fun update _ => update) bins

def BinPoolDelta.stage (d : BinPoolDelta) (maxBins : ℕ) (held : BinPoolState) :
    Except MarketTypeError BinPoolState := do
  let staged := { held with
    activeBinId := d.activeBinId.getD held.activeBinId
    binStep := d.binStep.getD held.binStep
    feeBps := d.feeBps.getD held.feeBps
    bins := editBins held.bins d.bins }
  ensure (staged.bins.length ≤ maxBins) (.binsExceeded staged.bins.length maxBins)
  staged.validate
  return staged

/-! ### The kinds of pools -/

inductive PoolKind where
  | cpmm | clmm | bin
deriving DecidableEq

namespace PoolKind

def str : PoolKind → String
  | cpmm => "cpmm"
  | clmm => "clmm"
  | bin => "bin"

def State : PoolKind → Type
  | cpmm => CpmmPoolState
  | clmm => ClmmPoolState
  | bin => BinPoolState

def Delta : PoolKind → Type
  | cpmm => CpmmPoolDelta
  | clmm => ClmmPoolDelta
  | bin => BinPoolDelta

def wrap : (k : PoolKind) → k.State → PoolKindState
  | cpmm => .cpmm
  | clmm => .clmm
  | bin => .bin

def validate (k : PoolKind) (s : k.State) : Except MarketTypeError Unit := (k.wrap s).validate

def validateDelta : (k : PoolKind) → k.Delta → Except MarketTypeError Unit
  | cpmm => CpmmPoolDelta.validate
  | clmm => ClmmPoolDelta.validate
  | bin => BinPoolDelta.validate

/-- What the constructor checks of the configured maximum, which a CPMM reducer does not have. -/
def ensureBound : PoolKind → ℕ → Except MarketTypeError Unit
  | cpmm, _ => .ok ()
  | clmm, bound => ensure (bound ≠ 0 ∧ bound ≤ maxClmmTicks) (.clmmTicksExceeded bound maxClmmTicks)
  | bin, bound => ensure (bound ≠ 0 ∧ bound ≤ maxBinCount) (.binsExceeded bound maxBinCount)

/-- What is checked of a state besides `validate`. -/
def ensureFits : (k : PoolKind) → ℕ → k.State → Except MarketTypeError Unit
  | cpmm, _, (s : CpmmPoolState) => ensure (s.reserve0.val ≠ 0 ∧ s.reserve1.val ≠ 0) .zeroAmount
  | clmm, bound, (s : ClmmPoolState) => do
    ensure (s.sqrtPriceX64.val ≠ 0) .zeroPrice
    ensure (s.ticks.length ≤ bound) (.clmmTicksExceeded s.ticks.length bound)
  | bin, bound, (s : BinPoolState) =>
    ensure (s.bins.length ≤ bound) (.binsExceeded s.bins.length bound)

def tickSpacing : (k : PoolKind) → k.State → Option U32
  | clmm, (s : ClmmPoolState) => some s.tickSpacing
  | cpmm, _ | bin, _ => none

def stage : (k : PoolKind) → ℕ → k.State → k.Delta → Except MarketTypeError k.State
  | cpmm, _, held, d => CpmmPoolDelta.stage d held
  | clmm, bound, held, d => ClmmPoolDelta.stage d bound held
  | bin, bound, held, d => BinPoolDelta.stage d bound held

end PoolKind

/-! ### The reducer -/

/-- A reducer of a kind: `CpmmPoolReducer`, `ClmmPoolReducer` with `max_ticks` as its bound,
`BinPoolReducer` with `max_bins`. -/
structure Reducer (k : PoolKind) where
  poolId : PoolId
  sequence : Sequence
  timestampMs : I64
  state : k.State
  bound : ℕ
  resyncRequired : Bool

def ensureTimestamp (timestampMs : I64) : Except MarketTypeError Unit :=
  ensure (¬timestampMs.val ≤ 0) (.invalidTimestamp timestampMs.val)

/-- The envelope of a delta; the typed envelopes of the kinds are this one with a delta of the kind. -/
structure PoolDeltaEnvelope where
  poolId : PoolId
  sequenceRange : SequenceRange
  observedAtMs : I64
  kind : PoolKind
  delta : kind.Delta

def PoolDeltaEnvelope.validate (e : PoolDeltaEnvelope) : Except MarketTypeError Unit := do
  e.poolId.validate
  e.sequenceRange.validate
  ensureTimestamp e.observedAtMs
  e.kind.validateDelta e.delta

def kindOf : PoolKindState → Σ k : PoolKind, k.State
  | .cpmm s => ⟨.cpmm, s⟩
  | .clmm s => ⟨.clmm, s⟩
  | .bin s => ⟨.bin, s⟩

namespace Reducer

variable {k : PoolKind}

def new (k : PoolKind) (poolId : PoolId) (sequence : Sequence) (timestampMs : I64) (state : k.State)
    (bound : ℕ) : Except MarketTypeError (Reducer k) := do
  poolId.validate
  sequence.validate
  ensureTimestamp timestampMs
  k.ensureBound bound
  k.validate state
  ensure ((k.wrap state).token0.chain = poolId.chain) .chainMismatch
  k.ensureFits bound state
  return ⟨poolId, sequence, timestampMs, state, bound, false⟩

variable (r : Reducer k) (e : PoolStateEnvelope) (sequence : Sequence) (timestampMs : I64) (state : k.State)

def triggerResync : Reducer k := { r with resyncRequired := true }

/-- The checks with which `reset_with_snapshot` and `apply_snapshot` begin. -/
def ensureSnapshot : Except MarketTypeError Unit := do
  sequence.validate
  ensureTimestamp timestampMs
  k.validate state
  ensure ((k.wrap state).token0.chain = r.poolId.chain) .chainMismatch
  ensure ((k.wrap state).token0 = (k.wrap r.state).token0 ∧ (k.wrap state).token1 = (k.wrap r.state).token1)
    .targetMismatch
  ensure (k.tickSpacing state = k.tickSpacing r.state) .targetMismatch
  k.ensureFits r.bound state

def resetWithSnapshot : Call (Reducer k) MarketTypeError Unit := do
  let r ← Call.read
  Call.check (r.ensureSnapshot sequence timestampMs state)
  Call.write { r with sequence, timestampMs, state, resyncRequired := false }

/-- A newer snapshot replaces the state and ends a resync. -/
def applySnapshot : Call (Reducer k) MarketTypeError SnapshotClassification := do
  let r ← Call.read
  Call.check (r.ensureSnapshot sequence timestampMs state)
  if sequence < r.sequence then return .stale sequence r.sequence
  if sequence = r.sequence then return .duplicate r.sequence
  Call.write { r with sequence, timestampMs, state, resyncRequired := false }
  return .accepted sequence

/-- A gap latches the reducer; a contiguous delta edits a copy of the state, which is kept if it is valid. -/
def applyDelta (range : SequenceRange) (timestampMs : I64) (delta : k.Delta) :
    Call (Reducer k) MarketTypeError DeltaClassification := do
  let r ← Call.read
  if r.resyncRequired then return .resyncRequired (Sequence.next r.sequence) range.start
  Call.check range.validate
  Call.check (ensureTimestamp timestampMs)
  Call.check (k.validateDelta delta)
  if range.stop < r.sequence then return .stale range.stop r.sequence
  if range.stop = r.sequence then return .duplicate r.sequence
  if range.start ≠ Sequence.next r.sequence then
    Call.write r.triggerResync
    return .resyncRequired (Sequence.next r.sequence) range.start
  let staged ← Call.check (k.stage r.bound r.state delta)
  Call.write { r with state := staged, sequence := range.stop, timestampMs }
  return .contiguous range.stop

/-- What the envelope calls check first: the envelope, the pool and the kind. -/
def ensureEnvelope : Except MarketTypeError k.State := do
  e.validate
  ensure (e.poolId = r.poolId) .targetMismatch
  match kindOf e.state with
  | ⟨k', s⟩ => if h : k' = k then .ok (h ▸ s) else .error (.poolKindMismatch k.str k'.str)

def applySnapshotEnvelope : Call (Reducer k) MarketTypeError SnapshotClassification := do
  let r ← Call.read
  let state ← Call.check (r.ensureEnvelope e)
  applySnapshot e.sequence e.observedAtMs state

def resetWithEnvelope : Call (Reducer k) MarketTypeError Unit := do
  let r ← Call.read
  let state ← Call.check (r.ensureEnvelope e)
  resetWithSnapshot e.sequence e.observedAtMs state

def applyDeltaEnvelope (e : PoolDeltaEnvelope) : Call (Reducer k) MarketTypeError DeltaClassification := do
  let r ← Call.read
  Call.check e.validate
  Call.check (ensure (e.poolId = r.poolId) .targetMismatch)
  if h : e.kind = k then applyDelta e.sequenceRange e.observedAtMs (h ▸ e.delta)
  else Call.check (.error (.poolKindMismatch k.str e.kind.str))

end Reducer

/-! ### What a call can do -/

inductive Act (k : PoolKind) where
  | applySnapshot (sequence : Sequence) (timestampMs : I64) (state : k.State)
  | applyDelta (range : SequenceRange) (timestampMs : I64) (delta : k.Delta)
  | resetWithSnapshot (sequence : Sequence) (timestampMs : I64) (state : k.State)
  | triggerResync
  | applySnapshotEnvelope (e : PoolStateEnvelope)
  | applyDeltaEnvelope (e : PoolDeltaEnvelope)
  | resetWithEnvelope (e : PoolStateEnvelope)

inductive Answer where
  | snapshot (c : SnapshotClassification)
  | delta (c : DeltaClassification)
  | reset
  | triggered
deriving DecidableEq

variable {k : PoolKind} {bound : ℕ}

def call : Act k → Call (Reducer k) MarketTypeError Answer
  | .applySnapshot sequence timestampMs state =>
    Answer.snapshot <$> Reducer.applySnapshot sequence timestampMs state
  | .applyDelta range timestampMs delta => Answer.delta <$> Reducer.applyDelta range timestampMs delta
  | .resetWithSnapshot sequence timestampMs state =>
    (fun _ => Answer.reset) <$> Reducer.resetWithSnapshot sequence timestampMs state
  | .triggerResync => fun r => (.ok .triggered, r.triggerResync)
  | .applySnapshotEnvelope e => Answer.snapshot <$> Reducer.applySnapshotEnvelope e
  | .applyDeltaEnvelope e => Answer.delta <$> Reducer.applyDeltaEnvelope e
  | .resetWithEnvelope e => (fun _ => Answer.reset) <$> Reducer.resetWithEnvelope e

def Answer.accepts : Answer → Bool
  | .snapshot (.accepted _) | .delta (.contiguous _) => true
  | _ => false

inductive Outcome {k : PoolKind} (r : Reducer k) : Except MarketTypeError Answer × Reducer k → Prop where
  | failed (e : MarketTypeError) : Outcome r (.error e, r)
  | held (a : Answer) (ha : a.accepts = false ∧ a ≠ .reset) : Outcome r (.ok a, r)
  | latched (a : Answer) (ha : a.accepts = false ∧ a ≠ .reset) : Outcome r (.ok a, r.triggerResync)
  | snapshot (sequence : Sequence) (timestampMs : I64) (state : k.State) (u : Unit)
      (hstate : r.ensureSnapshot sequence timestampMs state = .ok u) (hlt : r.sequence < sequence) :
      Outcome r (.ok (.snapshot (.accepted sequence)),
        { r with sequence, timestampMs, state, resyncRequired := false })
  | delta (stop : Sequence) (timestampMs : I64) (d : k.Delta) (staged : k.State)
      (hlatch : r.resyncRequired = false) (hstage : k.stage r.bound r.state d = .ok staged)
      (hlt : r.sequence < stop) :
      Outcome r (.ok (.delta (.contiguous stop)), { r with state := staged, sequence := stop, timestampMs })
  | reset (sequence : Sequence) (timestampMs : I64) (state : k.State) (u : Unit)
      (hstate : r.ensureSnapshot sequence timestampMs state = .ok u) :
      Outcome r (.ok .reset, { r with sequence, timestampMs, state, resyncRequired := false })

section

variable {k : PoolKind} (r : Reducer k)

lemma applySnapshot_outcome (sequence : Sequence) (timestampMs : I64) (state : k.State) :
    Outcome r ((Answer.snapshot <$> Reducer.applySnapshot sequence timestampMs state) r) := by
  change Outcome r ((Reducer.applySnapshot sequence timestampMs state >>= fun c => pure (Answer.snapshot c)) r)
  unfold Reducer.applySnapshot
  simp only [Call.bind_assoc, Call.read_bind]
  refine Call.check_cases .failed fun u hstate => ?_
  split_ifs with hstale hdup
  · exact .held _ ⟨rfl, Answer.noConfusion⟩
  · exact .held _ ⟨rfl, Answer.noConfusion⟩
  · exact .snapshot sequence timestampMs state u hstate (Sequence.lt_of_not hstale hdup)

lemma resetWithSnapshot_outcome (sequence : Sequence) (timestampMs : I64) (state : k.State) :
    Outcome r (((fun _ => Answer.reset) <$> Reducer.resetWithSnapshot sequence timestampMs state) r) := by
  change Outcome r ((Reducer.resetWithSnapshot sequence timestampMs state >>= fun _ => pure Answer.reset) r)
  unfold Reducer.resetWithSnapshot
  simp only [Call.bind_assoc, Call.read_bind]
  refine Call.check_cases .failed fun u hstate => ?_
  exact .reset sequence timestampMs state u hstate

lemma applyDelta_outcome (range : SequenceRange) (timestampMs : I64) (d : k.Delta) :
    Outcome r ((Answer.delta <$> Reducer.applyDelta range timestampMs d) r) := by
  change Outcome r ((Reducer.applyDelta range timestampMs d >>= fun c => pure (Answer.delta c)) r)
  unfold Reducer.applyDelta
  simp only [Call.bind_assoc, Call.read_bind]
  by_cases hlatch : r.resyncRequired = true
  · rw [if_pos hlatch]
    exact .held _ ⟨rfl, Answer.noConfusion⟩
  · rw [if_neg hlatch]
    simp only [Call.bind_assoc]
    refine Call.check_cases .failed fun _ _ => ?_
    refine Call.check_cases .failed fun _ _ => ?_
    refine Call.check_cases .failed fun _ _ => ?_
    split_ifs with hstale hdup hstart
    · exact .held _ ⟨rfl, Answer.noConfusion⟩
    · exact .held _ ⟨rfl, Answer.noConfusion⟩
    · exact .latched _ ⟨rfl, Answer.noConfusion⟩
    · simp only [Call.bind_assoc]
      refine Call.check_cases .failed fun staged hstage => ?_
      exact .delta range.stop timestampMs d staged (Bool.eq_false_of_not_eq_true hlatch) hstage
        (Sequence.lt_of_not hstale hdup)

lemma call_outcome (a : Act k) : Outcome r (call a r) := by
  cases a with
  | applySnapshot sequence timestampMs state => exact applySnapshot_outcome r sequence timestampMs state
  | applyDelta range timestampMs d => exact applyDelta_outcome r range timestampMs d
  | resetWithSnapshot sequence timestampMs state =>
    exact resetWithSnapshot_outcome r sequence timestampMs state
  | triggerResync => exact .latched _ ⟨rfl, Answer.noConfusion⟩
  | applySnapshotEnvelope e =>
    change Outcome r ((Reducer.applySnapshotEnvelope e >>= fun c => pure (Answer.snapshot c)) r)
    unfold Reducer.applySnapshotEnvelope
    simp only [Call.bind_assoc, Call.read_bind]
    refine Call.check_cases .failed fun state _ => ?_
    exact applySnapshot_outcome r _ _ state
  | applyDeltaEnvelope e =>
    change Outcome r ((Reducer.applyDeltaEnvelope e >>= fun c => pure (Answer.delta c)) r)
    unfold Reducer.applyDeltaEnvelope
    simp only [Call.bind_assoc, Call.read_bind]
    refine Call.check_cases .failed fun _ _ => ?_
    refine Call.check_cases .failed fun _ _ => ?_
    split_ifs with hkind
    · exact applyDelta_outcome r _ _ _
    · exact .failed _
  | resetWithEnvelope e =>
    change Outcome r ((Reducer.resetWithEnvelope e >>= fun _ => pure Answer.reset) r)
    unfold Reducer.resetWithEnvelope
    simp only [Call.bind_assoc, Call.read_bind]
    refine Call.check_cases .failed fun state _ => ?_
    exact resetWithSnapshot_outcome r _ _ state

end

/-! ### The invariant -/

/-- What is promised of a held state: a CPMM pool has reserves, ticks and bins are strictly sorted and
no more than the configured maximum. -/
def PoolKind.Holds : (k : PoolKind) → ℕ → k.State → Prop
  | .cpmm, _, (s : CpmmPoolState) => s.reserve0.val ≠ 0 ∧ s.reserve1.val ≠ 0
  | .clmm, bound, (s : ClmmPoolState) => Ladder.Ascending ClmmTick.index s.ticks ∧ s.ticks.length ≤ bound
  | .bin, bound, (s : BinPoolState) => Ladder.Ascending LiquidityBin.id s.bins ∧ s.bins.length ≤ bound

lemma PoolKind.holds {s : k.State} {u v : Unit} (hvalid : k.validate s = .ok u)
    (hfits : k.ensureFits bound s = .ok v) : k.Holds bound s := by
  cases k with
  | cpmm =>
    simp only [PoolKind.ensureFits, ensure_eq_ok] at hfits
    exact hfits
  | clmm =>
    obtain ⟨_, -, hvalid⟩ := bind_ok.1 hvalid
    simp only [ensure_ok] at hvalid
    simp only [PoolKind.ensureFits, ensure_ok, ensure_eq_ok] at hfits
    exact ⟨validateTicks_sorted hvalid.2.2.2, hfits.2⟩
  | bin =>
    obtain ⟨_, -, hvalid⟩ := bind_ok.1 hvalid
    simp only [ensure_ok] at hvalid
    simp only [PoolKind.ensureFits, ensure_eq_ok] at hfits
    exact ⟨validateBins_sorted hvalid.2.2.2, hfits⟩

def PoolKind.Same (k : PoolKind) (s t : k.State) : Prop :=
  (k.wrap s).token0 = (k.wrap t).token0 ∧ (k.wrap s).token1 = (k.wrap t).token1 ∧
    k.tickSpacing s = k.tickSpacing t

lemma PoolKind.Same.trans {s t u : k.State} (h : k.Same s t) (h' : k.Same t u) : k.Same s u :=
  ⟨h.1.trans h'.1, h.2.1.trans h'.2.1, h.2.2.trans h'.2.2⟩

lemma forM_eq_ok {α : Type} {x : Option α} {f : α → Except MarketTypeError Unit} {u : Unit}
    (h : x.forM f = .ok u) {a : α} (ha : x = some a) : f a = .ok () := by
  subst ha
  exact h

/-- A state that may take the place of the held one: it validates and fits, and is of the same pool. -/
def PoolKind.Replaces (k : PoolKind) (bound : ℕ) (held staged : k.State) : Prop :=
  k.validate staged = .ok () ∧ k.ensureFits bound staged = .ok () ∧ k.Same staged held

lemma CpmmPoolDelta.stage_replaces {held staged : CpmmPoolState} {d : CpmmPoolDelta}
    (hstage : d.stage held = .ok staged) : PoolKind.Replaces .cpmm bound held staged := by
  obtain ⟨_, -, hstage⟩ := bind_ok.1 hstage
  obtain ⟨_, -, hstage⟩ := bind_ok.1 hstage
  simp only [ensure_ok] at hstage
  obtain ⟨_, hvalid, hreturn⟩ := bind_ok.1 hstage.2
  cases hreturn
  exact ⟨hvalid, ensure_eq_ok.2 hstage.1, rfl, rfl, rfl⟩

lemma ClmmPoolDelta.stage_replaces {held staged : ClmmPoolState} {d : ClmmPoolDelta}
    (hfits : PoolKind.ensureFits .clmm bound held = .ok ()) (hstage : d.stage bound held = .ok staged) :
    PoolKind.Replaces .clmm bound held staged := by
  obtain ⟨_, -, hstage⟩ := bind_ok.1 hstage
  obtain ⟨_, hsqrt, hstage⟩ := bind_ok.1 hstage
  simp only [ensure_ok] at hstage
  obtain ⟨_, hvalid, hreturn⟩ := bind_ok.1 hstage.2
  cases hreturn
  refine ⟨hvalid, ?_, rfl, rfl, rfl⟩
  simp only [PoolKind.ensureFits, ensure_ok, ensure_eq_ok] at hfits ⊢
  refine ⟨?_, hstage.1⟩
  -- A zero price is refused when it is the delta's own, and the held one is not zero.
  cases hprice : d.sqrtPriceX64 with
  | none => exact hfits.1
  | some price => exact ensure_eq_ok.1 (forM_eq_ok hsqrt hprice)

lemma BinPoolDelta.stage_replaces {held staged : BinPoolState} {d : BinPoolDelta}
    (hstage : d.stage bound held = .ok staged) : PoolKind.Replaces .bin bound held staged := by
  simp only [BinPoolDelta.stage, ensure_ok] at hstage
  obtain ⟨_, hvalid, hreturn⟩ := bind_ok.1 hstage.2
  cases hreturn
  exact ⟨hvalid, ensure_eq_ok.2 hstage.1, rfl, rfl, rfl⟩

lemma PoolKind.stage_replaces {held staged : k.State} {d : k.Delta}
    (hfits : k.ensureFits bound held = .ok ()) (hstage : k.stage bound held d = .ok staged) :
    k.Replaces bound held staged := by
  cases k with
  | cpmm => exact CpmmPoolDelta.stage_replaces hstage
  | clmm => exact ClmmPoolDelta.stage_replaces hfits hstage
  | bin => exact BinPoolDelta.stage_replaces hstage

/-- A reducer in good order, of the pool it was built for. -/
structure Sound {k : PoolKind} (r₀ r : Reducer k) : Prop where
  valid : k.validate r.state = .ok ()
  fits : k.ensureFits r.bound r.state = .ok ()
  same : k.Same r.state r₀.state
  poolId : r.poolId = r₀.poolId
  bound : r.bound = r₀.bound

section

variable {k : PoolKind} {r₀ r : Reducer k}

lemma Reducer.new_eq_ok {poolId : PoolId} {sequence : Sequence} {timestampMs : I64} {state : k.State}
    {bound : ℕ} (h : Reducer.new k poolId sequence timestampMs state bound = .ok r) :
    r = ⟨poolId, sequence, timestampMs, state, bound, false⟩ ∧ Sound r r := by
  obtain ⟨_, -, h⟩ := bind_ok.1 h
  obtain ⟨_, -, h⟩ := bind_ok.1 h
  obtain ⟨_, -, h⟩ := bind_ok.1 h
  obtain ⟨_, -, h⟩ := bind_ok.1 h
  obtain ⟨_, hvalid, h⟩ := bind_ok.1 h
  simp only [ensure_ok] at h
  obtain ⟨_, hfits, hreturn⟩ := bind_ok.1 h.2
  cases hreturn
  exact ⟨rfl, hvalid, hfits, ⟨rfl, rfl, rfl⟩, rfl, rfl⟩

lemma ensureSnapshot_replaces {sequence : Sequence} {timestampMs : I64} {state : k.State} {u : Unit}
    (h : r.ensureSnapshot sequence timestampMs state = .ok u) : k.Replaces r.bound r.state state := by
  obtain ⟨_, -, h⟩ := bind_ok.1 h
  obtain ⟨_, -, h⟩ := bind_ok.1 h
  obtain ⟨_, hvalid, h⟩ := bind_ok.1 h
  simp only [ensure_ok] at h
  exact ⟨hvalid, h.2.2.2, h.2.1.1, h.2.1.2, h.2.2.1⟩

lemma Sound.outcome (h : Sound r₀ r) {x : Except MarketTypeError Answer × Reducer k} (hout : Outcome r x) :
    Sound r₀ x.2 := by
  cases hout with
  | failed e => exact h
  | held a ha => exact h
  | latched a ha => exact ⟨h.valid, h.fits, h.same, h.poolId, h.bound⟩
  | snapshot sequence timestampMs state u hstate hlt =>
    obtain ⟨hvalid, hfits, hsame⟩ := ensureSnapshot_replaces hstate
    exact ⟨hvalid, hfits, hsame.trans h.same, h.poolId, h.bound⟩
  | delta stop timestampMs d staged hlatch hstage hlt =>
    obtain ⟨hvalid, hfits, hsame⟩ := PoolKind.stage_replaces h.fits hstage
    exact ⟨hvalid, hfits, hsame.trans h.same, h.poolId, h.bound⟩
  | reset sequence timestampMs state u hstate =>
    obtain ⟨hvalid, hfits, hsame⟩ := ensureSnapshot_replaces hstate
    exact ⟨hvalid, hfits, hsame.trans h.same, h.poolId, h.bound⟩

/-- What a call may do to the sequence, the latch and the state. -/
structure Disciplined (r : Reducer k) (x : Except MarketTypeError Answer × Reducer k) : Prop where
  failed : ∀ e, x.1 = .error e → x.2 = r
  advances : ∀ a, x.1 = .ok a → a.accepts = true → r.sequence < x.2.sequence
  stays : (∀ a, x.1 = .ok a → a.accepts = false ∧ a ≠ .reset) →
    x.2.sequence = r.sequence ∧ x.2.state = r.state
  latched : r.resyncRequired = true →
    x.2.resyncRequired = true ∧ x.2.state = r.state ∧ x.2.sequence = r.sequence ∨
      (∃ sequence, x.1 = .ok (.snapshot (.accepted sequence)) ∧ r.sequence < sequence) ∨ x.1 = .ok .reset

lemma Outcome.disciplined {x : Except MarketTypeError Answer × Reducer k} (hout : Outcome r x) :
    Disciplined r x := by
  cases hout with
  | failed e => exact ⟨fun _ _ => rfl, by simp, fun _ => ⟨rfl, rfl⟩, fun h => .inl ⟨h, rfl, rfl⟩⟩
  | held a ha =>
    refine ⟨by simp, ?_, fun _ => ⟨rfl, rfl⟩, fun h => .inl ⟨h, rfl, rfl⟩⟩
    intro a' heq hacc
    cases heq
    rw [ha.1] at hacc
    cases hacc
  | latched a ha =>
    refine ⟨by simp, ?_, fun _ => ⟨rfl, rfl⟩, fun _ => .inl ⟨rfl, rfl, rfl⟩⟩
    intro a' heq hacc
    cases heq
    rw [ha.1] at hacc
    cases hacc
  | snapshot sequence timestampMs state u hstate hlt =>
    exact ⟨by simp, fun _ _ _ => hlt, fun h => Bool.noConfusion (h _ rfl).1,
      fun _ => .inr (.inl ⟨sequence, rfl, hlt⟩)⟩
  | delta stop timestampMs d staged hlatch hstage hlt =>
    exact ⟨by simp, fun _ _ _ => hlt, fun h => Bool.noConfusion (h _ rfl).1,
      fun h => absurd (hlatch.symm.trans h) Bool.false_ne_true⟩
  | reset sequence timestampMs state u hstate =>
    refine ⟨by simp, ?_, fun h => absurd rfl (h _ rfl).2, fun _ => .inr (.inr rfl)⟩
    intro a heq hacc
    cases heq
    cases hacc

end

abbrev machine (k : PoolKind) : Machine (Act k) fun _ => Except MarketTypeError Answer where
  State := Reducer k
  step r a := call a r

/-- **Pool reducers stay valid and fail closed.** -/
theorem reducer_stays_valid (k : PoolKind) (poolId : PoolId) (sequence : Sequence) (timestampMs : I64)
    (state : k.State) (bound : ℕ) (r₀ : Reducer k)
    (hnew : Reducer.new k poolId sequence timestampMs state bound = .ok r₀) (acts : List (Act k)) :
    let r : Reducer k := (machine k).run r₀ acts
    k.validate r.state = .ok () ∧ k.Holds bound r.state ∧ k.Same r.state state ∧ r.poolId = poolId ∧
      ∀ a : Act k, Disciplined r (call a r) := by
  intro r
  obtain ⟨hfirst, hsound₀⟩ := Reducer.new_eq_ok hnew
  have hsound : Sound r₀ r := Machine.run_invariant (M := machine k) (P := Sound r₀) hsound₀
    fun s a hs => hs.outcome (call_outcome s a)
  subst hfirst
  have hbound : r.bound = bound := hsound.bound
  exact ⟨hsound.valid, hbound ▸ PoolKind.holds hsound.valid hsound.fits, hsound.same, hsound.poolId,
    fun a => (call_outcome r a).disciplined⟩

/-! A pool with room for three ticks: a delta removes one tick and sets two, a gapped delta latches and the
delta after it is held off. -/

section

def Sample.tick (index : ℤ) (gross : ℕ) : ClmmTick := ⟨index, .lit gross, 0⟩

def Sample.pool : ClmmPoolState :=
  { token0 := ⟨.solana, "a"⟩, token1 := ⟨.solana, "b"⟩, decimals0 := .lit 6, decimals1 := .lit 9,
    tickSpacing := .lit 2, currentTick := 1, sqrtPriceX64 := .lit 5, liquidity := .lit 7, feeBps := .lit 30,
    ticks := [Sample.tick 0 1, Sample.tick 4 1] }

def Sample.delta (ticks : List ClmmTick) : ClmmPoolDelta := ⟨none, none, none, none, ticks⟩

def Sample.acts : List (Act .clmm) :=
  [.applyDelta ⟨.lit 2, .lit 3⟩ (.lit 9) (Sample.delta [Sample.tick 4 0, Sample.tick 2 8, Sample.tick (-2) 1]),
    .applyDelta ⟨.lit 5, .lit 5⟩ (.lit 9) (Sample.delta []),
    .applyDelta ⟨.lit 4, .lit 4⟩ (.lit 9) (Sample.delta [Sample.tick 0 0])]

theorem sample_ticks_sorted :
    let r₀ : Reducer .clmm := ⟨⟨.solana, "p"⟩, .lit 1, .lit 5, Sample.pool, 3, false⟩
    let r : Reducer .clmm := (machine .clmm).run r₀ Sample.acts
    ClmmPoolState.ticks r.state = [Sample.tick (-2) 1, Sample.tick 0 1, Sample.tick 2 8] ∧
      r.sequence = .lit 3 ∧ r.resyncRequired = true ∧ PoolKind.Holds .clmm 3 r.state := by
  intro r₀ r
  have hrun := reducer_stays_valid .clmm ⟨.solana, "p"⟩ (.lit 1) (.lit 5) Sample.pool 3 r₀ rfl Sample.acts
  exact ⟨by decide +kernel, by decide +kernel, by decide +kernel, hrun.2.1⟩

end

end PrivateExecution.PoolReducer
