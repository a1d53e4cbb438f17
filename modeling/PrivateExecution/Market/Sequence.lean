import PrivateExecution.Market.Pool
import PrivateExecution.Domain.Saturating

/-!
# Sequenced streams

A market feed is a stream of snapshots and deltas, each with a sequence number or a range of them
(`market-types/src/sequence.rs`, `identity.rs`). A delta is *contiguous* if it starts right after the
current sequence, *duplicate* or *stale* if it ends at or before it; anything else, a gap as well as an
overlap, is answered with *resync required* and latches.
-/

namespace PrivateExecution

/-! ### Sequences and ranges -/

abbrev Sequence := U64

variable (s : Sequence)

def Sequence.next : Sequence := s.saturatingAdd (.lit 1)

def Sequence.validate : Except MarketTypeError Unit := ensure (s.val ≠ 0) .zeroSequence

/-- The sequence expected after `current`: `map(|s| s.next()).unwrap_or(Sequence(1))`. -/
def Sequence.expected (current : Option Sequence) : Sequence := (current.map Sequence.next).getD (.lit 1)

lemma Sequence.next_val : (Sequence.next s).val = min (s.val + 1) (2 ^ 64 - 1) := by
  rw [next, Unsigned.val_saturatingAdd, Unsigned.lit_val (by norm_num)]

lemma Sequence.next_le : (Sequence.next s).val ≤ s.val + 1 := by
  rw [next_val]
  exact min_le_left _ _

lemma Sequence.lt_of_not {s t : Sequence} (hlt : ¬s < t) (hne : ¬s = t) : t < s := by
  have hval : s.val ≠ t.val := fun h => hne (Unsigned.ext h)
  simp only [Unsigned.lt_def] at hlt ⊢
  omega

structure SequenceRange where
  start : Sequence
  stop : Sequence
deriving DecidableEq

def SequenceRange.validate (r : SequenceRange) : Except MarketTypeError Unit := do
  ensure (¬(r.start.val = 0 ∨ r.stop.val = 0)) .zeroSequence
  ensure (r.start ≤ r.stop) (.invalidSequenceRange r.start.val r.stop.val)

def SequenceRange.new (start stop : Sequence) : Except MarketTypeError SequenceRange := do
  SequenceRange.validate ⟨start, stop⟩
  return ⟨start, stop⟩

def SequenceRange.point : Except MarketTypeError SequenceRange := SequenceRange.new s s

lemma SequenceRange.validate_eq_ok {r : SequenceRange} {u : Unit} :
    r.validate = .ok u ↔ r.start.val ≠ 0 ∧ r.start.val ≤ r.stop.val := by
  simp only [validate, ensure_ok, ensure_eq_ok, Unsigned.le_def]
  omega

lemma SequenceRange.new_eq_ok {start stop : Sequence} {r : SequenceRange} :
    new start stop = .ok r ↔ (start.val ≠ 0 ∧ start.val ≤ stop.val) ∧ r = ⟨start, stop⟩ := by
  unfold new
  rw [bind_ok]
  constructor
  · rintro ⟨u, hvalid, hr⟩
    cases hr
    exact ⟨validate_eq_ok.1 hvalid, rfl⟩
  · rintro ⟨hvalid, rfl⟩
    exact ⟨(), validate_eq_ok.2 hvalid, rfl⟩

/-! ### Feed targets -/

structure InstrumentId where
  base : AssetId
  quote : AssetId
deriving DecidableEq

def InstrumentId.validate (i : InstrumentId) : Except MarketTypeError Unit := do
  ensure (i.base.isValid = true) .emptyAddress
  ensure (i.quote.isValid = true) .emptyAddress
  ensure (i.base.chain = i.quote.chain) .chainMismatch
  ensure (i.base ≠ i.quote) .sameAssetPair

inductive FeedTarget where
  | pool (id : PoolId)
  | instrument (id : InstrumentId)
deriving DecidableEq

def FeedTarget.validate : FeedTarget → Except MarketTypeError Unit
  | .pool id => id.validate
  | .instrument id => id.validate

/-! ### Classifications -/

inductive DeltaClassification where
  | contiguous (newSequence : Sequence)
  | duplicate (sequence : Sequence)
  | stale (sequence current : Sequence)
  | resyncRequired (expected received : Sequence)
deriving DecidableEq

def DeltaClassification.isResyncRequired : DeltaClassification → Bool
  | .resyncRequired .. => true
  | _ => false

def DeltaClassification.isContiguous : DeltaClassification → Bool
  | .contiguous _ => true
  | _ => false

inductive SnapshotClassification where
  | accepted (newSequence : Sequence)
  | duplicate (sequence : Sequence)
  | stale (sequence current : Sequence)
deriving DecidableEq

/-! ### The stream tracker -/

structure SequencedStreamTracker where
  target : FeedTarget
  baselineSequence : Option Sequence
  currentSequence : Option Sequence
  lastTimestampMs : Option I64
  resyncRequired : Bool
deriving DecidableEq

namespace SequencedStreamTracker

def new (target : FeedTarget) : SequencedStreamTracker := ⟨target, none, none, none, false⟩

variable (t : SequencedStreamTracker)

def triggerResync : SequencedStreamTracker := { t with resyncRequired := true }

def classifyDeltaRange (r : SequenceRange) : DeltaClassification :=
  if t.resyncRequired then .resyncRequired (Sequence.expected t.currentSequence) r.start
  else
    match t.currentSequence with
    -- A delta needs a snapshot to start from.
    | none => .resyncRequired (.lit 1) r.start
    | some curr =>
      if r.stop < curr then .stale r.stop curr
      else if r.stop = curr then .duplicate curr
      else if r.start = Sequence.next curr then .contiguous r.stop
      else .resyncRequired (Sequence.next curr) r.start

def applyDeltaRange (r : SequenceRange) (timestampMs : I64) : DeltaClassification × SequencedStreamTracker :=
  match t.classifyDeltaRange r with
  | .contiguous n =>
    (.contiguous n, { t with currentSequence := some n, lastTimestampMs := some timestampMs })
  | .resyncRequired expected received => (.resyncRequired expected received, t.triggerResync)
  | other => (other, t)

def applySnapshotSequence (sequence : Sequence) (timestampMs : I64) :
    SnapshotClassification × SequencedStreamTracker :=
  let accept := (SnapshotClassification.accepted sequence, { t with
    baselineSequence := some sequence
    currentSequence := some sequence
    lastTimestampMs := some timestampMs
    resyncRequired := false })
  match t.currentSequence with
  | none => accept
  | some curr =>
    if sequence < curr then (.stale sequence curr, t)
    else if sequence = curr then (.duplicate curr, t)
    else accept

variable {t : SequencedStreamTracker} {r : SequenceRange} {n : Sequence} {timestampMs : I64}

lemma classifyDeltaRange_eq_contiguous : t.classifyDeltaRange r = .contiguous n ↔
    t.resyncRequired = false ∧ n = r.stop ∧
      ∃ curr, t.currentSequence = some curr ∧ curr.val < r.stop.val ∧ r.start = Sequence.next curr := by
  unfold classifyDeltaRange
  cases hlatch : t.resyncRequired with
  | true => simp
  | false =>
    cases hcurr : t.currentSequence with
    | none => simp
    | some curr =>
      simp only [Bool.false_eq_true, if_false, true_and, Option.some.injEq, Unsigned.lt_def, exists_eq_left']
      split_ifs with hstale hdup hnext
      · exact ⟨nofun, fun h => absurd hstale (by omega)⟩
      · exact ⟨nofun, fun h => absurd (congrArg Unsigned.val hdup) (by omega)⟩
      · have hlt : curr.val < r.stop.val := by
          have hne : r.stop.val ≠ curr.val := fun h => hdup (Unsigned.ext h)
          omega
        exact ⟨fun h => ⟨(DeltaClassification.contiguous.inj h).symm, hlt, hnext⟩, fun h => by rw [h.1]⟩
      · exact ⟨nofun, fun h => absurd h.2.2 hnext⟩

lemma classifyDeltaRange_held {c : DeltaClassification} (h : t.classifyDeltaRange r = c)
    (hcontiguous : c.isContiguous = false) (hresync : c.isResyncRequired = false) :
    ∃ curr, t.currentSequence = some curr ∧ r.stop.val ≤ curr.val := by
  subst h
  cases hlatch : t.resyncRequired with
  | true => simp [classifyDeltaRange, hlatch, DeltaClassification.isResyncRequired] at hresync
  | false =>
    cases hcurr : t.currentSequence with
    | none => simp [classifyDeltaRange, hlatch, hcurr, DeltaClassification.isResyncRequired] at hresync
    | some curr =>
      refine ⟨curr, rfl, ?_⟩
      simp only [classifyDeltaRange, hlatch, hcurr, Bool.false_eq_true, if_false] at hcontiguous hresync
      split_ifs at hcontiguous hresync with hstale hdup hnext
      · exact Nat.le_of_lt hstale
      · exact (congrArg Unsigned.val hdup).le
      · cases hcontiguous
      · cases hresync

lemma applySnapshotSequence_cases (t : SequencedStreamTracker) (sequence : Sequence) (timestampMs : I64) :
    (∀ curr, t.currentSequence = some curr → curr.val < sequence.val) ∧
        t.applySnapshotSequence sequence timestampMs = (.accepted sequence, { t with
          baselineSequence := some sequence
          currentSequence := some sequence
          lastTimestampMs := some timestampMs
          resyncRequired := false }) ∨
      ∃ curr, t.currentSequence = some curr ∧ sequence.val ≤ curr.val ∧
        (t.applySnapshotSequence sequence timestampMs = (.stale sequence curr, t) ∨
          t.applySnapshotSequence sequence timestampMs = (.duplicate curr, t)) := by
  unfold applySnapshotSequence
  cases hcurr : t.currentSequence with
  | none => exact .inl ⟨nofun, rfl⟩
  | some curr =>
    simp only [Unsigned.lt_def]
    split_ifs with hstale hdup
    · exact .inr ⟨curr, rfl, hstale.le, .inl rfl⟩
    · exact .inr ⟨curr, rfl, (congrArg Unsigned.val hdup).le, .inr rfl⟩
    · refine .inl ⟨?_, rfl⟩
      rintro c hc
      cases hc
      have hne : sequence.val ≠ curr.val := fun h => hdup (Unsigned.ext h)
      omega

end SequencedStreamTracker

end PrivateExecution
