import PrivateExecution.Market.Ohlcv

/-!
# Market aggregation

`MarketAggregator` feeds one stream of envelopes to two components, the depth of the order book and the
candles (`market-types/src/aggregation.rs`). Snapshots and deltas go to both, the candles take them as a
tick of the mid price; candles go to the second component alone. Both are staged on copies and kept
together.
-/

namespace PrivateExecution

open Async

/-! ### Envelopes -/

inductive CanonicalFeedPayload (P Q : Type) where
  | poolState (e : PoolStateEnvelope)
  | orderBookSnapshot (s : DepthSnapshot P Q)
  | orderBookDelta (d : DepthDelta P Q)
  | candle (c : Candle P Q)

structure CanonicalFeedEnvelope (P Q : Type) where
  sequence : Sequence
  payload : CanonicalFeedPayload P Q

/-! ### Depth -/

structure DepthAggregator (P Q : Type) where
  target : FeedTarget
  sequence : Option Sequence
  timestampMs : Option I64
  bids : List (DepthLevel P Q)
  asks : List (DepthLevel P Q)
  maxLevels : ℕ
  resyncRequired : Bool
deriving DecidableEq

namespace DepthAggregator

variable {P Q : Type} [LinearOrder P] [Price P] [Quantity Q]

def new (target : FeedTarget) (maxLevels : ℕ) : Except MarketTypeError (DepthAggregator P Q) := do
  target.validate
  ensureMaxLevels maxLevels
  return ⟨target, none, none, [], [], maxLevels, false⟩

variable (d : DepthAggregator P Q) (s : DepthSnapshot P Q)

def triggerResync : DepthAggregator P Q := { d with resyncRequired := true }

def midPrice : Option P := do
  let bid ← d.bids.head?
  let ask ← d.asks.head?
  Price.mid bid.price ask.price

def ensureSum (levels : List (DepthLevel P Q)) (what : String) : Except MarketTypeError Q :=
  okOr (levels.foldlM (fun sum l => Quantity.add sum l.quantity) Quantity.zero) (.arithmeticOverflow what)

def rebase : DepthAggregator P Q :=
  { d with
    sequence := some s.sequence, timestampMs := some s.timestampMs, bids := s.bids.take d.maxLevels,
    asks := s.asks.take d.maxLevels, resyncRequired := false }

def resetWithSnapshot : Call (DepthAggregator P Q) MarketTypeError Unit := do
  let d ← Call.read
  Call.check s.validate
  Call.check (ensure (s.target = d.target) .targetMismatch)
  Call.write (d.rebase s)

/-- How a snapshot stands to the current sequence, if it is not newer. -/
def behind (s : Sequence) : Option Sequence → Option SnapshotClassification
  | none => none
  | some curr =>
    if s < curr then some (.stale s curr) else if s = curr then some (.duplicate curr) else none

def applySnapshot : Call (DepthAggregator P Q) MarketTypeError SnapshotClassification := do
  let d ← Call.read
  Call.check s.validate
  Call.check (ensure (s.target = d.target) .targetMismatch)
  match behind s.sequence d.sequence with
  | some classification => return classification
  | none =>
    let _ ← Call.check (ensureSum (d.rebase s).bids "snapshot bid quantity overflow")
    let _ ← Call.check (ensureSum (d.rebase s).asks "snapshot ask quantity overflow")
    Call.write (d.rebase s)
    return .accepted s.sequence

variable (delta : DepthDelta P Q)

def edited : DepthAggregator P Q :=
  { d with
    bids := (applyUpdates DepthLevel.bidKey d.bids delta.bids).take d.maxLevels
    asks := (applyUpdates DepthLevel.askKey d.asks delta.asks).take d.maxLevels
    sequence := some delta.sequenceRange.stop, timestampMs := some delta.timestampMs }

def applyDelta : Call (DepthAggregator P Q) MarketTypeError DeltaClassification := do
  let d ← Call.read
  if d.resyncRequired then return .resyncRequired (Sequence.expected d.sequence) delta.sequenceRange.start
  Call.check delta.validate
  Call.check (ensure (delta.target = d.target) .targetMismatch)
  match d.sequence with
  | none =>
    -- There is no baseline to apply it to.
    Call.write d.triggerResync
    return .resyncRequired (.lit 1) delta.sequenceRange.start
  | some curr =>
    if delta.sequenceRange.stop < curr then return .stale delta.sequenceRange.stop curr
    if delta.sequenceRange.stop = curr then return .duplicate curr
    if delta.sequenceRange.start ≠ Sequence.next curr then
      Call.write d.triggerResync
      return .resyncRequired (Sequence.next curr) delta.sequenceRange.start
    Call.check (ensure (crossed (d.edited delta).bids (d.edited delta).asks = false) .crossedOrderBook)
    let _ ← Call.check (ensureSum (d.edited delta).bids "staged bid quantity overflow")
    let _ ← Call.check (ensureSum (d.edited delta).asks "staged ask quantity overflow")
    Call.write (d.edited delta)
    return .contiguous delta.sequenceRange.stop

inductive SnapshotOutcome (d : DepthAggregator P Q) (s : DepthSnapshot P Q) :
    Except MarketTypeError SnapshotClassification × DepthAggregator P Q → Prop where
  | failed (e : MarketTypeError) : SnapshotOutcome d s (.error e, d)
  | behind (c : SnapshotClassification) (h : behind s.sequence d.sequence = some c) :
      SnapshotOutcome d s (.ok c, d)
  | accepted (hnew : ∀ curr, d.sequence = some curr → curr < s.sequence) :
      SnapshotOutcome d s (.ok (.accepted s.sequence), d.rebase s)

inductive DeltaOutcome (d : DepthAggregator P Q) (delta : DepthDelta P Q) :
    Except MarketTypeError DeltaClassification × DepthAggregator P Q → Prop where
  | failed (e : MarketTypeError) : DeltaOutcome d delta (.error e, d)
  | latched (expected received : Sequence) (h : d.resyncRequired = true) :
      DeltaOutcome d delta (.ok (.resyncRequired expected received), d)
  | stale (curr : Sequence) : DeltaOutcome d delta (.ok (.stale delta.sequenceRange.stop curr), d)
  | duplicate (curr : Sequence) : DeltaOutcome d delta (.ok (.duplicate curr), d)
  | gap (expected received : Sequence) :
      DeltaOutcome d delta (.ok (.resyncRequired expected received), d.triggerResync)
  | contiguous (curr : Sequence) (hcurr : d.sequence = some curr) (hlatch : d.resyncRequired = false)
      (hnext : delta.sequenceRange.start = Sequence.next curr) (hlt : curr < delta.sequenceRange.stop) :
      DeltaOutcome d delta (.ok (.contiguous delta.sequenceRange.stop), d.edited delta)

lemma behind_eq_none {s : Sequence} {current : Option Sequence} (h : behind s current = none) :
    ∀ curr, current = some curr → curr < s := by
  rintro curr rfl
  simp only [behind] at h
  split_ifs at h with hlt heq
  exact Sequence.lt_of_not hlt heq

lemma applySnapshot_outcome : SnapshotOutcome d s (applySnapshot s d) := by
  unfold applySnapshot
  rw [Call.read_bind]
  refine Call.check_cases .failed fun _ _ => ?_
  refine Call.check_cases .failed fun _ _ => ?_
  cases hbehind : behind s.sequence d.sequence with
  | some c => exact .behind c hbehind
  | none =>
    refine Call.check_cases .failed fun _ _ => ?_
    refine Call.check_cases .failed fun _ _ => ?_
    exact .accepted (behind_eq_none hbehind)

inductive ResetOutcome (d : DepthAggregator P Q) (s : DepthSnapshot P Q) :
    Except MarketTypeError Unit × DepthAggregator P Q → Prop where
  | failed (e : MarketTypeError) : ResetOutcome d s (.error e, d)
  | reset (hvalid : s.validate = .ok ()) (htarget : s.target = d.target) : ResetOutcome d s (.ok (), d.rebase s)

lemma resetWithSnapshot_outcome : ResetOutcome d s (resetWithSnapshot s d) := by
  unfold resetWithSnapshot
  rw [Call.read_bind]
  refine Call.check_cases .failed fun _ hvalid => ?_
  refine Call.check_cases .failed fun _ htarget => ?_
  exact .reset hvalid (ensure_eq_ok.1 htarget)

lemma applyDelta_outcome : DeltaOutcome d delta (applyDelta delta d) := by
  unfold applyDelta
  rw [Call.read_bind]
  by_cases hlatch : d.resyncRequired = true
  · rw [if_pos hlatch]
    exact .latched _ _ hlatch
  · rw [if_neg hlatch]
    refine Call.check_cases .failed fun _ _ => ?_
    refine Call.check_cases .failed fun _ _ => ?_
    cases hcurr : d.sequence with
    | none => exact .gap _ _
    | some curr =>
      simp only
      split_ifs with hstale hdup hstart
      · exact .stale curr
      · exact .duplicate curr
      · exact .gap _ _
      · refine Call.check_cases .failed fun _ _ => ?_
        refine Call.check_cases .failed fun _ _ => ?_
        refine Call.check_cases .failed fun _ _ => ?_
        exact .contiguous curr hcurr (Bool.eq_false_of_not_eq_true hlatch) (not_not.1 hstart)
          (Sequence.lt_of_not hstale hdup)

end DepthAggregator

/-! ### The aggregator -/

structure MarketAggregator (P Q : Type) where
  target : FeedTarget
  depth : DepthAggregator P Q
  ohlcv : Option (OhlcvAggregator P Q)
deriving DecidableEq

namespace MarketAggregator

variable {P Q : Type} [LinearOrder P] [Price P] [Quantity Q]

def forInstrument (instrument : InstrumentId) (timeframe : CandleTimeframe) (maxDepthLevels maxRetained : ℕ) :
    Except MarketTypeError (MarketAggregator P Q) := do
  let depth ← DepthAggregator.new (.instrument instrument) maxDepthLevels
  let ohlcv ← OhlcvAggregator.new instrument timeframe maxRetained
  return ⟨.instrument instrument, depth, some ohlcv⟩

variable (a : MarketAggregator P Q)

def isResyncRequired : Bool :=
  a.depth.resyncRequired || a.ohlcv.any OhlcvAggregator.resyncRequired

def triggerResync : MarketAggregator P Q :=
  { a with depth := a.depth.triggerResync, ohlcv := a.ohlcv.map OhlcvAggregator.triggerResync }

def ensureMid (d : DepthAggregator P Q) : Except MarketTypeError P := okOr d.midPrice .emptyDepthLevels

def resetWithSnapshot (s : DepthSnapshot P Q) : Call (MarketAggregator P Q) MarketTypeError Unit := do
  let a ← Call.read
  let (_, depth) ← Call.check ((DepthAggregator.resetWithSnapshot s).onCopy a.depth)
  match a.ohlcv with
  | none => Call.write { a with depth }
  | some ohlcv =>
    let mid ← Call.check (ensureMid depth)
    let candle ← Call.check (ohlcv.tickCandle mid Quantity.zero s.timestampMs)
    let (_, ohlcv) ← Call.check ((OhlcvAggregator.resetWithBaseline s.sequence candle).onCopy ohlcv)
    Call.write { a with depth, ohlcv := some ohlcv }

def isRecovery (ohlcv : OhlcvAggregator P Q) (s : DepthSnapshot P Q) : Bool :=
  a.isResyncRequired || ohlcv.resyncRequired ||
    match ohlcv.currentSequence with
    | none => true
    | some curr => decide (Sequence.next curr < s.sequence)

def applySnapshot (s : DepthSnapshot P Q) :
    Call (MarketAggregator P Q) MarketTypeError DeltaClassification := do
  let a ← Call.read
  let (classification, depth) ← Call.check ((DepthAggregator.applySnapshot s).onCopy a.depth)
  match classification with
  | .duplicate sequence => return .duplicate sequence
  | .stale sequence current => return .stale sequence current
  | .accepted n =>
    match a.ohlcv with
    | none =>
      Call.write { a with depth }
      return .contiguous n
    | some ohlcv =>
      let mid ← Call.check (ensureMid depth)
      if a.isRecovery ohlcv s then
        let candle ← Call.check (ohlcv.tickCandle mid Quantity.zero s.timestampMs)
        let (_, ohlcv) ← Call.check ((OhlcvAggregator.resetWithBaseline s.sequence candle).onCopy ohlcv)
        Call.write { a with depth, ohlcv := some ohlcv }
        return .contiguous n
      else
        let (tick, ohlcv) ← Call.check
          ((OhlcvAggregator.applyTick mid Quantity.zero s.timestampMs (some s.sequence)).onCopy ohlcv)
        if tick.isResyncRequired then return tick
        Call.write { a with depth, ohlcv := some ohlcv }
        return .contiguous n

def applyDelta (d : DepthDelta P Q) : Call (MarketAggregator P Q) MarketTypeError DeltaClassification := do
  let a ← Call.read
  if a.isResyncRequired then
    return .resyncRequired (Sequence.expected a.depth.sequence) d.sequenceRange.start
  let (classification, depth) ← Call.check ((DepthAggregator.applyDelta d).onCopy a.depth)
  match classification with
  | .duplicate sequence => return .duplicate sequence
  | .stale sequence current => return .stale sequence current
  | .resyncRequired expected received =>
    Call.write { a with depth, ohlcv := a.ohlcv.map OhlcvAggregator.triggerResync }
    return .resyncRequired expected received
  | .contiguous n =>
    match a.ohlcv with
    | none =>
      Call.write { a with depth }
      return .contiguous n
    | some ohlcv =>
      let mid ← Call.check (ensureMid depth)
      let (tick, ohlcv) ← Call.check
        ((OhlcvAggregator.applyTick mid Quantity.zero d.timestampMs (some d.sequenceRange.stop)).onCopy ohlcv)
      if tick.isResyncRequired then return tick
      Call.write { a with depth, ohlcv := some ohlcv }
      return .contiguous n

def applyCandle (c : Candle P Q) (sequence : Sequence) :
    Call (MarketAggregator P Q) MarketTypeError DeltaClassification := do
  let a ← Call.read
  if a.isResyncRequired then
    return .resyncRequired (Sequence.expected (a.ohlcv.bind OhlcvAggregator.currentSequence)) sequence
  match a.ohlcv with
  | none =>
    Call.check (.error (.unsupportedPayloadForTarget "candle payload on aggregator without ohlcv configured"))
  | some ohlcv =>
    let (classification, ohlcv) ← Call.check ((OhlcvAggregator.applyCandle c (some sequence)).onCopy ohlcv)
    if classification.isResyncRequired then
      Call.write a.triggerResync
      return classification
    Call.write { a with ohlcv := some ohlcv }
    return classification

def applyEnvelope (e : CanonicalFeedEnvelope P Q) :
    Call (MarketAggregator P Q) MarketTypeError DeltaClassification :=
  match e.payload with
  | .orderBookSnapshot s => applySnapshot s
  | .orderBookDelta d => applyDelta d
  | .candle c => applyCandle c e.sequence
  | .poolState _ => Call.check (.error (.unsupportedPayloadForTarget "pool state"))

/-! ### What a call can do -/

/-- The candles have taken note of a sequence: it is theirs now, or they were not behind it. -/
def Noted (o : OhlcvAggregator P Q) (seq : Sequence) (o' : OhlcvAggregator P Q) : Prop :=
  o'.resyncRequired = false ∧
    ((o' = o ∧ ∃ curr, o.currentSequence = some curr ∧ seq ≤ curr) ∨
      (o'.currentSequence = some seq ∧ ∀ curr, o.currentSequence = some curr → curr < seq))

/-- What an envelope can do with the aggregator of an instrument, whose candles are `o`. -/
inductive Outcome (a : MarketAggregator P Q) (o : OhlcvAggregator P Q) (e : CanonicalFeedEnvelope P Q) :
    Except MarketTypeError DeltaClassification × MarketAggregator P Q → Prop where
  | failed (err : MarketTypeError) : Outcome a o e (.error err, a)
  | stale (seq curr : Sequence) : Outcome a o e (.ok (.stale seq curr), a)
  | duplicate (seq : Sequence) : Outcome a o e (.ok (.duplicate seq), a)
  | latched (expected received : Sequence) (h : a.isResyncRequired = true) :
      Outcome a o e (.ok (.resyncRequired expected received), a)
  | gap (expected received : Sequence)
      (hdepth : ∀ d n depth', e.payload = .orderBookDelta d →
        DepthAggregator.applyDelta d a.depth ≠ (.ok (.contiguous n), depth')) :
      Outcome a o e (.ok (.resyncRequired expected received), a.triggerResync)
  | lost (d : DepthDelta P Q) (curr oc expected received : Sequence) (he : e.payload = .orderBookDelta d)
      (hcurr : a.depth.sequence = some curr) (hnext : d.sequenceRange.start = Sequence.next curr)
      (hoc : o.currentSequence = some oc) (hgap : oc.val + 1 < d.sequenceRange.stop.val) :
      Outcome a o e (.ok (.resyncRequired expected received), a)
  | snapshot (s : DepthSnapshot P Q) (o' : OhlcvAggregator P Q) (he : e.payload = .orderBookSnapshot s)
      (hdepth : DepthAggregator.applySnapshot s a.depth = (.ok (.accepted s.sequence), a.depth.rebase s))
      (hnoted : Noted o s.sequence o') :
      Outcome a o e (.ok (.contiguous s.sequence), { a with depth := a.depth.rebase s, ohlcv := some o' })
  | delta (d : DepthDelta P Q) (o' : OhlcvAggregator P Q) (he : e.payload = .orderBookDelta d)
      (hlatch : a.isResyncRequired = false)
      (hdepth : DepthAggregator.applyDelta d a.depth = (.ok (.contiguous d.sequenceRange.stop), a.depth.edited d))
      (hnoted : Noted o d.sequenceRange.stop o') :
      Outcome a o e (.ok (.contiguous d.sequenceRange.stop),
        { a with depth := a.depth.edited d, ohlcv := some o' })
  | candle (c : Candle P Q) (o' : OhlcvAggregator P Q) (he : e.payload = .candle c)
      (hlatch : a.isResyncRequired = false) (htakes : OhlcvAggregator.Takes o e.sequence o') :
      Outcome a o e (.ok (.contiguous e.sequence), { a with ohlcv := some o' })

section

variable {a : MarketAggregator P Q} {o : OhlcvAggregator P Q}

omit [LinearOrder P] [Price P] [Quantity Q] in
lemma isResyncRequired_eq (ho : a.ohlcv = some o) :
    a.isResyncRequired = (a.depth.resyncRequired || o.resyncRequired) := by
  rw [isResyncRequired, ho]
  rfl

lemma noted_of_tick {price : P} {quantity : Q} {timestampMs : I64} {seq : Sequence}
    {c : DeltaClassification}
    {o' : OhlcvAggregator P Q} (hlatch : o.resyncRequired = false)
    (h : OhlcvAggregator.applyTick price quantity timestampMs (some seq) o = (.ok c, o')) :
    (c.isResyncRequired = false ∧ Noted o seq o') ∨
      (∃ expected received, c = .resyncRequired expected received) ∧ c.isResyncRequired = true ∧
        ∃ oc, o.currentSequence = some oc ∧ oc.val + 1 < seq.val := by
  have hout := OhlcvAggregator.applyTick_outcome o price quantity timestampMs seq
  rw [h] at hout
  cases hout with
  | latched _ _ htrue => exact absurd (hlatch.symm.trans htrue) Bool.false_ne_true
  | stale curr hcurr hlt => exact .inl ⟨rfl, hlatch, .inl ⟨rfl, curr, hcurr, Nat.le_of_lt hlt⟩⟩
  | duplicate hcurr => exact .inl ⟨rfl, hlatch, .inl ⟨rfl, seq, hcurr, Nat.le_refl _⟩⟩
  | gap curr hcurr hlt hne =>
    refine .inr ⟨⟨_, _, rfl⟩, rfl, curr, hcurr, ?_⟩
    have hval : seq.val ≠ (Sequence.next curr).val := fun heq => hne (Unsigned.ext heq)
    have hfits := seq.lt
    rw [Sequence.next_val] at hval
    simp only [Unsigned.lt_def] at hlt
    omega
  | kept o' htakes =>
    exact .inl ⟨rfl, htakes.unlatched.2, .inr ⟨htakes.current, fun curr hcurr => (htakes.next curr hcurr).2⟩⟩

section

variable (ho : a.ohlcv = some o)

include ho

lemma applySnapshot_outcome {e : CanonicalFeedEnvelope P Q} {s : DepthSnapshot P Q}
    (he : e.payload = .orderBookSnapshot s) : Outcome a o e (applySnapshot s a) := by
  unfold applySnapshot
  rw [Call.read_bind]
  refine Call.check_cases .failed ?_
  rintro ⟨c, depth⟩ hcopy
  have hdepth := Call.onCopy_eq_ok.1 hcopy
  have hout := DepthAggregator.applySnapshot_outcome a.depth s
  rw [hdepth] at hout
  cases hout with
  | behind c hbehind =>
    cases c with
    | accepted n =>
      cases hcurr : a.depth.sequence with
      | none => simp [DepthAggregator.behind, hcurr] at hbehind
      | some curr =>
        simp only [DepthAggregator.behind, hcurr] at hbehind
        split_ifs at hbehind <;> simp at hbehind
    | duplicate seq => exact .duplicate seq
    | stale seq curr => exact .stale seq curr
  | accepted hnew =>
    simp only [ho]
    refine Call.check_cases .failed fun mid _ => ?_
    by_cases hrecovery : a.isRecovery o s = true
    · rw [if_pos hrecovery]
      refine Call.check_cases .failed fun candle _ => ?_
      refine Call.check_cases .failed ?_
      rintro ⟨u, o'⟩ hreset
      have hbase := OhlcvAggregator.resetWithBaseline_outcome o s.sequence candle
      rw [Call.onCopy_eq_ok.1 hreset] at hbase
      cases hbase with
      | reset o' hlatch hcurrent habove =>
        exact .snapshot s o' he hdepth ⟨hlatch, .inr ⟨hcurrent, habove⟩⟩
    · rw [if_neg hrecovery]
      refine Call.check_cases .failed ?_
      rintro ⟨tick, o'⟩ htick
      simp only [isRecovery, Bool.or_eq_true, not_or, Bool.not_eq_true] at hrecovery
      rcases noted_of_tick hrecovery.1.2 (Call.onCopy_eq_ok.1 htick) with
        ⟨hclass, hnoted⟩ | ⟨-, hclass, oc, hoc, hgap⟩
      · simp only [hclass]
        exact .snapshot s o' he hdepth hnoted
      · -- A snapshot with a gap is a recovery.
        have hclose := hrecovery.2
        simp only [hoc, decide_eq_false_iff_not, Unsigned.lt_def, not_lt] at hclose
        have hle := Sequence.next_le oc
        omega

lemma applyDelta_outcome {e : CanonicalFeedEnvelope P Q} {d : DepthDelta P Q}
    (he : e.payload = .orderBookDelta d) : Outcome a o e (applyDelta d a) := by
  unfold applyDelta
  rw [Call.read_bind]
  by_cases hlatched : a.isResyncRequired = true
  · rw [if_pos hlatched]
    exact .latched _ _ hlatched
  · rw [if_neg hlatched]
    have hopen : a.isResyncRequired = false := Bool.eq_false_of_not_eq_true hlatched
    have hparts := hopen
    rw [isResyncRequired_eq ho, Bool.or_eq_false_iff] at hparts
    refine Call.check_cases .failed ?_
    rintro ⟨c, depth⟩ hcopy
    have hdepth := Call.onCopy_eq_ok.1 hcopy
    have hout := DepthAggregator.applyDelta_outcome a.depth d
    rw [hdepth] at hout
    cases hout with
    | latched _ _ htrue => exact absurd (hparts.1.symm.trans htrue) Bool.false_ne_true
    | stale curr => exact .stale _ _
    | duplicate curr => exact .duplicate _
    | gap expected received =>
      refine .gap _ _ fun d' n depth' he' hcontiguous => ?_
      cases he.symm.trans he'
      cases hdepth.symm.trans hcontiguous
    | contiguous curr hcurr hlatch hnext hlt =>
      simp only [ho]
      refine Call.check_cases .failed fun mid _ => ?_
      refine Call.check_cases .failed ?_
      rintro ⟨tick, o'⟩ htick
      rcases noted_of_tick hparts.2 (Call.onCopy_eq_ok.1 htick) with
        ⟨hclass, hnoted⟩ | ⟨⟨expected, received, rfl⟩, hclass, oc, hoc, hgap⟩
      · simp only [hclass]
        exact .delta d o' he hopen hdepth hnoted
      · simp only [hclass]
        exact .lost d curr oc expected received he hcurr hnext hoc hgap

lemma applyCandle_outcome {e : CanonicalFeedEnvelope P Q} {c : Candle P Q}
    (he : e.payload = .candle c) : Outcome a o e (applyCandle c e.sequence a) := by
  unfold applyCandle
  rw [Call.read_bind]
  by_cases hlatched : a.isResyncRequired = true
  · rw [if_pos hlatched]
    exact .latched _ _ hlatched
  · rw [if_neg hlatched]
    have hsame : { a with ohlcv := some o } = a := by rw [← ho]
    simp only [ho]
    refine Call.check_cases .failed ?_
    rintro ⟨classification, o'⟩ hcopy
    have hout := OhlcvAggregator.applyCandle_outcome o c e.sequence
    rw [Call.onCopy_eq_ok.1 hcopy] at hout
    cases hout with
    | latched expected received htrue =>
      exact absurd (by rw [isResyncRequired_eq ho, htrue, Bool.or_true]) hlatched
    | stale curr hcurr hlt => exact hsame.symm ▸ .stale _ _
    | duplicate hcurr => exact hsame.symm ▸ .duplicate _
    | gap curr hcurr hlt hne =>
      refine .gap _ _ fun d n depth' he' => ?_
      cases he.symm.trans he'
    | kept o' htakes => exact .candle c o' he (Bool.eq_false_of_not_eq_true hlatched) htakes

lemma applyEnvelope_outcome (e : CanonicalFeedEnvelope P Q) :
    Outcome a o e (applyEnvelope e a) := by
  cases hpayload : e.payload with
  | poolState p =>
    simp only [applyEnvelope, hpayload]
    exact .failed _
  | orderBookSnapshot s =>
    simp only [applyEnvelope, hpayload]
    exact applySnapshot_outcome ho hpayload
  | orderBookDelta d =>
    simp only [applyEnvelope, hpayload]
    exact applyDelta_outcome ho hpayload
  | candle c =>
    simp only [applyEnvelope, hpayload]
    exact applyCandle_outcome ho hpayload

end

inductive ResetOutcome (a : MarketAggregator P Q) (o : OhlcvAggregator P Q) (s : DepthSnapshot P Q) :
    Except MarketTypeError Unit × MarketAggregator P Q → Prop where
  | failed (e : MarketTypeError) : ResetOutcome a o s (.error e, a)
  | reset (o' : OhlcvAggregator P Q) (hlatch : o'.resyncRequired = false)
      (hcurrent : o'.currentSequence = some s.sequence) (hvalid : s.validate = .ok ())
      (htarget : s.target = a.depth.target) :
      ResetOutcome a o s (.ok (), { a with depth := a.depth.rebase s, ohlcv := some o' })

lemma resetWithSnapshot_outcome (ho : a.ohlcv = some o) (s : DepthSnapshot P Q) :
    ResetOutcome a o s (resetWithSnapshot s a) := by
  unfold resetWithSnapshot
  rw [Call.read_bind]
  refine Call.check_cases .failed ?_
  rintro ⟨u, depth⟩ hcopy
  have hout := DepthAggregator.resetWithSnapshot_outcome a.depth s
  rw [Call.onCopy_eq_ok.1 hcopy] at hout
  cases hout with
  | reset hvalid htarget =>
    simp only [ho]
    refine Call.check_cases .failed fun mid _ => ?_
    refine Call.check_cases .failed fun candle _ => ?_
    refine Call.check_cases .failed ?_
    rintro ⟨u, o'⟩ hreset
    have hbase := OhlcvAggregator.resetWithBaseline_outcome o s.sequence candle
    rw [Call.onCopy_eq_ok.1 hreset] at hbase
    cases hbase with
    | reset o' hlatch hcurrent habove => exact .reset o' hlatch hcurrent hvalid htarget

end

/-! ### Runs -/

section

inductive Act (P Q : Type) where
  | applyEnvelope (e : CanonicalFeedEnvelope P Q)
  | resetWithSnapshot (s : DepthSnapshot P Q)
  | triggerResync

inductive Answer where
  | envelope (c : DeltaClassification)
  | reset
  | triggered
deriving DecidableEq

def call : Act P Q → Call (MarketAggregator P Q) MarketTypeError Answer
  | .applyEnvelope e => do return .envelope (← applyEnvelope e)
  | .resetWithSnapshot s => do
    resetWithSnapshot s
    return .reset
  | .triggerResync => fun a => (.ok .triggered, a.triggerResync)

abbrev machine (P Q : Type) [LinearOrder P] [Price P] [Quantity Q] :
    Machine (Act P Q) fun _ => Except MarketTypeError Answer where
  State := MarketAggregator P Q
  step a act := call act a

structure InStep (a : MarketAggregator P Q) (o : OhlcvAggregator P Q) : Prop where
  ohlcv : a.ohlcv = some o
  latch : a.depth.resyncRequired = o.resyncRequired
  sequence : ∀ curr, a.depth.sequence = some curr → ∃ oc, o.currentSequence = some oc ∧ curr ≤ oc

/-- A delta that starts right after the depth sequence ends at most one above the candle sequence. -/
def OneStep (a : MarketAggregator P Q) (act : Act P Q) : Prop :=
  ∀ e d, act = .applyEnvelope e → e.payload = .orderBookDelta d →
    ∀ curr o oc, a.depth.sequence = some curr → a.ohlcv = some o → o.currentSequence = some oc →
      d.sequenceRange.start = Sequence.next curr → d.sequenceRange.stop.val ≤ oc.val + 1

def Renews (act : Act P Q) (x : Except MarketTypeError Answer) : Prop :=
  (∃ e s n, act = .applyEnvelope e ∧ e.payload = .orderBookSnapshot s ∧ x = .ok (.envelope (.contiguous n))) ∨
    x = .ok .reset

def AsksResync (x : Except MarketTypeError Answer) : Prop :=
  ∃ expected received, x = .ok (.envelope (.resyncRequired expected received))

/-- What a call, answered with `x`, does to an aggregator with candles `o` that remembers its resyncs. -/
structure Remembers (a : MarketAggregator P Q) (o : OhlcvAggregator P Q) (act : Act P Q)
    (x : Except MarketTypeError Answer) (a' : MarketAggregator P Q) (o' : OhlcvAggregator P Q) : Prop where
  next : InStep a' o'
  latched : AsksResync x → a'.depth.resyncRequired = true ∧ o'.resyncRequired = true
  sticky : a.isResyncRequired = true → a'.depth.resyncRequired = true ∧ o'.resyncRequired = true ∨ Renews act x
  unchanged : (∃ err, x = .error err) ∨ AsksResync x →
    (a'.depth.bids = a.depth.bids ∧ a'.depth.asks = a.depth.asks ∧ a'.depth.sequence = a.depth.sequence) ∧
      (o'.activeWindow = o.activeWindow ∧ o'.retainedCandles = o.retainedCandles ∧
        o'.currentSequence = o.currentSequence)
  answered : ∀ e d n depth', act = .applyEnvelope e → e.payload = .orderBookDelta d →
    DepthAggregator.applyDelta d a.depth = (.ok (.contiguous n), depth') → ¬AsksResync x

variable {a : MarketAggregator P Q} {o o' : OhlcvAggregator P Q} {act : Act P Q}
  {x : Except MarketTypeError Answer}

lemma call_applyEnvelope (e : CanonicalFeedEnvelope P Q) (a : MarketAggregator P Q) :
    call (.applyEnvelope e) a = ((applyEnvelope e a).1.map Answer.envelope, (applyEnvelope e a).2) :=
  Call.bind_pure_apply _ _ _

lemma call_resetWithSnapshot (s : DepthSnapshot P Q) (a : MarketAggregator P Q) :
    call (.resetWithSnapshot s) a =
      ((resetWithSnapshot s a).1.map fun _ => Answer.reset, (resetWithSnapshot s a).2) :=
  Call.bind_pure_apply _ (fun _ => Answer.reset) _

omit [LinearOrder P] [Price P] [Quantity Q] in
lemma InStep.latched (h : InStep a o) (hlatch : a.isResyncRequired = true) :
    a.depth.resyncRequired = true ∧ o.resyncRequired = true := by
  rw [isResyncRequired_eq h.ohlcv, ← h.latch, Bool.or_self] at hlatch
  exact ⟨hlatch, h.latch ▸ hlatch⟩

lemma not_contiguous_of_latched (hlatch : a.depth.resyncRequired = true) {d : DepthDelta P Q} {n : Sequence}
    {depth' : DepthAggregator P Q} : DepthAggregator.applyDelta d a.depth ≠ (.ok (.contiguous n), depth') := by
  intro h
  have hout := DepthAggregator.applyDelta_outcome a.depth d
  rw [h] at hout
  cases hout with
  | contiguous curr hcurr hopen hnext hlt => exact Bool.false_ne_true (hopen.symm.trans hlatch)

lemma InStep.same (h : InStep a o) (hx : AsksResync x → a.isResyncRequired = true) :
    Remembers a o act x a o where
  next := h
  latched hasks := h.latched (hx hasks)
  sticky hlatch := .inl (h.latched hlatch)
  unchanged _ := ⟨⟨rfl, rfl, rfl⟩, rfl, rfl, rfl⟩
  answered _ _ _ _ _ _ hdepth hasks := not_contiguous_of_latched (h.latched (hx hasks)).1 hdepth

lemma InStep.trigger (h : InStep a o)
    (hdepth : ∀ e d n depth', act = .applyEnvelope e → e.payload = .orderBookDelta d →
      DepthAggregator.applyDelta d a.depth ≠ (.ok (.contiguous n), depth')) :
    Remembers a o act x a.triggerResync o.triggerResync where
  next := ⟨by rw [triggerResync, h.ohlcv]; rfl, rfl, h.sequence⟩
  latched _ := ⟨rfl, rfl⟩
  sticky _ := .inl ⟨rfl, rfl⟩
  unchanged _ := ⟨⟨rfl, rfl, rfl⟩, rfl, rfl, rfl⟩
  answered e d n depth' hact he hcontiguous := absurd hcontiguous (hdepth e d n depth' hact he)

lemma InStep.advance {a' : MarketAggregator P Q} (hnext : InStep a' o') (herr : ∀ err, x ≠ .error err)
    (hasks : ¬AsksResync x) (hsticky : a.isResyncRequired = true → Renews act x) : Remembers a o act x a' o' where
  next := hnext
  latched hresync := absurd hresync hasks
  sticky hlatch := .inr (hsticky hlatch)
  unchanged hx := by
    rcases hx with ⟨err, hx⟩ | hx
    · exact absurd hx (herr err)
    · exact absurd hx hasks
  answered _ _ _ _ _ _ _ := hasks

omit [LinearOrder P] [Price P] [Quantity Q] in
lemma Noted.in_step {seq : Sequence} (h : Noted o seq o') :
    ∃ oc, o'.currentSequence = some oc ∧ seq ≤ oc := by
  rcases h.2 with ⟨rfl, hcurr⟩ | ⟨hcurr, -⟩
  · exact hcurr
  · exact ⟨seq, hcurr, Nat.le_refl _⟩

lemma InStep.applyEnvelope (h : InStep a o) (e : CanonicalFeedEnvelope P Q)
    (hok : OneStep a (.applyEnvelope e)) :
    ∃ o', Remembers a o (.applyEnvelope e) (call (.applyEnvelope e) a).1 (call (.applyEnvelope e) a).2 o' := by
  have hout := applyEnvelope_outcome h.ohlcv e
  rw [call_applyEnvelope]
  generalize MarketAggregator.applyEnvelope e a = r at hout ⊢
  cases hout with
  | failed err => exact ⟨o, h.same (by rintro ⟨_, _, hx⟩; cases hx)⟩
  | stale seq curr => exact ⟨o, h.same (by rintro ⟨_, _, hx⟩; cases hx)⟩
  | duplicate seq => exact ⟨o, h.same (by rintro ⟨_, _, hx⟩; cases hx)⟩
  | latched expected received hlatch => exact ⟨o, h.same fun _ => hlatch⟩
  | gap expected received hdepth =>
    refine ⟨o.triggerResync, h.trigger fun e' d n depth' hact he => ?_⟩
    cases hact
    exact hdepth d n depth' he
  | lost d curr oc expected received he hcurr hnext hoc hgap =>
    have hle := hok e d rfl he curr o oc hcurr h.ohlcv hoc hnext
    omega
  | snapshot s o' he hdepth hnoted =>
    refine ⟨o', InStep.advance ⟨rfl, hnoted.1.symm, ?_⟩ (by simp [Except.map]) ?_ ?_⟩
    · rintro curr hcurr
      cases hcurr
      exact hnoted.in_step
    · rintro ⟨_, _, hx⟩
      cases hx
    · exact fun _ => .inl ⟨e, s, s.sequence, rfl, he, rfl⟩
  | delta d o' he hlatch hdepth hnoted =>
    have hopen := hlatch
    rw [isResyncRequired_eq h.ohlcv, Bool.or_eq_false_iff] at hopen
    refine ⟨o', InStep.advance ⟨rfl, hopen.1.trans hnoted.1.symm, ?_⟩ (by simp [Except.map]) ?_ ?_⟩
    · rintro curr hcurr
      cases hcurr
      exact hnoted.in_step
    · rintro ⟨_, _, hx⟩
      cases hx
    · exact fun htrue => absurd (hlatch.symm.trans htrue) Bool.false_ne_true
  | candle c o' he hlatch htakes =>
    have hopen := hlatch
    rw [isResyncRequired_eq h.ohlcv, Bool.or_eq_false_iff] at hopen
    refine ⟨o', InStep.advance ⟨rfl, hopen.1.trans htakes.unlatched.2.symm, ?_⟩ (by simp [Except.map]) ?_ ?_⟩
    · intro curr hcurr
      obtain ⟨oc, hoc, hle⟩ := h.sequence curr hcurr
      exact ⟨e.sequence, htakes.current, Nat.le_of_lt (Nat.lt_of_le_of_lt hle (htakes.next oc hoc).2)⟩
    · rintro ⟨_, _, hx⟩
      cases hx
    · exact fun htrue => absurd (hlatch.symm.trans htrue) Bool.false_ne_true

lemma InStep.call (h : InStep a o) (hok : OneStep a act) :
    ∃ o', Remembers a o act (call act a).1 (call act a).2 o' := by
  cases act with
  | applyEnvelope e => exact h.applyEnvelope e hok
  | resetWithSnapshot s =>
    have hout := resetWithSnapshot_outcome h.ohlcv s
    rw [call_resetWithSnapshot]
    generalize MarketAggregator.resetWithSnapshot s a = r at hout ⊢
    cases hout with
    | failed err => exact ⟨o, h.same (by rintro ⟨_, _, hx⟩; cases hx)⟩
    | reset o' hlatch hcurrent hvalid htarget =>
      refine ⟨o', InStep.advance ⟨rfl, hlatch.symm, ?_⟩ (by simp [Except.map]) ?_ fun _ => .inr rfl⟩
      · rintro curr hcurr
        cases hcurr
        exact ⟨s.sequence, hcurrent, Nat.le_refl _⟩
      · rintro ⟨_, _, hx⟩
        cases hx
  | triggerResync =>
    refine ⟨o.triggerResync, h.trigger fun e d n depth' hact => ?_⟩
    cases hact

omit [LinearOrder P] [Price P] [Quantity Q] in
lemma forInstrument_eq_ok {instrument : InstrumentId} {timeframe : CandleTimeframe}
    {maxDepthLevels maxRetained : ℕ} (h : forInstrument instrument timeframe maxDepthLevels maxRetained = .ok a) :
    a = ⟨.instrument instrument, ⟨.instrument instrument, none, none, [], [], maxDepthLevels, false⟩,
      some ⟨instrument, timeframe, maxRetained, none, none, false, none, []⟩⟩ := by
  obtain ⟨depth, hdepth, h⟩ := bind_ok.1 h
  obtain ⟨ohlcv, hohlcv, hreturn⟩ := bind_ok.1 h
  obtain ⟨_, -, hdepth⟩ := bind_ok.1 hdepth
  obtain ⟨_, -, hdepth⟩ := bind_ok.1 hdepth
  obtain ⟨_, -, hohlcv⟩ := bind_ok.1 hohlcv
  simp only [ensure_ok] at hohlcv
  cases hdepth
  cases hohlcv.2.2
  cases hreturn
  rfl

omit [LinearOrder P] [Price P] [Quantity Q] in
lemma InStep.new {instrument : InstrumentId} {timeframe : CandleTimeframe} {maxDepthLevels maxRetained : ℕ}
    (hnew : forInstrument instrument timeframe maxDepthLevels maxRetained = .ok a) : ∃ o, InStep a o := by
  rw [forInstrument_eq_ok hnew]
  exact ⟨_, rfl, rfl, by simp⟩

/-- **A resync is latched** by both components, in every run whose deltas the candles can follow. -/
theorem resync_is_latched (instrument : InstrumentId) (timeframe : CandleTimeframe)
    (maxDepthLevels maxRetained : ℕ) (a₀ : MarketAggregator P Q)
    (hnew : forInstrument instrument timeframe maxDepthLevels maxRetained = .ok a₀) (acts : List (Act P Q))
    (hsteps : (machine P Q).Meets OneStep a₀ acts) :
    ∀ pre act rest, acts = pre ++ act :: rest →
      let a : MarketAggregator P Q := (machine P Q).run a₀ pre
      ∃ o o', InStep a o ∧ Remembers a o act (call act a).1 (call act a).2 o' := by
  rintro pre act rest rfl a
  obtain ⟨hpre, hok, -⟩ := Machine.meets_append.1 hsteps
  have hin : ∃ o, InStep a o := Machine.Meets.invariant (M := machine P Q) (P := fun a => ∃ o, InStep a o) hpre
    (InStep.new hnew) fun s act' hs hok' => by
      obtain ⟨o, hs⟩ := hs
      obtain ⟨o', hstep⟩ := hs.call hok'
      exact ⟨o', hstep.next⟩
  obtain ⟨o, hin⟩ := hin
  obtain ⟨o', hstep⟩ := hin.call hok
  exact ⟨o, o', hin, hstep⟩

end

/-! A snapshot at sequence 1, over whole numbers for prices and quantities. -/

section

def Sample.instrument : InstrumentId := ⟨⟨.solana, "a"⟩, ⟨.solana, "b"⟩⟩

def Sample.fresh : MarketAggregator ℕ ℕ :=
  ⟨.instrument Sample.instrument, ⟨.instrument Sample.instrument, none, none, [], [], 2, false⟩,
    some ⟨Sample.instrument, .s1, 2, none, none, false, none, []⟩⟩

def Sample.snapshot : CanonicalFeedEnvelope ℕ ℕ :=
  ⟨.lit 1, .orderBookSnapshot ⟨.instrument Sample.instrument, .lit 1, .lit 5, [⟨10, 4⟩], [⟨20, 6⟩]⟩⟩

def Sample.delta (start stop : ℕ) : CanonicalFeedEnvelope ℕ ℕ :=
  ⟨.lit stop, .orderBookDelta ⟨.instrument Sample.instrument, ⟨.lit start, .lit stop⟩, .lit 6, [⟨10, 5⟩], []⟩⟩

lemma Sample.fresh_new : forInstrument Sample.instrument .s1 2 2 = .ok Sample.fresh := by decide +kernel

/-- A delta that follows the snapshot, and a gap: the resync that is answered is latched by both. -/
theorem sample_gap_is_latched :
    let a : MarketAggregator ℕ ℕ := (machine ℕ ℕ).run Sample.fresh
      [.applyEnvelope Sample.snapshot, .applyEnvelope (Sample.delta 2 2)]
    let x := (call (.applyEnvelope (Sample.delta 4 4)) a).1
    x = .ok (.envelope (.resyncRequired (.lit 3) (.lit 4))) ∧
      (call (.applyEnvelope (Sample.delta 4 4)) a).2.depth.resyncRequired = true := by
  intro a x
  have hx : x = .ok (.envelope (.resyncRequired (.lit 3) (.lit 4))) := by decide +kernel
  have hfirst : (call (.applyEnvelope Sample.snapshot) Sample.fresh).2.ohlcv.bind OhlcvAggregator.currentSequence =
      some (.lit 1) := by decide +kernel
  have hdepth : a.depth.sequence = some (.lit 2) := by decide +kernel
  have hsteps : (machine ℕ ℕ).Meets OneStep Sample.fresh
      [.applyEnvelope Sample.snapshot, .applyEnvelope (Sample.delta 2 2), .applyEnvelope (Sample.delta 4 4)] := by
    refine ⟨?_, ?_, ?_, trivial⟩
    · rintro e d he hd
      cases he
      cases hd
    · rintro e d he hd curr o oc - ho hoc -
      cases he
      cases hd
      change (call (.applyEnvelope Sample.snapshot) Sample.fresh).2.ohlcv = some o at ho
      rw [ho, Option.bind_some, hoc] at hfirst
      cases hfirst
      decide
    · rintro e d he hd curr o oc hcurr ho hoc hnext
      cases he
      cases hd
      cases hdepth.symm.trans hcurr
      exact absurd hnext (by decide)
  obtain ⟨o, o', -, hstep⟩ := resync_is_latched Sample.instrument .s1 2 2 Sample.fresh Sample.fresh_new _ hsteps
    [.applyEnvelope Sample.snapshot, .applyEnvelope (Sample.delta 2 2)] (.applyEnvelope (Sample.delta 4 4)) [] rfl
  exact ⟨hx, (hstep.latched ⟨_, _, hx⟩).1⟩

/-- A delta of two sequences right after the snapshot: the depth alone accepts it, the answer is that a
resync is required, and neither component is latched. -/
theorem resync_is_forgotten :
    let a : MarketAggregator ℕ ℕ := (machine ℕ ℕ).run Sample.fresh [.applyEnvelope Sample.snapshot]
    forInstrument Sample.instrument .s1 2 2 = .ok Sample.fresh ∧
      (call (.applyEnvelope (Sample.delta 2 3)) a).1 = .ok (.envelope (.resyncRequired (.lit 2) (.lit 3))) ∧
      (call (.applyEnvelope (Sample.delta 2 3)) a).2.isResyncRequired = false ∧
      (DepthAggregator.applyDelta
        ⟨.instrument Sample.instrument, ⟨.lit 2, .lit 3⟩, .lit 6, [⟨10, 5⟩], []⟩ a.depth).1 =
        .ok (.contiguous (.lit 3)) := by
  decide +kernel

end

end MarketAggregator

end PrivateExecution
