import PrivateExecution.Market.Aggregation
import PrivateExecution.Market.Queue

/-!
# The consumer batcher

`MarketConsumerBatcher` puts an aggregator and a consumer queue behind one call
(`market-types/src/consumer.rs`): an envelope is applied to a copy of the aggregator, and what it
accepts is queued for the consumer.
-/

namespace PrivateExecution.Consumer

open Async

/-! ### Outputs -/

inductive AggregationOutput (P Q : Type) where
  | depthSnapshot (s : DepthSnapshot P Q)
  | depthDelta (d : DepthDelta P Q)
  | candle (c : Candle P Q)
deriving DecidableEq

abbrev MarketItem (P Q : Type) := ConsumerBatchItem (AggregationOutput P Q)

section

variable {P Q : Type} [LinearOrder P] [Price P] [Quantity Q]

def fromDepthSnapshot (s : DepthSnapshot P Q) :
    Except MarketTypeError (MarketItem P Q) := do
  s.validate
  let range ← SequenceRange.point s.sequence
  return ⟨s.target, range, s.timestampMs, .depthSnapshot s⟩

def fromDepthDelta (d : DepthDelta P Q) :
    Except MarketTypeError (MarketItem P Q) := do
  d.validate
  return ⟨d.target, d.sequenceRange, d.timestampMs, .depthDelta d⟩

def fromCandle (target : FeedTarget) (sequence : Sequence) (c : Candle P Q) :
    Except MarketTypeError (MarketItem P Q) := do
  target.validate
  c.validate
  let range ← SequenceRange.point sequence
  return ⟨target, range, c.closeTimeMs, .candle c⟩

def ConsumerBatchQueue.resetWithSnapshot (s : DepthSnapshot P Q) :
    Call (ConsumerBatchQueue (AggregationOutput P Q)) MarketTypeError Unit := do
  let q ← Call.read
  Call.check s.validate
  Call.check (ensure (s.target = q.target) .targetMismatch)
  Call.check (q.streamTracker.currentSequence.forM fun curr => do
    ensure (¬s.sequence < curr) (.staleSequence s.sequence.val curr.val)
    ensure (s.sequence ≠ curr) (.duplicateSequence s.sequence.val))
  let item ← Call.check (fromDepthSnapshot s)
  ConsumerBatchQueue.resetWithBaseline s.sequence s.timestampMs (some item)

end

/-! ### The batcher -/

structure MarketConsumerBatcher (P Q : Type) where
  aggregator : MarketAggregator P Q
  queue : ConsumerBatchQueue (AggregationOutput P Q)
deriving DecidableEq

namespace MarketConsumerBatcher

variable {P Q : Type} [LinearOrder P] [Price P] [Quantity Q]

def new (aggregator : MarketAggregator P Q) (config : ConsumerBatchConfig) :
    Except MarketTypeError (MarketConsumerBatcher P Q) := do
  let queue ← ConsumerBatchQueue.new aggregator.target config
  return ⟨aggregator, queue⟩

variable (b : MarketConsumerBatcher P Q) (e : CanonicalFeedEnvelope P Q)

def isResyncRequired : Bool :=
  b.aggregator.isResyncRequired || b.queue.streamTracker.resyncRequired

def triggerResync : MarketConsumerBatcher P Q :=
  ⟨b.aggregator.triggerResync, b.queue.triggerResync⟩

def received : Except MarketTypeError Sequence :=
  match e.payload with
  | .orderBookDelta d => .ok d.sequenceRange.start
  | .orderBookSnapshot s => .ok s.sequence
  | .candle _ => .ok e.sequence
  | .poolState _ => .error (.unsupportedPayloadForTarget "pool state")

/-- Queues an item and keeps both components, unless the queue requires a resync. -/
def keepItem (staged : MarketAggregator P Q) (classification : DeltaClassification)
    (item : MarketItem P Q) :
    Call (MarketConsumerBatcher P Q) MarketTypeError DeltaClassification := do
  let b ← Call.read
  let (queued, queue) ← Call.check ((ConsumerBatchQueue.enqueueItem item).onCopy b.queue)
  if queued.isResyncRequired then
    Call.write b.triggerResync
    return queued
  Call.write ⟨staged, queue⟩
  return classification

def applyEnvelope : Call (MarketConsumerBatcher P Q) MarketTypeError DeltaClassification := do
  let b ← Call.read
  if b.isResyncRequired then
    let seq ← Call.check (received e)
    return .resyncRequired (Sequence.expected b.aggregator.depth.sequence) seq
  Call.check b.queue.ensureRoom
  let (classification, staged) ← Call.check ((MarketAggregator.applyEnvelope e).onCopy b.aggregator)
  match classification with
  | .contiguous n =>
    match e.payload with
    | .orderBookSnapshot s =>
      let item ← Call.check (fromDepthSnapshot s)
      let (queued, queue) ← Call.check ((ConsumerBatchQueue.enqueueSnapshot item).onCopy b.queue)
      match queued with
      | .accepted m =>
        Call.write ⟨staged, queue⟩
        return .contiguous m
      | .duplicate sequence => return .duplicate sequence
      | .stale sequence current => return .stale sequence current
    | .orderBookDelta d =>
      let item ← Call.check (fromDepthDelta d)
      keepItem staged (.contiguous n) item
    | .candle c =>
      let item ← Call.check (fromCandle b.aggregator.target e.sequence c)
      keepItem staged (.contiguous n) item
    | .poolState _ => Call.check (.error (.unsupportedPayloadForTarget "pool state"))
  | .resyncRequired expected seq =>
    Call.write b.triggerResync
    return .resyncRequired expected seq
  | other => return other

def resetWithSnapshot (s : DepthSnapshot P Q) : Call (MarketConsumerBatcher P Q) MarketTypeError Unit := do
  let b ← Call.read
  let (_, aggregator) ← Call.check ((MarketAggregator.resetWithSnapshot s).onCopy b.aggregator)
  let (_, queue) ← Call.check ((ConsumerBatchQueue.resetWithSnapshot s).onCopy b.queue)
  Call.write ⟨aggregator, queue⟩

/-- A call on the queue alone: `pull_batch`, `acknowledge`, `consume_batch`. -/
def onQueue {A : Type} (m : Call (ConsumerBatchQueue (AggregationOutput P Q)) MarketTypeError A) :
    Call (MarketConsumerBatcher P Q) MarketTypeError A :=
  fun b => ((m b.queue).1, { b with queue := (m b.queue).2 })

end MarketConsumerBatcher

/-! ### Replaying -/

section

variable {P Q : Type} [LinearOrder P] [Price P] [Quantity Q]

def outputOf : CanonicalFeedPayload P Q → Option (AggregationOutput P Q)
  | .orderBookSnapshot s => some (.depthSnapshot s)
  | .orderBookDelta d => some (.depthDelta d)
  | .candle c => some (.candle c)
  | .poolState _ => none

/-- An output applied to a depth aggregator, which has to accept it; a candle is not for it. -/
def replayOutput (d : DepthAggregator P Q) : AggregationOutput P Q → Option (DepthAggregator P Q)
  | .depthSnapshot s =>
    match DepthAggregator.applySnapshot s d with
    | (.ok (.accepted _), d') => some d'
    | _ => none
  | .depthDelta delta =>
    match DepthAggregator.applyDelta delta d with
    | (.ok (.contiguous _), d') => some d'
    | _ => none
  | .candle _ => some d

def replay (d : DepthAggregator P Q) (items : List (MarketItem P Q)) :
    Option (DepthAggregator P Q) :=
  items.foldlM (fun d item => replayOutput d item.payload) d

lemma replay_append {d d' : DepthAggregator P Q} {items : List (MarketItem P Q)}
    (h : replay d items = some d') (item : MarketItem P Q) :
    replay d (items ++ [item]) = replayOutput d' item.payload := by
  unfold replay at h ⊢
  rw [List.foldlM_append, h]
  simp

end

/-! ### What an envelope can do -/

namespace MarketConsumerBatcher

variable {P Q : Type} [LinearOrder P] [Price P] [Quantity Q]

inductive EnvelopeOutcome (b : MarketConsumerBatcher P Q) (e : CanonicalFeedEnvelope P Q) :
    Except MarketTypeError DeltaClassification × MarketConsumerBatcher P Q → Prop where
  | held (x : Except MarketTypeError DeltaClassification) (hx : ∀ n, x ≠ .ok (.contiguous n)) :
      EnvelopeOutcome b e (x, b)
  | latched (expected received : Sequence) :
      EnvelopeOutcome b e (.ok (.resyncRequired expected received), b.triggerResync)
  | queued (output : AggregationOutput P Q) (item : MarketItem P Q)
      (a' : MarketAggregator P Q) (o' : OhlcvAggregator P Q) (q' : ConsumerBatchQueue (AggregationOutput P Q))
      (n : Sequence) (hlatch : b.aggregator.depth.resyncRequired = false)
      (houtput : outputOf e.payload = some output) (hitem : item.payload = output)
      (haccepts : ConsumerBatchQueue.Accepts b.queue item q')
      (hreplay : replayOutput b.aggregator.depth output = some a'.depth)
      (hdepth : a'.depth.target = b.aggregator.depth.target ∧ a'.depth.maxLevels = b.aggregator.depth.maxLevels ∧
        a'.depth.resyncRequired = false)
      (ho : a'.ohlcv = some o') (hcurrent : o'.currentSequence = some item.sequenceRange.stop) :
      EnvelopeOutcome b e (.ok (.contiguous n), ⟨a', q'⟩)
  | lost (d : DepthDelta P Q) (curr qc : Sequence) (x : Except MarketTypeError DeltaClassification)
      (b' : MarketConsumerBatcher P Q) (he : e.payload = .orderBookDelta d)
      (hcurr : b.aggregator.depth.sequence = some curr) (hnext : d.sequenceRange.start = Sequence.next curr)
      (hqc : b.queue.streamTracker.currentSequence = some qc) (hold : d.sequenceRange.stop ≤ qc) :
      EnvelopeOutcome b e (x, b')

section

variable {b : MarketConsumerBatcher P Q} {o : OhlcvAggregator P Q} {e : CanonicalFeedEnvelope P Q}

lemma fromDepthSnapshot_eq_ok {s : DepthSnapshot P Q} {item : MarketItem P Q}
    (h : fromDepthSnapshot s = .ok item) :
    item.payload = .depthSnapshot s ∧ item.sequenceRange.stop = s.sequence ∧ item.target = s.target := by
  obtain ⟨_, -, h⟩ := bind_ok.1 h
  obtain ⟨range, hrange, hreturn⟩ := bind_ok.1 h
  cases hreturn
  exact ⟨rfl, by rw [(SequenceRange.new_eq_ok.1 hrange).2], rfl⟩

omit [LinearOrder P] [Quantity Q] in
lemma fromDepthDelta_eq_ok {d : DepthDelta P Q} {item : MarketItem P Q}
    (h : fromDepthDelta d = .ok item) : item.payload = .depthDelta d ∧ item.sequenceRange = d.sequenceRange := by
  obtain ⟨_, -, hreturn⟩ := bind_ok.1 h
  cases hreturn
  exact ⟨rfl, rfl⟩

omit [Quantity Q] in
lemma fromCandle_eq_ok {target : FeedTarget} {sequence : Sequence} {c : Candle P Q}
    {item : MarketItem P Q} (h : fromCandle target sequence c = .ok item) :
    item.payload = .candle c ∧ item.sequenceRange.stop = sequence := by
  obtain ⟨_, -, h⟩ := bind_ok.1 h
  obtain ⟨_, -, h⟩ := bind_ok.1 h
  obtain ⟨range, hrange, hreturn⟩ := bind_ok.1 h
  cases hreturn
  exact ⟨rfl, by rw [(SequenceRange.new_eq_ok.1 hrange).2]⟩

lemma keepItem_outcome {staged : MarketAggregator P Q} {n : Sequence} (output : AggregationOutput P Q)
    {item : MarketItem P Q} (o' : OhlcvAggregator P Q)
    (hlatch : b.aggregator.depth.resyncRequired = false) (houtput : outputOf e.payload = some output)
    (hitem : item.payload = output) (hreplay : replayOutput b.aggregator.depth output = some staged.depth)
    (hdepth : staged.depth.target = b.aggregator.depth.target ∧
      staged.depth.maxLevels = b.aggregator.depth.maxLevels ∧ staged.depth.resyncRequired = false)
    (ho : staged.ohlcv = some o')
    (hcurrent : (∀ qc, b.queue.streamTracker.currentSequence = some qc → qc < item.sequenceRange.stop) →
      o'.currentSequence = some item.sequenceRange.stop)
    (hheld : ∀ qc, b.queue.streamTracker.currentSequence = some qc → item.sequenceRange.stop ≤ qc →
      ∀ x b', EnvelopeOutcome b e (x, b')) :
    EnvelopeOutcome b e (keepItem staged (.contiguous n) item b) := by
  unfold keepItem
  rw [Call.read_bind]
  refine Call.check_cases (fun _ => .held _ (by simp)) ?_
  rintro ⟨queued, q'⟩ hcopy
  have hout := ConsumerBatchQueue.enqueueItem_outcome b.queue item
  rw [Call.onCopy_eq_ok.1 hcopy] at hout
  cases hout with
  | held c curr hc hcurr hle =>
    simp only [hc.2]
    exact hheld curr hcurr hle _ _
  | resync expected received => exact .latched _ _
  | accepted q' curr haccepts hopen hcurr hstart =>
    exact .queued output item staged o' q' n hlatch houtput hitem haccepts hreplay hdepth ho
      (hcurrent haccepts.above)

omit [LinearOrder P] [Price P] [Quantity Q] in
lemma current_of_noted {seq : Sequence} {o' : OhlcvAggregator P Q}
    (hcursor : b.queue.streamTracker.currentSequence = o.currentSequence)
    (hnoted : MarketAggregator.Noted o seq o')
    (habove : ∀ qc, b.queue.streamTracker.currentSequence = some qc → qc < seq) :
    o'.currentSequence = some seq := by
  rcases hnoted.2 with ⟨-, oc, hoc, hle⟩ | ⟨hcurrent, -⟩
  · have hlt := habove oc (hcursor.trans hoc)
    exact absurd hle (Nat.not_le_of_lt hlt)
  · exact hcurrent

lemma applyEnvelope_outcome (ho : b.aggregator.ohlcv = some o)
    (hcursor : b.queue.streamTracker.currentSequence = o.currentSequence) (e : CanonicalFeedEnvelope P Q) :
    EnvelopeOutcome b e (applyEnvelope e b) := by
  unfold applyEnvelope
  rw [Call.read_bind]
  by_cases hlatched : b.isResyncRequired = true
  · rw [if_pos hlatched]
    refine Call.check_cases (fun _ => .held _ (by simp)) fun seq _ => ?_
    exact .held _ (by simp)
  · rw [if_neg hlatched]
    have hopen := Bool.eq_false_of_not_eq_true hlatched
    rw [isResyncRequired, Bool.or_eq_false_iff, MarketAggregator.isResyncRequired_eq ho,
      Bool.or_eq_false_iff] at hopen
    refine Call.check_cases (fun _ => .held _ (by simp)) fun _ _ => ?_
    refine Call.check_cases (fun _ => .held _ (by simp)) ?_
    rintro ⟨c, staged⟩ hcopy
    have hout := MarketAggregator.applyEnvelope_outcome ho e
    rw [Call.onCopy_eq_ok.1 hcopy] at hout
    cases hout with
    | stale seq curr => exact .held _ (by simp)
    | duplicate seq => exact .held _ (by simp)
    | latched expected received _ => exact .latched _ _
    | gap expected received _ => exact .latched _ _
    | lost d curr oc expected received he hcurr hnext hoc hgap => exact .latched _ _
    | snapshot s o' he hdepth hnoted =>
      simp only [he]
      refine Call.check_cases (fun _ => .held _ (by simp)) fun item hitem => ?_
      obtain ⟨hpayload, hstop, -⟩ := fromDepthSnapshot_eq_ok hitem
      refine Call.check_cases (fun _ => .held _ (by simp)) ?_
      rintro ⟨queued, q'⟩ hqueue
      have hsnap := ConsumerBatchQueue.enqueueSnapshot_outcome b.queue item
      rw [Call.onCopy_eq_ok.1 hqueue] at hsnap
      cases hsnap with
      | duplicate seq => exact .held _ (by simp)
      | stale seq curr => exact .held _ (by simp)
      | accepted q' haccepts =>
        refine .queued (.depthSnapshot s) item _ o' q' _ hopen.1.1 (by rw [he]; rfl) hpayload haccepts ?_
          ⟨rfl, rfl, rfl⟩ rfl ?_
        · simp only [replayOutput, hdepth]
        · rw [hstop]
          exact current_of_noted hcursor hnoted (hstop ▸ haccepts.above)
    | delta d o' he hlatch hdepth hnoted =>
      simp only [he]
      refine Call.check_cases (fun _ => .held _ (by simp)) fun item hitem => ?_
      obtain ⟨hpayload, hrange⟩ := fromDepthDelta_eq_ok hitem
      have hdout := DepthAggregator.applyDelta_outcome b.aggregator.depth d
      rw [hdepth] at hdout
      obtain ⟨curr, hcurr, hnext⟩ : ∃ curr, b.aggregator.depth.sequence = some curr ∧
          d.sequenceRange.start = Sequence.next curr := by
        generalize b.aggregator.depth.edited d = d' at hdout
        cases hdout with
        | contiguous curr hcurr _ hnext _ => exact ⟨curr, hcurr, hnext⟩
      refine keepItem_outcome (.depthDelta d) o' hopen.1.1 (by rw [he]; rfl) hpayload ?_
        ⟨rfl, rfl, hopen.1.1⟩ rfl ?_ ?_
      · simp only [replayOutput, hdepth]
      · rw [hrange]
        exact current_of_noted hcursor hnoted
      · rw [hrange]
        exact fun qc hqc hle x b' => .lost d curr qc x b' he hcurr hnext hqc hle
    | candle c o' he hlatch htakes =>
      simp only [he]
      refine Call.check_cases (fun _ => .held _ (by simp)) fun item hitem => ?_
      obtain ⟨hpayload, hstop⟩ := fromCandle_eq_ok hitem
      refine keepItem_outcome (.candle c) o' hopen.1.1 (by rw [he]; rfl) hpayload rfl
        ⟨rfl, rfl, hopen.1.1⟩ rfl ?_ ?_
      · rw [hstop]
        exact fun _ => htakes.current
      · rw [hstop]
        intro qc hqc hle
        have hlt := (htakes.next qc (hcursor.symm.trans hqc)).2
        exact absurd hle (Nat.not_le_of_lt hlt)

/-- What a reset can do with the queue. -/
inductive QueueReset (q : ConsumerBatchQueue (AggregationOutput P Q)) (s : DepthSnapshot P Q) :
    Except MarketTypeError Unit × ConsumerBatchQueue (AggregationOutput P Q) → Prop where
  | failed (err : MarketTypeError) : QueueReset q s (.error err, q)
  | reset (item : MarketItem P Q) (q' : ConsumerBatchQueue (AggregationOutput P Q))
      (hpayload : item.payload = .depthSnapshot s) (hqueue : q'.queue = [item])
      (hcurrent : q'.streamTracker.currentSequence = some s.sequence) : QueueReset q s (.ok (), q')

lemma queueReset_outcome (q : ConsumerBatchQueue (AggregationOutput P Q)) (s : DepthSnapshot P Q) :
    QueueReset q s (ConsumerBatchQueue.resetWithSnapshot s q) := by
  unfold ConsumerBatchQueue.resetWithSnapshot
  rw [Call.read_bind]
  refine Call.check_cases .failed fun _ _ => ?_
  refine Call.check_cases .failed fun _ _ => ?_
  refine Call.check_cases .failed fun _ _ => ?_
  refine Call.check_cases .failed fun item hitem => ?_
  unfold ConsumerBatchQueue.resetWithBaseline
  rw [Call.read_bind]
  refine Call.check_cases .failed fun _ _ => ?_
  refine Call.check_cases .failed fun _ _ => ?_
  refine Call.check_cases .failed fun total _ => ?_
  exact .reset item _ (fromDepthSnapshot_eq_ok hitem).1 rfl rfl

inductive ResetOutcome (b : MarketConsumerBatcher P Q) (s : DepthSnapshot P Q) :
    Except MarketTypeError Unit × MarketConsumerBatcher P Q → Prop where
  | failed (err : MarketTypeError) : ResetOutcome b s (.error err, b)
  | reset (item : MarketItem P Q) (o' : OhlcvAggregator P Q)
      (q' : ConsumerBatchQueue (AggregationOutput P Q)) (hvalid : s.validate = .ok ())
      (htarget : s.target = b.aggregator.depth.target) (hpayload : item.payload = .depthSnapshot s)
      (hqueue : q'.queue = [item]) (hcurrent : o'.currentSequence = some s.sequence)
      (hcursor : q'.streamTracker.currentSequence = o'.currentSequence) :
      ResetOutcome b s
        (.ok (), ⟨{ b.aggregator with depth := b.aggregator.depth.rebase s, ohlcv := some o' }, q'⟩)

lemma resetWithSnapshot_outcome (ho : b.aggregator.ohlcv = some o) (s : DepthSnapshot P Q) :
    ResetOutcome b s (resetWithSnapshot s b) := by
  unfold resetWithSnapshot
  rw [Call.read_bind]
  refine Call.check_cases .failed ?_
  rintro ⟨u, a'⟩ hagg
  refine Call.check_cases .failed ?_
  rintro ⟨v, q'⟩ hqueue
  have hreset := MarketAggregator.resetWithSnapshot_outcome ho s
  have hqreset := queueReset_outcome b.queue s
  rw [Call.onCopy_eq_ok.1 hagg] at hreset
  rw [Call.onCopy_eq_ok.1 hqueue] at hqreset
  cases hreset with
  | reset o' hlatch hcurrent hvalid htarget =>
    cases hqreset with
    | reset item q' hpayload hitems hqcurrent =>
      exact .reset item o' q' hvalid htarget hpayload hitems hcurrent (hqcurrent.trans hcurrent.symm)

end

/-! ### Runs -/

section

inductive Act (P Q : Type) where
  | applyEnvelope (e : CanonicalFeedEnvelope P Q)
  | resetWithSnapshot (s : DepthSnapshot P Q)
  | pullBatch
  | acknowledge (batchId : U64)
  | consumeBatch
  | triggerResync

inductive Answer (P Q : Type) where
  | envelope (c : DeltaClassification)
  | reset
  | batch (batch : Option (ConsumerBatch (AggregationOutput P Q)))
  | acknowledged (ack : ConsumerBatchAck)
  | triggered
deriving DecidableEq

def call : Act P Q → Call (MarketConsumerBatcher P Q) MarketTypeError (Answer P Q)
  | .applyEnvelope e => do return .envelope (← applyEnvelope e)
  | .resetWithSnapshot s => do
    resetWithSnapshot s
    return .reset
  | .pullBatch => do return .batch (← onQueue ConsumerBatchQueue.pullBatch)
  | .acknowledge batchId => do return .acknowledged (← onQueue (ConsumerBatchQueue.acknowledge batchId))
  | .consumeBatch => do return .batch (← onQueue ConsumerBatchQueue.consumeBatch)
  | .triggerResync => fun b => (.ok .triggered, b.triggerResync)

abbrev machine (P Q : Type) [LinearOrder P] [Price P] [Quantity Q] :
    Machine (Act P Q) fun _ => Except MarketTypeError (Answer P Q) where
  State := MarketConsumerBatcher P Q
  step b act := call act b

def noteDelivered (delivered : List (MarketItem P Q)) :
    (Σ _ : Act P Q, Except MarketTypeError (Answer P Q)) → List (MarketItem P Q)
  | ⟨_, .ok (.batch (some b))⟩ => delivered ++ b.items
  | ⟨_, .ok .reset⟩ => []
  | _ => delivered

def AddsUp (levels : List (DepthLevel P Q)) : Prop :=
  (levels.foldlM (fun sum l => Quantity.add sum l.quantity) Quantity.zero).isSome = true

variable (b : MarketConsumerBatcher P Q)

/-- A delta that starts right after the depth sequence ends above the sequence of the queue, and a
snapshot for a reset has quantities that add up, as far as they are kept. -/
def Quiet (act : Act P Q) : Prop :=
  (∀ e d, act = .applyEnvelope e → e.payload = .orderBookDelta d →
    ∀ curr qc, b.aggregator.depth.sequence = some curr → b.queue.streamTracker.currentSequence = some qc →
      d.sequenceRange.start = Sequence.next curr → qc < d.sequenceRange.stop) ∧
  ∀ s, act = .resetWithSnapshot s →
    AddsUp (s.bids.take b.aggregator.depth.maxLevels) ∧ AddsUp (s.asks.take b.aggregator.depth.maxLevels)

def Queues (act : Act P Q) (x : Except MarketTypeError (Answer P Q))
    (b' : MarketConsumerBatcher P Q) : Prop :=
  ∀ e, act = .applyEnvelope e →
    ((∃ n, x = .ok (.envelope (.contiguous n))) →
      ∃ item output, outputOf e.payload = some output ∧ item.payload = output ∧
        b'.queue.queue = b.queue.queue ++ [item]) ∧
    ((∀ n, x ≠ .ok (.envelope (.contiguous n))) → b'.queue.queue = b.queue.queue)

/-- The candles and the queue are at the same sequence, and what was delivered and queued is what the
depth was made of. -/
structure Shown (fresh : DepthAggregator P Q) (b : MarketConsumerBatcher P Q)
    (delivered : List (MarketItem P Q)) : Prop where
  cursor : ∃ o, b.aggregator.ohlcv = some o ∧ b.queue.streamTracker.currentSequence = o.currentSequence
  depth : b.aggregator.depth.target = fresh.target ∧ b.aggregator.depth.maxLevels = fresh.maxLevels
  replayed : replay fresh (delivered ++ b.queue.queue) = some { b.aggregator.depth with resyncRequired := false }

variable {fresh : DepthAggregator P Q} {b : MarketConsumerBatcher P Q} {act : Act P Q}
  {delivered : List (MarketItem P Q)}

omit [LinearOrder P] [Price P] [Quantity Q] in
lemma unlatched_eq {d : DepthAggregator P Q} (h : d.resyncRequired = false) :
    { d with resyncRequired := false } = d := by
  rw [← h]

lemma replayOutput_fresh {s : DepthSnapshot P Q} (hvalid : s.validate = .ok ())
    (htarget : s.target = fresh.target)
    (hfresh : fresh.sequence = none) (hbids : AddsUp (s.bids.take fresh.maxLevels))
    (hasks : AddsUp (s.asks.take fresh.maxLevels)) :
    replayOutput fresh (.depthSnapshot s) = some (fresh.rebase s) := by
  obtain ⟨bidSum, hbids⟩ := Option.isSome_iff_exists.1 hbids
  obtain ⟨askSum, hasks⟩ := Option.isSome_iff_exists.1 hasks
  have hbidSum : DepthAggregator.ensureSum (fresh.rebase s).bids "snapshot bid quantity overflow" = .ok bidSum :=
    okOr_eq_ok.2 hbids
  have haskSum : DepthAggregator.ensureSum (fresh.rebase s).asks "snapshot ask quantity overflow" = .ok askSum :=
    okOr_eq_ok.2 hasks
  have happly : DepthAggregator.applySnapshot s fresh = (.ok (.accepted s.sequence), fresh.rebase s) := by
    unfold DepthAggregator.applySnapshot
    rw [Call.read_bind, hvalid, Call.check_ok_bind, ensure_eq_ok (u := ()).2 htarget, Call.check_ok_bind]
    simp only [hfresh, DepthAggregator.behind, hbidSum, haskSum]
    rfl
  simp only [replayOutput, happly]

section

variable (h : Shown fresh b delivered)

include h

lemma Shown.triggerResync : Shown fresh b.triggerResync delivered where
  cursor := by
    obtain ⟨o, ho, hcursor⟩ := h.cursor
    refine ⟨o.triggerResync, ?_, hcursor⟩
    rw [MarketConsumerBatcher.triggerResync, MarketAggregator.triggerResync, ho]
    rfl
  depth := h.depth
  replayed := h.replayed

lemma Shown.applyEnvelope {e : CanonicalFeedEnvelope P Q}
    (hquiet : Quiet b (.applyEnvelope e)) :
    Shown fresh (call (.applyEnvelope e) b).2
        (noteDelivered delivered ⟨.applyEnvelope e, (call (.applyEnvelope e) b).1⟩) ∧
      Queues b (.applyEnvelope e) (call (.applyEnvelope e) b).1 (call (.applyEnvelope e) b).2 := by
  obtain ⟨o, ho, hcursor⟩ := h.cursor
  have hout := applyEnvelope_outcome ho hcursor e
  rw [show call (.applyEnvelope e) b = _ from Call.bind_pure_apply _ _ _]
  generalize MarketConsumerBatcher.applyEnvelope e b = r at hout ⊢
  cases hout with
  | held x hx =>
    have hnote : noteDelivered delivered ⟨Act.applyEnvelope e, x.map Answer.envelope⟩ = delivered := by
      cases x <;> rfl
    refine ⟨by rw [hnote]; exact h, fun e' he' => ⟨?_, fun _ => rfl⟩⟩
    rintro ⟨n, hn⟩
    cases x with
    | error err => cases hn
    | ok c =>
      cases hn
      exact absurd rfl (hx n)
  | latched expected received =>
    refine ⟨h.triggerResync, fun e' he' => ⟨?_, fun _ => rfl⟩⟩
    rintro ⟨n, hn⟩
    cases hn
  | queued output item a' o' q' n hlatch houtput hitem haccepts hreplay hdepth ho' hcurrent =>
    constructor
    · refine ⟨⟨o', ho', haccepts.current.trans hcurrent.symm⟩,
        ⟨hdepth.1.trans h.depth.1, hdepth.2.1.trans h.depth.2⟩, ?_⟩
      have hreplayed := h.replayed
      rw [unlatched_eq hlatch] at hreplayed
      change replay fresh (delivered ++ q'.queue) = some { a'.depth with resyncRequired := false }
      rw [haccepts.queue, ← List.append_assoc, replay_append hreplayed, hitem, hreplay, unlatched_eq hdepth.2.2]
    · rintro e' he'
      cases he'
      exact ⟨fun _ => ⟨item, output, houtput, hitem, haccepts.queue⟩, fun hx => absurd rfl (hx n)⟩
  | lost d curr qc x b' he hcurr hnext hqc hold =>
    have hlt := hquiet.1 e d rfl he curr qc hcurr hqc hnext
    exact absurd hold (Nat.not_le_of_lt hlt)

lemma Shown.resetWithSnapshot (hfresh : fresh.sequence = none)
    {s : DepthSnapshot P Q} (hquiet : Quiet b (.resetWithSnapshot s)) :
    Shown fresh (call (.resetWithSnapshot s) b).2
      (noteDelivered delivered ⟨.resetWithSnapshot s, (call (.resetWithSnapshot s) b).1⟩) := by
  obtain ⟨o, ho, hcursor⟩ := h.cursor
  have hout := resetWithSnapshot_outcome ho s
  rw [show call (.resetWithSnapshot s) b = _ from Call.bind_pure_apply _ (fun _ => Answer.reset) _]
  generalize MarketConsumerBatcher.resetWithSnapshot s b = r at hout ⊢
  cases hout with
  | failed err => exact h
  | reset item o' q' hvalid htarget hpayload hqueue hcurrent hcursor' =>
    obtain ⟨hbids, hasks⟩ := hquiet.2 s rfl
    rw [h.depth.2] at hbids hasks
    refine ⟨⟨o', rfl, hcursor'⟩, h.depth, ?_⟩
    change replay fresh ([] ++ q'.queue) = some { b.aggregator.depth.rebase s with resyncRequired := false }
    have hsame : fresh.rebase s = b.aggregator.depth.rebase s := by
      simp only [DepthAggregator.rebase, h.depth.1, h.depth.2]
    rw [hqueue, List.nil_append]
    simp only [replay, List.foldlM_cons, List.foldlM_nil, hpayload,
      replayOutput_fresh hvalid (htarget.trans h.depth.1) hfresh hbids hasks, hsame]
    rfl

lemma Shown.take
    {left : ConsumerBatch (AggregationOutput P Q) → Option (ConsumerBatch (AggregationOutput P Q))}
    {m : Call (ConsumerBatchQueue (AggregationOutput P Q)) MarketTypeError
      (Option (ConsumerBatch (AggregationOutput P Q)))}
    (hm : ConsumerBatchQueue.TakeOutcome b.queue left (m b.queue)) :
    Shown fresh { b with queue := (m b.queue).2 } (noteDelivered delivered ⟨act, (m b.queue).1.map Answer.batch⟩) := by
  generalize m b.queue = r at hm ⊢
  cases hm with
  | failed err => exact h
  | empty => exact h
  | taken batch q' ht hleft =>
    obtain ⟨o, ho, hcursor⟩ := h.cursor
    refine ⟨⟨o, ho, (congrArg _ ht.streamTracker).trans hcursor⟩, h.depth, ?_⟩
    change replay fresh (delivered ++ batch.items ++ q'.queue) = _
    rw [List.append_assoc, ht.items, ht.queue, List.take_append_drop]
    exact h.replayed

lemma Shown.step (hfresh : fresh.sequence = none) (hquiet : Quiet b act) :
    Shown fresh (call act b).2 (noteDelivered delivered ⟨act, (call act b).1⟩) ∧
      Queues b act (call act b).1 (call act b).2 := by
  cases act with
  | applyEnvelope e => exact h.applyEnvelope hquiet
  | resetWithSnapshot s => exact ⟨h.resetWithSnapshot hfresh hquiet, fun e he => by cases he⟩
  | pullBatch =>
    rw [show call .pullBatch b = _ from Call.bind_pure_apply _ _ _]
    exact ⟨h.take (ConsumerBatchQueue.pullBatch_outcome b.queue), fun e he => by cases he⟩
  | consumeBatch =>
    rw [show call .consumeBatch b = _ from Call.bind_pure_apply _ _ _]
    exact ⟨h.take (ConsumerBatchQueue.consumeBatch_outcome b.queue), fun e he => by cases he⟩
  | acknowledge batchId =>
    rw [show call (.acknowledge batchId) b = _ from Call.bind_pure_apply _ _ _]
    refine ⟨?_, fun e he => by cases he⟩
    have hout := ConsumerBatchQueue.acknowledge_outcome b.queue batchId
    change Shown fresh { b with queue := (ConsumerBatchQueue.acknowledge batchId b.queue).2 } (noteDelivered delivered
      ⟨.acknowledge batchId, (ConsumerBatchQueue.acknowledge batchId b.queue).1.map Answer.acknowledged⟩)
    generalize ConsumerBatchQueue.acknowledge batchId b.queue = r at hout ⊢
    cases hout with
    | failed err => exact h
    | acknowledged ack batch q' hb hid hclear hrest =>
      obtain ⟨o, ho, hcursor⟩ := h.cursor
      refine ⟨⟨o, ho, (congrArg _ hrest.2.2.2.1).trans hcursor⟩, h.depth, ?_⟩
      change replay fresh (delivered ++ q'.queue) = _
      rw [hrest.1]
      exact h.replayed
  | triggerResync => exact ⟨h.triggerResync, fun e he => by cases he⟩

end

lemma Shown.new {instrument : InstrumentId} {timeframe : CandleTimeframe} {maxDepthLevels maxRetained : ℕ}
    {a₀ : MarketAggregator P Q} {config : ConsumerBatchConfig}
    (hagg : MarketAggregator.forInstrument instrument timeframe maxDepthLevels maxRetained = .ok a₀)
    (hnew : new a₀ config = .ok b) : Shown a₀.depth b [] ∧ a₀.depth.sequence = none := by
  obtain ⟨queue, hqueue, hreturn⟩ := bind_ok.1 hnew
  cases hreturn
  obtain ⟨_, -, hqueue⟩ := bind_ok.1 hqueue
  obtain ⟨_, -, hqueue⟩ := bind_ok.1 hqueue
  cases hqueue
  cases MarketAggregator.forInstrument_eq_ok hagg
  exact ⟨⟨⟨_, rfl, rfl⟩, ⟨rfl, rfl⟩, rfl⟩, rfl⟩

/-- **Consumers see everything the aggregator applied**, in every quiet run. -/
theorem consumer_sees_everything (instrument : InstrumentId) (timeframe : CandleTimeframe)
    (maxDepthLevels maxRetained : ℕ) (config : ConsumerBatchConfig) (a₀ : MarketAggregator P Q)
    (b₀ : MarketConsumerBatcher P Q)
    (hagg : MarketAggregator.forInstrument instrument timeframe maxDepthLevels maxRetained = .ok a₀)
    (hnew : new a₀ config = .ok b₀) (acts : List (Act P Q)) (hquiet : (machine P Q).Meets Quiet b₀ acts) :
    (∀ pre act rest, acts = pre ++ act :: rest →
      let b : MarketConsumerBatcher P Q := (machine P Q).run b₀ pre
      Queues b act (call act b).1 (call act b).2) ∧
    let b : MarketConsumerBatcher P Q := (machine P Q).run b₀ acts
    let delivered := ((machine P Q).answers b₀ acts).foldl noteDelivered []
    replay a₀.depth (delivered ++ b.queue.queue) = some { b.aggregator.depth with resyncRequired := false } ∧
      (b.queue.queue = [] →
        replay a₀.depth delivered = some { b.aggregator.depth with resyncRequired := false }) := by
  obtain ⟨hshown, hfresh⟩ := Shown.new hagg hnew
  have hruns : ∀ as, (machine P Q).Meets Quiet b₀ as →
      Shown a₀.depth ((machine P Q).run b₀ as) (((machine P Q).answers b₀ as).foldl noteDelivered []) :=
    fun as hmeets => Machine.Meets.answers_invariant (M := machine P Q) (P := Shown a₀.depth) hmeets hshown
      fun _ _ _ hs hok => (hs.step hfresh hok).1
  constructor
  · rintro pre act rest rfl b
    obtain ⟨hpre, hok, -⟩ := Machine.meets_append.1 hquiet
    exact ((hruns pre hpre).step hfresh hok).2
  · intro b delivered
    have hreplayed := (hruns acts hquiet).replayed
    refine ⟨hreplayed, fun hempty => ?_⟩
    change replay a₀.depth (delivered ++ b.queue.queue) = _ at hreplayed
    rwa [hempty, List.append_nil] at hreplayed

end

/-! A batcher over whole numbers, after a snapshot at sequence 1. -/

section

def Sample.batcher : MarketConsumerBatcher ℕ ℕ :=
  ⟨MarketAggregator.Sample.fresh, ⟨.instrument MarketAggregator.Sample.instrument, ⟨4, 2⟩, [],
    .new (.instrument MarketAggregator.Sample.instrument), .lit 1, none, none, none, .zero, .zero, .zero⟩⟩

def Sample.candle : CanonicalFeedEnvelope ℕ ℕ :=
  ⟨.lit 2, .candle ⟨MarketAggregator.Sample.instrument, .s1, .lit 6, .lit 7, 10, 10, 10, 10, 1, none, none⟩⟩

def Sample.heavy : DepthSnapshot ℕ ℕ :=
  ⟨.instrument MarketAggregator.Sample.instrument, .lit 3, .lit 5, [⟨10, 600⟩, ⟨9, 600⟩], [⟨20, 6⟩]⟩

def Sample.acts : List (Act ℕ ℕ) :=
  [.applyEnvelope MarketAggregator.Sample.snapshot, .applyEnvelope (MarketAggregator.Sample.delta 2 2), .consumeBatch]

/-- A snapshot and a delta, consumed as one batch: replayed, they are the depth of the batcher. -/
theorem sample_is_replayed :
    let b : MarketConsumerBatcher ℕ ℕ := (machine ℕ ℕ).run Sample.batcher Sample.acts
    b.aggregator.depth.bids = [⟨10, 5⟩] ∧
      replay MarketAggregator.Sample.fresh.depth
          (((machine ℕ ℕ).answers Sample.batcher Sample.acts).foldl noteDelivered []) =
        some { b.aggregator.depth with resyncRequired := false } := by
  intro b
  have hfirst : (call (.applyEnvelope MarketAggregator.Sample.snapshot)
      Sample.batcher).2.queue.streamTracker.currentSequence = some (.lit 1) := by decide +kernel
  have hquiet : (machine ℕ ℕ).Meets Quiet Sample.batcher Sample.acts := by
    refine ⟨⟨?_, fun s hs => ?_⟩, ⟨?_, fun s hs => ?_⟩, ⟨?_, fun s hs => ?_⟩, trivial⟩
    · intro e d he hd
      cases he
      cases hd
    · cases hs
    · intro e d he hd curr qc _ hqc _
      cases he
      cases hd
      cases hfirst.symm.trans hqc
      decide
    · cases hs
    · intro e d he
      cases he
    · cases hs
  have hrun := consumer_sees_everything MarketAggregator.Sample.instrument .s1 2 2 ⟨4, 2⟩
    MarketAggregator.Sample.fresh Sample.batcher MarketAggregator.Sample.fresh_new (by decide +kernel) Sample.acts hquiet
  exact ⟨by decide +kernel, hrun.2.2 (by decide +kernel)⟩

def Sample.afterCandle : MarketConsumerBatcher ℕ ℕ :=
  (machine ℕ ℕ).run Sample.batcher [.applyEnvelope MarketAggregator.Sample.snapshot, .applyEnvelope Sample.candle]

/-- After a candle a delta of the candle's sequence is applied and answered with contiguous, and is not
queued; and a reset is accepted whose snapshot a fresh aggregator does not take. -/
theorem consumer_misses_updates :
    let delta : Act ℕ ℕ := .applyEnvelope (MarketAggregator.Sample.delta 2 2)
    let reset : Act ℕ ℕ := .resetWithSnapshot Sample.heavy
    new MarketAggregator.Sample.fresh ⟨4, 2⟩ = .ok Sample.batcher ∧
      ((call delta Sample.afterCandle).1 = .ok (.envelope (.contiguous (.lit 2))) ∧
        (call delta Sample.afterCandle).2.queue.queue = Sample.afterCandle.queue.queue ∧
        Sample.afterCandle.aggregator.depth.bids = [⟨10, 4⟩] ∧
        (call delta Sample.afterCandle).2.aggregator.depth.bids = [⟨10, 5⟩]) ∧
      (call reset Sample.batcher).1 = .ok .reset ∧
        replay MarketAggregator.Sample.fresh.depth (call reset Sample.batcher).2.queue.queue = none := by
  decide +kernel

end

end MarketConsumerBatcher

end PrivateExecution.Consumer
