import PrivateExecution.Market.Sequence
import PrivateExecution.Async.Call
import PrivateExecution.Async.Machine

/-!
# The consumer queue

Aggregated market items are handed to a consumer in batches (`market-types/src/consumer.rs`): items are
queued in sequence, up to `max_batch_size` of them are pulled as one batch, and the batch stays in
flight until it is acknowledged. The queue is bounded, items in flight included, and refuses rather than
drops; a gap latches it until a newer snapshot. `queue_delivers_in_order` is about every run of it.
-/

namespace PrivateExecution.Consumer

open Async

/-! ### Configuration, items and batches -/

def maxConsumerQueueCapacity : ℕ := 10000
def maxConsumerBatchSize : ℕ := 1000

structure ConsumerBatchConfig where
  maxQueueCapacity : ℕ
  maxBatchSize : ℕ
deriving DecidableEq

def ConsumerBatchConfig.validate (c : ConsumerBatchConfig) : Except MarketTypeError Unit := do
  ensure (c.maxQueueCapacity ≠ 0) (.invalidConsumerConfig "queue capacity must be greater than zero")
  ensure (c.maxQueueCapacity ≤ maxConsumerQueueCapacity)
    (.consumerQueueCapacityExceeded c.maxQueueCapacity maxConsumerQueueCapacity)
  ensure (c.maxBatchSize ≠ 0) (.invalidConsumerConfig "batch size must be greater than zero")
  ensure (c.maxBatchSize ≤ maxConsumerBatchSize)
    (.consumerBatchSizeExceeded c.maxBatchSize maxConsumerBatchSize)
  ensure (c.maxBatchSize ≤ c.maxQueueCapacity)
    (.invalidConsumerConfig "batch size cannot exceed queue capacity")

structure ConsumerBatchItem (T : Type) where
  target : FeedTarget
  sequenceRange : SequenceRange
  timestampMs : I64
  payload : T
deriving DecidableEq

def ConsumerBatchItem.validate {T : Type} (item : ConsumerBatchItem T) : Except MarketTypeError Unit := do
  item.target.validate
  item.sequenceRange.validate
  ensure (¬item.timestampMs.val ≤ 0) (.invalidTimestamp item.timestampMs.val)

structure ConsumerBatch (T : Type) where
  batchId : U64
  target : FeedTarget
  sequenceRange : SequenceRange
  items : List (ConsumerBatchItem T)
deriving DecidableEq

structure ConsumerBatchAck where
  batchId : U64
  target : FeedTarget
  sequenceRange : SequenceRange
  itemCount : ℕ
  timestampMs : I64
deriving DecidableEq

/-! ### The queue and its calls -/

structure ConsumerBatchQueue (T : Type) where
  target : FeedTarget
  config : ConsumerBatchConfig
  queue : List (ConsumerBatchItem T)
  streamTracker : SequencedStreamTracker
  nextBatchId : U64
  inFlightBatch : Option (ConsumerBatch T)
  lastAcknowledgedBatchId : Option U64
  lastAcknowledgedSequence : Option Sequence
  totalEnqueuedItems : U64
  totalDeliveredItems : U64
  totalAcknowledgedItems : U64
deriving DecidableEq

namespace ConsumerBatchQueue

variable {T : Type}

def new (target : FeedTarget) (config : ConsumerBatchConfig) :
    Except MarketTypeError (ConsumerBatchQueue T) := do
  target.validate
  config.validate
  return ⟨target, config, [], .new target, .lit 1, none, none, none, .zero, .zero, .zero⟩

variable (q : ConsumerBatchQueue T)

def inFlightItems : List (ConsumerBatchItem T) :=
  (q.inFlightBatch.map ConsumerBatch.items).getD []

/-- The items held: queued and in flight. The sum of two lengths in memory does not overflow. -/
def allocatedCapacity : ℕ := q.queue.length + q.inFlightItems.length

def ensureRoom : Except MarketTypeError Unit :=
  ensure (q.allocatedCapacity < q.config.maxQueueCapacity)
    (.consumerQueueCapacityExceeded (q.allocatedCapacity + 1) q.config.maxQueueCapacity)

def bump (counter : U64) (n : ℕ) (what : String) : Except MarketTypeError U64 :=
  okOr (Unsigned.ofNat? (counter.val + n)) (.arithmeticOverflow what)

lemma bump_eq_ok {counter c : U64} {n : ℕ} {what : String} :
    bump counter n what = .ok c ↔ c.val = counter.val + n := by
  rw [bump, okOr_eq_ok, Unsigned.ofNat?_eq_some]

def triggerResync : ConsumerBatchQueue T :=
  { q with streamTracker := q.streamTracker.triggerResync }

def enqueueSnapshot (item : ConsumerBatchItem T) :
    Call (ConsumerBatchQueue T) MarketTypeError SnapshotClassification := do
  let q ← Call.read
  Call.check item.validate
  Call.check (ensure (item.target = q.target) .targetMismatch)
  Call.check q.ensureRoom
  match q.streamTracker.applySnapshotSequence item.sequenceRange.stop item.timestampMs with
  | (.accepted n, staged) =>
    let total ← Call.check (bump q.totalEnqueuedItems 1 "total_enqueued_items overflow")
    Call.write { q with streamTracker := staged, queue := q.queue ++ [item], totalEnqueuedItems := total }
    return .accepted n
  | (other, _) => return other

def enqueueItem (item : ConsumerBatchItem T) :
    Call (ConsumerBatchQueue T) MarketTypeError DeltaClassification := do
  let q ← Call.read
  Call.check item.validate
  Call.check (ensure (item.target = q.target) .targetMismatch)
  if q.streamTracker.resyncRequired then
    return .resyncRequired (Sequence.expected q.streamTracker.currentSequence) item.sequenceRange.start
  match q.streamTracker.classifyDeltaRange item.sequenceRange with
  | .contiguous n =>
    Call.check q.ensureRoom
    let total ← Call.check (bump q.totalEnqueuedItems 1 "total_enqueued_items overflow")
    Call.write { q with
      streamTracker := (q.streamTracker.applyDeltaRange item.sequenceRange item.timestampMs).2
      queue := q.queue ++ [item]
      totalEnqueuedItems := total }
    return .contiguous n
  | .resyncRequired expected received =>
    Call.write q.triggerResync
    return .resyncRequired expected received
  | other => return other

/-- The loop of `enqueue_batch`: it stops at the first item that requires a resync. -/
def enqueueItems : List (ConsumerBatchItem T) →
    Call (ConsumerBatchQueue T) MarketTypeError (List DeltaClassification)
  | [] => return []
  | item :: items => do
    let classification ← enqueueItem item
    if classification.isResyncRequired then return [classification]
    let rest ← enqueueItems items
    return classification :: rest

/-- The loop runs on a copy, which is kept unless an item failed or requires a resync. -/
def enqueueBatch (items : List (ConsumerBatchItem T)) :
    Call (ConsumerBatchQueue T) MarketTypeError (List DeltaClassification) := do
  let q ← Call.read
  match enqueueItems items q with
  | (.error e, _) => Call.check (.error e)
  | (.ok classifications, staged) =>
    if classifications.any DeltaClassification.isResyncRequired then Call.write q.triggerResync
    else Call.write staged
    return classifications

/-- What both `pull_batch` and `consume_batch` check first: no latch and no batch in flight. -/
def ensureIdle : Except MarketTypeError Unit := do
  ensure (q.streamTracker.resyncRequired = false)
    (.resyncRequired "consumer queue latched in resync mode; recovery snapshot required")
  match q.inFlightBatch with
  | some b => .error (.unacknowledgedBatchPending b.batchId.val)
  | none => .ok ()

def batchSize : ℕ := min q.queue.length q.config.maxBatchSize

def batchRange (items : List (ConsumerBatchItem T)) : Except MarketTypeError SequenceRange :=
  match items.head?, items.getLast? with
  | some first, some last => SequenceRange.new first.sequenceRange.start last.sequenceRange.stop
  -- A batch is not empty.
  | _, _ => .error .zeroSequence

def pullBatch : Call (ConsumerBatchQueue T) MarketTypeError (Option (ConsumerBatch T)) := do
  let q ← Call.read
  Call.check q.ensureIdle
  if q.queue.isEmpty then return none
  let nextBatchId ← Call.check (bump q.nextBatchId 1 "batch_id overflow")
  let nextDelivered ← Call.check (bump q.totalDeliveredItems q.batchSize "total_delivered_items overflow")
  let items := q.queue.take q.batchSize
  let sequenceRange ← Call.check (batchRange items)
  let batch : ConsumerBatch T := ⟨q.nextBatchId, q.target, sequenceRange, items⟩
  Call.write { q with
    queue := q.queue.drop q.batchSize
    nextBatchId
    inFlightBatch := some batch
    totalDeliveredItems := nextDelivered }
  return some batch

def acknowledge (batchId : U64) : Call (ConsumerBatchQueue T) MarketTypeError ConsumerBatchAck := do
  let q ← Call.read
  let batch ← Call.check (okOr q.inFlightBatch .noPendingBatchToAcknowledge)
  Call.check (ensure (batch.batchId = batchId)
    (.invalidBatchAcknowledgement batch.batchId.val batchId.val))
  let nextAcknowledged ←
    Call.check (bump q.totalAcknowledgedItems batch.items.length "total_acknowledged_items overflow")
  Call.write { q with
    inFlightBatch := none
    lastAcknowledgedBatchId := some batchId
    lastAcknowledgedSequence := some batch.sequenceRange.stop
    totalAcknowledgedItems := nextAcknowledged }
  return ⟨batchId, q.target, batch.sequenceRange, batch.items.length,
    (batch.items.getLast?.map ConsumerBatchItem.timestampMs).getD .zero⟩

def consumeBatch : Call (ConsumerBatchQueue T) MarketTypeError (Option (ConsumerBatch T)) := do
  let q ← Call.read
  Call.check q.ensureIdle
  if q.queue.isEmpty then return none
  let nextBatchId ← Call.check (bump q.nextBatchId 1 "batch_id overflow")
  let nextDelivered ← Call.check (bump q.totalDeliveredItems q.batchSize "total_delivered_items overflow")
  let nextAcknowledged ←
    Call.check (bump q.totalAcknowledgedItems q.batchSize "total_acknowledged_items overflow")
  let items := q.queue.take q.batchSize
  let sequenceRange ← Call.check (batchRange items)
  let batch : ConsumerBatch T := ⟨q.nextBatchId, q.target, sequenceRange, items⟩
  Call.write { q with
    queue := q.queue.drop q.batchSize
    nextBatchId
    inFlightBatch := none
    lastAcknowledgedBatchId := some q.nextBatchId
    lastAcknowledgedSequence := some sequenceRange.stop
    totalDeliveredItems := nextDelivered
    totalAcknowledgedItems := nextAcknowledged }
  return some batch

/-- The optional item is the new baseline; nothing else stays in the queue or in flight. -/
def resetWithBaseline (sequence : Sequence) (timestampMs : I64) (item : Option (ConsumerBatchItem T)) :
    Call (ConsumerBatchQueue T) MarketTypeError Unit := do
  let q ← Call.read
  Call.check sequence.validate
  Call.check (ensure (¬timestampMs.val ≤ 0) (.invalidTimestamp timestampMs.val))
  let total ← Call.check (match item with
    | none => .ok q.totalEnqueuedItems
    | some item => do
      item.validate
      ensure (item.target = q.target) .targetMismatch
      bump q.totalEnqueuedItems 1 "total_enqueued_items overflow")
  Call.write { q with
    streamTracker := ((SequencedStreamTracker.new q.target).applySnapshotSequence sequence timestampMs).2
    queue := item.toList
    inFlightBatch := none
    lastAcknowledgedSequence := some sequence
    totalEnqueuedItems := total }

/-! ### What each call can do -/

lemma triggerResync_of_latched {q : ConsumerBatchQueue T} (h : q.streamTracker.resyncRequired = true) :
    q.triggerResync = q := by
  obtain ⟨target, config, queue, ⟨t, b, c, l, latch⟩, _⟩ := q
  cases h
  rfl

/-- An item was accepted: it is appended, and its end is the current sequence. -/
structure Accepts (q : ConsumerBatchQueue T) (item : ConsumerBatchItem T) (q' : ConsumerBatchQueue T) :
    Prop where
  queue : q'.queue = q.queue ++ [item]
  target : item.target = q.target ∧ q'.target = q.target
  config : q'.config = q.config
  nextBatchId : q'.nextBatchId = q.nextBatchId
  inFlightBatch : q'.inFlightBatch = q.inFlightBatch
  room : q.allocatedCapacity < q.config.maxQueueCapacity
  range : item.sequenceRange.start.val ≠ 0 ∧ item.sequenceRange.start.val ≤ item.sequenceRange.stop.val
  above : ∀ curr, q.streamTracker.currentSequence = some curr → curr.val < item.sequenceRange.stop.val
  current : q'.streamTracker.currentSequence = some item.sequenceRange.stop
  unlatched : q'.streamTracker.resyncRequired = false

/-- A batch was taken off the queue. -/
structure Takes (q : ConsumerBatchQueue T) (b : ConsumerBatch T) (q' : ConsumerBatchQueue T) : Prop where
  idle : q.inFlightBatch = none
  items : b.items = q.queue.take q.batchSize
  queue : q'.queue = q.queue.drop q.batchSize
  batchId : b.batchId = q.nextBatchId
  nextBatchId : q'.nextBatchId.val = q.nextBatchId.val + 1
  target : q'.target = q.target
  config : q'.config = q.config
  streamTracker : q'.streamTracker = q.streamTracker

variable {q : ConsumerBatchQueue T} {item : ConsumerBatchItem T}

lemma validate_range {u : Unit} (h : item.validate = .ok u) :
    item.sequenceRange.start.val ≠ 0 ∧ item.sequenceRange.start.val ≤ item.sequenceRange.stop.val := by
  obtain ⟨_, -, h⟩ := bind_ok.1 h
  obtain ⟨_, hrange, -⟩ := bind_ok.1 h
  exact SequenceRange.validate_eq_ok.1 hrange

inductive SnapshotOutcome (q : ConsumerBatchQueue T) (item : ConsumerBatchItem T) :
    Except MarketTypeError SnapshotClassification × ConsumerBatchQueue T → Prop where
  | failed (e : MarketTypeError) : SnapshotOutcome q item (.error e, q)
  | duplicate (s : Sequence) : SnapshotOutcome q item (.ok (.duplicate s), q)
  | stale (s current : Sequence) : SnapshotOutcome q item (.ok (.stale s current), q)
  | accepted (q' : ConsumerBatchQueue T) (h : Accepts q item q') :
      SnapshotOutcome q item (.ok (.accepted item.sequenceRange.stop), q')

lemma enqueueSnapshot_outcome (q : ConsumerBatchQueue T) (item : ConsumerBatchItem T) :
    SnapshotOutcome q item (enqueueSnapshot item q) := by
  unfold enqueueSnapshot
  rw [Call.read_bind]
  refine Call.check_cases .failed fun _ hvalid => ?_
  refine Call.check_cases .failed fun _ htarget => ?_
  refine Call.check_cases .failed fun _ hroom => ?_
  rcases q.streamTracker.applySnapshotSequence_cases item.sequenceRange.stop item.timestampMs with
    ⟨habove, heq⟩ | ⟨curr, hcurr, hle, heq | heq⟩
  · simp only [heq]
    refine Call.check_cases .failed fun total _ => .accepted _ ?_
    exact ⟨rfl, ⟨ensure_eq_ok.1 htarget, rfl⟩, rfl, rfl, rfl, ensure_eq_ok.1 hroom, validate_range hvalid,
      habove, rfl, rfl⟩
  · simp only [heq]
    exact .stale _ _
  · simp only [heq]
    exact .duplicate _

inductive ItemOutcome (q : ConsumerBatchQueue T) (item : ConsumerBatchItem T) :
    Except MarketTypeError DeltaClassification × ConsumerBatchQueue T → Prop where
  | failed (e : MarketTypeError) : ItemOutcome q item (.error e, q)
  | held (c : DeltaClassification) (curr : Sequence) (hc : c.isContiguous = false ∧ c.isResyncRequired = false)
      (hcurr : q.streamTracker.currentSequence = some curr)
      (hle : item.sequenceRange.stop.val ≤ curr.val) : ItemOutcome q item (.ok c, q)
  | resync (expected received : Sequence) :
      ItemOutcome q item (.ok (.resyncRequired expected received), q.triggerResync)
  | accepted (q' : ConsumerBatchQueue T) (curr : Sequence) (h : Accepts q item q')
      (hlatch : q.streamTracker.resyncRequired = false)
      (hcurr : q.streamTracker.currentSequence = some curr)
      (hstart : item.sequenceRange.start = Sequence.next curr) :
      ItemOutcome q item (.ok (.contiguous item.sequenceRange.stop), q')

lemma enqueueItem_outcome (q : ConsumerBatchQueue T) (item : ConsumerBatchItem T) :
    ItemOutcome q item (enqueueItem item q) := by
  unfold enqueueItem
  rw [Call.read_bind]
  refine Call.check_cases .failed fun _ hvalid => ?_
  refine Call.check_cases .failed fun _ htarget => ?_
  cases hlatch : q.streamTracker.resyncRequired with
  | true =>
    have houtcome : ItemOutcome q item _ := .resync
      (Sequence.expected q.streamTracker.currentSequence) item.sequenceRange.start
    rwa [triggerResync_of_latched hlatch] at houtcome
  | false =>
    simp only [Bool.false_eq_true, if_false]
    cases hclass : q.streamTracker.classifyDeltaRange item.sequenceRange with
    | contiguous n =>
      obtain ⟨-, rfl, curr, hcurr, hlt, hstart⟩ :=
        SequencedStreamTracker.classifyDeltaRange_eq_contiguous.1 hclass
      refine Call.check_cases .failed fun _ hroom => ?_
      refine Call.check_cases .failed fun total _ => ?_
      refine .accepted _ curr ⟨rfl, ⟨ensure_eq_ok.1 htarget, rfl⟩, rfl, rfl, rfl, ensure_eq_ok.1 hroom,
        validate_range hvalid, ?_, ?_, ?_⟩ hlatch hcurr hstart
      · intro c hc
        rw [hcurr] at hc
        cases hc
        exact hlt
      · simp only [SequencedStreamTracker.applyDeltaRange, hclass]
      · simp only [SequencedStreamTracker.applyDeltaRange, hclass, hlatch]
    | duplicate s =>
      obtain ⟨curr, hcurr, hle⟩ := SequencedStreamTracker.classifyDeltaRange_held hclass rfl rfl
      exact .held _ curr ⟨rfl, rfl⟩ hcurr hle
    | stale s c =>
      obtain ⟨curr, hcurr, hle⟩ := SequencedStreamTracker.classifyDeltaRange_held hclass rfl rfl
      exact .held _ curr ⟨rfl, rfl⟩ hcurr hle
    | resyncRequired expected received => exact .resync _ _

/-- A batch of items was taken in: the contiguous ones are accepted one after the other, the others
change nothing. -/
inductive AcceptsAll : ConsumerBatchQueue T → List (ConsumerBatchItem T) → List DeltaClassification →
    ConsumerBatchQueue T → Prop where
  | nil (q : ConsumerBatchQueue T) : AcceptsAll q [] [] q
  | held {q q' : ConsumerBatchQueue T} {item : ConsumerBatchItem T} {items : List (ConsumerBatchItem T)}
      {c : DeltaClassification} {cs : List DeltaClassification} (hc : c.isContiguous = false)
      (hrest : AcceptsAll q items cs q') : AcceptsAll q (item :: items) (c :: cs) q'
  | accepted {q q₁ q' : ConsumerBatchQueue T} {item : ConsumerBatchItem T}
      {items : List (ConsumerBatchItem T)} {n : Sequence} {cs : List DeltaClassification}
      (h : Accepts q item q₁) (hrest : AcceptsAll q₁ items cs q') :
      AcceptsAll q (item :: items) (.contiguous n :: cs) q'

lemma enqueueItems_accepts {items : List (ConsumerBatchItem T)} {q q' : ConsumerBatchQueue T}
    {cs : List DeltaClassification} (h : enqueueItems items q = (.ok cs, q'))
    (hcs : cs.any DeltaClassification.isResyncRequired = false) : AcceptsAll q items cs q' := by
  induction items generalizing q cs with
  | nil =>
    cases h
    exact .nil _
  | cons item items ih =>
    unfold enqueueItems at h
    obtain ⟨c, q₁, hitem, hrest⟩ := Call.bind_eq_ok.1 h
    have houtcome := enqueueItem_outcome q item
    rw [hitem] at houtcome
    cases hresync : c.isResyncRequired with
    | true =>
      -- The loop stops here, so the answer says that a resync is required.
      rw [if_pos hresync] at hrest
      cases hrest
      simp [hresync] at hcs
    | false =>
      rw [if_neg (by simp [hresync])] at hrest
      obtain ⟨cs', q₂, hloop, hreturn⟩ := Call.bind_eq_ok.1 hrest
      cases hreturn
      simp only [List.any_cons, hresync, Bool.false_or] at hcs
      cases houtcome with
      | held _ curr hc hcurr hle => exact .held hc.1 (ih hloop hcs)
      | resync expected received => cases hresync
      | accepted _ curr haccepts hlatch hcurr hstart => exact .accepted haccepts (ih hloop hcs)

inductive BatchOutcome (q : ConsumerBatchQueue T) (items : List (ConsumerBatchItem T)) :
    Except MarketTypeError (List DeltaClassification) × ConsumerBatchQueue T → Prop where
  | failed (e : MarketTypeError) : BatchOutcome q items (.error e, q)
  | resync (cs : List DeltaClassification) (h : cs.any DeltaClassification.isResyncRequired = true) :
      BatchOutcome q items (.ok cs, q.triggerResync)
  | accepted (cs : List DeltaClassification) (q' : ConsumerBatchQueue T)
      (hcs : cs.any DeltaClassification.isResyncRequired = false) (h : AcceptsAll q items cs q') :
      BatchOutcome q items (.ok cs, q')

lemma enqueueBatch_outcome (q : ConsumerBatchQueue T) (items : List (ConsumerBatchItem T)) :
    BatchOutcome q items (enqueueBatch items q) := by
  unfold enqueueBatch
  rw [Call.read_bind]
  rcases hloop : enqueueItems items q with ⟨e | cs, staged⟩
  · exact .failed e
  · cases hcs : cs.any DeltaClassification.isResyncRequired with
    | true =>
      simp only [hcs, if_true]
      exact .resync cs hcs
    | false =>
      simp only [hcs, Bool.false_eq_true, if_false]
      exact .accepted cs staged hcs (enqueueItems_accepts hloop hcs)

/-- What `pull_batch` and `consume_batch` can do; the second leaves nothing in flight. -/
inductive TakeOutcome (q : ConsumerBatchQueue T) (left : ConsumerBatch T → Option (ConsumerBatch T)) :
    Except MarketTypeError (Option (ConsumerBatch T)) × ConsumerBatchQueue T → Prop where
  | failed (e : MarketTypeError) : TakeOutcome q left (.error e, q)
  | empty : TakeOutcome q left (.ok none, q)
  | taken (b : ConsumerBatch T) (q' : ConsumerBatchQueue T) (h : Takes q b q')
      (hleft : q'.inFlightBatch = left b) : TakeOutcome q left (.ok (some b), q')

lemma ensureIdle_eq_ok {u : Unit} :
    q.ensureIdle = .ok u ↔ q.streamTracker.resyncRequired = false ∧ q.inFlightBatch = none := by
  unfold ensureIdle
  rw [ensure_ok]
  cases q.inFlightBatch <;> simp

lemma pullBatch_outcome (q : ConsumerBatchQueue T) : TakeOutcome q some (pullBatch q) := by
  unfold pullBatch
  rw [Call.read_bind]
  refine Call.check_cases .failed fun _ hidle => ?_
  split_ifs
  · exact .empty
  · refine Call.check_cases .failed fun id hid => ?_
    refine Call.check_cases .failed fun _ _ => ?_
    refine Call.check_cases .failed fun _ _ => .taken _ _ ?_ rfl
    exact ⟨(ensureIdle_eq_ok.1 hidle).2, rfl, rfl, rfl, bump_eq_ok.1 hid, rfl, rfl, rfl⟩

lemma consumeBatch_outcome (q : ConsumerBatchQueue T) : TakeOutcome q (fun _ => none) (consumeBatch q) := by
  unfold consumeBatch
  rw [Call.read_bind]
  refine Call.check_cases .failed fun _ hidle => ?_
  split_ifs
  · exact .empty
  · refine Call.check_cases .failed fun id hid => ?_
    refine Call.check_cases .failed fun _ _ => ?_
    refine Call.check_cases .failed fun _ _ => ?_
    refine Call.check_cases .failed fun _ _ => .taken _ _ ?_ rfl
    exact ⟨(ensureIdle_eq_ok.1 hidle).2, rfl, rfl, rfl, bump_eq_ok.1 hid, rfl, rfl, rfl⟩

inductive AckOutcome (q : ConsumerBatchQueue T) (batchId : U64) :
    Except MarketTypeError ConsumerBatchAck × ConsumerBatchQueue T → Prop where
  | failed (e : MarketTypeError) : AckOutcome q batchId (.error e, q)
  | acknowledged (ack : ConsumerBatchAck) (b : ConsumerBatch T) (q' : ConsumerBatchQueue T)
      (hb : q.inFlightBatch = some b) (hid : b.batchId = batchId) (hclear : q'.inFlightBatch = none)
      (hrest : q'.queue = q.queue ∧ q'.nextBatchId = q.nextBatchId ∧ q'.config = q.config ∧
        q'.streamTracker = q.streamTracker ∧ q'.target = q.target) : AckOutcome q batchId (.ok ack, q')

lemma acknowledge_outcome (q : ConsumerBatchQueue T) (batchId : U64) :
    AckOutcome q batchId (acknowledge batchId q) := by
  unfold acknowledge
  rw [Call.read_bind]
  refine Call.check_cases .failed fun b hb => ?_
  refine Call.check_cases .failed fun _ hid => ?_
  refine Call.check_cases .failed fun _ _ => ?_
  exact .acknowledged _ b _ (okOr_eq_ok.1 hb) (ensure_eq_ok.1 hid) rfl ⟨rfl, rfl, rfl, rfl, rfl⟩

lemma pullBatch_succeeds (hidle : q.streamTracker.resyncRequired = false ∧ q.inFlightBatch = none)
    (hqueue : q.queue ≠ []) (hsize : q.config.maxBatchSize ≠ 0)
    (hranges : ∀ i ∈ q.queue, i.sequenceRange.start.val ≠ 0 ∧ i.sequenceRange.start.val ≤ i.sequenceRange.stop.val)
    (hends : q.queue.Pairwise fun a b => a.sequenceRange.stop.val < b.sequenceRange.stop.val)
    (hid : q.nextBatchId.val + 1 < 2 ^ 64) (hdelivered : q.totalDeliveredItems.val + q.batchSize < 2 ^ 64) :
    ∃ b, (pullBatch q).1 = .ok (some b) := by
  obtain ⟨first, rest, hitems⟩ : ∃ first rest, q.queue.take q.batchSize = first :: rest := by
    have hpos : 0 < q.batchSize := by
      have hlength := List.length_pos_of_ne_nil hqueue
      unfold batchSize
      omega
    cases htake : q.queue.take q.batchSize with
    | nil => exact absurd htake (by simp [List.take_eq_nil_iff, hqueue, hpos.ne'])
    | cons first rest => exact ⟨first, rest, rfl⟩
  have hsub : ∀ i ∈ first :: rest, i ∈ q.queue := fun i hi => List.mem_of_mem_take (hitems ▸ hi)
  have hlast := List.getLast?_eq_some_getLast (List.cons_ne_nil first rest)
  have hmem := List.getLast_mem (List.cons_ne_nil first rest)
  -- The batch ends at or after the end of its first item, which does not precede its start.
  have hle : first.sequenceRange.start.val ≤
      ((first :: rest).getLast (List.cons_ne_nil first rest)).sequenceRange.stop.val := by
    have hfirst := (hranges first (hsub first (List.mem_cons_self ..))).2
    have hpair := List.Pairwise.sublist (List.take_sublist q.batchSize q.queue) hends
    rw [hitems] at hpair
    rcases List.mem_cons.1 hmem with heq | hin
    · rw [heq]
      exact hfirst
    · exact le_trans hfirst (Nat.le_of_lt ((List.pairwise_cons.1 hpair).1 _ hin))
  obtain ⟨r, hrange⟩ : ∃ r, batchRange (q.queue.take q.batchSize) = .ok r := by
    rw [hitems, batchRange]
    simp only [List.head?_cons, hlast]
    exact ⟨_, SequenceRange.new_eq_ok.2 ⟨⟨(hranges first (hsub first (List.mem_cons_self ..))).1, hle⟩, rfl⟩⟩
  have hbumpId : bump q.nextBatchId 1 "batch_id overflow" = .ok ⟨_, hid⟩ := bump_eq_ok.2 rfl
  have hbumpDelivered : bump q.totalDeliveredItems q.batchSize "total_delivered_items overflow" =
      .ok ⟨_, hdelivered⟩ := bump_eq_ok.2 rfl
  refine ⟨⟨q.nextBatchId, q.target, r, q.queue.take q.batchSize⟩, ?_⟩
  unfold pullBatch
  rw [Call.read_bind, ensureIdle_eq_ok (u := ()).2 hidle, Call.check_ok_bind,
    if_neg (mt List.isEmpty_iff.1 hqueue), hbumpId, Call.check_ok_bind, hbumpDelivered, Call.check_ok_bind]
  simp only [hrange, Call.check_ok_bind]
  rfl

end ConsumerBatchQueue

/-! ### Runs -/

section

open ConsumerBatchQueue

variable {T : Type}

inductive Act (T : Type) where
  | enqueueSnapshot (item : ConsumerBatchItem T)
  | enqueueItem (item : ConsumerBatchItem T)
  | enqueueBatch (items : List (ConsumerBatchItem T))
  | pullBatch
  | acknowledge (batchId : U64)
  | consumeBatch
  | triggerResync

def Act.Answer : Act T → Type
  | .enqueueSnapshot _ => SnapshotClassification
  | .enqueueItem _ => DeltaClassification
  | .enqueueBatch _ => List DeltaClassification
  | .pullBatch | .consumeBatch => Option (ConsumerBatch T)
  | .acknowledge _ => ConsumerBatchAck
  | .triggerResync => Unit

def call : (a : Act T) → Call (ConsumerBatchQueue T) MarketTypeError a.Answer
  | .enqueueSnapshot item => ConsumerBatchQueue.enqueueSnapshot item
  | .enqueueItem item => ConsumerBatchQueue.enqueueItem item
  | .enqueueBatch items => ConsumerBatchQueue.enqueueBatch items
  | .pullBatch => ConsumerBatchQueue.pullBatch
  | .acknowledge batchId => ConsumerBatchQueue.acknowledge batchId
  | .consumeBatch => ConsumerBatchQueue.consumeBatch
  | .triggerResync => fun q => (.ok (), q.triggerResync)

abbrev machine (T : Type) : Machine (Act T) fun a => Except MarketTypeError a.Answer where
  State := ConsumerBatchQueue T
  step q a := call a q

/-- What a caller knows of a queue from its answers: the items it accepted, the batches it handed out
and the batches acknowledged, in order. -/
structure History (T : Type) where
  accepted : List (ConsumerBatchItem T)
  batches : List (ConsumerBatch T)
  acknowledged : List (ConsumerBatch T)

def History.start : History T := ⟨[], [], []⟩

/-- The items of a batch of items that were accepted: none if one of them required a resync, and
otherwise the contiguous ones. -/
def acceptedItems (items : List (ConsumerBatchItem T)) (cs : List DeltaClassification) :
    List (ConsumerBatchItem T) :=
  if cs.any DeltaClassification.isResyncRequired then []
  else ((items.zip cs).filter fun x => x.2.isContiguous).map Prod.fst

def History.note (h : History T) : (Σ a : Act T, Except MarketTypeError a.Answer) → History T
  | ⟨.enqueueSnapshot item, .ok (.accepted _)⟩ => { h with accepted := h.accepted ++ [item] }
  | ⟨.enqueueItem item, .ok (.contiguous _)⟩ => { h with accepted := h.accepted ++ [item] }
  | ⟨.enqueueBatch items, .ok cs⟩ => { h with accepted := h.accepted ++ acceptedItems items cs }
  | ⟨.pullBatch, .ok (some b)⟩ => { h with batches := h.batches ++ [b] }
  | ⟨.acknowledge batchId, .ok _⟩ =>
    { h with acknowledged := h.acknowledged ++ h.batches.filter fun b => b.batchId = batchId }
  | ⟨.consumeBatch, .ok (some b)⟩ =>
    { h with batches := h.batches ++ [b], acknowledged := h.acknowledged ++ [b] }
  | _ => h

def itemsOf (batches : List (ConsumerBatch T)) : List (ConsumerBatchItem T) :=
  batches.flatMap ConsumerBatch.items

structure Delivered (config : ConsumerBatchConfig) (q : ConsumerBatchQueue T) (h : History T) : Prop where
  config_eq : q.config = config
  stream : itemsOf h.acknowledged ++ q.inFlightItems ++ q.queue = h.accepted
  capacity : q.allocatedCapacity ≤ config.maxQueueCapacity
  ids : h.batches.map (fun b => b.batchId.val) = List.range' 1 h.batches.length
  nextId : q.nextBatchId.val = h.batches.length + 1
  inFlight : ∀ b, q.inFlightBatch = some b → ∃ before, h.batches = before ++ [b]
  sizes : ∀ b ∈ h.batches, b.items.length ≤ config.maxBatchSize
  ends : h.accepted.Pairwise fun a b => a.sequenceRange.stop.val < b.sequenceRange.stop.val
  current : ∀ i ∈ h.accepted, ∃ curr, q.streamTracker.currentSequence = some curr ∧
    i.sequenceRange.stop.val ≤ curr.val
  ranges : ∀ i ∈ h.accepted, i.sequenceRange.start.val ≠ 0 ∧
    i.sequenceRange.start.val ≤ i.sequenceRange.stop.val

variable {config : ConsumerBatchConfig} {q q' : ConsumerBatchQueue T} {h : History T}

lemma Delivered.new {target : FeedTarget} (hnew : ConsumerBatchQueue.new target config = .ok q) :
    Delivered config q .start := by
  obtain ⟨_, -, hnew⟩ := bind_ok.1 hnew
  obtain ⟨_, -, hnew⟩ := bind_ok.1 hnew
  cases hnew
  constructor
  case nextId => exact Unsigned.lit_val (by norm_num)
  case capacity => exact Nat.zero_le _
  all_goals simp [History.start, itemsOf, inFlightItems]

lemma Delivered.triggerResync (hq : Delivered config q h) : Delivered config q.triggerResync h :=
  ⟨hq.config_eq, hq.stream, hq.capacity, hq.ids, hq.nextId, hq.inFlight, hq.sizes, hq.ends, hq.current,
    hq.ranges⟩

lemma Delivered.accept (hq : Delivered config q h) {item : ConsumerBatchItem T} (ha : Accepts q item q') :
    Delivered config q' { h with accepted := h.accepted ++ [item] } where
  config_eq := ha.config.trans hq.config_eq
  stream := by
    have hitems : q'.inFlightItems = q.inFlightItems := by rw [inFlightItems, ha.inFlightBatch, inFlightItems]
    rw [hitems, ha.queue, ← List.append_assoc, hq.stream]
  capacity := by
    have hroom := ha.room
    rw [hq.config_eq] at hroom
    have hitems : q'.inFlightItems = q.inFlightItems := by rw [inFlightItems, ha.inFlightBatch, inFlightItems]
    rw [allocatedCapacity] at hroom
    rw [allocatedCapacity, ha.queue, hitems, List.length_append, List.length_singleton]
    omega
  ids := hq.ids
  nextId := by rw [ha.nextBatchId, hq.nextId]
  inFlight := fun b hb => hq.inFlight b (ha.inFlightBatch ▸ hb)
  sizes := hq.sizes
  ends := by
    refine List.pairwise_append.2 ⟨hq.ends, List.pairwise_singleton _ _, ?_⟩
    intro i hi j hj
    rw [List.mem_singleton.1 hj]
    obtain ⟨curr, hcurr, hle⟩ := hq.current i hi
    exact lt_of_le_of_lt hle (ha.above curr hcurr)
  current := by
    intro i hi
    refine ⟨_, ha.current, ?_⟩
    rcases List.mem_append.1 hi with hold | hnew
    · obtain ⟨curr, hcurr, hle⟩ := hq.current i hold
      exact le_trans hle (Nat.le_of_lt (ha.above curr hcurr))
    · rw [List.mem_singleton.1 hnew]
  ranges := by
    intro i hi
    rcases List.mem_append.1 hi with hold | hnew
    · exact hq.ranges i hold
    · rw [List.mem_singleton.1 hnew]
      exact ha.range

lemma Delivered.acceptAll {items : List (ConsumerBatchItem T)} {cs : List DeltaClassification}
    (ha : AcceptsAll q items cs q') (hq : Delivered config q h) :
    Delivered config q' { h with
      accepted := h.accepted ++ ((items.zip cs).filter fun x => x.2.isContiguous).map Prod.fst } := by
  induction ha generalizing h with
  | nil q => simpa using hq
  | held hc hrest ih => simpa [hc] using ih hq
  | accepted hfirst hrest ih =>
    have hnext := ih (hq.accept hfirst)
    simpa [DeltaClassification.isContiguous, List.append_assoc] using hnext

section

variable (hq : Delivered config q h)

include hq

lemma Delivered.batch {b : ConsumerBatch T} (ht : Takes q b q') :
    (h.batches ++ [b]).map (fun b => b.batchId.val) = List.range' 1 (h.batches ++ [b]).length ∧
      q'.nextBatchId.val = (h.batches ++ [b]).length + 1 ∧
      (∀ b' ∈ h.batches ++ [b], b'.items.length ≤ config.maxBatchSize) ∧
      itemsOf h.acknowledged ++ b.items ++ q'.queue = h.accepted ∧
      b.items.length + q'.queue.length ≤ config.maxQueueCapacity := by
  have hempty : q.inFlightItems = [] := by rw [inFlightItems, ht.idle]; rfl
  have hsplit : b.items ++ q'.queue = q.queue := by rw [ht.items, ht.queue, List.take_append_drop]
  refine ⟨?_, ?_, ?_, ?_, ?_⟩
  · have hid : b.batchId.val = h.batches.length + 1 := by rw [ht.batchId, hq.nextId]
    rw [List.map_append, List.map_singleton, hq.ids, List.length_append, List.length_singleton,
      List.range'_concat, hid, Nat.one_mul, Nat.add_comm]
  · rw [ht.nextBatchId, hq.nextId, List.length_append, List.length_singleton]
  · intro b' hb'
    rcases List.mem_append.1 hb' with hold | hnew
    · exact hq.sizes b' hold
    · rw [List.mem_singleton.1 hnew, ht.items, List.length_take, batchSize, hq.config_eq]
      omega
  · have hstream := hq.stream
    rw [hempty, List.append_nil] at hstream
    rw [List.append_assoc, hsplit, hstream]
  · have hcapacity := hq.capacity
    rw [allocatedCapacity, hempty, ← hsplit, List.length_append] at hcapacity
    exact hcapacity

lemma Delivered.pull {b : ConsumerBatch T} (ht : Takes q b q')
    (hleft : q'.inFlightBatch = some b) : Delivered config q' { h with batches := h.batches ++ [b] } := by
  obtain ⟨hids, hnext, hsizes, hstream, hcapacity⟩ := hq.batch ht
  have hitems : q'.inFlightItems = b.items := by rw [inFlightItems, hleft]; rfl
  constructor
  · exact ht.config.trans hq.config_eq
  · rw [hitems]
    exact hstream
  · rw [allocatedCapacity, hitems, Nat.add_comm]
    exact hcapacity
  · exact hids
  · exact hnext
  · intro b' hb'
    rw [hleft] at hb'
    cases hb'
    exact ⟨h.batches, rfl⟩
  · exact hsizes
  · exact hq.ends
  · rw [ht.streamTracker]
    exact hq.current
  · exact hq.ranges

lemma Delivered.consume {b : ConsumerBatch T} (ht : Takes q b q')
    (hleft : q'.inFlightBatch = none) :
    Delivered config q' { h with batches := h.batches ++ [b], acknowledged := h.acknowledged ++ [b] } := by
  obtain ⟨hids, hnext, hsizes, hstream, hcapacity⟩ := hq.batch ht
  have hitems : q'.inFlightItems = [] := by rw [inFlightItems, hleft]; rfl
  constructor
  · exact ht.config.trans hq.config_eq
  · rw [hitems, List.append_nil, itemsOf, List.flatMap_append, List.flatMap_singleton]
    exact hstream
  · rw [allocatedCapacity, hitems]
    exact le_trans (Nat.le_add_left _ _) hcapacity
  · exact hids
  · exact hnext
  · intro b' hb'
    rw [hleft] at hb'
    cases hb'
  · exact hsizes
  · exact hq.ends
  · rw [ht.streamTracker]
    exact hq.current
  · exact hq.ranges

lemma Delivered.filter_inFlight {b : ConsumerBatch T}
    (hb : q.inFlightBatch = some b) : (h.batches.filter fun b' => b'.batchId = b.batchId) = [b] := by
  obtain ⟨before, hbatches⟩ := hq.inFlight b hb
  have hids := hq.ids
  rw [hbatches, List.map_append, List.map_singleton, List.length_append, List.length_singleton,
    List.range'_concat, Nat.one_mul] at hids
  obtain ⟨hbefore, hlast⟩ := List.append_inj hids (by simp)
  have hnone : (before.filter fun b' => b'.batchId = b.batchId) = [] := by
    refine List.filter_eq_nil_iff.2 fun b' hb' => ?_
    have hmem : b'.batchId.val ∈ List.range' 1 before.length :=
      hbefore ▸ List.mem_map_of_mem hb'
    have hlt : b'.batchId.val < b.batchId.val := by
      rw [List.singleton_inj.1 hlast]
      have hrange := List.mem_range'_1.1 hmem
      omega
    simpa using fun heq => absurd (congrArg Unsigned.val heq) hlt.ne
  rw [hbatches, List.filter_append, hnone]
  simp

lemma Delivered.acknowledge {b : ConsumerBatch T}
    (hb : q.inFlightBatch = some b) (hclear : q'.inFlightBatch = none)
    (hrest : q'.queue = q.queue ∧ q'.nextBatchId = q.nextBatchId ∧ q'.config = q.config ∧
      q'.streamTracker = q.streamTracker ∧ q'.target = q.target) :
    Delivered config q' { h with
      acknowledged := h.acknowledged ++ h.batches.filter fun b' => b'.batchId = b.batchId } := by
  obtain ⟨hqueue, hnext, hconfig, htracker, -⟩ := hrest
  have hitems : q'.inFlightItems = [] := by rw [inFlightItems, hclear]; rfl
  have hheld : q.inFlightItems = b.items := by rw [inFlightItems, hb]; rfl
  constructor
  · exact hconfig.trans hq.config_eq
  · have hstream := hq.stream
    rw [hheld] at hstream
    rw [hq.filter_inFlight hb, hitems, List.append_nil, itemsOf, List.flatMap_append,
      List.flatMap_singleton, hqueue]
    exact hstream
  · have hcapacity := hq.capacity
    rw [allocatedCapacity] at hcapacity
    rw [allocatedCapacity, hitems, hqueue]
    exact le_trans (Nat.le_add_right _ _) hcapacity
  · exact hq.ids
  · rw [hnext]
    exact hq.nextId
  · intro b' hb'
    rw [hclear] at hb'
    cases hb'
  · exact hq.sizes
  · exact hq.ends
  · rw [htracker]
    exact hq.current
  · exact hq.ranges

lemma Delivered.step (a : Act T) :
    Delivered config (call a q).2 (h.note ⟨a, (call a q).1⟩) := by
  cases a with
  | enqueueSnapshot item =>
    have hout := enqueueSnapshot_outcome q item
    simp only [call]
    generalize ConsumerBatchQueue.enqueueSnapshot item q = r at hout ⊢
    cases hout with
    | failed e => exact hq
    | duplicate s => exact hq
    | stale s c => exact hq
    | accepted q' ha => exact hq.accept ha
  | enqueueItem item =>
    have hout := enqueueItem_outcome q item
    simp only [call]
    generalize ConsumerBatchQueue.enqueueItem item q = r at hout ⊢
    cases hout with
    | failed e => exact hq
    | held c curr hc hcurr hle =>
      cases c with
      | contiguous n => cases hc.1
      | duplicate s => exact hq
      | stale s c => exact hq
      | resyncRequired e r => exact hq
    | resync expected received => exact hq.triggerResync
    | accepted q' curr ha hlatch hcurr hstart => exact hq.accept ha
  | enqueueBatch items =>
    have hout := enqueueBatch_outcome q items
    simp only [call]
    generalize ConsumerBatchQueue.enqueueBatch items q = r at hout ⊢
    cases hout with
    | failed e => exact hq
    | resync cs hcs =>
      have hnone : acceptedItems items cs = [] := if_pos hcs
      simp only [History.note, hnone, List.append_nil]
      exact hq.triggerResync
    | accepted cs q' hcs ha =>
      have hsome : acceptedItems items cs =
          ((items.zip cs).filter fun x => x.2.isContiguous).map Prod.fst := if_neg (by simp [hcs])
      simp only [History.note, hsome]
      exact hq.acceptAll ha
  | pullBatch =>
    have hout := pullBatch_outcome q
    simp only [call]
    generalize ConsumerBatchQueue.pullBatch q = r at hout ⊢
    cases hout with
    | failed e => exact hq
    | empty => exact hq
    | taken b q' ht hleft => exact hq.pull ht hleft
  | acknowledge batchId =>
    have hout := acknowledge_outcome q batchId
    simp only [call]
    generalize ConsumerBatchQueue.acknowledge batchId q = r at hout ⊢
    cases hout with
    | failed e => exact hq
    | acknowledged ack b q' hb hid hclear hrest =>
      subst hid
      exact hq.acknowledge hb hclear hrest
  | consumeBatch =>
    have hout := consumeBatch_outcome q
    simp only [call]
    generalize ConsumerBatchQueue.consumeBatch q = r at hout ⊢
    cases hout with
    | failed e => exact hq
    | empty => exact hq
    | taken b q' ht hleft => exact hq.consume ht hleft
  | triggerResync => exact hq.triggerResync

end

lemma call_failed {a : Act T} {e : MarketTypeError} (he : (call a q).1 = .error e) : (call a q).2 = q := by
  cases a with
  | enqueueSnapshot item =>
    have hout := enqueueSnapshot_outcome q item
    simp only [call] at he ⊢
    generalize ConsumerBatchQueue.enqueueSnapshot item q = r at hout he ⊢
    cases hout <;> first | rfl | cases he
  | enqueueItem item =>
    have hout := enqueueItem_outcome q item
    simp only [call] at he ⊢
    generalize ConsumerBatchQueue.enqueueItem item q = r at hout he ⊢
    cases hout <;> first | rfl | cases he
  | enqueueBatch items =>
    have hout := enqueueBatch_outcome q items
    simp only [call] at he ⊢
    generalize ConsumerBatchQueue.enqueueBatch items q = r at hout he ⊢
    cases hout <;> first | rfl | cases he
  | pullBatch =>
    have hout := pullBatch_outcome q
    simp only [call] at he ⊢
    generalize ConsumerBatchQueue.pullBatch q = r at hout he ⊢
    cases hout <;> first | rfl | cases he
  | acknowledge batchId =>
    have hout := acknowledge_outcome q batchId
    simp only [call] at he ⊢
    generalize ConsumerBatchQueue.acknowledge batchId q = r at hout he ⊢
    cases hout <;> first | rfl | cases he
  | consumeBatch =>
    have hout := consumeBatch_outcome q
    simp only [call] at he ⊢
    generalize ConsumerBatchQueue.consumeBatch q = r at hout he ⊢
    cases hout <;> first | rfl | cases he
  | triggerResync => cases he

/-- **The consumer queue delivers exactly once and in order.** -/
theorem queue_delivers_in_order (target : FeedTarget) (config : ConsumerBatchConfig)
    (q₀ : ConsumerBatchQueue T) (hnew : ConsumerBatchQueue.new target config = .ok q₀) (acts : List (Act T)) :
    let q : ConsumerBatchQueue T := (machine T).run q₀ acts
    let h : History T := ((machine T).answers q₀ acts).foldl History.note .start
    itemsOf h.acknowledged ++ q.inFlightItems ++ q.queue = h.accepted ∧
      q.queue.length + q.inFlightItems.length ≤ config.maxQueueCapacity ∧
      h.batches.map (fun b => b.batchId.val) = List.range' 1 h.batches.length ∧
      (∀ b ∈ h.batches, b.items.length ≤ config.maxBatchSize) ∧
      (h.accepted.Pairwise fun a b => a.sequenceRange.stop < b.sequenceRange.stop) ∧
      (∀ (a : Act T) (e : MarketTypeError), (call a q).1 = .error e → (call a q).2 = q) ∧
      (q.queue ≠ [] → q.streamTracker.resyncRequired = false → q.inFlightBatch = none →
        q.nextBatchId.val + 1 < 2 ^ 64 → q.totalDeliveredItems.val + q.batchSize < 2 ^ 64 →
        ∃ b, (call .pullBatch q).1 = .ok (some b)) := by
  intro q h
  have hq : Delivered config q h := Machine.answers_invariant (M := machine T) (P := Delivered config)
    (Delivered.new hnew) fun _ _ a hs => hs.step a
  refine ⟨hq.stream, hq.capacity, hq.ids, hq.sizes, hq.ends, fun a e he => call_failed he, ?_⟩
  intro hqueue hlatch hidle hid hdelivered
  have hsize : q.config.maxBatchSize ≠ 0 := by
    obtain ⟨_, -, hconfig⟩ := bind_ok.1 hnew
    obtain ⟨_, hvalid, -⟩ := bind_ok.1 hconfig
    simp only [ConsumerBatchConfig.validate, ensure_ok] at hvalid
    rw [hq.config_eq]
    exact hvalid.2.2.1
  have hsub : ∀ i ∈ q.queue, i ∈ h.accepted := fun i hi => hq.stream ▸ List.mem_append_right _ hi
  have hsuffix : q.queue.Sublist h.accepted := hq.stream ▸ List.sublist_append_right _ _
  exact pullBatch_succeeds ⟨hlatch, hidle⟩ hqueue hsize (fun i hi => hq.ranges i (hsub i hi))
    (hq.ends.sublist hsuffix) hid hdelivered

/-! A queue of capacity four with batches of two, after a snapshot, a delta and one batch taken. -/

section

def Sample.target : FeedTarget := .pool ⟨.solana, "p"⟩

def Sample.item (n payload : ℕ) : ConsumerBatchItem ℕ := ⟨Sample.target, ⟨.lit n, .lit n⟩, .lit 5, payload⟩

def Sample.acts : List (Act ℕ) :=
  [.enqueueSnapshot (Sample.item 7 70), .enqueueBatch [Sample.item 7 71, Sample.item 8 80], .consumeBatch,
    .enqueueItem (Sample.item 9 90)]

theorem sample_batch_ready :
    let q₀ : ConsumerBatchQueue ℕ := ⟨Sample.target, ⟨4, 2⟩, [], .new Sample.target, .lit 1, none, none, none,
      .zero, .zero, .zero⟩
    let q : ConsumerBatchQueue ℕ := (machine ℕ).run q₀ Sample.acts
    q.queue = [Sample.item 9 90] ∧ ∃ b, (call .pullBatch q).1 = .ok (some b) := by
  intro q₀ q
  have hrun := queue_delivers_in_order Sample.target ⟨4, 2⟩ q₀ (by decide +kernel) Sample.acts
  have hqueue : q.queue = [Sample.item 9 90] := by decide +kernel
  refine ⟨hqueue, hrun.2.2.2.2.2.2 ?_ ?_ ?_ ?_ ?_⟩
  · rw [hqueue]
    exact List.cons_ne_nil _ _
  · decide +kernel
  · decide +kernel
  · decide +kernel
  · decide +kernel

end

end

end PrivateExecution.Consumer
