import PrivateExecution.Web.Envelope

/-!
# Frames of the realtime stream

The parts of the realtime client (`web/workspace-payload/src/realtime`) that a frame passes through: the decoder
of a decrypted frame (`decoder.ts`), the sequencer that decides about a cleartext sequence (`sequencer.ts`) and
the bounded buffer that coalesces frames by priority (`batcher.ts`).
-/

namespace PrivateExecution.Realtime

open Web

/-! ### Decoding -/

inductive FrameOp where
  | snapshot | delta | heartbeat | mark | error
deriving DecidableEq

inductive RealtimeChannel where
  | ohlcv | depth | trades | market | orders | execution | alerts | portfolio | providers | system

abbrev Priority : Type := Fin 4

def FrameOp.ofName : String → Option FrameOp
  | "snapshot" => some .snapshot
  | "delta" => some .delta
  | "heartbeat" => some .heartbeat
  | "mark" => some .mark
  | "error" => some .error
  | _ => none

def RealtimeChannel.ofName : String → Option RealtimeChannel
  | "ohlcv" => some .ohlcv
  | "depth" => some .depth
  | "trades" => some .trades
  | "market" => some .market
  | "orders" => some .orders
  | "execution" => some .execution
  | "alerts" => some .alerts
  | "portfolio" => some .portfolio
  | "providers" => some .providers
  | "system" => some .system
  | _ => none

def RealtimeChannel.priority : RealtimeChannel → Priority
  | .execution | .orders => 0
  | .ohlcv | .depth | .trades => 1
  | .market | .alerts | .portfolio => 2
  | .providers | .system => 3

structure DecodedFrame where
  seq : ℕ
  op : FrameOp
  channel : RealtimeChannel
  priority : Priority
  entityKey : String
  slot : Option ℕ
  sourceAgeMs : ℚ
  serverTimeMs : Option ℚ
  payload : Option Json

def maxEntityKeyLength : ℕ := 256
def maxPayloadBytes : ℕ := 512 * 1024

def present (raw : Json) (key : String) : Option Json :=
  match raw.get key with
  | none | some .null => none
  | some v => some v

def nonNegative : Json → Option ℚ
  | .number (.finite q) => if 0 ≤ q then some q else none
  | _ => none

def priorityOf : Json → Option Priority
  | .number (.finite q) => if q = 0 then some 0 else if q = 1 then some 1 else if q = 2 then some 2
      else if q = 3 then some 3 else none
  | _ => none

/-- The value of an optional field that must read as a number if it is there. -/
def optional {α : Type} (field : Option Json) (read : Json → Option α) (thrown : Thrown) :
    Except Thrown (Option α) :=
  match field with
  | none => .ok none
  | some v => (okOr (read v) thrown).map some

def decodeInnerFrame [Platform] (bytes : List UInt8) (seq : ℕ) : Except Thrown DecodedFrame := do
  ensure (bytes ≠ [] ∧ bytes.length ≤ maxPayloadBytes)
    (workspaceError .protocol "Decrypted frame payload size out of range.")
  let text ← okOr (Platform.utf8Decode bytes)
    (workspaceError .protocol "Decrypted frame was not valid UTF-8.")
  let raw ← okOr (Platform.jsonParse text) (workspaceError .protocol "Decrypted frame was not valid JSON.")
  ensure (raw.isRecord = true) (workspaceError .protocol "Decrypted frame was not an object.")
  let op ← okOr (((raw.get "op").bind Json.asString).bind FrameOp.ofName)
    (workspaceError .protocol "Decrypted frame had an unknown operation.")
  let channelName ← okOr ((raw.get "channel").bind Json.asString)
    (workspaceError .protocol "Decrypted frame had an unknown channel.")
  let channel ← okOr (RealtimeChannel.ofName channelName)
    (workspaceError .protocol "Decrypted frame had an unknown channel.")
  let slot ← optional (present raw "slot") Json.asSafeNatural
    (workspaceError .protocol "Decrypted frame had an invalid slot.")
  let serverTimeMs ← optional (present raw "server_time_ms") nonNegative
    (workspaceError .protocol "Decrypted frame had an invalid server time.")
  ensure (op = .snapshot ∨ op = .delta → (raw.get "payload").isSome = true)
    (workspaceError .protocol "Decrypted state frame carried no payload.")
  return {
    seq := seq
    op := op
    channel := channel
    priority := ((raw.get "priority").bind priorityOf).getD channel.priority
    entityKey := (((raw.get "entity_key").bind Json.asString).filter fun key =>
      decide (key ≠ "" ∧ jsLength key ≤ maxEntityKeyLength)).getD (channelName ++ ":default")
    slot := slot
    sourceAgeMs := ((raw.get "source_age_ms").bind nonNegative).getD 0
    serverTimeMs := serverTimeMs
    payload := raw.get "payload" }

lemma seq_of_decode [Platform] {bytes : List UInt8} {seq : ℕ} {frame : DecodedFrame}
    (h : decodeInnerFrame bytes seq = .ok frame) : frame.seq = seq := by
  unfold decodeInnerFrame at h
  obtain ⟨-, -, h⟩ := bind_ok.1 h
  obtain ⟨_, -, h⟩ := bind_ok.1 h
  obtain ⟨_, -, h⟩ := bind_ok.1 h
  obtain ⟨-, -, h⟩ := bind_ok.1 h
  obtain ⟨_, -, h⟩ := bind_ok.1 h
  obtain ⟨_, -, h⟩ := bind_ok.1 h
  obtain ⟨_, -, h⟩ := bind_ok.1 h
  obtain ⟨_, -, h⟩ := bind_ok.1 h
  obtain ⟨_, -, h⟩ := bind_ok.1 h
  obtain ⟨-, -, h⟩ := bind_ok.1 h
  cases h
  rfl

/-! ### Sequencing -/

inductive SequenceDecision where
  | accept (expectedAfter : ℕ)
  | duplicate (expected : ℕ)
  | gap (expected received : ℕ)
  | awaitSnapshot (expected : Option ℕ)

structure FrameSequencer where
  expected : Option ℕ
  resyncing : Bool
  applied : Option ℕ
deriving DecidableEq

namespace FrameSequencer

def reset : FrameSequencer := ⟨none, false, none⟩

variable (s : FrameSequencer)

def beginResync : FrameSequencer := { s with resyncing := true }

def onSnapshot (_s : FrameSequencer) (seq : ℕ) : FrameSequencer := ⟨some (seq + 1), false, some seq⟩

def noteApplied (seq : ℕ) : FrameSequencer := { s with applied := some seq }

def observe (seq : ℕ) : SequenceDecision × FrameSequencer :=
  if s.resyncing then (.awaitSnapshot s.expected, s)
  else
    match s.expected with
    | none => (.accept (seq + 1), { s with expected := some (seq + 1) })
    | some expected =>
      if seq < expected then (.duplicate expected, s)
      else if expected < seq then (.gap expected seq, { s with resyncing := true })
      else (.accept (seq + 1), { s with expected := some (seq + 1) })

lemma observe_cases (seq : ℕ) : (s.resyncing = true ∧ s.observe seq = (.awaitSnapshot s.expected, s)) ∨
    (s.resyncing = false ∧ (s.expected = none ∨ s.expected = some seq) ∧
      s.observe seq = (.accept (seq + 1), { s with expected := some (seq + 1) })) ∨
    (∃ expected, s.observe seq = (.duplicate expected, s)) ∨
    ∃ expected, s.observe seq = (.gap expected seq, s.beginResync) := by
  obtain ⟨expected, resyncing, applied⟩ := s
  cases resyncing with
  | true => exact .inl ⟨rfl, rfl⟩
  | false =>
    cases expected with
    | none => exact .inr (.inl ⟨rfl, .inl rfl, rfl⟩)
    | some expected =>
      simp only [observe, Bool.false_eq_true, if_false]
      split_ifs with hold hgap
      · exact .inr (.inr (.inl ⟨expected, rfl⟩))
      · exact .inr (.inr (.inr ⟨expected, rfl⟩))
      · obtain rfl : expected = seq := by omega
        exact .inr (.inl ⟨trivial, .inr rfl, rfl⟩)

end FrameSequencer

/-! ### Batching -/

structure FrameBatcherOptions where
  capacity : ℕ
  flushMs : Priority → ℚ

def defaultFlushMs : Priority → ℚ
  | 0 => 0
  | 1 => 60
  | 2 => 400
  | 3 => 1000

/-- A map in the order of insertion. -/
abbrev Bucket : Type := List (String × DecodedFrame)

def Bucket.set (bucket : Bucket) (key : String) (frame : DecodedFrame) : Bucket :=
  if bucket.any (·.1 == key) then bucket.map fun entry => if entry.1 = key then (key, frame) else entry
  else bucket ++ [(key, frame)]

/-- A bucket that was never flushed has no `lastFlush`. -/
structure FrameBatcher where
  buckets : Priority → Bucket
  lastFlush : Priority → Option ℚ
  total : ℕ
  p0Sequence : ℕ

namespace FrameBatcher

def empty : FrameBatcher := ⟨fun _ => [], fun _ => none, 0, 0⟩

/-- The first bucket of a list of priorities that holds a frame loses its oldest one. -/
def evictFrom (b : FrameBatcher) : List Priority → Option (DecodedFrame × FrameBatcher)
  | [] => none
  | priority :: rest =>
    match b.buckets priority with
    | [] => b.evictFrom rest
    | entry :: bucket =>
      some (entry.2, { b with buckets := Function.update b.buckets priority bucket, total := b.total - 1 })

/-- The evicted frame and the buffer without it; `forcedResync` is that there is one. -/
def evictOne (b : FrameBatcher) : Option (DecodedFrame × FrameBatcher) := b.evictFrom [3, 2, 1, 0]

/-- The key of a frame in its bucket: frames of priority 0 are never coalesced. -/
def keyOf (b : FrameBatcher) (frame : DecodedFrame) : String :=
  if frame.priority = 0 then frame.entityKey ++ "#" ++ Nat.repr b.p0Sequence else frame.entityKey

variable (options : FrameBatcherOptions)

/-- The frame that was evicted to make room, and the buffer with the new frame. -/
def enqueue (b : FrameBatcher) (frame : DecodedFrame) : Option DecodedFrame × FrameBatcher :=
  let key := b.keyOf frame
  let bucket := b.buckets frame.priority
  let b := if frame.priority = 0 then { b with p0Sequence := b.p0Sequence + 1 } else b
  if frame.priority ≠ 0 ∧ bucket.any (·.1 == key) then
    (none, { b with buckets :=
      Function.update b.buckets frame.priority (bucket.filter (·.1 != key) ++ [(key, frame)]) })
  else
    let (evicted, b) := match (if options.capacity ≤ b.total then b.evictOne else none) with
      | some (evicted, b) => (some evicted, b)
      | none => (none, b)
    (evicted, { b with
      buckets := Function.update b.buckets frame.priority ((b.buckets frame.priority).set key frame)
      total := b.total + 1 })

lemma enqueue_of_room {options : FrameBatcherOptions} {b : FrameBatcher} (h : b.total < options.capacity)
    (frame : DecodedFrame) : (b.enqueue options frame).1 = none := by
  have hroom : ¬options.capacity ≤
      (if frame.priority = 0 then { b with p0Sequence := b.p0Sequence + 1 } else b).total := by
    split <;> exact Nat.not_le.2 h
  simp only [enqueue, if_neg hroom]
  split <;> rfl

def drainBucket (now : ℚ) (drained : List DecodedFrame × FrameBatcher)
    (priority : Priority) : List DecodedFrame × FrameBatcher :=
  let (out, b) := drained
  let bucket := b.buckets priority
  if bucket.isEmpty || (b.lastFlush priority).any (fun last => decide (now - last < options.flushMs priority)) then
    drained
  else
    (out ++ bucket.map Prod.snd, { b with
      buckets := Function.update b.buckets priority []
      lastFlush := Function.update b.lastFlush priority (some now)
      total := b.total - bucket.length })

def drainDue (b : FrameBatcher) (now : ℚ) : List DecodedFrame × FrameBatcher :=
  [0, 1, 2, 3].foldl (drainBucket options now) ([], b)

def drainAll (b : FrameBatcher) : List DecodedFrame × FrameBatcher :=
  (([0, 1, 2, 3] : List Priority).flatMap fun priority => (b.buckets priority).map Prod.snd,
    { b with
      buckets := fun _ => []
      total := b.total - (([0, 1, 2, 3] : List Priority).map fun priority => (b.buckets priority).length).sum })

end FrameBatcher

end PrivateExecution.Realtime
