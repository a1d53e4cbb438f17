import PrivateExecution.Async.Machine
import PrivateExecution.Realtime.Frame

/-!
# The realtime client

`RealtimeClient` (`web/workspace-payload/src/realtime/client.ts`) between `start` and `stop`, as a machine of its
synchronous sections. A frame waits in the ingest queue, is observed by its cleartext sequence (`begin`), is
decrypted while anything else may happen, and is then refused, dropped or delivered (`finish`).
-/

namespace PrivateExecution.Realtime

open Web

/-! ### Options and state -/

inductive ConnectionPhase where
  | idle | connecting | live | degraded | reconnecting | offline
deriving DecidableEq

structure ConnectionStatus where
  phase : ConnectionPhase
  lastFrameAtMs : Option ℚ
  attempt : ℕ
  nextRetryAtMs : Option ℚ
  reason : Option String

inductive ResyncReason where
  | gap | tamper | protocol | reconnect | explicit | backpressure | freshness

def ResyncReason.name : ResyncReason → String
  | .gap => "gap"
  | .tamper => "tamper"
  | .protocol => "protocol"
  | .reconnect => "reconnect"
  | .explicit => "explicit"
  | .backpressure => "backpressure"
  | .freshness => "freshness"

/-- The cipher stands for the decryptor's key. -/
structure Options where
  aead : Web.Aead
  expectedKid : String
  batcher : FrameBatcherOptions
  maxFrameAgeMs : Option ℚ

/-- A call of `onError`, `onResync`, `onFrames` or `onStatus`. -/
inductive Callback where
  | error (shape : WorkspaceErrorShape) (fatal : Bool)
  | resync (reason : ResyncReason) (fromSeq : Option ℕ)
  | frames (frames : List DecodedFrame)
  | status (status : ConnectionStatus)

/-- The frame that `ingestSerial` works on: its decryption is pending, or it is done and its bytes are about to
be released. -/
inductive Current where
  | decrypting (bytes : ℕ) (envelope : StreamEnvelope) (decision : SequenceDecision) (unbased : Bool)
  | settled (bytes : ℕ)

def Current.bytes : Current → ℕ
  | .decrypting bytes .. | .settled bytes => bytes

structure Client where
  sequencer : FrameSequencer
  batcher : FrameBatcher
  maxServerTimeMs : Option ℚ
  status : ConnectionStatus
  queue : List String
  current : Option Current
  disconnected : Bool
  lastResyncAtMs : ℚ
  resyncBaseline : Option ℕ
  refusedSnapshot : Bool
  lastActivityAtMs : ℚ
  callbacks : List Callback
  enqueued : List DecodedFrame
  evicted : List DecodedFrame
  advanced : List ℕ

def resyncCoalesceMs : ℚ := 3000
def preLiveRecoveryMs : ℚ := 5000
def maxPendingIngest : ℕ := 256
def maxPendingIngestBytes : ℕ := 8 * 1024 * 1024

def frameFreshnessTtlMs : ℚ := 30000

namespace Client

/-! ### Status and recovery requests -/

variable (s : Client) (now : ℚ)

def call (callback : Callback) : Client := { s with callbacks := callback :: s.callbacks }

def setStatus (status : ConnectionStatus) : Client :=
  { s with
    status := status
    lastResyncAtMs :=
      if s.status.phase ≠ ConnectionPhase.live ∧ status.phase = ConnectionPhase.live then 0
      else s.lastResyncAtMs }.call (.status status)

def start : Client :=
  Client.setStatus ⟨.reset, .empty, none, ⟨.idle, none, 0, none, none⟩, [], none, false, 0, none, false, now, [],
    [], [], []⟩ ⟨.connecting, none, 0, none, none⟩

def requestResync (reason : ResyncReason) (fromSeq : Option ℕ) : Client :=
  let s := { s with sequencer := s.sequencer.beginResync }
  if s.lastResyncAtMs ≠ 0 ∧ now - s.lastResyncAtMs < resyncCoalesceMs then s
  else
    ({ s with lastResyncAtMs := now, resyncBaseline := s.sequencer.applied }.setStatus
      { s.status with
        phase := .degraded
        reason := some ("Resync requested (" ++ reason.name ++ ")") }).call (.resync reason fromSeq)

def fail (shape : WorkspaceErrorShape) (reason : ResyncReason) (fromSeq : Option ℕ) : Client :=
  (s.call (.error shape false)).requestResync now reason fromSeq

def requestSnapshot (reason : ResyncReason) : Client :=
  s.requestResync now reason s.sequencer.expected

def noteConnected : Client :=
  let s := { s with disconnected := false, sequencer := s.sequencer.beginResync, refusedSnapshot := false }
  s.setStatus { s.status with
    phase := .connecting
    nextRetryAtMs := none
    reason := some "Awaiting authenticated snapshot" }

def noteDisconnected (reason : String) (nextRetryAtMs : Option ℚ) : Client :=
  let s := { s with disconnected := true, sequencer := s.sequencer.beginResync }
  s.setStatus { s.status with
    phase := .reconnecting
    attempt := s.status.attempt + 1
    nextRetryAtMs := nextRetryAtMs
    reason := some reason }

def flushDue (options : Options) (s : Client) (now : ℚ) : Client :=
  let (frames, batcher) := s.batcher.drainDue options.batcher now
  let s := { s with batcher := batcher }
  if frames.isEmpty then s else s.call (.frames frames)

def flushAll : Client :=
  let (frames, batcher) := s.batcher.drainAll
  let s := { s with batcher := batcher }
  if frames.isEmpty then s else s.call (.frames frames)

def watchdog : Client :=
  if s.status.phase = .live then
    if s.status.lastFrameAtMs.all fun last => decide (frameFreshnessTtlMs < now - last) then
      (s.setStatus { s.status with
        phase := .degraded
        reason := some "No authenticated frame within the freshness window." }).requestResync now .freshness
        s.sequencer.expected
    else s
  else if (s.status.phase = .connecting ∨ s.status.phase = .degraded) ∧
      preLiveRecoveryMs < now - s.lastActivityAtMs then
    s.requestResync now .gap s.sequencer.expected
  else s

/-! ### Ingest -/

def pendingIngest : ℕ := s.queue.length + s.current.elim 0 fun _ => 1

def pendingIngestBytes : ℕ := (s.queue.map jsLength).sum + s.current.elim 0 Current.bytes

def ingest (rawText : String) : Client :=
  if maxPendingIngest ≤ s.pendingIngest ∨ maxPendingIngestBytes < s.pendingIngestBytes + jsLength rawText then
    s.fail now ⟨.freshness, "Realtime ingest backlog exceeded the bounded queue.", true, none⟩ .backpressure
      s.sequencer.expected
  else { s with queue := s.queue ++ [rawText] }

section

variable [Platform] (options : Options)

variable (s : Client) (now : ℚ)

def begin : Client :=
  match s.current, s.queue with
  | none, rawText :: queue =>
    let bytes := jsLength rawText
    let s := { s with queue := queue, current := some (.settled bytes) }
    match parseEnvelopeText rawText with
    | .error thrown => s.fail now (toWorkspaceErrorShape thrown) .protocol s.sequencer.expected
    | .ok envelope =>
      if envelope.kid ≠ options.expectedKid then
        s.fail now ⟨.auth, "Stream envelope key id mismatch.", false, none⟩ .tamper s.sequencer.expected
      else
        let unbased := s.sequencer.expected.isNone
        let (decision, sequencer) := s.sequencer.observe envelope.sequence
        let s := { s with sequencer := sequencer }
        match decision with
        | .duplicate _ => s
        | .gap expected received =>
          s.fail now ⟨.freshness, "Realtime sequence gap detected.", true,
            some ("expected " ++ Nat.repr expected ++ ", received " ++ Nat.repr received)⟩ .gap (some expected)
        | .accept _ | .awaitSnapshot _ =>
          { s with current := some (.decrypting bytes envelope decision unbased) }
  | _, _ => s

/-- The frame goes to the batcher, and recovery is requested if that evicts another one. -/
def handOn (frame : DecodedFrame) : Client :=
  let (evicted, batcher) := s.batcher.enqueue options.batcher frame
  let s := { s with batcher := batcher, enqueued := frame :: s.enqueued }
  match evicted with
  | none => s
  | some lost => { s with evicted := lost :: s.evicted }.fail now
      ⟨.freshness, "Realtime backpressure exceeded the bounded buffer.", true, none⟩ .backpressure
      s.sequencer.expected

/-- The end of `ingestSerial`. `progressed` is false of a recovery snapshot without newer state. -/
def deliver (frame : DecodedFrame) (progressed : Bool) : Client :=
  let s := s.handOn options now frame
  let s :=
    if progressed then
      { s with advanced := frame.seq :: s.advanced }.setStatus { s.status with
        phase := .live
        lastFrameAtMs := some now
        reason := none }
    else
      s.setStatus { s.status with
        phase := .degraded
        reason := some "Recovery snapshot carried no newer state." }
  if frame.priority.val = 0 ∨ frame.op = .snapshot then s.flushDue options now else s

/-- `this.sequencer.onSnapshot`, which begins a new baseline. -/
def onSnapshot (seq : ℕ) : Client :=
  { s with sequencer := s.sequencer.onSnapshot seq, refusedSnapshot := false, evicted := [] }

def receive (decision : SequenceDecision) (unbased : Bool) (frame : DecodedFrame) : Client :=
  let s := { s with lastActivityAtMs := now }
  match decision with
  | .awaitSnapshot _ =>
    if frame.op ≠ .snapshot then s.requestResync now .gap s.sequencer.expected
    else
      match s.sequencer.applied.filter fun applied => decide (frame.seq < applied) with
      | some applied =>
        if s.refusedSnapshot then s
        else { s with refusedSnapshot := true }.call (.error
          ⟨.protocol, "Refused a recovery snapshot older than the applied state.", false,
            some ("applied " ++ Nat.repr applied ++ ", received " ++ Nat.repr frame.seq)⟩ false)
      | none =>
        (s.onSnapshot frame.seq).deliver options now frame
          (s.resyncBaseline.all fun baseline => decide (baseline < frame.seq))
  | _ =>
    if frame.op = .snapshot then (s.onSnapshot frame.seq).deliver options now frame true
    else if unbased then
      s.fail now ⟨.protocol, "Realtime stream did not begin with a snapshot.", false, none⟩ .protocol
        s.sequencer.expected
    else { s with sequencer := s.sequencer.noteApplied frame.seq }.deliver options now frame true

/-- The replay defence on the authenticated server clock; `serverNow` is its reading, if there is one. -/
def screen (serverNow : Option ℚ) (decision : SequenceDecision) (unbased : Bool)
    (frame : DecodedFrame) : Client :=
  match frame.serverTimeMs, serverNow with
  | some serverTimeMs, some nowServer =>
    let tooOld := decide (options.maxFrameAgeMs.getD frameFreshnessTtlMs < nowServer - serverTimeMs)
    let regressed := s.maxServerTimeMs.any fun highest => decide (serverTimeMs < highest)
    if regressed || tooOld then
      s.fail now ⟨.freshness, if tooOld then "Refused a replayed realtime frame older than the freshness window."
        else "Refused a realtime frame whose authenticated server time regressed.", true, none⟩ .freshness
        s.sequencer.expected
    else { s with maxServerTimeMs := some serverTimeMs }.receive options now decision unbased frame
  | _, _ => s.receive options now decision unbased frame

def finish (serverNow : Option ℚ) : Client :=
  match s.current with
  | some (.decrypting bytes envelope decision unbased) =>
    let s := { s with current := some (.settled bytes) }
    match decrypt options.aead options.expectedKid envelope with
    | .error thrown => s.fail now (toWorkspaceErrorShape thrown) .tamper s.sequencer.expected
    | .ok plaintext =>
      if s.disconnected then s
      else
        match decodeInnerFrame plaintext envelope.sequence with
        | .error thrown => s.fail now (toWorkspaceErrorShape thrown) .protocol s.sequencer.expected
        | .ok frame => s.screen options now serverNow decision unbased frame
  | _ => s

def settle : Client :=
  match s.current with
  | some (.settled _) => { s with current := none }
  | _ => s

end

end Client

/-! ### The machine -/

/-- A synchronous section. `socketOpen` is the handler of the worker (`worker.ts`, `openSocket`), which notes the
connection and requests a snapshot. -/
inductive Act where
  | ingest (now : ℚ) (rawText : String)
  | begin (now : ℚ)
  | finish (now : ℚ) (serverNow : Option ℚ)
  | settle
  | noteConnected
  | socketOpen (now : ℚ)
  | noteDisconnected (reason : String) (nextRetryAtMs : Option ℚ)
  | requestSnapshot (now : ℚ) (reason : ResyncReason)
  | watchdog (now : ℚ)
  | flushDue (now : ℚ)
  | flushAll

section

variable [Platform]

def Client.step (options : Options) (s : Client) : Act → Client
  | .ingest now rawText => s.ingest now rawText
  | .begin now => s.begin options now
  | .finish now serverNow => s.finish options now serverNow
  | .settle => s.settle
  | .noteConnected => s.noteConnected
  | .socketOpen now => s.noteConnected.requestSnapshot now .reconnect
  | .noteDisconnected reason nextRetryAtMs => s.noteDisconnected reason nextRetryAtMs
  | .requestSnapshot now reason => s.requestSnapshot now reason
  | .watchdog now => s.watchdog now
  | .flushDue now => s.flushDue options now
  | .flushAll => s.flushAll

abbrev client (options : Options) : Async.Machine Act fun _ => Unit where
  State := Client
  step s a := ((), s.step options a)

end

end PrivateExecution.Realtime
