import PrivateExecution.Realtime.Client

/-!
# The recovery protocol of the realtime client

What the guarantees of the client rest on, without its buffers and callbacks: the sequencer, the frame whose
decryption is pending, whether the socket is open and the phase is live, the time and the baseline of the last
recovery request, and the history. `Step` lists what a synchronous section can do to this.
-/

namespace PrivateExecution.Realtime

open Web

/-- A frame whose decryption is pending: its sequence, whether it was observed while a snapshot was awaited, and
whether there was no baseline then. -/
structure Flight where
  seq : ℕ
  awaiting : Bool
  unbased : Bool

/-- The state of the recovery protocol. -/
structure Core where
  sequencer : FrameSequencer
  flight : Option Flight
  disconnected : Bool
  live : Bool
  lastFrameAtMs : Option ℚ
  lastResyncAtMs : ℚ
  resyncBaseline : Option ℕ
  enqueued : List DecodedFrame
  evicted : List DecodedFrame
  advanced : List ℕ

namespace Core

variable (c : Core)

/-- A recovery request: within the window of the last one it only makes the sequencer wait. -/
def requestResync (now : ℚ) : Core :=
  let c := { c with sequencer := c.sequencer.beginResync }
  if c.lastResyncAtMs ≠ 0 ∧ now - c.lastResyncAtMs < resyncCoalesceMs then c
  else { c with live := false, lastResyncAtMs := now, resyncBaseline := c.sequencer.applied }

/-- A request made now would be taken for a repetition of the outstanding one. -/
def Coalesces (now : ℚ) : Prop := c.lastResyncAtMs ≠ 0 ∧ now - c.lastResyncAtMs < resyncCoalesceMs

def reconnect (disconnected : Bool) : Core :=
  { c with sequencer := c.sequencer.beginResync, disconnected := disconnected, live := false }

def onSnapshot (seq : ℕ) : Core :=
  { c with sequencer := c.sequencer.onSnapshot seq, evicted := [] }

/-- The part of a delivery before the status: the frame is handed on, and an eviction requests recovery. -/
def handOn (now : ℚ) (frame : DecodedFrame) (evicted : Option DecodedFrame) : Core :=
  let c := { c with enqueued := frame :: c.enqueued }
  match evicted with
  | none => c
  | some lost => { c with evicted := lost :: c.evicted }.requestResync now

def deliver (now : ℚ) (frame : DecodedFrame) (evicted : Option DecodedFrame) (progressed : Bool) : Core :=
  let c := c.handOn now frame evicted
  if progressed then
    { c with
      advanced := frame.seq :: c.advanced
      lastFrameAtMs := some now
      lastResyncAtMs := if c.live then c.lastResyncAtMs else 0
      live := true }
  else { c with live := false }

def land : Core := { c with flight := none }

end Core

def SequenceDecision.isAwait : SequenceDecision → Bool
  | .awaitSnapshot _ => true
  | _ => false

/-- What a section may do: note a connection without requesting a snapshot, and deliver a frame now that
evicts another one or none. -/
structure Scope where
  Connects : Prop
  Delivers : ℚ → DecodedFrame → Option DecodedFrame → Prop

inductive Step (scope : Scope) : Core → Core → Prop
  | stay (c : Core) : Step scope c c
  | request (c : Core) (now : ℚ) : Step scope c (c.requestResync now)
  | connect (c : Core) (hconnects : scope.Connects) : Step scope c (c.reconnect false)
  | disconnect (c : Core) : Step scope c (c.reconnect true)
  | socketOpen (c : Core) (now : ℚ) : Step scope c ((c.reconnect false).requestResync now)
  | lapse (c : Core) (now : ℚ) : Step scope c ({ c with live := false }.requestResync now)
  | observe (c : Core) (seq : ℕ) (decision : SequenceDecision) (sequencer : FrameSequencer)
      (hidle : c.flight = none) (hobserve : c.sequencer.observe seq = (decision, sequencer))
      (hdecision : decision.isAwait = true ∨ ∃ after, decision = .accept after) :
      Step scope c { c with
        sequencer := sequencer
        flight := some ⟨seq, decision.isAwait, c.sequencer.expected.isNone⟩ }
  | drop (c : Core) (flight : Flight) (hflight : c.flight = some flight)
      (hdrop : c.disconnected = true ∨ flight.awaiting = true) : Step scope c c.land
  | fail (c : Core) (now : ℚ) : Step scope c (c.land.requestResync now)
  | recover (c : Core) (now : ℚ) (frame : DecodedFrame) (evicted : Option DecodedFrame) (unbased : Bool)
      (hflight : c.flight = some ⟨frame.seq, true, unbased⟩) (hconnected : c.disconnected = false)
      (hdelivers : scope.Delivers now frame evicted) (hop : frame.op = .snapshot)
      (happlied : ∀ applied, c.sequencer.applied = some applied → applied ≤ frame.seq) :
      Step scope c ((c.land.onSnapshot frame.seq).deliver now frame evicted
        (c.resyncBaseline.all fun baseline => decide (baseline < frame.seq)))
  | snapshot (c : Core) (now : ℚ) (frame : DecodedFrame) (evicted : Option DecodedFrame) (unbased : Bool)
      (hflight : c.flight = some ⟨frame.seq, false, unbased⟩) (hconnected : c.disconnected = false)
      (hdelivers : scope.Delivers now frame evicted) (hop : frame.op = .snapshot) :
      Step scope c ((c.land.onSnapshot frame.seq).deliver now frame evicted true)
  | next (c : Core) (now : ℚ) (frame : DecodedFrame) (evicted : Option DecodedFrame)
      (hflight : c.flight = some ⟨frame.seq, false, false⟩) (hconnected : c.disconnected = false)
      (hdelivers : scope.Delivers now frame evicted) (hop : frame.op ≠ .snapshot) :
      Step scope c ({ c.land with sequencer := c.sequencer.noteApplied frame.seq }.deliver now frame evicted true)

/-! ### The client takes such steps -/

def Current.flight : Current → Option Flight
  | .decrypting _ envelope decision unbased => some ⟨envelope.sequence, decision.isAwait, unbased⟩
  | .settled _ => none

namespace Client

def core (s : Client) : Core :=
  ⟨s.sequencer, s.current.bind Current.flight, s.disconnected, s.status.phase = .live, s.status.lastFrameAtMs,
    s.lastResyncAtMs, s.resyncBaseline, s.enqueued, s.evicted, s.advanced⟩

variable (s : Client) (now : ℚ)

@[simp] lemma core_call (callback : Callback) : (s.call callback).core = s.core := rfl

lemma core_requestResync (reason : ResyncReason) (fromSeq : Option ℕ) :
    (s.requestResync now reason fromSeq).core = s.core.requestResync now := by
  unfold requestResync Core.requestResync
  dsimp only
  by_cases hwindow : s.lastResyncAtMs ≠ 0 ∧ now - s.lastResyncAtMs < resyncCoalesceMs
  · rw [if_pos hwindow, if_pos (by exact hwindow)]
    rfl
  · rw [if_neg hwindow, if_neg (by exact hwindow)]
    simp [core, setStatus, call]

lemma core_fail (shape : WorkspaceErrorShape) (reason : ResyncReason) (fromSeq : Option ℕ) :
    (s.fail now shape reason fromSeq).core = s.core.requestResync now := by
  rw [fail, core_requestResync, core_call]

variable (options : Options)

@[simp] lemma core_flushDue : (s.flushDue options now).core = s.core := by
  unfold flushDue
  dsimp only
  split <;> rfl

@[simp] lemma core_flushAll : s.flushAll.core = s.core := by
  unfold flushAll
  dsimp only
  split <;> rfl

lemma core_noteConnected : s.noteConnected.core = s.core.reconnect false := by
  simp [noteConnected, core, setStatus, call, Core.reconnect]

lemma core_noteDisconnected (reason : String) (nextRetryAtMs : Option ℚ) :
    (s.noteDisconnected reason nextRetryAtMs).core = s.core.reconnect true := by
  simp [noteDisconnected, core, setStatus, call, Core.reconnect]

lemma core_handOn (frame : DecodedFrame) : (s.handOn options now frame).core =
      s.core.handOn now frame (s.batcher.enqueue options.batcher frame).1 := by
  unfold handOn Core.handOn
  dsimp only
  cases (s.batcher.enqueue options.batcher frame).1 with
  | none => rfl
  | some lost => exact core_fail _ _ _ _ _

lemma core_deliver (frame : DecodedFrame) (progressed : Bool) :
    (s.deliver options now frame progressed).core =
      s.core.deliver now frame (s.batcher.enqueue options.batcher frame).1 progressed := by
  rw [Core.deliver, ← core_handOn, deliver]
  generalize s.handOn options now frame = t
  have hstatus : (if progressed = true then
        { t with advanced := frame.seq :: t.advanced }.setStatus { t.status with
          phase := .live
          lastFrameAtMs := some now
          reason := none }
      else t.setStatus { t.status with
        phase := .degraded
        reason := some "Recovery snapshot carried no newer state." }).core =
      if progressed = true then
        { t.core with
          advanced := frame.seq :: t.core.advanced
          lastFrameAtMs := some now
          lastResyncAtMs := if t.core.live = true then t.core.lastResyncAtMs else 0
          live := true }
      else { t.core with live := false } := by
    cases progressed with
    | true => simp [core, setStatus, call, ite_not]
    | false => simp [core, setStatus, call]
  dsimp only
  split
  · rw [core_flushDue]
    exact hstatus
  · exact hstatus

/-! ### Sections as steps -/

section

variable {s now} {c : Core} {scope : Scope} {options : Options}

lemma step_receive {decision : SequenceDecision} {unbased : Bool} {frame : DecodedFrame}
    (hflight : c.flight = some ⟨frame.seq, decision.isAwait, unbased⟩) (hland : s.core = c.land)
    (hconnected : c.disconnected = false)
    (hdelivers : scope.Delivers now frame (s.batcher.enqueue options.batcher frame).1) :
    Step scope c (s.receive options now decision unbased frame).core := by
  have hfail : Step scope c (s.core.requestResync now) := hland ▸ .fail c now
  have hsequencer : s.sequencer = c.sequencer := congrArg Core.sequencer hland
  have hbaseline : s.resyncBaseline = c.resyncBaseline := congrArg Core.resyncBaseline hland
  have hsnapshot : (onSnapshot { s with lastActivityAtMs := now } frame.seq).core = c.land.onSnapshot frame.seq := by
    rw [← hland]
    rfl
  unfold receive
  dsimp only
  split
  · split
    · rw [core_requestResync]
      exact hfail
    next hop =>
      split
      next applied hold =>
        have hdrop : Step scope c s.core := hland ▸ .drop c _ hflight (.inr rfl)
        split <;> exact hdrop
      next hnew =>
        have happlied : ∀ applied, c.sequencer.applied = some applied → applied ≤ frame.seq := by
          intro applied happlied
          simpa [hsequencer, happlied, Option.filter] using hnew
        rw [core_deliver, hsnapshot, hbaseline]
        exact .recover c now frame _ unbased hflight hconnected hdelivers (not_not.1 hop) happlied
  next hdecision =>
    have hflight : c.flight = some ⟨frame.seq, false, unbased⟩ := by
      rw [hflight]
      cases decision with
      | awaitSnapshot expected => exact absurd rfl (hdecision expected)
      | accept | duplicate | gap => rfl
    split
    next hop =>
      rw [core_deliver, hsnapshot]
      exact .snapshot c now frame _ unbased hflight hconnected hdelivers hop
    next hop =>
      split
      · rw [core_fail]
        exact hfail
      next hbased =>
        obtain rfl : unbased = false := Bool.not_eq_true _ ▸ hbased
        have happlied : ({ s with
            lastActivityAtMs := now
            sequencer := s.sequencer.noteApplied frame.seq } : Client).core =
            { c.land with sequencer := c.sequencer.noteApplied frame.seq } := by
          rw [← hland, ← hsequencer]
          rfl
        rw [core_deliver, happlied]
        exact .next c now frame _ hflight hconnected hdelivers hop

lemma step_screen {serverNow : Option ℚ} {decision : SequenceDecision} {unbased : Bool}
    {frame : DecodedFrame}
    (hflight : c.flight = some ⟨frame.seq, decision.isAwait, unbased⟩) (hland : s.core = c.land)
    (hconnected : c.disconnected = false)
    (hdelivers : scope.Delivers now frame (s.batcher.enqueue options.batcher frame).1) :
    Step scope c (s.screen options now serverNow decision unbased frame).core := by
  unfold screen
  split
  · dsimp only
    split
    · rw [core_fail]
      exact hland ▸ .fail c now
    · exact step_receive hflight hland hconnected hdelivers
  · exact step_receive hflight hland hconnected hdelivers

end

def Opens [Platform] (options : Options) (s : Client) (frame : DecodedFrame) : Prop :=
  ∃ bytes envelope decision unbased plaintext, s.current = some (.decrypting bytes envelope decision unbased) ∧
    decrypt options.aead options.expectedKid envelope = .ok plaintext ∧
    decodeInnerFrame plaintext envelope.sequence = .ok frame

/-- What a section of the client may do: only the end of a decryption delivers. -/
def scope [Platform] (options : Options) (s : Client) (a : Act) : Scope where
  Connects := a = .noteConnected
  Delivers now frame evicted := (∃ serverNow, a = .finish now serverNow) ∧ s.Opens options frame ∧
    evicted = (s.batcher.enqueue options.batcher frame).1

variable [Platform] (options : Options)

lemma step_finish (serverNow : Option ℚ) :
    Step (s.scope options (.finish now serverNow)) s.core (s.finish options now serverNow).core := by
  unfold finish
  split
  next bytes envelope decision unbased hcurrent =>
    have hflight : s.core.flight = some ⟨envelope.sequence, decision.isAwait, unbased⟩ := by
      simp [core, hcurrent, Current.flight]
    have hland : ({ s with current := some (.settled bytes) } : Client).core = s.core.land := rfl
    dsimp only
    split
    · rw [core_fail, hland]
      exact .fail _ now
    next plaintext hopens =>
      split
      next hdisconnected => exact hland ▸ .drop _ _ hflight (.inl hdisconnected)
      next hconnected =>
        split
        · rw [core_fail, hland]
          exact .fail _ now
        next frame hdecodes =>
          have hseq : frame.seq = envelope.sequence := seq_of_decode hdecodes
          exact step_screen (hseq ▸ hflight) hland (Bool.not_eq_true _ ▸ hconnected)
            ⟨⟨serverNow, rfl⟩, ⟨bytes, envelope, decision, unbased, plaintext, hcurrent, hopens, hdecodes⟩, rfl⟩
  · exact .stay _

lemma step_begin (scope : Scope) : Step scope s.core (s.begin options now).core := by
  unfold begin
  split
  next rawText queue hcurrent hqueue =>
    have hidle : s.core.flight = none := by simp [core, hcurrent]
    have hsame : ({ s with queue := queue, current := some (.settled (jsLength rawText)) } : Client).core = s.core := by
      simp [core, hcurrent, Current.flight]
    dsimp only
    split
    · rw [core_fail, hsame]
      exact .request _ now
    next envelope _ =>
      split
      · rw [core_fail, hsame]
        exact .request _ now
      · obtain ⟨-, hobserve⟩ | ⟨-, -, hobserve⟩ | ⟨expected, hobserve⟩ | ⟨expected, hobserve⟩ :=
          s.sequencer.observe_cases envelope.sequence
        · simp only [hobserve]
          exact .observe s.core envelope.sequence _ _ hidle hobserve (.inl rfl)
        · simp only [hobserve]
          exact .observe s.core envelope.sequence _ _ hidle hobserve (.inr ⟨_, rfl⟩)
        · simp only [hobserve]
          exact hsame ▸ .stay _
        · -- The observation of a gap already makes the sequencer wait.
          have hwait : ({ s with
              queue := queue
              current := some (.settled (jsLength rawText))
              sequencer := s.sequencer.beginResync } : Client).core =
              { s.core with sequencer := s.core.sequencer.beginResync } := by
            rw [← hsame]
            rfl
          simp only [hobserve]
          rw [core_fail, hwait]
          exact .request _ now
  · exact .stay _

/-- Every section of the client is a step of the recovery protocol. -/
lemma step_core (a : Act) : Step (s.scope options a) s.core (s.step options a).core := by
  cases a with
  | ingest now rawText =>
    rw [step, ingest]
    split
    · rw [core_fail]
      exact .request _ now
    · exact .stay _
  | begin now => exact s.step_begin now options _
  | finish now serverNow => exact s.step_finish now options serverNow
  | settle =>
    have hsame : s.settle.core = s.core := by
      unfold settle
      split
      next bytes hcurrent => simp [core, hcurrent, Current.flight]
      · rfl
    exact hsame.symm ▸ .stay _
  | noteConnected =>
    rw [step, core_noteConnected]
    exact .connect _ rfl
  | socketOpen now =>
    rw [step, requestSnapshot, core_requestResync, core_noteConnected]
    exact .socketOpen _ now
  | noteDisconnected reason nextRetryAtMs =>
    rw [step, core_noteDisconnected]
    exact .disconnect _
  | requestSnapshot now reason =>
    rw [step, requestSnapshot, core_requestResync]
    exact .request _ now
  | watchdog now =>
    rw [step, watchdog]
    split
    · split
      · rw [core_requestResync]
        have hlapse : (s.setStatus { s.status with
            phase := .degraded
            reason := some "No authenticated frame within the freshness window." }).core =
            { s.core with live := false } := by
          simp [core, setStatus, call]
        rw [hlapse]
        exact .lapse _ now
      · exact .stay _
    · split
      · rw [core_requestResync]
        exact .request _ now
      · exact .stay _
  | flushDue now =>
    rw [step, core_flushDue]
    exact .stay _
  | flushAll =>
    rw [step, core_flushAll]
    exact .stay _

end Client

end PrivateExecution.Realtime
