import Mathlib.Data.List.Nodup
import PrivateExecution.Realtime.Core

/-!
# What a realtime client can rely on

What holds over every run of a started client, with whatever the relay delivers and in whatever order its
sections interleave with pending decryptions.
-/

namespace PrivateExecution.Realtime

open Web

variable {c c' : Core} {scope : Scope}

/-! ### The operations on the recovery state -/

namespace Core

lemma requestResync_cases (c : Core) (now : ℚ) :
    (c.Coalesces now ∧ c.requestResync now = { c with sequencer := c.sequencer.beginResync }) ∨
    c.requestResync now = { c with
      sequencer := c.sequencer.beginResync
      live := false
      lastResyncAtMs := now
      resyncBaseline := c.sequencer.applied } := by
  unfold requestResync
  dsimp only
  split
  next hwindow => exact .inl ⟨hwindow, rfl⟩
  · exact .inr rfl

@[simp] lemma requestResync_frame (c : Core) (now : ℚ) :
    (c.requestResync now).sequencer = c.sequencer.beginResync ∧ (c.requestResync now).flight = c.flight ∧
    (c.requestResync now).disconnected = c.disconnected ∧ (c.requestResync now).enqueued = c.enqueued ∧
    (c.requestResync now).lastFrameAtMs = c.lastFrameAtMs ∧ (c.requestResync now).evicted = c.evicted ∧
    (c.requestResync now).advanced = c.advanced := by
  obtain ⟨-, h⟩ | h := c.requestResync_cases now <;> simp [h]

variable (now : ℚ) (frame : DecodedFrame) (evicted : Option DecodedFrame) (progressed : Bool)

lemma deliver_spec (c : Core) :
    let d := c.deliver now frame evicted progressed
    (d.sequencer = c.sequencer ∨ d.sequencer = c.sequencer.beginResync) ∧ d.flight = c.flight ∧
      d.disconnected = c.disconnected ∧ d.enqueued = frame :: c.enqueued := by
  cases progressed <;> cases evicted <;> simp [deliver, handOn]

lemma deliver_progress (c : Core) :
    (c.deliver now frame evicted true).advanced = frame.seq :: c.advanced := by
  cases evicted <;> simp [deliver, handOn]

lemma deliver_repeat (c : Core) :
    (c.deliver now frame evicted false).advanced = c.advanced ∧
    (c.deliver now frame evicted false).lastFrameAtMs = c.lastFrameAtMs := by
  cases evicted <;> simp [deliver, handOn]

/-- An eviction requests recovery, which is coalesced or starts from the applied mark. -/
lemma handOn_cases (c : Core) (lost : DecodedFrame) :
    (c.Coalesces now ∧ c.handOn now frame (some lost) = { c with
      enqueued := frame :: c.enqueued
      evicted := lost :: c.evicted
      sequencer := c.sequencer.beginResync }) ∨
    c.handOn now frame (some lost) = { c with
      enqueued := frame :: c.enqueued
      evicted := lost :: c.evicted
      sequencer := c.sequencer.beginResync
      live := false
      lastResyncAtMs := now
      resyncBaseline := c.sequencer.applied } :=
  requestResync_cases { c with enqueued := frame :: c.enqueued, evicted := lost :: c.evicted } now

lemma deliver_reset (h : c.live = true → c.lastResyncAtMs = 0) :
    (c.deliver now frame evicted true).lastResyncAtMs = 0 := by
  have hreset {d : Core} (hd : d.live = true → d.lastResyncAtMs = 0) :
      (if d.live = true then d.lastResyncAtMs else 0) = 0 := by
    split
    next hlive => exact hd hlive
    · rfl
  refine hreset (d := c.handOn now frame evicted) ?_
  cases evicted with
  | none => exact h
  | some lost =>
    obtain ⟨-, heq⟩ | heq := handOn_cases now frame c lost <;> rw [heq]
    · exact h
    · exact nofun

end Core

/-! ### A stream without gaps -/

def Follows (frame : DecodedFrame) : List DecodedFrame → Prop
  | [] => frame.op = .snapshot
  | last :: _ => if frame.op = .snapshot then last.seq ≤ frame.seq else frame.seq = last.seq + 1

def GapFree : List DecodedFrame → Prop
  | [] => True
  | frame :: rest => Follows frame rest ∧ GapFree rest

/-- The expected sequence is right unless a snapshot is awaited, and the frame in flight was decided on the mark
that is still applied. -/
structure Based (c : Core) : Prop where
  gapFree : GapFree c.enqueued
  applied : c.sequencer.applied = c.enqueued.head?.map DecodedFrame.seq
  offline : c.disconnected = true → c.sequencer.resyncing = true
  idle : c.flight = none → c.sequencer.resyncing = true ∨
    c.sequencer.expected = c.sequencer.applied.map (· + 1)
  accepted : ∀ seq unbased, c.flight = some ⟨seq, false, unbased⟩ →
    c.sequencer.expected = some (seq + 1) ∧ ∀ applied, c.sequencer.applied = some applied → seq = applied + 1
  based : ∀ seq, c.flight = some ⟨seq, false, false⟩ → c.sequencer.applied ≠ none
  awaiting : ∀ seq unbased, c.flight = some ⟨seq, true, unbased⟩ → c.sequencer.resyncing = true

lemma Based.wait (h : Based c) (henqueued : c'.enqueued = c.enqueued)
    (hsequencer : c'.sequencer = c.sequencer.beginResync) (hflight : c'.flight = c.flight ∨ c'.flight = none) :
    Based c' := by
  have hold : ∀ flight, c'.flight = some flight → c.flight = some flight := by
    intro flight h
    obtain heq | heq := hflight
    · exact heq ▸ h
    · rw [heq] at h
      cases h
  have hwaits : c'.sequencer.resyncing = true := by rw [hsequencer]; rfl
  have happlied : c'.sequencer.applied = c.sequencer.applied := by rw [hsequencer]; rfl
  have hexpected : c'.sequencer.expected = c.sequencer.expected := by rw [hsequencer]; rfl
  refine ⟨henqueued ▸ h.gapFree, ?_, fun _ => hwaits, fun _ => .inl hwaits, fun seq unbased hf => ?_, fun seq hf => ?_,
    fun _ _ _ => hwaits⟩
  · rw [happlied, henqueued]
    exact h.applied
  · rw [happlied, hexpected]
    exact h.accepted seq unbased (hold _ hf)
  · rw [happlied]
    exact h.based seq (hold _ hf)

lemma Based.deliver {frame : DecodedFrame} (hgapFree : GapFree c.enqueued) (hflight : c.flight = none)
    (hconnected : c.disconnected = false) (hfollows : Follows frame c.enqueued)
    (happlied : c.sequencer.applied = some frame.seq) (hexpected : c.sequencer.expected = some (frame.seq + 1))
    (now : ℚ) (evicted : Option DecodedFrame) (progressed : Bool) :
    Based (c.deliver now frame evicted progressed) := by
  obtain ⟨hsequencer, hflight', hdisconnected, henqueued⟩ := Core.deliver_spec now frame evicted progressed c
  generalize c.deliver now frame evicted progressed = c' at *
  have happlied' : c'.sequencer.applied = some frame.seq := by
    obtain hs | hs := hsequencer <;> rw [hs] <;> exact happlied
  have hexpected' : c'.sequencer.expected = some (frame.seq + 1) := by
    obtain hs | hs := hsequencer <;> rw [hs] <;> exact hexpected
  have hidle : c'.flight = none := hflight'.trans hflight
  refine ⟨henqueued ▸ ⟨hfollows, hgapFree⟩, ?_, fun hoff => ?_, fun _ => .inr ?_, ?_, ?_, ?_⟩
  · rw [happlied', henqueued]
    rfl
  · rw [hdisconnected, hconnected] at hoff
    cases hoff
  · rw [hexpected', happlied']
    rfl
  all_goals
    intros
    simp_all

/-- An observation that lets the frame be decrypted changes what is expected next, and nothing else. -/
lemma observe_keeps {seq : ℕ} {decision : SequenceDecision} {sequencer : FrameSequencer}
    (hobserve : c.sequencer.observe seq = (decision, sequencer))
    (hdecision : decision.isAwait = true ∨ ∃ after, decision = .accept after) :
    sequencer.applied = c.sequencer.applied ∧ sequencer.resyncing = c.sequencer.resyncing := by
  obtain ⟨-, heq⟩ | ⟨-, -, heq⟩ | ⟨_, heq⟩ | ⟨_, heq⟩ := c.sequencer.observe_cases seq <;>
    rw [hobserve] at heq <;> cases heq
  · exact ⟨rfl, rfl⟩
  · exact ⟨rfl, rfl⟩
  · exact ⟨rfl, rfl⟩
  · obtain hd | ⟨_, hd⟩ := hdecision <;> cases hd

lemma Based.observe (h : Based c) (seq : ℕ) (hidle : c.flight = none) {decision : SequenceDecision}
    {sequencer : FrameSequencer} (hobserve : c.sequencer.observe seq = (decision, sequencer))
    (hdecision : decision.isAwait = true ∨ ∃ after, decision = .accept after) :
    Based { c with sequencer := sequencer, flight := some ⟨seq, decision.isAwait, c.sequencer.expected.isNone⟩ } := by
  obtain ⟨hresyncing, heq⟩ | ⟨hresyncing, hexpected, heq⟩ | ⟨expected, heq⟩ | ⟨expected, heq⟩ :=
    c.sequencer.observe_cases seq <;> rw [hobserve] at heq <;> cases heq
  · exact ⟨h.gapFree, h.applied, fun _ => hresyncing, nofun, nofun, nofun, fun _ _ _ => hresyncing⟩
  · -- In order: what is expected is one above the applied mark, or there is no mark yet.
    have hmark : c.sequencer.expected = c.sequencer.applied.map (· + 1) :=
      (h.idle hidle).resolve_left (by simp [hresyncing])
    refine ⟨h.gapFree, h.applied, h.offline, nofun, fun seq' unbased hflight => ?_, fun seq' hflight => ?_, nofun⟩
    · cases hflight
      refine ⟨rfl, fun applied happlied => ?_⟩
      have happlied' : c.sequencer.applied = some applied := happlied
      rw [happlied'] at hmark
      obtain hexpected | hexpected := hexpected <;> rw [hexpected] at hmark <;> cases hmark
      rfl
    · have hbased : c.sequencer.expected.isNone = false := congrArg Flight.unbased (Option.some.inj hflight)
      intro hnone
      have hnone' : c.sequencer.applied = none := hnone
      rw [hmark, hnone'] at hbased
      cases hbased
  · obtain h | ⟨_, h⟩ := hdecision <;> cases h
  · obtain h | ⟨_, h⟩ := hdecision <;> cases h

lemma Based.applied_le (h : Based c) {seq n : ℕ} {unbased : Bool} (hflight : c.flight = some ⟨seq, false, unbased⟩)
    (hn : c.sequencer.applied = some n) : n ≤ seq :=
  (Nat.le_succ n).trans ((h.accepted seq unbased hflight).2 n hn).ge

lemma follows_of_snapshot (h : Based c) {frame : DecodedFrame} (hop : frame.op = .snapshot)
    (happlied : ∀ applied, c.sequencer.applied = some applied → applied ≤ frame.seq) :
    Follows frame c.enqueued := by
  have hmark := h.applied
  cases henqueued : c.enqueued with
  | nil => exact hop
  | cons last rest =>
    rw [henqueued] at hmark
    rw [Follows, if_pos hop]
    exact happlied last.seq hmark

lemma Based.step (h : Based c) (hstep : Step scope c c') : Based c' := by
  cases hstep with
  | stay => exact h
  | request now => exact h.wait (by simp) (by simp) (.inl (by simp))
  | connect hconnects => exact h.wait rfl rfl (.inl rfl)
  | disconnect => exact h.wait rfl rfl (.inl rfl)
  | socketOpen now =>
    exact h.wait (by simp [Core.reconnect]) (by simp [Core.reconnect]; rfl) (.inl (by simp [Core.reconnect]))
  | lapse now => exact h.wait (by simp) (by simp) (.inl (by simp))
  | observe seq decision sequencer hidle hobserve hdecision => exact h.observe seq hidle hobserve hdecision
  | drop flight hflight hdrop =>
    have hwaits : c.sequencer.resyncing = true := by
      obtain hoff | hawaiting := hdrop
      · exact h.offline hoff
      · obtain ⟨seq, awaiting, unbased⟩ := flight
        cases hawaiting
        exact h.awaiting seq unbased hflight
    refine h.wait rfl ?_ (.inr rfl)
    rw [FrameSequencer.beginResync, ← hwaits]
    rfl
  | fail now => exact h.wait (by simp [Core.land]) (by simp [Core.land]) (.inr (by simp [Core.land]))
  | recover now frame evicted unbased hflight hconnected _ hop happlied =>
    exact .deliver (c := c.land.onSnapshot frame.seq) h.gapFree rfl hconnected (follows_of_snapshot h hop happlied)
      rfl rfl now evicted _
  | snapshot now frame evicted unbased hflight hconnected _ hop =>
    exact .deliver (c := c.land.onSnapshot frame.seq) h.gapFree rfl hconnected
      (follows_of_snapshot h hop fun _ => h.applied_le hflight) rfl rfl now evicted _
  | next now frame evicted hflight hconnected _ hop =>
    obtain ⟨hexpected, hsucc⟩ := h.accepted _ _ hflight
    have hmark := h.applied
    have hfollows : Follows frame c.enqueued := by
      cases henqueued : c.enqueued with
      | nil =>
        rw [henqueued] at hmark
        exact absurd hmark (h.based _ hflight)
      | cons last rest =>
        rw [henqueued] at hmark
        rw [Follows, if_neg hop]
        exact hsucc last.seq hmark
    exact .deliver (c := { c.land with sequencer := c.sequencer.noteApplied frame.seq }) h.gapFree rfl hconnected
      hfollows rfl hexpected now evicted _

lemma Based.applied_mono (h : Based c) (hstep : Step scope c c') {n : ℕ} (hn : c.sequencer.applied = some n) :
    ∃ m, c'.sequencer.applied = some m ∧ n ≤ m := by
  have hdeliver {d : Core} {frame : DecodedFrame} {now : ℚ} {evicted : Option DecodedFrame} {progressed : Bool}
      (hmark : d.sequencer.applied = some frame.seq) (hle : n ≤ frame.seq) :
      ∃ m, (d.deliver now frame evicted progressed).sequencer.applied = some m ∧ n ≤ m := by
    refine ⟨frame.seq, ?_, hle⟩
    obtain ⟨hs | hs, -⟩ := Core.deliver_spec now frame evicted progressed d <;> rw [hs] <;> exact hmark
  cases hstep with
  | stay | connect | disconnect | drop => exact ⟨n, hn, le_rfl⟩
  | request now | socketOpen now | lapse now | fail now =>
    refine ⟨n, ?_, le_rfl⟩
    rw [(Core.requestResync_frame ..).1]
    exact hn
  | observe seq decision sequencer _ hobserve hdecision =>
    exact ⟨n, (observe_keeps hobserve hdecision).1.trans hn, le_rfl⟩
  | recover now frame evicted unbased _ _ _ _ happlied => exact hdeliver rfl (happlied n hn)
  | snapshot now frame evicted unbased hflight _ _ _ =>
    exact hdeliver rfl (h.applied_le hflight hn)
  | next now frame evicted hflight _ _ _ =>
    exact hdeliver rfl (h.applied_le hflight hn)

lemma based_start (now : ℚ) : Based (Client.start now).core :=
  ⟨trivial, rfl, nofun, fun _ => .inr rfl, nofun, nofun, nofun⟩

section

variable [Platform]

lemma based_run (options : Options) (now : ℚ) (as : List Act) :
    Based ((client options).run (Client.start now) as : Client).core :=
  Async.Machine.run_invariant (M := client options) (P := fun s : Client => Based s.core) (based_start now)
    fun s a hs => hs.step (s.step_core options a)

/-- The client applies a stream without gaps that never rolls back. -/
theorem applied_stream_gap_free (options : Options) (now : ℚ) (as : List Act) :
    let s : Client := (client options).run (Client.start now) as
    GapFree s.enqueued ∧ s.sequencer.applied = s.enqueued.head?.map DecodedFrame.seq ∧
      ∀ a n, s.sequencer.applied = some n → ∃ m, (s.step options a).sequencer.applied = some m ∧ n ≤ m := by
  have hbased := based_run options now as
  exact ⟨hbased.gapFree, hbased.applied, fun a n hn => hbased.applied_mono (Client.step_core _ options a) hn⟩

end

/-! ### Live means synchronised -/

/-- While the socket is open, a delivery evicts nothing, and hands a frame that is no snapshot on only while
no recovery is awaited. -/
structure Scope.Undisturbed (scope : Scope) (c : Core) : Prop where
  roomy : c.disconnected = false → ∀ now frame evicted, scope.Delivers now frame evicted → evicted = none
  calm : c.disconnected = false → ∀ now frame evicted, scope.Delivers now frame evicted →
    frame.op ≠ .snapshot → (∃ seq, c.flight = some ⟨seq, false, false⟩) → c.sequencer.resyncing = false

/-- A live client has no recovery request outstanding, an open socket, and lost nothing. -/
structure Synced (c : Core) : Prop where
  window : c.live = true → c.lastResyncAtMs = 0
  socket : c.live = true → c.disconnected = false
  synced : c.live = true → c.sequencer.resyncing = false
  kept : c.evicted = []

lemma Synced.not_live (h : Synced c) (now : ℚ) : (c.requestResync now).live = false := by
  obtain ⟨hne, heq⟩ | heq := c.requestResync_cases now
  · rw [heq]
    by_contra hlive
    exact hne.1 (h.window (Bool.not_eq_false _ ▸ hlive))
  · rw [heq]

lemma Synced.of_not_live (hlive : c.live = false) (hkept : c.evicted = []) : Synced c := by
  refine ⟨?_, ?_, ?_, hkept⟩ <;> simp [hlive]

lemma Synced.deliver {frame : DecodedFrame} (hsocket : c.disconnected = false)
    (hsynced : c.sequencer.resyncing = false) (hwindow : c.live = true → c.lastResyncAtMs = 0)
    (hkept : c.evicted = []) (now : ℚ) (progressed : Bool) : Synced (c.deliver now frame none progressed) := by
  cases progressed with
  | false => exact .of_not_live rfl hkept
  | true =>
    refine ⟨fun _ => ?_, fun _ => hsocket, fun _ => hsynced, hkept⟩
    change (if c.live = true then c.lastResyncAtMs else 0) = 0
    split
    next hlive => exact hwindow hlive
    · rfl

lemma Synced.step (h : Synced c) (hscope : scope.Undisturbed c) (hstep : Step scope c c') : Synced c' := by
  have hrequest {d : Core} (hd : Synced d) (now : ℚ) : Synced (d.requestResync now) :=
    .of_not_live (hd.not_live now) (by simp [hd.kept])
  cases hstep with
  | stay => exact h
  | request now => exact hrequest h now
  | connect | disconnect => exact .of_not_live rfl h.kept
  | socketOpen now => exact hrequest (d := c.reconnect false) (.of_not_live rfl h.kept) now
  | lapse now => exact hrequest (d := { c with live := false }) (.of_not_live rfl h.kept) now
  | observe seq decision sequencer _ hobserve hdecision =>
    exact ⟨h.window, h.socket, fun hlive => (observe_keeps hobserve hdecision).2.trans (h.synced hlive), h.kept⟩
  | drop => exact ⟨h.window, h.socket, h.synced, h.kept⟩
  | fail now => exact hrequest (d := c.land) ⟨h.window, h.socket, h.synced, h.kept⟩ now
  | recover now frame evicted unbased hflight hconnected hdelivers hop _ =>
    obtain rfl := hscope.roomy hconnected now frame evicted hdelivers
    exact .deliver (c := c.land.onSnapshot frame.seq) hconnected rfl h.window rfl now _
  | snapshot now frame evicted unbased hflight hconnected hdelivers hop =>
    obtain rfl := hscope.roomy hconnected now frame evicted hdelivers
    exact .deliver (c := c.land.onSnapshot frame.seq) hconnected rfl h.window rfl now _
  | next now frame evicted hflight hconnected hdelivers hop =>
    obtain rfl := hscope.roomy hconnected now frame evicted hdelivers
    exact .deliver (c := { c.land with sequencer := c.sequencer.noteApplied frame.seq }) hconnected
      (hscope.calm hconnected now frame none hdelivers hop ⟨_, hflight⟩) h.window h.kept now _

lemma synced_start (now : ℚ) : Synced (Client.start now).core := .of_not_live rfl rfl

section

variable [Platform] {options : Options} {s : Client} {a : Act}

/-- Wherever the frame in flight is delivered, it evicts nothing, and it is a snapshot or no recovery is
awaited. -/
def Undisturbed (options : Options) (s : Client) (a : Act) : Prop := (s.scope options a).Undisturbed s.core

lemma evicts_nothing (h : s.batcher.total < options.batcher.capacity)
    (now : ℚ) (frame : DecodedFrame) (evicted : Option DecodedFrame)
    (hdelivers : (s.scope options a).Delivers now frame evicted) :
    evicted = none := hdelivers.2.2.trans (FrameBatcher.enqueue_of_room h frame)

lemma Undisturbed.of_ne (h : ∀ now serverNow, a ≠ .finish now serverNow) : Undisturbed options s a := by
  have hnone (now : ℚ) (frame : DecodedFrame) (evicted : Option DecodedFrame) :
      ¬(s.scope options a).Delivers now frame evicted := by
    rintro ⟨⟨serverNow, ha⟩, -⟩
    exact h now serverNow ha
  exact ⟨fun _ _ _ _ h => absurd h (hnone _ _ _), fun _ _ _ _ h => absurd h (hnone _ _ _)⟩

lemma Undisturbed.of_room (hroom : s.batcher.total < options.batcher.capacity) (hawaited : s.core.flight.all Flight.awaiting = true) :
    Undisturbed options s a := by
  refine ⟨fun _ => evicts_nothing hroom, fun _ _ _ _ _ _ hflight => ?_⟩
  obtain ⟨seq, hflight⟩ := hflight
  rw [hflight] at hawaited
  exact absurd hawaited nofun

/-- A client that reports `live` has an open socket, awaits no snapshot, and has evicted no applied frame since
the last snapshot. -/
theorem live_means_synchronised (options : Options) (now : ℚ) (as : List Act)
    (h : (client options).Meets (Undisturbed options) (Client.start now) as) :
    let s : Client := (client options).run (Client.start now) as
    s.status.phase = .live → s.disconnected = false ∧ s.sequencer.resyncing = false ∧
      ∀ frame ∈ s.evicted, ∀ applied, s.sequencer.applied = some applied → applied < frame.seq := by
  intro s hlive
  have hsynced : Synced s.core := h.invariant (P := fun s : Client => Synced s.core) (synced_start now)
    fun s a hs hok => hs.step hok (s.step_core options a)
  have hlive' : s.core.live = true := decide_eq_true hlive
  refine ⟨hsynced.socket hlive', hsynced.synced hlive', fun frame hframe => ?_⟩
  have hkept : s.evicted = [] := hsynced.kept
  rw [hkept] at hframe
  cases hframe

end

/-! A browser and a server that has sealed a snapshot, a delta and a second snapshot. -/

namespace SealedSample

/-- A frame that the server sealed. -/
structure SealedFrame where
  seq : ℕ
  op : String
  key : String
  /-- The first character of its ciphertext. -/
  tag : String

namespace SealedFrame

variable (f : SealedFrame)

def ciphertext : String := f.tag ++ "AAAAAAAAAAAAAAAAAAAAA=="

def plaintext : String :=
  "\x7b\"op\":\"" ++ f.op ++ "\",\"channel\":\"market\",\"entity_key\":\"" ++ f.key ++ "\",\"payload\":null\x7d"

def text : String :=
  "\x7b\"kid\":\"s\",\"nonce\":\"AAAAAAAAAAAAAAAA\",\"sequence\":" ++ Nat.repr f.seq ++ ",\"ciphertext\":\"" ++
    f.ciphertext ++ "\"\x7d"

def values : List (String × Json) :=
  [(f.plaintext, .object [("op", .string f.op), ("channel", .string "market"), ("entity_key", .string f.key),
      ("payload", .null)]),
    (f.text, .object [("kid", .string "s"), ("nonce", .string "AAAAAAAAAAAAAAAA"),
      ("sequence", .number (.finite f.seq)), ("ciphertext", .string f.ciphertext)])]

end SealedFrame

def first : SealedFrame := ⟨0, "snapshot", "a", "A"⟩
def second : SealedFrame := ⟨1, "delta", "b", "B"⟩
def third : SealedFrame := ⟨2, "snapshot", "c", "C"⟩

abbrev browser : Platform where
  jsonParse text := ([first, second, third].flatMap SealedFrame.values).lookup text
  utf8Decode bytes := some (String.ofList (bytes.map fun b => Char.ofNat b.toNat))

def sealed : List (List UInt8 × List UInt8 × List UInt8) :=
  [first, second, third].map fun f => (associatedData "s" f.seq, (base64ToBytes f.ciphertext).getD [],
    f.plaintext.toList.map fun c => UInt8.ofNat c.toNat)

def cipher : Web.Aead := fun iv additionalData ciphertext =>
  (sealed.lookup additionalData).bind fun (sealedText, plaintext) =>
    if iv = List.replicate 12 0 ∧ ciphertext = sealedText then some plaintext else none

def options (capacity : ℕ) : Options := ⟨cipher, "s", ⟨capacity, defaultFlushMs⟩, none⟩

def arrive (now : ℚ) (f : SealedFrame) : List Act := [.ingest now f.text, .begin now, .finish now none, .settle]

def connected : List Act := [.socketOpen 1000] ++ arrive 1050 first

end SealedSample

section

attribute [local instance] SealedSample.browser

open SealedSample

lemma connected_live :
    ((client (options 4096)).run (Client.start 1000) connected : Client).status.phase = .live := by
  decide +kernel

lemma connected_finish :
    let s : Client := (client (options 4096)).run (Client.start 1000)
      [.socketOpen 1000, .ingest 1050 first.text, .begin 1050]
    s.batcher.total < (options 4096).batcher.capacity ∧ s.core.flight.all Flight.awaiting = true := by
  decide +kernel

/-- The first snapshot of a connection makes the client live, with nothing left to recover. -/
theorem snapshot_goes_live :
    let s : Client := (client (options 4096)).run (Client.start 1000) connected
    s.status.phase = .live ∧ s.disconnected = false ∧ s.sequencer.resyncing = false ∧
      ∀ frame ∈ s.evicted, ∀ applied, s.sequencer.applied = some applied → applied < frame.seq := by
  have hlive := connected_live
  refine ⟨hlive, live_means_synchronised (options 4096) 1000 connected ?_ hlive⟩
  exact ⟨.of_ne nofun, .of_ne nofun, .of_ne nofun, .of_room connected_finish.1 connected_finish.2, .of_ne nofun,
    trivial⟩

/-- In a buffer of one frame the third frame evicts the second, and the request that follows is overwritten by
`live`; and a delta in flight makes the client live although a snapshot has been requested meanwhile. -/
theorem live_while_awaiting :
    let evicting : Client := (client (options 1)).run (Client.start 1000)
      (connected ++ arrive 1100 second ++ arrive 1150 third)
    let racing : Client := (client (options 1)).run (Client.start 1000)
      (connected ++ [.ingest 1100 second.text, .begin 1100, .requestSnapshot 1150 .explicit, .finish 1200 none])
    (evicting.status.phase = .live ∧ evicting.sequencer = ⟨some 3, true, some 2⟩ ∧
      evicting.evicted.map DecodedFrame.seq = [1]) ∧
    racing.status.phase = .live ∧ racing.sequencer = ⟨some 2, true, some 1⟩ := by
  decide +kernel

end

/-! ### Frames that advance the freshness of the session -/

/-- The worker never notes a connection without a request, what is delivered has opened, and a snapshot that
answers a recent request with newer state evicts nothing. -/
structure Scope.Faithful (scope : Scope) (Opened : DecodedFrame → Prop) (c : Core) : Prop where
  requests : ¬scope.Connects
  opened : ∀ now frame evicted, scope.Delivers now frame evicted → Opened frame
  roomy : ∀ now frame evicted, scope.Delivers now frame evicted → c.disconnected = false → c.Coalesces now →
    frame.op = .snapshot → (∀ baseline, c.resyncBaseline = some baseline → baseline < frame.seq) → evicted = none

/-- The baseline of an outstanding request is the applied mark, and what advanced the freshness is at or below
that mark. -/
structure Counted (Opened : DecodedFrame → Prop) (c : Core) : Prop where
  window : c.lastResyncAtMs ≠ 0 → c.resyncBaseline = c.sequencer.applied
  live : c.live = true → c.lastResyncAtMs = 0
  once : c.advanced.Nodup
  below : ∀ n ∈ c.advanced, ∃ m, c.sequencer.applied = some m ∧ n ≤ m
  opened : ∀ frame ∈ c.enqueued, Opened frame

/-- Recovery from a snapshot has to beat that snapshot. -/
def Guarded (c : Core) : Prop :=
  c.sequencer.resyncing = true → c.disconnected = false → ∀ frame rest, c.enqueued = frame :: rest →
    frame.op = .snapshot → c.resyncBaseline = c.sequencer.applied

/-- What opens for one sequence is of one kind. -/
def OneKind (Opened : DecodedFrame → Prop) : Prop := ∀ f g, Opened f → Opened g → f.seq = g.seq → f.op = g.op

variable {Opened : DecodedFrame → Prop}

lemma Counted.request (h : Counted Opened c) (now : ℚ) :
    Counted Opened (c.requestResync now) ∧ Guarded (c.requestResync now) := by
  obtain ⟨hne, heq⟩ | heq := c.requestResync_cases now
  · rw [heq]
    exact ⟨⟨h.window, h.live, h.once, h.below, h.opened⟩, fun _ _ _ _ _ _ => h.window hne.1⟩
  · rw [heq]
    exact ⟨⟨fun _ => rfl, nofun, h.once, h.below, h.opened⟩, fun _ _ _ _ _ _ => rfl⟩

lemma Counted.progress (h : Counted Opened c) {frame : DecodedFrame} (hopened : Opened frame)
    (hnew : frame.seq ∉ c.advanced) (hle : ∀ n, c.sequencer.applied = some n → n ≤ frame.seq)
    {sequencer : FrameSequencer} (happlied : sequencer.applied = some frame.seq) (evictions : List DecodedFrame)
    (now : ℚ) (evicted : Option DecodedFrame) :
    Counted Opened ({ c.land with sequencer := sequencer, evicted := evictions }.deliver now frame evicted true) := by
  obtain ⟨hsequencer, -, -, henqueued⟩ :=
    Core.deliver_spec now frame evicted true { c.land with sequencer := sequencer, evicted := evictions }
  have hreset := Core.deliver_reset now frame evicted
    (c := { c.land with sequencer := sequencer, evicted := evictions }) h.live
  have hadvanced := Core.deliver_progress now frame evicted { c.land with sequencer := sequencer, evicted := evictions }
  generalize Core.deliver _ now frame evicted true = c' at *
  have hmark : c'.sequencer.applied = some frame.seq := by
    obtain hs | hs := hsequencer <;> rw [hs] <;> exact happlied
  refine ⟨fun hne => absurd hreset hne, fun _ => hreset, ?_, fun n hn => ⟨frame.seq, hmark, ?_⟩, ?_⟩
  · rw [hadvanced]
    exact List.nodup_cons.2 ⟨hnew, h.once⟩
  · rw [hadvanced] at hn
    obtain rfl | hn := List.mem_cons.1 hn
    · exact le_rfl
    · obtain ⟨m, hm, hnm⟩ := h.below n hn
      exact hnm.trans (hle m hm)
  · rw [henqueued]
    exact List.forall_mem_cons.2 ⟨hopened, h.opened⟩

lemma Counted.repeated (h : Counted Opened c) {frame : DecodedFrame} (hopened : Opened frame)
    (hle : ∀ n, c.sequencer.applied = some n → n ≤ frame.seq) {baseline : ℕ}
    (hbaseline : c.resyncBaseline = some baseline) (hold : frame.seq ≤ baseline) (now : ℚ)
    (evicted : Option DecodedFrame) :
    Counted Opened ((c.land.onSnapshot frame.seq).deliver now frame evicted false) ∧
      Guarded ((c.land.onSnapshot frame.seq).deliver now frame evicted false) := by
  have hmark (hne : c.lastResyncAtMs ≠ 0) : c.resyncBaseline = some frame.seq := by
    have hmark := h.window hne
    rw [hbaseline] at hmark
    rw [hbaseline, le_antisymm hold (hle baseline hmark.symm)]
  have hbelow : ∀ n ∈ c.advanced, ∃ m, some frame.seq = some m ∧ n ≤ m := fun n hn => by
    obtain ⟨m, hm, hnm⟩ := h.below n hn
    exact ⟨frame.seq, rfl, hnm.trans (hle m hm)⟩
  have henqueued := List.forall_mem_cons.2 ⟨hopened, h.opened⟩
  cases evicted with
  | none => exact ⟨⟨hmark, nofun, h.once, hbelow, henqueued⟩, nofun⟩
  | some lost =>
    unfold Core.deliver
    obtain ⟨hne, heq⟩ | heq := (c.land.onSnapshot frame.seq).handOn_cases now frame lost <;> rw [heq]
    · exact ⟨⟨hmark, nofun, h.once, hbelow, henqueued⟩, fun _ _ _ _ _ _ => hmark hne.1⟩
    · exact ⟨⟨fun _ => rfl, nofun, h.once, hbelow, henqueued⟩, fun _ _ _ _ _ _ => rfl⟩

/-- A snapshot that advances the freshness leaves its own mark as the baseline, if it evicts a frame while no
recent request is outstanding. -/
lemma guarded_progress {frame : DecodedFrame} {evicted : Option DecodedFrame} {now : ℚ}
    (hroomy : c.Coalesces now → evicted = none) :
    Guarded ((c.land.onSnapshot frame.seq).deliver now frame evicted true) := by
  cases evicted with
  | none => exact nofun
  | some lost =>
    unfold Core.deliver
    obtain ⟨hne, -⟩ | heq := (c.land.onSnapshot frame.seq).handOn_cases now frame lost
    · cases hroomy hne
    · rw [heq]
      exact fun _ _ _ _ _ _ => rfl

/-- A recovery snapshot at the applied mark is the snapshot that was
applied, and the baseline has recorded it. -/
lemma not_advanced_of_recover (hunique : OneKind Opened)
    (hbased : Based c) (h : Counted Opened c) (hguarded : Guarded c) {frame : DecodedFrame} {unbased : Bool}
    (hflight : c.flight = some ⟨frame.seq, true, unbased⟩) (hconnected : c.disconnected = false)
    (hopened : Opened frame) (hop : frame.op = .snapshot)
    (hle : ∀ n, c.sequencer.applied = some n → n ≤ frame.seq)
    (hprogressed : ∀ baseline, c.resyncBaseline = some baseline → baseline < frame.seq) : frame.seq ∉ c.advanced := by
  intro hmem
  obtain ⟨m, hm, hnm⟩ := h.below _ hmem
  obtain rfl : m = frame.seq := le_antisymm (hle m hm) hnm
  have hmark := hbased.applied
  rw [hm] at hmark
  cases henqueued : c.enqueued with
  | nil =>
    rw [henqueued] at hmark
    cases hmark
  | cons last rest =>
    rw [henqueued] at hmark
    have hlast : last.seq = frame.seq := (Option.some.inj hmark).symm
    have hop' : last.op = .snapshot :=
      (hunique last frame (h.opened last (henqueued ▸ List.mem_cons_self ..)) hopened hlast).trans hop
    have hbaseline := hguarded (hbased.awaiting _ _ hflight) hconnected last rest henqueued hop'
    exact (hprogressed _ (hbaseline.trans hm)).false

lemma not_advanced_of_accepted (hbased : Based c) (h : Counted Opened c) {seq : ℕ} {unbased : Bool}
    (hflight : c.flight = some ⟨seq, false, unbased⟩) : seq ∉ c.advanced := by
  intro hmem
  obtain ⟨m, hm, hle⟩ := h.below seq hmem
  have hsucc := (hbased.accepted seq unbased hflight).2 m hm
  omega

lemma Counted.step (hunique : OneKind Opened) (hbased : Based c)
    (h : Counted Opened c) (hguarded : Guarded c) (hscope : scope.Faithful Opened c) (hstep : Step scope c c') :
    Counted Opened c' ∧ Guarded c' := by
  cases hstep with
  | stay => exact ⟨h, hguarded⟩
  | request now => exact h.request now
  | connect hconnects => exact absurd hconnects hscope.requests
  | disconnect => exact ⟨⟨h.window, nofun, h.once, h.below, h.opened⟩, nofun⟩
  | socketOpen now =>
    exact Counted.request (c := c.reconnect false) ⟨h.window, nofun, h.once, h.below, h.opened⟩ now
  | lapse now =>
    exact Counted.request (c := { c with live := false }) ⟨h.window, nofun, h.once, h.below, h.opened⟩ now
  | observe seq decision sequencer _ hobserve hdecision =>
    obtain ⟨happlied, hresyncing⟩ := observe_keeps hobserve hdecision
    exact ⟨⟨happlied ▸ h.window, h.live, h.once, happlied ▸ h.below, h.opened⟩, fun hwaits hopen frame rest => by
      rw [happlied]
      exact hguarded (hresyncing ▸ hwaits) hopen frame rest⟩
  | drop => exact ⟨⟨h.window, h.live, h.once, h.below, h.opened⟩, hguarded⟩
  | fail now => exact Counted.request (c := c.land) ⟨h.window, h.live, h.once, h.below, h.opened⟩ now
  | recover now frame evicted unbased hflight hconnected hdelivers hop hle =>
    have hopened := hscope.opened now frame evicted hdelivers
    cases hprogressed : c.resyncBaseline.all fun baseline => decide (baseline < frame.seq) with
    | true =>
      have hbeats : ∀ baseline, c.resyncBaseline = some baseline → baseline < frame.seq :=
        fun baseline hbaseline => by simpa [hbaseline] using hprogressed
      have hnew := not_advanced_of_recover hunique hbased h hguarded hflight hconnected hopened hop hle hbeats
      exact ⟨h.progress hopened hnew hle rfl [] now evicted, guarded_progress fun hwindow =>
        hscope.roomy now frame evicted hdelivers hconnected hwindow hop hbeats⟩
    | false =>
      cases hbaseline : c.resyncBaseline with
      | none => simp [hbaseline] at hprogressed
      | some baseline =>
        have hold : frame.seq ≤ baseline := by simpa [hbaseline] using hprogressed
        exact h.repeated hopened hle hbaseline hold now evicted
  | snapshot now frame evicted unbased hflight hconnected hdelivers hop =>
    have hsucc := (hbased.accepted _ _ hflight).2
    refine ⟨h.progress (hscope.opened now frame evicted hdelivers) (not_advanced_of_accepted hbased h hflight)
      (fun _ => hbased.applied_le hflight) rfl [] now evicted, guarded_progress fun hwindow => ?_⟩
    refine hscope.roomy now frame evicted hdelivers hconnected hwindow hop fun baseline hbaseline => ?_
    rw [h.window hwindow.1] at hbaseline
    exact Nat.lt_of_succ_le (hsucc baseline hbaseline).ge
  | next now frame evicted hflight hconnected hdelivers hop =>
    refine ⟨h.progress (hscope.opened now frame evicted hdelivers) (not_advanced_of_accepted hbased h hflight)
      (fun _ => hbased.applied_le hflight) rfl c.evicted now evicted, ?_⟩
    -- A recovery snapshot is another frame than this one.
    intro _ _ frame' rest henqueued hop'
    rw [(Core.deliver_spec now frame evicted true _).2.2.2] at henqueued
    cases henqueued
    exact absurd hop' hop

lemma Step.advanced_cases (hstep : Step scope c c') :
    (c'.advanced = c.advanced ∧ c'.lastFrameAtMs = c.lastFrameAtMs) ∨
    ∃ flight, c.flight = some flight ∧ c'.advanced = flight.seq :: c.advanced := by
  cases hstep with
  | stay | connect | disconnect | observe | drop => exact .inl ⟨rfl, rfl⟩
  | request | socketOpen | lapse | fail =>
    exact .inl ⟨by simp [Core.reconnect, Core.land], by simp [Core.reconnect, Core.land]⟩
  | recover now frame evicted unbased hflight =>
    cases c.resyncBaseline.all fun baseline => decide (baseline < frame.seq) with
    | true => exact .inr ⟨_, hflight, Core.deliver_progress now frame evicted _⟩
    | false => exact .inl (Core.deliver_repeat now frame evicted _)
  | snapshot now frame evicted unbased hflight => exact .inr ⟨_, hflight, Core.deliver_progress now frame evicted _⟩
  | next now frame evicted hflight => exact .inr ⟨_, hflight, Core.deliver_progress now frame evicted _⟩

/-! ### Replayed frames -/

section

variable [Platform]

/-- The frame is what some envelope opens to. -/
def Authentic (options : Options) (frame : DecodedFrame) : Prop :=
  ∃ envelope plaintext, decrypt options.aead options.expectedKid envelope = .ok plaintext ∧
    decodeInnerFrame plaintext envelope.sequence = .ok frame

/-- Connections are noted by the worker, which requests a snapshot, and no snapshot that answers a recent
request with newer state evicts a frame. -/
def Attended (options : Options) (s : Client) (a : Act) : Prop :=
  a ≠ .noteConnected ∧ ∀ now frame evicted, (s.scope options a).Delivers now frame evicted →
    s.disconnected = false → s.core.Coalesces now → frame.op = .snapshot →
    (∀ baseline, s.resyncBaseline = some baseline → baseline < frame.seq) → evicted = none

/-- What a replay cannot change: the marks are consistent, and no frame has advanced the freshness twice. -/
structure Unreplayed (options : Options) (s : Client) : Prop where
  based : Based s.core
  counted : Counted (Authentic options) s.core
  guarded : Guarded s.core

variable {options : Options} {s : Client} {a : Act}

omit [Platform] in
lemma counted_start (Opened : DecodedFrame → Prop) (now : ℚ) : Counted Opened (Client.start now).core :=
  ⟨nofun, nofun, List.nodup_nil, nofun, nofun⟩

lemma unreplayed_start (options : Options) (now : ℚ) : Unreplayed options (Client.start now) :=
  ⟨based_start now, counted_start _ now, nofun⟩

lemma Unreplayed.step (h : Unreplayed options s) (hunique : OneKind (Authentic options))
    (hok : Attended options s a) : Unreplayed options (s.step options a) := by
  have hfaithful : (s.scope options a).Faithful (Authentic options) s.core := by
    refine ⟨hok.1, fun now frame evicted hdelivers => ?_, hok.2⟩
    obtain ⟨-, ⟨_, envelope, _, _, plaintext, -, hopens, hdecodes⟩, -⟩ := hdelivers
    exact ⟨envelope, plaintext, hopens, hdecodes⟩
  have hstep := s.step_core options a
  obtain ⟨hcounted, hguarded⟩ := h.counted.step hunique h.based h.guarded hfaithful hstep
  exact ⟨h.based.step hstep, hcounted, hguarded⟩

/-- The frame that is being decrypted, if any, has advanced the freshness before. -/
def Repeats (advanced : List ℕ) (s : Client) : Prop :=
  ∀ flight, s.core.flight = some flight → flight.seq ∈ advanced

lemma Unreplayed.repeat (h : Unreplayed options s) (hunique : OneKind (Authentic options))
    (hok : Attended options s a) (hold : Repeats s.advanced s) :
    (s.step options a).advanced = s.advanced ∧
      (s.step options a).status.lastFrameAtMs = s.status.lastFrameAtMs := by
  obtain hsame | ⟨flight, hflight, hadvanced⟩ := (s.step_core options a).advanced_cases
  · exact hsame
  · have hnodup := (h.step hunique hok).counted.once
    rw [hadvanced] at hnodup
    exact absurd (hold flight hflight) (List.nodup_cons.1 hnodup).1

/-- No frame advances `lastFrameAtMs` twice, so it does not change while only frames are decrypted that have
advanced it before. -/
theorem frame_advances_once (options : Options) (sealed : ℕ → Option (List UInt8))
    (hsealed : ∀ envelope plaintext, decrypt options.aead options.expectedKid envelope = .ok plaintext →
      sealed envelope.sequence = some plaintext)
    (now : ℚ) (as : List Act) (h : (client options).Meets (Attended options) (Client.start now) as) :
    let s : Client := (client options).run (Client.start now) as
    s.advanced.Nodup ∧ ∀ bs,
      (client options).Meets (fun t a => Attended options t a ∧ Repeats s.advanced t) s bs →
      ((client options).run s bs : Client).status.lastFrameAtMs = s.status.lastFrameAtMs := by
  have hunique : OneKind (Authentic options) := by
    rintro f g ⟨e, p, hopens, hdecodes⟩ ⟨e', p', hopens', hdecodes'⟩ hseq
    have hsequence : e.sequence = e'.sequence :=
      (seq_of_decode hdecodes).symm.trans (hseq.trans (seq_of_decode hdecodes'))
    have hplaintext := (hsealed e p hopens).symm.trans (hsequence ▸ hsealed e' p' hopens')
    cases hplaintext
    rw [hsequence, hdecodes'] at hdecodes
    cases hdecodes
    rfl
  intro s
  have hs : Unreplayed options s := h.invariant (P := Unreplayed options) (unreplayed_start options now)
    fun s a hs hok => hs.step hunique hok
  refine ⟨hs.counted.once, fun bs hbs => ?_⟩
  -- Along the second run nothing new advances.
  have hrun := hbs.invariant (P := fun t : Client => Unreplayed options t ∧ t.advanced = s.advanced ∧
    t.status.lastFrameAtMs = s.status.lastFrameAtMs) ⟨hs, rfl, rfl⟩ fun t a ht hok => by
      obtain ⟨hadvanced, hlast⟩ := ht.1.repeat hunique hok.1 (ht.2.1 ▸ hok.2)
      exact ⟨ht.1.step hunique hok.1, hadvanced.trans ht.2.1, hlast.trans ht.2.2⟩
  exact hrun.2.2

lemma Attended.of_ne (hconnects : a ≠ .noteConnected)
    (h : ∀ now serverNow, a ≠ .finish now serverNow) : Attended options s a := by
  refine ⟨hconnects, ?_⟩
  rintro now _ _ ⟨⟨serverNow, ha⟩, -⟩
  exact absurd ha (h now serverNow)

lemma Attended.of_idle (hconnects : a ≠ .noteConnected)
    (h : s.lastResyncAtMs = 0) : Attended options s a :=
  ⟨hconnects, fun _ _ _ _ _ hwindow => absurd h hwindow.1⟩

end

section

attribute [local instance] SealedSample.browser

open SealedSample

def SealedSample.plaintextAt (n : ℕ) : Option (List UInt8) := (sealed.lookup (associatedData "s" n)).map Prod.snd

lemma SealedSample.plaintextAt_of_decrypt (capacity : ℕ) (envelope : StreamEnvelope) (plaintext : List UInt8)
    (h : decrypt (options capacity).aead (options capacity).expectedKid envelope = .ok plaintext) :
    plaintextAt envelope.sequence = some plaintext := by
  obtain ⟨hkid, h⟩ := ensure_ok.1 h
  obtain ⟨nonce, -, h⟩ := bind_ok.1 h
  obtain ⟨ciphertext, -, h⟩ := bind_ok.1 h
  obtain ⟨sealedFrame, hsealed, hopens⟩ := Option.bind_eq_some_iff.1 (okOr_eq_ok.1 h)
  obtain ⟨-, hplaintext⟩ := Option.ite_none_right_eq_some.1 hopens
  rw [hkid] at hsealed
  exact Option.map_eq_some_iff.2 ⟨sealedFrame, hsealed, Option.some.inj hplaintext⟩

def SealedSample.evicting : List Act := connected ++ arrive 1100 second ++ arrive 1150 third

/-- The state in which the frame that arrives has been opened. -/
def SealedSample.opened (as : List Act) (now : ℚ) (f : SealedFrame) : Client :=
  (client (options 1)).run ((client (options 1)).run (Client.start 1000) as) [.ingest now f.text, .begin now]

lemma SealedSample.attended_arrive {as : List Act} {now : ℚ} {f : SealedFrame}
    (h : (opened as now f).lastResyncAtMs = 0) :
    (client (options 1)).Meets (Attended (options 1)) ((client (options 1)).run (Client.start 1000) as)
      (arrive now f) :=
  ⟨.of_ne nofun nofun, .of_ne nofun nofun, .of_idle nofun h, .of_ne nofun nofun, trivial⟩

lemma SealedSample.evicting_states :
    (opened [.socketOpen 1000] 1050 first).batcher.total < (options 1).batcher.capacity ∧
      (opened connected 1100 second).lastResyncAtMs = 0 ∧
      (opened (connected ++ arrive 1100 second) 1150 third).lastResyncAtMs = 0 ∧
      (opened evicting 1200 third).lastResyncAtMs = 0 ∧
      let s : Client := (client (options 1)).run (Client.start 1000) evicting
      s.evicted.map DecodedFrame.seq = [1] ∧ s.status.lastFrameAtMs = some 1150 ∧
        ((client (options 1)).Meets (fun t _ => t.core.flight.all (·.seq ∈ s.advanced)) s (arrive 1200 third)) := by
  decide +kernel

/-- The second snapshot evicts a frame while nothing is requested; its replay leaves the freshness as it is. -/
theorem snapshot_replay_ignored :
    let s : Client := (client (options 1)).run (Client.start 1000) evicting
    s.evicted.map DecodedFrame.seq = [1] ∧ s.advanced.Nodup ∧ s.status.lastFrameAtMs = some 1150 ∧
      ((client (options 1)).run s (arrive 1200 third) : Client).status.lastFrameAtMs = s.status.lastFrameAtMs := by
  obtain ⟨hroom, hsecond, hthird, hreplayed, hevicted, hlast, hold⟩ := evicting_states
  have hconnected : (client (options 1)).Meets (Attended (options 1)) (Client.start 1000) connected :=
    ⟨.of_ne nofun nofun, .of_ne nofun nofun, .of_ne nofun nofun,
      ⟨nofun, fun now frame evicted h _ _ _ _ => evicts_nothing hroom now frame evicted h⟩, .of_ne nofun nofun,
      trivial⟩
  obtain ⟨honce, hreplay⟩ := frame_advances_once (options 1) plaintextAt (plaintextAt_of_decrypt 1) 1000 evicting
    (Async.Machine.meets_append.2 ⟨Async.Machine.meets_append.2 ⟨hconnected, attended_arrive hsecond⟩,
      attended_arrive hthird⟩)
  refine ⟨hevicted, honce, hlast, hreplay (arrive 1200 third) ?_⟩
  have hrepeats : ∀ {t : Client} {l : List ℕ}, t.core.flight.all (·.seq ∈ l) = true → Repeats l t := by
    intro t l h flight hflight
    simpa [hflight] using h
  obtain ⟨h₁, h₂, h₃, h₄, -⟩ := attended_arrive hreplayed
  obtain ⟨k₁, k₂, k₃, k₄, -⟩ := hold
  exact ⟨⟨h₁, hrepeats k₁⟩, ⟨h₂, hrepeats k₂⟩, ⟨h₃, hrepeats k₃⟩, ⟨h₄, hrepeats k₄⟩, trivial⟩

/-- A request that is coalesced after an eviction keeps the old baseline, so the snapshot that answered it advances
the freshness a second time; and a snapshot that was dropped with its connection advances it when it is repeated. -/
theorem replays_advance_freshness :
    let replayed : Client := (client (options 1)).run (Client.start 1000)
      (connected ++ arrive 1100 second ++ [.requestSnapshot 1200 .explicit] ++ arrive 1300 third ++ arrive 1400 third)
    let dropped : Client := (client (options 1)).run (Client.start 1000)
      [.socketOpen 1000, .ingest 1050 first.text, .begin 1050, .noteDisconnected "closed" none, .finish 1060 none,
        .settle, .socketOpen 1500]
    let repeated : Client := (client (options 1)).run dropped (arrive 1600 first)
    (replayed.advanced = [2, 2, 1, 0] ∧ replayed.status.lastFrameAtMs = some 1400) ∧
      dropped.status.lastFrameAtMs = none ∧ repeated.status.lastFrameAtMs = some 1600 := by
  decide +kernel

end

end PrivateExecution.Realtime
