import Mathlib.Logic.Function.Basic
import Mathlib.Tactic.Common

/-!
# The chart stream of a session

`FomoSessionStreamSource` (`apps/private-api/src/fomo_market.rs`): `snapshot_for` and `next_delta_for`, run by
one driver per key id and cut at their awaits. Bindings may change between any two steps. What the lane pushes
is part of a step; its frames are those of the `market` channel. The health flag is left out.
-/

namespace PrivateExecution.Chart

structure RealtimeTarget where
  chain : String
  address : String
  timeframe : String
deriving DecidableEq

def RealtimeTarget.entityKey (t : RealtimeTarget) : String := "ohlcv:" ++ t.chain ++ ":" ++ t.address

/-- The frames, by their entity keys and, on the `ohlcv` channel, the timeframe. -/
inductive SourceFrame (Bar : Type) where
  | snapshot (entityKey timeframe : String) (candles : List Bar)
  | delta (entityKey timeframe : String) (candle : Bar)
  | market (entityKey : String)

/-- Where the driver of a key id is: before the next call, at the fetch of `snapshot_for`, and in
`next_delta_for` at the head of the loop, at the sleep and at the fetch, with the failures so far. -/
inductive Phase where
  | idle
  | snapshot (target : RealtimeTarget)
  | looping (failures : ℕ)
  | sleeping (failures : ℕ)
  | fetching (target : RealtimeTarget) (switched : Bool) (failures : ℕ)

def maxEntries : ℕ := 4096

def maxStreamFailures : ℕ := 6

/-- `frames` are all that were returned, newest first. -/
structure State (Kid Bar : Type) where
  targets : Kid → Option RealtimeTarget
  sessions : List (Kid × RealtimeTarget)
  pending : Kid → List String
  phase : Kid → Phase
  frames : List (Kid × SourceFrame Bar)

/-- A change of a binding, a call, a section of a call, or its end at any point. `lane` are the frames that
the section pushes, `evict` is the entry that an insertion finds first, `bars` the answer of the provider.
The sessions of the lane are bounded too: `dropLane` is the loss of one to another, with what it has queued. -/
inductive Act (Kid Bar : Type) where
  | bind (kid : Kid) (target : Option RealtimeTarget)
  | snapshotFor (kid : Kid)
  | nextDeltaFor (kid : Kid)
  | head (kid : Kid) (lane : List String)
  | wake (kid : Kid)
  | fetched (kid : Kid) (bars : Option (List Bar)) (lane : List String) (evict : ℕ)
  | dropLane (kid : Kid)
  | stop (kid : Kid)

variable {Kid Bar : Type} [DecidableEq Kid]

namespace State

def fresh : State Kid Bar := ⟨fun _ => none, [], fun _ => [], fun _ => .idle, []⟩

variable (defaultTarget : Option RealtimeTarget) (s : State Kid Bar) (kid : Kid)

def resolve : Option RealtimeTarget := (s.targets kid).or defaultTarget

def lastTarget : Option RealtimeTarget := (s.sessions.find? (·.1 = kid)).map Prod.snd

def remember (target : RealtimeTarget) (evict : ℕ) : State Kid Bar :=
  let kept := if maxEntries ≤ s.sessions.length ∧ s.lastTarget kid = none then s.sessions.eraseIdx evict
    else s.sessions
  { s with sessions := (kid, target) :: kept.filter (·.1 ≠ kid) }

def enter (phase : Phase) : State Kid Bar := { s with phase := Function.update s.phase kid phase }

def yield (frame : SourceFrame Bar) : State Kid Bar :=
  { s.enter kid .idle with frames := (kid, frame) :: s.frames }

def setLane (frames : List String) : State Kid Bar := { s with pending := Function.update s.pending kid frames }

def push (lane : List String) : State Kid Bar := s.setLane kid (s.pending kid ++ lane)

def popOr (next : Phase) : State Kid Bar :=
  match s.pending kid with
  | [] => s.enter kid next
  | frame :: rest => (s.setLane kid rest).yield kid (.market frame)

def snapshotOr (target : RealtimeTarget) (bars : List Bar) (evict : ℕ) (next : Phase) : State Kid Bar :=
  if bars.isEmpty then s.enter kid next
  else (s.remember kid target evict).yield kid (.snapshot target.entityKey target.timeframe bars)

def step : Act Kid Bar → State Kid Bar
  | .bind kid target => { s with targets := Function.update s.targets kid target }
  | .snapshotFor kid => match s.phase kid with
    | .idle => (s.setLane kid []).enter kid ((s.resolve defaultTarget kid).elim .idle .snapshot)
    | _ => s
  | .nextDeltaFor kid => match s.phase kid with
    | .idle => s.enter kid (.looping 0)
    | _ => s
  | .head kid lane => match s.phase kid, s.resolve defaultTarget kid with
    | .looping _, none => s.enter kid .idle
    | .looping failures, some _ =>
      -- What is queued already is delivered before the lane is looked at.
      (if (s.pending kid).isEmpty then s.push kid lane else s).popOr kid (.sleeping failures)
    | _, _ => s
  | .wake kid => match s.phase kid with
    | .sleeping failures => s.enter kid ((s.resolve defaultTarget kid).elim .idle fun target =>
        .fetching target (s.lastTarget kid ≠ some target) failures)
    | _ => s
  | .fetched kid bars lane evict => match s.phase kid, bars with
    | .snapshot _, none => s.enter kid .idle
    | .snapshot target, some bars => s.snapshotOr kid target bars evict .idle
    | .fetching target true _, some bars => (s.push kid lane).snapshotOr kid target bars evict (.looping 0)
    | .fetching target false _, some bars => match bars.getLast? with
      | none => (s.push kid lane).enter kid (.looping 0)
      | some bar => (s.push kid lane).yield kid (.delta target.entityKey target.timeframe bar)
    | .fetching _ _ failures, none =>
      if maxStreamFailures ≤ failures + 1 then s.enter kid .idle
      else if lane.isEmpty then s.enter kid (.looping (failures + 1))
      else (s.push kid lane).popOr kid (.looping (failures + 1))
    | _, _ => s
  | .dropLane kid => s.setLane kid []
  | .stop kid => s.enter kid .idle

end State

/-- Entity key and timeframe of the last snapshot that was returned for a key id. -/
def lastSnapshot (kid : Kid) : List (Kid × SourceFrame Bar) → Option (String × String)
  | [] => none
  | (k, .snapshot entityKey timeframe _) :: older =>
    if k = kid then some (entityKey, timeframe) else lastSnapshot kid older
  | _ :: older => lastSnapshot kid older

/-- Every delta has the entity key and the timeframe of the last snapshot before it. -/
def Continues : List (Kid × SourceFrame Bar) → Prop
  | [] => True
  | (kid, .delta entityKey timeframe _) :: older =>
    lastSnapshot kid older = some (entityKey, timeframe) ∧ Continues older
  | _ :: older => Continues older

/-- The last snapshot of the key id is of this target. -/
def Shown (s : State Kid Bar) (kid : Kid) (t : RealtimeTarget) : Prop :=
  lastSnapshot kid s.frames = some (t.entityKey, t.timeframe)

structure Inv (s : State Kid Bar) : Prop where
  continues : Continues s.frames
  remembered : ∀ e ∈ s.sessions, Shown s e.1 e.2
  fetching : ∀ kid t n, s.phase kid = .fetching t false n → Shown s kid t

variable {s : State Kid Bar} {kid : Kid} {t : RealtimeTarget}

section

variable (h : Inv s)

include h

lemma Inv.lastTarget (hlast : s.lastTarget kid = some t) : Shown s kid t := by
  obtain ⟨e, he, rfl⟩ := Option.map_eq_some_iff.1 hlast
  obtain rfl : e.1 = kid := by simpa using List.find?_some he
  exact h.remembered e (List.mem_of_find?_eq_some he)

lemma Inv.enter {phase : Phase} (hphase : ∀ t n, phase = .fetching t false n → Shown s kid t) :
    Inv (s.enter kid phase) := by
  refine ⟨h.continues, h.remembered, fun k t n hk => ?_⟩
  by_cases heq : k = kid
  · subst heq
    exact hphase t n (by simpa [State.enter] using hk)
  · exact h.fetching k t n (by simpa [State.enter, Function.update_of_ne heq] using hk)

lemma Inv.yield {frame : SourceFrame Bar} (hlast : ∀ k, lastSnapshot k ((kid, frame) :: s.frames) =
    lastSnapshot k s.frames) (hcontinues : Continues ((kid, frame) :: s.frames)) : Inv (s.yield kid frame) := by
  have hidle : Inv (s.enter kid .idle) := h.enter nofun
  refine ⟨hcontinues, fun e he => ?_, fun k t n hk => ?_⟩
  · exact (hlast _).trans (hidle.remembered e he)
  · exact (hlast _).trans (hidle.fetching k t n hk)

lemma Inv.setLane (kid : Kid) (frames : List String) : Inv (s.setLane kid frames) :=
  ⟨h.continues, h.remembered, h.fetching⟩

lemma Inv.popOr {next : Phase} (hnext : ∀ t n, next ≠ .fetching t false n) : Inv (s.popOr kid next) := by
  unfold State.popOr
  split
  · exact h.enter fun t n heq => absurd heq (hnext t n)
  · exact (h.setLane kid _).yield (fun _ => rfl) h.continues

lemma Inv.snapshotOr (bars : List Bar) (evict : ℕ) {next : Phase}
    (hnext : ∀ t n, next ≠ .fetching t false n) : Inv (s.snapshotOr kid t bars evict next) := by
  unfold State.snapshotOr
  split_ifs
  · exact h.enter fun t n heq => absurd heq (hnext t n)
  · have hother : ∀ {k : Kid} {u : RealtimeTarget}, k ≠ kid → Shown s k u →
        Shown ((s.remember kid t evict).yield kid (.snapshot t.entityKey t.timeframe bars)) k u :=
      fun hne hu => (if_neg (Ne.symm hne)).trans hu
    refine ⟨h.continues, fun e he => ?_, fun k u n hk => ?_⟩
    · obtain rfl | he := List.mem_cons.1 he
      · exact if_pos rfl
      · obtain ⟨hkept, hne⟩ := List.mem_filter.1 he
        refine hother (by simpa using hne) (h.remembered e ?_)
        split_ifs at hkept
        · exact List.mem_of_mem_eraseIdx hkept
        · exact hkept
    · by_cases hne : k = kid
      · subst hne
        simp [State.yield, State.enter] at hk
      · exact hother hne (h.fetching k u n (by simpa [State.yield, State.enter, State.remember, hne] using hk))

lemma Inv.step (defaultTarget : Option RealtimeTarget) (a : Act Kid Bar) :
    Inv (s.step defaultTarget a) := by
  cases a with
  | bind => exact ⟨h.continues, h.remembered, h.fetching⟩
  | dropLane k => exact h.setLane k []
  | stop => exact h.enter nofun
  | snapshotFor k =>
    dsimp only [State.step]
    split
    · exact (h.setLane _ _).enter (by cases s.resolve defaultTarget k <;> exact nofun)
    · exact h
  | nextDeltaFor k =>
    dsimp only [State.step]
    split
    · exact h.enter nofun
    · exact h
  | head k lane =>
    dsimp only [State.step]
    split
    · exact h.enter nofun
    · refine Inv.popOr ?_ nofun
      split_ifs
      · exact h.setLane _ _
      · exact h
    · exact h
  | wake k =>
    dsimp only [State.step]
    split
    · refine h.enter fun t n heq => ?_
      cases htarget : s.resolve defaultTarget k with
      | none =>
        rw [htarget] at heq
        cases heq
      | some u =>
        rw [htarget] at heq
        obtain ⟨rfl, hsame, -⟩ := Phase.fetching.inj heq
        exact h.lastTarget (by simpa using hsame)
    · exact h
  | fetched k bars lane evict =>
    dsimp only [State.step]
    split
    · exact h.enter nofun
    · exact h.snapshotOr _ _ nofun
    · exact (h.setLane _ _).snapshotOr _ _ nofun
    · rename_i target n bars hphase
      split
      · exact (h.setLane _ _).enter nofun
      · -- The target was the last one when the fetch began, and this driver has returned nothing since.
        exact (h.setLane _ _).yield (fun _ => rfl) ⟨h.fetching k target n hphase, h.continues⟩
    · split_ifs
      · exact h.enter nofun
      · exact h.enter nofun
      · exact (h.setLane _ _).popOr nofun
    · exact h

end

/-- **A chart delta continues the series of the last snapshot**, in every run of the drivers. -/
theorem chart_delta_continues (defaultTarget : Option RealtimeTarget) (acts : List (Act Kid Bar)) :
    Continues (acts.foldl (State.step defaultTarget) State.fresh).frames := by
  have hrun : ∀ s : State Kid Bar, Inv s → Inv (acts.foldl (State.step defaultTarget) s) := by
    induction acts with
    | nil => exact fun s h => h
    | cons a acts ih => exact fun s h => ih _ (h.step defaultTarget a)
  exact (hrun State.fresh ⟨trivial, nofun, nofun⟩).continues

example : ((List.foldl (State.step none) (State.fresh : State ℕ ℕ) [.bind 0 (some ⟨"sol", "a", "m5"⟩),
    .snapshotFor 0, .fetched 0 (some [1]) [] 0, .nextDeltaFor 0, .head 0 [], .wake 0,
    .fetched 0 (some [2]) [] 0]).frames.map fun f => f.2 matches .delta ..) = [true, false] := by decide

end PrivateExecution.Chart
