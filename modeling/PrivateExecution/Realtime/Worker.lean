import Mathlib.Order.Basic
import PrivateExecution.Async.Machine

/-!
# Restarts of the realtime worker

The worker (`web/workspace-payload/src/realtime/worker.ts`) numbers the control envelopes it seals, with
one counter for each purpose. `start` notes the counters, stops the worker and waits for its keys, and
continues the counters if the key id it found was its own. A start that comes while another one waits
finds no key id, and so does the one after a failed start: the counters begin again.
-/

namespace PrivateExecution.Realtime

open Async

inductive Purpose where
  | stream
  | sync
deriving DecidableEq

/-- A `start` that waits for its keys, with what it noted before it stopped the worker. -/
structure Starting where
  generation : ℕ
  kid : String
  previousKid : String
  previousSequences : Purpose → ℕ

/-- The counters that it goes on with. -/
def Starting.sequences (s : Starting) : Purpose → ℕ :=
  if s.previousKid ≠ "" ∧ s.previousKid = s.kid then s.previousSequences else fun _ => 0

structure Worker where
  stopped : Bool
  hasSessionKey : Bool
  /-- There is a socket. -/
  socket : Bool
  syncUrl : String
  sessionKid : String
  /-- There is a sealer. -/
  syncSealer : Bool
  /-- `streamSequence` and `syncSequence`. -/
  sequences : Purpose → ℕ
  startGeneration : ℕ
  starting : List Starting
  /-- The envelopes sealed so far, newest first. -/
  used : List (Purpose × ℕ)

/-- What becomes of the keys of a `start`. -/
inductive Keys where
  | rejected
  | imported (sealer created : Bool)

namespace Worker

def initial : Worker := ⟨true, false, false, "", "", false, fun _ => 0, 0, [], []⟩

variable (w : Worker)

def stop : Worker :=
  { w with
    stopped := true, hasSessionKey := false, socket := false, syncSealer := false, sequences := fun _ => 0,
    sessionKid := "" }

/-- `start` up to its first `await`; `none` if a URL is refused. -/
def start (kid : String) (syncUrl : Option String) : Worker :=
  let begun : Starting := ⟨w.startGeneration + 1, kid, w.sessionKid, w.sequences⟩
  let w := { w.stop with stopped := false, startGeneration := w.startGeneration + 1 }
  match syncUrl with
  | none => w.stop
  | some syncUrl => { w with syncUrl := syncUrl, hasSessionKey := true, starting := begun :: w.starting }

/-- `new WebSocket` throws unless `created`. -/
def openSocket (created : Bool) : Worker :=
  if w.stopped = true ∨ w.hasSessionKey = false then w else { w with socket := created }

def install (s : Starting) : Keys → Worker
  | .rejected => w.stop
  | .imported sealer created =>
    if w.stopped = true ∨ s.generation ≠ w.startGeneration then w
    else { w with sessionKid := s.kid, syncSealer := sealer, sequences := s.sequences }.openSocket created

def settle (generation : ℕ) (keys : Keys) : Worker :=
  match w.starting.find? (·.generation = generation) with
  | none => w
  | some s => { w with starting := w.starting.filter (·.generation ≠ generation) }.install s keys

/-- Takes the next sequence; the envelope is `sealed` or given up. -/
def take (p : Purpose) ( sealed : Bool) : Worker :=
  { w with
    sequences := Function.update w.sequences p (w.sequences p + 1)
    used := if sealed then (p, w.sequences p) :: w.used else w.used }

def sendStreamSubscribe ( sealed : Bool) : Worker :=
  if w.syncSealer = false ∨ w.socket = false ∨ w.sessionKid = "" then w else w.take .stream sealed

def requestResync ( sealed : Bool) : Worker :=
  if w.syncUrl = "" ∨ w.syncSealer = false then w else w.take .sync sealed

end Worker

/-- What happens to a worker: messages, settled keys, and events of its timers, socket and client. -/
inductive WorkerAct where
  | start (syncUrl : Option String)
  | settle (generation : ℕ) (keys : Keys)
  | openSocket (created : Bool)
  | opened ( sealed : Bool)
  | resync ( sealed : Bool)

/-- A worker that is started with one key id only. -/
abbrev worker (kid : String) : Machine WorkerAct fun _ => Unit where
  State := Worker
  step w
    | .start syncUrl => ((), w.start kid syncUrl)
    | .settle generation keys => ((), w.settle generation keys)
    | .openSocket created => ((), w.openSocket created)
    | .opened sealed => ((), w.sendStreamSubscribe sealed)
    | .resync sealed => ((), w.requestResync sealed)

/-- A start finds the key id, or nothing has been sealed. -/
def KnowsKey (kid : String) (w : Worker) (a : WorkerAct) : Prop :=
  ∀ syncUrl, a = .start syncUrl → (w.sessionKid ≠ "" ∧ w.sessionKid = kid) ∨ w.used = []

/-- No sequence used so far would be used again. -/
def Worker.Above (w : Worker) (sequences : Purpose → ℕ) : Prop := ∀ u ∈ w.used, u.2 < sequences u.1

/-- The counters are above what was used wherever they may be used or noted, and so are those that the last
start goes on with; until then nothing is sealed. -/
structure Unused (w : Worker) : Prop where
  distinct : w.used.Nodup
  above : w.syncSealer = true ∨ w.sessionKid ≠ "" → w.Above w.sequences
  generations : ∀ s ∈ w.starting, s.generation ≤ w.startGeneration
  last : ∀ s ∈ w.starting, s.generation = w.startGeneration → w.syncSealer = false ∧ w.Above s.sequences

section

variable {w : Worker} (h : Unused w)

include h

lemma Unused.stop : Unused w.stop :=
  ⟨h.distinct, by simp [Worker.stop], h.generations, fun s hs hlast => ⟨rfl, (h.last s hs hlast).2⟩⟩

lemma Unused.start {kid : String} {syncUrl : Option String} (hok : KnowsKey kid w (.start syncUrl)) :
    Unused (w.start kid syncUrl) := by
  have hold : ∀ s ∈ w.starting, s.generation < w.startGeneration + 1 :=
    fun s hs => Nat.lt_succ_of_le (h.generations s hs)
  have hgenerations : ∀ s ∈ w.starting, s.generation ≤ w.startGeneration + 1 := fun s hs => Nat.le_of_lt (hold s hs)
  cases syncUrl with
  | none =>
    exact ⟨h.distinct, by simp [Worker.start, Worker.stop], hgenerations,
      fun s hs hlast => absurd hlast (Nat.ne_of_lt (hold s hs))⟩
  | some syncUrl =>
    refine ⟨h.distinct, by simp [Worker.start, Worker.stop], List.forall_mem_cons.2 ⟨Nat.le_refl _, hgenerations⟩,
      List.forall_mem_cons.2 ⟨fun _ => ⟨rfl, fun u hu => ?_⟩, fun s hs hlast => absurd hlast (Nat.ne_of_lt (hold s hs))⟩⟩
    obtain hkid | hnone := hok _ rfl
    · rw [Starting.sequences, if_pos hkid]
      exact h.above (.inr hkid.1) u hu
    · change u ∈ w.used at hu
      rw [hnone] at hu
      cases hu

lemma Unused.openSocket (created : Bool) : Unused (w.openSocket created) := by
  unfold Worker.openSocket
  split_ifs
  · exact h
  · exact ⟨h.distinct, h.above, h.generations, h.last⟩

lemma Unused.settle (generation : ℕ) (keys : Keys) : Unused (w.settle generation keys) := by
  unfold Worker.settle
  split
  · exact h
  · next s hs =>
    have hgeneration : s.generation = generation := by simpa using List.find?_some hs
    have hrest : Unused { w with starting := w.starting.filter (·.generation ≠ generation) } :=
      ⟨h.distinct, h.above, fun s hs => h.generations s (List.mem_filter.1 hs).1,
        fun s hs => h.last s (List.mem_filter.1 hs).1⟩
    cases keys with
    | rejected => exact hrest.stop
    | imported sealer created =>
      unfold Worker.install
      split_ifs with hstale
      · exact hrest
      · have hlast : s.generation = w.startGeneration := not_not.1 fun hne => hstale (.inr hne)
        have habove := (h.last s (List.mem_of_find?_eq_some hs) hlast).2
        refine Unused.openSocket (w := { w with
          starting := _, sessionKid := s.kid, syncSealer := sealer, sequences := s.sequences })
          ⟨h.distinct, fun _ => habove, hrest.generations, fun s' hs' hlast' => ?_⟩ created
        -- No other start has this generation.
        have hne := (List.mem_filter.1 hs').2
        simp [hlast', ← hgeneration, hlast] at hne

lemma Unused.take (p : Purpose) ( sealed : Bool) (hsealer : w.syncSealer = true) :
    Unused (w.take p sealed) := by
  have hused := h.above (.inl hsealer)
  have habove : ∀ u ∈ w.used, u.2 < (w.take p sealed).sequences u.1 := by
    intro u hu
    refine Nat.lt_of_lt_of_le (hused u hu) ?_
    by_cases hp : u.1 = p <;> simp [Worker.take, hp]
  have hlast : ∀ s ∈ w.starting, s.generation ≠ w.startGeneration := by
    intro s hs heq
    rw [(h.last s hs heq).1] at hsealer
    cases hsealer
  cases sealed with
  | false => exact ⟨h.distinct, fun _ => habove, h.generations, fun s hs heq => absurd heq (hlast s hs)⟩
  | true =>
    refine ⟨List.nodup_cons.2 ⟨fun hmem => Nat.lt_irrefl _ (hused _ hmem), h.distinct⟩,
      fun _ => List.forall_mem_cons.2 ⟨?_, habove⟩, h.generations, fun s hs heq => absurd heq (hlast s hs)⟩
    simp [Worker.take]

end

/-- Over every run in which a start that follows a sealed envelope finds the key id, no purpose uses a sequence
twice. -/
theorem sequences_distinct (kid : String) (acts : List WorkerAct)
    (h : (worker kid).Meets (KnowsKey kid) Worker.initial acts) :
    ((worker kid).run Worker.initial acts : Worker).used.Nodup := by
  have hinitial : Unused .initial := ⟨List.nodup_nil, nofun, nofun, nofun⟩
  refine (h.invariant (P := Unused) hinitial fun w a hw hok => ?_).distinct
  cases a with
  | start syncUrl => exact hw.start hok
  | settle generation keys => exact hw.settle generation keys
  | openSocket created => exact hw.openSocket created
  | opened sealed =>
    change Unused (w.sendStreamSubscribe sealed)
    unfold Worker.sendStreamSubscribe
    split_ifs with hskip
    · exact hw
    · exact hw.take _ _ (eq_true_of_ne_false fun hnone => hskip (.inl hnone))
  | resync sealed =>
    change Unused (w.requestResync sealed)
    unfold Worker.requestResync
    split_ifs with hskip
    · exact hw
    · exact hw.take _ _ (eq_true_of_ne_false fun hnone => hskip (.inr hnone))

namespace WorkerSample

def connect (generation : ℕ) :
    List WorkerAct := [.start (some "/v1/sync"), .settle generation (.imported true true),
  .opened true, .resync true]

end WorkerSample

open WorkerSample in
theorem restart_continues :
    ((worker "k").run .initial (connect 1 ++ connect 2) : Worker).used =
      [(.sync, 1), (.stream, 1), (.sync, 0), (.stream, 0)] ∧
    ((worker "k").run .initial (connect 1 ++ connect 2) : Worker).used.Nodup := by
  refine ⟨by decide, sequences_distinct "k" (connect 1 ++ connect 2) ?_⟩
  refine ⟨fun _ _ => .inr rfl, nofun, nofun, nofun, fun _ _ => .inl ⟨by decide, rfl⟩, nofun, nofun, nofun, trivial⟩

open WorkerSample in
/-- A restart that is overtaken by another one, and a restart whose keys are rejected. -/
theorem restart_reuses_sequence :
    ((worker "k").run .initial (connect 1 ++ .start (some "/v1/sync") :: connect 3) : Worker).used =
      [(.sync, 0), (.stream, 0), (.sync, 0), (.stream, 0)] ∧
    ((worker "k").run .initial
        (connect 1 ++ [.start (some "/v1/sync"), .settle 2 .rejected] ++ connect 3) : Worker).used =
      [(.sync, 0), (.stream, 0), (.sync, 0), (.stream, 0)] := by
  decide

end PrivateExecution.Realtime
