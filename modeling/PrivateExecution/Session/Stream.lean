import PrivateExecution.Async.Machine
import PrivateExecution.Async.Notify
import PrivateExecution.Domain.Primitives

/-!
# The stream connections of a session

`StreamHub` and `StreamDriver` (`apps/private-api/src/stream.rs`) for one key id: the hub's slot counts the
connections by generation and holds a pending resync request, every connection runs its driver, and all
drivers advance the stream sequence of one session. Each critical section of the hub and of the registry is
one step; what the source, the clock and the sink answer is part of the step, and connections may end at any
time.
-/

namespace PrivateExecution.Session.Stream

open Async

/-! ### Hub, session and connections -/

/-- The `Arc<Notify>` is named by the number of its allocation. -/
structure Slot where
  generation : BitVec 64
  resync : Option U64
  notify : ℕ
deriving DecidableEq

structure StreamSession where
  expiresAtMs : I64
  streamSequence : U64
  maxServerTimeMs : Option I64

namespace StreamSession

def isExpired (session : StreamSession) (nowMs : I64) : Bool := decide (session.expiresAtMs ≤ nowMs)

/-- The sequence of the sealed frame and the session after it; `seals` tells whether the frame can be
serialised and encrypted. Every error ends the stream alike. -/
def sealStreamFrame (session : StreamSession) (serverTimeMs : I64) (seals : Bool) : Option (U64 × StreamSession) :=
  if session.maxServerTimeMs.any (fun previous => decide (serverTimeMs < previous)) then none
  else if seals then
    (Unsigned.ofNat? (session.streamSequence.val + 1)).map fun next =>
      (session.streamSequence, { session with streamSequence := next, maxServerTimeMs := some serverTimeMs })
  else none

end StreamSession

/-- What `emit` returns into: the loop of the driver, or its end after a fail-closed frame. -/
inductive After where
  | loop | stop
deriving DecidableEq

/-- Where a connection is. `sealing` lies between `is_current` and the section that seals, `selecting` between
`take_resync` and the first poll of `notified()`; `notified` has been woken but has not run yet. The content of
the frame in hand decides nothing here. -/
inductive Phase where
  | snapshot (fromSeq : Option U64)
  | checking (after : After)
  | sealing (after : After)
  | sending (after : After)
  | looping
  | selecting
  | waiting
  | notified
  | ending
deriving DecidableEq

/-- A connection: what `register` handed to it, and where its driver is. -/
structure Conn where
  generation : BitVec 64
  notify : ℕ
  phase : Phase
deriving DecidableEq

/-- What the connections did, by their number. -/
inductive Event where
  | registered (c : ℕ)
  | sealed (c : ℕ) (sequence : U64)
  | took (c : ℕ) (fromSeq : U64)
  | released (c : ℕ)
deriving DecidableEq

/-- The slot of the key id, the notification objects, the live connections by number, the session, and the
history, newest first. -/
structure State where
  slot : Option Slot
  notifies : ℕ → Notify ℕ
  allocated : ℕ
  conns : ℕ → Option Conn
  registered : ℕ
  session : Option StreamSession
  log : List Event

/-- What the source answers to `snapshot_for`: a frame, or what `unavailable` then yields, of which at most
`FAIL_CLOSED_FRAMES`, one, is emitted. -/
inductive Snapshot where
  | frame
  | unavailable (frame : Bool)

/-- A step: a section of the connection `c`, of the sync route or of the registry of sessions. -/
inductive Act where
  | register (fromSeq : Option U64)
  | requestResync (fromSeq : Option U64)
  | snapshotFor (c : ℕ) (answer : Snapshot)
  | isCurrent (c : ℕ)
  | sealFrame (c : ℕ) (nowMs : Option I64) (seals : Bool)
  | sent (c : ℕ) (ok : Bool)
  | takeResync (c : ℕ)
  | poll (c : ℕ)
  | wake (c : ℕ)
  | nextDelta (c : ℕ)
  | stop (c : ℕ)
  | release (c : ℕ)
  | dropSession

namespace State

def opened (session : Option StreamSession) : State := ⟨none, fun _ => .new, 0, fun _ => none, 0, session, []⟩

variable (s : State) (c : ℕ) (conn : Conn)

def setPhase (phase : Phase) : State :=
  { s with conns := Function.update s.conns c (some { conn with phase := phase }) }

def setNotify (id : ℕ) (notify : Notify ℕ) : State :=
  { s with notifies := Function.update s.notifies id notify }

/-- `notify_one` on a notification object: the connection that it wakes is notified. -/
def notifyOne (id : ℕ) : State :=
  let (woken, notify) := (s.notifies id).notifyOne
  match woken.bind fun w => (s.conns w).map fun conn => (w, conn) with
  | none => s.setNotify id notify
  | some (w, conn) => (s.setNotify id notify).setPhase w conn .notified

/-! ### The hub -/

def nextGeneration : BitVec 64 := s.slot.elim 0 Slot.generation + 1

def nextNotify : ℕ := s.slot.elim s.allocated Slot.notify

def register (fromSeq : Option U64) : State :=
  { s with
    slot := some ⟨s.nextGeneration, none, s.nextNotify⟩
    allocated := if s.slot.isNone then s.allocated + 1 else s.allocated
    conns := Function.update s.conns s.registered (some ⟨s.nextGeneration, s.nextNotify, .snapshot fromSeq⟩)
    registered := s.registered + 1
    log := .registered s.registered :: s.log }

def requestResync (fromSeq : Option U64) : State :=
  match s.slot with
  | none => s
  | some slot => { s with slot := some { slot with resync := some (fromSeq.getD .zero) } }.notifyOne slot.notify

def isCurrent (generation : BitVec 64) : Bool :=
  s.slot.any fun slot => slot.generation == generation

def pendingResync (generation : BitVec 64) : Option U64 :=
  s.slot.bind fun slot => if slot.generation ≠ generation then none else slot.resync

/-- The driver asks for a pending request at the head of its loop. -/
def takeResync : State :=
  match s.pendingResync conn.generation with
  | none => s.setPhase c conn .selecting
  | some fromSeq =>
    { s with
      slot := s.slot.map fun slot : Slot => { slot with resync := none }
      log := .took c fromSeq :: s.log }.setPhase c conn (.snapshot (some fromSeq))

def release : State :=
  let s := { s with conns := Function.update s.conns c none }
  if s.isCurrent conn.generation then { s with slot := none, log := .released c :: s.log } else s

/-! ### The driver -/

def afterEmit : After → Phase
  | .loop => .looping
  | .stop => .ending

/-- The section of `emit` under the lock of the registry. A session past its deadline is removed. -/
def sealFrame (after : After) (nowMs : Option I64) (seals : Bool) : State :=
  match nowMs, s.session with
  | some nowMs, some session =>
    if session.isExpired nowMs then { s with session := none }.setPhase c conn .ending
    else
      match session.sealStreamFrame nowMs seals with
      | none => s.setPhase c conn .ending
      | some (sequence, session) =>
        { s with session := some session, log := .sealed c sequence :: s.log }.setPhase c conn (.sending after)
  | _, _ => s.setPhase c conn .ending

/-- `select!` drops the future of `notified()`: one that waits leaves the queue, and one that was woken
passes its notification on. -/
def dropNotified : State :=
  match conn.phase with
  | .waiting => s.setNotify conn.notify ((s.notifies conn.notify).forget c)
  | .notified => s.notifyOne conn.notify
  | _ => s

/-- The first poll of `notified()` takes a stored permit or begins to wait. -/
def poll : State :=
  let (taken, notify) := (s.notifies conn.notify).poll c
  (s.setNotify conn.notify notify).setPhase c conn (if taken then .looping else .waiting)

/-- A section of a connection; `none` if the connection is not there. -/
def connStep : Act → Option State
  | .snapshotFor _ answer =>
    match conn.phase, answer with
    | .snapshot _, .frame => some (s.setPhase c conn (.checking .loop))
    | .snapshot _, .unavailable true => some (s.setPhase c conn (.checking .stop))
    | .snapshot _, .unavailable false => some (s.setPhase c conn .ending)
    | _, _ => none
  | .isCurrent _ =>
    match conn.phase with
    | .checking after =>
      some (s.setPhase c conn (if s.isCurrent conn.generation then .sealing after else .ending))
    | _ => none
  | .sealFrame _ nowMs seals =>
    match conn.phase with
    | .sealing after => some (s.sealFrame c conn after nowMs seals)
    | _ => none
  | .sent _ ok =>
    match conn.phase with
    | .sending after => some (s.setPhase c conn (if ok then afterEmit after else .ending))
    | _ => none
  | .takeResync _ => if conn.phase = .looping then some (s.takeResync c conn) else none
  | .poll _ => if conn.phase = .selecting then some (s.poll c conn) else none
  | .wake _ => if conn.phase = .notified then some (s.setPhase c conn .looping) else none
  | .nextDelta _ =>
    if conn.phase = .selecting ∨ conn.phase = .waiting ∨ conn.phase = .notified then
      some ((s.dropNotified c conn).setPhase c conn (.checking .loop))
    else none
  | .stop _ =>
    if conn.phase = .ending then none else some ((s.dropNotified c conn).setPhase c conn .ending)
  | .release _ => if conn.phase = .ending then some (s.release c conn) else none
  | _ => none

end State

def Act.conn : Act → Option ℕ
  | .snapshotFor c _ | .isCurrent c | .sealFrame c .. | .sent c _ | .takeResync c | .poll c | .wake c | .nextDelta c
  | .stop c | .release c => some c
  | .register _ | .requestResync _ | .dropSession => none

/-- A step that its connection is not ready for does nothing. -/
def State.step (s : State) (a : Act) : State :=
  match a with
  | .register fromSeq => s.register fromSeq
  | .requestResync fromSeq => s.requestResync fromSeq
  | .dropSession => { s with session := none }
  | _ => (a.conn.bind fun c => (s.conns c).bind fun conn => s.connStep c conn a).getD s

abbrev hub : Machine Act fun _ => Unit where
  State := State
  step s a := ((), s.step a)

/-! ### What a section can do -/

variable {s s' : State} {c : ℕ} {conn : Conn}

/-- What a section of the connection `c` does. -/
inductive Moves (s : State) (c : ℕ) (conn : Conn) : State → Prop
  | advance (phase : Phase) (hfrom : conn.phase ≠ .waiting) (hlive : conn.phase ≠ .ending)
      (hto : phase ≠ .waiting)
      (hsealing : ∀ after, phase = .sealing after → s.isCurrent conn.generation = true)
      (hselecting : phase = .selecting → s.pendingResync conn.generation = none) :
      Moves s c conn (s.setPhase c conn phase)
  | expire (after : After) (hphase : conn.phase = .sealing after) :
      Moves s c conn ({ s with session := none }.setPhase c conn .ending)
  | sealed (after : After) (session : StreamSession) (sequence : U64) (hphase : conn.phase = .sealing after) :
      Moves s c conn ({ s with session := some session, log := .sealed c sequence :: s.log }.setPhase c conn
        (.sending after))
  | take (slot : Slot) (fromSeq : U64) (hphase : conn.phase = .looping) (hslot : s.slot = some slot)
      (hcurrent : slot.generation = conn.generation) :
      Moves s c conn ({ s with slot := some { slot with resync := none }, log := .took c fromSeq :: s.log }.setPhase
        c conn (.snapshot (some fromSeq)))
  | poll (hphase : conn.phase = .selecting) : Moves s c conn (s.poll c conn)
  | leave (phase : Phase) (hphase : conn.phase = .waiting ∨ conn.phase = .notified)
      (hto : phase = .ending ∨ phase = .checking .loop) :
      Moves s c conn ((s.dropNotified c conn).setPhase c conn phase)
  | release (hphase : conn.phase = .ending) : Moves s c conn (s.release c conn)

lemma Moves.of_sealFrame {after : After} (hphase : conn.phase = .sealing after) (nowMs : Option I64)
    (seals : Bool) : Moves s c conn (s.sealFrame c conn after nowMs seals) := by
  have hending : Moves s c conn (s.setPhase c conn .ending) :=
    .advance .ending (by simp [hphase]) (by simp [hphase]) nofun nofun nofun
  unfold State.sealFrame
  split
  · split
    · exact .expire after hphase
    · split
      · exact hending
      · exact .sealed after _ _ hphase
  · exact hending

lemma Moves.of_takeResync (hphase : conn.phase = .looping) : Moves s c conn (s.takeResync c conn) := by
  unfold State.takeResync
  split
  next hnone => exact .advance .selecting (by simp [hphase]) (by simp [hphase]) nofun nofun fun _ => hnone
  next fromSeq hsome =>
    simp only [State.pendingResync, Option.bind_eq_some_iff] at hsome
    obtain ⟨slot, hslot, hpending⟩ := hsome
    split at hpending
    · cases hpending
    next hcurrent =>
      rw [hslot]
      exact .take slot fromSeq hphase hslot (not_not.1 hcurrent)

lemma Moves.of_drop {phase : Phase} (hlive : conn.phase ≠ .ending)
    (hto : phase = .ending ∨ phase = .checking .loop) :
    Moves s c conn ((s.dropNotified c conn).setPhase c conn phase) := by
  by_cases hphase : conn.phase = .waiting ∨ conn.phase = .notified
  · exact .leave phase hphase hto
  · have hsame : s.dropNotified c conn = s := by
      unfold State.dropNotified
      split
      next h => exact absurd (.inl h) hphase
      next h => exact absurd (.inr h) hphase
      · rfl
    rw [hsame]
    refine .advance phase (fun h => hphase (.inl h)) hlive ?_ ?_ ?_ <;>
      obtain rfl | rfl := hto <;> nofun

lemma connStep_moves {a : Act} (h : s.connStep c conn a = some s') : Moves s c conn s' := by
  cases a with
  | register | requestResync | dropSession => cases h
  | snapshotFor c' answer =>
    simp only [State.connStep] at h
    split at h
    all_goals cases h
    all_goals
      next hphase =>
        exact .advance _ (by simp [hphase]) (by simp [hphase]) nofun nofun nofun
  | isCurrent c' =>
    simp only [State.connStep] at h
    split at h
    next after hphase =>
      obtain rfl := Option.some.inj h
      refine .advance _ (by simp [hphase]) (by simp [hphase]) ?_ ?_ ?_
      · split <;> nofun
      · intro after' heq
        by_contra hstale
        rw [if_neg hstale] at heq
        cases heq
      · intro heq
        split at heq <;> cases heq
    · cases h
  | sealFrame c' nowMs seals =>
    simp only [State.connStep] at h
    split at h
    next after hphase =>
      obtain rfl := Option.some.inj h
      exact .of_sealFrame hphase nowMs seals
    · cases h
  | sent c' ok =>
    simp only [State.connStep] at h
    split at h
    next after hphase =>
      obtain rfl := Option.some.inj h
      refine .advance _ (by simp [hphase]) (by simp [hphase]) ?_ ?_ ?_ <;>
        cases ok <;> cases after <;> nofun
    · cases h
  | takeResync c' =>
    obtain ⟨hphase, ⟨⟩⟩ := Option.ite_none_right_eq_some.1 h
    exact .of_takeResync hphase
  | poll c' =>
    obtain ⟨hphase, ⟨⟩⟩ := Option.ite_none_right_eq_some.1 h
    exact .poll hphase
  | wake c' =>
    obtain ⟨hphase, ⟨⟩⟩ := Option.ite_none_right_eq_some.1 h
    exact .advance .looping (by simp [hphase]) (by simp [hphase]) nofun nofun nofun
  | nextDelta c' =>
    obtain ⟨hphase, ⟨⟩⟩ := Option.ite_none_right_eq_some.1 h
    refine .of_drop (fun hending => ?_) (.inr rfl)
    simp [hending] at hphase
  | stop c' =>
    obtain ⟨hlive, ⟨⟩⟩ := Option.ite_none_left_eq_some.1 h
    exact .of_drop hlive (.inl rfl)
  | release c' =>
    obtain ⟨hphase, ⟨⟩⟩ := Option.ite_none_right_eq_some.1 h
    exact .release hphase

lemma step_cases (s : State) (a : Act) : (∃ fromSeq, a = .register fromSeq ∧ s.step a = s.register fromSeq) ∨
    (∃ fromSeq, a = .requestResync fromSeq ∧ s.step a = s.requestResync fromSeq) ∨
    s.step a = { s with session := none } ∨
    (∃ c conn, a.conn = some c ∧ s.conns c = some conn ∧ Moves s c conn (s.step a)) ∨
    s.step a = s := by
  cases a with
  | register fromSeq => exact .inl ⟨fromSeq, rfl, rfl⟩
  | requestResync fromSeq => exact .inr (.inl ⟨fromSeq, rfl, rfl⟩)
  | dropSession => exact .inr (.inr (.inl rfl))
  | snapshotFor c | isCurrent c | sealFrame c | sent c | takeResync c | poll c | wake c | nextDelta c | stop c
  | release c =>
    refine .inr (.inr (.inr ?_))
    simp only [State.step, Act.conn, Option.bind_some]
    cases hconn : s.conns c with
    | none => exact .inr rfl
    | some conn =>
      rw [Option.bind_some]
      cases hstep : s.connStep c conn _ with
      | none => exact .inr rfl
      | some s' => exact .inl ⟨c, conn, rfl, hconn, connStep_moves hstep⟩

/-! ### Which connections a step leaves -/

/-- Only connections and notification objects differ. -/
def OnlyDrivers (s s' : State) : Prop := s' = { s with notifies := s'.notifies, conns := s'.conns }

lemma OnlyDrivers.notifyOne (s : State) (id : ℕ) : OnlyDrivers s (s.notifyOne id) := by
  unfold State.notifyOne
  dsimp only
  split <;> rfl

lemma OnlyDrivers.dropNotified (s : State) (c : ℕ) (conn : Conn) : OnlyDrivers s (s.dropNotified c conn) := by
  unfold State.dropNotified
  split
  · rfl
  · exact .notifyOne s _
  · rfl

/-- A connection that comes to seal is the current one. -/
def SealsCurrent (s : State) (conn conn' : Conn) : Prop :=
  ∀ after, conn'.phase = .sealing after → conn.phase = .sealing after ∨ s.isCurrent conn.generation = true

/-- The connections of `s'` are connections of `s`, and only the current one has come to seal. -/
def Descends (s s' : State) : Prop :=
  ∀ c conn', s'.conns c = some conn' →
    ∃ conn, s.conns c = some conn ∧ conn'.generation = conn.generation ∧ SealsCurrent s conn conn'

lemma Descends.of_conns (h : s'.conns = s.conns) : Descends s s' :=
  fun _ conn' hconn' => ⟨conn', h ▸ hconn', rfl, fun _ h => .inl h⟩

lemma conns_setPhase {phase : Phase} {c' : ℕ} {conn' : Conn}
    (h : (s.setPhase c conn phase).conns c' = some conn') :
    (c' = c ∧ conn' = { conn with phase := phase }) ∨ (c' ≠ c ∧ s.conns c' = some conn') := by
  by_cases hc : c' = c
  · subst hc
    exact .inl ⟨rfl, by simpa [State.setPhase] using h.symm⟩
  · exact .inr ⟨hc, by simpa [State.setPhase, hc] using h⟩

lemma Descends.setPhase {phase : Phase} (h : Descends s s') (hconn : s.conns c = some conn)
    (hphase : ∀ after, phase = .sealing after → s.isCurrent conn.generation = true) :
    Descends s (s'.setPhase c conn phase) := by
  intro c' conn' hconn'
  obtain ⟨rfl, rfl⟩ | ⟨-, hold⟩ := conns_setPhase hconn'
  · exact ⟨conn, hconn, rfl, fun after hafter => .inr (hphase after hafter)⟩
  · exact h c' conn' hold

lemma Descends.notifyOne (s : State) (id : ℕ) : Descends s (s.notifyOne id) := by
  unfold State.notifyOne
  dsimp only
  split
  · exact .of_conns rfl
  next w conn hwoken =>
    obtain ⟨w', -, hmap⟩ := Option.bind_eq_some_iff.1 hwoken
    obtain ⟨conn', hconn', heq⟩ := Option.map_eq_some_iff.1 hmap
    cases heq
    exact Descends.setPhase (.of_conns rfl) hconn' nofun

lemma Descends.dropNotified (s : State) (c : ℕ) (conn : Conn) : Descends s (s.dropNotified c conn) := by
  unfold State.dropNotified
  split
  · exact .of_conns rfl
  · exact .notifyOne s _
  · exact .of_conns rfl

/-! ### Only the newest connection acts -/

def Event.actor : Event → Option ℕ
  | .registered _ => none
  | .sealed c _ | .took c _ | .released c => some c

def newest : List Event → Option ℕ
  | [] => none
  | .registered c :: _ => some c
  | _ :: log => newest log

/-- Whenever a connection acted, no other had registered since it did. -/
def Exclusive : List Event → Prop
  | [] => True
  | e :: log => (e.actor = none ∨ e.actor = newest log) ∧ Exclusive log

instance decidableExclusive : (log : List Event) → Decidable (Exclusive log)
  | [] => isTrue trivial
  | _ :: log =>
    have := decidableExclusive log
    inferInstanceAs (Decidable (_ ∧ _))

lemma newest_cons {e : Event} {log : List Event} (h : ∃ c, e.actor = some c) : newest (e :: log) = newest log := by
  cases e with
  | registered => simp [Event.actor] at h
  | sealed | took | released => rfl

/-- A connection registers only when no live connection has passed `is_current` without having sealed, and
none still has the generation that is handed out. -/
def Undisputed (s : State) : Act → Prop
  | .register _ => ∀ c conn, s.conns c = some conn →
      (∀ after, conn.phase ≠ .sealing after) ∧ conn.generation ≠ s.nextGeneration
  | _ => True

/-- The newest connection is the only one that is current or seals. -/
structure Inv (s : State) : Prop where
  ids : ∀ c conn, s.conns c = some conn → c < s.registered
  current : ∀ c conn, s.conns c = some conn → s.isCurrent conn.generation = true → c + 1 = s.registered
  sealing : ∀ c conn after, s.conns c = some conn → conn.phase = .sealing after → c + 1 = s.registered
  last : ∀ c, c + 1 = s.registered → newest s.log = some c
  exclusive : Exclusive s.log

lemma inv_opened (session : Option StreamSession) : Inv (.opened session) :=
  ⟨nofun, nofun, nofun, nofun, trivial⟩

lemma Inv.descend (h : Inv s) (hdescends : Descends s s') (hregistered : s'.registered = s.registered)
    (hcurrent : ∀ generation, s'.isCurrent generation = true → s.isCurrent generation = true)
    (hlog : s'.log = s.log ∨ ∃ e c, e.actor = some c ∧ c + 1 = s.registered ∧ s'.log = e :: s.log) : Inv s' where
  ids c conn' hconn' := by
    obtain ⟨conn, hconn, -⟩ := hdescends c conn' hconn'
    exact hregistered ▸ h.ids c conn hconn
  current c conn' hconn' hcur := by
    obtain ⟨conn, hconn, hgeneration, -⟩ := hdescends c conn' hconn'
    exact hregistered ▸ h.current c conn hconn (hcurrent _ (hgeneration ▸ hcur))
  sealing c conn' after hconn' hphase := by
    obtain ⟨conn, hconn, -, hseals⟩ := hdescends c conn' hconn'
    rw [hregistered]
    obtain hsealing | hcur := hseals after hphase
    · exact h.sealing c conn after hconn hsealing
    · exact h.current c conn hconn hcur
  last c hc := by
    obtain hlog | ⟨e, c', hactor, -, hlog⟩ := hlog
    · exact hlog ▸ h.last c (hregistered ▸ hc)
    · rw [hlog, newest_cons ⟨c', hactor⟩]
      exact h.last c (hregistered ▸ hc)
  exclusive := by
    obtain hlog | ⟨e, c, hactor, hc, hlog⟩ := hlog
    · exact hlog ▸ h.exclusive
    · rw [hlog]
      exact ⟨.inr (hactor.trans (h.last c hc).symm), h.exclusive⟩

lemma Inv.drivers (h : Inv s) (hdescends : Descends s s') (hdrivers : OnlyDrivers s s') : Inv s' := by
  refine h.descend hdescends (by rw [hdrivers]) (fun generation hcur => ?_) (.inl (by rw [hdrivers]))
  rw [hdrivers] at hcur
  exact hcur

lemma Inv.release (h : Inv s) (hconn : s.conns c = some conn) : Inv (s.release c conn) := by
  have hdescends : Descends s { s with conns := Function.update s.conns c none } := by
    intro c' conn' hconn'
    simp only [Function.update_apply] at hconn'
    split at hconn'
    · cases hconn'
    · exact ⟨conn', hconn', rfl, fun _ h => .inl h⟩
  unfold State.release
  dsimp only
  split
  next hcurrent => exact h.descend hdescends rfl nofun (.inr ⟨_, c, rfl, h.current c conn hconn hcurrent, rfl⟩)
  · exact h.drivers hdescends rfl

lemma Inv.moves (h : Inv s) (hconn : s.conns c = some conn) (hmoves : Moves s c conn s') : Inv s' := by
  cases hmoves with
  | advance phase _ _ _ hsealing _ => exact h.drivers (.setPhase (.of_conns rfl) hconn hsealing) rfl
  | expire after _ =>
    exact h.descend (.setPhase (.of_conns rfl) hconn nofun) rfl (fun _ hcur => hcur) (.inl rfl)
  | sealed after session sequence hphase =>
    exact h.descend (.setPhase (.of_conns rfl) hconn nofun) rfl (fun _ hcur => hcur)
      (.inr ⟨_, c, rfl, h.sealing c conn after hconn hphase, rfl⟩)
  | take slot fromSeq _ hslot hcurrent =>
    have hcur : s.isCurrent conn.generation = true := by simp [State.isCurrent, hslot, hcurrent]
    refine h.descend (.setPhase (.of_conns rfl) hconn nofun) rfl (fun generation hgeneration => ?_)
      (.inr ⟨_, c, rfl, h.current c conn hconn hcur, rfl⟩)
    simpa [State.isCurrent, hslot, State.setPhase] using hgeneration
  | poll _ =>
    refine h.drivers (.setPhase (.of_conns rfl) hconn fun after heq => ?_) rfl
    split at heq <;> cases heq
  | leave phase _ hto =>
    refine h.drivers (.setPhase (.dropNotified s c conn) hconn fun after heq => ?_) ?_
    · obtain rfl | rfl := hto <;> cases heq
    · rw [OnlyDrivers, State.setPhase, OnlyDrivers.dropNotified s c conn]
  | release _ => exact h.release hconn

lemma Inv.register (h : Inv s) {fromSeq : Option U64} (hok : Undisputed s (.register fromSeq)) :
    Inv (s.register fromSeq) := by
  -- The connection at the new number is the one that registers; the others are neither current nor sealing.
  have hconns : ∀ c conn, (s.register fromSeq).conns c = some conn →
      c = s.registered ∧ conn.phase = .snapshot fromSeq ∨ s.conns c = some conn := by
    intro c conn hconn
    simp only [State.register, Function.update_apply] at hconn
    split at hconn
    next hc => exact .inl ⟨hc, by cases hconn; rfl⟩
    · exact .inr hconn
  refine ⟨fun c conn hconn => ?_, fun c conn hconn hcur => ?_, fun c conn after hconn hphase => ?_,
    fun c hc => ?_, .inl rfl, h.exclusive⟩
  · obtain ⟨rfl, -⟩ | hold := hconns c conn hconn
    · exact Nat.lt_succ_self _
    · exact Nat.lt_succ_of_lt (h.ids c conn hold)
  · obtain ⟨rfl, -⟩ | hold := hconns c conn hconn
    · rfl
    · have heq : s.nextGeneration = conn.generation := by
        simpa [State.isCurrent, State.register] using hcur
      exact absurd heq.symm (hok c conn hold).2
  · obtain ⟨-, hsnapshot⟩ | hold := hconns c conn hconn
    · rw [hsnapshot] at hphase
      cases hphase
    · exact absurd hphase ((hok c conn hold).1 after)
  · obtain rfl : c = s.registered := Nat.succ.inj hc
    rfl

lemma Inv.step (h : Inv s) {a : Act} (hok : Undisputed s a) : Inv (s.step a) := by
  obtain ⟨fromSeq, rfl, hstep⟩ | ⟨fromSeq, rfl, hstep⟩ | hstep | ⟨c, conn, -, hconn, hmoves⟩ | hstep :=
    step_cases s a
  · exact hstep ▸ h.register hok
  · rw [hstep, State.requestResync]
    split
    · exact h
    next slot hslot =>
      have hmarked : Inv { s with slot := some { slot with resync := some (fromSeq.getD .zero) } } := by
        refine h.descend (.of_conns rfl) rfl (fun generation hcur => ?_) (.inl rfl)
        simpa [State.isCurrent, hslot] using hcur
      exact hmarked.drivers (.notifyOne _ _) (.notifyOne _ _)
  · rw [hstep]
    exact h.descend (.of_conns rfl) rfl (fun _ hcur => hcur) (.inl rfl)
  · exact h.moves hconn hmoves
  · exact hstep.symm ▸ h

lemma Moves.sealing_of_session (hmoves : Moves s c conn s') (hne : s'.session ≠ s.session) :
    ∃ after, conn.phase = .sealing after := by
  cases hmoves with
  | advance | poll | take => exact absurd rfl hne
  | expire after hphase => exact ⟨after, hphase⟩
  | sealed after _ _ hphase => exact ⟨after, hphase⟩
  | leave phase _ _ =>
    refine absurd ?_ hne
    rw [State.setPhase, OnlyDrivers.dropNotified s c conn]
  | release _ =>
    refine absurd ?_ hne
    unfold State.release
    dsimp only
    split <;> rfl

lemma Inv.newest_of_sequence (h : Inv s) {a : Act} {session session' : StreamSession}
    (hsession : s.session = some session) (hsession' : (s.step a).session = some session')
    (hne : session'.streamSequence ≠ session.streamSequence) : ∃ c, a.conn = some c ∧ newest s.log = some c := by
  have hchanged : (s.step a).session ≠ s.session := by
    rw [hsession, hsession']
    exact fun heq => hne (by rw [Option.some.inj heq])
  obtain ⟨fromSeq, rfl, hstep⟩ | ⟨fromSeq, rfl, hstep⟩ | hstep | ⟨c, conn, hc, hconn, hmoves⟩ | hstep :=
    step_cases s a
  · exact absurd (by rw [hstep]; rfl) hchanged
  · refine absurd ?_ hchanged
    rw [hstep, State.requestResync]
    split
    · rfl
    · rw [OnlyDrivers.notifyOne]
  · rw [hstep] at hsession'
    cases hsession'
  · obtain ⟨after, hphase⟩ := hmoves.sealing_of_session hchanged
    exact ⟨c, hc, h.last c (h.sealing c conn after hconn hphase)⟩
  · exact absurd (by rw [hstep]) hchanged

/-- Once a connection was superseded it seals no frame, takes no request and releases no slot: whatever a
connection did, it was the newest one when it did it, and the next step advances the stream sequence only if
it is a step of the newest connection. -/
theorem newest_connection_acts (session : Option StreamSession) (as : List Act)
    (h : hub.Meets Undisputed (State.opened session) as) :
    let s : State := hub.run (State.opened session) as
    Exclusive s.log ∧ ∀ a session session', s.session = some session → (s.step a).session = some session' →
      session'.streamSequence ≠ session.streamSequence → ∃ c, a.conn = some c ∧ newest s.log = some c := by
  have hinv : Inv (hub.run (State.opened session) as) :=
    h.invariant (P := Inv) (inv_opened session) fun s a hs hok => hs.step hok
  exact ⟨hinv.exclusive, fun a _ _ hsession hsession' hne => hinv.newest_of_sequence hsession hsession' hne⟩

namespace StreamSample

def session : StreamSession := ⟨.clamp 1000, .zero, none⟩

def settle (c : ℕ) : List Act :=
  [.snapshotFor c .frame, .isCurrent c, .sealFrame c (some .zero) true, .sent c true, .takeResync c, .poll c]

/-- A connection waits while a second one takes over, which then serves a resync request. -/
def handover : List Act :=
  [.register none] ++ settle 0 ++ [.register none, .snapshotFor 1 .frame, .isCurrent 1,
    .sealFrame 1 (some .zero) true, .sent 1 true, .requestResync none, .takeResync 1, .stop 0, .release 0]

end StreamSample

open StreamSample in
theorem handover_newest_acts :
    let s : State := hub.run (State.opened (some session)) handover
    s.log = [.took 1 .zero, .sealed 1 (.lit 1), .registered 1, .sealed 0 .zero, .registered 0] ∧
      Exclusive s.log := by
  have hmeets : hub.Meets Undisputed (State.opened (some session)) handover := by
    refine ⟨nofun, trivial, trivial, trivial, trivial, trivial, trivial, fun c conn hconn => ?_, trivial, trivial,
      trivial, trivial, trivial, trivial, trivial, trivial, trivial⟩
    match c, hconn with
    | 0, hconn =>
      obtain rfl : (⟨1, 0, .waiting⟩ : Conn) = conn := Option.some.inj hconn
      exact ⟨nofun, by decide⟩
    | c + 1, hconn => cases hconn
  exact ⟨by decide +kernel, (newest_connection_acts _ _ hmeets).1⟩

open StreamSample in
/-- A connection that has passed `is_current` seals after it was superseded; and a connection that was
superseded long ago takes the request and releases the slot of the third, which got its generation again. -/
theorem superseded_connection_acts :
    let raced : State := hub.run (State.opened (some session))
      [.register none, .snapshotFor 0 .frame, .isCurrent 0, .register none, .sealFrame 0 (some .zero) true]
    let reused : State := hub.run (State.opened (some session))
      ([.register none] ++ settle 0 ++ [.register none, .stop 1, .release 1, .register none, .nextDelta 0,
        .isCurrent 0, .sealFrame 0 (some .zero) true, .sent 0 true, .requestResync none, .takeResync 0, .stop 0,
        .release 0])
    (raced.log = [.sealed 0 .zero, .registered 1, .registered 0] ∧ ¬Exclusive raced.log) ∧
      reused.log = [.released 0, .took 0 .zero, .sealed 0 (.lit 1), .registered 2, .released 1, .registered 1,
        .sealed 0 .zero, .registered 0] ∧ ¬Exclusive reused.log := by
  decide +kernel

/-! ### Resync requests and waiting drivers -/

def State.waitingOn (s : State) (id : ℕ) : Set ℕ :=
  {c | ∃ conn, s.conns c = some conn ∧ conn.notify = id ∧ conn.phase = .waiting}

/-- A resync is requested only when every connection whose driver still runs on the slot's notification
object is the newest one. -/
def Unshared (s : State) : Act → Prop
  | .requestResync _ => ∀ slot c conn, s.slot = some slot → s.conns c = some conn → conn.notify = slot.notify →
      conn.phase ≠ .ending → c + 1 = s.registered
  | _ => True

/-- A driver that sees a pending request without being woken: its connection is the newest of so many, and it
does not wait on its notification object and is not about to. -/
structure Attentive (registered : ℕ) (notify : Notify ℕ) (c : ℕ) (phase : Phase) : Prop where
  newest : c + 1 = registered
  awake : phase ≠ .waiting
  permit : phase = .selecting → notify.permit = true

/-- The queues hold the drivers that wait, the slot is that of the newest connection, and only that one runs
on the notification object of a slot with a pending request. -/
structure Ready (s : State) : Prop where
  ids : ∀ c conn, s.conns c = some conn → c < s.registered
  slot : ∀ slot, s.slot = some slot → ∃ c conn, c + 1 = s.registered ∧ s.conns c = some conn ∧
    conn.generation = slot.generation ∧ conn.notify = slot.notify
  queues : ∀ id, (s.notifies id).Queues (s.waitingOn id)
  pending : ∀ slot, s.slot = some slot → slot.resync ≠ none → ∀ c conn, s.conns c = some conn →
    conn.notify = slot.notify → conn.phase ≠ .ending → Attentive s.registered (s.notifies slot.notify) c conn.phase

lemma ready_opened (session : Option StreamSession) : Ready (.opened session) where
  ids := nofun
  slot := nofun
  queues id := by
    have hempty : (State.opened session).waitingOn id = ∅ := by simp [State.waitingOn, State.opened]
    exact hempty ▸ Notify.queues_new
  pending := nofun

lemma Ready.of_session (h : Ready s) (session : Option StreamSession) (log : List Event) :
    Ready { s with session := session, log := log } :=
  ⟨h.ids, h.slot, h.queues, h.pending⟩

lemma waitingOn_setPhase (hconn : s.conns c = some conn) (phase : Phase) (id : ℕ) :
    (s.setPhase c conn phase).waitingOn id =
      if conn.notify = id ∧ phase = .waiting then insert c (s.waitingOn id) else s.waitingOn id \ {c} := by
  ext c'
  by_cases hc : c' = c
  · subst hc
    split_ifs with hwaits <;> simp [State.waitingOn, State.setPhase, hwaits]
  · have hsame : c' ∈ (s.setPhase c conn phase).waitingOn id ↔ c' ∈ s.waitingOn id := by
      simp [State.waitingOn, State.setPhase, hc]
    split_ifs <;> simp [hsame, hc]

lemma waitingOn_sdiff (hconn : s.conns c = some conn) {id : ℕ} (h : conn.notify ≠ id ∨ conn.phase ≠ .waiting) :
    s.waitingOn id \ {c} = s.waitingOn id := by
  refine Set.sdiff_singleton_eq_self ?_
  rintro ⟨conn', hconn', hnotify, hphase⟩
  cases hconn.symm.trans hconn'
  obtain h | h := h
  · exact h hnotify
  · exact h hphase

lemma Ready.drive (h : Ready s) (hconn : s.conns c = some conn) {phase : Phase} {notify : Notify ℕ}
    (hqueues : notify.Queues (if phase = .waiting then insert c (s.waitingOn conn.notify)
      else s.waitingOn conn.notify \ {c}))
    (hlive : conn.phase ≠ .ending)
    (hattentive : ∀ slot, s.slot = some slot → slot.resync ≠ none → conn.notify = slot.notify →
      Attentive s.registered (s.notifies slot.notify) c conn.phase → Attentive s.registered notify c phase) :
    Ready ((s.setNotify conn.notify notify).setPhase c conn phase) where
  ids c' conn' hconn' := by
    obtain ⟨rfl, -⟩ | ⟨-, hold⟩ := conns_setPhase hconn'
    · exact h.ids _ conn hconn
    · exact h.ids c' conn' hold
  slot slot hslot := by
    obtain ⟨c', conn', hnewest, hconn', hgeneration, hnotify⟩ := h.slot slot hslot
    by_cases hc : c' = c
    · subst hc
      cases hconn.symm.trans hconn'
      exact ⟨c', _, hnewest, Function.update_self .., hgeneration, hnotify⟩
    · exact ⟨c', conn', hnewest, (Function.update_of_ne hc ..).trans hconn', hgeneration, hnotify⟩
  queues id := by
    rw [waitingOn_setPhase (s := s.setNotify conn.notify notify) hconn]
    by_cases hid : id = conn.notify
    · subst hid
      simpa [State.setPhase, State.setNotify, State.waitingOn] using hqueues
    · rw [if_neg fun h => hid h.1.symm, waitingOn_sdiff (s := s.setNotify _ _) hconn (.inl (Ne.symm hid))]
      simpa [State.setPhase, State.setNotify, State.waitingOn, hid] using h.queues id
  pending slot hslot hresync c' conn' hconn' hnotify hlive' := by
    obtain ⟨rfl, rfl⟩ | ⟨hc, hold⟩ := conns_setPhase hconn'
    · have hbefore := h.pending slot hslot hresync c' conn hconn hnotify hlive
      have hnotifies : ((s.setNotify conn.notify notify).setPhase c' conn phase).notifies slot.notify = notify := by
        rw [← hnotify]
        exact Function.update_self ..
      rw [hnotifies]
      exact hattentive slot hslot hresync hnotify hbefore
    · have hbefore := h.pending slot hslot hresync c' conn' hold hnotify hlive'
      have hother : slot.notify ≠ conn.notify := by
        intro heq
        have hc' := (h.pending slot hslot hresync c conn hconn heq.symm hlive).newest
        exact hc (Nat.succ.inj (hbefore.newest.trans hc'.symm))
      have hnotifies : ((s.setNotify conn.notify notify).setPhase c conn phase).notifies slot.notify =
          s.notifies slot.notify := Function.update_of_ne hother ..
      rw [hnotifies]
      exact hbefore

lemma Ready.pendingResync (h : Ready s) (hconn : s.conns c = some conn) (hnewest : c + 1 = s.registered)
    {slot : Slot} (hslot : s.slot = some slot) : s.pendingResync conn.generation = slot.resync := by
  obtain ⟨c', conn', hnewest', hconn', hgeneration, -⟩ := h.slot slot hslot
  obtain rfl : c' = c := Nat.succ.inj (hnewest'.trans hnewest.symm)
  cases hconn.symm.trans hconn'
  simp [State.pendingResync, hslot, hgeneration]

lemma Ready.advance (h : Ready s) (hconn : s.conns c = some conn) {phase : Phase} (hfrom : conn.phase ≠ .waiting)
    (hlive : conn.phase ≠ .ending) (hto : phase ≠ .waiting)
    (hselecting : phase = .selecting → s.pendingResync conn.generation = none) : Ready (s.setPhase c conn phase) := by
  have hsame : s.setNotify conn.notify (s.notifies conn.notify) = s := by
    rw [State.setNotify, Function.update_eq_self]
  rw [← hsame]
  refine h.drive hconn ?_ hlive fun slot hslot hresync _ hbefore => ⟨hbefore.newest, hto, fun heq => ?_⟩
  · rw [if_neg hto, waitingOn_sdiff hconn (.inr hfrom)]
    exact h.queues _
  · -- The newest driver does not come to select past a pending request.
    exact absurd ((h.pendingResync hconn hbefore.newest hslot).symm.trans (hselecting heq)) hresync

lemma Ready.poll (h : Ready s) (hconn : s.conns c = some conn) (hphase : conn.phase = .selecting) :
    Ready (s.poll c conn) := by
  have hout : c ∉ s.waitingOn conn.notify := by
    rintro ⟨conn', hconn', -, hwaiting⟩
    cases hconn.symm.trans hconn'
    rw [hphase] at hwaiting
    cases hwaiting
  have hlive : conn.phase ≠ .ending := by simp [hphase]
  unfold State.poll
  dsimp only
  obtain ⟨-, htaken, hqueues⟩ | ⟨hpermit, htaken, hqueues⟩ := (h.queues conn.notify).poll hout
  · rw [htaken]
    refine h.drive hconn ?_ hlive fun _ _ _ _ hbefore => ⟨hbefore.newest, nofun, nofun⟩
    rwa [if_neg (by simp), Set.sdiff_singleton_eq_self hout]
  · rw [htaken]
    refine h.drive hconn hqueues hlive fun slot _ _ hnotify hbefore => ?_
    -- A driver that a pending request is for finds the permit.
    have hstored := hbefore.permit hphase
    rw [← hnotify, hpermit] at hstored
    cases hstored

/-- What `notify_one` does: it wakes a driver that waits, or stores the permit because none does. -/
lemma notifyOne_spec {id : ℕ} (h : (s.notifies id).Queues (s.waitingOn id)) :
    (∃ w conn notify, s.conns w = some conn ∧ conn.notify = id ∧ conn.phase = .waiting ∧
      notify.Queues (s.waitingOn id \ {w}) ∧
      s.notifyOne id = (s.setNotify id notify).setPhase w conn .notified) ∨
    ∃ notify, s.waitingOn id = ∅ ∧ notify.permit = true ∧ notify.Queues (s.waitingOn id) ∧
      s.notifyOne id = s.setNotify id notify := by
  obtain ⟨w, ⟨conn, hconn, hid, hwaiting⟩, hwoken, -, hqueues⟩ | ⟨hempty, hnone, hpermit, hqueues⟩ := h.notifyOne
  · refine .inl ⟨w, conn, _, hconn, hid, hwaiting, hqueues, ?_⟩
    simp only [State.notifyOne, hwoken, Option.bind_some, hconn, Option.map_some]
  · refine .inr ⟨_, hempty, hpermit, hqueues, ?_⟩
    simp only [State.notifyOne, hnone, Option.bind_none]

lemma Ready.notifyOne (h : Ready s) (id : ℕ) : Ready (s.notifyOne id) := by
  obtain ⟨w, conn, notify, hconn, rfl, hwaiting, hqueues, heq⟩ | ⟨notify, hempty, hpermit, hqueues, heq⟩ :=
    notifyOne_spec (h.queues id)
  · rw [heq]
    exact h.drive hconn (by rwa [if_neg (by simp)]) (by simp [hwaiting]) fun _ _ _ _ hbefore =>
      ⟨hbefore.newest, nofun, nofun⟩
  · rw [heq]
    refine ⟨h.ids, h.slot, fun id' => ?_, fun slot hslot hresync c conn hconn hnotify hlive => ?_⟩
    · by_cases hid : id' = id
      · subst hid
        simpa [State.setNotify, State.waitingOn] using hqueues
      · simpa [State.setNotify, State.waitingOn, hid] using h.queues id'
    · obtain ⟨hnewest, hawake, hbefore⟩ := h.pending slot hslot hresync c conn hconn hnotify hlive
      refine ⟨hnewest, hawake, fun hselecting => ?_⟩
      by_cases hid : slot.notify = id
      · simpa [State.setNotify, hid] using hpermit
      · simpa [State.setNotify, hid] using hbefore hselecting

/-- A driver that was woken is not in the queue, so passing its notification on leaves it as it is. -/
lemma conns_notifyOne (h : Ready s) (hconn : s.conns c = some conn) (hphase : conn.phase ≠ .waiting) (id : ℕ) :
    (s.notifyOne id).conns c = some conn := by
  obtain ⟨w, conn', notify, hconn', -, hwaiting, -, heq⟩ | ⟨notify, -, -, -, heq⟩ := notifyOne_spec (h.queues id)
  · have hne : c ≠ w := by
      rintro rfl
      cases hconn.symm.trans hconn'
      exact hphase hwaiting
    rw [heq]
    exact (Function.update_of_ne hne ..).trans hconn
  · rw [heq]
    exact hconn

lemma Ready.leave (h : Ready s) (hconn : s.conns c = some conn)
    (hphase : conn.phase = .waiting ∨ conn.phase = .notified) {phase : Phase}
    (hto : phase = .ending ∨ phase = .checking .loop) :
    Ready ((s.dropNotified c conn).setPhase c conn phase) := by
  have hwaiting : phase ≠ .waiting := by obtain rfl | rfl := hto <;> nofun
  have hselecting : phase ≠ .selecting := by obtain rfl | rfl := hto <;> nofun
  obtain hphase | hphase := hphase
  · rw [State.dropNotified, hphase]
    refine h.drive hconn ?_ (by simp [hphase]) fun _ _ _ _ hbefore =>
      ⟨hbefore.newest, hwaiting, fun heq => absurd heq hselecting⟩
    rw [if_neg hwaiting]
    exact (h.queues conn.notify).forget c
  · have hwoken : conn.phase ≠ .waiting := by simp [hphase]
    rw [State.dropNotified, hphase]
    exact (h.notifyOne conn.notify).advance (conns_notifyOne h hconn hwoken _) hwoken (by simp [hphase]) hwaiting
      fun heq => absurd heq hselecting

lemma conns_forget {c' : ℕ} {conn' : Conn} (h : Function.update s.conns c none c' = some conn') :
    c' ≠ c ∧ s.conns c' = some conn' := by
  by_cases hc : c' = c
  · subst hc
    simp at h
  · exact ⟨hc, (Function.update_of_ne hc ..).symm.trans h⟩

lemma Ready.release (h : Ready s) (hconn : s.conns c = some conn) (hphase : conn.phase = .ending) :
    Ready (s.release c conn) := by
  have hids : ∀ c' conn', Function.update s.conns c none c' = some conn' → c' < s.registered :=
    fun c' conn' hconn' => h.ids c' conn' (conns_forget hconn').2
  have hqueues (id : ℕ) :
      (s.notifies id).Queues (({ s with conns := Function.update s.conns c none } : State).waitingOn id) := by
    have hsame : ({ s with conns := Function.update s.conns c none } : State).waitingOn id = s.waitingOn id \ {c} := by
      ext c'
      by_cases hc : c' = c <;> simp [State.waitingOn, hc]
    rw [hsame, waitingOn_sdiff hconn (.inr (by simp [hphase]))]
    exact h.queues id
  unfold State.release
  dsimp only
  split
  · exact ⟨hids, nofun, hqueues, nofun⟩
  next hstale =>
    refine ⟨hids, fun slot hslot => ?_, hqueues, fun slot hslot hresync c' conn' hconn' hnotify hlive => ?_⟩
    · obtain ⟨c', conn', hnewest, hconn', hgeneration, hnotify⟩ := h.slot slot hslot
      have hne : c' ≠ c := by
        rintro rfl
        cases hconn.symm.trans hconn'
        have hslot' : s.slot = some slot := hslot
        simp [State.isCurrent, hslot', hgeneration] at hstale
      exact ⟨c', conn', hnewest, (Function.update_of_ne hne ..).trans hconn', hgeneration, hnotify⟩
    · exact h.pending slot hslot hresync c' conn' (conns_forget hconn').2 hnotify hlive

lemma Ready.moves (h : Ready s) (hconn : s.conns c = some conn) (hmoves : Moves s c conn s') : Ready s' := by
  cases hmoves with
  | advance phase hfrom hlive hto _ hselecting => exact h.advance hconn hfrom hlive hto hselecting
  | expire after hphase =>
    exact (h.of_session none s.log).advance hconn (by simp [hphase]) (by simp [hphase]) nofun nofun
  | sealed after session sequence hphase =>
    exact (h.of_session (some session) (.sealed c sequence :: s.log)).advance hconn (by simp [hphase])
      (by simp [hphase]) nofun nofun
  | take slot fromSeq hphase hslot _ =>
    have hcleared : Ready { s with slot := some { slot with resync := none }, log := .took c fromSeq :: s.log } := by
      refine ⟨h.ids, fun slot' hslot' => ?_, h.queues, fun slot' hslot' hresync => ?_⟩
      · cases hslot'
        exact h.slot slot hslot
      · cases hslot'
        exact absurd rfl hresync
    exact hcleared.advance hconn (by simp [hphase]) (by simp [hphase]) nofun nofun
  | poll hphase => exact h.poll hconn hphase
  | leave phase hphase hto => exact h.leave hconn hphase hto
  | release hphase => exact h.release hconn hphase

lemma Ready.register (h : Ready s) (fromSeq : Option U64) : Ready (s.register fromSeq) where
  ids c conn hconn := by
    simp only [State.register, Function.update_apply] at hconn
    split at hconn
    next hc => exact hc ▸ Nat.lt_succ_self _
    · exact Nat.lt_succ_of_lt (h.ids c conn hconn)
  slot slot hslot := by
    cases hslot
    exact ⟨s.registered, _, rfl, Function.update_self .., rfl, rfl⟩
  queues id := by
    have hsame : (s.register fromSeq).waitingOn id = s.waitingOn id := by
      ext c
      by_cases hc : c = s.registered
      · subst hc
        have hnew : s.registered ∉ s.waitingOn id := fun ⟨conn, hconn, _⟩ => (h.ids _ conn hconn).false
        refine iff_of_false (fun hwaits => ?_) hnew
        simp [State.waitingOn, State.register] at hwaits
      · simp [State.waitingOn, State.register, hc]
    rw [hsame]
    exact h.queues id
  pending slot hslot hresync := by
    cases hslot
    exact absurd rfl hresync

lemma attentive_of_notifyOne (h : Ready s) {id : ℕ}
    (halone : ∀ c conn, s.conns c = some conn → conn.notify = id → conn.phase ≠ .ending → c + 1 = s.registered)
    (hconn : (s.notifyOne id).conns c = some conn) (hnotify : conn.notify = id) (hlive : conn.phase ≠ .ending) :
    Attentive s.registered ((s.notifyOne id).notifies id) c conn.phase := by
  obtain ⟨w, woken, notify, hwoken, hid, hwaiting, -, heq⟩ | ⟨notify, hempty, hpermit, -, heq⟩ :=
    notifyOne_spec (h.queues id)
  · have hnewest := halone w woken hwoken hid (by simp [hwaiting])
    rw [heq] at hconn
    obtain ⟨rfl, rfl⟩ | ⟨hne, hold⟩ := conns_setPhase hconn
    · exact ⟨hnewest, nofun, nofun⟩
    · have hnewest' := halone c conn hold hnotify hlive
      exact absurd (Nat.succ.inj (hnewest'.trans hnewest.symm)) hne
  · rw [heq] at hconn ⊢
    refine ⟨halone c conn hconn hnotify hlive, fun hwaiting => ?_, fun _ => ?_⟩
    · have hmem : c ∈ s.waitingOn id := ⟨conn, hconn, hnotify, hwaiting⟩
      rw [hempty] at hmem
      exact hmem
    · simpa [State.setNotify] using hpermit

lemma Ready.requestResync (h : Ready s) {fromSeq : Option U64} (hok : Unshared s (.requestResync fromSeq)) :
    Ready (s.requestResync fromSeq) := by
  unfold State.requestResync
  split
  · exact h
  next slot hslot =>
    -- The notification does not look at the slot, so the request may as well be marked after it.
    have hmarked : ({ s with slot := some { slot with resync := some (fromSeq.getD .zero) } } : State).notifyOne
        slot.notify =
        { s.notifyOne slot.notify with slot := some { slot with resync := some (fromSeq.getD .zero) } } := by
      unfold State.notifyOne
      dsimp only
      split <;> rfl
    have hdrivers := OnlyDrivers.notifyOne s slot.notify
    have hregistered : (s.notifyOne slot.notify).registered = s.registered := by rw [hdrivers]
    have hnotified := h.notifyOne slot.notify
    rw [hmarked]
    refine ⟨hnotified.ids, fun slot' hslot' => ?_, hnotified.queues,
      fun slot' hslot' _ c conn hconn hnotify hlive => ?_⟩
    · cases hslot'
      exact hnotified.slot slot (by rw [hdrivers]; exact hslot)
    · cases hslot'
      have hattentive := attentive_of_notifyOne h (fun c conn => hok slot c conn hslot) hconn hnotify hlive
      rwa [← hregistered] at hattentive

lemma Ready.step (h : Ready s) {a : Act} (hok : Unshared s a) : Ready (s.step a) := by
  obtain ⟨fromSeq, rfl, hstep⟩ | ⟨fromSeq, rfl, hstep⟩ | hstep | ⟨c, conn, -, hconn, hmoves⟩ | hstep :=
    step_cases s a
  · exact hstep ▸ h.register fromSeq
  · exact hstep ▸ h.requestResync hok
  · exact hstep ▸ h.of_session none s.log
  · exact h.moves hconn hmoves
  · exact hstep.symm ▸ h

/-- While a resync request is pending, the newest connection is live and its driver does not wait. -/
theorem pending_resync_not_blocked (session : Option StreamSession) (as : List Act)
    (h : hub.Meets Unshared (State.opened session) as) :
    let s : State := hub.run (State.opened session) as
    ∀ slot, s.slot = some slot → slot.resync ≠ none →
      ∃ c conn, c + 1 = s.registered ∧ s.conns c = some conn ∧ conn.phase ≠ .waiting := by
  intro s slot hslot hresync
  have hready : Ready s := h.invariant (P := Ready) (ready_opened session) fun s a hs hok => hs.step hok
  obtain ⟨c, conn, hnewest, hconn, -, hnotify⟩ := hready.slot slot hslot
  refine ⟨c, conn, hnewest, hconn, fun hwaiting => ?_⟩
  exact (hready.pending slot hslot hresync c conn hconn hnotify (by simp [hwaiting])).awake hwaiting

open StreamSample in
/-- The driver of a superseded connection has ended when a resync is requested, and the newest is woken. -/
theorem settled_connection_notified :
    let acts : List Act := [.register none] ++ settle 0 ++ [.register none] ++ settle 1 ++
      [.stop 0, .requestResync none]
    let s : State := hub.run (State.opened (some session)) acts
    s.slot = some ⟨2, some .zero, 0⟩ ∧
      ∃ c conn, c + 1 = s.registered ∧ s.conns c = some conn ∧ conn.phase ≠ .waiting := by
  intro acts s
  have hmeets : hub.Meets Unshared (State.opened (some session)) acts := by
    refine ⟨trivial, trivial, trivial, trivial, trivial, trivial, trivial, trivial, trivial, trivial, trivial,
      trivial, trivial, trivial, trivial, fun slot c conn _ hconn _ hphase => ?_, trivial⟩
    match c, hconn with
    | 0, hconn =>
      obtain rfl : (⟨1, 0, .ending⟩ : Conn) = conn := Option.some.inj hconn
      exact absurd rfl hphase
    | 1, _ => rfl
    | c + 2, hconn => cases hconn
  exact ⟨by decide +kernel, pending_resync_not_blocked _ _ hmeets _ rfl (by decide)⟩

open StreamSample in
/-- Two drivers wait on one notification object: the request wakes the superseded one, which finds no request
of its generation and waits again, so that the one it is for waits on. -/
theorem resync_wakes_superseded :
    let requested : State := hub.run (State.opened (some session))
      ([.register none] ++ settle 0 ++ [.register none] ++ settle 1 ++ [.requestResync none])
    let s : State := hub.run requested [.wake 0, .takeResync 0, .poll 0]
    requested.slot = some ⟨2, some .zero, 0⟩ ∧ requested.registered = 2 ∧
      requested.conns 1 = some ⟨2, 0, .waiting⟩ ∧ requested.conns 0 = some ⟨1, 0, .notified⟩ ∧
      s.slot = requested.slot ∧ s.conns 1 = requested.conns 1 ∧ s.conns 0 = some ⟨1, 0, .waiting⟩ ∧
      (s.notifies 0).permit = false := by
  decide +kernel

end PrivateExecution.Session.Stream
