import PrivateExecution.Async.Machine
import Mathlib.Data.Set.Function
import Mathlib.Data.List.Nodup

/-!
# The realtime target coordinator

`web/workspace-payload/src/realtime/target-coordinator.ts` with `canSend` always true. Targets are
normalized ones; the displayed state is left out. A completion does not look at the desired target again:
a failed attempt waits for the next `sync`, and a command that was overtaken by a switch back to the bound
target binds its own (`switch_back_unbound`). Main result: `coordinator_settled`, for runs in which such a
completion is followed by another call.
-/

namespace PrivateExecution.Target

structure RealtimeTarget where
  chain : String
  address : String
  timeframe : String
deriving DecidableEq

def realtimeTargetKey (t : RealtimeTarget) : String := t.chain ++ "\x00" ++ t.address ++ "\x00" ++ t.timeframe

def maxTargetAttempts : ℕ := 2

/-- How a command settles; an error has the code of its workspace error. -/
inductive Outcome where
  | success | cancelled | failed (code : String)
deriving DecidableEq

def Outcome.determinate (o : Outcome) : Prop :=
  o = .failed "capability_missing" ∨ o = .failed "auth" ∨ o = .failed "protocol"

instance (o : Outcome) : Decidable o.determinate := inferInstanceAs (Decidable (_ ∨ _))

/-- A command that has not settled yet, with what its callbacks have captured. -/
structure Command where
  token : ℕ
  target : RealtimeTarget
  aborted : Bool

/-- The variables of the coordinator. The abort controller is named by the token of its command. The last
three fields are the commands and how those that settled did. -/
structure Coordinator where
  desired : Option RealtimeTarget
  pendingKey : Option String
  boundKey : Option String
  inFlight : Option ℕ
  attemptsKey : Option String
  attempts : ℕ
  generation : ℕ
  sent : List Command
  /-- The target of the last command that succeeded. -/
  succeeded : Option RealtimeTarget
  /-- The targets that were determinately rejected. -/
  rejected : List RealtimeTarget

namespace Coordinator

def fresh : Coordinator := ⟨none, none, none, none, none, 0, 0, [], none, []⟩

variable (s : Coordinator)

def abort : Coordinator :=
  { s with sent := s.sent.map fun c => if s.inFlight = some c.token then { c with aborted := true } else c }

def send (target : RealtimeTarget) : Coordinator :=
  let key := realtimeTargetKey target
  { s.abort with
    inFlight := some (s.generation + 1), pendingKey := some key, generation := s.generation + 1
    attemptsKey := some key, attempts := if s.attemptsKey = some key then s.attempts + 1 else 1
    sent := ⟨s.generation + 1, target, false⟩ :: s.abort.sent }

def due : Option RealtimeTarget :=
  s.desired.filter fun t => some (realtimeTargetKey t) ≠ s.boundKey ∧ some (realtimeTargetKey t) ≠ s.pendingKey ∧
    ¬(s.attemptsKey = some (realtimeTargetKey t) ∧ maxTargetAttempts ≤ s.attempts)

def pump : Coordinator := s.due.elim s s.send

def reset : Coordinator :=
  { s.abort with
    desired := none, generation := s.generation + 1, inFlight := none, pendingKey := none, boundKey := none
    attemptsKey := none, attempts := 0 }

/-- Selecting the desired target again does the same as selecting another one. -/
def setDesired : Option RealtimeTarget → Coordinator
  | none => s.reset
  | some t => pump { s with desired := some t }

lemma due_eq_none {s : Coordinator} : s.due = none ↔ ∀ t, s.desired = some t →
    some (realtimeTargetKey t) = s.boundKey ∨ some (realtimeTargetKey t) = s.pendingKey ∨
      s.attemptsKey = some (realtimeTargetKey t) ∧ maxTargetAttempts ≤ s.attempts := by
  unfold due
  rw [Option.filter_eq_none_iff]
  refine forall₂_congr fun t _ => ?_
  rw [decide_eq_true_iff]
  tauto

/-- After `pump` nothing is due: what was is pending. -/
lemma pump_due : s.pump.due = none := by
  unfold pump
  cases hdue : s.due with
  | none => exact hdue
  | some t =>
    refine due_eq_none.2 fun u hu => .inr (.inl ?_)
    have ht : s.desired = some t := Option.eq_some_of_filter_eq_some hdue
    obtain rfl := Option.some.inj (ht.symm.trans hu)
    rfl

def Current (c : Command) : Prop :=
  c.token = s.generation ∧ s.pendingKey = some (realtimeTargetKey c.target)

instance (c : Command) : Decidable (s.Current c) := inferInstanceAs (Decidable (_ ∧ _))

/-- The callbacks of a command, which do nothing unless it is the current one. -/
def settle (c : Command) (o : Outcome) : Coordinator :=
  if s.Current c then
    { s with
      inFlight := none, pendingKey := none
      boundKey := if o = .success ∨ o.determinate then some (realtimeTargetKey c.target) else s.boundKey }
  else s

def complete (token : ℕ) (o : Outcome) : Coordinator :=
  (s.sent.find? (·.token = token)).elim s fun c =>
    { s.settle c o with
      sent := s.sent.filter (·.token ≠ token)
      succeeded := if o = .success then some c.target else s.succeeded
      rejected := if o.determinate then c.target :: s.rejected else s.rejected }

end Coordinator

inductive Act where
  | setDesired (next : Option RealtimeTarget) | sync | reset | complete (token : ℕ) (o : Outcome)

open Coordinator

abbrev coordinator : Async.Machine Act fun _ => Unit where
  State := Coordinator
  step s
    | .setDesired next => ((), s.setDesired next)
    | .sync => ((), s.pump)
    | .reset => ((), s.reset)
    | .complete token o => ((), s.complete token o)

/-- A command that was superseded does not succeed any more once a target is bound. -/
def InTurn (s : Coordinator) : Act → Prop
  | .complete token .success => ∀ c ∈ s.sent, c.token = token → s.Current c ∨ s.boundKey = none
  | _ => True

def Act.isCall : Act → Bool
  | .complete .. => false
  | _ => true

/-- The last command settles without a decision on the desired target: it binds or rejects another one, or
it fails and could be tried again. -/
def Undecided (s : Coordinator) (token : ℕ) (o : Outcome) : Prop :=
  ∃ c ∈ s.sent, c.token = token ∧ c.aborted = false ∧
    if o = .success ∨ o.determinate then s.desired ≠ some c.target
    else s.desired = some c.target ∧ s.attempts < maxTargetAttempts

instance {s : Coordinator} {token : ℕ} {o : Outcome} : Decidable (Undecided s token o) := List.decidableBEx ..

/-- After such a completion the coordinator is called once more. -/
def Attended : Coordinator → List Act → Prop
  | _, [] => True
  | s, .complete token o :: acts =>
    (Undecided s token o → ∃ a ∈ acts, a.isCall = true) ∧ Attended (s.complete token o) acts
  | s, a :: acts => Attended (coordinator.step s a).2 acts

/-- At rest the desired target is the one that was bound last, was rejected or has no attempts left. -/
def Settled (s : Coordinator) : Prop :=
  s.inFlight = none → ∀ t, s.desired = some t → s.succeeded = some t ∨ t ∈ s.rejected ∨
    s.attemptsKey = some (realtimeTargetKey t) ∧ maxTargetAttempts ≤ s.attempts

/-- The invariant of runs over the targets `T`. -/
structure Inv (T : Set RealtimeTarget) (s : Coordinator) : Prop where
  desired : ∀ t, s.desired = some t → t ∈ T
  bound : ∀ k, s.boundKey = some k → ∃ t ∈ T, realtimeTargetKey t = k ∧ (s.succeeded = some t ∨ t ∈ s.rejected)
  pending : s.inFlight = none → s.pendingKey = none
  flying : ∀ n, s.inFlight = some n → n = s.generation
  tokens : (s.sent.map Command.token).Nodup
  sent : ∀ c ∈ s.sent, c.token ≤ s.generation ∧ c.target ∈ T
  live : ∀ c ∈ s.sent, c.aborted = false → s.inFlight = some c.token
  current : ∀ c ∈ s.sent, s.Current c → c.aborted = false
  attempted : ∀ k, s.pendingKey = some k → s.attemptsKey = some k

variable {T : Set RealtimeTarget} {s : Coordinator} {t : RealtimeTarget}

lemma inv_fresh : Inv T fresh := by
  constructor <;> simp [fresh]

lemma map_token_abort (s : Coordinator) : s.abort.sent.map Command.token = s.sent.map Command.token := by
  rw [abort, List.map_map]
  refine List.map_congr_left fun c _ => ?_
  rw [Function.comp_apply]
  split_ifs <;> rfl

section

variable (h : Inv T s)

include h

lemma Inv.of_mem_abort {c : Command} (hc : c ∈ s.abort.sent) :
    c.token ≤ s.generation ∧ c.target ∈ T ∧ c.aborted = true := by
  obtain ⟨d, hd, rfl⟩ := List.mem_map.1 hc
  obtain ⟨htoken, htarget⟩ := h.sent d hd
  split_ifs with hfly
  · exact ⟨htoken, htarget, rfl⟩
  · exact ⟨htoken, htarget, Bool.of_not_eq_false fun hlive => hfly (h.live d hd hlive)⟩

lemma Inv.send (ht : t ∈ T) : Inv T (s.send t) where
  desired := h.desired
  bound := h.bound
  pending := nofun
  flying := by rintro _ ⟨⟩; rfl
  tokens := by
    refine List.nodup_cons.2 ⟨fun hmem => ?_, map_token_abort s ▸ h.tokens⟩
    obtain ⟨c, hc, heq⟩ := List.mem_map.1 hmem
    have hle := (h.of_mem_abort hc).1
    rw [heq] at hle
    exact absurd hle (Nat.not_succ_le_self _)
  sent := by
    rintro c (_ | ⟨_, hc⟩)
    · exact ⟨le_rfl, ht⟩
    · obtain ⟨htoken, htarget, -⟩ := h.of_mem_abort hc
      exact ⟨htoken.trans (Nat.le_succ _), htarget⟩
  live := by
    rintro c (_ | ⟨_, hc⟩) hlive
    · rfl
    · rw [(h.of_mem_abort hc).2.2] at hlive
      cases hlive
  current := by
    rintro c (_ | ⟨_, hc⟩) hcur
    · rfl
    · have hle := (h.of_mem_abort hc).1
      rw [hcur.1] at hle
      exact absurd hle (Nat.not_succ_le_self _)
  attempted _ hk := hk

lemma Inv.pump : Inv T s.pump := by
  unfold Coordinator.pump
  cases hdue : s.due with
  | none => exact h
  | some t => exact h.send (h.desired t (Option.eq_some_of_filter_eq_some hdue))

lemma Inv.reset : Inv T s.reset where
  desired := nofun
  bound := nofun
  pending _ := rfl
  flying := nofun
  tokens := map_token_abort s ▸ h.tokens
  sent c hc := ⟨(h.of_mem_abort hc).1.trans (Nat.le_succ _), (h.of_mem_abort hc).2.1⟩
  live c hc hlive := by
    rw [(h.of_mem_abort hc).2.2] at hlive
    cases hlive
  current := by rintro c - ⟨-, ⟨⟩⟩
  attempted := nofun

lemma Inv.complete {token : ℕ} {o : Outcome} (hturn : InTurn s (.complete token o)) :
    Inv T (s.complete token o) := by
  unfold Coordinator.complete
  cases hfind : s.sent.find? (·.token = token) with
  | none => exact h
  | some c =>
    have hc := List.mem_of_find?_eq_some hfind
    obtain rfl : c.token = token := by simpa using List.find?_some hfind
    have hrest : ∀ d ∈ s.sent.filter (·.token ≠ c.token), d ∈ s.sent ∧ d.token ≠ c.token := fun d hd => by
      simpa using hd
    have htokens := h.tokens.sublist (List.filter_sublist (p := (·.token ≠ c.token)).map Command.token)
    have hsent := fun d hd => h.sent d (hrest d hd).1
    rw [Option.elim_some]
    by_cases hcur : s.Current c
    · rw [settle, if_pos hcur]
      refine ⟨h.desired, fun k hk => ?_, fun _ => rfl, nofun, htokens, hsent, fun d hd hlive => ?_,
        by rintro d - ⟨-, ⟨⟩⟩, nofun⟩
      · dsimp only at hk ⊢
        split_ifs at hk with hbinds
        · cases hk
          refine ⟨c.target, (h.sent c hc).2, rfl, ?_⟩
          obtain rfl | hdet := hbinds
          · exact .inl (if_pos rfl)
          · rw [if_pos hdet]
            exact .inr List.mem_cons_self
        · rw [not_or] at hbinds
          rw [if_neg hbinds.1, if_neg hbinds.2]
          exact h.bound k hk
      · -- What is not aborted is in flight, and that was the command which settled.
        exact absurd ((h.flying _ (h.live d (hrest d hd).1 hlive)).trans hcur.1.symm) (hrest d hd).2
    · rw [settle, if_neg hcur]
      refine ⟨h.desired, fun k hk => ?_, h.pending, h.flying, htokens, hsent,
        fun d hd => h.live d (hrest d hd).1, fun d hd => h.current d (hrest d hd).1, h.attempted⟩
      obtain ⟨t, ht, hkey, hbound⟩ := h.bound k hk
      have hold : o ≠ .success := by
        rintro rfl
        obtain hcur' | hnone := hturn c hc rfl
        · exact hcur hcur'
        · cases hnone.symm.trans hk
      rw [if_neg hold]
      refine ⟨t, ht, hkey, hbound.imp_right fun hrej => ?_⟩
      split_ifs
      · exact List.mem_cons_of_mem _ hrej
      · exact hrej

lemma Inv.step {a : Act} (hturn : InTurn s a) (hT : ∀ t, a = .setDesired (some t) → t ∈ T) :
    Inv T (coordinator.step s a).2 := by
  match a with
  | .setDesired none | .reset => exact h.reset
  | .sync => exact h.pump
  | .complete _ _ => exact h.complete hturn
  | .setDesired (some t) =>
    refine Inv.pump ⟨fun u hu => ?_, h.bound, h.pending, h.flying, h.tokens, h.sent, h.live, h.current,
      h.attempted⟩
    cases hu
    exact hT t rfl

/-- A completion that decides on the desired target leaves nothing due. -/
lemma Inv.due_complete (hkeys : Set.InjOn realtimeTargetKey T) {token : ℕ} {o : Outcome}
    (hdue : s.due = none) (hdecided : ¬Undecided s token o) : (s.complete token o).due = none := by
  unfold Coordinator.complete
  cases hfind : s.sent.find? (·.token = token) with
  | none => exact hdue
  | some c =>
    have hc := List.mem_of_find?_eq_some hfind
    have htoken : c.token = token := by simpa using List.find?_some hfind
    rw [Option.elim_some]
    by_cases hcur : s.Current c
    · have hbranch := fun hopen => hdecided ⟨c, hc, htoken, h.current c hc hcur, hopen⟩
      rw [settle, if_pos hcur, due_eq_none]
      dsimp only
      intro t ht
      by_cases hbinds : o = .success ∨ o.determinate
      · -- the command was for the desired target, and that is bound now
        rw [if_pos hbinds] at hbranch
        obtain rfl := Option.some.inj (ht.symm.trans (of_not_not hbranch))
        exact .inl (if_pos hbinds).symm
      · rw [if_neg hbinds] at hbranch
        rw [if_neg hbinds]
        rcases due_eq_none.1 hdue t ht with hbound | hpending | hspent
        · exact .inl hbound
        · have hkey := Option.some.inj (hpending.trans hcur.2)
          obtain rfl := hkeys (h.desired t ht) (h.sent c hc).2 hkey
          exact .inr (.inr ⟨h.attempted _ hcur.2, Nat.not_lt.1 fun hlt => hbranch ⟨ht, hlt⟩⟩)
        · exact .inr (.inr hspent)
    · rw [settle, if_neg hcur]
      exact hdue

end

/-- Nothing is due at the end if nothing is at the start or the coordinator is still called. -/
lemma due_run (hkeys : Set.InjOn realtimeTargetKey T) {acts : List Act} (h : Inv T s)
    (hturn : coordinator.Meets InTurn s acts) (hT : ∀ t, .setDesired (some t) ∈ acts → t ∈ T)
    (hattended : Attended s acts) (hstart : s.due = none ∨ ∃ a ∈ acts, a.isCall = true) :
    (coordinator.run s acts : Coordinator).due = none := by
  induction acts generalizing s with
  | nil =>
    rcases hstart with hdue | ⟨a, ha, -⟩
    · exact hdue
    · cases ha
  | cons a acts ih =>
    obtain ⟨hok, hturn⟩ := hturn
    have hnext := h.step hok fun t heq => hT t (heq ▸ List.mem_cons_self)
    have hrest := ih hnext hturn fun t ht => hT t (List.mem_cons_of_mem _ ht)
    cases a with
    | setDesired next =>
      cases next with
      | none => exact hrest hattended (.inl rfl)
      | some t => exact hrest hattended (.inl (pump_due _))
    | sync => exact hrest hattended (.inl (pump_due s))
    | reset => exact hrest hattended (.inl rfl)
    | complete token o =>
      refine hrest hattended.2 ?_
      rcases hstart with hdue | ⟨a, ha, hcall⟩
      · by_cases hopen : Undecided s token o
        · exact .inr (hattended.1 hopen)
        · exact .inl (h.due_complete hkeys hdue hopen)
      · rcases List.mem_cons.1 ha with rfl | ha
        · cases hcall
        · exact .inr ⟨a, ha, hcall⟩

/-- **The bound target is the desired one** at rest, if each completion that does not decide on it is
followed by a call; and at most one command is in flight. -/
theorem coordinator_settled (acts : List Act)
    (hkeys : Set.InjOn realtimeTargetKey {t | .setDesired (some t) ∈ acts})
    (hturn : coordinator.Meets InTurn fresh acts) :
    let s : Coordinator := coordinator.run fresh acts
    {c ∈ s.sent | c.aborted = false}.Subsingleton ∧ (Attended fresh acts → Settled s) := by
  have h : Inv {t | .setDesired (some t) ∈ acts} (coordinator.run fresh acts) :=
    (hturn.and_forall (Q := fun a => ∀ t, a = .setDesired (some t) → .setDesired (some t) ∈ acts)
      fun _ ha _ heq => heq ▸ ha).invariant inv_fresh fun _ _ h hok => h.step hok.1 hok.2
  refine ⟨fun c hc d hd => ?_, fun hattended hrest t ht => ?_⟩
  · have hsame := (h.live c hc.1 hc.2).symm.trans (h.live d hd.1 hd.2)
    exact List.inj_on_of_nodup_map h.tokens hc.1 hd.1 (Option.some.inj hsame)
  · have hdue := due_run hkeys inv_fresh hturn (fun _ => id) hattended (.inl rfl)
    rcases due_eq_none.1 hdue t ht with hbound | hpending | hspent
    · obtain ⟨u, hu, hkey, hdone⟩ := h.bound _ hbound.symm
      obtain rfl := hkeys hu (h.desired t ht) hkey
      exact hdone.imp_right .inl
    · cases hpending.trans (h.pending hrest)
    · exact .inr (.inr hspent)

/-! ### Where the target is not bound -/

def target (address : String) : RealtimeTarget := ⟨"solana", address, "1m"⟩

def bound : List Act := [.setDesired (some (target "a")), .complete 1 .success]

/-- Another target is selected; its first command fails and is tried again. -/
theorem coordinator_settled_sample :
    let acts := bound ++ [.setDesired (some (target "b")), .complete 2 (.failed "timeout"), .sync,
      .complete 3 .success]
    (coordinator.run fresh acts : Coordinator).desired = some (target "b") ∧
      Settled (coordinator.run fresh acts) := by
  intro acts
  have hcall : ∃ a ∈ acts.drop 4, a.isCall = true := ⟨.sync, List.mem_cons_self, rfl⟩
  have hlast : ∀ c ∈ (coordinator.run fresh (acts.take 5) : Coordinator).sent, c.token = 3 →
      Current (coordinator.run fresh (acts.take 5)) c := by decide
  have hturn : coordinator.Meets InTurn fresh acts :=
    ⟨trivial, fun _ _ _ => .inr rfl, trivial, trivial, trivial, fun c hc htoken => .inl (hlast c hc htoken), trivial⟩
  have hkeys : Set.InjOn realtimeTargetKey {t | .setDesired (some t) ∈ acts} := by
    have hmem : ∀ t, .setDesired (some t) ∈ acts → t = target "a" ∨ t = target "b" := by
      simp [acts, bound]
    intro t ht u hu hkey
    rcases hmem t ht with rfl | rfl <;> rcases hmem u hu with rfl | rfl
    all_goals first | rfl | exact absurd hkey (by decide)
  have hattended : Attended fresh acts :=
    ⟨fun h => absurd h (by decide), fun _ => hcall, fun h => absurd h (by decide), trivial⟩
  exact ⟨by decide, (coordinator_settled acts hkeys hturn).2 hattended⟩

/-- Another target is selected, and before it is bound the first one again. The second command is not
aborted and binds its target. -/
theorem switch_back_unbound :
    let s : Coordinator := coordinator.run fresh
      (bound ++ [.setDesired (some (target "b")), .setDesired (some (target "a")), .complete 2 .success])
    s.inFlight = none ∧ s.desired = some (target "a") ∧ s.succeeded = some (target "b") ∧ ¬Settled s :=
  ⟨by decide, by decide, by decide, fun h => absurd (h (by decide) (target "a") (by decide)) (by decide)⟩

end PrivateExecution.Target
