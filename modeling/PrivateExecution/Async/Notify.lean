import Mathlib.Data.List.Nodup
import Mathlib.Data.Set.Insert

/-!
# A notification object

One stored permit and the tasks that wait, in the order in which they began to. `notifyOne` wakes the first
waiter or stores the permit; a task that polls takes the permit or begins to wait; a task that drops its wait
leaves the queue.
-/

namespace Async

/-- A notification object whose waiters are tasks `α`. -/
structure Notify (α : Type) where
  permit : Bool
  waiters : List α

namespace Notify

variable {α : Type}

def new : Notify α := ⟨false, []⟩

/-- Wakes the first waiter, or stores the permit if none waits. -/
def notifyOne (n : Notify α) : Option α × Notify α :=
  match n.waiters with
  | [] => (none, { n with permit := true })
  | a :: rest => (some a, { n with waiters := rest })

/-- The task `a` takes the permit, or begins to wait. -/
def poll (n : Notify α) (a : α) : Bool × Notify α :=
  if n.permit then (true, { n with permit := false })
  else (false, { n with waiters := n.waiters ++ [a] })

def forget [DecidableEq α] (n : Notify α) (a : α) : Notify α := { n with waiters := n.waiters.erase a }

/-- Exactly the tasks of `W` wait. -/
structure Queues (n : Notify α) (W : Set α) : Prop where
  nodup : n.waiters.Nodup
  mem : ∀ a, a ∈ n.waiters ↔ a ∈ W

variable {n : Notify α} {W : Set α}

lemma queues_new : (new : Notify α).Queues ∅ := ⟨List.nodup_nil, by simp [new]⟩

lemma Queues.notifyOne (h : n.Queues W) :
    (∃ a ∈ W, n.notifyOne.1 = some a ∧ n.notifyOne.2.permit = n.permit ∧
      n.notifyOne.2.Queues (W \ {a})) ∨
    (W = ∅ ∧ n.notifyOne.1 = none ∧ n.notifyOne.2.permit = true ∧ n.notifyOne.2.Queues W) := by
  obtain ⟨permit, waiters⟩ := n
  cases waiters with
  | nil =>
    have hempty : W = ∅ := Set.eq_empty_of_forall_notMem fun a ha => by simpa using (h.mem a).2 ha
    exact .inr ⟨hempty, rfl, rfl, h.nodup, h.mem⟩
  | cons a rest =>
    obtain ⟨hfirst, hrest⟩ := List.nodup_cons.1 h.nodup
    refine .inl ⟨a, (h.mem a).1 (List.mem_cons_self ..), rfl, rfl, hrest, fun b => ?_⟩
    have hb := h.mem b
    simp only [List.mem_cons] at hb
    constructor
    · intro hin
      exact ⟨hb.1 (.inr hin), fun heq => hfirst (heq ▸ hin)⟩
    · rintro ⟨hin, hne⟩
      exact (hb.2 hin).resolve_left hne

lemma Queues.poll (h : n.Queues W) {a : α} (ha : a ∉ W) :
    (n.permit = true ∧ (n.poll a).1 = true ∧ (n.poll a).2.Queues W) ∨
    (n.permit = false ∧ (n.poll a).1 = false ∧ (n.poll a).2.Queues (insert a W)) := by
  unfold Notify.poll
  split
  next hpermit => exact .inl ⟨hpermit, rfl, h.nodup, h.mem⟩
  next hpermit =>
    have hout : a ∉ n.waiters := fun hin => ha ((h.mem a).1 hin)
    refine .inr ⟨Bool.not_eq_true _ ▸ hpermit, rfl, ?_, fun b => ?_⟩
    · refine List.nodup_append.2 ⟨h.nodup, List.nodup_singleton a, fun b hb c hc heq => ?_⟩
      rw [List.mem_singleton.1 hc] at heq
      exact hout (heq ▸ hb)
    · simp [h.mem b, or_comm]

lemma Queues.forget [DecidableEq α] (h : n.Queues W) (a : α) : (n.forget a).Queues (W \ {a}) :=
  ⟨h.nodup.erase a, fun b => by
    rw [Notify.forget, h.nodup.mem_erase_iff, h.mem b, and_comm]
    exact Iff.rfl⟩

end Notify

end Async
