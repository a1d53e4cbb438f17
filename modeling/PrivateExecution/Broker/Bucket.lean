import PrivateExecution.Broker.Circuit
import Mathlib.Tactic.Linarith

/-!
# The budget as a token bucket

The refill of `ProviderBudget` is computed in a millionth of a unit, so that a millisecond adds a whole
number of them, and a product that saturates is above any capacity.
-/

namespace PrivateExecution.Broker

open Async

inductive BudgetCall where
  | replenish (nowMs : U64)
  | tryConsume (nowMs : U64) (cost : U32)
  | availableUnits (nowMs : U64)
  | isUnderPressure (nowMs : U64)

namespace BudgetCall

abbrev Answer : BudgetCall → Type
  | replenish _ => Unit
  | tryConsume .. => Except DegradedReason Unit
  | availableUnits _ => U32
  | isUnderPressure _ => Bool

def nowMs : BudgetCall → U64
  | replenish now | tryConsume now _ | availableUnits now | isUnderPressure now => now

def consumes : BudgetCall → Bool
  | tryConsume .. => true
  | _ => false

/-- The running maximum of the clock. The last two calls work on a copy of the budget. -/
def clock (seen : ℕ) : BudgetCall → ℕ
  | replenish now | tryConsume now _ => max seen now.val
  | _ => seen

end BudgetCall

/-- `as u32` truncates. -/
def ProviderBudget.availableUnits (b : ProviderBudget) (nowMs : U64) : U32 :=
  ⟨(b.replenish nowMs).availableScaled.val / scale % 2 ^ 32, Nat.mod_lt _ (Nat.two_pow_pos 32)⟩

def budget : Machine BudgetCall BudgetCall.Answer where
  State := ProviderBudget
  step b
    | .replenish now => ((), b.replenish now)
    | .tryConsume now cost => ProviderBudget.tryConsume now cost b
    | .availableUnits now => (b.availableUnits now, b)
    | .isUnderPressure now => (b.isUnderPressure now, b)

def charge (t₁ t₂ clock : ℕ) : (call : BudgetCall) → call.Answer → ℕ
  | .tryConsume _ cost, .ok _ => if t₁ ≤ clock ∧ clock ≤ t₂ then cost.val else 0
  | _, _ => 0

def admitted (t₁ t₂ : ℕ) : ℕ → List (Σ call, BudgetCall.Answer call) → ℕ
  | _, [] => 0
  | seen, ⟨call, answer⟩ :: rest =>
    charge t₁ t₂ (call.clock seen) call answer + admitted t₁ t₂ (call.clock seen) rest

/-- The other calls are made no later than the `try_consume` calls that follow them. -/
def InOrder (calls : List BudgetCall) : Prop :=
  calls.Pairwise fun c d => d.consumes = true → c.consumes = true ∨ c.nowMs ≤ d.nowMs

namespace ProviderBudget

variable {b n : ProviderBudget} {now later : U64} {cost : U32} {t₁ t₂ : ℕ}

lemma replenish_of_le (h : now ≤ b.lastReplenishedMs) : b.replenish now = b := if_pos h

lemma scaled_lt (units : U32) : scaled units < 2 ^ 64 / 1000 := by
  have hunits := units.lt
  unfold scaled scale
  omega

lemma lit_scaled (units : U32) : (Unsigned.lit (scaled units) : U64).val = scaled units :=
  Unsigned.lit_val ((scaled_lt units).trans (by decide))

def refilled (b : ProviderBudget) (elapsedMs : ℕ) : ℕ :=
  min (b.availableScaled.val + b.refillPerSec.val * elapsedMs * 1000) (scaled b.maxCapacity)

lemma lit_refilled (b : ProviderBudget) (elapsedMs : ℕ) :
    (Unsigned.lit (b.refilled elapsedMs) : U64).val = b.refilled elapsedMs := by
  have hle : b.refilled elapsedMs ≤ scaled b.maxCapacity := min_le_right ..
  have hlt := scaled_lt b.maxCapacity
  exact Unsigned.lit_val (by omega)

lemma refill_exact {capacity : ℕ} (available refill : ℕ) (h : capacity < 2 ^ 64 / 1000) :
    min (min (available + min (min refill (2 ^ 64 - 1) * 1000000) (2 ^ 64 - 1) / 1000) (2 ^ 64 - 1)) capacity =
      min (available + refill * 1000) capacity := by
  by_cases hfits : refill * 1000000 ≤ 2 ^ 64 - 1
  · have hsmall : refill ≤ 2 ^ 64 - 1 := (Nat.le_mul_of_pos_right _ (by decide)).trans hfits
    have hdiv : refill * 1000000 / 1000 = refill * 1000 := by
      rw [show 1000000 = 1000 * 1000 from rfl, ← Nat.mul_assoc, Nat.mul_div_cancel _ (by decide)]
    rw [min_eq_left hsmall, min_eq_left hfits, hdiv]
    generalize refill * 1000 = added
    omega
  · have hlarge : 2 ^ 64 - 1 ≤ min refill (2 ^ 64 - 1) * 1000000 := by
      rcases min_choice refill (2 ^ 64 - 1) with hmin | hmin
      · rw [hmin]
        exact Nat.le_of_not_le hfits
      · rw [hmin]
        decide
    have hreach : (2 ^ 64 - 1) / 1000 ≤ refill * 1000 := by
      refine Nat.div_le_of_le_mul ((Nat.le_of_not_le hfits).trans_eq ?_)
      rw [show 1000000 = 1000 * 1000 from rfl, ← Nat.mul_assoc, Nat.mul_comm]
    rw [min_eq_right hlarge]
    generalize refill * 1000 = added at hreach ⊢
    omega

/-- The refill is exact: where a product saturates, the capacity is reached anyway. -/
lemma replenish_of_lt (h : b.lastReplenishedMs < now) : b.replenish now =
    { b with
      availableScaled := .lit (b.refilled (now.val - b.lastReplenishedMs.val))
      lastReplenishedMs := now } := by
  have hlt := scaled_lt b.maxCapacity
  have hrate : (Unsigned.lit b.refillPerSec.val : U64).val = b.refillPerSec.val :=
    Unsigned.lit_val (b.refillPerSec.lt.trans (by decide))
  have hscale : (Unsigned.lit scale : U64).val = 1000000 := by decide
  refine (if_neg (Nat.not_le_of_lt h)).trans (congrArg (fun available => ({ b with
    availableScaled := available, lastReplenishedMs := now } : ProviderBudget)) (Unsigned.ext ?_))
  rw [lit_refilled, Unsigned.val_min, lit_scaled, Unsigned.val_saturatingAdd, Unsigned.val_divBy, refilled,
    Unsigned.val_saturatingMul, hscale, Unsigned.val_saturatingMul, hrate, Unsigned.val_saturatingSub,
    mul_comm (now.val - _)]
  exact refill_exact _ _ hlt

lemma min_add_min (a x y c : ℕ) : min (min (a + x) c + y) c = min (a + (x + y)) c := by omega

lemma refilled_add (now : U64) (e₁ e₂ : ℕ) :
    ({ b with availableScaled := .lit (b.refilled e₁), lastReplenishedMs := now } : ProviderBudget).refilled e₂ =
      b.refilled (e₁ + e₂) := by
  have hlit := lit_refilled b e₁
  simp only [refilled] at hlit ⊢
  rw [hlit, mul_add, add_mul]
  exact min_add_min ..

lemma replenish_clock : (b.replenish now).lastReplenishedMs.val = max b.lastReplenishedMs.val now.val := by
  unfold replenish
  split_ifs with h
  · exact (max_eq_left h).symm
  · exact (max_eq_right (Nat.le_of_not_le h)).symm

lemma replenish_replenish (h : now ≤ later) : (b.replenish now).replenish later = b.replenish later := by
  by_cases hpast : now ≤ b.lastReplenishedMs
  · rw [replenish_of_le hpast]
  have hnow : b.lastReplenishedMs.val < now.val := Nat.lt_of_not_le hpast
  rw [replenish_of_lt hnow]
  by_cases hsame : later ≤ now
  · rw [replenish_of_le hsame, Unsigned.ext (le_antisymm hsame h), replenish_of_lt hnow]
  have hlater : now.val < later.val := Nat.lt_of_not_le hsame
  have hsum : now.val - b.lastReplenishedMs.val + (later.val - now.val) = later.val - b.lastReplenishedMs.val := by
    omega
  rw [replenish_of_lt hlater, replenish_of_lt (hnow.trans hlater), refilled_add, hsum]

def spend (b : ProviderBudget) (amount : U64) : ProviderBudget :=
  { b with availableScaled := b.availableScaled.saturatingSub amount }

-- The amount stays a variable here: a scaled cost would be computed when the records are compared.
lemma spend_fields (b : ProviderBudget) (amount : U64) : (b.spend amount).lastReplenishedMs = b.lastReplenishedMs ∧
    (b.spend amount).maxCapacity = b.maxCapacity ∧ (b.spend amount).refillPerSec = b.refillPerSec ∧
    (b.spend amount).availableScaled.val = b.availableScaled.val - amount.val := ⟨rfl, rfl, rfl, rfl⟩

lemma tryConsume_cases (b : ProviderBudget) (now : U64) (cost : U32) :
    (scaled cost ≤ (b.replenish now).availableScaled.val ∧
      tryConsume now cost b = (.ok (), (b.replenish now).spend (.lit (scaled cost)))) ∨
    tryConsume now cost b = (.error .budgetExhausted, b.replenish now) := by
  unfold tryConsume
  rw [Call.read_bind]
  by_cases h : scaled cost ≤ (b.replenish now).availableScaled.val
  · exact .inl ⟨h, by simp only [if_pos h]; rfl⟩
  · exact .inr (by simp only [if_neg h]; rfl)

/-- What can still be admitted in a window, in the scale of the budget. -/
def allowance (t₁ t₂ : ℕ) (b : ProviderBudget) : ℕ :=
  if t₂ < b.lastReplenishedMs.val then 0
  else if b.lastReplenishedMs.val < t₁ then scaled b.maxCapacity + b.refillPerSec.val * (t₂ - t₁) * 1000
  else b.availableScaled.val + b.refillPerSec.val * (t₂ - b.lastReplenishedMs.val) * 1000

lemma allowance_replenish (h : t₁ ≤ t₂) : (b.replenish now).allowance t₁ t₂ ≤ b.allowance t₁ t₂ := by
  by_cases hpast : now ≤ b.lastReplenishedMs
  · rw [replenish_of_le hpast]
  have hnow : b.lastReplenishedMs.val < now.val := Nat.lt_of_not_le hpast
  have hreach := lit_refilled b (now.val - b.lastReplenishedMs.val)
  rw [replenish_of_lt hnow]
  simp only [allowance, hreach]
  split_ifs
  all_goals try omega
  · -- The clock enters the window with at most the capacity.
    have hcap : b.refilled (now.val - b.lastReplenishedMs.val) ≤ scaled b.maxCapacity := min_le_right ..
    have hrest : b.refillPerSec.val * (t₂ - now.val) ≤ b.refillPerSec.val * (t₂ - t₁) :=
      Nat.mul_le_mul_left _ (by omega)
    exact Nat.add_le_add hcap (Nat.mul_le_mul_right _ hrest)
  · have hsum : t₂ - b.lastReplenishedMs.val = (now.val - b.lastReplenishedMs.val) + (t₂ - now.val) := by omega
    rw [hsum, mul_add, add_mul, ← Nat.add_assoc]
    exact Nat.add_le_add_right (min_le_left ..) _

lemma allowance_new (maxCapacity refillPerSec : U32) (startTimeMs : U64) (t₁ t₂ : ℕ) :
    (new maxCapacity refillPerSec startTimeMs).allowance t₁ t₂ ≤
      scaled maxCapacity + refillPerSec.val * (t₂ - t₁) * 1000 := by
  simp only [allowance, new, lit_scaled]
  split_ifs with hafter hbefore
  · exact Nat.zero_le _
  · exact le_rfl
  · have hle : t₂ - startTimeMs.val ≤ t₂ - t₁ := by omega
    gcongr

end ProviderBudget

open ProviderBudget

attribute [local irreducible] scale

lemma budget_clock (b : ProviderBudget) (call : BudgetCall) :
    (budget.step b call).2.lastReplenishedMs.val = call.clock b.lastReplenishedMs.val := by
  cases call with
  | replenish now => exact replenish_clock
  | tryConsume now cost =>
    rcases tryConsume_cases b now cost with ⟨-, heq⟩ | heq
    · exact (congrArg (·.2.lastReplenishedMs.val) heq).trans
        ((congrArg _ (spend_fields ..).1).trans replenish_clock)
    · exact (congrArg (·.2.lastReplenishedMs.val) heq).trans replenish_clock
  | availableUnits _ | isUnderPressure _ => rfl

lemma spend_le {t₁ t₂ clock spent available full refill : ℕ} (h : spent ≤ available) :
    (if t₁ ≤ clock ∧ clock ≤ t₂ then spent else 0) +
        (if t₂ < clock then 0 else if clock < t₁ then full else available - spent + refill) ≤
      if t₂ < clock then 0 else if clock < t₁ then full else available + refill := by
  split_ifs <;> omega

lemma spend_allowance (t₁ t₂ : ℕ) (b : ProviderBudget) (amount : U64) (h : amount.val ≤ b.availableScaled.val) :
    (if t₁ ≤ b.lastReplenishedMs.val ∧ b.lastReplenishedMs.val ≤ t₂ then amount.val else 0) +
      (b.spend amount).allowance t₁ t₂ ≤ b.allowance t₁ t₂ := by
  simp only [allowance, spend_fields]
  exact spend_le h

lemma charge_ok (t₁ t₂ clock : ℕ) (now : U64) (cost : U32) :
    charge t₁ t₂ clock (.tryConsume now cost) (.ok ()) * scale =
      if t₁ ≤ clock ∧ clock ≤ t₂ then scaled cost else 0 := by
  unfold charge scaled
  split_ifs
  · rfl
  · exact Nat.zero_mul _

lemma charge_error (t₁ t₂ clock : ℕ) (now : U64) (cost : U32) (e : DegradedReason) :
    charge t₁ t₂ clock (.tryConsume now cost) (.error e) = 0 := rfl

lemma charge_query (t₁ t₂ clock : ℕ) : (∀ now units, charge t₁ t₂ clock (.availableUnits now) units = 0) ∧
    ∀ now pressure, charge t₁ t₂ clock (.isUnderPressure now) pressure = 0 := ⟨fun _ _ => rfl, fun _ _ => rfl⟩

lemma charge_le {t₁ t₂ : ℕ} (h : t₁ ≤ t₂) (b : ProviderBudget) (call : BudgetCall) :
    charge t₁ t₂ (call.clock b.lastReplenishedMs.val) call (budget.step b call).1 * scale +
      (budget.step b call).2.allowance t₁ t₂ ≤ b.allowance t₁ t₂ := by
  rw [← budget_clock]
  cases call with
  | replenish now =>
    have hnone : charge t₁ t₂ (budget.step b (.replenish now)).2.lastReplenishedMs.val (.replenish now) () = 0 := rfl
    rw [show (budget.step b (.replenish now)).1 = () from rfl, hnone, Nat.zero_mul, Nat.zero_add]
    exact allowance_replenish h
  | tryConsume now cost =>
    refine le_trans ?_ (allowance_replenish h : (b.replenish now).allowance t₁ t₂ ≤ _)
    rw [show budget.step b (.tryConsume now cost) = tryConsume now cost b from rfl]
    rcases tryConsume_cases b now cost with ⟨hcost, heq⟩ | heq
    · have hspend := spend_allowance t₁ t₂ (b.replenish now) (.lit (scaled cost)) (by rwa [lit_scaled])
      rw [lit_scaled] at hspend
      rw [heq, charge_ok, (spend_fields ..).1]
      exact hspend
    · rw [heq, charge_error, Nat.zero_mul, Nat.zero_add]
  | availableUnits now =>
    rw [(charge_query ..).1, Nat.zero_mul, Nat.zero_add]
    exact le_rfl
  | isUnderPressure now =>
    rw [(charge_query ..).2, Nat.zero_mul, Nat.zero_add]
    exact le_rfl

lemma admitted_le {t₁ t₂ : ℕ} (h : t₁ ≤ t₂) (b : ProviderBudget) (calls : List BudgetCall) :
    admitted t₁ t₂ b.lastReplenishedMs.val (budget.answers b calls) * scale ≤ b.allowance t₁ t₂ := by
  induction calls generalizing b with
  | nil =>
    have hnone : admitted t₁ t₂ b.lastReplenishedMs.val (budget.answers b []) = 0 := rfl
    rw [hnone, Nat.zero_mul]
    exact Nat.zero_le _
  | cons call calls ih =>
    have hsum : admitted t₁ t₂ b.lastReplenishedMs.val (budget.answers b (call :: calls)) =
        charge t₁ t₂ (call.clock b.lastReplenishedMs.val) call (budget.step b call).1 +
          admitted t₁ t₂ (call.clock b.lastReplenishedMs.val) (budget.answers (budget.step b call).2 calls) := rfl
    have hrest := ih (budget.step b call).2
    rw [budget_clock] at hrest
    rw [hsum, Nat.add_mul]
    exact (Nat.add_le_add_left hrest _).trans (charge_le h b call)

lemma answers_consumes {b n : ProviderBudget} {calls : List BudgetCall} (horder : InOrder calls)
    (hlike : ∀ call ∈ calls, call.consumes = true → b.replenish call.nowMs = n.replenish call.nowMs) :
    (budget.answers b calls).filter (·.1.consumes) = budget.answers n (calls.filter (·.consumes)) := by
  induction calls generalizing b n with
  | nil => rfl
  | cons call calls ih =>
    have horder' := List.pairwise_cons.1 horder
    have hrest := fun c hc => hlike c (List.mem_cons_of_mem _ hc)
    cases call with
    | replenish now =>
      refine ih horder'.2 fun c hc hcons => ?_
      have hle : now ≤ c.nowMs := (horder'.1 c hc hcons).resolve_left nofun
      exact (replenish_replenish hle).trans (hrest c hc hcons)
    | tryConsume now cost =>
      have hsame : tryConsume now cost b = tryConsume now cost n := by
        have hnow : b.replenish now = n.replenish now := hlike _ List.mem_cons_self rfl
        unfold tryConsume
        rw [Call.read_bind, Call.read_bind, hnow]
        split_ifs <;> rfl
      simp only [Machine.answers, List.filter_cons, BudgetCall.consumes, if_true, budget, hsame]
      exact congrArg _ (ih horder'.2 fun _ _ _ => rfl)
    | availableUnits _ | isUnderPressure _ => exact ih horder'.2 hrest

/-- The cost admitted in a window is at most the capacity and the refill of the window, and the calls that
consume are admitted alike whatever other calls are made in between. -/
theorem exact_token_bucket (maxCapacity refillPerSec : U32) (startTimeMs : U64) :
    (∀ calls t₁ t₂, t₁ ≤ t₂ →
      admitted t₁ t₂ startTimeMs.val (budget.answers (.new maxCapacity refillPerSec startTimeMs) calls) * 1000 ≤
        maxCapacity.val * 1000 + refillPerSec.val * (t₂ - t₁)) ∧
    ∀ calls calls', InOrder calls → InOrder calls' → calls.filter (·.consumes) = calls'.filter (·.consumes) →
      (budget.answers (.new maxCapacity refillPerSec startTimeMs) calls).filter (·.1.consumes) =
        (budget.answers (.new maxCapacity refillPerSec startTimeMs) calls').filter (·.1.consumes) := by
  refine ⟨fun calls t₁ t₂ h => ?_, fun calls calls' horder horder' hsame => ?_⟩
  · have hclock : (ProviderBudget.new maxCapacity refillPerSec startTimeMs).lastReplenishedMs = startTimeMs := rfl
    have htotal := (admitted_le h (.new maxCapacity refillPerSec startTimeMs) calls).trans (allowance_new ..)
    rw [hclock] at htotal
    unfold scaled scale at htotal
    linarith only [htotal]
  · rw [answers_consumes horder fun _ _ _ => rfl, answers_consumes horder' fun _ _ _ => rfl, hsame]

/-- Ten units and two more a second: what is admitted in the first two seconds is all of it, and the same
without the calls in between. -/
theorem exact_token_bucket_sample :
    let start : ProviderBudget := .new (.lit 10) (.lit 2) .zero
    let calls : List BudgetCall := [.tryConsume .zero (.lit 10), .isUnderPressure (.lit 200),
      .tryConsume (.lit 400) (.lit 1), .replenish (.lit 1000), .availableUnits (.lit 1500),
      .tryConsume (.lit 2000) (.lit 4)]
    admitted 0 2000 0 (budget.answers start calls) = 14 ∧
    admitted 0 2000 0 (budget.answers start calls) * 1000 ≤ 10 * 1000 + 2 * (2000 - 0) ∧
    (budget.answers start calls).filter (·.1.consumes) =
      (budget.answers start (calls.filter (·.consumes))).filter (·.1.consumes) := by
  intro start calls
  obtain ⟨htotal, hqueries⟩ := exact_token_bucket (.lit 10) (.lit 2) .zero
  have horder : InOrder calls := by unfold InOrder; decide
  exact ⟨by decide +kernel, htotal calls 0 2000 (by decide),
    hqueries calls _ horder (horder.sublist List.filter_sublist) rfl⟩

end PrivateExecution.Broker
