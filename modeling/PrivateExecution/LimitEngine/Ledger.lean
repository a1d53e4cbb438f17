import PrivateExecution.Async.Machine
import PrivateExecution.LimitEngine.Fsm

/-!
# The ledger of a limit order

What `apply_transition` never checks as a whole follows from its checks along a history of
requests: nothing of the input is lost, an order with nothing left is filled, an all-or-nothing
order is filled in full or not at all (`Ledger`), and the accepted fills add up (`Tally`).
-/

namespace PrivateExecution

open Async

namespace StoredLimitOrder

variable {s s' : StoredLimitOrder} {requested : OrderStatus} {fill : Option FillDelta} {atMs : I64}

lemma applyTransition_of_terminal (h : s.order.status.isTerminal = true) :
    s.applyTransition requested fill atMs = .error .invalidTransition := by
  have htarget : s.order.status.canTransitionTo (s.deadlineTarget requested fill atMs) = false := by
    revert h
    cases s.order.status <;> simp [OrderStatus.isTerminal, OrderStatus.canTransitionTo]
  have hrefused : validateTransition s.order.status (s.deadlineTarget requested fill atMs) =
      .error .invalidTransition := if_neg (by simp [htarget])
  change validateTransition _ _ >>= _ = _
  rw [hrefused]
  rfl

structure Ledger (s₀ s : StoredLimitOrder) : Prop where
  conserved : s.filledInput.val + s.order.remainingInput.val = s.order.maxInput.amount.val
  filled_iff : s.order.remainingInput.val = 0 ↔ s.order.status = .filled
  wholly : s.order.allowPartialFill = false →
    s.filledInput.val = 0 ∨ s.filledInput.val = s.order.maxInput.amount.val
  -- carried along for `wholly`: the only fill a live all-or-nothing order takes is the full one
  allOrNothing : s.order.status.isExecutable = true → s.order.allowPartialFill = false →
    s.order.minFill = s.order.remainingInput
  frame : s = { s₀ with
    order := { s₀.order with
      remainingInput := s.order.remainingInput
      status := s.order.status }
    filledInput := s.filledInput
    version := s.version
    lastTransitionSeq := s.lastTransitionSeq }

variable {s₀ : StoredLimitOrder}

lemma ledger_refl {nowMs : I64} (hvalid : s₀.order.validate nowMs = .ok ())
    (hstatus : s₀.order.status = .created) (hfilled : s₀.filledInput.val = 0)
    (hremaining : s₀.order.remainingInput = s₀.order.maxInput.amount) : Ledger s₀ s₀ := by
  have hfunded := LimitOrder.funded_of_validate hvalid
  have hlive : s₀.order.status.isExecutable = true := by rw [hstatus]; rfl
  refine ⟨?_, ?_, fun _ => .inl hfilled, hfunded.allOrNothing, rfl⟩
  · rw [hfilled, hremaining, Nat.zero_add]
  · exact iff_of_false (hfunded.spendable hlive) (by simp [hstatus])

section

variable (h : s.Accepted fill s')

include h

lemma Accepted.maxInput : s'.order.maxInput = s.order.maxInput := by
  rw [h.frame]

lemma Accepted.allowPartialFill :
    s'.order.allowPartialFill = s.order.allowPartialFill := by
  rw [h.frame]

lemma Accepted.consumed_le : consumed fill ≤ s.order.remainingInput.val := by
  have := h.remaining
  omega

lemma Accepted.wholly (hl : Ledger s₀ s) (haon : s.order.allowPartialFill = false) :
    consumed fill = 0 ∨ consumed fill = s.order.remainingInput.val := by
  have hlive := OrderStatus.isExecutable_of_canTransitionTo h.allowed
  have hmin := hl.allOrNothing hlive haon
  cases fill with
  | none => exact .inl rfl
  | some delta =>
    have hge : s.order.minFill ≤ delta.simulatedNetInput := h.minFill delta rfl
    rw [hmin, Unsigned.le_def] at hge
    exact .inr (le_antisymm h.consumed_le hge)

end

lemma Ledger.accepted (hl : Ledger s₀ s) (h : s.Accepted fill s') : Ledger s₀ s' where
  conserved := by
    have h₁ := h.filled
    have h₂ := h.remaining
    have h₃ := h.conserved
    rw [h.maxInput]
    omega
  filled_iff := by
    refine ⟨fun hzero => ?_, h.funded.filled⟩
    cases hfill : fill with
    | some delta => exact h.lands (by simp [hfill]) hzero
    | none =>
      -- nothing was left before either, so the order was filled and had no way on
      have hrem := h.remaining
      rw [hzero, hfill] at hrem
      have hallowed := h.allowed
      rw [hl.filled_iff.1 hrem.symm] at hallowed
      cases hs' : s'.order.status <;> rw [hs'] at hallowed <;> cases hallowed
  wholly := by
    intro haon
    rw [h.allowPartialFill] at haon
    rw [h.filled, h.maxInput]
    have hsum := h.conserved
    rcases h.wholly hl haon with hc | hc
    · rw [hc, Nat.add_zero]
      exact hl.wholly haon
    · right
      rw [hc, hsum]
  allOrNothing := h.funded.allOrNothing
  frame := by
    rw [h.frame, hl.frame]

end StoredLimitOrder

structure TransitionRequest where
  requested : OrderStatus
  fill : Option FillDelta
  atMs : I64

namespace StoredLimitOrder

def answer (s : StoredLimitOrder) (r : TransitionRequest) : Except LimitEngineError StoredLimitOrder :=
  s.applyTransition r.requested r.fill r.atMs

/-- The caller keeps the record a successful call returns, and the old one after a failure. -/
def fsm : Machine TransitionRequest fun _ => Except LimitEngineError StoredLimitOrder where
  State := StoredLimitOrder
  step s r := (s.answer r, (s.answer r).toOption.getD s)

def accepted : StoredLimitOrder → List TransitionRequest → List TransitionRequest
  | _, [] => []
  | s, r :: rs =>
    match s.answer r with
    | .ok s' => r :: accepted s' rs
    | .error _ => accepted s rs

def after (s : StoredLimitOrder) (rs : List TransitionRequest) : StoredLimitOrder := fsm.run s rs

variable {s s₀ : StoredLimitOrder} {r : TransitionRequest} {rs : List TransitionRequest}

lemma after_cons_ok {s' : StoredLimitOrder} (h : s.answer r = .ok s') : s.after (r :: rs) = s'.after rs := by
  change fsm.run ((s.answer r).toOption.getD s) rs = _
  rw [h]
  rfl

lemma after_cons_error {e : LimitEngineError} (h : s.answer r = .error e) :
    s.after (r :: rs) = s.after rs := by
  change fsm.run ((s.answer r).toOption.getD s) rs = _
  rw [h]
  rfl

def totalConsumed (rs : List TransitionRequest) : ℕ := (rs.map fun r => consumed r.fill).sum

/-- What the accepted requests of a history add up to. -/
structure Tally (s : StoredLimitOrder) (rs : List TransitionRequest) : Prop where
  filled : (s.after rs).filledInput.val = s.filledInput.val + totalConsumed (s.accepted rs)
  minFill : ∀ r ∈ s.accepted rs, ∀ delta ∈ r.fill, s.order.minFill ≤ delta.simulatedNetInput
  version : (s.after rs).version.val = s.version.val + (s.accepted rs).length
  seq : (s.after rs).lastTransitionSeq.val = s.lastTransitionSeq.val + (s.accepted rs).length

lemma tally (s : StoredLimitOrder) (rs : List TransitionRequest) : s.Tally rs := by
  induction rs generalizing s with
  | nil => exact ⟨rfl, by simp [accepted], rfl, rfl⟩
  | cons r rs ih =>
    cases ha : s.answer r with
    | error e =>
      have hafter : s.after (r :: rs) = s.after rs := after_cons_error ha
      have haccepted : s.accepted (r :: rs) = s.accepted rs := by simp only [accepted, ha]
      obtain ⟨h₁, h₂, h₃, h₄⟩ := ih s
      exact ⟨by rw [hafter, haccepted, h₁], haccepted ▸ h₂, by rw [hafter, haccepted, h₃],
        by rw [hafter, haccepted, h₄]⟩
    | ok s' =>
      have hafter : s.after (r :: rs) = s'.after rs := after_cons_ok ha
      have haccepted : s.accepted (r :: rs) = r :: s'.accepted rs := by simp only [accepted, ha]
      have hstep : s.Accepted r.fill s' := accepted_of_applyTransition ha
      obtain ⟨h₁, h₂, h₃, h₄⟩ := ih s'
      refine ⟨?_, ?_, ?_, ?_⟩
      · rw [hafter, haccepted, h₁, hstep.filled]
        simp only [totalConsumed, List.map_cons, List.sum_cons]
        omega
      · rw [haccepted]
        intro r' hr'
        rcases List.mem_cons.1 hr' with rfl | hr'
        · exact hstep.minFill
        · have hmin : s'.order.minFill = s.order.minFill := by rw [hstep.frame]
          exact hmin ▸ h₂ r' hr'
      · rw [hafter, haccepted, h₃, hstep.version, List.length_cons]
        omega
      · rw [hafter, haccepted, h₄, hstep.seq, List.length_cons]
        omega

lemma Ledger.after (h : Ledger s₀ s) (rs : List TransitionRequest) : Ledger s₀ (s.after rs) := by
  induction rs generalizing s with
  | nil => exact h
  | cons r rs ih =>
    cases ha : s.answer r with
    | error e =>
      rw [after_cons_error ha]
      exact ih h
    | ok s' =>
      rw [after_cons_ok ha]
      exact ih (h.accepted (accepted_of_applyTransition ha))

lemma filledInput_le_after (s : StoredLimitOrder) (rs rs' : List TransitionRequest) :
    (s.after rs).filledInput ≤ (s.after (rs ++ rs')).filledInput := by
  have happend : s.after (rs ++ rs') = (s.after rs).after rs' := fsm.run_append s rs rs'
  rw [happend, Unsigned.le_def, ((s.after rs).tally rs').filled]
  exact Nat.le_add_right _ _

/-- **The life cycle of a limit order.** -/
theorem order_history (s₀ : StoredLimitOrder) (nowMs : I64)
    (hvalid : s₀.order.validate nowMs = .ok ()) (hstatus : s₀.order.status = .created)
    (hfilled : s₀.filledInput.val = 0) (hremaining : s₀.order.remainingInput = s₀.order.maxInput.amount)
    (rs : List TransitionRequest) :
    (s₀.after rs).filledInput.val + (s₀.after rs).order.remainingInput.val =
        (s₀.after rs).order.maxInput.amount.val ∧
      ((s₀.after rs).order.remainingInput.val = 0 ↔ (s₀.after rs).order.status = .filled) ∧
      (∀ rs', (s₀.after rs).filledInput ≤ (s₀.after (rs ++ rs')).filledInput) ∧
      (s₀.after rs).filledInput.val = totalConsumed (s₀.accepted rs) ∧
      (∀ r ∈ s₀.accepted rs, ∀ delta ∈ r.fill, s₀.order.minFill ≤ delta.simulatedNetInput) ∧
      (s₀.order.allowPartialFill = false → (s₀.after rs).filledInput.val = 0 ∨
        (s₀.after rs).filledInput = s₀.order.maxInput.amount) ∧
      ((s₀.after rs).order.status.isTerminal = true →
        ∀ r, (s₀.after rs).answer r = .error .invalidTransition) ∧
      (s₀.after rs).version.val = s₀.version.val + (s₀.accepted rs).length ∧
      (s₀.after rs).lastTransitionSeq.val =
        s₀.lastTransitionSeq.val + (s₀.accepted rs).length ∧
      s₀.after rs = { s₀ with
        order := { s₀.order with
          remainingInput := (s₀.after rs).order.remainingInput
          status := (s₀.after rs).order.status }
        filledInput := (s₀.after rs).filledInput
        version := (s₀.after rs).version
        lastTransitionSeq := (s₀.after rs).lastTransitionSeq } := by
  have hl : Ledger s₀ (s₀.after rs) :=
    (ledger_refl hvalid hstatus hfilled hremaining).after rs
  have ht := s₀.tally rs
  have hmax : (s₀.after rs).order.maxInput = s₀.order.maxInput := by rw [hl.frame]
  have hpolicy : (s₀.after rs).order.allowPartialFill = s₀.order.allowPartialFill := by
    rw [hl.frame]
  refine ⟨hl.conserved, hl.filled_iff, s₀.filledInput_le_after rs, ?_, ht.minFill, ?_, ?_,
    ht.version, ht.seq, hl.frame⟩
  · rw [ht.filled, hfilled, Nat.zero_add]
  · intro haon
    rcases hl.wholly (hpolicy.trans haon) with h | h
    · exact .inl h
    · exact .inr (Unsigned.ext (h.trans (by rw [hmax])))
  · exact fun hterm r => applyTransition_of_terminal hterm

namespace Sample

def order : StoredLimitOrder where
  schemaVersion := .lit 1
  version := .lit 1
  order := {
    id := .lit "order-1"
    owner := .lit "user-1"
    walletRef := .lit "wallet-1"
    chain := .base
    tokenIn := ⟨.base, "0xa"⟩
    tokenOut := ⟨.base, "0xb"⟩
    side := .buy
    maxInput := ⟨⟨.base, "0xa"⟩, .lit 100⟩
    remainingInput := .lit 100
    limitPrice := ⟨⟨.base, "0xa"⟩, ⟨.base, "0xb"⟩,
      ⟨.lit 2, .lit 1, by norm_num, by decide⟩⟩
    risk := ⟨.lit 0, .lit 0, .lit 100, .lit 100, none⟩
    allowPartialFill := true
    minFill := .lit 10
    expiresAtMs := .lit 1000
    status := .created }
  orderIntentId := .lit "intent-1"
  orderIdempotencyKey := .lit "key-1"
  nonce := Unsigned.zero
  attemptSeq := Unsigned.zero
  filledInput := Unsigned.zero
  lastTransitionSeq := Unsigned.zero
  publishedSeq := Unsigned.zero
  nextEligibleAtMs := none

def fill (n m : ℕ) (hn : n < 2 ^ 128) (hm : m < 2 ^ 128) : Option FillDelta :=
  some ⟨⟨n, hn⟩, ⟨n, hn⟩, ⟨m, hm⟩⟩

/-- Two fills, the second one reported as an expiry after the deadline, and a late cancellation. -/
def history : List TransitionRequest :=
  [⟨.active, none, .lit 1⟩, ⟨.triggerCandidate, none, .lit 2⟩,
    ⟨.quoting, none, .lit 3⟩, ⟨.simulating, none, .lit 4⟩,
    ⟨.executing, none, .lit 5⟩,
    ⟨.partiallyFilled, fill 40 60 (by norm_num) (by norm_num), .lit 6⟩,
    ⟨.executing, none, .lit 7⟩,
    ⟨.expired, fill 60 0 (by norm_num) (by norm_num), .lit 1000⟩,
    ⟨.cancelled, none, .lit 1001⟩]

end Sample

/-- The sample order is filled by its two fills; the cancellation is refused. -/
theorem sample_order_filled :
    (Sample.order.after Sample.history).order.status = .filled ∧
      totalConsumed (Sample.order.accepted Sample.history) = 100 ∧
      (Sample.order.after Sample.history).order.remainingInput.val = 0 ∧
      (Sample.order.after Sample.history).filledInput.val =
        totalConsumed (Sample.order.accepted Sample.history) := by
  have hstatus : (Sample.order.after Sample.history).order.status = .filled := by decide +kernel
  obtain ⟨-, hiff, -, hsum, -⟩ := order_history Sample.order I64.zero (by decide +kernel) rfl rfl rfl
    Sample.history
  exact ⟨hstatus, by decide +kernel, hiff.2 hstatus, hsum⟩

end StoredLimitOrder

end PrivateExecution
