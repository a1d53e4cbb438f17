import PrivateExecution.Domain.LimitOrder

/-!
# The limit-order state machine

`apply_transition` (`limit-engine/src/fsm.rs`) moves a stored order along the domain's table, with
the fill ledger (`fill.rs`) and the deadline policy on top.
-/

namespace PrivateExecution

inductive LimitEngineError where
  | invalidTransition | invalidOrder | expired | limitPriceViolated | noSafeFill
  | amountBelowMinFill | partialFillNotAllowed | remainingUnderflow | fillMismatch | staleState
  | resyncRequired | quoteUnavailable | persistenceConflict | persistenceUnavailable
  | keyUnavailable | unknownKeyId | keyIdMismatch | sealFailed | openFailed | recordMalformed
  | idempotencyConflict | recoveryFailed | recoveryInconsistent | arithmeticOverflow
  | storeInvalid | integrityViolation | policyRejected
deriving DecidableEq

structure FillDelta where
  simulatedNetInput : AtomicAmount
  simulatedNetOutput : AtomicAmount
  remainingAfter : AtomicAmount

structure RealizedFill where
  netInput : AtomicAmount
  netOutput : AtomicAmount

inductive AttemptResolution where
  | filled (fill : RealizedFill)
  | unknown
  | failedBeforeSubmit
  | rejected

structure StoredLimitOrder where
  schemaVersion : Unsigned 16
  version : U64
  order : LimitOrder
  orderIntentId : IntentId
  orderIdempotencyKey : IdempotencyKey
  nonce : U64
  attemptSeq : U64
  filledInput : AtomicAmount
  lastTransitionSeq : U64
  publishedSeq : U64
  nextEligibleAtMs : Option I64
deriving DecidableEq

def OrderStatus.isTerminal : OrderStatus → Bool
  | .filled | .cancelled | .expired | .failedFinal => true
  | .created | .active | .triggerCandidate | .quoting | .simulating | .executing
  | .partiallyFilled | .failedRetryable => false

def OrderStatus.isFilling : OrderStatus → Bool
  | .executing | .partiallyFilled => true
  | _ => false

def validateTransition (from_ target : OrderStatus) : Except LimitEngineError Unit :=
  ensure (from_.canTransitionTo target = true) .invalidTransition

def mapDomainError : DomainError → LimitEngineError
  | .invalidRemainingInput => .invalidOrder
  | .invalidMinFill => .amountBelowMinFill
  | .nonPartialFillMismatch => .partialFillNotAllowed
  | .expired | .expiredStatusBeforeWindow => .expired
  | _ => .invalidOrder

namespace StoredLimitOrder

variable (s : StoredLimitOrder)

def conservationHolds : Bool :=
  s.filledInput.checkedAdd s.order.remainingInput = some s.order.maxInput.amount

def applyFill (fill : FillDelta) : Except LimitEngineError StoredLimitOrder := do
  let newRemaining ← okOr (s.order.remainingInput.checkedSub fill.simulatedNetInput)
    .remainingUnderflow
  ensure (fill.remainingAfter = newRemaining) .fillMismatch
  let newFilled ← okOr (s.filledInput.checkedAdd fill.simulatedNetInput) .arithmeticOverflow
  ensure (newFilled.checkedAdd newRemaining = some s.order.maxInput.amount) .fillMismatch
  return { s with filledInput := newFilled, order := { s.order with remainingInput := newRemaining } }

variable (requested : OrderStatus) (fill : Option FillDelta)

/-- A confirmed fill reported as partial at or after the deadline is redirected to `Expired`. -/
def deadlineTarget (atMs : I64) : OrderStatus :=
  if requested = .partiallyFilled ∧ fill.isSome ∧ s.order.expiresAtMs ≤ atMs ∧ s.order.status.isFilling
  then .expired else requested

def checkDeadline (effective : OrderStatus) (atMs : I64) : Except LimitEngineError Unit :=
  if effective = .expired then ensure (s.order.expiresAtMs ≤ atMs) .expired
  else ensure (effective.isTerminal ∨ atMs < s.order.expiresAtMs) .expired

def fillRequired : OrderStatus → OrderStatus → Bool
  | .executing, .partiallyFilled | .executing, .filled | .partiallyFilled, .filled => true
  | _, _ => false

def fillAllowed (from_ requested : OrderStatus) : Bool :=
  fillRequired from_ requested || (from_.isFilling && requested == .expired) ||
    (from_.isFilling && requested == .partiallyFilled)

def fillStep : Option FillDelta → Except LimitEngineError StoredLimitOrder
  | some delta => if fillAllowed s.order.status requested then s.applyFill delta
    else .error .fillMismatch
  | none => if fillRequired s.order.status requested then .error .fillMismatch else .ok s

/-- A fill that consumes the last of the input lands in `Filled`, never in `Expired`. -/
def landing (s next : StoredLimitOrder) (effective : OrderStatus) (fill : Option FillDelta) : OrderStatus :=
  if effective = .expired ∧ fill.isSome ∧ s.order.status.isFilling ∧
    next.order.remainingInput.val = 0 then .filled else effective

def checkFill (effective : OrderStatus) : Option FillDelta → Except LimitEngineError Unit
  | none => .ok ()
  | some delta => do
    ensure (effective = .partiallyFilled → s.order.allowPartialFill = true) .partialFillNotAllowed
    ensure (delta.simulatedNetInput.val ≠ 0 ∧ s.order.minFill ≤ delta.simulatedNetInput)
      .amountBelowMinFill

def applyTransition (atMs : I64) : Except LimitEngineError StoredLimitOrder := do
  let target := s.deadlineTarget requested fill atMs
  validateTransition s.order.status target
  ensure (s.conservationHolds = true) .invalidOrder
  s.checkDeadline target atMs
  let next ← s.fillStep requested fill
  ensure (requested = .partiallyFilled → next.order.remainingInput.val ≠ 0) .fillMismatch
  ensure (requested = .filled → next.order.remainingInput.val = 0) .fillMismatch
  let effective := s.landing next target fill
  s.checkFill effective fill
  let order := { next.order with status := effective }
  (order.validate atMs).mapError mapDomainError
  let version ← okOr (s.version.checkedAdd (.lit 1)) .arithmeticOverflow
  let seq ← okOr (s.lastTransitionSeq.checkedAdd (.lit 1)) .arithmeticOverflow
  return { next with order := order, version := version, lastTransitionSeq := seq }

def consumed : ℕ := fill.elim 0 fun delta => delta.simulatedNetInput.val

structure Accepted (s : StoredLimitOrder) (fill : Option FillDelta) (s' : StoredLimitOrder) : Prop where
  allowed : s.order.status.canTransitionTo s'.order.status = true
  conserved : s.filledInput.val + s.order.remainingInput.val = s.order.maxInput.amount.val
  filled : s'.filledInput.val = s.filledInput.val + consumed fill
  remaining : s'.order.remainingInput.val + consumed fill = s.order.remainingInput.val
  minFill : ∀ delta ∈ fill, s.order.minFill ≤ delta.simulatedNetInput
  lands : fill.isSome → s'.order.remainingInput.val = 0 → s'.order.status = .filled
  funded : s'.order.Funded
  version : s'.version.val = s.version.val + 1
  seq : s'.lastTransitionSeq.val = s.lastTransitionSeq.val + 1
  frame : s' = { s with
    order := { s.order with
      remainingInput := s'.order.remainingInput
      status := s'.order.status }
    filledInput := s'.filledInput
    version := s'.version
    lastTransitionSeq := s'.lastTransitionSeq }

variable {s s' next : StoredLimitOrder} {requested target : OrderStatus} {fill : Option FillDelta}
  {delta : FillDelta} {atMs : I64}

/-- What booking a fill changes. -/
structure Booked (s : StoredLimitOrder) (fill : Option FillDelta) (next : StoredLimitOrder) : Prop where
  filled : next.filledInput.val = s.filledInput.val + consumed fill
  remaining : next.order.remainingInput.val + consumed fill = s.order.remainingInput.val
  frame : next = { s with
    order := { s.order with remainingInput := next.order.remainingInput }
    filledInput := next.filledInput }

lemma booked_of_applyFill (h : s.applyFill delta = .ok next) : s.Booked (some delta) next := by
  obtain ⟨newRemaining, hsub, h⟩ := bind_ok.1 h
  obtain ⟨-, h⟩ := ensure_ok.1 h
  obtain ⟨newFilled, hadd, h⟩ := bind_ok.1 h
  obtain ⟨-, h⟩ := ensure_ok.1 h
  cases h
  obtain ⟨hle, hrem⟩ := Unsigned.checkedSub_eq_some.1 (okOr_eq_ok.1 hsub)
  refine ⟨Unsigned.checkedAdd_eq_some.1 (okOr_eq_ok.1 hadd), ?_, rfl⟩
  change newRemaining.val + delta.simulatedNetInput.val = _
  omega

lemma booked_of_fillStep (h : s.fillStep requested fill = .ok next) : s.Booked fill next := by
  cases fill with
  | none =>
    simp only [fillStep] at h
    split_ifs at h
    cases h
    exact ⟨rfl, rfl, rfl⟩
  | some delta =>
    simp only [fillStep] at h
    split_ifs at h
    exact booked_of_applyFill h

lemma fillStep_some (h : s.fillStep requested (some delta) = .ok next) : s.order.status.isFilling = true ∧
      (requested = .partiallyFilled ∨ requested = .filled ∨ requested = .expired) := by
  simp only [fillStep] at h
  split_ifs at h with hallowed
  revert hallowed
  cases s.order.status <;> cases requested <;> simp [fillAllowed, fillRequired, OrderStatus.isFilling]

lemma canTransitionTo_landing (h : s.order.status.canTransitionTo target = true) :
    s.order.status.canTransitionTo (s.landing next target fill) = true := by
  unfold landing
  split_ifs with hland
  · obtain ⟨-, -, hfrom, -⟩ := hland
    revert hfrom
    cases s.order.status <;> simp [OrderStatus.isFilling, OrderStatus.canTransitionTo]
  · exact h

lemma landing_eq_filled (hstep : s.fillStep requested fill = .ok next) (hfill : fill.isSome)
    (hleft : requested = .partiallyFilled → next.order.remainingInput.val ≠ 0)
    (hzero : next.order.remainingInput.val = 0) :
    s.landing next (s.deadlineTarget requested fill atMs) fill = .filled := by
  obtain ⟨delta, rfl⟩ := Option.isSome_iff_exists.1 hfill
  obtain ⟨hfrom, rfl | rfl | rfl⟩ := fillStep_some hstep
  · exact absurd hzero (hleft rfl)
  · simp [landing, deadlineTarget]
  · simp [landing, deadlineTarget, hfrom, hzero]

lemma minFill_of_checkFill (h : s.checkFill target fill = .ok ()) :
    ∀ delta ∈ fill, s.order.minFill ≤ delta.simulatedNetInput := by
  rintro delta hd
  cases hd
  simp only [checkFill, ensure_ok, ensure_eq_ok] at h
  exact h.2.2

lemma accepted_of_applyTransition (h : s.applyTransition requested fill atMs = .ok s') :
    s.Accepted fill s' := by
  obtain ⟨_, hallowed, h⟩ := bind_ok.1 h
  obtain ⟨hconserved, h⟩ := ensure_ok.1 h
  obtain ⟨-, -, h⟩ := bind_ok.1 h
  obtain ⟨next, hstep, h⟩ := bind_ok.1 h
  obtain ⟨hleft, h⟩ := ensure_ok.1 h
  obtain ⟨-, h⟩ := ensure_ok.1 h
  obtain ⟨_, hcheck, h⟩ := bind_ok.1 h
  obtain ⟨_, hvalid, h⟩ := bind_ok.1 h
  obtain ⟨version, hversion, h⟩ := bind_ok.1 h
  obtain ⟨seq, hseq, h⟩ := bind_ok.1 h
  cases h
  have hbooked := booked_of_fillStep hstep
  have hsum := Unsigned.checkedAdd_eq_some.1 (of_decide_eq_true hconserved)
  exact {
    allowed := canTransitionTo_landing (ensure_eq_ok.1 hallowed)
    conserved := hsum.symm
    filled := hbooked.filled
    remaining := hbooked.remaining
    minFill := minFill_of_checkFill hcheck
    lands := fun hfill hzero => landing_eq_filled hstep hfill hleft hzero
    funded := LimitOrder.funded_of_validate (mapError_eq_ok hvalid)
    version := Unsigned.checkedAdd_eq_some.1 (okOr_eq_ok.1 hversion)
    seq := Unsigned.checkedAdd_eq_some.1 (okOr_eq_ok.1 hseq)
    frame := by rw [hbooked.frame] }

end StoredLimitOrder

end PrivateExecution
