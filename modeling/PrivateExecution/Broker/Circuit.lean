import PrivateExecution.Domain.Saturating
import PrivateExecution.Async.Call
import PrivateExecution.Async.Machine

/-!
# The budget and the circuit of a provider

Before the broker calls a provider's adapter it asks the provider's state (`provider-broker/src/broker.rs`,
`circuit.rs`, `budget.rs`): a circuit breaker that opens after a number of failures in a row and, once its
cooldown is over, lets a single probe through, and a budget of weighted requests that refills with time. A
low priority request is shed under pressure. The result of the call is recorded in the circuit.
-/

namespace PrivateExecution.Broker

open Async

/-! ### The budget -/

inductive DegradedReason where
  | budgetExhausted | circuitBreakerOpen | cooldownActive | lowPriorityShed | candidateGatingRejected
  | providerUnavailable | negativeCached
deriving DecidableEq

inductive RequestPriority where
  | low | normal | high
deriving DecidableEq

def scale : ℕ := 1000000

/-- A number of units in the scale of the budget; the product of 32 bits and the scale fits. -/
def scaled (units : U32) : ℕ := units.val * scale

structure ProviderBudget where
  maxCapacity : U32
  availableScaled : U64
  refillPerSec : U32
  lastReplenishedMs : U64
deriving DecidableEq

namespace ProviderBudget

def new (maxCapacity refillPerSec : U32) (startTimeMs : U64) : ProviderBudget :=
  ⟨maxCapacity, .lit (scaled maxCapacity), refillPerSec, startTimeMs⟩

variable (b : ProviderBudget) (nowMs : U64)

def replenish : ProviderBudget :=
  if nowMs ≤ b.lastReplenishedMs then b
  else
    let elapsedMs := nowMs.saturatingSub b.lastReplenishedMs
    let replenish := ((elapsedMs.saturatingMul (.lit b.refillPerSec.val)).saturatingMul (.lit scale)).divBy 1000
    { b with
      availableScaled := min (b.availableScaled.saturatingAdd replenish) (.lit (scaled b.maxCapacity))
      lastReplenishedMs := nowMs }

def Covers (cost : U32) : Prop :=
  scaled cost ≤ (b.replenish nowMs).availableScaled.val

instance (b : ProviderBudget) (nowMs : U64) (cost : U32) : Decidable (b.Covers nowMs cost) :=
  inferInstanceAs (Decidable (_ ≤ _))

def tryConsume (cost : U32) : Call ProviderBudget DegradedReason Unit := do
  let b ← Call.read
  let replenished := b.replenish nowMs
  if scaled cost ≤ replenished.availableScaled.val then
    Call.write { replenished with availableScaled := replenished.availableScaled.saturatingSub (.lit (scaled cost)) }
  else
    Call.write replenished
    Call.check (.error .budgetExhausted)

def isUnderPressure : Bool :=
  decide ((b.replenish nowMs).availableScaled.val < scaled b.maxCapacity / 4)

end ProviderBudget

/-! ### The circuit -/

inductive ProviderHealthState where
  | healthy | degraded | cooldown | circuitOpen
deriving DecidableEq

structure CircuitBreaker where
  failureThreshold : U32
  cooldownDurationMs : U64
  consecutiveFailures : U32
  totalFailures : U64
  totalRequests : U64
  circuitTrips : U32
  state : ProviderHealthState
  cooldownUntilMs : U64
  probeInFlight : Bool
deriving DecidableEq

namespace CircuitBreaker

def new (failureThreshold : U32) (cooldownDurationMs : U64) : CircuitBreaker :=
  ⟨failureThreshold, cooldownDurationMs, .zero, .zero, .zero, .zero, .healthy, .zero, false⟩

variable (c : CircuitBreaker)

def isOpen : Bool := c.state = .cooldown || c.state = .circuitOpen

def checkAllowed (nowMs : U64) : Call CircuitBreaker DegradedReason Unit := do
  let c ← Call.read
  match c.state with
  | .healthy => return ()
  | .degraded => if c.probeInFlight then Call.check (.error .cooldownActive) else return ()
  | .cooldown | .circuitOpen =>
    if nowMs < c.cooldownUntilMs then Call.check (.error .cooldownActive)
    -- The probe is reserved for this request.
    else Call.write { c with state := .degraded, probeInFlight := true }

def recordSuccess : CircuitBreaker :=
  { c with
    consecutiveFailures := .zero, state := .healthy, probeInFlight := false,
    totalRequests := c.totalRequests.saturatingAdd (.lit 1) }

/-- The end of the cooldown is a plain sum, which wraps around in a release build. -/
def recordFailure (nowMs : U64) : CircuitBreaker :=
  let failed := { c with
    consecutiveFailures := c.consecutiveFailures.saturatingAdd (.lit 1)
    totalFailures := c.totalFailures.saturatingAdd (.lit 1)
    totalRequests := c.totalRequests.saturatingAdd (.lit 1)
    probeInFlight := false }
  if failed.failureThreshold ≤ failed.consecutiveFailures then
    { failed with
      state := .circuitOpen
      cooldownUntilMs := nowMs.wrappingAdd c.cooldownDurationMs
      circuitTrips := c.circuitTrips.saturatingAdd (.lit 1) }
  else { failed with state := .degraded }

def healthState (nowMs : U64) : ProviderHealthState :=
  if c.isOpen ∧ c.cooldownUntilMs ≤ nowMs then .degraded else c.state

end CircuitBreaker

/-! ### The state of a provider -/

structure ProviderState where
  budget : ProviderBudget
  circuit : CircuitBreaker
deriving DecidableEq

structure ProviderPolicy where
  freshTtlMs : U64
  staleGraceMs : U64
  negativeTtlMs : U64
  maxBudget : U32
  budgetRefillPerSec : U32
  failureThreshold : U32
  cooldownDurationMs : U64

namespace ProviderState

def new (policy : ProviderPolicy) (startMs : U64) : ProviderState :=
  ⟨.new policy.maxBudget policy.budgetRefillPerSec startMs, .new policy.failureThreshold policy.cooldownDurationMs⟩

def onCircuit (m : Call CircuitBreaker DegradedReason Unit) : Call ProviderState DegradedReason Unit :=
  fun s => ((m s.circuit).1, { s with circuit := (m s.circuit).2 })

def onBudget (m : Call ProviderBudget DegradedReason Unit) : Call ProviderState DegradedReason Unit :=
  fun s => ((m s.budget).1, { s with budget := (m s.budget).2 })

def preFlightCheck (nowMs : U64) (cost : U32) (priority : RequestPriority) :
    Call ProviderState DegradedReason Unit := do
  onCircuit (CircuitBreaker.checkAllowed nowMs)
  let s ← Call.read
  if (s.budget.isUnderPressure nowMs = true ∨ s.circuit.healthState nowMs ≠ .healthy) ∧ priority = .low then
    Call.check (.error .lowPriorityShed)
  onBudget (ProviderBudget.tryConsume nowMs cost)

end ProviderState

/-! ### What the checks can do -/

lemma CircuitBreaker.checkAllowed_cases (c : CircuitBreaker) (nowMs : U64) :
    (c.isOpen = true ∧ c.cooldownUntilMs ≤ nowMs ∧
        checkAllowed nowMs c = (.ok (), { c with state := .degraded, probeInFlight := true })) ∨
      (checkAllowed nowMs c).2 = c := by
  unfold checkAllowed
  rw [Call.read_bind]
  cases hstate : c.state with
  | healthy => exact .inr rfl
  | degraded =>
    right
    simp only
    split_ifs <;> rfl
  | cooldown =>
    simp only
    split_ifs with hlt
    · exact .inr rfl
    · exact .inl ⟨by simp [isOpen, hstate], Nat.le_of_not_lt hlt, rfl⟩
  | circuitOpen =>
    simp only
    split_ifs with hlt
    · exact .inr rfl
    · exact .inl ⟨by simp [isOpen, hstate], Nat.le_of_not_lt hlt, rfl⟩

lemma CircuitBreaker.checkAllowed_ok {c : CircuitBreaker} {nowMs : U64} (hprobe : c.probeInFlight = false)
    (hcooldown : c.cooldownUntilMs ≤ nowMs) : (checkAllowed nowMs c).1 = .ok () := by
  have hover : ¬nowMs < c.cooldownUntilMs := Nat.not_lt_of_le hcooldown
  unfold checkAllowed
  rw [Call.read_bind]
  cases hstate : c.state with
  | healthy => rfl
  | degraded =>
    simp only [hprobe]
    rfl
  | cooldown =>
    simp only [if_neg hover]
    rfl
  | circuitOpen =>
    simp only [if_neg hover]
    rfl

lemma ProviderBudget.tryConsume_ok {b : ProviderBudget} {nowMs : U64} {cost : U32}
    (h : b.Covers nowMs cost) :
    (tryConsume nowMs cost b).1 = .ok () := by
  unfold tryConsume
  rw [Call.read_bind]
  simp only [if_pos (show scaled cost ≤ (b.replenish nowMs).availableScaled.val from h)]
  rfl

namespace ProviderState

variable {s : ProviderState} {nowMs : U64} {cost : U32} {priority : RequestPriority}

def Sheds (s : ProviderState) (nowMs : U64) (priority : RequestPriority) : Prop :=
  (s.budget.isUnderPressure nowMs = true ∨ s.circuit.healthState nowMs ≠ .healthy) ∧ priority = .low

variable (m : Call ProviderBudget DegradedReason Unit)

lemma onBudget_fst (b : ProviderBudget) (c : CircuitBreaker) : (onBudget m ⟨b, c⟩).1 = (m b).1 := rfl

lemma onBudget_circuit (b : ProviderBudget) (c : CircuitBreaker) : (onBudget m ⟨b, c⟩).2.circuit = c := rfl

lemma onCircuit_eq {x : Except DegradedReason Unit} {c : CircuitBreaker}
    (h : CircuitBreaker.checkAllowed nowMs s.circuit = (x, c)) :
    onCircuit (CircuitBreaker.checkAllowed nowMs) s = (x, ⟨s.budget, c⟩) := by
  rw [onCircuit, h]

lemma preFlightCheck_of_sheds (cost : U32) {c : CircuitBreaker}
    (h : CircuitBreaker.checkAllowed nowMs s.circuit = (.ok (), c)) (hsheds : Sheds ⟨s.budget, c⟩ nowMs priority) :
    preFlightCheck nowMs cost priority s = (.error .lowPriorityShed, ⟨s.budget, c⟩) := by
  unfold preFlightCheck
  rw [Call.bind_of_ok (onCircuit_eq h), Call.read_bind]
  split_ifs with hshed
  · rfl
  · exact absurd hsheds hshed

lemma preFlightCheck_of_not_sheds (cost : U32) {c : CircuitBreaker}
    (h : CircuitBreaker.checkAllowed nowMs s.circuit = (.ok (), c)) (hkept : ¬Sheds ⟨s.budget, c⟩ nowMs priority) :
    preFlightCheck nowMs cost priority s = onBudget (ProviderBudget.tryConsume nowMs cost) ⟨s.budget, c⟩ := by
  unfold preFlightCheck
  rw [Call.bind_of_ok (onCircuit_eq h), Call.read_bind]
  split_ifs with hshed
  · exact absurd hshed hkept
  · rfl

lemma preFlightCheck_of_error (cost : U32) (priority : RequestPriority) {e : DegradedReason}
    {c : CircuitBreaker}
    (h : CircuitBreaker.checkAllowed nowMs s.circuit = (.error e, c)) :
    preFlightCheck nowMs cost priority s = (.error e, ⟨s.budget, c⟩) := by
  unfold preFlightCheck
  rw [Call.bind_of_error (onCircuit_eq h)]

lemma preFlightCheck_ok (h : (CircuitBreaker.checkAllowed nowMs s.circuit).1 = .ok ())
    (hpriority : priority ≠ .low) (hcovers : s.budget.Covers nowMs cost) :
    (preFlightCheck nowMs cost priority s).1 = .ok () := by
  have hcheck : CircuitBreaker.checkAllowed nowMs s.circuit =
      (.ok (), (CircuitBreaker.checkAllowed nowMs s.circuit).2) := Prod.ext h rfl
  rw [preFlightCheck_of_not_sheds cost hcheck fun hsheds => hpriority hsheds.2, onBudget_fst,
    ProviderBudget.tryConsume_ok hcovers]

lemma preFlightCheck_circuit :
    (preFlightCheck nowMs cost priority s).2.circuit = (CircuitBreaker.checkAllowed nowMs s.circuit).2 := by
  rcases hcheck : CircuitBreaker.checkAllowed nowMs s.circuit with ⟨e | u, c⟩
  · rw [preFlightCheck_of_error cost priority hcheck]
  · by_cases hsheds : Sheds ⟨s.budget, c⟩ nowMs priority
    · rw [preFlightCheck_of_sheds cost hcheck hsheds]
    · rw [preFlightCheck_of_not_sheds cost hcheck hsheds, onBudget_circuit]

end ProviderState

/-! ### Runs -/

/-- A provider's state with the times at which its outstanding adapter calls were started. -/
structure Provider where
  state : ProviderState
  outstanding : List U64
deriving DecidableEq

/-- A request or a refresh asks to call the adapter; an outstanding call returns. -/
inductive Act where
  | request (nowMs : U64) (cost : U32) (priority : RequestPriority)
  | complete (index : ℕ) (succeeded : Bool)

/-- What is recorded of the result of a call that was started at `startMs`. -/
def ProviderState.record (s : ProviderState) (startMs : U64) (succeeded : Bool) : ProviderState :=
  { s with circuit := if succeeded then s.circuit.recordSuccess else s.circuit.recordFailure startMs }

/-- Requests and refreshes of one provider: those that pass call the adapter, and every call that was
started may return at any time. A refresh is a request of normal priority. -/
abbrev machine : Machine Act fun _ => Except DegradedReason Unit where
  State := Provider
  step p
    | .request nowMs cost priority =>
      let (x, state) := ProviderState.preFlightCheck nowMs cost priority p.state
      (x, ⟨state, if x.toBool then p.outstanding ++ [nowMs] else p.outstanding⟩)
    | .complete index succeeded =>
      match p.outstanding[index]? with
      | none => (.ok (), p)
      | some startMs => (.ok (), ⟨p.state.record startMs succeeded, p.outstanding.eraseIdx index⟩)

/-- A request that finds the circuit open and its cooldown over is not of low priority, and the budget
covers it. -/
def Probes (p : Provider) (a : Act) : Prop :=
  ∀ nowMs cost priority, a = .request nowMs cost priority → p.state.circuit.isOpen = true →
    p.state.circuit.cooldownUntilMs ≤ nowMs → priority ≠ .low ∧ p.state.budget.Covers nowMs cost

/-- A probe in flight is a call that is outstanding. -/
def Held (p : Provider) : Prop := p.state.circuit.probeInFlight = true → p.outstanding ≠ []

lemma ProviderState.record_probe (s : ProviderState) (startMs : U64) (succeeded : Bool) :
    (s.record startMs succeeded).circuit.probeInFlight = false := by
  cases succeeded with
  | true => rfl
  | false =>
    simp only [record, CircuitBreaker.recordFailure, Bool.false_eq_true, if_false]
    split_ifs <;> rfl

lemma Held.step {p : Provider} (h : Held p) {a : Act} (hprobes : Probes p a) :
    Held (machine.step p a).2 := by
  cases a with
  | request nowMs cost priority =>
    change (ProviderState.preFlightCheck nowMs cost priority p.state).2.circuit.probeInFlight = true →
      (if (ProviderState.preFlightCheck nowMs cost priority p.state).1.toBool then p.outstanding ++ [nowMs]
        else p.outstanding) ≠ []
    rw [ProviderState.preFlightCheck_circuit]
    intro hprobe
    rcases p.state.circuit.checkAllowed_cases nowMs with ⟨hopen, hcooldown, hcheck⟩ | hsame
    · -- The probe is reserved, and the later checks are passed.
      obtain ⟨hpriority, hcovers⟩ := hprobes nowMs cost priority rfl hopen hcooldown
      have hok : (ProviderState.preFlightCheck nowMs cost priority p.state).1 = .ok () :=
        ProviderState.preFlightCheck_ok (by rw [hcheck]) hpriority hcovers
      rw [hok]
      exact List.append_ne_nil_of_right_ne_nil _ (List.cons_ne_nil _ _)
    · rw [hsame] at hprobe
      split_ifs
      · exact List.append_ne_nil_of_right_ne_nil _ (List.cons_ne_nil _ _)
      · exact h hprobe
  | complete index succeeded =>
    change Held (match p.outstanding[index]? with
      | none => (.ok (), p)
      | some startMs => (.ok (), ⟨p.state.record startMs succeeded, p.outstanding.eraseIdx index⟩) :
        Except DegradedReason Unit × Provider).2
    cases p.outstanding[index]? with
    | none => exact h
    | some startMs =>
      intro hprobe
      rw [ProviderState.record_probe] at hprobe
      cases hprobe

/-- **A provider is never locked out**, in every run whose probes are not refused after the fact. -/
theorem provider_recovers (policy : ProviderPolicy) (startMs : U64) (acts : List Act)
    (hprobes : machine.Meets Probes ⟨.new policy startMs, []⟩ acts) :
    let p : Provider := machine.run ⟨.new policy startMs, []⟩ acts
    p.outstanding = [] → ∀ nowMs cost priority, p.state.circuit.cooldownUntilMs ≤ nowMs → priority ≠ .low →
      p.state.budget.Covers nowMs cost → (ProviderState.preFlightCheck nowMs cost priority p.state).1 = .ok () := by
  intro p hidle nowMs cost priority hcooldown hpriority hcovers
  have hheld : Held p := Machine.Meets.invariant (M := machine) (P := Held) hprobes
    (fun hprobe => absurd hprobe Bool.false_ne_true) fun _ _ hs hok => hs.step hok
  have hprobe : p.state.circuit.probeInFlight = false := by
    cases hflight : p.state.circuit.probeInFlight with
    | false => rfl
    | true => exact absurd hidle (hheld hflight)
  exact ProviderState.preFlightCheck_ok (CircuitBreaker.checkAllowed_ok hprobe hcooldown) hpriority hcovers

/-! A provider that opens at the first failure, for ten milliseconds. -/

section

def Sample.policy : ProviderPolicy := ⟨.lit 100, .lit 100, .lit 100, .lit 8, .lit 1, .lit 1, .lit 10⟩

def Sample.provider : Provider := ⟨.new Sample.policy (.lit 0), []⟩

def Sample.failure : List Act := [.request (.lit 0) (.lit 1) .normal, .complete 0 false]

def Sample.opened : Provider :=
  ⟨⟨⟨.lit 8, .lit 7000000, .lit 1, .lit 0⟩,
    ⟨.lit 1, .lit 10, .lit 1, .lit 1, .lit 1, .lit 1, .circuitOpen, .lit 10, false⟩⟩, []⟩

lemma Sample.run_failure : machine.run Sample.provider Sample.failure = Sample.opened := by
  decide +kernel

/-- After the cooldown a probe that fails as well: after the next cooldown a request is let through. -/
theorem sample_recovers :
    let p : Provider := machine.run Sample.provider
      (Sample.failure ++ [.request (.lit 20) (.lit 1) .high, .complete 0 false])
    p.state.circuit.cooldownUntilMs = .lit 30 ∧
      (ProviderState.preFlightCheck (.lit 30) (.lit 1) .normal p.state).1 = .ok () := by
  intro p
  have hp : p = machine.run Sample.opened [.request (.lit 20) (.lit 1) .high, .complete 0 false] := by
    rw [← Sample.run_failure, ← Machine.run_append]
  have hidle : p.outstanding = [] := by
    rw [hp]
    decide +kernel
  have hcooldown : p.state.circuit.cooldownUntilMs = .lit 30 := by
    rw [hp]
    decide +kernel
  have hcovers : p.state.budget.Covers (.lit 30) (.lit 1) := by
    rw [hp]
    decide +kernel
  refine ⟨hcooldown, provider_recovers Sample.policy (.lit 0) _ (Machine.meets_append.2 ⟨?_, ?_⟩) hidle _ _ _
    (hcooldown ▸ Nat.le_refl _) (by decide) hcovers⟩
  · refine ⟨?_, ?_, trivial⟩
    · intro nowMs cost priority _ hopen
      exact absurd hopen (by decide)
    · intro nowMs cost priority hact
      cases hact
  · change machine.Meets Probes (machine.run Sample.provider Sample.failure) _
    rw [Sample.run_failure]
    refine ⟨?_, ?_, trivial⟩
    · intro nowMs cost priority hact _ _
      cases hact
      exact ⟨by decide, by decide +kernel⟩
    · intro nowMs cost priority hact
      cases hact

/-- After the cooldown a low priority request, which is shed: no call is outstanding, the cooldown is over
and the budget covers a request, and the request is refused. -/
theorem probe_is_leaked :
    let p : Provider := machine.run Sample.provider (Sample.failure ++ [.request (.lit 20) (.lit 1) .low])
    p.outstanding = [] ∧ p.state.circuit.cooldownUntilMs ≤ .lit 30 ∧ p.state.budget.Covers (.lit 30) (.lit 1) ∧
      (ProviderState.preFlightCheck (.lit 30) (.lit 1) .normal p.state).1 = .error .cooldownActive := by
  rw [Machine.run_append, Sample.run_failure]
  decide +kernel

end

end PrivateExecution.Broker
