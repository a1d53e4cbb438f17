import PrivateExecution.LimitEngine.Fsm
import PrivateExecution.Preview.Bridge
import PrivateExecution.Search.Bisect

/-!
# The limit trigger

The decision whether, and with how much, a stored order is executed now
(`limit-engine/src/trigger.rs`). Quotes come from an injected provider; a chunk is executable if the
exact net economics of its quote satisfy the order's limit.
-/

namespace PrivateExecution

structure QuotedAttempt where
  intent : TradeIntent
  route : RoutePlan
  netDelta : NetDelta
  assessment : TaxAssessment

inductive QuoteOutcome where
  | quoted (attempt : QuotedAttempt)
  | unavailable

abbrev QuoteProvider := StoredLimitOrder → AtomicAmount → I64 → QuoteOutcome

inductive TriggerDecision where
  | noSignal | notExecutable
  | fill (chunk : AtomicAmount)
deriving DecidableEq

structure TriggerOutcome where
  order : StoredLimitOrder
  decision : TriggerDecision
deriving DecidableEq

inductive ProbeOutcome where
  | executable | notExecutable
deriving DecidableEq

def maxSearchSteps : ℕ := 128

def maxFallbackSteps : ℕ := 128

/-- The errors of the bridge that mean that a quote does not describe the order. -/
def bridgeErrorIsIntegrity : BridgeError → Bool
  | .netDeltaInconsistent _ | .chainMismatch | .inputAssetMismatch | .outputAssetMismatch
  | .assessedAssetMismatch | .assessmentDeltaMismatch | .directionMismatch => true
  | .domain e =>
    match e with
    | .chainMismatch | .inputAssetMismatch | .outputAssetMismatch | .tradeSideMismatch
    | .intentIdMismatch | .sameAssetPair | .routeTokenMismatch | .routeOutputAssetMismatch
    | .routeOutputAmountMismatch | .routeUnmodeledFunding | .emptyRoute | .emptyRouteRef
    | .maxTotalCostAssetMismatch | .invalidMaxTotalCost | .limitPriceAssetMismatch
    | .missingLimitPrice | .unexpectedLimitPrice | .unsupportedAmountType => true
    | _ => false
  | .taxCapExceeded | .freshnessUnavailable => false

def routeIsFresh (route : RoutePlan) (nowMs : I64) (policy : FreshnessPolicy) : Bool :=
  evaluateFreshness policy route.state.observedAtMs nowMs false = some .fresh

namespace StoredLimitOrder

def quoteBindsToOrder (s : StoredLimitOrder) (attempt : QuotedAttempt) (amountIn : AtomicAmount) : Bool :=
  match s.nonce.checkedAdd s.attemptSeq with
  | none => false
  | some expectedNonce =>
    let intent := attempt.intent
    decide (intent.amount = amountIn)
      && decide (intent.amountType = .inputAssetAtomic)
      && decide (intent.orderType = .limit)
      && decide (intent.chain = s.order.chain)
      && decide (intent.tokenIn = s.order.tokenIn)
      && decide (intent.tokenOut = s.order.tokenOut)
      && decide (intent.side = s.order.side)
      && decide (intent.limitPrice = some s.order.limitPrice)
      && decide (intent.risk = s.order.risk)
      && decide (intent.allowPartialFill = s.order.allowPartialFill)
      && decide (intent.expiryMs = some s.order.expiresAtMs)
      && decide (intent.nonce = expectedNonce)
      && decide (intent.userId = s.order.owner)
      && decide (intent.walletRef = s.order.walletRef)

variable (s : StoredLimitOrder) (provider : QuoteProvider) (nowMs : I64) (policy : FreshnessPolicy)

variable (amountIn : AtomicAmount)

def judgeQuote (attempt : QuotedAttempt) : Except LimitEngineError ProbeOutcome :=
  if s.quoteBindsToOrder attempt amountIn = false then .error .integrityViolation
  else if attempt.netDelta.netInput.amount ≠ amountIn then .error .integrityViolation
  else if routeIsFresh attempt.route nowMs policy = false then .ok .notExecutable
  else
    match validateDeltaPreviewWithAssessment attempt.intent attempt.route attempt.netDelta
        attempt.assessment nowMs with
    | .error e => if bridgeErrorIsIntegrity e then .error .integrityViolation else .ok .notExecutable
    | .ok preview =>
      match preview.satisfiesLimitPrice s.order.limitPrice with
      | .ok true => .ok .executable
      | .ok false => .ok .notExecutable
      | .error _ => .error .integrityViolation

def probeAttempt : Except LimitEngineError ProbeOutcome :=
  if amountIn.val = 0 ∨ s.order.remainingInput < amountIn then .ok .notExecutable
  else
    match provider s amountIn nowMs with
    | .unavailable => .ok .notExecutable
    | .quoted attempt => s.judgeQuote nowMs policy amountIn attempt

def attemptIsExecutable : Except LimitEngineError Bool := do
  let outcome ← s.probeAttempt provider nowMs policy amountIn
  return decide (outcome = .executable)

/-- The chunk is halved until it is executable, never below the minimum fill. -/
def confirmChunk : ℕ → AtomicAmount → Except LimitEngineError (Option AtomicAmount)
  | steps, chunk => do
    if ← s.attemptIsExecutable provider nowMs policy chunk then return some chunk
    match steps with
    | 0 => return none
    | steps + 1 =>
      if chunk < s.order.minFill ∨ chunk.val / 2 < s.order.minFill.val then return none
      confirmChunk steps (.lit (chunk.val / 2))

/-- Replaces a chunk that leaves too little: by the whole, or by the largest one that leaves the minimum
fill. -/
def completeOrCap : Except LimitEngineError (Option AtomicAmount) := do
  if ← s.attemptIsExecutable provider nowMs policy s.order.remainingInput then
    return some s.order.remainingInput
  match s.order.remainingInput.checkedSub s.order.minFill with
  | none => return none
  | some capped =>
    if capped < s.order.minFill then return none
    if ← s.attemptIsExecutable provider nowMs policy capped then return some capped
    return none

def leaveViable (chunk : AtomicAmount) : Except LimitEngineError (Option AtomicAmount) :=
  if chunk = s.order.remainingInput then .ok (some chunk)
  else
    match s.order.remainingInput.checkedSub chunk with
    | none => .ok none
    | some leftover =>
      if leftover < s.order.minFill then s.completeOrCap provider nowMs policy else .ok (some chunk)

def finalizeCandidate (candidate : AtomicAmount) : Except LimitEngineError (Option AtomicAmount) := do
  match ← s.confirmChunk provider nowMs policy maxFallbackSteps candidate with
  | none => return none
  | some chunk => s.leaveViable provider nowMs policy chunk

def maxSafeFill : Except LimitEngineError (Option AtomicAmount) := do
  let remaining := s.order.remainingInput
  let minFill := s.order.minFill
  if minFill.val = 0 ∨ remaining < minFill then return none
  let full ← s.attemptIsExecutable provider nowMs policy remaining
  if s.order.allowPartialFill = false then return (if full then some remaining else none)
  if full then return some remaining
  if !(← s.attemptIsExecutable provider nowMs policy minFill) then return none
  let probe := fun n => s.attemptIsExecutable provider nowMs policy (.lit n)
  let lo ← Search.bisect probe maxSearchSteps minFill.val remaining.val
  s.finalizeCandidate provider nowMs policy (.lit lo)

/-- The order as a candidate; the table has no edge from `TriggerCandidate` to itself. -/
def promote : Except LimitEngineError StoredLimitOrder :=
  if s.order.status = .triggerCandidate then .ok s else s.applyTransition .triggerCandidate none nowMs

def evaluateTrigger (signal : Bool) : Except LimitEngineError TriggerOutcome := do
  let status := s.order.status
  if status.isTerminal = false ∧ s.order.expiresAtMs ≤ nowMs then
    return ⟨← s.applyTransition .expired none nowMs, .notExecutable⟩
  if status.isTerminal then return ⟨s, .notExecutable⟩
  if signal = false then return ⟨s, .noSignal⟩
  let candidate ← s.promote nowMs
  match ← s.maxSafeFill provider nowMs policy with
  | some chunk => return ⟨candidate, .fill chunk⟩
  | none => return ⟨← candidate.applyTransition .active none nowMs, .notExecutable⟩

/-! ### Safe chunks -/

/-- A chunk that can be filled now: executable, at least the minimum fill, and leaving nothing or a
remainder that can still be filled. -/
structure Fillable (c : AtomicAmount) : Prop where
  executable : s.attemptIsExecutable provider nowMs policy c = .ok true
  minFill_le : s.order.minFill ≤ c
  le_remaining : c ≤ s.order.remainingInput
  remainder : c = s.order.remainingInput ∨ s.order.minFill.val ≤ s.order.remainingInput.val - c.val
  whole : s.order.allowPartialFill = false → c = s.order.remainingInput

def DownwardClosed : Prop :=
  ∀ a b : AtomicAmount, s.order.minFill ≤ a → a ≤ b → b ≤ s.order.remainingInput →
    s.attemptIsExecutable provider nowMs policy b = .ok true →
    s.attemptIsExecutable provider nowMs policy a = .ok true

variable {s provider nowMs policy} {steps : ℕ} {chunk c : AtomicAmount}

attribute [local simp] bind Except.bind pure Except.pure

lemma le_remaining_of_executable (h : s.attemptIsExecutable provider nowMs policy c = .ok true) :
    c ≤ s.order.remainingInput := by
  by_contra hgt
  have hlt : s.order.remainingInput < c := Nat.lt_of_not_le hgt
  simp [attemptIsExecutable, probeAttempt, hlt] at h

lemma ne_zero_of_executable (h : s.attemptIsExecutable provider nowMs policy c = .ok true) : c.val ≠ 0 := by
  intro hzero
  simp [attemptIsExecutable, probeAttempt, hzero] at h

lemma confirmChunk_spec (h : s.confirmChunk provider nowMs policy steps chunk = .ok (some c))
    (hmin : s.order.minFill ≤ chunk) :
    s.attemptIsExecutable provider nowMs policy c = .ok true ∧ s.order.minFill ≤ c := by
  induction steps generalizing chunk with
  | zero =>
    unfold confirmChunk at h
    obtain ⟨b, hb, h⟩ := bind_ok.1 h
    cases b with
    | false => cases h
    | true =>
      cases h
      exact ⟨hb, hmin⟩
  | succ steps ih =>
    unfold confirmChunk at h
    obtain ⟨b, hb, h⟩ := bind_ok.1 h
    cases b with
    | false =>
      simp only [Bool.false_eq_true, if_false] at h
      split_ifs at h with hlow
      · cases h
      · have hhalf : (Unsigned.lit (chunk.val / 2) : AtomicAmount).val = chunk.val / 2 :=
          Unsigned.lit_val (lt_of_le_of_lt (Nat.div_le_self ..) chunk.lt)
        have hle : s.order.minFill.val ≤ chunk.val / 2 := by omega
        exact ih h (by rw [Unsigned.le_def, hhalf]; exact hle)
    | true =>
      cases h
      exact ⟨hb, hmin⟩

lemma confirmChunk_of_executable (h : s.attemptIsExecutable provider nowMs policy chunk = .ok true) :
    s.confirmChunk provider nowMs policy steps chunk = .ok (some chunk) := by
  unfold confirmChunk
  simp [h]

lemma fillable_whole (hexec : s.attemptIsExecutable provider nowMs policy s.order.remainingInput = .ok true)
    (hmin : s.order.minFill ≤ s.order.remainingInput) :
    s.Fillable provider nowMs policy s.order.remainingInput :=
  ⟨hexec, hmin, Nat.le_refl _, .inl rfl, fun _ => rfl⟩

lemma fillable_part (hpart : s.order.allowPartialFill = true)
    (hexec : s.attemptIsExecutable provider nowMs policy c = .ok true) (hmin : s.order.minFill ≤ c)
    (hleft : s.order.minFill.val ≤ s.order.remainingInput.val - c.val) : s.Fillable provider nowMs policy c :=
  ⟨hexec, hmin, le_remaining_of_executable hexec, .inr hleft, fun h => absurd hpart (by simp [h])⟩

lemma fillable_of_completeOrCap (hpart : s.order.allowPartialFill = true)
    (hmin : s.order.minFill ≤ s.order.remainingInput)
    (h : s.completeOrCap provider nowMs policy = .ok (some c)) : s.Fillable provider nowMs policy c := by
  obtain ⟨full, hfull, h⟩ := bind_ok.1 h
  cases full with
  | true =>
    cases h
    exact fillable_whole hfull hmin
  | false =>
    simp only [Bool.false_eq_true, if_false] at h
    cases hsub : s.order.remainingInput.checkedSub s.order.minFill with
    | none => simp [hsub] at h
    | some capped =>
      simp only [hsub] at h
      split_ifs at h with hlow
      · cases h
      · obtain ⟨b, hb, h⟩ := bind_ok.1 h
        cases b with
        | false => cases h
        | true =>
          cases h
          obtain ⟨hle, hval⟩ := Unsigned.checkedSub_eq_some.1 hsub
          exact fillable_part hpart hb (Nat.le_of_not_lt hlow) (by omega)

lemma fillable_of_finalizeCandidate (hpart : s.order.allowPartialFill = true)
    (hmin : s.order.minFill ≤ s.order.remainingInput) (hchunk : s.order.minFill ≤ chunk)
    (h : s.finalizeCandidate provider nowMs policy chunk = .ok (some c)) :
    s.Fillable provider nowMs policy c := by
  obtain ⟨confirmed, hconfirm, h⟩ := bind_ok.1 h
  cases confirmed with
  | none => cases h
  | some m =>
    obtain ⟨hexec, hle⟩ := confirmChunk_spec hconfirm hchunk
    simp only [leaveViable] at h
    split_ifs at h with hwhole
    · cases h
      exact hwhole ▸ fillable_whole (hwhole ▸ hexec) hmin
    · cases hsub : s.order.remainingInput.checkedSub m with
      | none => simp [hsub] at h
      | some leftover =>
        simp only [hsub] at h
        split_ifs at h with hlow
        · exact fillable_of_completeOrCap hpart hmin h
        · cases h
          obtain ⟨-, hval⟩ := Unsigned.checkedSub_eq_some.1 hsub
          exact fillable_part hpart hexec hle (by rw [← hval]; exact Nat.le_of_not_lt hlow)

lemma bisected {lo : ℕ} (hmin : s.order.minFill ≤ s.order.remainingInput)
    (hleast : s.attemptIsExecutable provider nowMs policy s.order.minFill = .ok true)
    (hfull : s.attemptIsExecutable provider nowMs policy s.order.remainingInput = .ok false)
    (h : Search.bisect (fun n => s.attemptIsExecutable provider nowMs policy (.lit n)) maxSearchSteps
      s.order.minFill.val s.order.remainingInput.val = .ok lo) :
    s.order.minFill.val ≤ lo ∧ lo < s.order.remainingInput.val ∧
      s.attemptIsExecutable provider nowMs policy (.lit lo) = .ok true ∧
      s.attemptIsExecutable provider nowMs policy (.lit (lo + 1)) = .ok false := by
  have hlt : s.order.minFill.val < s.order.remainingInput.val := by
    refine lt_of_le_of_ne hmin fun heq => ?_
    rw [Unsigned.ext heq, hfull] at hleast
    cases hleast
  refine ⟨Search.le_of_bisect h, ?_⟩
  exact Search.bisect_neighbours (fun _ => id) (fun _ => id) (by simpa using hleast)
    (by simpa using hfull) hlt ((Nat.sub_le ..).trans s.order.remainingInput.lt.le) h

lemma fillable_of_maxSafeFill (h : s.maxSafeFill provider nowMs policy = .ok (some c)) :
    s.Fillable provider nowMs policy c := by
  by_cases hempty : s.order.minFill.val = 0 ∨ s.order.remainingInput < s.order.minFill
  · simp [maxSafeFill, hempty] at h
  have hmin : s.order.minFill ≤ s.order.remainingInput := Nat.le_of_not_lt fun h => hempty (.inr h)
  simp only [maxSafeFill, if_neg hempty] at h
  obtain ⟨full, hfull, h⟩ := bind_ok.1 h
  cases hpart : s.order.allowPartialFill with
  | false =>
    simp only [hpart, if_true] at h
    cases full with
    | false => cases h
    | true =>
      cases h
      exact fillable_whole hfull hmin
  | true =>
    simp only [hpart, Bool.true_eq_false, if_false] at h
    cases full with
    | true =>
      cases h
      exact fillable_whole hfull hmin
    | false =>
      simp only [Bool.false_eq_true, if_false] at h
      obtain ⟨least, hleast, h⟩ := bind_ok.1 h
      cases least with
      | false => cases h
      | true =>
        simp only [Bool.not_true, Bool.false_eq_true, if_false] at h
        obtain ⟨lo, hlo, h⟩ := bind_ok.1 h
        obtain ⟨hle, hlt, -⟩ := bisected hmin hleast hfull hlo
        have hval : (Unsigned.lit lo : AtomicAmount).val = lo :=
          Unsigned.lit_val (hlt.trans s.order.remainingInput.lt)
        exact fillable_of_finalizeCandidate hpart hmin (by rw [Unsigned.le_def, hval]; exact hle) h

/-! ### The greatest chunk -/

def Answers (s : StoredLimitOrder) (provider : QuoteProvider) (nowMs : I64) (policy : FreshnessPolicy) :
    Option AtomicAmount → Prop
  | none => ∀ c, ¬ s.Fillable provider nowMs policy c
  | some c => IsGreatest {c | s.Fillable provider nowMs policy c} c

lemma greatest_whole (h : s.Fillable provider nowMs policy s.order.remainingInput) :
    IsGreatest {c | s.Fillable provider nowMs policy c} s.order.remainingInput :=
  ⟨h, fun _ hc => hc.le_remaining⟩

lemma Fillable.leaves (h : s.Fillable provider nowMs policy c)
    (hfull : s.attemptIsExecutable provider nowMs policy s.order.remainingInput = .ok false) :
    s.order.minFill.val ≤ s.order.remainingInput.val - c.val := by
  rcases h.remainder with rfl | hleft
  · cases hfull.symm.trans h.executable
  · exact hleft

section

variable (hmin : s.order.minFill ≤ s.order.remainingInput) (hpart : s.order.allowPartialFill = true)
  (hfull : s.attemptIsExecutable provider nowMs policy s.order.remainingInput = .ok false)

include hmin hpart hfull

lemma completeOrCap_answers (hcap : ∀ a : AtomicAmount, s.order.minFill ≤ a →
      a.val ≤ s.order.remainingInput.val - s.order.minFill.val →
      s.attemptIsExecutable provider nowMs policy a = .ok true) :
    ∃ r, s.completeOrCap provider nowMs policy = .ok r ∧ s.Answers provider nowMs policy r := by
  obtain ⟨capped, hcapped⟩ : ∃ capped, s.order.remainingInput.checkedSub s.order.minFill = some capped :=
    ⟨⟨s.order.remainingInput.val - s.order.minFill.val, _⟩, dif_pos hmin⟩
  obtain ⟨-, hval⟩ := Unsigned.checkedSub_eq_some.1 hcapped
  have hle : ∀ c, s.Fillable provider nowMs policy c → c ≤ capped := by
    intro c hc
    have hleaves := hc.leaves hfull
    have := hc.le_remaining
    rw [Unsigned.le_def] at this hmin ⊢
    omega
  by_cases hlow : capped < s.order.minFill
  · refine ⟨none, by simp [completeOrCap, hfull, hcapped, hlow], ?_⟩
    intro c hc
    exact absurd (Nat.le_trans hc.minFill_le (hle c hc)) (Nat.not_le_of_lt hlow)
  · have hmincap : s.order.minFill ≤ capped := Nat.le_of_not_lt hlow
    have hexec := hcap capped hmincap hval.le
    refine ⟨some capped, ?_, ?_, fun c hc => hle c hc⟩
    · simp [completeOrCap, hfull, hcapped, hlow, hexec]
    · refine fillable_part hpart hexec hmincap ?_
      rw [Unsigned.le_def] at hmin
      omega

lemma finalizeCandidate_answers (hchunk : s.order.minFill ≤ chunk) (hlt : chunk < s.order.remainingInput)
    (hbelow : ∀ a, s.order.minFill ≤ a → a ≤ chunk →
      s.attemptIsExecutable provider nowMs policy a = .ok true)
    (habove : ∀ c, s.Fillable provider nowMs policy c → c ≤ chunk) :
    ∃ r, s.finalizeCandidate provider nowMs policy chunk = .ok r ∧ s.Answers provider nowMs policy r := by
  have hexec := hbelow chunk hchunk (Nat.le_refl _)
  have hne : chunk ≠ s.order.remainingInput := by
    rintro rfl
    exact Nat.lt_irrefl _ hlt
  obtain ⟨leftover, hleft⟩ : ∃ leftover, s.order.remainingInput.checkedSub chunk = some leftover :=
    ⟨⟨s.order.remainingInput.val - chunk.val, _⟩, dif_pos (Nat.le_of_lt hlt)⟩
  obtain ⟨-, hval⟩ := Unsigned.checkedSub_eq_some.1 hleft
  have hstep : s.finalizeCandidate provider nowMs policy chunk =
      if leftover < s.order.minFill then s.completeOrCap provider nowMs policy else .ok (some chunk) := by
    simp [finalizeCandidate, confirmChunk_of_executable hexec, leaveViable, hne, hleft]
  rw [hstep]
  by_cases hlow : leftover < s.order.minFill
  · rw [if_pos hlow]
    refine completeOrCap_answers hmin hpart hfull fun a ha hle => hbelow a ha ?_
    rw [Unsigned.lt_def] at hlow hlt
    rw [Unsigned.le_def]
    omega
  · rw [if_neg hlow]
    refine ⟨_, rfl, fillable_part hpart hexec hchunk ?_, fun c hc => habove c hc⟩
    rw [← hval]
    exact Nat.le_of_not_lt hlow

lemma bisected_answers {lo : ℕ} (hdown : s.DownwardClosed provider nowMs policy)
    (hleast : s.attemptIsExecutable provider nowMs policy s.order.minFill = .ok true)
    (h : Search.bisect (fun n => s.attemptIsExecutable provider nowMs policy (.lit n)) maxSearchSteps
      s.order.minFill.val s.order.remainingInput.val = .ok lo) :
    ∃ r, s.finalizeCandidate provider nowMs policy (.lit lo) = .ok r ∧ s.Answers provider nowMs policy r := by
  obtain ⟨hminlo, hlt, hexec, hnext⟩ := bisected hmin hleast hfull h
  have hlimit := s.order.remainingInput.lt
  have hval : (Unsigned.lit lo : AtomicAmount).val = lo := Unsigned.lit_val (by omega)
  have hvalnext : (Unsigned.lit (lo + 1) : AtomicAmount).val = lo + 1 := Unsigned.lit_val (by omega)
  refine finalizeCandidate_answers hmin hpart hfull (by rw [Unsigned.le_def, hval]; exact hminlo)
    (by rw [Unsigned.lt_def, hval]; exact hlt) ?_ ?_
  · intro a ha hle
    exact hdown a _ ha hle (by rw [Unsigned.le_def, hval]; exact hlt.le) hexec
  · intro c hc
    rw [Unsigned.le_def, hval]
    by_contra hgt
    have habove : (Unsigned.lit (lo + 1) : AtomicAmount) ≤ c := by
      rw [Unsigned.le_def, hvalnext]
      omega
    have hbelow : s.order.minFill ≤ Unsigned.lit (lo + 1) := by
      rw [Unsigned.le_def, hvalnext]
      omega
    cases hnext.symm.trans (hdown _ c hbelow habove hc.le_remaining hc.executable)

end

lemma maxSafeFill_answers (hpure : ∀ amount, ∃ b, s.attemptIsExecutable provider nowMs policy amount = .ok b)
    (hdown : s.DownwardClosed provider nowMs policy) :
    ∃ r, s.maxSafeFill provider nowMs policy = .ok r ∧ s.Answers provider nowMs policy r := by
  by_cases hempty : s.order.minFill.val = 0 ∨ s.order.remainingInput < s.order.minFill
  · refine ⟨none, by simp [maxSafeFill, hempty], fun c hc => ?_⟩
    rcases hempty with hzero | hover
    · -- the empty chunk would be executable too
      have hexec := hdown _ c (Nat.le_refl _) hc.minFill_le hc.le_remaining hc.executable
      exact ne_zero_of_executable hexec hzero
    · exact absurd (Nat.le_trans hc.minFill_le hc.le_remaining) (Nat.not_le_of_lt hover)
  have hle : s.order.minFill ≤ s.order.remainingInput := Nat.le_of_not_lt fun h => hempty (.inr h)
  obtain ⟨full, hfull⟩ := hpure s.order.remainingInput
  cases full with
  | true =>
    refine ⟨some s.order.remainingInput, ?_, greatest_whole (fillable_whole hfull hle)⟩
    cases hpart : s.order.allowPartialFill <;>
      simp [maxSafeFill, hempty, hfull, hpart]
  | false =>
    cases hpart : s.order.allowPartialFill with
    | false =>
      refine ⟨none, ?_, fun c hc => ?_⟩
      · simp [maxSafeFill, hempty, hfull, hpart]
      · have hexec := hc.executable
        rw [hc.whole hpart, hfull] at hexec
        cases hexec
    | true =>
      obtain ⟨least, hleast⟩ := hpure s.order.minFill
      cases least with
      | false =>
        refine ⟨none, ?_, fun c hc => ?_⟩
        · simp [maxSafeFill, hempty, hfull, hpart, hleast]
        · cases hleast.symm.trans
            (hdown _ c (Nat.le_refl _) hc.minFill_le hc.le_remaining hc.executable)
      | true =>
        obtain ⟨lo, hlo⟩ := @Search.bisect_total _ _ s.order.minFill.val s.order.remainingInput.val
          (fun n _ _ => hpure (.lit n)) maxSearchSteps
        have hstep : s.maxSafeFill provider nowMs policy =
            s.finalizeCandidate provider nowMs policy (.lit lo) := by
          simp [maxSafeFill, hempty, hfull, hpart, hleast, hlo]
        rw [hstep]
        exact bisected_answers hle hpart hfull hdown hleast hlo

/-- What `max_safe_fill` returns can be filled. -/
theorem max_safe_fill_greatest (s : StoredLimitOrder) (provider : QuoteProvider) (nowMs : I64)
    (policy : FreshnessPolicy) :
    (∀ c, s.maxSafeFill provider nowMs policy = .ok (some c) → s.Fillable provider nowMs policy c) ∧
      ((∀ amount, ∃ b, s.attemptIsExecutable provider nowMs policy amount = .ok b) →
        s.DownwardClosed provider nowMs policy →
        (∀ c, s.maxSafeFill provider nowMs policy = .ok (some c) ↔
          IsGreatest {c | s.Fillable provider nowMs policy c} c) ∧
        (s.maxSafeFill provider nowMs policy = .ok none ↔
          ∀ c, ¬ s.Fillable provider nowMs policy c)) := by
  refine ⟨fun c h => fillable_of_maxSafeFill h, fun hpure hdown => ?_⟩
  obtain ⟨r, hr, hanswers⟩ := maxSafeFill_answers hpure hdown
  rw [hr]
  cases r with
  | none =>
    have hnone : ∀ c, ¬ s.Fillable provider nowMs policy c := hanswers
    refine ⟨fun c => ⟨fun h => ?_, fun h => absurd h.1 (hnone c)⟩, fun _ => hnone, fun _ => rfl⟩
    cases h
  | some g =>
    have hgreatest : IsGreatest {c | s.Fillable provider nowMs policy c} g := hanswers
    refine ⟨fun c => ⟨fun h => ?_, fun h => ?_⟩, fun h => ?_, fun h => absurd hgreatest.1 (h g)⟩
    · cases h
      exact hgreatest
    · exact congrArg _ (congrArg _ (Unsigned.ext (Nat.le_antisymm (h.2 hgreatest.1) (hgreatest.2 h.1))))
    · cases h

namespace TriggerSample

def tokenIn : AssetId := ⟨.base, "0xa"⟩

def tokenOut : AssetId := ⟨.base, "0xb"⟩

lemma two_ne_zero : (.lit 2 : U128).val ≠ 0 := by decide

lemma unit_ne_zero : (.lit 1 : U128).val ≠ 0 := by decide

/-- An order with three of five units left, at most two paid per unit bought. -/
def stored (status : OrderStatus) (minFill version : ℕ) : StoredLimitOrder where
  schemaVersion := .lit 1
  version := .lit version
  order := {
    id := .lit "o"
    owner := .lit "u"
    walletRef := .lit "w"
    chain := .base
    tokenIn := tokenIn
    tokenOut := tokenOut
    side := .buy
    maxInput := ⟨tokenIn, .lit 5⟩
    remainingInput := .lit 3
    limitPrice := ⟨tokenIn, tokenOut, ⟨.lit 2, .lit 1, two_ne_zero, unit_ne_zero⟩⟩
    risk := ⟨.lit 0, .lit 0, .lit 100, .lit 100, none⟩
    allowPartialFill := true
    minFill := .lit minFill
    expiresAtMs := .lit 1000
    status := status }
  orderIntentId := .lit "i"
  orderIdempotencyKey := .lit "k"
  nonce := Unsigned.zero
  attemptSeq := Unsigned.zero
  filledInput := .lit 2
  lastTransitionSeq := Unsigned.zero
  publishedSeq := Unsigned.zero
  nextEligibleAtMs := none

/-- One unit bought per unit paid, over one pool, for the chunk asked for. -/
def attempt (s : StoredLimitOrder) (amount : AtomicAmount) : QuotedAttempt where
  intent := {
    id := .lit "i"
    source := .internal
    userId := s.order.owner
    walletRef := s.order.walletRef
    chain := s.order.chain
    tokenIn := s.order.tokenIn
    tokenOut := s.order.tokenOut
    side := s.order.side
    amountType := .inputAssetAtomic
    amount := amount
    orderType := .limit
    limitPrice := some s.order.limitPrice
    risk := s.order.risk
    allowPartialFill := s.order.allowPartialFill
    expiryMs := some s.order.expiresAtMs
    nonce := s.nonce
    idempotencyKey := .lit "k" }
  route := ⟨[⟨"v", "p", s.order.tokenIn, s.order.tokenOut, amount, amount⟩], ⟨s.order.tokenOut, amount⟩,
    ⟨.lit 10, .lit 1, .lit 1⟩⟩
  netDelta := ⟨s.order.tokenIn, s.order.tokenOut, ⟨s.order.tokenIn, amount⟩, ⟨s.order.tokenOut, amount⟩,
    ⟨s.order.tokenOut, amount⟩, none, none⟩
  assessment := ⟨s.order.tokenOut, .base, .lit 0, .lit 0, ⟨.fresh, .lit 10, .lit 1⟩, .lit 1⟩

def quotes : QuoteProvider := fun s amount _ =>
  if amount.val ≤ 2 then .quoted (attempt s amount) else .unavailable

lemma executable_iff {s : StoredLimitOrder} (hone : s.attemptIsExecutable quotes (.lit 100) .default (.lit 1) = .ok true)
    (htwo : s.attemptIsExecutable quotes (.lit 100) .default (.lit 2) = .ok true) (amount : AtomicAmount) :
    s.attemptIsExecutable quotes (.lit 100) .default amount =
      .ok (decide (amount.val = 1 ∨ amount.val = 2)) := by
  by_cases h : amount.val = 1 ∨ amount.val = 2
  · rcases h with h | h
    · obtain rfl : amount = .lit 1 := Unsigned.ext h
      exact hone
    · obtain rfl : amount = .lit 2 := Unsigned.ext h
      exact htwo
  · have hprobe : s.probeAttempt quotes (.lit 100) .default amount = .ok .notExecutable := by
      by_cases hzero : amount.val = 0
      · simp [probeAttempt, hzero]
      · have hbig : ¬ amount.val ≤ 2 := by omega
        simp [probeAttempt, quotes, hbig]
    simp [attemptIsExecutable, hprobe, h]

lemma downwardClosed {s : StoredLimitOrder} (hone : s.attemptIsExecutable quotes (.lit 100) .default (.lit 1) = .ok true)
    (htwo : s.attemptIsExecutable quotes (.lit 100) .default (.lit 2) = .ok true)
    (hmin : s.order.minFill.val ≠ 0) : s.DownwardClosed quotes (.lit 100) .default := by
  intro a b ha hab _ hb
  rw [executable_iff hone htwo] at hb ⊢
  have hb : b.val = 1 ∨ b.val = 2 := by simpa using hb
  rw [Unsigned.le_def] at ha hab
  have ha : a.val = 1 ∨ a.val = 2 := by omega
  simp [ha]

end TriggerSample

open TriggerSample in
/-- With three units left and quotes for one and two, two units are filled. -/
theorem sample_fill_greatest :
    (stored .active 1 1).maxSafeFill quotes (.lit 100) .default = .ok (some (.lit 2)) ∧
      IsGreatest {c | (stored .active 1 1).Fillable quotes (.lit 100) .default c} (.lit 2) := by
  have hone : (stored .active 1 1).attemptIsExecutable quotes (.lit 100) .default (.lit 1) = .ok true := by
    decide +kernel
  have htwo : (stored .active 1 1).attemptIsExecutable quotes (.lit 100) .default (.lit 2) = .ok true := by
    decide +kernel
  have hfill : (stored .active 1 1).maxSafeFill quotes (.lit 100) .default = .ok (some (.lit 2)) := by
    decide +kernel
  have hmin : (stored .active 1 1).order.minFill.val ≠ 0 := by decide
  have hgreatest := (max_safe_fill_greatest (stored .active 1 1) quotes (.lit 100) .default).2
    (fun amount => ⟨_, executable_iff hone htwo amount⟩) (downwardClosed hone htwo hmin)
  exact ⟨hfill, (hgreatest.1 _).1 hfill⟩

end StoredLimitOrder

end PrivateExecution
