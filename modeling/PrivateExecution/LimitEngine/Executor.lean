import PrivateExecution.LimitEngine.Fsm
import PrivateExecution.Relay.Verdicts

/-!
# `RelayAttemptExecutor`

The limit engine's execution seam over the relay (`limit-engine/src/executor.rs`). One table,
`mapOutcome`, turns what `execute` and `reconcile` of the relay return into an attempt resolution.
The orchestrator starts a fresh attempt after `FailedBeforeSubmit`, so that verdict has to be sound.
-/

namespace PrivateExecution

open Async

section

variable [Sha256]

/-! ### The executor -/

structure BoundAttempt where
  intent : TradeIntent
  preparedReference : String

structure PreparedAttempt where
  route : RoutePlan
  preview : ExecutionPreview
  approval : ApprovedExecution

def mapOutcome : RelayResult → AttemptResolution
  | .ok (.confirmed _ (some fill)) => .filled ⟨fill.netInput, fill.netOutput⟩
  | .ok (.confirmed _ none) => .unknown
  | .ok (.submitted _ _) | .ok .unknown | .ok .reserved | .ok .signed | .ok .prepared => .unknown
  | .ok (.rejected _) => .rejected
  | .ok .failedBeforeSubmit => .failedBeforeSubmit
  | .error .tradingDisabled | .error .chainHealthUnavailable | .error .signingUnavailable
  | .error .signingFailed | .error .signingRequestMismatch | .error .chainMismatch
  | .error .missingSignedPayload | .error .signedPayloadEmpty | .error .signedPayloadTooLarge
  | .error .signedPayloadDigestMismatch | .error .reservationUnavailable | .error .storeUnavailable
  | .error .idempotencyConflict => .failedBeforeSubmit
  | .error .adapterUnavailable | .error .adapterTimeout | .error .adapterRejected
  | .error .unknownSubmissionState | .error .invalidTransition => .unknown

namespace RelayAttemptExecutor

def execute (relay : RelayId) (prepared : PreparedAttempt) (attempt : BoundAttempt) (nowMs : I64) :
    RelayProg AttemptResolution :=
  match PreparedExecutionRef.new attempt.preparedReference attempt.intent.id
      attempt.intent.idempotencyKey with
  | .error _ => return .failedBeforeSubmit
  | .ok preparedRef => do
    let result ← PrivateExecution.execute relay
      ⟨attempt.intent, preparedRef, prepared.approval, prepared.route, prepared.preview, nowMs⟩
    return mapOutcome result

def reconcile (relay : RelayId) (attempt : BoundAttempt) (nowMs : I64) : RelayProg AttemptResolution := do
  let result ← PrivateExecution.reconcile relay (.fromIntent attempt.intent) nowMs
  return mapOutcome result

end RelayAttemptExecutor

inductive ExecutorCall where
  | execute (relay : RelayId) (prepared : PreparedAttempt) (attempt : BoundAttempt) (nowMs : I64)
  | reconcile (relay : RelayId) (attempt : BoundAttempt) (nowMs : I64)

namespace ExecutorCall

def body : ExecutorCall → RelayProg AttemptResolution
  | .execute relay prepared attempt nowMs => RelayAttemptExecutor.execute relay prepared attempt nowMs
  | .reconcile relay attempt nowMs => RelayAttemptExecutor.reconcile relay attempt nowMs

def attempt : ExecutorCall → BoundAttempt
  | .execute _ _ attempt _ | .reconcile _ attempt _ => attempt

variable (c : ExecutorCall)

def key : DurableKey := (AttemptBinding.fromIntent c.attempt.intent).key

def isExecute : ExecutorCall → Bool
  | .execute _ _ _ _ => true
  | .reconcile _ _ _ => false

def entry : ExecutorCall → Phase
  | .execute _ _ attempt _ => .unclaimed (.fromIntent attempt.intent)
  | .reconcile _ attempt _ => .observing (.fromIntent attempt.intent) none

lemma startsFresh : StartsFresh entry
  | .execute _ _ _ _ => .inl ⟨_, rfl⟩
  | .reconcile _ _ _ => .inr ⟨_, rfl⟩

lemma entry_key : (entry c).binding.key = c.key := by
  cases c <;> rfl

lemma entry_executing : (entry c).executing = c.isExecute := by
  cases c <;> rfl

def Ends (p : Phase) (v : AttemptResolution) : Prop := ∃ r, Phase.Ends p r ∧ mapOutcome r = v

lemma follows : (relayCode entry Ends).Follows Ends (entry c) c.body := by
  cases c with
  | execute relay prepared attempt nowMs =>
    simp only [body, RelayAttemptExecutor.execute]
    rcases PreparedExecutionRef.new attempt.preparedReference attempt.intent.id
      attempt.intent.idempotencyKey with e | preparedRef
    · exact ⟨.error .signingFailed, .gate _ _ (by simp), rfl⟩
    · let input : RelayExecutionInput :=
        ⟨attempt.intent, preparedRef, prepared.approval, prepared.route, prepared.preview, nowMs⟩
      have hrelay : (relayCode entry Ends).Follows Phase.Ends (.unclaimed (.fromIntent input.intent))
          (PrivateExecution.execute relay input) := execute_follows relay input
      exact hrelay.bind fun p r hr => ⟨r, hr, rfl⟩
  | reconcile relay attempt nowMs =>
    exact (reconcile_follows relay nowMs).bind fun p r hr => ⟨r, hr, rfl⟩

lemma Ends.failedBeforeSubmit {p : Phase} (h : Ends p .failedBeforeSubmit) :
    p.GivesUp ∨ p.refused = true ∨ ∃ b, p = .blind b := by
  obtain ⟨r, hends, hr⟩ := h
  have hok : ∀ o, r = .ok o → o = .failedBeforeSubmit := by
    rintro o rfl
    cases o with
    | failedBeforeSubmit => rfl
    | confirmed reference fill => cases fill <;> cases hr
    | prepared | reserved | signed | submitted | unknown | rejected => cases hr
  refine (hends.negative (fun o ho => .inr (hok o ho)) ⟨?_, ?_⟩).resolve_left ?_
  · rintro rfl
    cases hr
  · rintro rfl
    cases hr
  · rintro ⟨-, reason, rfl⟩
    cases hr

end ExecutorCall

/-! ### The verdict -/

abbrev executorPool : Code ExecutorCall RelayOp RelayOp.Ans AttemptResolution :=
  Code.ofProg ExecutorCall.body

abbrev ExecutorLabel := RelayLabel ExecutorCall AttemptResolution

/-- In every run, from its start to any point of it: nothing is sent for an attempt for which an
`execute` or a `reconcile` that was told what became of it resolved to `FailedBeforeSubmit`, neither
before nor after. -/
theorem failedBeforeSubmit_sound {faults : Bool} {relays : RelaySetup}
    {σ : Config RelayWorld ExecutorCall RelayOp RelayOp.Ans AttemptResolution executorPool.State}
    (h : Reach (relayHost faults) executorPool (.boot relays) σ) {t : Tid} {c : ExecutorCall}
    (hret : .returned t c .failedBeforeSubmit ∈ σ.trace)
    (hinformed : Informed ExecutorCall.isExecute ExecutorCall.key t c σ.trace) : submits c.key σ.trace = 0 := by
  obtain ⟨τ, hτ, hm⟩ := h.follows ExecutorCall.follows
  rw [← hm.trace] at hinformed hret ⊢
  obtain ⟨p, hends, hknown, hbelongs⟩ := known_of_returned ExecutorCall.startsFresh hτ hret
  exact hinformed.unsent hτ ExecutorCall.entry_key ExecutorCall.entry_executing hknown hbelongs
    (ExecutorCall.Ends.failedBeforeSubmit hends)

end

section

attribute [local instance] Sha256.sha2

def Sample.attempt : BoundAttempt := ⟨Sample.intent, "prepared-3"⟩

def Sample.prepared : PreparedAttempt := ⟨Sample.input.route, Sample.input.preview, Sample.input.approved⟩

/-- The verdict is wrong for the sample order: it is submitted through one relay, the adapter times
out, the process restarts with an empty journal, and a `reconcile` while the store is unavailable
resolves to `FailedBeforeSubmit`. -/
theorem failedBeforeSubmit_after_submission :
    ∃ (σ : Config RelayWorld ExecutorCall RelayOp RelayOp.Ans AttemptResolution executorPool.State)
      (t : Tid) (c : ExecutorCall), Reach (relayHost true) executorPool (.boot Sample.relays) σ ∧
      (∀ t' c', .started t' c' ∈ σ.trace → c'.attempt = Sample.attempt) ∧
      .returned t c .failedBeforeSubmit ∈ σ.trace ∧ c.attempt = Sample.attempt ∧ 0 < submits c.key σ.trace := by
  obtain ⟨request, hrun⟩ := Sample.input_submits true 0 (.error .adapterTimeout)
  obtain ⟨σ, events, hσ, htrace, -, hsub, -, hother⟩ := hrun.reach ExecutorCall.body
    (.execute 0 Sample.prepared Sample.attempt Sample.nowMs) mapOutcome
    (σ := .boot (.boot Sample.relays)) (.of_eq rfl) rfl .refl
  -- the second process: neither the outcome nor the submission can be read
  have hjournal : (σ.world.relays 1).journal Sample.binding.key = none := by
    rw [hother 1 (by decide)]
    rfl
  obtain ⟨τ, hτ, -, htrace'⟩ := hσ.call (c := .reconcile 1 Sample.attempt Sample.nowMs)
    (reconcile_blind mapOutcome hjournal)
  refine ⟨τ, σ.next, .reconcile 1 Sample.attempt Sample.nowMs, hτ, ?_, ?_, rfl, ?_⟩
  · intro t' c' hstart
    rw [htrace', started_mem_call, htrace, started_mem_call] at hstart
    rcases hstart with ⟨-, rfl⟩ | ⟨-, rfl⟩ | hnil
    · rfl
    · rfl
    · cases hnil
  · rw [htrace']
    exact .head _
  · have hmem : .did 0 (.submit Sample.binding request) (.error .adapterTimeout) ∈ τ.trace := by
      rw [htrace']
      exact .tail _ (List.mem_append_right _ (.tail _ hsub))
    exact submits_pos hmem

/-- The sample order is claimed and signed, but the store fails to note the reference of the signature: it
resolves to `FailedBeforeSubmit` and is concluded as that. -/
theorem unnoted_signature_not_submitted :
    ∃ (σ : Config RelayWorld ExecutorCall RelayOp RelayOp.Ans AttemptResolution executorPool.State)
      (c : ExecutorCall), Reach (relayHost true) executorPool (.boot Sample.relays) σ ∧
      Concluded Sample.binding .failedBeforeSubmit σ.world.attempts ∧
      Informed ExecutorCall.isExecute ExecutorCall.key 0 c σ.trace ∧
      .returned 0 c .failedBeforeSubmit ∈ σ.trace ∧ submits c.key σ.trace = 0 := by
  let c : ExecutorCall := .execute 0 Sample.prepared Sample.attempt Sample.nowMs
  obtain ⟨events, w', hplay, -, hconcluded, -⟩ := Sample.input_abandoned 0
  have hcall : Plays (relayHost true) 0 (ExecutorCall.body c) (.boot Sample.relays) (events ++ [])
      (.pure .failedBeforeSubmit) w' := hplay.bind (f := fun r => pure (mapOutcome r)) (.refl _ _)
  have hboot : Reach (relayHost true) executorPool (.boot Sample.relays) (.boot (.boot Sample.relays)) :=
    .refl
  obtain ⟨σ, hσ, rfl, htrace⟩ := hboot.call hcall
  have hinformed : Informed ExecutorCall.isExecute ExecutorCall.key 0 c σ.trace := by
    rw [htrace]
    refine ⟨fun _ _ t' c' hstart _ _ => ?_, nofun⟩
    rw [started_mem_call] at hstart
    rcases hstart with ⟨rfl, -⟩ | hnil
    · rfl
    · cases hnil
  have hret : .returned 0 c .failedBeforeSubmit ∈ σ.trace := by
    rw [htrace]
    exact .head _
  exact ⟨σ, c, hσ, hconcluded, hinformed, hret, failedBeforeSubmit_sound hσ hret hinformed⟩

end

end PrivateExecution
