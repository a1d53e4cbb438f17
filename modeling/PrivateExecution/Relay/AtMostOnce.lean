import PrivateExecution.Relay.Ownership
import PrivateExecution.Relay.Progress

/-!
# The relay signs and submits at most once

Runs of `ExecutionRelay::execute` and `reconcile` over one durable store: any number of calls on
any number of relay instances, every interleaving, every call dropped at any point, every answer of
signer, payload source and adapter, and store calls that fail before or after taking effect.
-/

namespace PrivateExecution

open Async

section

variable [Sha256] {Call Ret : Type}

/-! ### What the trace contains -/

/-- The evidence a call in a given phase has left in the trace. -/
def Phase.Backed (t : Tid) (trace : List (RelayLabel Call Ret)) : Phase → Prop
  | .turnedAway b answer => ∃ d, .did t (.store (.reserveBound b d)) answer ∈ trace
  | .claimed b d => .did t (.store (.reserveBound b d)) (.ok .reserved) ∈ trace
  | .signed b d answer =>
    .did t (.store (.reserveBound b d)) (.ok .reserved) ∈ trace ∧
      ∃ signing : SigningRequest, signing.requestDigest = d ∧ .did t (.sign b signing) answer ∈ trace
  | .persisted b d request =>
    .did t (.store (.reserveBound b d)) (.ok .reserved) ∈ trace ∧
      (∃ (signing : SigningRequest) (s : SignedExecutionRef), signing.requestDigest = d ∧
        .did t (.sign b signing) (.ok s) ∈ trace ∧ s.MatchesClaim b d) ∧
      .did t (.store (.recordSubmission b d request)) (.ok ()) ∈ trace
  | .sent b _ answer => ∃ request, .did t (.submit b request) answer ∈ trace
  | .observing b (some seen) => ∃ request now,
      .did t (.query b request now) (.ok seen) ∈ trace ∨
        .did t (.reconcile b request now) (.ok seen) ∈ trace
  | .recalled b o => .did t (.store (.loadOutcome b)) (.ok (some o)) ∈ trace
  | .blind b => ∃ e, .did t (.store (.loadSubmission b)) (.error e) ∈ trace
  | .unclaimed _ | .abandoned _ _ | .observing _ none => True

section

variable {t : Tid} {trace : List (RelayLabel Call Ret)} {p p' : Phase}

lemma Phase.Backed.cons (h : p.Backed t trace) (l : RelayLabel Call Ret) : p.Backed t (l :: trace) := by
  cases p with
  | unclaimed | abandoned => trivial
  | turnedAway b answer | blind b =>
    obtain ⟨x, hx⟩ := h
    exact ⟨x, .tail _ hx⟩
  | claimed b d | recalled b o => exact .tail _ h
  | signed b d answer =>
    obtain ⟨hres, signing, hd, hs⟩ := h
    exact ⟨.tail _ hres, signing, hd, .tail _ hs⟩
  | persisted b d request =>
    obtain ⟨hres, ⟨signing, s, hd, hs, hm⟩, hsub⟩ := h
    exact ⟨.tail _ hres, ⟨signing, s, hd, .tail _ hs, hm⟩, .tail _ hsub⟩
  | sent b d answer =>
    obtain ⟨request, hx⟩ := h
    exact ⟨request, .tail _ hx⟩
  | observing b seen =>
    rcases seen with _ | seen
    · trivial
    · obtain ⟨request, now, hx⟩ := h
      exact ⟨request, now, hx.imp (.tail _) (.tail _)⟩

lemma Phase.Backed.move {o : RelayOp} {r : o.Ans} (h : p.Backed t trace)
    (hmove : RelayMove p o r p') : p'.Backed t (.did t o r :: trace) := by
  have hcons := h.cons (.did t o r)
  cases hmove with
  | quiet | requestSign | noteSigned | persistFailed | conclude | recallNone | load | record =>
    exact hcons
  | claim b d => exact .head _
  | turnAway b d answer => exact ⟨d, .head _⟩
  | sign b request r => exact ⟨hcons, request, rfl, .head _⟩
  | persist b d s request hs =>
    obtain ⟨hres, signing, hd, hsign⟩ := hcons
    exact ⟨hres, ⟨signing, s, hd, hsign, hs⟩, .head _⟩
  | submit b d request r => exact ⟨request, .head _⟩
  | abandon => trivial
  | recallSome b o => exact .head _
  | loadFailed _ b e => exact ⟨e, .head _⟩
  | query _ b request now r =>
    rcases r with e | seen
    · trivial
    · exact ⟨request, now, .inl (.head _)⟩
  | reconcile _ b request now r =>
    rcases r with e | seen
    · trivial
    · exact ⟨request, now, .inr (.head _)⟩

/-- A submission is preceded by the claim, the matching signature and its own persistence. -/
def SubmitBacked (trace : List (RelayLabel Call Ret)) : Prop :=
  ∀ t b request r pre, (.did t (.submit b request) r :: pre) <:+ trace →
    ∃ (d : RequestDigest) (signing : SigningRequest) (s : SignedExecutionRef),
      .did t (.store (.reserveBound b d)) (.ok .reserved) ∈ pre ∧
      signing.requestDigest = d ∧ .did t (.sign b signing) (.ok s) ∈ pre ∧ s.MatchesClaim b d ∧
      .did t (.store (.recordSubmission b d request)) (.ok ()) ∈ pre

def StartsFresh (entry : Call → Phase) : Prop :=
  ∀ c, (∃ b, entry c = .unclaimed b) ∨ ∃ b, entry c = .observing b none

lemma StartsFresh.claim {entry : Call → Phase} (h : StartsFresh entry) (c : Call) :
    (entry c).claim? = none := by
  rcases h c with ⟨b, hb⟩ | ⟨b, hb⟩ <;> rw [hb] <;> rfl

variable {entry : Call → Phase} {ends : Phase → Ret → Prop} {faults : Bool}

lemma backed_lasting (hentry : StartsFresh entry) :
    Lasting (relayHost faults) (relayCode entry ends) (fun _ => True) fun t _ p σ => p.Backed t σ.trace where
  entry := by
    intro σ c _ _
    change (entry c).Backed _ _
    rcases hentry c with ⟨b, hb⟩ | ⟨b, hb⟩ <;> rw [hb] <;> trivial
  act := by
    intro σ t c p o r p' w _ _ hp hmove _
    exact hp.move hmove
  other := by
    intro σ σ' t c p l _ _ hl _ hp
    rw [hl]
    exact hp.cons l

lemma SubmitBacked.cons {l : RelayLabel Call Ret} (h : SubmitBacked trace)
    (hl : ∀ k, isSubmit k l = false) : SubmitBacked (l :: trace) := by
  intro t b request r pre hpre
  rcases List.suffix_cons_iff.1 hpre with heq | hsuf
  · have hb := hl b.key
    rw [← (List.cons.inj heq).1] at hb
    simp [isSubmit] at hb
  · exact h t b request r pre hsuf

lemma SubmitBacked.did {o : RelayOp} {r : o.Ans} (h : SubmitBacked trace) (hp : p.Backed t trace)
    (hmove : RelayMove p o r p') : SubmitBacked (.did t o r :: trace) := by
  intro t' b request r' pre hpre
  rcases List.suffix_cons_iff.1 hpre with heq | hsuf
  · obtain ⟨hl, rfl⟩ := List.cons.inj heq
    cases hl
    obtain ⟨d, rfl, rfl⟩ := hmove.submit_inv
    obtain ⟨hres, ⟨signing, s, hd, hs, hm⟩, hsub⟩ := hp
    exact ⟨d, signing, s, hres, hd, hs, hm, hsub⟩
  · exact h t' b request r' pre hsuf

lemma submitBacked_of_reach {σ : RelayConfig Call Ret} {w : RelayWorld}
    (hentry : StartsFresh entry) (h : Reach (relayHost faults) (relayCode entry ends) w σ) :
    SubmitBacked σ.trace := by
  refine h.invariant_of_reach (P := fun ρ => SubmitBacked ρ.trace) ?_ fun ρ ρ' hρ hsub hs => ?_
  · intro t b request r pre hpre
    exact absurd (List.suffix_nil.1 hpre) (List.cons_ne_nil _ _)
  · cases hs with
    | act ht ha hw =>
      have hbacked := (hρ.lasting (backed_lasting hentry) fun _ _ => trivial).1 _ _ _ ht
      exact hsub.did hbacked ha
    | spawn | finish | cancel | outside => exact hsub.cons fun _ => rfl

end

/-! ### The relay itself -/

inductive RelayCall where
  | execute (relay : RelayId) (input : RelayExecutionInput)
  | reconcile (relay : RelayId) (binding : AttemptBinding) (nowMs : I64)

namespace RelayCall

def body : RelayCall → RelayProg RelayResult
  | .execute relay input => PrivateExecution.execute relay input
  | .reconcile relay b nowMs => PrivateExecution.reconcile relay b nowMs

def entry : RelayCall → Phase
  | .execute _ input => .unclaimed (.fromIntent input.intent)
  | .reconcile _ b _ => .observing b none

lemma startsFresh : StartsFresh entry
  | .execute _ _ => .inl ⟨_, rfl⟩
  | .reconcile _ _ _ => .inr ⟨_, rfl⟩

lemma follows (c : RelayCall) : (relayCode entry Phase.Ends).Follows Phase.Ends (entry c) c.body := by
  cases c with
  | execute relay input => exact execute_follows relay input
  | reconcile relay b nowMs => exact reconcile_follows relay nowMs

end RelayCall

abbrev relayPool : Code RelayCall RelayOp RelayOp.Ans RelayResult := Code.ofProg RelayCall.body

/-- For every run over one durable store, starting from freshly constructed relays: the signer and
the adapter's `submit` are each called at most once per attempt key, and every submission is
preceded by the granted claim, by an answer of the signer whose digest, intent and key are those of
the reserved request, and by the successful persistence of exactly the submitted request. -/
theorem relay_signs_and_submits_at_most_once {faults : Bool}
    {relays : RelaySetup}
    {σ : Config RelayWorld RelayCall RelayOp RelayOp.Ans RelayResult relayPool.State}
    (h : Reach (relayHost faults) relayPool (.boot relays) σ) :
    (∀ k, signs k σ.trace ≤ 1 ∧ submits k σ.trace ≤ 1) ∧
      ∀ t b request r pre, (.did t (.submit b request) r :: pre) <:+ σ.trace →
        ∃ (d : RequestDigest) (signing : SigningRequest) (s : SignedExecutionRef),
          .did t (.store (.reserveBound b d)) (.ok .reserved) ∈ pre ∧ signing.requestDigest = d ∧
          .did t (.sign b signing) (.ok s) ∈ pre ∧
          (s.requestDigest = d ∧ s.intentId = b.intentId ∧ s.idempotencyKey = b.idempotencyKey) ∧
          .did t (.store (.recordSubmission b d request)) (.ok ()) ∈ pre := by
  obtain ⟨τ, hτ, hm⟩ := h.follows RelayCall.follows
  rw [← hm.trace]
  refine ⟨fun k => ?_, submitBacked_of_reach RelayCall.startsFresh hτ⟩
  have hinv := attemptInv_of_reach RelayCall.startsFresh.claim hτ k
  exact ⟨hinv.signs_le, hinv.submits_le⟩

/-- **Exactly once.** From every state of a run a calm relay can carry an `execute` call for a new attempt
through: it submits, and returns and stores what the adapter's answer stands for. Whatever happens
afterwards, the attempt was submitted exactly once. -/
theorem calm_relay_submits_once {faults : Bool} {relays : RelaySetup}
    {σ : Config RelayWorld RelayCall RelayOp RelayOp.Ans RelayResult relayPool.State} {i : RelayId}
    {input : RelayExecutionInput} {payload : SignedPayload} {signing : SigningRequest}
    {signed : SignedExecutionRef} (h : Reach (relayHost faults) relayPool (.boot relays) σ)
    (hcalm : Calm (σ.world.relays i))
    (hnew : σ.world.attempts (AttemptBinding.fromIntent input.intent).key = none)
    (hbind : input.bind payload = .ok signing)
    (hsigned : signed.Attests signing) (answer : Except RelayError SubmissionReceipt) :
    ∃ τ, Reach (relayHost faults) relayPool (.boot relays) τ ∧ σ.trace <:+ τ.trace ∧
      .returned σ.next (.execute i input) (.ok (settledOutcome answer)) ∈ τ.trace ∧
      Concluded (.fromIntent input.intent) (settledOutcome answer) τ.world.attempts ∧
      ∀ ρ, Steps (relayHost faults) relayPool τ ρ →
        submits (AttemptBinding.fromIntent input.intent).key ρ.trace = 1 := by
  obtain ⟨request, hrun⟩ := execute_submits (t := σ.next) hcalm hnew hbind hsigned answer
  obtain ⟨τ, events, hτ, htrace, -, hsub, hstored, -⟩ := hrun.reach RelayCall.body (.execute i input) id
    (.of_eq (Prog.bind_pure_eq _).symm) rfl h
  have hsuffix : σ.trace <:+ τ.trace := by
    rw [htrace]
    exact (List.suffix_cons _ _).trans ((List.suffix_append _ _).trans (List.suffix_cons _ _))
  refine ⟨τ, hτ, hsuffix, by rw [htrace]; exact List.mem_cons_self, hstored, fun ρ hρ => ?_⟩
  have hkept := hρ.invariant (P := fun ρ => _ ∈ ρ.trace) hsub fun _ _ hmem hs => hs.trace_suffix.subset hmem
  obtain ⟨ρ', hρ', hm⟩ := (hτ.trans hρ).follows RelayCall.follows
  have hone := (attemptInv_of_reach RelayCall.startsFresh.claim hρ'
    (AttemptBinding.fromIntent input.intent).key).submits_le
  rw [hm.trace] at hone
  exact le_antisymm hone (submits_pos hkept)

end

attribute [local instance] Sha256.sha2

/-- The sample order, submitted to an adapter that times out, was submitted exactly once. -/
theorem sample_order_submitted_once :
    ∃ σ, Reach (relayHost true) relayPool (.boot Sample.relays) σ ∧ submits Sample.binding.key σ.trace = 1 := by
  obtain ⟨request, hrun⟩ := Sample.input_submits true 0 (.error .adapterTimeout)
  obtain ⟨σ, _, hσ, -, -, hsub, -⟩ := hrun.reach RelayCall.body (.execute 0 Sample.input) id
    (σ := .boot (.boot Sample.relays)) (.of_eq (Prog.bind_pure_eq _).symm) rfl .refl
  have hone := ((relay_signs_and_submits_at_most_once hσ).1 Sample.binding.key).2
  have hpos := submits_pos hsub
  exact ⟨σ, hσ, le_antisymm hone hpos⟩

theorem sample_order_submits_once :
    ∃ τ, Reach (relayHost true) relayPool (.boot Sample.relays) τ ∧
      ∀ ρ, Steps (relayHost true) relayPool τ ρ → submits Sample.binding.key ρ.trace = 1 := by
  obtain ⟨signing, hbind⟩ := Sample.input_binds
  obtain ⟨τ, hτ, -, -, -, honce⟩ := calm_relay_submits_once (i := 0)
    (.refl : Reach (relayHost true) relayPool (.boot Sample.relays) _) (calm_boot _ _) rfl hbind signing.attests_signed
    (.error .adapterTimeout)
  exact ⟨τ, hτ, honce⟩

end PrivateExecution
