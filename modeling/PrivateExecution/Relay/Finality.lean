import PrivateExecution.Relay.Verdicts

/-!
# Terminal outcomes are final

Once the stored status of an attempt is `Confirmed`, `Rejected` or `FailedBeforeSubmit`, nothing in
any later part of the run changes the entry, a `reconcile` that starts then reads the outcome and
returns it without asking the chain, and `FailedBeforeSubmit` means that nothing was or will be
sent.
-/

namespace PrivateExecution

open Async

section

variable [Sha256] {Call Ret : Type} {C : Code Call RelayOp RelayOp.Ans Ret} {faults : Bool}
  {σ τ : Config RelayWorld Call RelayOp RelayOp.Ans Ret C.State} {k : DurableKey} {e : DurableEntry}

/-! ### The store along a run -/

lemma step_attempts (hs : Step (relayHost faults) C σ τ) :
    τ.world.attempts = σ.world.attempts ∨ ∃ c, τ.world.attempts = (DurableStore.run σ.world.attempts c).2 := by
  cases hs with
  | act ht ha hw =>
    rcases relayHandle_attempts hw with h | ⟨c, -, h⟩
    · exact .inl h
    · exact .inr ⟨c, h⟩
  | cancel ht => exact .inl (RelayWorld.dropGuards_attempts _ _)
  | outside hw =>
    obtain ⟨i, rfl⟩ := hw
    exact .inl rfl
  | spawn | finish => exact .inl rfl

lemma step_terminal (hs : Step (relayHost faults) C σ τ) (he : σ.world.attempts k = some e)
    (hterm : e.status.isTerminal = true) : τ.world.attempts k = some e := by
  rcases step_attempts hs with h | ⟨c, h⟩
  · rw [h, he]
  · rw [h]
    exact DurableStore.run_of_terminal c he hterm

lemma steps_terminal (hs : Steps (relayHost faults) C σ τ) (he : σ.world.attempts k = some e)
    (hterm : e.status.isTerminal = true) : τ.world.attempts k = some e :=
  hs.invariant (P := fun ρ => ρ.world.attempts k = some e) he fun _ _ hρ hs => step_terminal hs hρ hterm

lemma coherent_of_reach {relays : RelaySetup}
    (h : Reach (relayHost faults) C (.boot relays) σ) (he : σ.world.attempts k = some e) : e.Coherent := by
  have hall : ∀ k e, σ.world.attempts k = some e → e.Coherent := by
    refine h.invariant (P := fun ρ => ∀ k e, ρ.world.attempts k = some e → e.Coherent) ?_ ?_
    · intro k e he
      cases he
    · intro ρ ρ' hρ hs
      rcases step_attempts hs with h | ⟨c, h⟩
      · rw [h]
        exact hρ
      · rw [h]
        exact DurableStore.run_coherent c hρ
  exact hall k e he

lemma DurableStore.run_digest {s : Attempts} (c : StoreCall) (h : s k = some e) :
    ∃ e', (run s c).2 k = some e' ∧ e'.digest = e.digest := by
  rcases eq_or_ne k c.binding.key with rfl | hne
  · rcases run_cases s c with h' | ⟨b, d, rfl, hnone, -⟩ | ⟨e', he', h'⟩
    · exact ⟨e, by rw [h', h], rfl⟩
    · cases h.symm.trans hnone
    · obtain rfl := Option.some.inj (h.symm.trans he')
      refine ⟨_, by rw [h', Function.update_self], ?_⟩
      unfold DurableEntry.unlessTerminal
      split_ifs
      · rfl
      · cases c <;> rfl
  · exact ⟨e, by rw [run_of_ne hne, h], rfl⟩

/-- **A digest binds its key for good.** Once an attempt is reserved, no run of whatever calls rebinds it: a
reservation with another digest is a conflict, and no record with another digest is accepted. -/
theorem digest_binds {b : AttemptBinding} {d : RequestDigest} (he : σ.world.attempts b.key = some e)
    (hd : d ≠ e.digest) (h : Steps (relayHost faults) C σ τ) :
    DurableStore.run τ.world.attempts (.reserveBound b d) = (.ok .conflict, τ.world.attempts) ∧
      ∀ mutate, DurableStore.withEntry τ.world.attempts b d mutate =
        (.error .reservationUnavailable, τ.world.attempts) := by
  obtain ⟨e', he', hdigest⟩ := h.invariant
    (P := fun ρ => ∃ e', ρ.world.attempts b.key = some e' ∧ e'.digest = e.digest) ⟨e, he, rfl⟩ (by
      rintro ρ ρ' ⟨e', he', hdigest⟩ hs
      rcases step_attempts hs with heq | ⟨c, heq⟩
      · exact ⟨e', by rw [heq, he'], hdigest⟩
      · obtain ⟨e'', he'', hsame⟩ := DurableStore.run_digest c he'
        exact ⟨e'', by rw [heq, he''], hsame.trans hdigest⟩)
  have hne : e'.digest ≠ d := fun heq => hd (heq.symm.trans hdigest)
  simp only [DurableStore.run, DurableStore.reserveBound, DurableStore.withEntry, he', hne, if_false]
  exact ⟨trivial, fun _ => trivial⟩

/-! ### A `reconcile` after the end -/

lemma reconcile_recalls {relay : RelayId} {b : AttemptBinding} {nowMs : I64} {o : RelayOutcome}
    {op : RelayOp} {r : op.Ans} {p : RelayProg RelayResult} {t : Tid} {w w' : RelayWorld}
    (he : w.attempts b.key = some e) (ho : e.outcome = some o) (hterm : o.attemptStatus.isTerminal = true)
    (ha : relayPool.act (reconcile relay b nowMs) op r p) (hw : relayHandle false t op w r w') :
    op = .store (.loadOutcome b) ∧ p = .pure (.ok o) := by
  obtain ⟨cont, hcall, rfl⟩ := ha
  cases hcall
  refine ⟨rfl, ?_⟩
  obtain ⟨s, hs, -⟩ := hw
  cases hs with
  | served =>
    simp only [DurableStore.run, he, Option.bind_some, ho]
    exact if_pos hterm
  | failed _ hf => cases hf
  | lost _ hf => cases hf

lemma recalls_lasting (t : Tid) (relay : RelayId) (b : AttemptBinding) (nowMs : I64)
    {o : RelayOutcome} (ho : e.outcome = some o) (hterm : o.attemptStatus.isTerminal = true) :
    Lasting (relayHost false) relayPool (fun ρ => ρ.world.attempts b.key = some e ∧ t < ρ.next)
      fun u _ p _ => u = t → p = reconcile relay b nowMs ∨ p = .pure (.ok o) where
  entry := by
    rintro ρ c ⟨-, hlt⟩ _ rfl
    exact absurd hlt (Nat.lt_irrefl _)
  act := by
    rintro ρ u c p op r p' w ⟨he, -⟩ _ hp ha hw rfl
    rcases hp rfl with rfl | rfl
    · exact .inr (reconcile_recalls he ho hterm ha hw).2
    · obtain ⟨cont, hcall, -⟩ := ha
      cases hcall
  other := fun _ _ _ _ hp => hp

section

variable {relays : RelaySetup}
  {σ τ : Config RelayWorld RelayCall RelayOp RelayOp.Ans RelayResult relayPool.State}
  {relay : RelayId} {b : AttemptBinding} {nowMs : I64} {o : RelayOutcome}

lemma reconcile_returns (h : Reach (relayHost false) relayPool (.boot relays) σ)
    (he : σ.world.attempts b.key = some e) (hterm : e.status.isTerminal = true)
    (ho : e.outcome = some o) (hstatus : o.attemptStatus = e.status)
    (hs : Steps (relayHost false) relayPool
      (σ.spawn (.reconcile relay b nowMs) (reconcile relay b nowMs)) τ) :
    (∀ c p, τ.threads σ.next = some (c, p) → p = reconcile relay b nowMs ∨ p = .pure (.ok o)) ∧
      ∀ c v, .returned σ.next c v ∈ τ.trace → v = .ok o := by
  have htidy := h.tidy
  have hspawn : Step (relayHost false) relayPool σ
      (σ.spawn (.reconcile relay b nowMs) (reconcile relay b nowMs)) := .spawn σ _
  have hot : o.attemptStatus.isTerminal = true := by rw [hstatus, hterm]
  have hinv : ∀ ρ, Steps (relayHost false) relayPool
      (σ.spawn (.reconcile relay b nowMs) (reconcile relay b nowMs)) ρ →
      ρ.world.attempts b.key = some e ∧ σ.next < ρ.next := by
    intro ρ hρ
    refine ⟨steps_terminal hρ he hterm, hρ.invariant (P := fun ρ => σ.next < ρ.next) ?_ ?_⟩
    · exact Nat.lt_succ_self _
    · intro ρ ρ' hlt hs
      exact Nat.lt_of_lt_of_le hlt hs.next_le
  have hfacts := hs.lasting (recalls_lasting σ.next relay b nowMs ho hot) (htidy.step hspawn) hinv ?_
  · obtain ⟨hlive, hret⟩ := hfacts
    refine ⟨fun c p hp => hlive σ.next c p hp rfl, fun c v hv => ?_⟩
    obtain ⟨p, hends, hp⟩ := hret σ.next c v hv
    rcases hp rfl with rfl | rfl
    · cases hends
    · exact (Prog.pure.inj hends).symm
  · constructor
    · intro t c p ht hn
      subst hn
      simp only [Config.spawn, Function.update_self, Option.some.injEq] at ht
      exact .inl (Prod.mk.inj ht).2.symm
    · intro t c v hr
      rcases List.mem_cons.1 hr with heq | hr
      · cases heq
      · -- a call that had returned before is another one
        have hlt := (htidy.returned hr).1
        exact ⟨.pure v, rfl, fun heq => absurd heq (Nat.ne_of_lt hlt)⟩

lemma reconcile_operations (h : Reach (relayHost false) relayPool (.boot relays) σ)
    (he : σ.world.attempts b.key = some e) (hterm : e.status.isTerminal = true)
    (ho : e.outcome = some o) (hstatus : o.attemptStatus = e.status)
    (hs : Steps (relayHost false) relayPool
      (σ.spawn (.reconcile relay b nowMs) (reconcile relay b nowMs)) τ) :
    ∀ op r, .did σ.next op r ∈ τ.trace → op = .store (.loadOutcome b) := by
  refine hs.invariant_of_steps (P := fun ρ => ∀ op r, .did σ.next op r ∈ ρ.trace →
    op = .store (.loadOutcome b)) ?_ ?_
  · intro op r hd
    rcases List.mem_cons.1 hd with heq | hd
    · cases heq
    · exact absurd (h.tidy.did_lt hd) (Nat.lt_irrefl _)
  · intro ρ ρ' hρ ih hs op r hd
    cases hs with
    | @act t c p p' op' r' w ht ha hw =>
      rcases List.mem_cons.1 hd with heq | hd
      · cases heq
        rcases (reconcile_returns h he hterm ho hstatus hρ).1 c p ht with rfl | rfl
        · have hentry := steps_terminal hρ he hterm
          exact (reconcile_recalls hentry ho (by rw [hstatus, hterm]) ha hw).1
        · obtain ⟨cont, hcall, -⟩ := ha
          cases hcall
      · exact ih op r hd
    | spawn | finish | cancel | outside =>
      rcases List.mem_cons.1 hd with heq | hd
      · cases heq
      · exact ih op r hd

end

/-- For every run over a store whose calls do not fail: once the stored status of an attempt is
terminal, no later step changes its entry; a `reconcile` that starts then reads the outcome, asks
nothing else, and returns exactly it; and if the status is `FailedBeforeSubmit`, nothing has been
submitted and nothing ever is. -/
theorem terminal_outcomes_final {relays : RelaySetup}
    {σ : Config RelayWorld RelayCall RelayOp RelayOp.Ans RelayResult relayPool.State}
    (h : Reach (relayHost false) relayPool (.boot relays) σ) {k : DurableKey} {e : DurableEntry}
    (he : σ.world.attempts k = some e) (hterm : e.status.isTerminal = true) :
    (∀ τ, Steps (relayHost false) relayPool σ τ → τ.world.attempts k = some e) ∧
    (∃ o, e.outcome = some o ∧ ∀ relay b nowMs, b.key = k → ∀ τ,
      Steps (relayHost false) relayPool
        (σ.spawn (.reconcile relay b nowMs) (reconcile relay b nowMs)) τ →
      (∀ op r, .did σ.next op r ∈ τ.trace → op = .store (.loadOutcome b)) ∧
      (∀ c p, τ.threads σ.next = some (c, p) → p = reconcile relay b nowMs ∨ p = .pure (.ok o)) ∧
      ∀ c v, .returned σ.next c v ∈ τ.trace → v = .ok o) ∧
    (e.status = .failedBeforeSubmit →
      ∀ τ, Steps (relayHost false) relayPool σ τ → submits k τ.trace = 0) := by
  have hcoherent := coherent_of_reach h he hterm
  obtain ⟨o, ho, hstatus⟩ := hcoherent
  refine ⟨fun τ hs => steps_terminal hs he hterm, ⟨o, ho, ?_⟩, ?_⟩
  · rintro relay b nowMs rfl τ hs
    obtain ⟨hprog, hret⟩ := reconcile_returns h he hterm ho hstatus hs
    exact ⟨reconcile_operations h he hterm ho hstatus hs, hprog, hret⟩
  · intro hfailed τ hs
    have hout : e.outcome = some .failedBeforeSubmit := by
      rw [ho, RelayOutcome.attemptStatus_eq_failedBeforeSubmit.1 (hstatus.trans hfailed)]
    obtain ⟨τ', hτ', hm⟩ := (h.trans hs).follows RelayCall.follows
    have he' : τ'.world.attempts k = some e := by
      rw [hm.world]
      exact steps_terminal hs he hterm
    have hclosed := (truthful_of_reach RelayCall.startsFresh hτ' k e he').1 hout
    rw [← hm.trace]
    exact hclosed.unsent

end

attribute [local instance] Sha256.sha2

/-- The sample order, rejected by the adapter: whatever happens afterwards, it stays rejected. -/
theorem sample_order_stays_rejected :
    ∃ σ e, Reach (relayHost false) relayPool (.boot Sample.relays) σ ∧
      σ.world.attempts Sample.binding.key = some e ∧ e.status = .rejected ∧
      ∀ τ, Steps (relayHost false) relayPool σ τ → τ.world.attempts Sample.binding.key = some e := by
  obtain ⟨request, hrun⟩ := Sample.input_submits false 0 (.error .adapterRejected)
  obtain ⟨σ, _, hσ, -, -, -, ⟨e, he, -, hstatus⟩, -⟩ := hrun.reach RelayCall.body
    (.execute 0 Sample.input) id (σ := .boot (.boot Sample.relays))
    (.of_eq (Prog.bind_pure_eq _).symm) rfl .refl
  have hterm : e.status.isTerminal = true := by
    rw [hstatus]
    rfl
  exact ⟨σ, e, hσ, he, hstatus, (terminal_outcomes_final hσ he hterm).1⟩

theorem sample_digest_binds :
    ∃ σ e, Reach (relayHost false) relayPool (.boot Sample.relays) σ ∧
      σ.world.attempts Sample.binding.key = some e ∧ ∃ d, d ≠ e.digest ∧
        ∀ τ, Steps (relayHost false) relayPool σ τ → DurableStore.run τ.world.attempts
          (.reserveBound Sample.binding d) = (.ok .conflict, τ.world.attempts) := by
  obtain ⟨request, hrun⟩ := Sample.input_submits false 0 (.error .adapterRejected)
  obtain ⟨σ, _, hσ, -, -, -, ⟨e, he, -⟩, -⟩ := hrun.reach RelayCall.body
    (.execute 0 Sample.input) id (σ := .boot (.boot Sample.relays))
    (.of_eq (Prog.bind_pure_eq _).symm) rfl .refl
  obtain ⟨d, hd⟩ : ∃ d : RequestDigest, d ≠ e.digest := by
    rcases eq_or_ne (⟨.replicate 32 0⟩ : RequestDigest) e.digest with h | h
    · exact ⟨⟨.replicate 32 1⟩, by rw [← h]; decide⟩
    · exact ⟨_, h⟩
  exact ⟨σ, e, hσ, he, d, hd, fun _ hτ => (digest_binds he hd hτ).1⟩

end PrivateExecution
