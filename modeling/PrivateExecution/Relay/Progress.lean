import PrivateExecution.Relay.Execute
import PrivateExecution.Privy.Sha256

/-!
# A request that binds is submitted

Nothing in the safety results says that the relay ever sends anything. Here is the other half: in a
relay whose kill switch is on and whose breakers are closed (`Calm`), an `execute` call that is
alone, whose signing request binds and whose attempt is new, submits, whatever the adapter then
answers (**`execute_submits`**).
-/

namespace PrivateExecution

open Async

/-! ### Calm relays -/

section

variable [Sha256]

/-- The kill switch is on and every breaker is closed. -/
structure Calm (x : RelayInstance) : Prop where
  enabled : x.tradingEnabled = true
  entry : ∀ b, (x.entry b).state = .healthy

lemma calm_boot (chainPolicy signingPolicy : BreakerPolicy) :
    Calm (.boot true chainPolicy signingPolicy) := by
  refine ⟨rfl, fun b => ?_⟩
  cases b <;> rfl

variable {w : RelayWorld} {i : RelayId} {t : Tid}

lemma Calm.setEntry {x : RelayInstance} (h : Calm x) {b : BreakerRef} {e : BreakerEntry}
    (he : e.state = .healthy) : Calm (x.setEntry b e) := by
  cases b with
  | signing =>
    refine ⟨h.enabled, fun b' => ?_⟩
    cases b' with
    | signing => exact he
    | chain c => exact h.entry (.chain c)
  | chain c =>
    refine ⟨h.enabled, fun b' => ?_⟩
    cases b' with
    | signing => exact h.entry .signing
    | chain c' =>
      change ((Function.update x.chainEntry c e) c').state = .healthy
      rcases eq_or_ne c' c with rfl | hne
      · rw [Function.update_self, he]
      · rw [Function.update_of_ne hne]
        exact h.entry (.chain c')

lemma Calm.updateEntry (h : Calm (w.relays i)) {b : BreakerRef}
    {f : BreakerPolicy → BreakerEntry → BreakerEntry}
    (hf : ∀ p e, e.state = .healthy → (f p e).state = .healthy) : Calm ((w.updateEntry i b f).relays i) := by
  simp only [RelayWorld.updateEntry, RelayWorld.updateRelay, Function.update_self]
  exact h.setEntry (hf _ _ (h.entry b))

lemma Calm.admitProbe (h : Calm (w.relays i)) (b : BreakerRef) (nowMs : I64) :
    (w.admitProbe t i b nowMs).1 = true ∧ Calm ((w.admitProbe t i b nowMs).2.relays i) ∧
      ∀ j ≠ i, (w.admitProbe t i b nowMs).2.relays j = w.relays j := by
  have hadm : ((w.relays i).entry b).admitProbe nowMs = (some ⟨nowMs, false⟩, (w.relays i).entry b) := by
    simp only [BreakerEntry.admitProbe, h.entry b]
  have hcalm := h.updateEntry (b := b) (f := fun _ _ => (w.relays i).entry b) fun _ _ _ => h.entry b
  simp only [RelayWorld.admitProbe, hadm]
  exact ⟨trivial, hcalm, fun j hj => Function.update_of_ne hj _ _⟩

lemma Calm.resolve_success (h : Calm (w.relays i)) (b : BreakerRef) :
    Calm ((w.resolve t i b .success).relays i) :=
  h.updateEntry (f := fun _ e => e.recordSuccess) fun _ _ _ => rfl

end

/-! ### The way to the submission -/

section

variable [Sha256] {faults : Bool} {i : RelayId} {t : Tid} {w : RelayWorld} {b : AttemptBinding}
  {d : RequestDigest} {nowMs : I64}

def OpenAs (b : AttemptBinding) (d : RequestDigest) (s : Attempts) : Prop :=
  ∃ e, s b.key = some e ∧ e.digest = d ∧ e.status.isTerminal = false

def Concluded (b : AttemptBinding) (outcome : RelayOutcome) (s : Attempts) : Prop :=
  ∃ e, s b.key = some e ∧ e.outcome = some outcome ∧ e.status = outcome.attemptStatus

lemma OpenAs.withEntry {s : Attempts} (h : OpenAs b d s) (f : DurableEntry → DurableEntry) :
    ∃ e, s b.key = some e ∧ e.digest = d ∧ DurableStore.withEntry s b d (·.unlessTerminal f) =
      (.ok (), Function.update s b.key (some (f e))) := by
  obtain ⟨e, he, hd, ht⟩ := h
  refine ⟨e, he, hd, ?_⟩
  simp only [DurableStore.withEntry, he, if_pos hd, DurableEntry.unlessTerminal, ht]
  rfl

lemma OpenAs.record {s : Attempts} (h : OpenAs b d s) {f : DurableEntry → DurableEntry}
    (hf : ∀ e, (f e).digest = e.digest ∧ (f e).status.isTerminal = false) :
    (DurableStore.withEntry s b d (·.unlessTerminal f)).1 = .ok () ∧
      OpenAs b d (DurableStore.withEntry s b d (·.unlessTerminal f)).2 := by
  obtain ⟨e, he, hd, hrun⟩ := h.withEntry f
  rw [hrun]
  exact ⟨rfl, f e, Function.update_self .., (hf e).1.trans hd, (hf e).2⟩

def RelayOp.asksChain : RelayOp → Bool
  | .submit _ _ | .query _ _ _ | .reconcile _ _ _ => true
  | _ => false

/-- Alone from the world `w`, the program of relay `i` can return and store `outcome` for the attempt
`b` without touching any other relay, and asks the adapter nothing but `target`, if one is given. -/
def Completes (faults : Bool) (t : Tid) (i : RelayId) (b : AttemptBinding)
    (target : Option (Σ o : RelayOp, o.Ans)) (outcome : RelayOutcome) (p : RelayProg RelayResult)
    (w : RelayWorld) : Prop :=
  ∃ events w', Plays (relayHost faults) t p w events (.pure (.ok outcome)) w' ∧
    events.filter (fun e => e.1.asksChain) = target.toList ∧ Concluded b outcome w'.attempts ∧
    ∀ j ≠ i, w'.relays j = w.relays j

section

variable {outcome : RelayOutcome} {target : Option (Σ o : RelayOp, o.Ans)}

lemma Completes.ask (o : RelayOp) {f : o.Ans → RelayProg RelayResult} (r : o.Ans) {w' : RelayWorld}
    (ho : o.asksChain = false) (hw : relayHandle faults t o w r w') (hrest : ∀ j ≠ i, w'.relays j = w.relays j)
    (h : Completes faults t i b target outcome (f r) w') :
    Completes faults t i b target outcome (PrivateExecution.ask o >>= f) w := by
  obtain ⟨events, w'', hplay, htarget, hstored, hother⟩ := h
  refine ⟨⟨o, r⟩ :: events, w'', .call hw hplay, ?_, hstored, ?_⟩
  · rw [List.filter_cons_of_neg (by simp [ho]), htarget]
  · intro j hj
    rw [hother j hj, hrest j hj]

lemma Completes.hit (o : RelayOp) {f : o.Ans → RelayProg RelayResult} (r : o.Ans) {w' : RelayWorld}
    (ho : o.asksChain = true) (hw : relayHandle faults t o w r w') (hrest : ∀ j ≠ i, w'.relays j = w.relays j)
    (h : Completes faults t i b none outcome (f r) w') :
    Completes faults t i b (some ⟨o, r⟩) outcome (PrivateExecution.ask o >>= f) w := by
  obtain ⟨events, w'', hplay, htarget, hstored, hother⟩ := h
  refine ⟨⟨o, r⟩ :: events, w'', .call hw hplay, ?_, hstored, ?_⟩
  · rw [List.filter_cons_of_pos (by simp [ho]), htarget]
    rfl
  · intro j hj
    rw [hother j hj, hrest j hj]

lemma Completes.store (c : StoreCall) {f : Except RelayError c.Result → RelayProg RelayResult}
    {r : Except RelayError c.Result} (hr : (DurableStore.run w.attempts c).1 = r)
    (h : Completes faults t i b target outcome (f r)
      { w with attempts := (DurableStore.run w.attempts c).2 }) :
    Completes faults t i b target outcome (storeCall c >>= f) w := by
  subst hr
  exact .ask (.store c) _ rfl ⟨_, .served, rfl⟩ (fun _ _ => rfl) h

lemma Completes.reach {Call Ret : Type} (body : Call → RelayProg Ret) (c : Call)
    (g : RelayResult → Ret) {p : RelayProg RelayResult} {o : RelayOp} {r : o.Ans}
    {σ : Config RelayWorld Call RelayOp RelayOp.Ans Ret (Code.ofProg body).State}
    {before : List (Σ o : RelayOp, o.Ans)}
    (hbody : Plays (relayHost faults) σ.next (body c) σ.world before (p >>= fun r => pure (g r)) σ.world)
    (hbefore : before.filter (fun e => e.1.asksChain) = [])
    (h : Completes faults σ.next i b (some ⟨o, r⟩) outcome p σ.world)
    (hσ : Reach (relayHost faults) (Code.ofProg body) w σ) :
    ∃ τ, ∃ events : List (Σ o : RelayOp, o.Ans), Reach (relayHost faults) (Code.ofProg body) w τ ∧
      τ.trace = .returned σ.next c (g (.ok outcome)) ::
        ((events.map fun e => .did σ.next e.1 e.2).reverse ++ .started σ.next c :: σ.trace) ∧
      events.filter (fun e => e.1.asksChain) = [⟨o, r⟩] ∧ .did σ.next o r ∈ τ.trace ∧
      Concluded b outcome τ.world.attempts ∧ ∀ j ≠ i, τ.world.relays j = σ.world.relays j := by
  obtain ⟨events, w', hplay, htarget, hstored, hother⟩ := h
  have hcall := hbody.trans (hplay.bind (.refl _ _))
  rw [List.append_nil] at hcall
  obtain ⟨τ, hτ, rfl, htrace⟩ := hσ.call hcall
  have hasked : (before ++ events).filter (fun e => e.1.asksChain) = [⟨o, r⟩] := by
    rw [List.filter_append, hbefore, htarget]
    rfl
  refine ⟨τ, before ++ events, hτ, htrace, hasked, ?_, hstored, hother⟩
  have hmem : (⟨o, r⟩ : Σ o : RelayOp, o.Ans) ∈ before ++ events := by
    refine (List.mem_filter (p := fun e => e.1.asksChain)).1 ?_ |>.1
    rw [hasked]
    exact .head _
  rw [htrace]
  exact .tail _ (List.mem_append_left _ (List.mem_reverse.2 (List.mem_map.2 ⟨_, hmem, rfl⟩)))

end

/-- The outcome that an answer of the adapter stands for. -/
def settledOutcome : Except RelayError SubmissionReceipt → RelayOutcome
  | .ok receipt =>
    if isBlank receipt.reference then .unknown else .submitted receipt.reference .unknown
  | .error .adapterRejected => .rejected "adapter rejected submission"
  | .error _ => .unknown

lemma conclude_completes (outcome : RelayOutcome) (hopen : OpenAs b d w.attempts) :
    Completes faults t i b none outcome (conclude b d outcome) w := by
  obtain ⟨e, -, -, hrun⟩ := hopen.withEntry (.resolved outcome)
  refine .store (.recordOutcome b d outcome) rfl ⟨[], _, .refl _ _, rfl, ?_, fun _ _ => rfl⟩
  change Concluded b outcome (DurableStore.withEntry w.attempts b d _).2
  rw [hrun]
  exact ⟨_, Function.update_self .., rfl, rfl⟩

lemma settleSubmission_completes (answer : Except RelayError SubmissionReceipt)
    (hopen : OpenAs b d w.attempts) :
    Completes faults t i b none (settledOutcome answer) (settleSubmission i b d nowMs answer) w := by
  rcases answer with e | receipt
  · by_cases he : e = .adapterRejected
    · subst he
      exact .ask (.resolveGuard i (.chain b.chain) .success) () rfl rfl
        (fun j hj => Function.update_of_ne hj _ _) (conclude_completes _ hopen)
    · have heq : settleSubmission i b d nowMs (.error e) = (do
          ask (.resolveGuard i (.chain b.chain) (.failure nowMs))
          conclude b d .unknown) := by
        cases e <;> first | rfl | exact absurd rfl he
      have hout : settledOutcome (.error e) = .unknown := by
        cases e <;> first | rfl | exact absurd rfl he
      rw [heq, hout]
      exact .ask (.resolveGuard i (.chain b.chain) (.failure nowMs)) () rfl rfl
        (fun j hj => Function.update_of_ne hj _ _) (conclude_completes _ hopen)
  · refine .ask (.resolveGuard i (.chain b.chain) .success) () rfl rfl
      (fun j hj => Function.update_of_ne hj _ _) ?_
    simp only [settledOutcome]
    by_cases hblank : isBlank receipt.reference = true
    · rw [if_pos hblank, if_pos hblank]
      exact conclude_completes _ hopen
    · rw [if_neg hblank, if_neg hblank]
      exact .ask (.journalSetChainReference i b receipt.reference) () rfl rfl
        (fun j hj => Function.update_of_ne hj _ _) (conclude_completes _ hopen)

lemma submitOnce_completes (hcalm : Calm (w.relays i)) (hopen : OpenAs b d w.attempts)
    (request : SubmitRequest) (answer : Except RelayError SubmissionReceipt) :
    Completes faults t i b (some ⟨.submit b request, answer⟩) (settledOutcome answer)
      (submitOnce i b d request nowMs) w := by
  obtain ⟨hadm, -, hother⟩ := hcalm.admitProbe (t := t) (.chain b.chain) nowMs
  refine .ask (.admitProbe i (.chain b.chain) nowMs) true rfl ⟨hadm.symm, rfl⟩ hother ?_
  refine .hit (.submit b request) answer rfl rfl (fun _ _ => rfl) (settleSubmission_completes answer ?_)
  rw [RelayWorld.admitProbe_attempts]
  exact hopen

variable {signing : SigningRequest} {signed : SignedExecutionRef} {payload : SignedPayload}
  {answer : Except RelayError SubmissionReceipt}

lemma persistSigned_completes (hcalm : Calm (w.relays i)) (hopen : OpenAs b d w.attempts)
    {request : SubmitRequest} (hbind : SubmitRequest.bind signing signed payload b.chain = .ok request) :
    Completes faults t i b (some ⟨.submit b request, answer⟩) (settledOutcome answer)
      (persistSigned i b d signing signed nowMs) w := by
  refine .ask (.signedPayload signed) (.ok payload) rfl rfl (fun _ _ => rfl) ?_
  simp only [hbind]
  refine .ask (.journalInsert i b request) () rfl rfl (fun j hj => Function.update_of_ne hj _ _) ?_
  obtain ⟨hok, hopen'⟩ := hopen.record (f := .submitting request.toDurable) fun _ => ⟨rfl, rfl⟩
  have hrun := DurableStore.run_recordSubmission w.attempts b d request
  refine .store (.recordSubmission b d request) (r := .ok ()) ?_ (submitOnce_completes ?_ ?_ request answer)
  · exact (congrArg Prod.fst hrun).trans hok
  · simp only [RelayWorld.updateRelay, Function.update_self]
    exact ⟨hcalm.enabled, hcalm.entry⟩
  · change OpenAs b d (DurableStore.run w.attempts (.recordSubmission b d request)).2
    rw [hrun]
    exact hopen'

/-- A calm relay gets a claimed attempt signed. -/
lemma signClaimed_signs {outcome : RelayOutcome} {target : Option (Σ o : RelayOp, o.Ans)}
    (hcalm : Calm (w.relays i)) (hopen : OpenAs b signing.requestDigest w.attempts)
    (hsigned : signed.Attests signing)
    (hrest : ∀ w, Calm (w.relays i) → OpenAs b signing.requestDigest w.attempts →
      Completes faults t i b target outcome (noteSigned i b signing.requestDigest signing nowMs signed) w) :
    Completes faults t i b target outcome (signClaimed i b signing.requestDigest signing nowMs) w := by
  obtain ⟨hok, hopen'⟩ := hopen.record (f := .signRequested signing.providerIdempotencyId)
    fun _ => ⟨rfl, rfl⟩
  refine .store (.recordSignRequested b signing.requestDigest signing.providerIdempotencyId) hok ?_
  have hcalm' : Calm (RelayWorld.relays { w with
      attempts := (DurableStore.run w.attempts (.recordSignRequested b signing.requestDigest
        signing.providerIdempotencyId)).2 } i) := hcalm
  obtain ⟨hadm, hcalm'', hother⟩ := hcalm'.admitProbe (t := t) .signing nowMs
  refine .ask (.admitProbe i .signing nowMs) true rfl ⟨hadm.symm, rfl⟩ hother ?_
  refine .ask (.sign b signing) (.ok signed) rfl rfl (fun _ _ => rfl) ?_
  simp only [hsigned, not_true_eq_false, if_false]
  refine .ask (.resolveGuard i .signing .success) () rfl rfl (fun j hj => Function.update_of_ne hj _ _)
    (hrest _ (hcalm''.resolve_success (t := t) .signing) ?_)
  rw [RelayWorld.resolve_attempts, RelayWorld.admitProbe_attempts]
  exact hopen'

lemma noteSigned_completes (hcalm : Calm (w.relays i))
    (hopen : OpenAs b signing.requestDigest w.attempts)
    {request : SubmitRequest} (hbind : SubmitRequest.bind signing signed payload b.chain = .ok request) :
    Completes faults t i b (some ⟨.submit b request, answer⟩) (settledOutcome answer)
      (noteSigned i b signing.requestDigest signing nowMs signed) w := by
  obtain ⟨hok, hopen'⟩ := hopen.record (f := .signedWith signed.reference) fun _ => ⟨rfl, rfl⟩
  exact .store (.recordSignedReference b signing.requestDigest signed.reference) hok
    (persistSigned_completes (by exact hcalm) hopen' hbind)

/-- A store that fails to note the reference ends the attempt before it is submitted. -/
lemma noteSigned_abandons (hopen : OpenAs b signing.requestDigest w.attempts) :
    Completes true t i b none .failedBeforeSubmit
      (noteSigned i b signing.requestDigest signing nowMs signed) w :=
  .ask (.store (.recordSignedReference b signing.requestDigest signed.reference)) (.error .storeUnavailable) rfl
    ⟨_, .failed _ rfl, rfl⟩ (fun _ _ => rfl) (conclude_completes _ hopen)

/-- The signing request of a call, as long as trading is enabled. -/
abbrev RelayExecutionInput.bind (input : RelayExecutionInput) (payload : SignedPayload) :
    Except PrivyError SigningRequest :=
  SigningRequest.bind true input.approved input.prepared input.intent input.route input.preview payload.digest
    input.nowMs

/-- In a calm relay an `execute` call that is alone, whose signing request binds and whose attempt is new
claims it. -/
lemma execute_claims {input : RelayExecutionInput} {outcome : RelayOutcome}
    {target : Option (Σ o : RelayOp, o.Ans)} (hcalm : Calm (w.relays i))
    (hnew : w.attempts (AttemptBinding.fromIntent input.intent).key = none)
    (hbind : input.bind payload = .ok signing)
    (hrest : ∀ w, Calm (w.relays i) → OpenAs (.fromIntent input.intent) signing.requestDigest w.attempts →
      Completes faults t i (.fromIntent input.intent) target outcome
        (signClaimed i (.fromIntent input.intent) signing.requestDigest signing input.nowMs) w) :
    Completes faults t i (.fromIntent input.intent) target outcome (execute i input) w := by
  refine .ask (.isTradingEnabled i) true rfl ⟨hcalm.enabled.symm, rfl⟩ (fun _ _ => rfl) ?_
  refine .ask (.adapterHealth input.nowMs) .healthy rfl rfl (fun _ _ => rfl) ?_
  refine .ask (.breakerObserve i input.intent.chain .healthy input.nowMs) () rfl rfl
    (fun j hj => Function.update_of_ne hj _ _) ?_
  have hcalm' : Calm ((w.updateEntry i (.chain input.intent.chain) fun p e =>
      e.observe p .healthy input.nowMs).relays i) := hcalm.updateEntry fun _ _ he => he
  rw [if_neg (by decide)]
  refine .ask (.breakerCheckAllowed i input.intent.chain input.nowMs) true rfl ⟨?_, rfl⟩
    (fun _ _ => rfl) ?_
  · have hentry := hcalm'.entry (.chain input.intent.chain)
    unfold RelayInstance.entry at hentry
    unfold BreakerEntry.checkAllowed
    rw [hentry]
  refine .ask (.payloadToSign input.intent.idempotencyKey input.intent.id) (.ok payload) rfl rfl
    (fun _ _ => rfl) ?_
  refine .ask (.isTradingEnabled i) true rfl ⟨hcalm'.enabled.symm, rfl⟩ (fun _ _ => rfl) ?_
  simp only [hbind]
  have hrun : DurableStore.reserveBound w.attempts (.fromIntent input.intent) signing.requestDigest =
      (.reserved, Function.update w.attempts (AttemptBinding.fromIntent input.intent).key
        (some (.fresh signing.requestDigest))) := by
    simp only [DurableStore.reserveBound, hnew]
  refine .store (.reserveBound (.fromIntent input.intent) signing.requestDigest) (r := .ok .reserved)
    ?_ (hrest _ (by exact hcalm') ?_)
  · simp only [DurableStore.run, RelayWorld.updateEntry_attempts, hrun]
  · simp only [DurableStore.run, RelayWorld.updateEntry_attempts, hrun]
    exact ⟨_, Function.update_self .., rfl, rfl⟩

/-- In a calm relay an `execute` call that is alone, whose signing request binds and whose attempt
is new submits once, whatever the adapter answers, and returns and stores the outcome that the
answer stands for. -/
lemma execute_submits {input : RelayExecutionInput} (hcalm : Calm (w.relays i))
    (hnew : w.attempts (AttemptBinding.fromIntent input.intent).key = none)
    (hbind : input.bind payload = .ok signing)
    (hsigned : signed.Attests signing) (answer : Except RelayError SubmissionReceipt) :
    ∃ request, Completes faults t i (.fromIntent input.intent)
      (some ⟨.submit (.fromIntent input.intent) request, answer⟩) (settledOutcome answer)
      (execute i input) w := by
  obtain ⟨-, -, hchain, hpayload⟩ := SigningRequest.bind_spec hbind
  obtain ⟨request, hrequest⟩ : ∃ request, SubmitRequest.bind signing signed payload
      (AttemptBinding.fromIntent input.intent).chain = .ok request := by
    simp only [SubmitRequest.bind, hsigned, not_true_eq_false, if_false, hchain, hpayload,
      AttemptBinding.fromIntent, ne_eq, dite_true]
    exact ⟨_, rfl⟩
  exact ⟨request, execute_claims hcalm hnew hbind fun _ hcalm hopen => signClaimed_signs hcalm hopen hsigned
    fun _ hcalm hopen => noteSigned_completes hcalm hopen hrequest⟩

lemma reconcile_blind {α : Type} (g : RelayResult → α) (hjournal : (w.relays i).journal b.key = none) :
    Plays (relayHost true) t (reconcile i b nowMs >>= fun r => pure (g r)) w
      [⟨.store (.loadOutcome b), .error .storeUnavailable⟩,
        ⟨.journalGet i b, (none : Option SubmitRequest)⟩,
        ⟨.store (.loadSubmission b), .error .storeUnavailable⟩]
      (.pure (g (.error .storeUnavailable))) w := by
  have hfail : ∀ c : StoreCall, relayHandle true t (.store c) w (.error .storeUnavailable) w :=
    fun c => ⟨_, .failed _ rfl, rfl⟩
  have hget : relayHandle true t (.journalGet i b) w (none : Option SubmitRequest) w :=
    ⟨hjournal.symm, rfl⟩
  refine Plays.call (H := relayHost true) (hfail (.loadOutcome b)) ?_
  refine Plays.call (H := relayHost true) hget ?_
  exact Plays.call (H := relayHost true) (hfail (.loadSubmission b)) (.refl _ _)

end

/-! ### A concrete order

A market order on Base, previewed at its full size, with a one-byte payload. The hash function is
SHA-256. -/

/-- What a signer returns that signs the request. -/
def SigningRequest.signed (signing : SigningRequest) : SignedExecutionRef :=
  ⟨"signed-1", signing.requestDigest, signing.intentId, signing.idempotencyKey, by decide⟩

lemma SigningRequest.attests_signed (signing : SigningRequest) : signing.signed.Attests signing := ⟨rfl, rfl, rfl⟩

namespace Sample

attribute [local instance] Sha256.sha2

def usdc : AssetId := ⟨.base, "0xusdc"⟩

def weth : AssetId := ⟨.base, "0xweth"⟩

def intent : TradeIntent :=
  { TradeIntent.marketBuy usdc weth (.lit 1000) ⟨.lit 0, .lit 0, .lit 100, .lit 50, none⟩ with
    idempotencyKey := .lit "key-1" }

def nowMs : I64 := .lit 1000000

def input : RelayExecutionInput where
  intent := intent
  prepared := ⟨"prepared-3", intent.id, intent.idempotencyKey, by decide⟩
  approved := ⟨intent.id, intent.walletRef, .base, intent.idempotencyKey, none, .lit 1, nowMs⟩
  route :=
    { legs := [⟨"venue", "pool", usdc, weth, .lit 1000, .lit 7⟩]
      expectedNetOutput := ⟨weth, .lit 7⟩
      state := ⟨nowMs, .lit 1, .lit 1⟩ }
  preview :=
    { intentId := intent.id
      chain := .base
      tokenIn := usdc
      tokenOut := weth
      side := .buy
      simulatedNetInput := ⟨usdc, .lit 1000⟩
      simulatedNetOutput := ⟨weth, .lit 7⟩
      grossOutput := ⟨weth, .lit 7⟩
      costComponents := ⟨none, none, none, none⟩
      localStateFreshness := .fresh }
  nowMs := nowMs

def payload : SignedPayload := ⟨[1], by decide, by decide⟩

def binding : AttemptBinding := .fromIntent intent

/-- Every relay is constructed with trading enabled and the default breakers. -/
def relays : RelaySetup :=
  fun _ => (true, .chainDefault, .signingDefault)

lemma input_binds : ∃ signing, input.bind payload = .ok signing := exists_ok_of_toBool (by decide +kernel)

lemma input_abandoned (t : Tid) :
    Completes true t 0 binding none .failedBeforeSubmit (execute 0 input) (.boot relays) := by
  obtain ⟨signing, hbind⟩ := input_binds
  exact execute_claims (calm_boot _ _) rfl hbind fun _ hcalm hopen => signClaimed_signs hcalm hopen
    signing.attests_signed fun _ _ hopen => noteSigned_abandons hopen

lemma input_submits (faults : Bool) (t : Tid) (answer : Except RelayError SubmissionReceipt) :
    ∃ request, Completes faults t 0 binding (some ⟨.submit binding request, answer⟩)
      (settledOutcome answer) (execute 0 input) (.boot relays) := by
  obtain ⟨signing, hbind⟩ := input_binds
  exact execute_submits (calm_boot _ _) rfl hbind signing.attests_signed answer

end Sample

end PrivateExecution
