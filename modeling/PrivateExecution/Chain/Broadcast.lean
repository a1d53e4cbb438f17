import PrivateExecution.Chain.Adapter
import PrivateExecution.Privy.Sha256

/-!
# What an adapter broadcasts under one key

Of the two halves of the guarantee, the ledger gives the first by itself: while a send is in flight,
was dropped or was acknowledged, nothing else is sent under its key.
-/

namespace PrivateExecution

open Async

variable [Sha256]

variable (A : SubmissionAdapter) (k : IdempotencyKey)

def SubmissionAdapter.Failed : Except ChainAdapterError String → Prop
  | .ok reference => A.acknowledges reference = false
  | .error _ => True

abbrev AdapterLabel :=
  Label SubmitRequest AdapterOp AdapterOp.Ans (Except RelayError SubmissionReceipt)

def adapterPool : Code SubmitRequest AdapterOp AdapterOp.Ans (Except RelayError SubmissionReceipt) :=
  .ofProg A.submit

/-! ### The protocol -/

inductive SendPhase where
  | asking (request : SubmitRequest)
  | admitted (request : SubmitRequest)
  | sending (request : SubmitRequest)
  | recording (request : SubmitRequest) (reference : String)
  | releasing (request : SubmitRequest)
  | done

inductive SendMove (A : SubmissionAdapter) : SendPhase → (o : AdapterOp) → o.Ans → SendPhase → Prop where
  | admitted (r : SubmitRequest) :
      SendMove A (.asking r) (.admission r) (none : Option SubmitAdmission) (.admitted r)
  | refused (r : SubmitRequest) (a : SubmitAdmission) :
      SendMove A (.asking r) (.admission r) (some a) .done
  | send (r : SubmitRequest) : SendMove A (.admitted r) (.send r) () (.sending r)
  | acknowledged (r : SubmitRequest) (reference : String) :
      SendMove A (.sending r) (.answer r) (.ok reference : Except ChainAdapterError String)
        (.recording r reference)
  | failed (r : SubmitRequest) (x : Except ChainAdapterError String) (h : A.Failed x) :
      SendMove A (.sending r) (.answer r) x (.releasing r)
  | record (r : SubmitRequest) (reference : String) :
      SendMove A (.recording r reference) (.record r reference) () .done
  | release (r : SubmitRequest) : SendMove A (.releasing r) (.release r) () .done

/-- The protocol as a code. Where a call returns plays no role here. -/
def sendCode : Code SubmitRequest AdapterOp AdapterOp.Ans (Except RelayError SubmissionReceipt) where
  State := SendPhase
  entry := .asking
  act := SendMove A
  ends _ _ := True

lemma settleSend_follows (request : SubmitRequest) (x : Except ChainAdapterError String) :
    ∃ p, SendMove A (.sending request) (.answer request) x p ∧
      (sendCode A).Follows (sendCode A).ends p (settleSend A.acknowledges request x) := by
  cases x with
  | error e =>
    exact ⟨_, .failed request _ trivial, fun _ => ⟨_, SendMove.release request, trivial⟩⟩
  | ok reference =>
    cases hack : A.acknowledges reference with
    | true =>
      refine ⟨_, .acknowledged request reference, ?_⟩
      simp only [settleSend, hack, if_true]
      exact fun _ => ⟨_, SendMove.record request reference, trivial⟩
    | false =>
      refine ⟨_, .failed request (.ok reference) hack, ?_⟩
      simp only [settleSend, hack, if_neg Bool.false_ne_true]
      exact fun _ => ⟨_, SendMove.release request, trivial⟩

lemma submit_follows (request : SubmitRequest) :
    (sendCode A).Follows (sendCode A).ends (.asking request) (A.submit request) := by
  rw [A.submit_eq]
  unfold submitWith
  cases A.accepts request with
  | error e => exact trivial
  | ok u =>
    rintro (_ | a)
    · exact ⟨_, SendMove.admitted request, fun _ => ⟨_, SendMove.send request,
        settleSend_follows A request⟩⟩
    · exact ⟨_, SendMove.refused request a, trivial⟩

/-! ### Exclusive ownership of a key -/

def SendPhase.Owns : SendPhase → Prop
  | .admitted r | .sending r | .recording r _ | .releasing r => r.idempotencyKey = k
  | .asking _ | .done => False

def sendOf? : AdapterLabel → Option SubmitRequest
  | .did _ (.send r) _ => some r
  | _ => none

variable (l : List AdapterLabel)

def SentIn (t : Tid) (r : SubmitRequest) : Prop :=
  .did t (.send r) () ∈ l ∧ r.idempotencyKey = k

def FailedIn (t : Tid) : Prop :=
  ∃ r x, .did t (.answer r) x ∈ l ∧ r.idempotencyKey = k ∧ A.Failed x

structure Orderly (A : SubmissionAdapter) (k : IdempotencyKey) (l : List AdapterLabel) : Prop where
  /-- A failed send was definitely rejected. -/
  definite : ∀ t r x, .did t (.answer r) x ∈ l → r.idempotencyKey = k → A.Failed x →
    x = .error .rejected
  /-- A request that comes to the ledger after a failed send carries the same payload. -/
  retries : ∀ before t r x, (.did t (.admission r) x :: before) <:+ l → r.idempotencyKey = k →
    ∀ t' r', SentIn k before t' r' → FailedIn A k before t' → r'.payload = r.payload

/-- What a call in a given phase knows about the sends under the key. -/
def SendPhase.Knows (t : Tid) (l : List AdapterLabel) : SendPhase → Prop
  | .admitted r => ∀ t' r', SentIn k l t' r' → FailedIn A k l t' ∧ r'.payload = r.payload
  | .sending _ => ∀ t' r', SentIn k l t' r' → t' = t ∨ FailedIn A k l t'
  | .releasing _ => ∀ t' r', SentIn k l t' r' → FailedIn A k l t'
  | _ => True

/-- Every send found only failed sends of the same payload. -/
def SendsInTurn : Prop :=
  ∀ before t r, (.did t (.send r) () :: before) <:+ l → r.idempotencyKey = k →
    ∀ t' r', SentIn k before t' r' → FailedIn A k before t' ∧ r'.payload = r.payload

abbrev SendConfig := Config SubmissionLedger SubmitRequest AdapterOp
  AdapterOp.Ans (Except RelayError SubmissionReceipt) (sendCode A).State

/-- The invariant of one key. -/
structure Exclusive (A : SubmissionAdapter) (k : IdempotencyKey) (σ : SendConfig A) : Prop where
  owner : ∀ {t t' c c'} {p p' : SendPhase}, σ.threads t = some (c, p) →
    σ.threads t' = some (c', p') → p.Owns k → p'.Owns k → t = t'
  held : ∀ {t c} {p : SendPhase}, σ.threads t = some (c, p) → p.Owns k → σ.world k ≠ none
  free : σ.world k = none → ∀ t r, SentIn k σ.trace t r → FailedIn A k σ.trace t
  knows : ∀ {t c} {p : SendPhase}, σ.threads t = some (c, p) → p.Owns k → p.Knows A k t σ.trace
  inTurn : SendsInTurn A k σ.trace

section

variable {A : SubmissionAdapter} {k : IdempotencyKey} {l l' before : List AdapterLabel} {t : Tid}
  {r : SubmitRequest} {p : SendPhase} {σ σ' : SendConfig A} {e : AdapterLabel}

lemma FailedIn.mono (h : FailedIn A k l t) (hl : l <:+ l') : FailedIn A k l' t := by
  obtain ⟨r, x, hmem, hk, hx⟩ := h
  exact ⟨r, x, hl.mem hmem, hk, hx⟩

lemma Orderly.mono (h : Orderly A k l') (hl : l <:+ l') : Orderly A k l where
  definite t r x hmem := h.definite t r x (hl.mem hmem)
  retries before t r x hpre := h.retries before t r x (hpre.trans hl)

lemma quiet {P : SubmitRequest → Prop} (h : sendOf? e = none) : ∀ r ∈ sendOf? e, P r := by
  simp [h]

lemma sentIn_cons (h : SentIn k (e :: l) t r) (he : ∀ r ∈ sendOf? e, r.idempotencyKey ≠ k) :
    SentIn k l t r := by
  obtain ⟨hmem, hk⟩ := h
  rcases List.mem_cons.1 hmem with rfl | hmem
  · exact absurd hk (he r rfl)
  · exact ⟨hmem, hk⟩

lemma SendsInTurn.cons (h : SendsInTurn A k l) (he : ∀ r ∈ sendOf? e, r.idempotencyKey = k →
      ∀ t' r', SentIn k l t' r' → FailedIn A k l t' ∧ r'.payload = r.payload) :
    SendsInTurn A k (e :: l) := by
  intro before t r hpre hk
  rcases List.suffix_cons_iff.1 hpre with heq | hpre
  · obtain ⟨rfl, rfl⟩ := List.cons.inj heq
    exact he r rfl hk
  · exact h before t r hpre hk

lemma SendPhase.Knows.cons (h : p.Knows A k t l)
    (he : ∀ r ∈ sendOf? e, r.idempotencyKey ≠ k) : p.Knows A k t (e :: l) := by
  have hsuffix : l <:+ e :: l := List.suffix_cons _ _
  cases p with
  | admitted r =>
    intro t' r' hsent
    obtain ⟨hf, hpay⟩ := h t' r' (sentIn_cons hsent he)
    exact ⟨hf.mono hsuffix, hpay⟩
  | sending r =>
    intro t' r' hsent
    exact (h t' r' (sentIn_cons hsent he)).imp id fun hf => hf.mono hsuffix
  | releasing r =>
    intro t' r' hsent
    exact (h t' r' (sentIn_cons hsent he)).mono hsuffix
  | asking | recording | done => exact trivial

lemma Exclusive.idle (h : Exclusive A k σ) (hworld : σ'.world k = σ.world k)
    (howners : ∀ {u c} {q : SendPhase}, σ'.threads u = some (c, q) → q.Owns k →
      σ.threads u = some (c, q))
    (htrace : σ'.trace = e :: σ.trace) (he : ∀ r ∈ sendOf? e, r.idempotencyKey ≠ k) : Exclusive A k σ' where
  owner ht ht' hp hp' := h.owner (howners ht hp) (howners ht' hp') hp hp'
  held ht hp := hworld ▸ h.held (howners ht hp) hp
  free hnone t r hsent := by
    rw [htrace] at hsent ⊢
    exact (h.free (hworld ▸ hnone) t r (sentIn_cons hsent he)).mono (List.suffix_cons _ _)
  knows ht hp := by
    rw [htrace]
    exact (h.knows (howners ht hp) hp).cons he
  inTurn := by
    rw [htrace]
    exact h.inTurn.cons fun r hr hk => absurd hk (he r hr)

lemma Exclusive.own {c : SubmitRequest} (hthreads : σ'.threads = Function.update σ.threads t (some (c, p)))
    (hothers : ∀ {u c} {q : SendPhase}, u ≠ t → σ.threads u = some (c, q) → ¬ q.Owns k)
    (hheld : p.Owns k → σ'.world k ≠ none)
    (hfree : σ'.world k = none → ∀ t r, SentIn k σ'.trace t r → FailedIn A k σ'.trace t)
    (hknows : p.Knows A k t σ'.trace) (hturn : SendsInTurn A k σ'.trace) : Exclusive A k σ' := by
  have honly : ∀ {u c'} {q : SendPhase}, σ'.threads u = some (c', q) → q.Owns k → u = t ∧ q = p := by
    intro u c' q hu hq
    rcases eq_or_ne u t with rfl | hne
    · rw [hthreads, Function.update_self] at hu
      cases hu
      exact ⟨rfl, rfl⟩
    · rw [hthreads, Function.update_of_ne hne] at hu
      exact absurd hq (hothers hne hu)
  refine ⟨fun ht ht' hp hp' => ?_, fun ht hp => ?_, hfree, fun ht hp => ?_, hturn⟩
  · rw [(honly ht hp).1, (honly ht' hp').1]
  · obtain ⟨-, rfl⟩ := honly ht hp
    exact hheld hp
  · obtain ⟨rfl, rfl⟩ := honly ht hp
    exact hknows

lemma Exclusive.others (h : Exclusive A k σ) {c : SubmitRequest} (ht : σ.threads t = some (c, p))
    (hp : p.Owns k) {u : Tid} {c' : SubmitRequest} {q : SendPhase} (hne : u ≠ t)
    (hu : σ.threads u = some (c', q)) : ¬ q.Owns k :=
  fun hq => hne (h.owner hu ht hq hp)

lemma Exclusive.act (h : Exclusive A k σ) {c : SubmitRequest} {p' : SendPhase} {o : AdapterOp}
    {x : o.Ans} {w : SubmissionLedger} (ht : σ.threads t = some (c, p)) (hact : SendMove A p o x p')
    (hw : AdapterHandles σ.world o x w) (hok : Orderly A k (.did t o x :: σ.trace)) :
    Exclusive A k (σ.act t c o x p' w) := by
  have hsuffix : σ.trace <:+ .did t o x :: σ.trace := List.suffix_cons _ _
  have hclear : ∀ {r : SubmitRequest}, r.idempotencyKey ≠ k → ∀ {w'}, w = Function.update σ.world
      r.idempotencyKey w' → w k = σ.world k := by
    rintro r hr w' rfl
    exact Function.update_of_ne (Ne.symm hr) _ _
  -- a move into a phase that does not own the key, with no effect on the key
  have hskip : w k = σ.world k → ¬ p'.Owns k →
      (∀ r ∈ sendOf? (.did t o x), r.idempotencyKey ≠ k) →
      Exclusive A k (σ.act t c o x p' w) := by
    intro hwk hp' he
    refine h.idle hwk (fun hu hq => ?_) rfl he
    rcases Config.threads_act hu with ⟨-, heq⟩ | ⟨-, hu⟩
    · cases heq
      exact absurd hq hp'
    · exact hu
  cases hact with
  | refused r a =>
    cases hw
    exact hskip rfl id (quiet rfl)
  | admitted r =>
    cases hw with
    | admitted _ hnone =>
      by_cases hk : r.idempotencyKey = k
      · subst hk
        have hfree := h.free hnone
        have hothers : ∀ {u c'} {q : SendPhase}, u ≠ t → σ.threads u = some (c', q) →
            ¬ q.Owns r.idempotencyKey := fun _ hu hq => h.held hu hq hnone
        have hheld : Function.update σ.world r.idempotencyKey (some (.inFlight r.payloadDigest))
            r.idempotencyKey ≠ none := by simp
        refine .own (σ := σ) rfl hothers (fun _ => hheld) (fun hn => absurd hn hheld) ?_
          (h.inTurn.cons (quiet rfl))
        intro t' r' hsent
        have hsent := sentIn_cons hsent (quiet rfl)
        have hfailed := hfree t' r' hsent
        exact ⟨hfailed.mono hsuffix, hok.retries _ t r none (List.suffix_refl _) rfl t' r' hsent hfailed⟩
      · exact hskip (hclear hk rfl) hk (quiet rfl)
  | send r =>
    cases hw
    by_cases hk : r.idempotencyKey = k
    · have hknown := h.knows ht hk
      have hheld := h.held ht hk
      refine .own (σ := σ) rfl (h.others ht hk) (fun _ => hheld) (fun hn => absurd hn hheld) ?_ ?_
      · rintro t' r' ⟨hmem, hk'⟩
        rcases List.mem_cons.1 hmem with heq | hmem
        · cases heq
          exact .inl rfl
        · exact .inr ((hknown t' r' ⟨hmem, hk'⟩).1.mono hsuffix)
      · refine h.inTurn.cons fun r' hr' _ => ?_
        cases hr'
        exact hknown
    · refine hskip rfl hk fun r' hr' => ?_
      cases hr'
      exact hk
  | acknowledged r reference =>
    cases hw
    by_cases hk : r.idempotencyKey = k
    · have hheld := h.held ht hk
      exact .own (σ := σ) rfl (h.others ht hk) (fun _ => hheld) (fun hn => absurd hn hheld) trivial
        (h.inTurn.cons (quiet rfl))
    · exact hskip rfl hk (quiet rfl)
  | failed r x hx =>
    cases hw
    by_cases hk : r.idempotencyKey = k
    · have hknown := h.knows ht hk
      have hheld := h.held ht hk
      refine .own (σ := σ) rfl (h.others ht hk) (fun _ => hheld) (fun hn => absurd hn hheld) ?_
        (h.inTurn.cons (quiet rfl))
      intro t' r' hsent
      rcases hknown t' r' (sentIn_cons hsent (quiet rfl)) with rfl | hf
      · exact ⟨r, x, List.mem_cons_self .., hk, hx⟩
      · exact hf.mono hsuffix
    · exact hskip rfl hk (quiet rfl)
  | record r reference =>
    cases hw
    by_cases hk : r.idempotencyKey = k
    · subst hk
      exact .own (σ := σ) rfl (h.others ht rfl) False.elim (fun hn => by simp [Config.act] at hn) trivial
        (h.inTurn.cons (quiet rfl))
    · exact hskip (hclear hk rfl) id (quiet rfl)
  | release r =>
    cases hw
    by_cases hk : r.idempotencyKey = k
    · have hknown := h.knows ht hk
      exact .own (σ := σ) rfl (h.others ht hk) False.elim
        (fun _ t' r' hsent => (hknown t' r' (sentIn_cons hsent (quiet rfl))).mono hsuffix) trivial
        (h.inTurn.cons (quiet rfl))
    · exact hskip (hclear hk rfl) id (quiet rfl)

lemma exclusive_boot : Exclusive A k (.boot fun _ => none) where
  owner ht := by cases ht
  held ht := by cases ht
  free _ t r hsent := by cases hsent.1
  knows ht := by cases ht
  inTurn before t r hpre := by
    obtain ⟨s, hs⟩ := hpre
    simp [Config.boot] at hs

lemma Exclusive.step (h : Exclusive A k σ) (hs : Step adapterHost (sendCode A) σ σ')
    (hok : Orderly A k σ'.trace) : Exclusive A k σ' := by
  cases hs with
  | spawn c =>
    refine h.idle rfl (fun hu hq => ?_) rfl (quiet rfl)
    rcases Config.threads_spawn hu with ⟨-, heq⟩ | hu
    · cases heq
      exact hq.elim
    · exact hu
  | act ht ha hw => exact h.act ht ha hw hok
  | finish ht ha => exact h.idle rfl (fun hu _ => (Config.threads_gone hu).2) rfl (quiet rfl)
  | cancel ht => exact h.idle rfl (fun hu _ => (Config.threads_gone hu).2) rfl (quiet rfl)
  | outside hw => exact hw.elim

lemma exclusive_of_reach (hreach : Reach adapterHost (sendCode A) (fun _ => none) σ)
    (hok : Orderly A k σ.trace) : Exclusive A k σ :=
  hreach.invariant (P := fun σ => Orderly A k σ.trace → Exclusive A k σ) (fun _ => exclusive_boot)
    (fun _ _ hinv hs hok => (hinv (hok.mono hs.trace_suffix)).step hs hok) hok

end

/-- In every run in which failed sends under a key are definite rejections, and requests that come
after one carry its payload: every payload broadcast under the key is the same, and it is broadcast
again only after every earlier send was rejected. -/
theorem broadcasts_once (A : SubmissionAdapter) (k : IdempotencyKey)
    {σ : Config SubmissionLedger SubmitRequest AdapterOp AdapterOp.Ans
      (Except RelayError SubmissionReceipt) (adapterPool A).State}
    (hreach : Reach adapterHost (adapterPool A) (fun _ => none) σ) (hok : Orderly A k σ.trace) :
    (∀ t t' r r', SentIn k σ.trace t r → SentIn k σ.trace t' r' → r.payload = r'.payload) ∧
      ∀ before t r, (.did t (.send r) () :: before) <:+ σ.trace → r.idempotencyKey = k →
        ∀ t' r', SentIn k before t' r' →
          ∃ r'', r''.idempotencyKey = k ∧ .did t' (.answer r'') (.error .rejected) ∈ before := by
  obtain ⟨τ, hτ, hmatch⟩ := hreach.follows (submit_follows A)
  rw [← hmatch.trace] at hok ⊢
  have hturn := (exclusive_of_reach hτ hok).inTurn
  constructor
  · rintro t t' r r' ⟨hmem, hk⟩ ⟨hmem', hk'⟩
    rcases before_or_after hmem hmem' with heq | ⟨before, hpre, hb⟩ | ⟨before, hpre, hb⟩
    · cases heq
      rfl
    · exact (hturn before t r hpre hk t' r' ⟨hb, hk'⟩).2.symm
    · exact (hturn before t' r' hpre hk' t r ⟨hb, hk⟩).2
  · intro before t r hpre hk t' r' hsent
    obtain ⟨r'', x, hmem, hk'', hx⟩ := (hturn before t r hpre hk t' r' hsent).1
    have hbefore : before <:+ τ.trace := (List.suffix_cons _ _).trans hpre
    have hrejected := hok.definite t' r'' x (hbefore.mem hmem) hk'' hx
    exact ⟨r'', hk'', hrejected ▸ hmem⟩

/-! ### Two calls after one another -/

section

variable {A : SubmissionAdapter} {r r' : SubmitRequest} {x y : Except ChainAdapterError String}

def failedSend (r : SubmitRequest) (x : Except ChainAdapterError String) : List (Σ o : AdapterOp, o.Ans) :=
  [⟨.admission r, (none : Option SubmitAdmission)⟩, ⟨.send r, ()⟩, ⟨.answer r, x⟩, ⟨.release r, ()⟩]

lemma settleSend_of_failed (hx : A.Failed x) :
    ∃ a, settleSend A.acknowledges r x = .call (.release r) fun _ => .pure a := by
  cases x with
  | error e => exact ⟨_, rfl⟩
  | ok reference =>
    have hack : A.acknowledges reference = false := hx
    simp only [settleSend, hack, if_neg Bool.false_ne_true]
    exact ⟨_, rfl⟩

lemma plays_failedSend (t : Tid) (ledger : SubmissionLedger) (hacc : A.accepts r = .ok ())
    (hfree : ledger r.idempotencyKey = none) (hx : A.Failed x) :
    ∃ a ledger', Plays adapterHost t (A.submit r) ledger (failedSend r x) (.pure a) ledger' ∧
      ledger' r.idempotencyKey = none := by
  obtain ⟨a, ha⟩ := settleSend_of_failed (r := r) hx
  let held := Function.update ledger r.idempotencyKey (some (.inFlight r.payloadDigest))
  have hrest : Plays adapterHost t (settleSend A.acknowledges r x) held [⟨.release r, ()⟩] (.pure a)
      (Function.update held r.idempotencyKey none) := by
    rw [ha]
    exact .call (.release r) (.refl _ _)
  refine ⟨a, _, ?_, Function.update_self r.idempotencyKey none held⟩
  rw [A.submit_eq]
  unfold submitWith
  rw [hacc]
  exact .call (.admitted r hfree) (.call (.send r) (.call (.answer r x) hrest))

lemma reach_failedSend_twice (hacc : A.accepts r = .ok ()) (hacc' : A.accepts r' = .ok ())
    (hkey : r'.idempotencyKey = r.idempotencyKey) (hx : A.Failed x) (hy : A.Failed y) :
    ∃ σ t t' a a', Reach adapterHost (adapterPool A) (fun _ => none) σ ∧
      σ.trace = .returned t' r' a' :: (((failedSend r' y).map fun e => .did t' e.1 e.2).reverse ++
        .started t' r' :: .returned t r a :: (((failedSend r x).map fun e => .did t e.1 e.2).reverse ++
          [.started t r])) := by
  obtain ⟨a, ledger, hplay, hfree⟩ := plays_failedSend 0 (fun _ => none) hacc rfl hx
  have hboot : Reach adapterHost (.ofProg A.submit) (fun _ => none) (.boot fun _ => none) := .refl
  obtain ⟨σ, hσ, hworld, htrace⟩ := hboot.call hplay
  obtain ⟨a', ledger', hplay', -⟩ :=
    plays_failedSend σ.next σ.world hacc' (by rw [hworld, hkey, hfree]) hy
  obtain ⟨τ, hτ, -, htrace'⟩ := hσ.call hplay'
  refine ⟨τ, 0, σ.next, a, a', hτ, ?_⟩
  rw [htrace', htrace]
  rfl

end

/-- Some run broadcasts two payloads under one key, the second after the first timed out. -/
def SendsTwoPayloads : Prop :=
  ∃ σ t t' r r', Reach adapterHost (adapterPool A) (fun _ => none) σ ∧
    SentIn k σ.trace t r ∧ SentIn k σ.trace t' r' ∧ r.payload ≠ r'.payload ∧
      .did t (.answer r) (.error .timeout) ∈ σ.trace

lemma sendsTwoPayloads {A : SubmissionAdapter} {r r' : SubmitRequest}
    (hacc : A.accepts r = .ok ()) (hacc' : A.accepts r' = .ok ())
    (hkey : r'.idempotencyKey = r.idempotencyKey) (hne : r.payload ≠ r'.payload) :
    SendsTwoPayloads A r.idempotencyKey := by
  obtain ⟨σ, t, t', a, a', hσ, htrace⟩ := reach_failedSend_twice hacc hacc' hkey
    (x := .error .timeout) (y := .error .timeout) trivial trivial
  refine ⟨σ, t, t', r, r', hσ, ⟨?_, rfl⟩, ⟨?_, hkey⟩, hne, ?_⟩ <;> simp [htrace, failedSend]

end PrivateExecution

namespace PrivateExecution

open Async

attribute [local instance] Sha256.sha2

def sampleSubmit (chain : ChainId) (payload : List UInt8) (hne : payload ≠ [])
    (hbounded : payload.length ≤ maxSignedPayloadBytes) : SubmitRequest where
  intentId := .lit "intent-1"
  idempotencyKey := .lit "key-1"
  chain := chain
  requestDigest := ⟨Sha256.digest []⟩
  payloadDigest := ⟨Sha256.digest payload⟩
  signedReference := "signed-1"
  chainReference := none
  payload := payload
  checked := ⟨by decide, hne, hbounded, rfl⟩

/-- A transfer-free Solana transaction with one signature, all of whose bytes are `b`. -/
def sampleSolanaPayload (b : UInt8) : List UInt8 :=
  1 :: List.replicate 64 b ++ [1, 0, 0, 1] ++ List.replicate 64 0 ++ [0]

/-- Both adapters send two payloads under one key. -/
theorem broadcasts_twice :
    SendsTwoPayloads (.evm .base) (.lit "key-1") ∧ SendsTwoPayloads .solana (.lit "key-1") := by
  constructor
  · have haccepts : ∀ b, SubmissionAdapter.accepts (.evm .base)
        (sampleSubmit .base [b] (by simp) (by simp [maxSignedPayloadBytes])) = .ok () :=
      fun b => EvmChainSubmissionAdapter.accepts_eq_ok.2 rfl
    exact sendsTwoPayloads (haccepts 1) (haccepts 2) (by simp only [sampleSubmit])
      (by simp [sampleSubmit])
  · have haccepts : ∀ payload (hne : payload ≠ []) hbounded,
        (validateSolanaTransaction payload).isOk = true → SubmissionAdapter.accepts .solana
          (sampleSubmit .solana payload hne hbounded) = .ok () :=
      fun _ hne hbounded h => SolanaChainSubmissionAdapter.accepts_eq_ok.2 ⟨rfl, h⟩
    exact sendsTwoPayloads
      (haccepts (sampleSolanaPayload 1) (by decide) (by decide +kernel) (by decide +kernel))
      (haccepts (sampleSolanaPayload 2) (by decide) (by decide +kernel) (by decide +kernel))
      (by simp only [sampleSubmit]) (by simp [sampleSubmit, sampleSolanaPayload])

/-- A rejected request that is sent again with its payload. -/
theorem rejected_payload_sent_again :
    ∃ σ t r, Reach adapterHost (adapterPool (.evm .base)) (fun _ => none) σ ∧
      Orderly (.evm .base) r.idempotencyKey σ.trace ∧ SentIn r.idempotencyKey σ.trace t r ∧
      ∀ t' r', SentIn r.idempotencyKey σ.trace t' r' → r.payload = r'.payload := by
  obtain ⟨r, hr⟩ : ∃ r, r = sampleSubmit .base [1] (by decide) (by decide) := ⟨_, rfl⟩
  have hacc : SubmissionAdapter.accepts (.evm .base) r = .ok () :=
    EvmChainSubmissionAdapter.accepts_eq_ok.2 (by rw [hr]; rfl)
  obtain ⟨σ, t, t', a, a', hσ, htrace⟩ := reach_failedSend_twice hacc hacc rfl
    (x := .error .rejected) (y := .error .rejected) trivial trivial
  simp only [failedSend, List.map_cons, List.map_nil, List.reverse_cons, List.reverse_nil,
    List.nil_append, List.cons_append] at htrace
  have hok : Orderly (.evm .base) r.idempotencyKey σ.trace := by
    constructor
    · intro u r' x hmem _ _
      simp only [htrace, List.mem_cons, List.not_mem_nil, or_false, reduceCtorEq, false_or] at hmem
      rcases hmem with h | h | h | h | h | h | h | h <;> cases h <;> rfl
    · intro before u r₁ x hpre _ u' r₂ hsent _
      have hsent := ((List.suffix_cons _ _).trans hpre).mem hsent.1
      have hask := hpre.mem (List.mem_cons_self ..)
      simp only [htrace, List.mem_cons, List.not_mem_nil, or_false, reduceCtorEq, false_or] at hsent hask
      have h₂ : r₂ = r := by rcases hsent with h | h | h | h | h | h | h | h <;> cases h <;> rfl
      have h₁ : r₁ = r := by rcases hask with h | h | h | h | h | h | h | h <;> cases h <;> rfl
      rw [h₁, h₂]
  have hfirst : SentIn r.idempotencyKey σ.trace t r := ⟨by simp [htrace], rfl⟩
  exact ⟨σ, t, r, hσ, hok, hfirst, fun u' r' h => (broadcasts_once _ _ hσ hok).1 t u' r r' hfirst h⟩

end PrivateExecution
