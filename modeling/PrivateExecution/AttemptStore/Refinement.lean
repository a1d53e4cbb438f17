import PrivateExecution.Async.Machine
import PrivateExecution.AttemptStore.Postgres
import PrivateExecution.Privy.Sha256

/-!
# The Postgres store against its specification

`DeterministicDurableStore` is documented as the behaviour the Postgres store matches. The two
disagree in places (`stores_disagree`): a freshly reserved attempt has no outcome in the reference
and the outcome `Reserved` in Postgres; a transition that comes late is ignored by the reference and
an error in Postgres; and what Postgres decodes from its columns is not always what was recorded.
-/

namespace PrivateExecution

open Async

variable [Sha256]

/-! ### Answers and conditions -/

abbrev StoreResult (c : StoreCall) := Except RelayError c.Result

def durableMachine : Machine StoreCall StoreResult := ⟨Attempts, DurableStore.run⟩

def postgresMachine : Machine StoreCall StoreResult := ⟨AttemptTable, PostgresStore.run⟩

/-- The same answer, up to which error it is. -/
def SameAnswer {α : Type} : Except RelayError α → Except RelayError α → Prop
  | .ok a, .ok b => a = b
  | .error _, .error _ => True
  | _, _ => False

def StoreCall.NonBlank : StoreCall → Prop
  | .recordSignedReference _ _ reference => isBlank reference = false
  | .recordOutcome _ _ o => ∀ reference ∈ o.reference?, isBlank reference = false
  | _ => True

/-- The request is the one the row was reserved and signed for. -/
structure AttemptRow.Owns (r : AttemptRow) (key : IdempotencyKey) (request : SubmitRequest) : Prop where
  intentId : request.intentId = r.intentId
  chain : chainFromCanonicalTag r.chainTag = some request.chain
  digest : request.requestDigest = r.requestDigest
  key : request.idempotencyKey = key
  signed : r.signedReference = some request.signedReference
  chainReference : r.submissionReference = request.chainReference

/-- When a call finds the stores in a state in which both do the same. The entry a transition is
about is the one under its key and digest; without one both stores answer with an error. -/
def Aligned (x : Attempts × AttemptTable) : StoreCall → Prop
  | .reserveBound b _ => ∀ name, b.chain ≠ .other name
  | .recordSignRequested b d _ => ∀ e, x.1 b.key = some e → e.digest = d →
      e.status = .reserved ∨ e.status = .signRequested
  | .recordSigned b d => ∀ e, x.1 b.key = some e → e.digest = d →
      (e.status = .signRequested ∨ e.status = .signed) ∧ e.outcome ≠ some .reserved
  | .recordSignedReference b d reference => ∀ e, x.1 b.key = some e → e.digest = d →
      (e.status = .signRequested ∨ e.status = .signed) ∧ e.outcome ≠ some .reserved ∧
        ∀ submission ∈ e.submission, submission.signedReference = reference
  | .recordSubmission b d request => ∀ e r, x.1 b.key = some e → x.2 b.key = some r → e.digest = d →
      (e.status = .signed ∨ e.status = .submissionUnknown ∨ e.status = .submitted) ∧
        r.Owns b.idempotencyKey request
  | .recordOutcome b d o => ∀ e, x.1 b.key = some e → e.digest = d → e.status.isTerminal = false →
      o ≠ .prepared ∧ ∀ reference state, o = .submitted reference state → state = .unknown
  | .loadOutcome b => ∀ e, x.1 b.key = some e → e.outcome ≠ none
  | .loadSubmission _ => True

/-! ### Rows that mirror entries -/

/-- The columns of the row are those of the submission. -/
structure AttemptRow.Holds (r : AttemptRow) (key : IdempotencyKey) (s : DurableSubmission) : Prop where
  payload : r.payload = some s.payload
  payloadDigest : r.payloadDigest = some s.payloadDigest
  signedReference : r.signedReference = some s.signedReference
  chainReference : r.submissionReference = s.chainReference
  intentId : r.intentId = s.intentId
  chain : chainFromCanonicalTag r.chainTag = some s.chain
  digest : r.requestDigest = s.requestDigest
  key : s.idempotencyKey = key

/-- A row and the entry it stands for. -/
structure Mirrors (key : IdempotencyKey) (e : DurableEntry) (r : AttemptRow) : Prop where
  digest : r.requestDigest = e.digest
  status : r.status = e.status
  signedReference : r.signedReference = e.signedReference
  outcome : r.decodeExistingOutcome = .ok (e.outcome.getD .reserved)
  noSubmission : e.submission = none → r.payload = none
  submission : ∀ s, e.submission = some s → r.Holds key s

def Related (s : Attempts) (t : AttemptTable) : Prop :=
  ∀ k, Option.Rel (Mirrors k.idempotencyKey) (s k) (t k)

section

variable {key : IdempotencyKey} {e : DurableEntry} {r : AttemptRow} {b : AttemptBinding}
  {d : RequestDigest} {reference : String} {request : SubmitRequest} {o : RelayOutcome}

variable {s : DurableSubmission}

lemma AttemptRow.Holds.decode (h : r.Holds key s) : r.decodeSubmission key = .ok (some s) := by
  obtain ⟨hpay, hdig, hsig, href, hint, hchain, hreq, rfl⟩ := h
  obtain ⟨href', hne, hle, hd⟩ := s.checked
  simp only [AttemptRow.decodeSubmission, hpay, hdig, hsig, hchain, okOr, DurableSubmission.new,
    hint, hreq, href, dif_pos href', dif_pos hne, dif_pos hle, dif_pos hd]
  rfl

lemma Mirrors.decodeSubmission (h : Mirrors key e r) : r.decodeSubmission key = .ok e.submission := by
  cases hs : e.submission with
  | none => simp [AttemptRow.decodeSubmission, h.noSubmission hs]
  | some s => exact (h.submission s hs).decode

lemma AttemptRow.Holds.withStatus (h : r.Holds key s) (status : AttemptStatus) (provider : Option String) :
    AttemptRow.Holds { r with status := status, providerIdempotencyId := provider } key s :=
  ⟨h.payload, h.payloadDigest, h.signedReference, h.chainReference, h.intentId, h.chain, h.digest,
    h.key⟩

lemma mirrors_fresh (tag : UInt8) : Mirrors key (.fresh d) (.reserved b d tag) :=
  ⟨rfl, rfl, rfl, rfl, fun _ => rfl, nofun⟩

section

variable (h : Mirrors key e r)

include h

lemma Mirrors.outcome_of_reserved
    (hs : e.status = .reserved ∨ e.status = .signRequested) : e.outcome.getD .reserved = .reserved := by
  have hout := h.outcome
  rcases hs with hs | hs <;>
  · rw [AttemptRow.decodeExistingOutcome, h.status, hs] at hout
    exact (Except.ok.inj hout).symm

lemma Mirrors.signRequested
    (hs : e.status = .reserved ∨ e.status = .signRequested) (value : String) :
    Mirrors key (e.signRequested value) (r.signRequested value) where
  digest := h.digest
  status := rfl
  signedReference := h.signedReference
  outcome := congrArg Except.ok (h.outcome_of_reserved hs).symm
  noSubmission := h.noSubmission
  submission s hsub := (h.submission s hsub).withStatus _ _

lemma Mirrors.outcome_of_signed
    (hs : e.status = .signRequested ∨ e.status = .signed) (hne : e.outcome ≠ some .reserved) :
    e.outcome.getD .signed = .signed := by
  rcases hs with hs | hs
  · have hres := h.outcome_of_reserved (.inr hs)
    cases ho : e.outcome with
    | none => rfl
    | some o =>
      rw [ho] at hres
      exact absurd (ho.trans (congrArg some hres)) hne
  · have hout := h.outcome
    rw [AttemptRow.decodeExistingOutcome, h.status, hs] at hout
    cases ho : e.outcome with
    | none => rfl
    | some o =>
      rw [ho] at hout
      exact (Except.ok.inj hout).symm

lemma Mirrors.signed (hs : e.status = .signRequested ∨ e.status = .signed)
    (hne : e.outcome ≠ some .reserved) : Mirrors key e.signed r.signed where
  digest := h.digest
  status := rfl
  signedReference := h.signedReference
  outcome := congrArg Except.ok (h.outcome_of_signed hs hne).symm
  noSubmission := h.noSubmission
  submission s hsub := (h.submission s hsub).withStatus _ r.providerIdempotencyId

lemma Mirrors.signedWith
    (hs : e.status = .signRequested ∨ e.status = .signed) (hne : e.outcome ≠ some .reserved)
    (href : ∀ s ∈ e.submission, s.signedReference = reference) :
    Mirrors key (e.signedWith reference) (r.signedWith reference) where
  digest := h.digest
  status := rfl
  signedReference := rfl
  outcome := congrArg Except.ok (h.outcome_of_signed hs hne).symm
  noSubmission := h.noSubmission
  submission s hsub := by
    have hold := h.submission s hsub
    exact ⟨hold.payload, hold.payloadDigest, congrArg some (href s hsub).symm, hold.chainReference,
      hold.intentId, hold.chain, hold.digest, hold.key⟩

lemma Mirrors.submitting (hown : r.Owns key request) :
    Mirrors key (e.submitting request.toDurable) (r.submitting request.toDurable) where
  digest := h.digest
  status := rfl
  signedReference := h.signedReference
  outcome := rfl
  noSubmission hnone := by cases hnone
  submission s hsub := by
    cases hsub
    exact ⟨rfl, rfl, hown.signed, hown.chainReference, hown.intentId.symm, hown.chain,
      hown.digest.symm, hown.key⟩

end

omit [Sha256] in
lemma AttemptRow.decode_withOutcome (r : AttemptRow) (hprep : o ≠ .prepared)
    (hstate : ∀ reference state, o = .submitted reference state → state = .unknown)
    (hblank : ∀ reference ∈ o.reference?, isBlank reference = false) :
    (r.withOutcome o).decodeExistingOutcome = .ok o := by
  cases o with
  | prepared => exact absurd rfl hprep
  | submitted reference state =>
    obtain rfl := hstate reference state rfl
    have href : isBlank reference = false := hblank reference rfl
    simp [withOutcome, decodeExistingOutcome, RelayOutcome.attemptStatus, RelayOutcome.reference?, href]
  | confirmed reference fill =>
    have href : isBlank reference = false := hblank reference rfl
    have hkept : (some reference).filter (fun value => !isBlank value) = some reference := by
      simp [Option.filter, href]
    cases fill <;> simp [withOutcome, decodeExistingOutcome, RelayOutcome.attemptStatus,
      RelayOutcome.reference?, AttemptRow.fill, hkept]
  | reserved | signed | unknown | rejected | failedBeforeSubmit => rfl

lemma AttemptRow.Holds.withOutcome (h : r.Holds key s)
    (hblank : ∀ reference ∈ o.reference?, isBlank reference = false) :
    (r.withOutcome o).Holds key
      (match o.reference? with
        | some reference => s.setChainReference reference
        | none => s) := by
  cases ho : o.reference? with
  | none =>
    refine ⟨h.payload, h.payloadDigest, h.signedReference, ?_, h.intentId, h.chain, h.digest, h.key⟩
    simp [AttemptRow.withOutcome, ho, h.chainReference]
  | some reference =>
    have href : isBlank reference = false := hblank reference ho
    simp only [DurableSubmission.setChainReference, href, if_neg Bool.false_ne_true]
    refine ⟨h.payload, h.payloadDigest, h.signedReference, ?_, h.intentId, h.chain, h.digest, h.key⟩
    simp [AttemptRow.withOutcome, ho]

lemma Mirrors.resolved (h : Mirrors key e r) (hprep : o ≠ .prepared)
    (hstate : ∀ reference state, o = .submitted reference state → state = .unknown)
    (hblank : ∀ reference ∈ o.reference?, isBlank reference = false) :
    Mirrors key (e.resolved o) (r.withOutcome o) where
  digest := h.digest
  status := rfl
  signedReference := h.signedReference
  outcome := r.decode_withOutcome hprep hstate hblank
  noSubmission hnone := by
    refine h.noSubmission ?_
    cases ho : o.reference? <;> simpa [DurableEntry.resolved, ho] using hnone
  submission s hsub := by
    cases hold : e.submission with
    | none => cases ho : o.reference? <;> simp [DurableEntry.resolved, ho, hold] at hsub
    | some s₀ =>
      have hmoved := (h.submission s₀ hold).withOutcome hblank
      cases ho : o.reference? <;> simp only [DurableEntry.resolved, ho, hold, Option.map_some,
        Option.some.injEq] at hsub hmoved <;> exact hsub ▸ hmoved

end

/-! ### The simulation -/

section

variable {s : Attempts} {t : AttemptTable} {b : AttemptBinding} {d : RequestDigest}

section

variable (h : Related s t)

include h

lemma Related.lookup (b : AttemptBinding) : s b.key = none ∧ t b.key = none ∨
      ∃ e r, s b.key = some e ∧ t b.key = some r ∧ Mirrors b.idempotencyKey e r := by
  have hrel := h b.key
  generalize s b.key = x, t b.key = y at hrel
  cases hrel with
  | none => exact .inl ⟨rfl, rfl⟩
  | some hm => exact .inr ⟨_, _, rfl, rfl, hm⟩

lemma Related.update {e : DurableEntry} {r : AttemptRow}
    (hm : Mirrors b.idempotencyKey e r) :
    Related (Function.update s b.key (some e)) (Function.update t b.key (some r)) := by
  intro k
  rcases eq_or_ne k b.key with rfl | hne
  · rw [Function.update_self, Function.update_self]
    exact .some hm
  · simpa only [Function.update_of_ne hne] using h k

lemma Related.transition {f : DurableEntry → DurableEntry}
    {from_ : AttemptStatus → Bool} {g : AttemptRow → AttemptRow}
    (hstep : ∀ e r, s b.key = .some e → t b.key = .some r → Mirrors b.idempotencyKey e r →
      e.digest = d → from_ e.status = true ∧ e.status.isTerminal = false ∧
        Mirrors b.idempotencyKey (f e) (g r)) :
    SameAnswer (DurableStore.withEntry s b d (·.unlessTerminal f)).1
        (PostgresStore.update t b d from_ g).1 ∧
      Related (DurableStore.withEntry s b d (·.unlessTerminal f)).2 (PostgresStore.update t b d from_ g).2 := by
  unfold DurableStore.withEntry PostgresStore.update
  rcases h.lookup b with ⟨hs, ht⟩ | ⟨e, r, hs, ht, hm⟩
  · rw [hs, ht]
    exact ⟨trivial, h⟩
  · simp only [hs, ht, hm.digest, hm.status]
    by_cases hd : e.digest = d
    · obtain ⟨hfrom, hlive, hm'⟩ := hstep e r hs ht hm hd
      simp only [hd, hfrom, and_self, if_true, DurableEntry.unlessTerminal, hlive,
        if_neg Bool.false_ne_true]
      exact ⟨rfl, h.update hm'⟩
    · simp only [hd, false_and, if_false]
      exact ⟨trivial, h⟩

lemma Related.recordOutcome {o : RelayOutcome}
    (hstep : ∀ e r, s b.key = some e → Mirrors b.idempotencyKey e r → e.digest = d →
      e.status.isTerminal = false → Mirrors b.idempotencyKey (e.resolved o) (r.withOutcome o)) :
    SameAnswer (DurableStore.withEntry s b d (·.unlessTerminal (.resolved o))).1
        (PostgresStore.recordOutcome t b d o).1 ∧
      Related (DurableStore.withEntry s b d (·.unlessTerminal (.resolved o))).2
        (PostgresStore.recordOutcome t b d o).2 := by
  unfold DurableStore.withEntry PostgresStore.recordOutcome PostgresStore.update
  rcases h.lookup b with ⟨hs, ht⟩ | ⟨e, r, hs, ht, hm⟩
  · rw [hs, ht]
    exact ⟨trivial, h⟩
  · simp only [hs, ht, hm.digest, hm.status]
    by_cases hd : e.digest = d
    · cases hlive : e.status.isTerminal with
      | false =>
        have hm' := hstep e r hs hm hd hlive
        simp only [hd, Bool.not_false, and_self, if_true, DurableEntry.unlessTerminal, hlive,
          if_neg Bool.false_ne_true]
        exact ⟨rfl, h.update hm'⟩
      | true =>
        -- both leave the attempt alone and report success
        simp only [hd, Bool.not_true, and_self, if_true, DurableEntry.unlessTerminal, hlive]
        refine ⟨rfl, ?_⟩
        rw [Function.update_eq_self_iff.2 hs.symm]
        exact h
    · simp only [hd, false_and, if_false]
      exact ⟨trivial, h⟩

lemma Related.reserveBound (hchain : ∀ name, b.chain ≠ .other name) :
    SameAnswer (.ok (DurableStore.reserveBound s b d).1) (PostgresStore.reserveBound t b d).1 ∧
      Related (DurableStore.reserveBound s b d).2 (PostgresStore.reserveBound t b d).2 := by
  obtain ⟨tag, htag⟩ : ∃ tag, chainTag b.chain = .ok tag := by
    cases hc : b.chain with
    | other name => exact absurd hc (hchain name)
    | solana | base | bnbChain | ethereum | robinhoodAssociated => exact ⟨_, rfl⟩
  unfold DurableStore.reserveBound PostgresStore.reserveBound
  simp only [htag]
  rcases h.lookup b with ⟨hs, ht⟩ | ⟨e, r, hs, ht, hm⟩
  · rw [hs, ht]
    exact ⟨rfl, h.update (mirrors_fresh tag)⟩
  · simp only [hs, ht, hm.digest]
    by_cases hd : e.digest = d
    · simp only [hd, if_true, hm.outcome]
      exact ⟨rfl, h⟩
    · simp only [hd, if_false]
      exact ⟨rfl, h⟩

/-- One call: aligned calls are answered alike and keep the stores related. -/
lemma Related.run (c : StoreCall) (hc : c.NonBlank) (hok : Aligned (s, t) c) :
    SameAnswer (DurableStore.run s c).1 (PostgresStore.run t c).1 ∧
      Related (DurableStore.run s c).2 (PostgresStore.run t c).2 := by
  cases c with
  | reserveBound b d => exact h.reserveBound hok
  | recordSignRequested b d value =>
    refine h.transition fun e r hs _ hm hd => ?_
    have hstatus := hok e hs hd
    refine ⟨?_, ?_, hm.signRequested hstatus value⟩ <;> rcases hstatus with he | he <;> rw [he] <;> rfl
  | recordSigned b d =>
    refine h.transition fun e r hs _ hm hd => ?_
    obtain ⟨hstatus, hne⟩ := hok e hs hd
    refine ⟨?_, ?_, hm.signed hstatus hne⟩ <;> rcases hstatus with he | he <;> rw [he] <;> rfl
  | recordSignedReference b d reference =>
    have hblank : isBlank reference = false := hc
    rw [PostgresStore.run_recordSignedReference t b d hblank]
    refine h.transition fun e r hs _ hm hd => ?_
    obtain ⟨hstatus, hne, href⟩ := hok e hs hd
    refine ⟨?_, ?_, hm.signedWith hstatus hne href⟩ <;> rcases hstatus with he | he <;> rw [he] <;> rfl
  | recordSubmission b d request =>
    rw [DurableStore.run_recordSubmission]
    simp only [PostgresStore.run, DurableSubmission.fromRequest_eq_ok]
    refine h.transition fun e r hs ht hm hd => ?_
    obtain ⟨hstatus, hown⟩ := hok e r hs ht hd
    refine ⟨?_, ?_, hm.submitting hown⟩ <;> rcases hstatus with he | he | he <;> rw [he] <;> rfl
  | recordOutcome b d o =>
    refine h.recordOutcome fun e r hs hm hd hlive => ?_
    obtain ⟨hprep, hstate⟩ := hok e hs hd hlive
    exact hm.resolved hprep hstate hc
  | loadSubmission b =>
    rcases h.lookup b with ⟨hs, ht⟩ | ⟨e, r, hs, ht, hm⟩
    · simp only [DurableStore.run, PostgresStore.run, hs, ht]
      exact ⟨rfl, h⟩
    · simp only [DurableStore.run, PostgresStore.run, hs, ht, hm.decodeSubmission]
      exact ⟨rfl, h⟩
  | loadOutcome b =>
    rcases h.lookup b with ⟨hs, ht⟩ | ⟨e, r, hs, ht, hm⟩
    · simp only [DurableStore.run, PostgresStore.run, hs, ht]
      exact ⟨rfl, h⟩
    · obtain ⟨o, ho⟩ := Option.ne_none_iff_exists'.1 (hok e hs)
      simp only [DurableStore.run, PostgresStore.run, hs, ht, hm.outcome, Option.bind_some, ho,
        Option.getD_some]
      exact ⟨rfl, h⟩

end

end

/-- **Refinement.** Along every run of calls with non-blank references that are aligned in the
states they find, the Postgres store answers as the reference store does. -/
theorem stores_agree (calls : List StoreCall) (hplain : ∀ c ∈ calls, c.NonBlank)
    (h : (durableMachine.both postgresMachine).Meets Aligned (fun _ => none, fun _ => none) calls) :
    durableMachine.Agrees postgresMachine (fun _ => SameAnswer) (fun _ => none) (fun _ => none) calls :=
  (h.and_forall hplain).agrees (R := Related) (fun _ => .none)
    fun _ _ c hrel hok => hrel.run c hok.2 hok.1

/-! ### Runs -/

/-- The store calls of an attempt that is signed and submitted, and then looked up. -/
def submittedAttempt (b : AttemptBinding) (d : RequestDigest) (request : SubmitRequest) : List StoreCall :=
  [.reserveBound b d, .recordSignRequested b d "provider-1",
    .recordSignedReference b d request.signedReference, .recordSubmission b d request,
    .loadOutcome b, .loadSubmission b]

section

attribute [local simp] Machine.both durableMachine postgresMachine DurableStore.run
  DurableStore.reserveBound DurableStore.withEntry DurableEntry.fresh DurableEntry.unlessTerminal
  AttemptStatus.isTerminal DurableEntry.signRequested DurableEntry.signedWith DurableEntry.submitting
  PostgresStore.run PostgresStore.reserveBound PostgresStore.update AttemptRow.reserved
  AttemptRow.signRequested AttemptRow.signedWith

lemma submittedAttempt_aligned (b : AttemptBinding) (request : SubmitRequest)
    (hchain : b.chain = .base) (hintent : request.intentId = b.intentId)
    (hrequest : request.chain = b.chain) (hkey : request.idempotencyKey = b.idempotencyKey)
    (hnone : request.chainReference = none) :
    (durableMachine.both postgresMachine).Meets Aligned (fun _ => none, fun _ => none)
      (submittedAttempt b request.requestDigest request) := by
  have htag : chainTag b.chain = .ok 1 := by rw [hchain]; rfl
  have hblank := request.checked.reference
  refine ⟨?_, ?_, ?_, ?_, ?_, trivial, trivial⟩
  · intro name h
    simp [hchain] at h
  · intro e he _
    simp at he
    simp [← he]
  · intro e he _
    simp at he
    simp [← he]
  · intro e r he hr _
    simp at he
    simp [htag, hblank] at hr
    subst he hr
    exact ⟨.inl rfl, hintent, by simp [hrequest, hchain, chainFromCanonicalTag], rfl, hkey, rfl,
      hnone.symm⟩
  · intro e he
    simp at he
    simp [← he]

end

end PrivateExecution

namespace PrivateExecution

open Async

attribute [local instance] Sha256.sha2

namespace AttemptSample

def binding : AttemptBinding where
  owner := .lit "user-1"
  workspace := .lit "wallet-1"
  idempotencyKey := .lit "key-1"
  intentId := .lit "intent-1"
  chain := .base

def digest : RequestDigest := ⟨Vector.replicate 32 0⟩

def request : SubmitRequest where
  intentId := binding.intentId
  idempotencyKey := binding.idempotencyKey
  chain := .base
  requestDigest := digest
  payloadDigest := ⟨Sha256.digest [1]⟩
  signedReference := "signed-1"
  chainReference := none
  payload := [1]
  checked := ⟨by decide, by decide, by decide, rfl⟩

end AttemptSample

open AttemptSample

/-- The stores agree on the calls of a submitted attempt. -/
theorem stores_agree_on_submission :
    (durableMachine.both postgresMachine).Meets Aligned (fun _ => none, fun _ => none)
        (submittedAttempt binding digest request) ∧
      durableMachine.Agrees postgresMachine (fun _ => SameAnswer) (fun _ => none) (fun _ => none)
        (submittedAttempt binding digest request) := by
  have haligned := submittedAttempt_aligned binding request rfl rfl rfl rfl rfl
  refine ⟨haligned, stores_agree _ ?_ haligned⟩
  intro c hc
  simp only [submittedAttempt, List.mem_cons, List.not_mem_nil, or_false] at hc
  rcases hc with rfl | rfl | rfl | rfl | rfl | rfl <;>
    first | exact trivial | exact request.checked.reference

/-- The outcome of a fresh reservation, and a transition after a terminal outcome. -/
theorem stores_disagree :
    ¬ durableMachine.Agrees postgresMachine (fun _ => SameAnswer) (fun _ => none) (fun _ => none)
        [.reserveBound binding digest, .loadOutcome binding] ∧
      ¬ durableMachine.Agrees postgresMachine (fun _ => SameAnswer) (fun _ => none) (fun _ => none)
        [.reserveBound binding digest, .recordOutcome binding digest .failedBeforeSubmit,
          .recordSigned binding digest] := by
  constructor
  · rintro ⟨-, h, -⟩
    have hne : (none : Option RelayOutcome) = some .reserved := h
    cases hne
  · rintro ⟨-, -, h, -⟩
    exact h

end PrivateExecution
