import PrivateExecution.Relay.Execute

/-!
# The protocol an attempt goes through

What a running `execute` or `reconcile` may still do is its `Phase`. `RelayMove` is the diagram:
which store calls, signatures, submissions and chain reads are possible in which phase, and where
each answer leads. `Phase.Ends` is what each phase may return.
-/

namespace PrivateExecution

open Async

variable [Sha256]

/-! ### The diagram -/

inductive Phase where
  /-- `execute` before the claim. -/
  | unclaimed (b : AttemptBinding)
  /-- `execute` after a claim that was not granted. -/
  | turnedAway (b : AttemptBinding) (answer : Except RelayError Reservation)
  /-- The claim is granted, the signer was not called. -/
  | claimed (b : AttemptBinding) (d : RequestDigest)
  /-- The signer has answered, nothing is persisted. -/
  | signed (b : AttemptBinding) (d : RequestDigest) (answer : Except RelayError SignedExecutionRef)
  /-- The submission is persisted, nothing is sent. -/
  | persisted (b : AttemptBinding) (d : RequestDigest) (request : SubmitRequest)
  /-- The adapter was called. -/
  | sent (b : AttemptBinding) (d : RequestDigest) (answer : Except RelayError SubmissionReceipt)
  /-- The attempt was given up before anything was sent. -/
  | abandoned (b : AttemptBinding) (d : RequestDigest)
  /-- `reconcile`, with the last observation of the chain. -/
  | observing (b : AttemptBinding) (seen : Option ChainObservation)
  /-- `reconcile` after it read a stored outcome. -/
  | recalled (b : AttemptBinding) (o : RelayOutcome)
  /-- `reconcile` after the stored submission could not be read. -/
  | blind (b : AttemptBinding)

namespace Phase

def claim? : Phase → Option AttemptBinding
  | .claimed b _ | .signed b _ _ | .persisted b _ _ | .sent b _ _ | .abandoned b _ => some b
  | _ => none

def maySign : Phase → Bool
  | .claimed _ _ => true
  | _ => false

def maySubmit : Phase → Bool
  | .claimed _ _ | .signed _ _ _ | .persisted _ _ _ => true
  | _ => false

def hasSent : Phase → Bool
  | .sent _ _ _ => true
  | _ => false

/-- The owner may still give the attempt up as not sent. -/
def MayAbandon : Phase → AttemptBinding → RequestDigest → Prop
  | .claimed b d, b', d' | .signed b d _, b', d' | .persisted b d _, b', d' => b = b' ∧ d = d'
  | _, _, _ => False

/-- The call is a `reconcile` of this attempt that can still read and record. -/
def Reconciles : Phase → AttemptBinding → Prop
  | .observing b _, b' | .recalled b _, b' => b = b'
  | _, _ => False

end Phase

/-- Operations that touch neither the store nor the signer nor the chain. -/
def RelayOp.isQuiet : RelayOp → Bool
  | .store _ | .sign _ _ | .submit _ _ | .query _ _ _ | .reconcile _ _ _ => false
  | _ => true

/-- The signed reference attests to the request that was reserved. -/
def SignedExecutionRef.MatchesClaim (s : SignedExecutionRef) (b : AttemptBinding) (d : RequestDigest) :
    Prop :=
  s.requestDigest = d ∧ s.intentId = b.intentId ∧ s.idempotencyKey = b.idempotencyKey

inductive RelayMove : Phase → (o : RelayOp) → o.Ans → Phase → Prop where
  | quiet (p : Phase) (o : RelayOp) (r : o.Ans) (h : o.isQuiet = true) : RelayMove p o r p
  | claim (b : AttemptBinding) (d : RequestDigest) :
      RelayMove (.unclaimed b) (.store (.reserveBound b d)) (.ok .reserved) (.claimed b d)
  | turnAway (b : AttemptBinding) (d : RequestDigest) (answer : Except RelayError Reservation)
      (h : answer ≠ .ok .reserved) :
      RelayMove (.unclaimed b) (.store (.reserveBound b d)) answer (.turnedAway b answer)
  | requestSign (b : AttemptBinding) (d : RequestDigest) (value : String)
      (r : Except RelayError Unit) :
      RelayMove (.claimed b d) (.store (.recordSignRequested b d value)) r (.claimed b d)
  | sign (b : AttemptBinding) (request : SigningRequest) (r : Except RelayError SignedExecutionRef)
      (hi : request.intentId = b.intentId) (hk : request.idempotencyKey = b.idempotencyKey) :
      RelayMove (.claimed b request.requestDigest) (.sign b request) r
        (.signed b request.requestDigest r)
  | noteSigned (b : AttemptBinding) (d : RequestDigest) (s : SignedExecutionRef)
      (r : Except RelayError Unit) :
      RelayMove (.signed b d (.ok s)) (.store (.recordSignedReference b d s.reference)) r
        (.signed b d (.ok s))
  | persist (b : AttemptBinding) (d : RequestDigest) (s : SignedExecutionRef)
      (request : SubmitRequest) (hs : s.MatchesClaim b d) :
      RelayMove (.signed b d (.ok s)) (.store (.recordSubmission b d request)) (.ok ())
        (.persisted b d request)
  | persistFailed (b : AttemptBinding) (d : RequestDigest) (s : SignedExecutionRef)
      (request : SubmitRequest) (e : RelayError) :
      RelayMove (.signed b d (.ok s)) (.store (.recordSubmission b d request)) (.error e)
        (.signed b d (.ok s))
  | submit (b : AttemptBinding) (d : RequestDigest) (request : SubmitRequest)
      (r : Except RelayError SubmissionReceipt) :
      RelayMove (.persisted b d request) (.submit b request) r (.sent b d r)
  | conclude (b : AttemptBinding) (d : RequestDigest) (answer : Except RelayError SubmissionReceipt)
      (o : RelayOutcome) (r : Except RelayError Unit) (ho : o ≠ .failedBeforeSubmit)
      (hrej : ∀ reason, o = .rejected reason → answer = .error .adapterRejected) :
      RelayMove (.sent b d answer) (.store (.recordOutcome b d o)) r (.sent b d answer)
  | abandon (p : Phase) (b : AttemptBinding) (d : RequestDigest) (r : Except RelayError Unit)
      (h : p.MayAbandon b d) :
      RelayMove p (.store (.recordOutcome b d .failedBeforeSubmit)) r (.abandoned b d)
  | recallSome (b : AttemptBinding) (o : RelayOutcome) :
      RelayMove (.observing b none) (.store (.loadOutcome b)) (.ok (some o)) (.recalled b o)
  | recallNone (b : AttemptBinding) (r : Except RelayError (Option RelayOutcome)) :
      RelayMove (.observing b none) (.store (.loadOutcome b)) r (.observing b none)
  | load (p : Phase) (b : AttemptBinding) (s : Option DurableSubmission) (h : p.Reconciles b) :
      RelayMove p (.store (.loadSubmission b)) (.ok s) p
  | loadFailed (p : Phase) (b : AttemptBinding) (e : RelayError) (h : p.Reconciles b) :
      RelayMove p (.store (.loadSubmission b)) (.error e) (.blind b)
  | query (p : Phase) (b : AttemptBinding) (request : SubmitRequest) (nowMs : I64)
      (r : Except RelayError ChainObservation) (h : p.Reconciles b) :
      RelayMove p (.query b request nowMs) r (.observing b r.toOption)
  | reconcile (p : Phase) (b : AttemptBinding) (request : SubmitRequest) (nowMs : I64)
      (r : Except RelayError ChainObservation) (h : p.Reconciles b) :
      RelayMove p (.reconcile b request nowMs) r (.observing b r.toOption)
  | record (b : AttemptBinding) (d : RequestDigest) (seen : ChainObservation)
      (r : Except RelayError Unit) :
      RelayMove (.observing b (some seen)) (.store (.recordOutcome b d seen.toOutcome)) r
        (.observing b (some seen))

inductive Phase.Ends : Phase → RelayResult → Prop where
  | gate (b : AttemptBinding) (e : RelayError)
      (h : e = .tradingDisabled ∨ e = .chainHealthUnavailable ∨ e = .missingSignedPayload ∨
        e = .signingFailed) : Ends (.unclaimed b) (.error e)
  | duplicate (b : AttemptBinding) (o : RelayOutcome) :
      Ends (.turnedAway b (.ok (.alreadyReserved o))) (.ok o)
  | conflict (b : AttemptBinding) : Ends (.turnedAway b (.ok .conflict)) (.error .idempotencyConflict)
  | unreserved (b : AttemptBinding) (e : RelayError) :
      Ends (.turnedAway b (.error e)) (.error .reservationUnavailable)
  | abandoned (b : AttemptBinding) (d : RequestDigest) (r : RelayResult)
      (h : ∀ o, r = .ok o → o = .failedBeforeSubmit) : Ends (.abandoned b d) r
  | sent (b : AttemptBinding) (d : RequestDigest) (answer : Except RelayError SubmissionReceipt)
      (o : RelayOutcome) (ho : o ≠ .failedBeforeSubmit)
      (hrej : ∀ reason, o = .rejected reason → answer = .error .adapterRejected) :
      Ends (.sent b d answer) (.ok o)
  | recalled (b : AttemptBinding) (o : RelayOutcome) : Ends (.recalled b o) (.ok o)
  | missing (p : Phase) (b : AttemptBinding) (h : p.Reconciles b) : Ends p (.error .invalidTransition)
  | blind (b : AttemptBinding) : Ends (.blind b) (.error .storeUnavailable)
  | unreachable (b : AttemptBinding) : Ends (.observing b none) (.error .adapterUnavailable)
  | observed (b : AttemptBinding) (seen : ChainObservation) :
      Ends (.observing b (some seen)) (.ok seen.toOutcome)

abbrev relayCode {Call Ret : Type} (entry : Call → Phase) (ends : Phase → Ret → Prop) :
    Code Call RelayOp RelayOp.Ans Ret :=
  ⟨Phase, entry, RelayMove, ends⟩

/-! ### What a move can be -/

variable {p p' : Phase} {o : RelayOp} {r : o.Ans}

lemma RelayMove.claim_or_keep (h : RelayMove p o r p') :
    (p'.claim? = p.claim? ∧ (p'.maySign = true → p.maySign = true) ∧
      (p'.maySubmit = true → p.maySubmit = true) ∧ (p.hasSent = true → p'.hasSent = true)) ∨
    ∃ b d, p = .unclaimed b ∧ p' = .claimed b d ∧
      (⟨o, r⟩ : Σ o : RelayOp, o.Ans) = ⟨.store (.reserveBound b d), .ok .reserved⟩ := by
  cases h with
  | claim b d => exact .inr ⟨b, d, rfl, rfl, rfl⟩
  | abandon _ b d _ hp =>
    left
    cases p <;>
      simp_all [Phase.MayAbandon, Phase.claim?, Phase.maySign, Phase.maySubmit, Phase.hasSent]
  | loadFailed _ b e hp | query _ b _ _ _ hp | reconcile _ b _ _ _ hp =>
    left
    cases p <;>
      simp_all [Phase.Reconciles, Phase.claim?, Phase.maySign, Phase.maySubmit, Phase.hasSent]
  | _ => left; simp [Phase.claim?, Phase.maySign, Phase.maySubmit, Phase.hasSent]

variable {b : AttemptBinding}

lemma RelayMove.sign_inv {request : SigningRequest}
    {r : Except RelayError SignedExecutionRef} (h : RelayMove p (.sign b request) r p') :
    p = .claimed b request.requestDigest ∧ p' = .signed b request.requestDigest r ∧
      request.intentId = b.intentId ∧ request.idempotencyKey = b.idempotencyKey := by
  cases h with
  | quiet _ _ _ hq => cases hq
  | sign _ _ _ hi hk => exact ⟨rfl, rfl, hi, hk⟩

lemma RelayMove.submit_inv {request : SubmitRequest}
    {r : Except RelayError SubmissionReceipt} (h : RelayMove p (.submit b request) r p') :
    ∃ d, p = .persisted b d request ∧ p' = .sent b d r := by
  cases h with
  | quiet _ _ _ hq => cases hq
  | submit _ d _ _ => exact ⟨d, rfl, rfl⟩

lemma RelayMove.failedBeforeSubmit_inv {d : RequestDigest} {r : Except RelayError Unit}
    (h : RelayMove p (.store (.recordOutcome b d .failedBeforeSubmit)) r p') :
    p.MayAbandon b d ∧ p' = .abandoned b d := by
  generalize ho : RelayOutcome.failedBeforeSubmit = o at h
  cases h with
  | quiet _ _ _ hq => cases hq
  | conclude _ _ _ _ _ hne _ => exact absurd ho.symm hne
  | abandon _ _ _ _ hp => exact ⟨hp, rfl⟩
  | record _ _ seen _ => cases seen <;> cases ho

/-! ### The programs follow the diagram -/

section

variable {Call Ret α : Type} {entry : Call → Phase} {ends : Phase → Ret → Prop}
  {post : Phase → α → Prop} {b : AttemptBinding} {d : RequestDigest}

lemma follows_quiet {f : o.Ans → RelayProg α} (hq : o.isQuiet = true)
    (hf : ∀ r, (relayCode entry ends).Follows post p (f r)) :
    (relayCode entry ends).Follows post p (ask o >>= f) :=
  fun r => ⟨p, .quiet p o r hq, hf r⟩

lemma follows_ite {c : Prop} {_ : Decidable c} {x y : RelayProg α}
    (hx : c → (relayCode entry ends).Follows post p x) (hy : ¬ c → (relayCode entry ends).Follows post p y) :
    (relayCode entry ends).Follows post p (if c then x else y) := by
  split_ifs with h
  · exact hx h
  · exact hy h

lemma abandon_follows {r : RelayResult} (h : p.MayAbandon b d)
    (hr : ∀ o, r = .ok o → o = .failedBeforeSubmit) :
    (relayCode entry ends).Follows Phase.Ends p (abandon b d r) :=
  fun answer => ⟨_, .abandon p b d answer h, .abandoned b d r hr⟩

lemma conclude_follows {answer : Except RelayError SubmissionReceipt} {outcome : RelayOutcome}
    (ho : outcome ≠ .failedBeforeSubmit)
    (hrej : ∀ reason, outcome = .rejected reason → answer = .error .adapterRejected) :
    (relayCode entry ends).Follows Phase.Ends (.sent b d answer) (conclude b d outcome) :=
  fun r => ⟨_, .conclude b d answer outcome r ho hrej, .sent b d answer outcome ho hrej⟩

variable (relay : RelayId) {signing : SigningRequest} (nowMs : I64)

lemma settleSubmission_follows (answer : Except RelayError SubmissionReceipt) :
    (relayCode entry ends).Follows Phase.Ends (.sent b d answer) (settleSubmission relay b d nowMs answer) := by
  rcases answer with e | receipt
  · by_cases he : e = .adapterRejected
    · subst he
      exact follows_quiet rfl fun _ => conclude_follows nofun fun _ _ => rfl
    · have heq : settleSubmission relay b d nowMs (.error e) = (do
          ask (.resolveGuard relay (.chain b.chain) (.failure nowMs))
          conclude b d .unknown) := by
        cases e <;> first | rfl | exact absurd rfl he
      rw [heq]
      exact follows_quiet rfl fun _ => conclude_follows nofun nofun
  · refine follows_quiet rfl fun _ => follows_ite (fun _ => ?_) fun _ => ?_
    · exact conclude_follows nofun nofun
    · exact follows_quiet rfl fun _ => conclude_follows nofun nofun

lemma submitOnce_follows (request : SubmitRequest) (nowMs : I64) :
    (relayCode entry ends).Follows Phase.Ends (.persisted b d request)
      (submitOnce relay b d request nowMs) := by
  refine follows_quiet rfl fun admitted => ?_
  rcases admitted with _ | _
  · exact abandon_follows ⟨rfl, rfl⟩ nofun
  · exact fun answer => ⟨_, .submit b d request answer, settleSubmission_follows relay nowMs answer⟩

lemma persistSigned_follows {signed : SignedExecutionRef} (nowMs : I64) (hs : signed.MatchesClaim b d) :
    (relayCode entry ends).Follows Phase.Ends (.signed b d (.ok signed))
      (persistSigned relay b d signing signed nowMs) := by
  refine follows_quiet rfl fun payload => ?_
  rcases payload with e | payload
  · exact abandon_follows ⟨rfl, rfl⟩ nofun
  · rcases hbind : SubmitRequest.bind signing signed payload b.chain with e | request
    · simp only [hbind]
      exact abandon_follows ⟨rfl, rfl⟩ nofun
    · simp only [hbind]
      refine follows_quiet rfl fun _ => fun persisted => ?_
      rcases persisted with e | _
      · exact ⟨_, .persistFailed b d signed request e, abandon_follows ⟨rfl, rfl⟩ nofun⟩
      · exact ⟨_, .persist b d signed request hs, submitOnce_follows relay request nowMs⟩

lemma signOnce_follows (hi : signing.intentId = b.intentId)
    (hk : signing.idempotencyKey = b.idempotencyKey) :
    (relayCode entry ends).Follows Phase.Ends (.claimed b signing.requestDigest)
      (signOnce relay b signing.requestDigest signing nowMs) := by
  intro answer
  refine ⟨_, .sign b signing answer hi hk, ?_⟩
  rcases answer with e | signed
  · exact follows_quiet rfl fun _ => abandon_follows ⟨rfl, rfl⟩ nofun
  · refine follows_ite (fun _ => ?_) fun hatt => ?_
    · exact follows_quiet rfl fun _ => abandon_follows ⟨rfl, rfl⟩ nofun
    · have hatt' := not_not.1 hatt
      have hs : signed.MatchesClaim b signing.requestDigest :=
        ⟨hatt'.1, hatt'.2.1.trans hi, hatt'.2.2.trans hk⟩
      refine follows_quiet rfl fun _ => fun noted => ⟨_, .noteSigned b _ signed noted, ?_⟩
      rcases noted with e | _
      · exact abandon_follows ⟨rfl, rfl⟩ fun o ho => (Except.ok.inj ho).symm
      · exact persistSigned_follows relay nowMs hs

lemma claimAttempt_follows (hi : signing.intentId = b.intentId)
    (hk : signing.idempotencyKey = b.idempotencyKey) :
    (relayCode entry ends).Follows Phase.Ends (.unclaimed b) (claimAttempt relay b signing nowMs) := by
  intro reservation
  rcases reservation with e | (_ | outcome | _)
  · exact ⟨_, .turnAway b _ _ nofun, .unreserved b e⟩
  · refine ⟨_, .claim b _, fun requested => ⟨_, .requestSign b _ _ requested, ?_⟩⟩
    rcases requested with e | _
    · exact abandon_follows ⟨rfl, rfl⟩ nofun
    · refine follows_quiet rfl fun admitted => ?_
      rcases admitted with _ | _
      · exact abandon_follows ⟨rfl, rfl⟩ nofun
      · exact signOnce_follows relay nowMs hi hk
  · exact ⟨_, .turnAway b _ _ nofun, .duplicate b outcome⟩
  · exact ⟨_, .turnAway b _ _ nofun, .conflict b⟩

lemma execute_follows (input : RelayExecutionInput) :
    (relayCode entry ends).Follows Phase.Ends (.unclaimed (.fromIntent input.intent))
      (execute relay input) := by
  refine follows_quiet rfl fun enabled => ?_
  rcases enabled with _ | _
  · exact .gate _ _ (.inl rfl)
  refine follows_quiet rfl fun health => follows_quiet rfl fun _ => ?_
  refine follows_ite (fun _ => Phase.Ends.gate _ _ (.inr (.inl rfl))) fun _ => ?_
  refine follows_quiet rfl fun allowed => ?_
  rcases allowed with _ | _
  · exact .gate _ _ (.inr (.inl rfl))
  refine follows_quiet rfl fun payload => ?_
  rcases payload with e | payload
  · exact .gate _ _ (.inr (.inr (.inl rfl)))
  refine follows_quiet rfl fun enabled => ?_
  rcases hbind : SigningRequest.bind enabled input.approved input.prepared input.intent input.route
      input.preview payload.digest input.nowMs with e | signing
  · exact Phase.Ends.gate _ _ (.inr (.inr (.inr rfl)))
  · obtain ⟨hi, hk, -, -⟩ := SigningRequest.bind_spec hbind
    exact claimAttempt_follows relay input.nowMs hi hk

lemma observeChain_follows {request : SubmitRequest} (nowMs : I64) (hp : p.Reconciles b) :
    (relayCode entry ends).Follows Phase.Ends p (observeChain b request nowMs) := by
  have hrecord : ∀ seen : ChainObservation, (relayCode entry ends).Follows Phase.Ends
      (.observing b (some seen)) (conclude b request.requestDigest seen.toOutcome) :=
    fun seen r => ⟨_, .record b _ seen r, .observed b seen⟩
  intro answer
  refine ⟨_, .query p b request nowMs answer hp, ?_⟩
  rcases answer with e | (_ | _ | _ | _)
  case ok.confirmed | ok.pending | ok.rejected => exact hrecord _
  -- An unknown fate is reconciled once more.
  all_goals
    intro answer
    refine ⟨_, .reconcile _ b request nowMs answer rfl, ?_⟩
    rcases answer with e | observation
    · exact .unreachable b
    · exact hrecord observation

lemma reconcileOpen_follows (hp : p.Reconciles b) :
    (relayCode entry ends).Follows Phase.Ends p (reconcileOpen relay b nowMs) := by
  refine follows_quiet rfl fun journaled => ?_
  rcases journaled with _ | request
  · intro loaded
    rcases loaded with e | (_ | submission)
    · exact ⟨_, .loadFailed p b e hp, .blind b⟩
    · exact ⟨_, .load p b none hp, .missing p b hp⟩
    · refine ⟨_, .load p b (some submission) hp, ?_⟩
      simp only [SubmitRequest.restore_eq_ok]
      exact observeChain_follows nowMs hp
  · exact observeChain_follows nowMs hp

lemma reconcile_follows :
    (relayCode entry ends).Follows Phase.Ends (.observing b none) (reconcile relay b nowMs) := by
  intro loaded
  rcases loaded with e | (_ | outcome)
  · exact ⟨_, .recallNone b _, reconcileOpen_follows relay nowMs rfl⟩
  · exact ⟨_, .recallNone b _, reconcileOpen_follows relay nowMs rfl⟩
  · refine ⟨_, .recallSome b outcome, follows_ite (fun _ => ?_) fun _ => ?_⟩
    · exact Phase.Ends.recalled b outcome
    · exact reconcileOpen_follows relay nowMs rfl

end

end PrivateExecution
