import PrivateExecution.Relay.AtMostOnce

/-!
# What the relay's answers are worth

A caller decides what to do next by the phase its call ended in. This module says what is certain
in each of them, not only when the call returns but from then on.
-/

namespace PrivateExecution

open Async

variable [Sha256] {Call Ret : Type}

/-! ### Facts of the trace -/

/-- The adapter reported a rejection of the attempt `k`. -/
def RejectionSeen (k : DurableKey) (trace : List (RelayLabel Call Ret)) : Prop :=
  ∃ t b, b.key = k ∧
    ((∃ request, .did t (.submit b request) (.error .adapterRejected) ∈ trace) ∨
      ∃ request now reason, .did t (.query b request now) (.ok (.rejected reason)) ∈ trace ∨
        .did t (.reconcile b request now) (.ok (.rejected reason)) ∈ trace)

/-- The call's claim was answered, and not with a conflict. -/
def ClaimAnswered (t : Tid) (trace : List (RelayLabel Call Ret)) : Prop :=
  ∃ b d r, .did t (.store (.reserveBound b d)) (.ok r) ∈ trace ∧ r ≠ .conflict

/-- The call was told what became of its attempt. -/
structure Informed (isExecute : Call → Bool) (key : Call → DurableKey) (t : Tid) (c : Call)
    (trace : List (RelayLabel Call Ret)) : Prop where
  /-- An `execute` whose claim was not answered `Reserved` or `AlreadyReserved` is the only `execute`
  of its attempt. -/
  alone : isExecute c = true → ¬ ClaimAnswered t trace → ∀ {t' c'}, .started t' c' ∈ trace →
    isExecute c' = true → key c' = key c → t' = t
  /-- A `reconcile` does not fail to read the stored submission. -/
  readable : isExecute c = false → ∀ {b e}, .did t (.store (.loadSubmission b)) (.error e) ∉ trace

def HasSubmitted (t : Tid) (trace : List (RelayLabel Call Ret)) : Prop :=
  ∃ b request r, .did t (.submit b request) r ∈ trace

variable {k : DurableKey} {t : Tid} {trace : List (RelayLabel Call Ret)} {l : RelayLabel Call Ret}

lemma RejectionSeen.mono {trace' : List (RelayLabel Call Ret)} (h : RejectionSeen k trace)
    (hsub : trace <:+ trace') : RejectionSeen k trace' := by
  have hmem := hsub.subset
  obtain ⟨t, b, hk, ⟨request, h⟩ | ⟨request, now, reason, h⟩⟩ := h
  · exact ⟨t, b, hk, .inl ⟨request, hmem h⟩⟩
  · exact ⟨t, b, hk, .inr ⟨request, now, reason, h.imp (hmem ·) (hmem ·)⟩⟩

lemma claimAnswered_cons (hl : ∀ o r, l ≠ .did t o r) :
    ClaimAnswered t (l :: trace) ↔ ClaimAnswered t trace := by
  constructor
  · rintro ⟨b, d, r, h, hr⟩
    rcases List.mem_cons.1 h with heq | h
    · exact absurd heq.symm (hl _ _)
    · exact ⟨b, d, r, h, hr⟩
  · rintro ⟨b, d, r, h, hr⟩
    exact ⟨b, d, r, .tail _ h, hr⟩

lemma hasSubmitted_cons (hl : ∀ o r, l ≠ .did t o r) :
    HasSubmitted t (l :: trace) ↔ HasSubmitted t trace := by
  constructor
  · rintro ⟨b, request, r, h⟩
    rcases List.mem_cons.1 h with heq | h
    · exact absurd heq.symm (hl _ _)
    · exact ⟨b, request, r, h⟩
  · rintro ⟨b, request, r, h⟩
    exact ⟨b, request, r, .tail _ h⟩

/-! ### What a phase knows -/

namespace Phase

def binding : Phase → AttemptBinding
  | .unclaimed b | .turnedAway b _ | .claimed b _ | .signed b _ _ | .persisted b _ _ | .sent b _ _
  | .abandoned b _ | .observing b _ | .recalled b _ | .blind b => b

def executing : Phase → Bool
  | .observing _ _ | .recalled _ _ | .blind _ => false
  | _ => true

def reported : Phase → Option RelayOutcome
  | .turnedAway _ (.ok (.alreadyReserved o)) | .recalled _ o => some o
  | _ => none

/-- The call knows that nothing was sent: it gave up itself, or that was reported to it. -/
def GivesUp (p : Phase) : Prop := (∃ b d, p = .abandoned b d) ∨ p.reported = some .failedBeforeSubmit

def ToldRejected (p : Phase) : Prop :=
  (∃ b d, p = .sent b d (.error .adapterRejected)) ∨
    ∃ b reason, p = .observing b (some (.rejected reason))

def KnowsRejected (p : Phase) : Prop := p.ToldRejected ∨ ∃ reason, p.reported = some (.rejected reason)

def refused : Phase → Bool
  | .unclaimed _ | .turnedAway _ (.error _) | .turnedAway _ (.ok .conflict) => true
  | _ => false

lemma Ends.negative {p : Phase} {r : RelayResult} (h : p.Ends r)
    (hok : ∀ o, r = .ok o → (∃ reason, o = .rejected reason) ∨ o = .failedBeforeSubmit)
    (herror : r ≠ .error .invalidTransition ∧ r ≠ .error .adapterUnavailable) :
    p.KnowsRejected ∧ (∃ reason, r = .ok (.rejected reason)) ∨
      p.GivesUp ∨ p.refused = true ∨ ∃ b, p = .blind b := by
  cases h with
  | gate | conflict | unreserved => exact .inr (.inr (.inl rfl))
  | duplicate b o | recalled b o =>
    rcases hok o rfl with ⟨reason, rfl⟩ | rfl
    · exact .inl ⟨.inr ⟨reason, rfl⟩, reason, rfl⟩
    · exact .inr (.inl (.inr rfl))
  | abandoned b d => exact .inr (.inl (.inl ⟨b, d, rfl⟩))
  | sent b d answer o ho hrej =>
    rcases hok o rfl with ⟨reason, rfl⟩ | rfl
    · exact .inl ⟨.inl (.inl ⟨b, d, by rw [hrej reason rfl]⟩), reason, rfl⟩
    · exact absurd rfl ho
  | missing => exact absurd rfl herror.1
  | unreachable => exact absurd rfl herror.2
  | blind b => exact .inr (.inr (.inr ⟨b, rfl⟩))
  | observed b seen =>
    cases seen with
    | rejected reason => exact .inl ⟨.inl (.inr ⟨b, reason, rfl⟩), reason, rfl⟩
    | _ => rcases hok _ rfl with ⟨reason, h⟩ | h <;> cases h

/-- What is certain about the attempt, and about the call itself, in a phase. -/
structure Known (t : Tid) (p : Phase) (σ : RelayConfig Call Ret) : Prop where
  backed : p.Backed t σ.trace
  closed : p.GivesUp → Closed p.binding.key σ
  rejected : p.KnowsRejected → RejectionSeen p.binding.key σ.trace
  refused : p.refused = true → ¬ ClaimAnswered t σ.trace
  unsent : p.hasSent = false → ¬ HasSubmitted t σ.trace

end Phase

variable {p p' : Phase} {o : RelayOp} {r : o.Ans} {x : RelayOutcome}

lemma RelayMove.binding_eq (h : RelayMove p o r p') :
    p'.binding = p.binding ∧ p'.executing = p.executing := by
  cases h with
  | abandon _ b d _ hp =>
    cases p <;> simp_all [Phase.MayAbandon, Phase.binding, Phase.executing]
  | loadFailed _ b e hp | query _ b _ _ _ hp | reconcile _ b _ _ _ hp =>
    cases p <;> simp_all [Phase.Reconciles, Phase.binding, Phase.executing]
  | _ => exact ⟨rfl, rfl⟩

lemma RelayMove.rejected_inv {b : AttemptBinding} {d : RequestDigest}
    {reason : String} {r : Except RelayError Unit}
    (h : RelayMove p (.store (.recordOutcome b d (.rejected reason))) r p') :
    p.binding = b ∧ p.ToldRejected := by
  generalize ho : RelayOutcome.rejected reason = o at h
  cases h with
  | quiet _ _ _ hq => cases hq
  | conclude _ _ answer _ _ _ hrej =>
    obtain rfl := hrej reason ho.symm
    exact ⟨rfl, .inl ⟨b, d, rfl⟩⟩
  | abandon => cases ho
  | record _ _ seen _ =>
    cases seen with
    | rejected reason' => exact ⟨rfl, .inr ⟨b, reason', rfl⟩⟩
    | confirmed | pending | unknown => cases ho

lemma Phase.ToldRejected.seen (h : p.ToldRejected) (hp : p.Backed t trace) :
    RejectionSeen p.binding.key trace := by
  rcases h with ⟨b, d, rfl⟩ | ⟨b, reason, rfl⟩
  · exact ⟨t, b, rfl, .inl hp⟩
  · obtain ⟨request, now, hp⟩ := hp
    exact ⟨t, b, rfl, .inr ⟨request, now, reason, hp⟩⟩

/-! ### Truthful stores -/

/-- The stored outcomes of the attempt `k` are truthful. -/
def Truthful (k : DurableKey) (σ : RelayConfig Call Ret) : Prop :=
  ∀ e, σ.world.attempts k = some e →
    (e.outcome = some .failedBeforeSubmit → Closed k σ) ∧
    ∀ reason, e.outcome = some (.rejected reason) → RejectionSeen k σ.trace

section

variable {entry : Call → Phase} {ends : Phase → Ret → Prop} {faults : Bool}
  {σ σ' : Config RelayWorld Call RelayOp RelayOp.Ans Ret (relayCode entry ends).State}

/-- A step keeps the outcomes truthful: a recorded `FailedBeforeSubmit` closes the attempt, because
its recorder was the owner and gave up; a recorded rejection was told to its recorder. -/
lemma Truthful.step (hentry : StartsFresh entry) (h : Truthful k σ) (hinv : AttemptInv k σ)
    (hbacked : ∀ t c p, σ.threads t = some (c, p) → p.Backed t σ.trace)
    (hs : Step (relayHost faults) (relayCode entry ends) σ σ') : Truthful k σ' := by
  have hold : ∀ e, σ.world.attempts k = some e →
      (e.outcome = some .failedBeforeSubmit → Closed k σ') ∧
      ∀ reason, e.outcome = some (.rejected reason) → RejectionSeen k σ'.trace := by
    intro e he
    obtain ⟨hclosed, hrej⟩ := h e he
    exact ⟨fun ho => (hclosed ho).step hentry.claim hs, fun reason ho => (hrej reason ho).mono hs.trace_suffix⟩
  have hinv' := hinv.step hentry.claim hs
  rcases step_cases hentry.claim hs with ⟨t, c, o, r, p, p', w, ht, ha, hw, rfl⟩ | ⟨-, hstore, -⟩
  · rcases relayHandle_attempts hw with hsame | ⟨call, rfl, hrun⟩
    · intro e he
      exact hold e (by rw [← hsame]; exact he)
    · intro e he
      change w.attempts k = some e at he
      rw [hrun] at he
      constructor
      · intro ho
        rcases DurableStore.run_outcome he ho with ⟨e', he', ho'⟩ | hno | hno | ⟨b, d, rfl, rfl⟩
        · exact (hold e' he').1 ho'
        · cases hno
        · cases hno
        · obtain ⟨-, rfl⟩ := ha.failedBeforeSubmit_inv
          exact hinv'.closed (t := t) (p := .abandoned b d)
            ⟨c, b, Function.update_self .., rfl, rfl⟩ rfl rfl
      · intro reason ho
        rcases DurableStore.run_outcome he ho with ⟨e', he', ho'⟩ | hno | hno | ⟨b, d, rfl, rfl⟩
        · exact (hold e' he').2 reason ho'
        · cases hno
        · cases hno
        · obtain ⟨hb, htold⟩ := ha.rejected_inv
          have hseen := htold.seen (hbacked t c p ht)
          rw [hb] at hseen
          exact hseen.mono hs.trace_suffix
  · intro e he
    exact hold e (by rw [← hstore]; exact he)

lemma truthful_of_reach (hentry : StartsFresh entry) {relays : RelaySetup}
    (h : Reach (relayHost faults) (relayCode entry ends) (.boot relays) σ) (k : DurableKey) : Truthful k σ := by
  refine h.invariant_of_reach (P := Truthful k) ?_ fun ρ ρ' hρ htrue hs => ?_
  · intro e he
    cases he
  · exact htrue.step hentry (attemptInv_of_reach hentry.claim hρ k)
      (hρ.lasting (backed_lasting hentry) fun _ _ => trivial).1 hs

/-! ### Known phases -/

/-- The operation told of the stored outcome `x` of the attempt `b`. -/
inductive Reports (b : AttemptBinding) (x : RelayOutcome) : (o : RelayOp) → o.Ans → Prop where
  | reserve (d : RequestDigest) : Reports b x (.store (.reserveBound b d)) (.ok (.alreadyReserved x))
  | load : Reports b x (.store (.loadOutcome b)) (.ok (some x))

lemma RelayMove.reported_inv (h : RelayMove p o r p') (hx : p'.reported = some x) :
    p = p' ∨ Reports p'.binding x o r := by
  cases h with
  | quiet | load => exact .inl rfl
  | turnAway b d answer =>
    rcases answer with e | (_ | y | _)
    · cases hx
    · cases hx
    · obtain rfl := Option.some.inj hx
      exact .inr (.reserve d)
    · cases hx
  | recallSome b y =>
    obtain rfl := Option.some.inj hx
    exact .inr .load
  | claim | requestSign | sign | noteSigned | persist | persistFailed | submit | conclude | abandon
  | recallNone | loadFailed | query | reconcile | record => cases hx

lemma relayHandle_reported {b : AttemptBinding} {w w' : RelayWorld} (hw : relayHandle faults t o w r w')
    (h : Reports b x o r) (hx : x ≠ .reserved) : ∃ e, w.attempts b.key = some e ∧ e.outcome = some x := by
  cases h with
  | reserve d =>
    obtain ⟨s, hs, -⟩ := hw
    obtain ⟨hrun, -⟩ := hs.served_of_ok rfl
    obtain ⟨e, he, hout⟩ := DurableStore.run_reserveBound_already hrun
    refine ⟨e, he, ?_⟩
    rcases ho : e.outcome with _ | y
    · rw [ho] at hout
      exact absurd hout.symm hx
    · rw [ho] at hout
      exact congrArg some hout
  | load =>
    obtain ⟨s, hs, -⟩ := hw
    obtain ⟨hrun, -⟩ := hs.served_of_ok rfl
    exact DurableStore.run_loadOutcome_some hrun

lemma RelayMove.refused_inv (h : RelayMove p o r p') (hp : p'.refused = true) :
    p.refused = true ∧ ∀ b d r', r' ≠ .conflict →
      (⟨o, r⟩ : Σ o : RelayOp, o.Ans) ≠ ⟨.store (.reserveBound b d), .ok r'⟩ := by
  cases h with
  | quiet _ _ _ hq =>
    refine ⟨hp, fun b d r' _ heq => ?_⟩
    cases heq
    cases hq
  | turnAway b d answer =>
    refine ⟨rfl, fun b' d' r' hr' heq => ?_⟩
    cases heq
    cases r' with
    | conflict => exact hr' rfl
    | reserved | alreadyReserved => cases hp
  | load p b sub hr => cases p <;> first | exact False.elim hr | cases hp
  | claim | requestSign | sign | noteSigned | persist | persistFailed | submit | conclude | abandon
  | recallSome | recallNone | loadFailed | query | reconcile | record => cases hp

lemma RelayMove.unsent_inv (h : RelayMove p o r p') (hp : p'.hasSent = false) :
    p.hasSent = false ∧ ∀ b request, o ≠ .submit b request := by
  constructor
  · rcases h.claim_or_keep with ⟨-, -, -, hkeep⟩ | ⟨b, d, rfl, -, -⟩
    · refine Bool.eq_false_iff.2 fun hsent => ?_
      rw [hkeep hsent] at hp
      cases hp
    · rfl
  · rintro b request rfl
    obtain ⟨d, -, rfl⟩ := h.submit_inv
    cases hp

lemma known_lasting (hentry : StartsFresh entry) :
    Lasting (relayHost faults) (relayCode entry ends)
      (fun σ => ∀ k, AttemptInv k σ ∧ Truthful k σ) fun t _ p σ => p.Known t σ where
  entry := by
    intro σ c _ hfresh
    have hclaim : ¬ ClaimAnswered σ.next (.started σ.next c :: σ.trace) := by
      rintro ⟨b, d, r, h, -⟩
      rcases List.mem_cons.1 h with heq | h
      · cases heq
      · exact hfresh _ _ h
    have hsub : ¬ HasSubmitted σ.next (.started σ.next c :: σ.trace) := by
      rintro ⟨b, request, r, h⟩
      rcases List.mem_cons.1 h with heq | h
      · cases heq
      · exact hfresh _ _ h
    change (entry c).Known σ.next (σ.spawn c (entry c))
    rcases hentry c with ⟨b, hb⟩ | ⟨b, hb⟩
    all_goals
      rw [hb]
      refine ⟨trivial, ?_, ?_, fun _ => hclaim, fun _ => hsub⟩
      · rintro (⟨b', d, h⟩ | h) <;> cases h
      · rintro ((⟨b', d, h⟩ | ⟨b', reason, h⟩) | ⟨reason, h⟩) <;> cases h
  act := by
    intro σ t c p o r p' w hinv ht hp hmove hw
    change RelayMove p o r p' at hmove
    have hbacked : p'.Backed t (.did t o r :: σ.trace) := hp.backed.move hmove
    refine ⟨hbacked, ?_, ?_, ?_, ?_⟩
    · rintro (⟨b, d, rfl⟩ | hrep)
      · have hown : Owns (σ.act t c o r (.abandoned b d) w) b.key t (.abandoned b d) :=
          ⟨c, b, Function.update_self .., rfl, rfl⟩
        exact ((hinv b.key).1.act ht hmove hw).closed hown rfl rfl
      · rcases hmove.reported_inv hrep with rfl | hstore
        · exact (hp.closed (.inr hrep)).act ht hmove hw
        · obtain ⟨e, he, ho⟩ := relayHandle_reported hw hstore nofun
          exact (((hinv _).2 e he).1 ho).act ht hmove hw
    · rintro (htold | ⟨reason, hrep⟩)
      · exact htold.seen hbacked
      · rcases hmove.reported_inv hrep with rfl | hstore
        · exact (hp.rejected (.inr ⟨reason, hrep⟩)).mono (List.suffix_cons _ _)
        · obtain ⟨e, he, ho⟩ := relayHandle_reported hw hstore nofun
          exact (((hinv _).2 e he).2 reason ho).mono (List.suffix_cons _ _)
    · intro href
      obtain ⟨href', hno⟩ := hmove.refused_inv href
      rintro ⟨b, d, r', h, hr'⟩
      rcases List.mem_cons.1 h with heq | h
      · cases heq
        exact hno b d r' hr' rfl
      · exact hp.refused href' ⟨b, d, r', h, hr'⟩
    · intro hsent
      obtain ⟨hsent', hno⟩ := hmove.unsent_inv hsent
      rintro ⟨b, request, r', h⟩
      rcases List.mem_cons.1 h with heq | h
      · cases heq
        exact hno b request rfl
      · exact hp.unsent hsent' ⟨b, request, r', h⟩
  other := by
    intro σ σ' t c p l _ hs hl hother hp
    refine ⟨?_, fun hg => (hp.closed hg).step hentry.claim hs,
      fun hr => (hp.rejected hr).mono hs.trace_suffix, fun href => ?_, fun hsent => ?_⟩
    · rw [hl]
      exact hp.backed.cons l
    · rw [hl, claimAnswered_cons hother]
      exact hp.refused href
    · rw [hl, hasSubmitted_cons hother]
      exact hp.unsent hsent

/-- Thread `t` was started on the call `c`, and the phase is one of that call's. -/
def Phase.BelongsTo (entry : Call → Phase) (t : Tid) (c : Call) (p : Phase)
    (trace : List (RelayLabel Call Ret)) : Prop :=
  .started t c ∈ trace ∧ p.binding = (entry c).binding ∧ p.executing = (entry c).executing

lemma belongsTo_lasting (I : RelayConfig Call Ret → Prop) :
    Lasting (relayHost faults) (relayCode entry ends) I fun t c p σ => p.BelongsTo entry t c σ.trace where
  entry := by
    intro σ c _ _
    exact ⟨.head _, rfl, rfl⟩
  act := by
    intro σ t c p o r p' w _ _ hp hmove _
    obtain ⟨hstart, hb, hx⟩ := hp
    obtain ⟨hb', hx'⟩ := RelayMove.binding_eq hmove
    exact ⟨.tail _ hstart, hb'.trans hb, hx'.trans hx⟩
  other := by
    intro σ σ' t c p l _ _ hl _ hp
    obtain ⟨hstart, hb, hx⟩ := hp
    rw [hl]
    exact ⟨.tail _ hstart, hb, hx⟩

lemma known_of_returned (hentry : StartsFresh entry) {relays : RelaySetup}
    (h : Reach (relayHost faults) (relayCode entry ends) (.boot relays) σ) {t : Tid} {c : Call}
    {v : Ret} (hret : .returned t c v ∈ σ.trace) :
    ∃ p, ends p v ∧ p.Known t σ ∧ p.BelongsTo entry t c σ.trace := by
  refine (h.lasting ((known_lasting hentry).and (belongsTo_lasting _)) ?_).2 t c v hret
  intro ρ hρ k
  exact ⟨attemptInv_of_reach hentry.claim hρ k, truthful_of_reach hentry hρ k⟩

lemma submit_by_execute {w₀ : RelayWorld}
    (h : Reach (relayHost faults) (relayCode entry ends) w₀ σ) {t : Tid} {b : AttemptBinding}
    {request : SubmitRequest} {r : Except RelayError SubmissionReceipt}
    (hsub : .did t (.submit b request) r ∈ σ.trace) :
    ∃ c, .started t c ∈ σ.trace ∧ (entry c).binding = b ∧ (entry c).executing = true := by
  refine h.invariant_of_reach (P := fun ρ => .did t (.submit b request) r ∈ ρ.trace →
    ∃ c, .started t c ∈ ρ.trace ∧ (entry c).binding = b ∧ (entry c).executing = true) ?_ ?_ hsub
  · intro hmem
    cases hmem
  · intro ρ ρ' hρ ih hs hmem
    have hold : .did t (.submit b request) r ∈ ρ.trace →
        ∃ c, .started t c ∈ ρ'.trace ∧ (entry c).binding = b ∧ (entry c).executing = true := by
      intro hmem
      obtain ⟨c, hstart, hb⟩ := ih hmem
      exact ⟨c, hs.trace_suffix.subset hstart, hb⟩
    cases hs with
    | act ht ha hw =>
      rcases List.mem_cons.1 hmem with heq | hmem
      · cases heq
        obtain ⟨d, rfl, -⟩ := RelayMove.submit_inv ha
        have hbelongs := (hρ.lasting (belongsTo_lasting fun _ => True) fun _ _ => trivial).1 _ _ _ ht
        obtain ⟨hstart, hb, hx⟩ := hbelongs
        exact ⟨_, .tail _ hstart, hb.symm, hx.symm⟩
      · exact hold hmem
    | spawn | finish | cancel | outside =>
      rcases List.mem_cons.1 hmem with heq | hmem
      · cases heq
      · exact hold hmem

lemma Phase.executing_of_refused (h : p.refused = true) : p.executing = true := by
  cases p with
  | unclaimed | turnedAway => rfl
  | claimed | signed | persisted | sent | abandoned | observing | recalled | blind => cases h

lemma Informed.unsent {w₀ : RelayWorld}
    (h : Reach (relayHost faults) (relayCode entry ends) w₀ σ) {isExecute : Call → Bool}
    {key : Call → DurableKey} (hkey : ∀ c, (entry c).binding.key = key c)
    (hexec : ∀ c, (entry c).executing = isExecute c) {t : Tid} {c : Call} {p : Phase}
    (hinformed : Informed isExecute key t c σ.trace) (hknown : p.Known t σ)
    (hbelongs : p.BelongsTo entry t c σ.trace)
    (hp : p.GivesUp ∨ p.refused = true ∨ ∃ b, p = .blind b) : submits (key c) σ.trace = 0 := by
  obtain ⟨hstart, hbinding, hexecuting⟩ := hbelongs
  have hpkey : p.binding.key = key c := by rw [hbinding, hkey]
  rcases hp with hgives | hrefused | ⟨b, rfl⟩
  · -- the call knows: the attempt is closed
    rw [← hpkey]
    exact (hknown.closed hgives).unsent
  · -- the call was turned away: it is the only `execute`, and it did not submit
    have hexecute : isExecute c = true := by
      rw [← hexec, ← hexecuting]
      exact Phase.executing_of_refused hrefused
    have hunsent : p.hasSent = false := by
      cases p with
      | sent => cases hrefused
      | _ => rfl
    refine Nat.eq_zero_of_not_pos fun hpos => ?_
    obtain ⟨t', b, request, r, hsub, hb⟩ := exists_submit hpos
    obtain ⟨c', hstart', hb', hexec'⟩ := submit_by_execute h hsub
    rw [hexec] at hexec'
    obtain rfl := hinformed.alone hexecute (hknown.refused hrefused) hstart' hexec'
      (by rw [← hkey, hb', hb])
    exact hknown.unsent hunsent ⟨b, request, r, hsub⟩
  · -- the stored submission could not be read
    have hreconcile : isExecute c = false := by
      rw [← hexec, ← hexecuting]
      rfl
    obtain ⟨e, hload⟩ := hknown.backed
    exact absurd hload (hinformed.readable hreconcile)

end

end PrivateExecution
