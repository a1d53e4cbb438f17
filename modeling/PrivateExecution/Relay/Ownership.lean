import PrivateExecution.Relay.Protocol

/-!
# One owner per attempt

The invariant behind every guarantee of the relay. For a fixed attempt key `k`, `AttemptInv k`
says: at most one running call owns the attempt; an owner has a store entry; the signer and the
adapter were each called at most once on its behalf, and not at all while the owner may still sign
or has not sent.
-/

namespace PrivateExecution

open Async

variable [Sha256] {Call Ret : Type}

abbrev RelayConfig (Call Ret : Type) := Config RelayWorld Call RelayOp RelayOp.Ans Ret Phase

abbrev RelayLabel (Call Ret : Type) := Label Call RelayOp RelayOp.Ans Ret

/-! ### Counting signatures and submissions -/

variable {t : Tid} (k : DurableKey) (trace : List (RelayLabel Call Ret))

def isSign : RelayLabel Call Ret → Bool
  | .did _ (.sign b _) _ => decide (b.key = k)
  | _ => false

def isSubmit : RelayLabel Call Ret → Bool
  | .did _ (.submit b _) _ => decide (b.key = k)
  | _ => false

def signs : ℕ := trace.countP (isSign k)

def submits : ℕ := trace.countP (isSubmit k)

variable {k : DurableKey} {trace : List (RelayLabel Call Ret)} {l : RelayLabel Call Ret} {u : Tid} {c : Call}
  {o : RelayOp} {r : o.Ans} {p p' q : Phase} {w w' : RelayWorld} {faults : Bool} {b : AttemptBinding}

lemma signs_cons_of_not (h : isSign k l = false) : signs k (l :: trace) = signs k trace := by
  simp [signs, h]

lemma submits_cons_of_not (h : isSubmit k l = false) : submits k (l :: trace) = submits k trace := by
  simp [submits, h]

lemma signs_cons_le : signs k (l :: trace) ≤ signs k trace + 1 := by
  unfold signs
  rw [List.countP_cons]
  split_ifs <;> omega

lemma submits_cons_le : submits k (l :: trace) ≤ submits k trace + 1 := by
  unfold submits
  rw [List.countP_cons]
  split_ifs <;> omega

lemma isSign_did (h : isSign k (.did t o r : RelayLabel Call Ret) = true) :
    ∃ b request, o = .sign b request ∧ b.key = k := by
  cases o with
  | sign b request => exact ⟨b, request, rfl, by simpa [isSign] using h⟩
  | _ => cases h

lemma isSubmit_did (h : isSubmit k (.did t o r : RelayLabel Call Ret) = true) :
    ∃ b request, o = .submit b request ∧ b.key = k := by
  cases o with
  | submit b request => exact ⟨b, request, rfl, by simpa [isSubmit] using h⟩
  | _ => cases h

lemma submits_pos {request : SubmitRequest} {r : Except RelayError SubmissionReceipt}
    (h : (.did t (.submit b request) r : RelayLabel Call Ret) ∈ trace) : 0 < submits b.key trace :=
  List.countP_pos_iff.2 ⟨_, h, by simp [isSubmit]⟩

lemma exists_submit (h : 0 < submits k trace) :
    ∃ t b request r, (.did t (.submit b request) r : RelayLabel Call Ret) ∈ trace ∧ b.key = k := by
  obtain ⟨l, hl, hsub⟩ := List.countP_pos_iff.1 h
  cases l with
  | did t o r =>
    obtain ⟨b, request, rfl, hk⟩ := isSubmit_did hsub
    exact ⟨t, b, request, r, hl, hk⟩
  | started | returned | cancelled | ambient => cases hsub

/-! ### Owners -/

def Owns (σ : RelayConfig Call Ret) (k : DurableKey) (t : Tid) (p : Phase) : Prop :=
  ∃ c b, σ.threads t = some (c, p) ∧ p.claim? = some b ∧ b.key = k

structure AttemptInv (k : DurableKey) (σ : RelayConfig Call Ret) : Prop where
  /-- At most one running call owns the attempt. -/
  unique : ∀ {t t' p p'}, Owns σ k t p → Owns σ k t' p' → t = t'
  /-- Without an entry nobody owns the attempt and nothing happened for it. -/
  unreserved : σ.world.attempts k = none →
    signs k σ.trace = 0 ∧ submits k σ.trace = 0 ∧ ∀ t p, ¬ Owns σ k t p
  signs_le : signs k σ.trace ≤ 1
  submits_le : submits k σ.trace ≤ 1
  /-- While the owner may still sign, nothing was signed. -/
  unsigned : ∀ {t p}, Owns σ k t p → p.maySign = true → signs k σ.trace = 0
  /-- Unless the owner has sent, nothing was submitted. -/
  unsent : ∀ {t p}, Owns σ k t p → p.hasSent = false → submits k σ.trace = 0

variable {σ σ' : RelayConfig Call Ret}

/-- A step that adds no owner, gives no owner a right back, forgets no submission, removes no entry
and is neither a signature nor a submission for `k` keeps the invariant. -/
lemma AttemptInv.of_owners (h : AttemptInv k σ)
    (howns : ∀ t q, Owns σ' k t q → ∃ p, Owns σ k t p ∧ (q.maySign = true → p.maySign = true) ∧
      (p.hasSent = true → q.hasSent = true))
    (hentry : (σ.world.attempts k).isSome → (σ'.world.attempts k).isSome)
    (hsigns : signs k σ'.trace = signs k σ.trace)
    (hsubmits : submits k σ'.trace = submits k σ.trace) : AttemptInv k σ' where
  unique := by
    intro t t' q q' hq hq'
    obtain ⟨p, hp, -⟩ := howns t q hq
    obtain ⟨p', hp', -⟩ := howns t' q' hq'
    exact h.unique hp hp'
  unreserved := by
    intro hnone
    have hnone' : σ.world.attempts k = none := by
      rcases hk : σ.world.attempts k with _ | e
      · rfl
      · simpa [hnone] using hentry (by simp [hk])
    obtain ⟨hs, hsub, hown⟩ := h.unreserved hnone'
    refine ⟨hsigns.trans hs, hsubmits.trans hsub, fun t q hq => ?_⟩
    obtain ⟨p, hp, -⟩ := howns t q hq
    exact hown t p hp
  signs_le := hsigns ▸ h.signs_le
  submits_le := hsubmits ▸ h.submits_le
  unsigned := by
    intro t q hq hmay
    obtain ⟨p, hp, hsign, -⟩ := howns t q hq
    rw [hsigns]
    exact h.unsigned hp (hsign hmay)
  unsent := by
    intro t q hq hsent
    obtain ⟨p, hp, -, hkeep⟩ := howns t q hq
    rw [hsubmits]
    refine h.unsent hp (Bool.eq_false_iff.2 fun hp' => ?_)
    rw [hkeep hp'] at hsent
    cases hsent

lemma AttemptInv.isSome_of_owns (h : AttemptInv k σ) (hown : Owns σ k t p) :
    (σ.world.attempts k).isSome := by
  rcases hk : σ.world.attempts k with _ | e
  · exact absurd hown ((h.unreserved hk).2.2 t p)
  · rfl

lemma AttemptInv.of_sole (hsole : ∀ u q, Owns σ k u q → u = t ∧ q = p)
    (hsome : (σ.world.attempts k).isSome) (hsigns : signs k σ.trace ≤ 1) (hsubmits : submits k σ.trace ≤ 1)
    (hunsigned : p.maySign = true → signs k σ.trace = 0)
    (hunsent : p.hasSent = false → submits k σ.trace = 0) : AttemptInv k σ where
  unique := by
    intro u u' q q' hq hq'
    rw [(hsole u q hq).1, (hsole u' q' hq').1]
  unreserved := by
    intro hnone
    simp [hnone] at hsome
  signs_le := hsigns
  submits_le := hsubmits
  unsigned := fun hq hmay => hunsigned ((hsole _ _ hq).2 ▸ hmay)
  unsent := fun hq hsent => hunsent ((hsole _ _ hq).2 ▸ hsent)

lemma owns_act (h : Owns (σ.act t c o r p' w) k u q) :
    (u = t ∧ q = p' ∧ ∃ b, p'.claim? = some b ∧ b.key = k) ∨ (u ≠ t ∧ Owns σ k u q) := by
  obtain ⟨c', b, ht, hb, hk⟩ := h
  rcases Config.threads_act ht with ⟨rfl, heq⟩ | ⟨hne, ht⟩
  · cases heq
    exact .inl ⟨rfl, rfl, b, hb, hk⟩
  · exact .inr ⟨hne, c', b, ht, hb, hk⟩

lemma AttemptInv.sole_act (h : AttemptInv k σ) (hown : Owns σ k t p) (u : Tid) (q : Phase) (hq : Owns (σ.act t c o r p' w) k u q) :
    u = t ∧ q = p' := by
  rcases owns_act hq with ⟨rfl, rfl, -⟩ | ⟨hne, hq'⟩
  · exact ⟨rfl, rfl⟩
  · exact absurd (h.unique hq' hown) hne

lemma owns_of_gone (hthreads : σ'.threads = Function.update σ.threads t none)
    (h : Owns σ' k u q) : Owns σ k u q := by
  obtain ⟨c', b, ht, hb, hk⟩ := h
  rw [hthreads] at ht
  exact ⟨c', b, (Config.threads_gone ht).2, hb, hk⟩

lemma relayHandle_reserved {d : RequestDigest}
    (h : relayHandle faults t (.store (.reserveBound b d)) w (.ok .reserved) w') :
    w.attempts b.key = none ∧ (w'.attempts b.key).isSome := by
  obtain ⟨s, hs, rfl⟩ := h
  obtain ⟨hr, rfl⟩ := hs.served_of_ok rfl
  exact ⟨DurableStore.run_reserveBound_reserved hr, DurableStore.run_reserveBound_isSome _ _ _⟩

lemma relayHandle_isSome (h : relayHandle faults t o w r w') (hk : (w.attempts k).isSome) : (w'.attempts k).isSome := by
  rcases relayHandle_attempts h with h' | ⟨c, -, h'⟩
  · rwa [h']
  · rw [h']
    exact DurableStore.run_isSome c hk

/-! ### Steps keep the invariant -/

lemma AttemptInv.act_sign {request : SigningRequest}
    {r : Except RelayError SignedExecutionRef} (h : AttemptInv b.key σ)
    (ht : σ.threads t = some (c, p)) (hmove : RelayMove p (.sign b request) r p')
    (hw : relayHandle faults t (.sign b request) σ.world r w) :
    AttemptInv b.key (σ.act t c (.sign b request) r p' w) := by
  obtain ⟨rfl, rfl, -, -⟩ := hmove.sign_inv
  have hown : Owns σ b.key t (.claimed b request.requestDigest) := ⟨c, b, ht, rfl, rfl⟩
  obtain rfl : w = σ.world := hw
  have hsubmits : submits b.key (.did t (.sign b request) r :: σ.trace) = submits b.key σ.trace :=
    submits_cons_of_not rfl
  refine .of_sole (h.sole_act hown) (h.isSome_of_owns hown) ?_ (hsubmits ▸ h.submits_le) nofun fun _ => ?_
  · exact signs_cons_le.trans (by rw [h.unsigned hown rfl])
  · exact hsubmits.trans (h.unsent hown rfl)

lemma AttemptInv.act_submit {request : SubmitRequest}
    {r : Except RelayError SubmissionReceipt} (h : AttemptInv b.key σ)
    (ht : σ.threads t = some (c, p)) (hmove : RelayMove p (.submit b request) r p')
    (hw : relayHandle faults t (.submit b request) σ.world r w) :
    AttemptInv b.key (σ.act t c (.submit b request) r p' w) := by
  obtain ⟨d, rfl, rfl⟩ := hmove.submit_inv
  have hown : Owns σ b.key t (.persisted b d request) := ⟨c, b, ht, rfl, rfl⟩
  obtain rfl : w = σ.world := hw
  have hsigns : signs b.key (.did t (.submit b request) r :: σ.trace) = signs b.key σ.trace :=
    signs_cons_of_not rfl
  refine .of_sole (h.sole_act hown) (h.isSome_of_owns hown) (hsigns ▸ h.signs_le) ?_ nofun nofun
  exact submits_cons_le.trans (by rw [h.unsent hown rfl])

lemma AttemptInv.act_claim {d : RequestDigest} (h : AttemptInv b.key σ)
    (hw : relayHandle faults t (.store (.reserveBound b d)) σ.world (.ok .reserved) w) :
    AttemptInv b.key (σ.act t c (.store (.reserveBound b d)) (.ok .reserved) (.claimed b d) w) := by
  obtain ⟨hnone, hsome⟩ := relayHandle_reserved hw
  obtain ⟨hs, hsub, hown⟩ := h.unreserved hnone
  have hs' : signs b.key (.did t (.store (.reserveBound b d)) (.ok .reserved) :: σ.trace) = 0 :=
    (signs_cons_of_not rfl).trans hs
  have hsub' : submits b.key (.did t (.store (.reserveBound b d)) (.ok .reserved) :: σ.trace) = 0 :=
    (submits_cons_of_not rfl).trans hsub
  refine .of_sole (t := t) (p := .claimed b d) (fun u q hq => ?_) hsome (by simp [Config.act, hs']) (by simp [Config.act, hsub'])
    (fun _ => hs') fun _ => hsub'
  rcases owns_act hq with ⟨rfl, rfl, -⟩ | ⟨-, hq'⟩
  · exact ⟨rfl, rfl⟩
  · exact absurd hq' (hown u q)

lemma AttemptInv.act (h : AttemptInv k σ) (ht : σ.threads t = some (c, p))
    (hmove : RelayMove p o r p') (hw : relayHandle faults t o σ.world r w) :
    AttemptInv k (σ.act t c o r p' w) := by
  by_cases hsign : isSign k (.did t o r : RelayLabel Call Ret) = true
  · obtain ⟨b, request, rfl, rfl⟩ := isSign_did hsign
    exact h.act_sign ht hmove hw
  by_cases hsubmit : isSubmit k (.did t o r : RelayLabel Call Ret) = true
  · obtain ⟨b, request, rfl, rfl⟩ := isSubmit_did hsubmit
    exact h.act_submit ht hmove hw
  have hs : signs k (σ.act t c o r p' w).trace = signs k σ.trace :=
    signs_cons_of_not (by simpa using hsign)
  have hsub : submits k (σ.act t c o r p' w).trace = submits k σ.trace :=
    submits_cons_of_not (by simpa using hsubmit)
  have hentry : (σ.world.attempts k).isSome → ((σ.act t c o r p' w).world.attempts k).isSome :=
    relayHandle_isSome hw
  rcases hmove.claim_or_keep with ⟨hclaim, hms, -, hsent⟩ | ⟨b, d, rfl, rfl, heq⟩
  · refine h.of_owners (fun u q hq => ?_) hentry hs hsub
    rcases owns_act hq with ⟨rfl, rfl, b, hb, hbk⟩ | ⟨-, hq'⟩
    · exact ⟨p, ⟨c, b, ht, hclaim ▸ hb, hbk⟩, hms, hsent⟩
    · exact ⟨q, hq', id, id⟩
  · cases heq
    by_cases hbk : b.key = k
    · subst hbk
      exact h.act_claim hw
    · refine h.of_owners (fun u q hq => ?_) hentry hs hsub
      rcases owns_act hq with ⟨rfl, rfl, b', hb', hbk'⟩ | ⟨-, hq'⟩
      · simp only [Phase.claim?, Option.some.injEq] at hb'
        exact absurd (hb' ▸ hbk') hbk
      · exact ⟨q, hq', id, id⟩

variable {entry : Call → Phase} {ends : Phase → Ret → Prop}

lemma step_cases {σ σ' : Config RelayWorld Call RelayOp RelayOp.Ans Ret (relayCode entry ends).State}
    (hentry : ∀ c, (entry c).claim? = none) (hs : Step (relayHost faults) (relayCode entry ends) σ σ') :
    (∃ t c o r p p' w, σ.threads t = some (c, p) ∧ RelayMove p o r p' ∧
      relayHandle faults t o σ.world r w ∧ σ' = σ.act t c o r p' w) ∨
    ((∀ k u q, Owns σ' k u q → Owns σ k u q) ∧ σ'.world.attempts = σ.world.attempts ∧
      ∀ k, signs k σ'.trace = signs k σ.trace ∧ submits k σ'.trace = submits k σ.trace) := by
  cases hs with
  | spawn c =>
    refine .inr ⟨fun k u q hq => ?_, rfl, fun k => ⟨signs_cons_of_not rfl, submits_cons_of_not rfl⟩⟩
    obtain ⟨c', b, ht, hb, hk⟩ := hq
    rcases Config.threads_spawn ht with ⟨-, heq⟩ | ht
    · cases heq
      cases (hentry c).symm.trans hb
    · exact ⟨c', b, ht, hb, hk⟩
  | act ht ha hw => exact .inl ⟨_, _, _, _, _, _, _, ht, ha, hw, rfl⟩
  | finish ht ha =>
    exact .inr ⟨fun k u q hq => owns_of_gone rfl hq, rfl,
      fun k => ⟨signs_cons_of_not rfl, submits_cons_of_not rfl⟩⟩
  | cancel ht =>
    exact .inr ⟨fun k u q hq => owns_of_gone rfl hq, RelayWorld.dropGuards_attempts _ _,
      fun k => ⟨signs_cons_of_not rfl, submits_cons_of_not rfl⟩⟩
  | outside hw =>
    obtain ⟨i, rfl⟩ := hw
    exact .inr ⟨fun k u q hq => hq, rfl, fun k => ⟨signs_cons_of_not rfl, submits_cons_of_not rfl⟩⟩

lemma AttemptInv.step {σ σ' : Config RelayWorld Call RelayOp RelayOp.Ans Ret
    (relayCode entry ends).State} (hentry : ∀ c, (entry c).claim? = none) (h : AttemptInv k σ)
    (hs : Step (relayHost faults) (relayCode entry ends) σ σ') : AttemptInv k σ' := by
  rcases step_cases hentry hs with ⟨t, c, o, r, p, p', w, ht, ha, hw, rfl⟩ | ⟨howns, hstore, hcount⟩
  · exact h.act ht ha hw
  · exact h.of_owners (fun u q hq => ⟨q, howns k u q hq, id, id⟩) (by rw [hstore]; exact id)
      (hcount k).1 (hcount k).2

lemma attemptInv_boot (k : DurableKey) (w : RelayWorld) :
    AttemptInv k (.boot w : RelayConfig Call Ret) := by
  have hown : ∀ t p, ¬ Owns (.boot w : RelayConfig Call Ret) k t p := by
    rintro t p ⟨c, b, ht, -⟩
    cases ht
  exact ⟨fun h _ => absurd h (hown _ _), fun _ => ⟨rfl, rfl, hown⟩, Nat.zero_le _, Nat.zero_le _,
    fun _ _ => rfl, fun _ _ => rfl⟩

lemma attemptInv_of_reach (hentry : ∀ c, (entry c).claim? = none)
    (h : Reach (relayHost faults) (relayCode entry ends) w σ) (k : DurableKey) : AttemptInv k σ :=
  h.invariant (attemptInv_boot k w) fun _ _ hρ hs => hρ.step hentry hs

/-! ### Closed attempts -/

/-- Nothing was sent for the attempt, and no running call may still send. -/
structure Closed (k : DurableKey) (σ : RelayConfig Call Ret) : Prop where
  entry : (σ.world.attempts k).isSome
  unsent : submits k σ.trace = 0
  noSender : ∀ {t p}, Owns σ k t p → p.maySubmit = false

/-- An owner that can no longer submit and has not sent closes the attempt. -/
lemma AttemptInv.closed (h : AttemptInv k σ) (hown : Owns σ k t p)
    (hmay : p.maySubmit = false) (hsent : p.hasSent = false) : Closed k σ where
  entry := h.isSome_of_owns hown
  unsent := h.unsent hown hsent
  noSender := by
    intro t' p' hown'
    obtain rfl := h.unique hown hown'
    obtain ⟨c, _, ht, -⟩ := hown
    obtain ⟨c', _, ht', -⟩ := hown'
    obtain ⟨-, rfl⟩ := Prod.mk.inj (Option.some.inj (ht.symm.trans ht'))
    exact hmay

lemma Closed.of_owners (h : Closed k σ)
    (howns : ∀ t q, Owns σ' k t q → ∃ p, Owns σ k t p ∧ (q.maySubmit = true → p.maySubmit = true))
    (hentry : (σ.world.attempts k).isSome → (σ'.world.attempts k).isSome)
    (hsubmits : submits k σ'.trace = submits k σ.trace) : Closed k σ' where
  entry := hentry h.entry
  unsent := hsubmits.trans h.unsent
  noSender := by
    intro t q hq
    obtain ⟨p, hp, hmay⟩ := howns t q hq
    refine Bool.eq_false_iff.2 fun hq' => ?_
    rw [h.noSender hp] at hmay
    cases hmay hq'

lemma Closed.act (h : Closed k σ) (ht : σ.threads t = some (c, p)) (hmove : RelayMove p o r p')
    (hw : relayHandle faults t o σ.world r w) : Closed k (σ.act t c o r p' w) := by
  have hsub : submits k (σ.act t c o r p' w).trace = submits k σ.trace := by
    refine submits_cons_of_not (Bool.eq_false_iff.2 fun hsubmit => ?_)
    obtain ⟨b, request, rfl, rfl⟩ := isSubmit_did hsubmit
    -- only an owner with a persisted submission submits, and there is none
    obtain ⟨d, rfl, -⟩ := hmove.submit_inv
    cases h.noSender ⟨c, b, ht, rfl, rfl⟩
  refine h.of_owners (fun u q hq => ?_) (relayHandle_isSome hw) hsub
  rcases owns_act hq with ⟨rfl, rfl, b, hb, hbk⟩ | ⟨-, hq'⟩
  · rcases hmove.claim_or_keep with ⟨hclaim, -, hmay, -⟩ | ⟨b', d, rfl, rfl, heq⟩
    · exact ⟨p, ⟨c, b, ht, hclaim ▸ hb, hbk⟩, hmay⟩
    · -- the claim is granted only while there is no entry
      cases heq
      obtain rfl : b' = b := Option.some.inj hb
      have hentry := h.entry
      rw [← hbk, (relayHandle_reserved hw).1] at hentry
      cases hentry
  · exact ⟨q, hq', id⟩

lemma Closed.step {σ σ' : Config RelayWorld Call RelayOp RelayOp.Ans Ret
    (relayCode entry ends).State} (hentry : ∀ c, (entry c).claim? = none) (h : Closed k σ)
    (hs : Step (relayHost faults) (relayCode entry ends) σ σ') : Closed k σ' := by
  rcases step_cases hentry hs with ⟨t, c, o, r, p, p', w, ht, ha, hw, rfl⟩ | ⟨howns, hstore, hcount⟩
  · exact h.act ht ha hw
  · exact h.of_owners (fun u q hq => ⟨q, howns k u q hq, id⟩) (by rw [hstore]; exact id) (hcount k).2

end PrivateExecution
