import PrivateExecution.Relay.State

/-!
# The deterministic durable attempt store

`DeterministicDurableStore` (`execution-relay/src/reservation.rs`) is a map from attempt keys to
entries, and every method of `AttemptReservationStore` is one critical section on it. A call is a
value of `StoreCall`; `DurableStore.run` is what the store answers and becomes.
-/

namespace PrivateExecution

variable [Sha256]

/-! ### Calls -/

inductive StoreCall where
  | reserveBound (binding : AttemptBinding) (digest : RequestDigest)
  | recordSignRequested (binding : AttemptBinding) (digest : RequestDigest)
      (providerIdempotency : String)
  | recordSigned (binding : AttemptBinding) (digest : RequestDigest)
  | recordSignedReference (binding : AttemptBinding) (digest : RequestDigest)
      (signedReference : String)
  | recordSubmission (binding : AttemptBinding) (digest : RequestDigest) (request : SubmitRequest)
  | recordOutcome (binding : AttemptBinding) (digest : RequestDigest) (outcome : RelayOutcome)
  | loadSubmission (binding : AttemptBinding)
  | loadOutcome (binding : AttemptBinding)

namespace StoreCall

def Result : StoreCall → Type
  | .reserveBound _ _ => Reservation
  | .loadSubmission _ => Option DurableSubmission
  | .loadOutcome _ => Option RelayOutcome
  | _ => Unit

def binding : StoreCall → AttemptBinding
  | .reserveBound b _ | .recordSignRequested b _ _ | .recordSigned b _
  | .recordSignedReference b _ _ | .recordSubmission b _ _ | .recordOutcome b _ _
  | .loadSubmission b | .loadOutcome b => b

end StoreCall

/-! ### Entries -/

structure DurableEntry where
  digest : RequestDigest
  status : AttemptStatus
  providerIdempotency : Option String
  signedReference : Option String
  submission : Option DurableSubmission
  outcome : Option RelayOutcome

namespace DurableEntry

def fresh (digest : RequestDigest) : DurableEntry := ⟨digest, .reserved, none, none, none, none⟩

variable (e : DurableEntry)

/-- A transition that leaves a terminal entry alone. -/
def unlessTerminal (f : DurableEntry → DurableEntry) : DurableEntry :=
  if e.status.isTerminal then e else f e

def signRequested (value : String) (e : DurableEntry) : DurableEntry :=
  { e with status := .signRequested, providerIdempotency := some value }

def signed : DurableEntry :=
  { e with status := .signed, outcome := some (e.outcome.getD .signed) }

def signedWith (reference : String) (e : DurableEntry) : DurableEntry :=
  { e with status := .signed, signedReference := some reference,
           outcome := some (e.outcome.getD .signed) }

def submitting (submission : DurableSubmission) (e : DurableEntry) : DurableEntry :=
  { e with submission := some submission, status := .submissionUnknown, outcome := some .unknown }

def resolved (outcome : RelayOutcome) (e : DurableEntry) : DurableEntry :=
  { e with
    submission := match outcome.reference? with
      | some reference => e.submission.map (·.setChainReference reference)
      | none => e.submission
    status := outcome.attemptStatus
    outcome := some outcome }

/-- A terminal status is the status of the recorded outcome. -/
def Coherent : Prop :=
  e.status.isTerminal = true → ∃ o, e.outcome = some o ∧ o.attemptStatus = e.status

lemma unlessTerminal_of_terminal {e : DurableEntry} {f : DurableEntry → DurableEntry}
    (h : e.status.isTerminal = true) : e.unlessTerminal f = e := if_pos h

end DurableEntry

/-! ### The store -/

abbrev Attempts := DurableKey → Option DurableEntry

namespace DurableStore

def reserveBound (s : Attempts) (b : AttemptBinding) (d : RequestDigest) : Reservation × Attempts :=
  match s b.key with
  | some e =>
    if e.digest = d then (.alreadyReserved (e.outcome.getD .reserved), s) else (.conflict, s)
  | none => (.reserved, Function.update s b.key (some (.fresh d)))

def withEntry (s : Attempts) (b : AttemptBinding) (d : RequestDigest)
    (mutate : DurableEntry → DurableEntry) : Except RelayError Unit × Attempts :=
  match s b.key with
  | some e =>
    if e.digest = d then (.ok (), Function.update s b.key (some (mutate e)))
    else (.error .reservationUnavailable, s)
  | none => (.error .reservationUnavailable, s)

def run (s : Attempts) : (c : StoreCall) → Except RelayError c.Result × Attempts
  | .reserveBound b d => ((.ok (reserveBound s b d).1), (reserveBound s b d).2)
  | .recordSignRequested b d value => withEntry s b d (·.unlessTerminal (.signRequested value))
  | .recordSigned b d => withEntry s b d (·.unlessTerminal .signed)
  | .recordSignedReference b d reference => withEntry s b d (·.unlessTerminal (.signedWith reference))
  | .recordSubmission b d request =>
    match DurableSubmission.fromRequest request with
    | .ok submission => withEntry s b d (·.unlessTerminal (.submitting submission))
    | .error e => (.error e, s)
  | .recordOutcome b d outcome => withEntry s b d (·.unlessTerminal (.resolved outcome))
  | .loadSubmission b => (.ok ((s b.key).bind (·.submission)), s)
  | .loadOutcome b => (.ok ((s b.key).bind (·.outcome)), s)

/-! ### What a call can do -/

variable {s : Attempts} {k : DurableKey} {e : DurableEntry}

lemma run_recordSubmission (s : Attempts) (b : AttemptBinding) (d : RequestDigest)
    (request : SubmitRequest) : run s (.recordSubmission b d request) =
      withEntry s b d (·.unlessTerminal (.submitting request.toDurable)) := by
  simp only [run, DurableSubmission.fromRequest_eq_ok]
  rfl

lemma withEntry_cases (s : Attempts) (b : AttemptBinding) (d : RequestDigest)
    (f : DurableEntry → DurableEntry) :
    withEntry s b d f = (.error .reservationUnavailable, s) ∨
      ∃ e, s b.key = some e ∧ e.digest = d ∧
        withEntry s b d f = (.ok (), Function.update s b.key (some (f e))) := by
  unfold withEntry
  rcases hk : s b.key with _ | e
  · exact .inl rfl
  · by_cases hd : e.digest = d
    · exact .inr ⟨e, rfl, hd, by simp [hd]⟩
    · exact .inl (by simp [hd])

/-- The transition a call applies to the entry it matches. -/
def transition : StoreCall → DurableEntry → DurableEntry
  | .recordSignRequested _ _ value => .signRequested value
  | .recordSigned _ _ => .signed
  | .recordSignedReference _ _ reference => .signedWith reference
  | .recordSubmission _ _ request => .submitting request.toDurable
  | .recordOutcome _ _ outcome => .resolved outcome
  | _ => id

/-- A call leaves the store alone, inserts a fresh entry, or applies its transition to the entry
of its own binding unless that entry is terminal. -/
lemma run_cases (s : Attempts) (c : StoreCall) : (run s c).2 = s ∨
      (∃ b d, c = .reserveBound b d ∧ s b.key = none ∧
        (run s c).2 = Function.update s b.key (some (.fresh d))) ∨
      ∃ e, s c.binding.key = some e ∧
        (run s c).2 = Function.update s c.binding.key (some (e.unlessTerminal (transition c))) := by
  have lift : ∀ (b : AttemptBinding) (d : RequestDigest) (f : DurableEntry → DurableEntry),
      (withEntry s b d (·.unlessTerminal f)).2 = s ∨ ∃ e, s b.key = some e ∧
        (withEntry s b d (·.unlessTerminal f)).2 =
          Function.update s b.key (some (e.unlessTerminal f)) := by
    intro b d f
    rcases withEntry_cases s b d (·.unlessTerminal f) with h | ⟨e, he, -, h⟩
    · exact .inl (by rw [h])
    · exact .inr ⟨e, he, by rw [h]⟩
  cases c with
  | reserveBound b d =>
    rcases hk : s b.key with _ | e
    · exact .inr (.inl ⟨b, d, rfl, hk, by simp [run, reserveBound, hk]⟩)
    · by_cases hd : e.digest = d <;> exact .inl (by simp [run, reserveBound, hk, hd])
  | recordSignRequested b d value => exact (lift b d _).imp_right .inr
  | recordSigned b d => exact (lift b d _).imp_right .inr
  | recordSignedReference b d reference => exact (lift b d _).imp_right .inr
  | recordSubmission b d request =>
    simp only [run, DurableSubmission.fromRequest_eq_ok]
    exact (lift b d _).imp_right .inr
  | recordOutcome b d outcome => exact (lift b d _).imp_right .inr
  | loadSubmission b => exact .inl rfl
  | loadOutcome b => exact .inl rfl

lemma run_of_ne {c : StoreCall} (hk : k ≠ c.binding.key) : (run s c).2 k = s k := by
  rcases run_cases s c with h | ⟨b, d, rfl, -, h⟩ | ⟨e, -, h⟩
  · rw [h]
  · rw [h]
    exact Function.update_of_ne hk _ _
  · rw [h, Function.update_of_ne hk]

variable {b : AttemptBinding} (c : StoreCall)

lemma run_reserveBound_reserved {d : RequestDigest}
    (h : (run s (.reserveBound b d)).1 = .ok .reserved) : s b.key = none := by
  rcases hk : s b.key with _ | e
  · rfl
  · exfalso
    by_cases hd : e.digest = d <;> simp only [run, reserveBound, hk, hd, if_true, if_false] at h <;>
      cases h

lemma run_reserveBound_isSome (s : Attempts) (b : AttemptBinding) (d : RequestDigest) :
    ((run s (.reserveBound b d)).2 b.key).isSome := by
  rcases hk : s b.key with _ | e
  · simp [run, reserveBound, hk]
  · by_cases hd : e.digest = d <;> simp [run, reserveBound, hk, hd]

lemma run_isSome (h : (s k).isSome) : ((run s c).2 k).isSome := by
  rcases eq_or_ne k c.binding.key with rfl | hne
  · rcases run_cases s c with h' | ⟨b, d, rfl, -, h'⟩ | ⟨e, -, h'⟩
    · rwa [h']
    · simp [h', StoreCall.binding]
    · simp [h']
  · rwa [run_of_ne hne]

lemma run_of_terminal (hk : s k = some e) (ht : e.status.isTerminal = true) : (run s c).2 k = some e := by
  rcases eq_or_ne k c.binding.key with rfl | hne
  · rcases run_cases s c with h | ⟨b, d, rfl, hnone, -⟩ | ⟨e', he', h⟩
    · rw [h, hk]
    · exact absurd (hk.symm.trans hnone) (by simp)
    · obtain rfl : e = e' := Option.some.inj (hk.symm.trans he')
      rw [h, Function.update_self, DurableEntry.unlessTerminal_of_terminal ht]
  · rw [run_of_ne hne, hk]

lemma run_outcome {c : StoreCall} {o : RelayOutcome} (hk : (run s c).2 k = some e)
    (ho : e.outcome = some o) :
    (∃ e', s k = some e' ∧ e'.outcome = some o) ∨ o = .signed ∨ o = .unknown ∨
      ∃ b d, c = .recordOutcome b d o ∧ b.key = k := by
  rcases eq_or_ne k c.binding.key with rfl | hne
  · rcases run_cases s c with h | ⟨b, d, rfl, -, h⟩ | ⟨e', he', h⟩
    · exact .inl ⟨e, by rw [← h, hk], ho⟩
    · rw [h] at hk
      simp only [StoreCall.binding, Function.update_self, Option.some.injEq] at hk
      rw [← hk] at ho
      cases ho
    · rw [h, Function.update_self, Option.some.injEq] at hk
      by_cases ht : e'.status.isTerminal = true
      · rw [DurableEntry.unlessTerminal_of_terminal ht] at hk
        exact .inl ⟨e', he', by rw [hk, ho]⟩
      · rw [DurableEntry.unlessTerminal, if_neg ht] at hk
        subst hk
        cases c with
        | recordOutcome b d o' =>
          obtain rfl : o' = o := Option.some.inj ho
          exact .inr (.inr (.inr ⟨b, d, rfl, rfl⟩))
        | reserveBound | loadSubmission | loadOutcome | recordSignRequested => exact .inl ⟨e', he', ho⟩
        | recordSigned b d | recordSignedReference b d reference =>
          -- the outcome recorded before, or `Signed`
          change some (e'.outcome.getD .signed) = some o at ho
          rcases hout : e'.outcome with _ | o'
          · rw [hout] at ho
            exact .inr (.inl (Option.some.inj ho).symm)
          · rw [hout] at ho
            exact .inl ⟨e', he', by rw [hout, ← ho]; rfl⟩
        | recordSubmission b d request => exact .inr (.inr (.inl (Option.some.inj ho).symm))
  · rw [run_of_ne hne] at hk
    exact .inl ⟨e, hk, ho⟩

lemma run_reserveBound_already {d : RequestDigest} {o : RelayOutcome}
    (h : (run s (.reserveBound b d)).1 = .ok (.alreadyReserved o)) :
    ∃ e, s b.key = some e ∧ e.outcome.getD .reserved = o := by
  rcases hk : s b.key with _ | e
  · simp only [run, reserveBound, hk] at h
    cases h
  · refine ⟨e, rfl, ?_⟩
    by_cases hd : e.digest = d
    · simp only [run, reserveBound, hk, hd, if_true] at h
      cases h
      rfl
    · simp only [run, reserveBound, hk, hd, if_false] at h
      cases h

lemma run_loadOutcome_some {o : RelayOutcome}
    (h : (run s (.loadOutcome b)).1 = .ok (some o)) : ∃ e, s b.key = some e ∧ e.outcome = some o := by
  have h' : (s b.key).bind (·.outcome) = some o := Except.ok.inj h
  exact Option.bind_eq_some_iff.1 h'

lemma run_coherent (h : ∀ k e, s k = some e → e.Coherent) :
    ∀ k e, (run s c).2 k = some e → e.Coherent := by
  intro k e hk
  rcases eq_or_ne k c.binding.key with rfl | hne
  · rcases run_cases s c with h' | ⟨b, d, rfl, -, h'⟩ | ⟨e', he', h'⟩
    · exact h _ e (by rw [← h', hk])
    · rw [h'] at hk
      simp only [StoreCall.binding, Function.update_self, Option.some.injEq] at hk
      subst hk
      intro ht
      cases ht
    · rw [h', Function.update_self, Option.some.injEq] at hk
      by_cases ht : e'.status.isTerminal = true
      · rw [DurableEntry.unlessTerminal_of_terminal ht] at hk
        exact hk ▸ h _ e' he'
      · rw [DurableEntry.unlessTerminal, if_neg ht] at hk
        subst hk
        cases c with
        | recordOutcome b d o => exact fun _ => ⟨o, rfl, rfl⟩
        | reserveBound | loadSubmission | loadOutcome => exact h _ e' he'
        | recordSignRequested | recordSigned | recordSignedReference | recordSubmission =>
          intro hterm
          cases hterm
  · rw [run_of_ne hne] at hk
    exact h k e hk

end DurableStore

end PrivateExecution
