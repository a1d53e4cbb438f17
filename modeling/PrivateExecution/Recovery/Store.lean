import PrivateExecution.Async.Machine
import PrivateExecution.Recovery.Document

/-!
# The recovery wrapper store under concurrent calls

`FileRecoveryWrapperStore` (`apps/private-api/src/recovery.rs`) keeps the wrappers and the identity in
memory behind one mutex each, and the two of them as one document in a file. `upsert`, `revoke` and
`touch` hold the wrappers lock from their first look to the end, and copy the identity in between;
`bootstrap_identity` holds the identity lock until its document is in place, and replaces the wrappers
after it has released it. A step of the machine is one section of a call between two such points.
-/

namespace PrivateExecution.Recovery

/-! ### What a call makes of the store -/

/-- An update in place of the first element that is found (`iter_mut().find(..)`). -/
def modifyFirst {α : Type} (p : α → Bool) (f : α → α) : List α → List α
  | [] => []
  | a :: rest => if p a then f a :: rest else a :: modifyFirst p f rest

lemma length_modifyFirst {α : Type} (p : α → Bool) (f : α → α) (l : List α) :
    (modifyFirst p f l).length = l.length := by
  induction l with
  | nil => rfl
  | cons a l ih =>
    unfold modifyFirst
    split_ifs
    · rfl
    · exact congrArg (· + 1) ih

lemma forall_modifyFirst {α : Type} {p : α → Bool} {f : α → α} {P : α → Prop} {l : List α}
    (h : ∀ a ∈ l, P a) (hf : ∀ a, P a → P (f a)) : ∀ a ∈ modifyFirst p f l, P a := by
  induction l with
  | nil => exact h
  | cons a l ih =>
    obtain ⟨ha, hl⟩ := List.forall_mem_cons.1 h
    unfold modifyFirst
    split_ifs
    · exact List.forall_mem_cons.2 ⟨hf a ha, hl⟩
    · exact List.forall_mem_cons.2 ⟨ha, ih hl⟩

inductive Change where
  | upsert (record : RecoveryWrapperRecord)
  | revoke (credentialIdB64 : String) (nowMs : I64)
  | touch (credentialIdB64 : String) (nowMs : I64)
deriving DecidableEq

inductive Reply where
  | done
  | changed (live : Bool)
deriving DecidableEq

/-- What a change comes to when it looks at the wrappers. -/
inductive Plan where
  | refuse (e : AuthError)
  | keep (reply : Reply)
  | write (updated : List RecoveryWrapperRecord) (reply : Reply)

def Change.plan (wrappers : List RecoveryWrapperRecord) : Change → Plan
  | .upsert record =>
    let found (existing : RecoveryWrapperRecord) := existing.credentialIdB64 == record.credentialIdB64
    if wrappers.any found then
      .write (modifyFirst found (fun existing => { record with
        createdAtMs := existing.createdAtMs
        lastUsedAtMs := existing.lastUsedAtMs
        revokedAtMs := none }) wrappers) .done
    else if maxRecoveryWrappers ≤ wrappers.length then .refuse .credentialConflict
    else .write (wrappers ++ [record]) .done
  | .revoke credentialIdB64 nowMs =>
    let found (existing : RecoveryWrapperRecord) := existing.credentialIdB64 == credentialIdB64
    match wrappers.find? found with
    | none => .keep (.changed false)
    | some existing =>
      if existing.revokedAtMs.isSome then .keep (.changed false)
      else .write (modifyFirst found (fun e => { e with revokedAtMs := some nowMs }) wrappers) (.changed true)
  | .touch credentialIdB64 nowMs =>
    let found (existing : RecoveryWrapperRecord) :=
      existing.credentialIdB64 == credentialIdB64 && existing.revokedAtMs.isNone
    if wrappers.any found then
      .write (modifyFirst found (fun e => { e with lastUsedAtMs := some nowMs }) wrappers) .done
    else .keep .done

structure Bootstrap where
  identity : WorkspaceIdentityRecord
  wrappers : List RecoveryWrapperRecord
deriving DecidableEq

inductive Call where
  | change (c : Change)
  | bootstrapIdentity (b : Bootstrap)
deriving DecidableEq

/-- What a call makes of the store when it runs alone and succeeds. -/
def Call.effect (stored : Stored) : Call → Stored
  | .change c =>
    match c.plan stored.wrappers with
    | .write updated _ => { stored with wrappers := updated }
    | _ => stored
  | .bootstrapIdentity b => ⟨b.wrappers, some b.identity⟩

abbrev Return : Type := Call × Except AuthError Reply

def Return.apply (stored : Stored) (r : Return) : Stored :=
  match r.2 with
  | .ok _ => r.1.effect stored
  | .error _ => stored

def applied (start : Stored) (returned : List Return) : Stored := returned.foldl Return.apply start

@[simp] lemma applied_append (start : Stored) (returned : List Return) (r : Return) :
    applied start (returned ++ [r]) = r.apply (applied start returned) :=
  List.foldl_append

/-! ### The steps of the calls -/

/-- How far a change is that holds the wrappers lock. -/
inductive Progress where
  | planned
  | copied (identity : Option WorkspaceIdentityRecord)
  | written

/-- The section of a change under the wrappers lock. -/
structure Section where
  change : Change
  updated : List RecoveryWrapperRecord
  reply : Reply
  progress : Progress

/-- The store with its locks. A call that waits for its first lock has no trace here. -/
structure State where
  /-- The file, if there is one. -/
  file : Option (List UInt8)
  /-- What the two mutexes guard. -/
  memory : Stored
  /-- The change that holds the wrappers lock. -/
  changing : Option Section
  /-- The bootstrap that holds the identity lock, and whether its document is in place. -/
  bootstrapping : Option (Bootstrap × Bool)
  /-- Bootstraps that wait for the wrappers lock to replace the wrappers. -/
  adopting : List Bootstrap
  /-- The calls that have returned, in that order. -/
  returned : List Return

namespace State

variable (s : State)

def back (c : Call) (reply : Except AuthError Reply) : State :=
  { s with returned := s.returned ++ [(c, reply)] }

/-- A change takes the wrappers lock and looks at the wrappers. -/
def lockWrappers (c : Change) : State :=
  match s.changing with
  | some _ => s
  | none =>
    match c.plan s.memory.wrappers with
    | .refuse e => s.back (.change c) (.error e)
    | .keep reply => s.back (.change c) (.ok reply)
    | .write updated reply => { s with changing := some ⟨c, updated, reply, .planned⟩ }

/-- `persist` copies the identity, for which it needs the identity lock. -/
def copyIdentity : State :=
  match s.changing, s.bootstrapping with
  | some ⟨c, updated, reply, .planned⟩, none =>
    { s with changing := some ⟨c, updated, reply, .copied s.memory.identity⟩ }
  | _, _ => s

def storeWrappers : State :=
  match s.changing with
  | some ⟨c, updated, reply, .written⟩ =>
    { s with memory := { s.memory with wrappers := updated }, changing := none }.back (.change c) (.ok reply)
  | _ => s

/-- A bootstrap checks its wrappers, takes the identity lock and checks that there is no identity. -/
def lockIdentity (b : Bootstrap) : State :=
  if b.wrappers = [] ∨ maxRecoveryWrappers < b.wrappers.length then
    s.back (.bootstrapIdentity b) (.error .verifierUnavailable)
  else
    match s.bootstrapping with
    | some _ => s
    | none =>
      if s.memory.identity.isSome then s.back (.bootstrapIdentity b) (.error .credentialConflict)
      else { s with bootstrapping := some (b, false) }

/-- The bootstrap stores its identity and releases the identity lock. -/
def storeIdentity : State :=
  match s.bootstrapping with
  | some (b, true) =>
    { s with
      memory := { s.memory with identity := some b.identity }
      bootstrapping := none
      adopting := b :: s.adopting }
  | _ => s

/-- The bootstrap takes the wrappers lock, replaces the wrappers and returns. -/
def adoptWrappers (b : Bootstrap) : State :=
  if b ∈ s.adopting ∧ s.changing.isNone then
    { s with
      memory := { s.memory with wrappers := b.wrappers }
      adopting := s.adopting.erase b }.back (.bootstrapIdentity b) (.ok .done)
  else s

variable [Serde RecoveryStoreDocument]

def writeChange (io : Bool) : State :=
  match s.changing with
  | some ⟨c, updated, reply, .copied identity⟩ =>
    match persistDocument io ⟨updated, identity⟩ with
    | some bytes => { s with file := some bytes, changing := some ⟨c, updated, reply, .written⟩ }
    | none => { s with changing := none }.back (.change c) (.error .verifierUnavailable)
  | _ => s

def writeBootstrap (io : Bool) : State :=
  match s.bootstrapping with
  | some (b, false) =>
    match persistDocument io ⟨b.wrappers, some b.identity⟩ with
    | some bytes => { s with file := some bytes, bootstrapping := some (b, true) }
    | none => { s with bootstrapping := none }.back (.bootstrapIdentity b) (.error .verifierUnavailable)
  | _ => s

end State

/-- A step of one of the calls; `io` is whether the file system lets a document be written. -/
inductive Act where
  | lockWrappers (c : Change)
  | copyIdentity
  | writeChange (io : Bool)
  | storeWrappers
  | lockIdentity (b : Bootstrap)
  | writeBootstrap (io : Bool)
  | storeIdentity
  | adoptWrappers (b : Bootstrap)

/-- The store under any interleaving of calls. A step whose lock is taken does not happen. -/
abbrev store [Serde RecoveryStoreDocument] : Async.Machine Act fun _ => Unit where
  State := State
  step s
    | .lockWrappers c => ((), s.lockWrappers c)
    | .copyIdentity => ((), s.copyIdentity)
    | .writeChange io => ((), s.writeChange io)
    | .storeWrappers => ((), s.storeWrappers)
    | .lockIdentity b => ((), s.lockIdentity b)
    | .writeBootstrap io => ((), s.writeBootstrap io)
    | .storeIdentity => ((), s.storeIdentity)
    | .adoptWrappers b => ((), s.adoptWrappers b)

def State.opened (file : Option (List UInt8)) (stored : Stored) : State :=
  ⟨file, stored, none, none, [], []⟩

def State.AtRest (s : State) : Prop := s.changing = none ∧ s.bootstrapping = none ∧ s.adopting = []

/-! ### Calls that do not overlap a bootstrap -/

section

variable [Sha256]

def Change.Bounded : Change → Prop
  | .upsert record => record.Bounded
  | _ => True

structure Bootstrap.Bounded (b : Bootstrap) : Prop where
  wrappers : ∀ r ∈ b.wrappers, r.Bounded
  identity : checkIdentity b.identity = .ok ()

/-- A change takes the wrappers lock only when no bootstrap is under way, and a bootstrap that finds no
identity only when no change is. -/
def Apart (s : State) : Act → Prop
  | .lockWrappers c => c.Bounded ∧ s.bootstrapping = none ∧ s.adopting = []
  | .lockIdentity b => b.Bounded ∧ (s.memory.identity = none → s.changing = none)
  | _ => True

lemma Change.fit_of_plan {c : Change} {stored : Stored} {updated : List RecoveryWrapperRecord}
    {reply : Reply}
    (hc : c.Bounded) (hfit : stored.Fit) (h : c.plan stored.wrappers = .write updated reply) :
    ({ stored with wrappers := updated } : Stored).Fit := by
  obtain ⟨hcount, hbounded, hidentity⟩ := hfit
  cases c with
  | upsert record =>
    simp only [plan] at h
    split_ifs at h with hfound hfull
    · cases h
      exact ⟨(length_modifyFirst _ _ _).trans_le hcount,
        forall_modifyFirst hbounded fun _ _ => ⟨hc.1, hc.2, hc.3, hc.4, hc.5, hc.6, hc.7⟩, hidentity⟩
    · cases h
      refine ⟨?_, ?_, hidentity⟩
      · simp only [List.length_append, List.length_singleton]
        omega
      · exact List.forall_mem_append.2 ⟨hbounded, List.forall_mem_singleton.2 hc⟩
  | revoke credentialIdB64 nowMs =>
    simp only [plan] at h
    split at h
    · cases h
    · split_ifs at h
      cases h
      exact ⟨(length_modifyFirst _ _ _).trans_le hcount,
        forall_modifyFirst hbounded fun _ hr => ⟨hr.1, hr.2, hr.3, hr.4, hr.5, hr.6, hr.7⟩, hidentity⟩
  | touch credentialIdB64 nowMs =>
    simp only [plan] at h
    split_ifs at h
    cases h
    exact ⟨(length_modifyFirst _ _ _).trans_le hcount,
      forall_modifyFirst hbounded fun _ hr => ⟨hr.1, hr.2, hr.3, hr.4, hr.5, hr.6, hr.7⟩, hidentity⟩

variable [Serde RecoveryStoreDocument]

def OnDisk (file : Option (List UInt8)) (stored : Stored) : Prop :=
  stored.Fit ∧ loadStore file = .ok stored

/-- What is in the file while a change is under way. -/
def Progress.disk (stored : Stored) (updated : List RecoveryWrapperRecord) : Progress → Stored
  | .written => { stored with wrappers := updated }
  | _ => stored

/-- At every point the file is either what is in memory or what the call in progress is about to make of
memory; the calls that have returned account for memory. -/
inductive Consistent (start : Stored) : State → Prop where
  | idle {file : Option (List UInt8)} {st : Stored} {returned : List Return} (hdisk : OnDisk file st)
      (happlied : applied start returned = st) : Consistent start ⟨file, st, none, none, [], returned⟩
  | changing {file : Option (List UInt8)} {st : Stored} {returned : List Return} {c : Change}
      {updated : List RecoveryWrapperRecord} {reply : Reply} {progress : Progress}
      (hfit : ({ st with wrappers := updated } : Stored).Fit)
      (hplan : c.plan st.wrappers = .write updated reply)
      (hcopy : ∀ i, progress = .copied i → i = st.identity) (hdisk : OnDisk file (progress.disk st updated))
      (happlied : applied start returned = st) :
      Consistent start ⟨file, st, some ⟨c, updated, reply, progress⟩, none, [], returned⟩
  | bootstrapping {file : Option (List UInt8)} {wrappers : List RecoveryWrapperRecord}
      {returned : List Return} {b : Bootstrap} {written : Bool}
      (hfit : (⟨b.wrappers, some b.identity⟩ : Stored).Fit)
      (hdisk : OnDisk file (if written then ⟨b.wrappers, some b.identity⟩ else ⟨wrappers, none⟩))
      (happlied : applied start returned = ⟨wrappers, none⟩) :
      Consistent start ⟨file, ⟨wrappers, none⟩, none, some (b, written), [], returned⟩
  | adopting {file : Option (List UInt8)} {wrappers : List RecoveryWrapperRecord} {returned : List Return}
      {b : Bootstrap} (hdisk : OnDisk file ⟨b.wrappers, some b.identity⟩)
      (happlied : applied start returned = ⟨wrappers, none⟩) :
      Consistent start ⟨file, ⟨wrappers, some b.identity⟩, none, none, [b], returned⟩

variable {start : Stored} {s : State}

lemma Consistent.lockWrappers (h : Consistent start s) {c : Change} (hok : Apart s (.lockWrappers c)) :
    Consistent start (s.lockWrappers c) := by
  obtain ⟨hc, hboot, hadopt⟩ := hok
  cases h with
  | idle hdisk happlied =>
    simp only [State.lockWrappers]
    split
    next e _ => exact .idle hdisk (by simpa [Return.apply] using happlied)
    next reply hplan =>
      refine .idle hdisk ?_
      simp [Return.apply, Call.effect, happlied, hplan]
    next updated reply hplan =>
      exact .changing (c.fit_of_plan hc hdisk.1 hplan) hplan (fun i hi => by cases hi) hdisk happlied
  | changing hfit hplan hcopy hdisk happlied => exact .changing hfit hplan hcopy hdisk happlied
  | bootstrapping => cases hboot
  | adopting => cases hadopt

lemma Consistent.copyIdentity (h : Consistent start s) : Consistent start s.copyIdentity := by
  unfold State.copyIdentity
  split
  next hchanging _ =>
    cases h with
    | changing hfit hplan _ hdisk happlied =>
      cases hchanging
      exact .changing hfit hplan (fun i hi => (Progress.copied.inj hi).symm) hdisk happlied
    | idle | bootstrapping | adopting => cases hchanging
  · exact h

lemma Consistent.writeChange (hsmall : SmallDocuments) (h : Consistent start s) (io : Bool) :
    Consistent start (s.writeChange io) := by
  unfold State.writeChange
  split
  next identity hchanging =>
    cases h with
    | changing hfit hplan hcopy hdisk happlied =>
      cases hchanging
      -- The copy is still the identity in memory: no bootstrap was under way.
      obtain rfl := hcopy identity rfl
      split
      next bytes hbytes =>
        have hload := loadStore_persistDocument hsmall hfit hbytes
        exact .changing hfit hplan (fun i hi => by cases hi) ⟨hfit, hload⟩ happlied
      next => exact .idle hdisk (by simpa [Return.apply] using happlied)
    | idle | bootstrapping | adopting => cases hchanging
  · exact h

lemma Consistent.storeWrappers (h : Consistent start s) : Consistent start s.storeWrappers := by
  unfold State.storeWrappers
  split
  next hchanging =>
    cases h with
    | changing _ hplan _ hdisk happlied =>
      cases hchanging
      exact .idle hdisk (by simp [Return.apply, Call.effect, happlied, hplan])
    | idle | bootstrapping | adopting => cases hchanging
  · exact h

lemma Consistent.back_error (h : Consistent start s) (c : Call) (e : AuthError) :
    Consistent start (s.back c (.error e)) := by
  have happly : ∀ {returned st}, applied start returned = st →
      applied start (returned ++ [(c, .error e)]) = st := fun h => by simpa [Return.apply] using h
  cases h with
  | idle hdisk happlied => exact .idle hdisk (happly happlied)
  | changing hfit hplan hcopy hdisk happlied => exact .changing hfit hplan hcopy hdisk (happly happlied)
  | bootstrapping hfit hdisk happlied => exact .bootstrapping hfit hdisk (happly happlied)
  | adopting hdisk happlied => exact .adopting hdisk (happly happlied)

lemma Consistent.lockIdentity (h : Consistent start s) {b : Bootstrap} (hok : Apart s (.lockIdentity b)) :
    Consistent start (s.lockIdentity b) := by
  obtain ⟨hb, hapart⟩ := hok
  unfold State.lockIdentity
  split_ifs with hcount hidentity
  · exact h.back_error _ _
  · split
    · exact h
    · exact h.back_error _ _
  · split
    · exact h
    next hfree =>
      have hnone : s.memory.identity = none := by simpa using hidentity
      have hfit : (⟨b.wrappers, some b.identity⟩ : Stored).Fit :=
        ⟨not_lt.1 fun hlt => hcount (.inr hlt), hb.wrappers, fun i hi => by cases hi; exact hb.identity⟩
      cases h with
      | @idle _ st _ hdisk happlied =>
        obtain ⟨wrappers, identity⟩ := st
        cases hnone
        exact .bootstrapping hfit hdisk happlied
      | changing => cases hapart hnone
      | bootstrapping => cases hfree
      | adopting => cases hnone

lemma Consistent.writeBootstrap (hsmall : SmallDocuments) (h : Consistent start s) (io : Bool) :
    Consistent start (s.writeBootstrap io) := by
  unfold State.writeBootstrap
  split
  next hboot =>
    cases h with
    | bootstrapping hfit hdisk happlied =>
      cases hboot
      split
      next bytes hbytes =>
        exact .bootstrapping hfit ⟨hfit, loadStore_persistDocument hsmall hfit hbytes⟩ happlied
      next => exact .idle hdisk (by simpa [Return.apply] using happlied)
    | idle | changing | adopting => cases hboot
  · exact h

lemma Consistent.storeIdentity (h : Consistent start s) : Consistent start s.storeIdentity := by
  unfold State.storeIdentity
  split
  next hboot =>
    cases h with
    | bootstrapping _ hdisk happlied =>
      cases hboot
      exact .adopting hdisk happlied
    | idle | changing | adopting => cases hboot
  · exact h

lemma Consistent.adoptWrappers (h : Consistent start s) (b : Bootstrap) :
    Consistent start (s.adoptWrappers b) := by
  unfold State.adoptWrappers
  split_ifs with hmem
  · obtain ⟨hmem, -⟩ := hmem
    cases h with
    | idle | changing | bootstrapping => cases hmem
    | adopting hdisk happlied =>
      obtain rfl := List.mem_singleton.1 hmem
      simp only [List.erase_cons_head]
      exact .idle hdisk (by simp [Return.apply, Call.effect])
  · exact h

lemma Consistent.step (hsmall : SmallDocuments) (h : Consistent start s) {a : Act} (hok : Apart s a) :
    Consistent start (store.step s a).2 := by
  cases a with
  | lockWrappers c => exact h.lockWrappers hok
  | copyIdentity => exact h.copyIdentity
  | writeChange io => exact h.writeChange hsmall io
  | storeWrappers => exact h.storeWrappers
  | lockIdentity b => exact h.lockIdentity hok
  | writeBootstrap io => exact h.writeBootstrap hsmall io
  | storeIdentity => exact h.storeIdentity
  | adoptWrappers b => exact h.adoptWrappers b

def Bootstrapped (start : Stored) (s : State) : Prop :=
  ∀ b reply, (.bootstrapIdentity b, .ok reply) ∈ s.returned →
    (applied start s.returned).identity = some b.identity

omit [Sha256] in
/-- What a step adds to the calls that have returned: nothing, a failed call, a change, or a bootstrap that
was waiting for the wrappers lock. -/
lemma returned_step (s : State) (a : Act) : (store.step s a).2.returned = s.returned ∨
      ∃ c reply, (store.step s a).2.returned = s.returned ++ [(c, reply)] ∧
        ((∃ e, reply = .error e) ∨ (∃ ch, c = .change ch) ∨ ∃ b ∈ s.adopting, c = .bootstrapIdentity b) := by
  cases a with
  | lockWrappers c =>
    simp only [State.lockWrappers]
    split
    · exact .inl rfl
    · split
      · exact .inr ⟨_, _, rfl, .inl ⟨_, rfl⟩⟩
      · exact .inr ⟨_, _, rfl, .inr (.inl ⟨c, rfl⟩)⟩
      · exact .inl rfl
  | copyIdentity =>
    simp only [State.copyIdentity]
    split <;> exact .inl rfl
  | writeChange io =>
    simp only [State.writeChange]
    split
    · split
      · exact .inl rfl
      · exact .inr ⟨_, _, rfl, .inl ⟨_, rfl⟩⟩
    · exact .inl rfl
  | storeWrappers =>
    simp only [State.storeWrappers]
    split
    · exact .inr ⟨_, _, rfl, .inr (.inl ⟨_, rfl⟩)⟩
    · exact .inl rfl
  | lockIdentity b =>
    simp only [State.lockIdentity]
    split_ifs
    · exact .inr ⟨_, _, rfl, .inl ⟨_, rfl⟩⟩
    · split
      · exact .inl rfl
      · exact .inr ⟨_, _, rfl, .inl ⟨_, rfl⟩⟩
    · split <;> exact .inl rfl
  | writeBootstrap io =>
    simp only [State.writeBootstrap]
    split
    · split
      · exact .inl rfl
      · exact .inr ⟨_, _, rfl, .inl ⟨_, rfl⟩⟩
    · exact .inl rfl
  | storeIdentity =>
    simp only [State.storeIdentity]
    split <;> exact .inl rfl
  | adoptWrappers b =>
    simp only [State.adoptWrappers]
    split_ifs with hmem
    · exact .inr ⟨_, _, rfl, .inr (.inr ⟨b, hmem.1, rfl⟩)⟩
    · exact .inl rfl

lemma Consistent.identity_none (h : Consistent start s) {b : Bootstrap} (hb : b ∈ s.adopting) :
    (applied start s.returned).identity = none := by
  cases h with
  | idle | changing | bootstrapping => cases hb
  | adopting _ happlied => rw [happlied]

lemma Bootstrapped.step (hboots : Bootstrapped start s) (h : Consistent start s) (a : Act) :
    Bootstrapped start (store.step s a).2 := by
  intro b' reply' hmem
  obtain hsame | ⟨c, reply, happend, hkind⟩ := returned_step s a
  · rw [hsame] at hmem ⊢
    exact hboots b' reply' hmem
  rw [happend] at hmem ⊢
  rw [applied_append]
  obtain hmem | hlast := List.mem_append.1 hmem
  · have hold := hboots b' reply' hmem
    obtain ⟨e, rfl⟩ | ⟨ch, rfl⟩ | ⟨b, hb, rfl⟩ := hkind
    · exact hold
    · -- A change keeps the identity.
      cases reply with
      | error e => exact hold
      | ok reply =>
        simp only [Return.apply, Call.effect]
        split <;> exact hold
    · rw [h.identity_none hb] at hold
      cases hold
  · cases List.mem_singleton.1 hlast
    rfl

lemma Consistent.identity_onDisk (h : Consistent start s) {identity : WorkspaceIdentityRecord}
    (hidentity : (applied start s.returned).identity = some identity) :
    ∃ wrappers, loadStore s.file = .ok ⟨wrappers, some identity⟩ := by
  cases h with
  | idle hdisk happlied =>
    rw [happlied] at hidentity
    exact ⟨_, by rw [← hidentity]; exact hdisk.2⟩
  | @changing _ _ _ _ _ _ progress hfit hplan hcopy hdisk happlied =>
    rw [happlied] at hidentity
    cases progress <;> exact ⟨_, by rw [← hidentity]; exact hdisk.2⟩
  | bootstrapping _ _ happlied | adopting _ happlied =>
    rw [happlied] at hidentity
    cases hidentity

lemma Consistent.atRest (h : Consistent start s) (hrest : s.AtRest) :
    loadStore s.file = .ok s.memory ∧ s.memory = applied start s.returned := by
  obtain ⟨hchanging, hboot, hadopt⟩ := hrest
  cases h with
  | idle hdisk happlied => exact ⟨hdisk.2, happlied.symm⟩
  | changing => cases hchanging
  | bootstrapping => cases hboot
  | adopting => cases hadopt

/-- In every run in which no change overlaps a bootstrap, an identity that was bootstrapped is the one in
the file, and at rest the file reads back as what is in memory, which is what the calls that returned `Ok`
make of the store one after another. -/
theorem disk_matches_memory (hsmall : SmallDocuments) {file : Option (List UInt8)} {stored : Stored}
    (hopen : loadStore file = .ok stored) (hfit : stored.Fit) {acts : List Act}
    (hmeets : store.Meets Apart (State.opened file stored) acts) :
    let s : State := store.run (State.opened file stored) acts
    (∀ b reply, (.bootstrapIdentity b, .ok reply) ∈ s.returned →
      ∃ wrappers, loadStore s.file = .ok ⟨wrappers, some b.identity⟩) ∧
      (s.AtRest → loadStore s.file = .ok s.memory ∧ s.memory = applied stored s.returned) := by
  have hstart : Consistent stored (State.opened file stored) ∧ Bootstrapped stored (State.opened file stored) :=
    ⟨.idle ⟨hfit, hopen⟩ rfl, fun b reply hmem => by cases hmem⟩
  obtain ⟨hcons, hboots⟩ := hmeets.invariant (P := fun s => Consistent stored s ∧ Bootstrapped stored s)
    hstart fun s a hs ha => ⟨hs.1.step hsmall ha, hs.2.step hs.1 a⟩
  exact ⟨fun b reply hmem => hcons.identity_onDisk (hboots b reply hmem), hcons.atRest⟩

end

/-! ### A bootstrap and an upsert -/

namespace Sample

attribute [local instance] Sha256.sha2

def wrapper (credentialIdB64 : String) : RecoveryWrapperRecord where
  credentialIdB64 := credentialIdB64
  label := "Recovery passkey"
  version := .lit 1
  algorithm := "HKDF-SHA256/AES-256-GCM"
  keySource := "workspace_root_v2"
  saltB64 := "AgICAgICAgICAgICAgICAgICAgICAgICAgICAgICAgI="
  ivB64 := "AwMDAwMDAwMDAwMD"
  wrappedRootKeyB64 := "BAQEBAQEBAQEBAQEBAQEBAQEBAQEBAQEBAQEBAQEBAQEBAQEBAQEBAQEBAQEBAQE"
  createdAtMs := .lit 10
  lastUsedAtMs := none
  revokedAtMs := none

def identity : WorkspaceIdentityRecord where
  version := workspaceIdentityVersion
  publicKeyB64 := "CQkJCQkJCQkJCQkJCQkJCQkJCQkJCQkJCQkJCQkJCQk="
  fingerprintB64 := "jAzBegSULMT44P4LMCYG0xCIYMEmQouizutfntQcKwU="
  createdAtMs := .lit 10

def bootstrap : Bootstrap := ⟨identity, [wrapper "AQ=="]⟩

def documents : List RecoveryStoreDocument :=
  [Stored.document ⟨[wrapper "Ag=="], none⟩, Stored.document ⟨[wrapper "AQ=="], some identity⟩]

lemma json_injective : ∀ a ∈ documents, ∀ b ∈ documents, json a = json b → a = b := by decide +kernel

@[reducible] def serde : Serde RecoveryStoreDocument := Serde.ofList documents json_injective

attribute [local instance] serde

lemma smallDocuments : SmallDocuments := by
  intro stored bytes _ h
  have hlen : ∀ d ∈ documents, (json d).length ≤ maxRecoveryStoreBytes := by decide +kernel
  simp only [Serde.toVec] at h
  split_ifs at h with hmem
  cases h
  exact hlen _ hmem

lemma wrapper_bounded : ∀ c ∈ ["AQ==", "Ag=="], (wrapper c).Bounded := by
  have hbounds : ∀ c ∈ ["AQ==", "Ag=="], (wrapper c).credentialIdB64.utf8ByteSize ≤ 1368 ∧
      (wrapper c).label.utf8ByteSize ≤ 64 ∧ (wrapper c).saltB64.utf8ByteSize = 44 ∧
      (wrapper c).ivB64.utf8ByteSize = 16 ∧ (wrapper c).wrappedRootKeyB64.utf8ByteSize = 64 := by
    decide +kernel
  intro c hc
  obtain ⟨hid, hlabel, hsalt, hiv, hkey⟩ := hbounds c hc
  exact ⟨hid, hlabel, rfl, List.mem_cons_self, hsalt, hiv, hkey⟩

lemma bootstrap_bounded : bootstrap.Bounded :=
  ⟨List.forall_mem_singleton.2 (wrapper_bounded "AQ==" (by simp)), by decide +kernel⟩

def inTurn : List Act :=
  [.lockWrappers (.upsert (wrapper "Ag==")), .copyIdentity, .writeChange true, .storeWrappers,
    .lockIdentity bootstrap, .writeBootstrap true, .storeIdentity, .adoptWrappers bootstrap]

/-- The upsert copies the identity, the bootstrap stores one, and the upsert writes its document. -/
def overlapping : List Act :=
  [.lockWrappers (.upsert (wrapper "Ag==")), .copyIdentity, .lockIdentity bootstrap, .writeBootstrap true,
    .storeIdentity, .writeChange true, .storeWrappers, .adoptWrappers bootstrap]

end Sample

section

attribute [local instance] Sha256.sha2 Sample.serde

open Sample in
theorem disk_matches_memory_in_turn :
    let s : State := store.run (State.opened none ⟨[], none⟩) inTurn
    s.AtRest ∧ s.returned.length = 2 ∧ loadStore s.file = .ok s.memory := by
  have hmeets : store.Meets Apart (State.opened none ⟨[], none⟩) inTurn :=
    ⟨⟨wrapper_bounded "Ag==" (by simp), rfl, rfl⟩, trivial, trivial, trivial,
      ⟨bootstrap_bounded, fun _ => by decide +kernel⟩, trivial, trivial, trivial, trivial⟩
  have hrest : (store.run (State.opened none ⟨[], none⟩) inTurn : State).AtRest := by
    unfold State.AtRest
    decide +kernel
  have hfit : (⟨[], none⟩ : Stored).Fit := ⟨by decide, List.forall_mem_nil _, fun i hi => by cases hi⟩
  have hmatches := disk_matches_memory smallDocuments rfl hfit hmeets
  exact ⟨hrest, by decide +kernel, (hmatches.2 hrest).1⟩

open Sample in
/-- The bootstrap has returned `Ok`, no call is in progress, and the file has no identity. -/
theorem bootstrap_overwritten :
    let s : State := store.run (State.opened none ⟨[], none⟩) overlapping
    s.AtRest ∧ (.bootstrapIdentity bootstrap, .ok .done) ∈ s.returned ∧
      s.memory = ⟨[wrapper "AQ=="], some identity⟩ ∧ loadStore s.file = .ok ⟨[wrapper "Ag=="], none⟩ := by
  have hload : (loadStore (store.run (State.opened none ⟨[], none⟩) overlapping : State).file).toOption =
      some ⟨[wrapper "Ag=="], none⟩ := by decide +kernel
  refine ⟨?_, by decide +kernel, by decide +kernel, toOption_eq_some hload⟩
  unfold State.AtRest
  decide +kernel

end

end PrivateExecution.Recovery
