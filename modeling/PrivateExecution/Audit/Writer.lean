import PrivateExecution.Async.Rely
import PrivateExecution.Audit.Event
import PrivateExecution.Crypto.BlindIndex
import PrivateExecution.Crypto.XChaCha
import PrivateExecution.Privy.Sha256
import PrivateExecution.Storage.Opaque

/-!
# The audit writer

`AuditWriter` (`audit/src/writer.rs`) as a program: `append` derives the stream of the event, checks
its sequence against the high-water mark of the stream, seals, stores, and only then raises the mark.
Check and raise are two critical sections with the store call between them, and nothing remembers
what was sealed when the store call fails.
-/

namespace PrivateExecution

open Async

/-! ### The writer -/

structure AuditKeyMaterial where
  kid : Kid
  sealKey : SealKey
  blindIndex : BlindIndexKey

structure AuditRecordRef where
  sequence : U64
  createdBucket : CreatedBucket

namespace Audit

section

variable [Sha256]

def chainTag (chain : ChainId) : Vector UInt8 32 :=
  Sha256.digest (utf8 "audit.chain_tag.v1" ++ chain.tagName)

def streamBlindIndex (key : BlindIndexKey) (chain : ChainId) (intentId : IntentId) : List UInt8 :=
  key.derive "audit.stream.v1" [(chainTag chain).toList, utf8 intentId.asStr]

lemma streamBlindIndex_ne_nil (key : BlindIndexKey) (chain : ChainId) (intentId : IntentId) :
    streamBlindIndex key chain intentId ≠ [] := key.derive_ne_nil _ _

end

def mapStorage : StorageError → AuditError
  | .conflict => .storageConflict
  | .invalid _ => .recordMalformed
  | .unavailable | .notFound | .backend => .storageUnavailable

/-- What the writer asks of its surroundings: the key provider, its two critical sections, the
sealing, the store. -/
inductive Op where
  | currentKey
  /-- Does the event advance the mark of the stream? -/
  | advances (stream : List UInt8) (event : ExecutionAuditEvent)
  | sealAtRest (key : SealKey) (slot : SealSlot) (plaintext : List UInt8)
  | appendEvent (record : OpaqueEventRecord)
  | insertLast (stream : List UInt8) (sequence : U64)

def Op.Ans : Op → Type
  | .currentKey => Except AuditError AuditKeyMaterial
  | .advances _ _ => Bool
  | .sealAtRest _ _ _ => Except CryptoError (List UInt8)
  | .appendEvent _ => Except StorageError Unit
  | .insertLast _ _ => Unit

abbrev Prog := Fallible AuditError Op Op.Ans

def ask (o : Op) : Prog o.Ans := Fallible.request o

section

variable [Sha256] [Serde ExecutionAuditEvent]

def slot (material : AuditKeyMaterial) (stream : List UInt8) (event : ExecutionAuditEvent) : SealSlot :=
  ⟨material.kid, stream, event.sequence, event.schemaVersion⟩

omit [Sha256] [Serde ExecutionAuditEvent] in
def record (stream : List UInt8) (event : ExecutionAuditEvent) (ciphertext : List UInt8)
    (bucket : CreatedBucket) : OpaqueEventRecord :=
  ⟨stream, event.sequence, event.schemaVersion, ciphertext, bucket⟩

omit [Sha256] [Serde ExecutionAuditEvent] in
lemma validate_record {stream ciphertext : List UInt8} {event : ExecutionAuditEvent}
    {bucket : CreatedBucket} (hstream : stream ≠ []) (hsequence : event.sequence.val ≠ 0)
    (hschema : event.schemaVersion.val ≠ 0) (hct : ciphertext ≠ []) :
    (record stream event ciphertext bucket).validate = .ok () := by
  simp only [OpaqueEventRecord.validate, ensure_ok, ensure_eq_ok]
  exact ⟨hstream, hsequence, hschema, hct⟩

def appendUnder (material : AuditKeyMaterial) (stream : List UInt8) (event : ExecutionAuditEvent)
    (bucket : CreatedBucket) : Prog AuditRecordRef := do
  let advances : Bool ← ask (.advances stream event)
  Fallible.check (ensure (advances = true) .sequenceNotMonotonic)
  let payload ← Fallible.check
    (okOr (Serde.toVec event) (.eventValidationFailed "event serialization failed"))
  let answer : Except CryptoError (List UInt8) ←
    ask (.sealAtRest material.sealKey (slot material stream event) payload)
  let ciphertext ← Fallible.check (answer.mapError fun _ => .sealFailed)
  let record := record stream event ciphertext bucket
  Fallible.check (record.validate.mapError fun _ => .recordMalformed)
  let stored : Except StorageError Unit ← ask (.appendEvent record)
  Fallible.check (stored.mapError mapStorage)
  ask (.insertLast stream event.sequence)
  return ⟨event.sequence, bucket⟩

def append (event : ExecutionAuditEvent) (bucket : CreatedBucket) : Prog AuditRecordRef := do
  Fallible.check event.validate
  let answer : Except AuditError AuditKeyMaterial ← ask .currentKey
  let material ← Fallible.check answer
  appendUnder material (streamBlindIndex material.blindIndex event.chain event.intentId) event bucket

def appendAll (bucket : CreatedBucket) : List ExecutionAuditEvent → Prog Unit
  | [] => return ()
  | event :: events => do
    let _ ← append event bucket
    appendAll bucket events

def appendLifecycle (events : List ExecutionAuditEvent) (bucket : CreatedBucket) : Prog Unit := do
  Fallible.check (events.forM fun event => event.validate)
  appendAll bucket events

inductive Call where
  | append (event : ExecutionAuditEvent) (bucket : CreatedBucket)
  | appendLifecycle (events : List ExecutionAuditEvent) (bucket : CreatedBucket)

/-- What a call runs; the reference that `append` returns is not looked at. -/
def Call.body : Call → Async.Prog Op Op.Ans (Except AuditError Unit)
  | .append event bucket => (do let _ ← Audit.append event bucket : Prog Unit).run
  | .appendLifecycle events bucket => (Audit.appendLifecycle events bucket).run

end

abbrev Marks := List UInt8 → Option U64

/-- The surroundings: key provider and store may answer anything. -/
def host [Sha256] [Aead] : Host Marks Op Op.Ans where
  handle _ o w r w' := match o, r with
    | .currentKey, _ => w' = w
    | .advances stream event, r => r = ((w stream).all fun m => decide (m < event.sequence)) ∧ w' = w
    | .sealAtRest key slot plaintext, r => r = PrivateExecution.sealAtRest key slot plaintext ∧ w' = w
    | .appendEvent _, _ => w' = w
    | .insertLast stream sequence, _ => w' = Function.update w stream (some sequence)
  cancel _ w := w
  ambient _ _ := False

abbrev Trace := List (Label Call Op Op.Ans (Except AuditError Unit))
abbrev AuditView := View Marks Call Op Op.Ans (Except AuditError Unit)

/-! ### Orderly runs -/

/-- The stream of an operation in the middle of an append. -/
def Op.stream? : Op → Option (List UInt8)
  | .advances stream _ => some stream
  | .sealAtRest _ slot _ => some slot.scope
  | .appendEvent record => some record.streamBlindIndex
  | .currentKey | .insertLast _ _ => none

/-- The stream to which a thread is appending: from the check of the mark until the mark is raised or
the call is over. -/
def appending (t : Tid) : Trace → Option (List UInt8)
  | [] => none
  | .did u o _ :: before => if u = t then o.stream? else appending t before
  | .returned u _ _ :: before | .cancelled u _ :: before =>
    if u = t then none else appending t before
  | .started _ _ :: before | .ambient :: before => appending t before

/-- When thread `t` checks `event` against the mark of `stream`, nobody else is appending to the
stream, and another event was appended under the sequence only if that was acknowledged. -/
structure InOrder (t : Tid) (stream : List UInt8) (event : ExecutionAuditEvent) (before : Trace) : Prop where
  alone : ∀ u, u ≠ t → appending u before ≠ some stream
  settled : ∀ u event' r, .did u (.advances stream event') r ∈ before →
    event'.sequence = event.sequence → event' ≠ event →
    ∃ u' r', .did u' (.insertLast stream event.sequence) r' ∈ before

def Orderly (trace : Trace) : Prop :=
  ∀ before t stream event r, (.did t (.advances stream event) r :: before) <:+ trace →
    InOrder t stream event before

section

open Async.Discipline

variable {t u : Tid} {stream : List UInt8} {event : ExecutionAuditEvent} {bucket : CreatedBucket} {before : Trace}
  {l : Label Call Op Op.Ans (Except AuditError Unit)}

lemma Orderly.tail (h : Orderly (l :: before)) : Orderly before :=
  fun before t stream event r hs => h before t stream event r (hs.trans (List.suffix_cons _ _))

lemma Orderly.nil : Orderly [] := fun _ _ _ _ _ hs => absurd (List.suffix_nil.1 hs) (List.cons_ne_nil _ _)

lemma Orderly.cons (h : Orderly before)
    (hl : ∀ t stream event r, l = .did t (.advances stream event) r → InOrder t stream event before) :
    Orderly (l :: before) := by
  intro before t stream event r hs
  rcases List.suffix_cons_iff.1 hs with heq | hs
  · cases heq
    exact hl t stream event r rfl
  · exact h before t stream event r hs

/-! ### The discipline -/

variable [Serde ExecutionAuditEvent]

/-- What holds of every orderly run. -/
structure Audited (v : AuditView) : Prop where
  /-- The mark of a stream covers every acknowledged sequence. -/
  marked : ∀ u s n r, .did u (.insertLast s n) r ∈ v.trace → ∃ m, v.world s = some m ∧ n ≤ m
  /-- Two records sealed under one slot are equal. -/
  agree : ∀ u u' k k' slot p p' r r', .did u (.sealAtRest k slot p) r ∈ v.trace →
    .did u' (.sealAtRest k' slot p') r' ∈ v.trace → p = p'
  /-- A sealed record is that of a checked event. -/
  checked : ∀ u k slot p r, .did u (.sealAtRest k slot p) r ∈ v.trace → ∃ event,
    Serde.toVec event = some p ∧ event.sequence = slot.sequence ∧
      ∃ r', .did u (.advances slot.scope event) r' ∈ v.trace
  /-- A stream is appended to by one thread at a time. -/
  exclusive : ∀ t u s, appending t v.trace = some s → appending u v.trace = some s → t = u

/-- What a thread may do: ask for a key, check an event, go on with the stream it is appending to,
raise its mark, end. -/
inductive Moves (t : Tid) : AuditView → AuditView → Prop where
  | currentKey {v} (r) : Moves t v (v.did t .currentKey r v.world)
  | advances {v} (s event r) : Moves t v (v.did t (.advances s event) r v.world)
  | inside {v} (o : Op) (r) (s) (ho : o.stream? = some s)
      (hs : Orderly v.trace → appending t v.trace = some s) : Moves t v (v.did t o r v.world)
  | insertLast {v} (s n r) (hs : Orderly v.trace → appending t v.trace = some s) :
      Moves t v (v.did t (.insertLast s n) r (Function.update v.world s (some n)))
  | returned {v} (c a) : Moves t v (v.finish t c a)
  | cancelled {v} (c) : Moves t v (v.cancel t c v.world)

def discipline : Discipline Marks Call Op Op.Ans (Except AuditError Unit) where
  inv v := Orderly v.trace → Audited v
  may := Moves

/-- What a thread knows while it appends `event` to `stream`. -/
structure Holds (t : Tid) (stream : List UInt8) (event : ExecutionAuditEvent) (v : AuditView) : Prop where
  appending : appending t v.trace = some stream
  below : ∀ m, v.world stream = some m → m < event.sequence
  sealed : ∀ u k slot p r, .did u (.sealAtRest k slot p) r ∈ v.trace → slot.scope = stream →
    slot.sequence = event.sequence → Serde.toVec event = some p
  checked : ∃ r, .did t (.advances stream event) r ∈ v.trace

variable {v v' : AuditView} {w : Marks}

omit [Serde ExecutionAuditEvent] in
lemma Moves.trace (h : Moves t v v') : ∃ l, v'.trace = l :: v.trace ∧
    (∀ u, u ≠ t → appending u v'.trace = appending u v.trace) := by
  have hdid : ∀ {o : Op} (r : o.Ans) (u : Tid), u ≠ t →
      appending u (.did t o r :: v.trace) = appending u v.trace :=
    fun r u hne => if_neg hne.symm
  cases h with
  | currentKey r => exact ⟨_, rfl, hdid r⟩
  | advances s e r => exact ⟨_, rfl, hdid r⟩
  | inside o r s => exact ⟨_, rfl, hdid r⟩
  | insertLast s n r => exact ⟨_, rfl, hdid r⟩
  | returned c a => exact ⟨_, rfl, fun u hne => if_neg hne.symm⟩
  | cancelled c => exact ⟨_, rfl, fun u hne => if_neg hne.symm⟩

lemma Holds.cons (h : Holds t stream event v)
    (htrace : v'.trace = l :: v.trace) (hopen : Audit.appending t v'.trace = Audit.appending t v.trace)
    (hworld : v'.world stream = v.world stream)
    (hseal : ∀ u k slot p r, l = .did u (.sealAtRest k slot p) r → slot.scope = stream →
      slot.sequence = event.sequence → Serde.toVec event = some p) : Holds t stream event v' where
  appending := hopen.trans h.appending
  below m hm := h.below m (hworld ▸ hm)
  sealed u k slot p r hmem hscope hseq := by
    rw [htrace] at hmem
    rcases List.mem_cons.1 hmem with heq | hmem
    · exact hseal u k slot p r heq.symm hscope hseq
    · exact h.sealed u k slot p r hmem hscope hseq
  checked := by
    obtain ⟨r, hr⟩ := h.checked
    exact ⟨r, htrace ▸ List.mem_cons_of_mem _ hr⟩

lemma Audited.cons (h : Audited v)
    (htrace : v'.trace = l :: v.trace) (hworld : ∀ s n, v.world s = some n → ∃ m, v'.world s = some m ∧ n ≤ m)
    (hmark : ∀ u s n r, l = .did u (.insertLast s n) r → ∃ m, v'.world s = some m ∧ n ≤ m)
    (hseal : ∀ u k slot p r, l = .did u (.sealAtRest k slot p) r →
      (∀ u' k' p' r', .did u' (.sealAtRest k' slot p') r' ∈ v.trace → p' = p) ∧
      ∃ event, Serde.toVec event = some p ∧ event.sequence = slot.sequence ∧
        ∃ r', .did u (.advances slot.scope event) r' ∈ v.trace)
    (hexcl : ∀ t u s, appending t v'.trace = some s → appending u v'.trace = some s → t = u) : Audited v' where
  marked u s n r hmem := by
    rw [htrace] at hmem
    rcases List.mem_cons.1 hmem with heq | hmem
    · exact hmark u s n r heq.symm
    · obtain ⟨m, hm, hle⟩ := h.marked u s n r hmem
      obtain ⟨m', hm', hle'⟩ := hworld s m hm
      exact ⟨m', hm', le_trans (Unsigned.le_def.1 hle) hle'⟩
  agree u u' k k' slot p p' r r' hmem hmem' := by
    rw [htrace] at hmem hmem'
    rcases List.mem_cons.1 hmem with heq | hmem <;> rcases List.mem_cons.1 hmem' with heq' | hmem'
    · cases heq.trans heq'.symm
      rfl
    · exact ((hseal u k slot p r heq.symm).1 u' k' p' r' hmem').symm
    · exact (hseal u' k' slot p' r' heq'.symm).1 u k p r hmem
    · exact h.agree u u' k k' slot p p' r r' hmem hmem'
  checked u k slot p r hmem := by
    rw [htrace] at hmem ⊢
    have hold : ∀ event, (∃ r', .did u (.advances slot.scope event) r' ∈ v.trace) →
        ∃ r', .did u (.advances slot.scope event) r' ∈ l :: v.trace :=
      fun event ⟨r', hr'⟩ => ⟨r', List.mem_cons_of_mem _ hr'⟩
    rcases List.mem_cons.1 hmem with heq | hmem
    · obtain ⟨-, event, hp, hseq, hr⟩ := hseal u k slot p r heq.symm
      exact ⟨event, hp, hseq, hold event hr⟩
    · obtain ⟨event, hp, hseq, hr⟩ := h.checked u k slot p r hmem
      exact ⟨event, hp, hseq, hold event hr⟩
  exclusive := hexcl

lemma Audited.exclusive_of (h : Audited v) (hframe : ∀ u, u ≠ t → appending u v'.trace = appending u v.trace)
    (hown : ∀ s, appending t v'.trace = some s → ∀ u, u ≠ t → appending u v.trace ≠ some s) :
    ∀ u u' s, appending u v'.trace = some s → appending u' v'.trace = some s → u = u' := by
  intro u u' s hu hu'
  rcases eq_or_ne u t with heq | hne <;> rcases eq_or_ne u' t with heq' | hne'
  · exact heq.trans heq'.symm
  · exact absurd (hframe u' hne' ▸ hu') (hown s (heq ▸ hu) u' hne')
  · exact absurd (hframe u hne ▸ hu) (hown s (heq' ▸ hu') u hne)
  · exact h.exclusive u u' s (hframe u hne ▸ hu) (hframe u' hne' ▸ hu')

lemma Audited.quiet (h : Audited v)
    (htrace : v'.trace = l :: v.trace) (hworld : v'.world = v.world)
    (hl : (∀ u s n r, l ≠ .did u (.insertLast s n) r) ∧ ∀ u k slot p r, l ≠ .did u (.sealAtRest k slot p) r)
    (hframe : ∀ u, u ≠ t → appending u v'.trace = appending u v.trace)
    (hown : ∀ s, appending t v'.trace = some s → ∀ u, u ≠ t → appending u v.trace ≠ some s) : Audited v' :=
  h.cons htrace (fun _ n hn => ⟨n, hworld ▸ hn, Nat.le_refl _⟩)
    (fun u s n r heq => absurd heq (hl.1 u s n r)) (fun u k slot p r heq => absurd heq (hl.2 u k slot p r))
    (h.exclusive_of hframe hown)

omit [Serde ExecutionAuditEvent] in
lemma appending_did_self (o : Op) (r : o.Ans) (w : Marks) :
    appending t (v.did t o r w).trace = o.stream? := if_pos rfl

omit [Serde ExecutionAuditEvent] in
lemma appending_did_of_ne (hne : u ≠ t) (o : Op) (r : o.Ans) (w : Marks) :
    appending u (v.did t o r w).trace = appending u v.trace := if_neg hne.symm

lemma holds_of_inside {o : Op} {r : o.Ans} (hinv : discipline.inv v)
    (hK : Orderly v.trace → Holds t stream event v) (ho : o.stream? = some stream)
    (hins : ∀ s n, o ≠ .insertLast s n)
    (hseal : ∀ k slot p, o = .sealAtRest k slot p →
      slot.sequence = event.sequence ∧ Serde.toVec event = some p) :
    (discipline.inv (v.did t o r v.world) ∧ discipline.may t v (v.did t o r v.world)) ∧
      (Orderly (v.did t o r v.world).trace → Holds t stream event (v.did t o r v.world)) := by
  refine ⟨⟨fun hord => ?_, .inside o r stream ho fun h => (hK h).appending⟩, fun hord => ?_⟩
  · have hold := hK hord.tail
    refine (hinv hord.tail).cons rfl (fun s n hn => ⟨n, hn, Nat.le_refl _⟩) ?_ ?_ ?_
    · rintro u s n r' heq
      cases heq
      exact absurd rfl (hins s n)
    · rintro u k slot p r' heq
      cases heq
      obtain ⟨hseq, hp⟩ := hseal k slot p rfl
      cases ho
      refine ⟨fun u' k' p' r'' hmem => ?_, event, hp, hseq.symm, hold.checked⟩
      exact Option.some.inj ((hold.sealed u' k' slot p' r'' hmem rfl hseq).symm.trans hp)
    · refine (hinv hord.tail).exclusive_of (t := t) (fun u hne => appending_did_of_ne hne _ _ _) ?_
      intro s hs u hne hu
      rw [appending_did_self, ho] at hs
      cases hs
      exact hne ((hinv hord.tail).exclusive u t _ hu hold.appending)
  · have hold := hK hord.tail
    refine hold.cons rfl ((appending_did_self o r _).trans (ho.trans hold.appending.symm)) rfl ?_
    rintro u k slot p r' heq - hseq
    cases heq
    exact (hseal k slot p rfl).2

variable [Sha256] [Aead]

lemma stable_holds : discipline.Stable host t fun v => Orderly v.trace → Holds t stream event v := by
  intro v v' hinv hP henv ho
  cases henv with
  | start c hne _ => exact (hP ho.tail).cons rfl rfl rfl nofun
  | outside hw _ => cases hw
  | @other _ u hne hmay hinv' =>
    obtain ⟨l, hl, hframe⟩ := Moves.trace hmay
    have ho' : Orderly v.trace := (hl ▸ ho : Orderly (l :: v.trace)).tail
    have hold := hP ho'
    have hopen := hframe t hne.symm
    have hexcl := (hinv ho').exclusive
    cases hmay with
    | currentKey r => exact hold.cons rfl hopen rfl nofun
    | advances s e r => exact hold.cons rfl hopen rfl nofun
    | returned c a => exact hold.cons rfl hopen rfl nofun
    | cancelled c => exact hold.cons rfl hopen rfl nofun
    | inside o r s hs hu =>
      refine hold.cons rfl hopen rfl fun u' k slot p r' heq hscope _ => ?_
      cases heq
      cases hs
      exact absurd (hexcl u t _ (hu ho') (hscope ▸ hold.appending)) hne
    | insertLast s n r hu =>
      have hs : stream ≠ s := by
        rintro rfl
        exact hne (hexcl u t _ (hu ho') hold.appending)
      exact hold.cons rfl hopen (Function.update_of_ne hs _ _) nofun

lemma holds_of_advances (hinv : discipline.inv v) {r : Bool}
    (hw : host.handle t (.advances stream event) v.world r w) :
    (discipline.inv (v.did t (.advances stream event) r w) ∧
      discipline.may t v (v.did t (.advances stream event) r w)) ∧
    (r = true → Orderly (v.did t (.advances stream event) r w).trace →
      Holds t stream event (v.did t (.advances stream event) r w)) := by
  obtain ⟨hr, rfl⟩ := hw
  refine ⟨⟨fun ho => ?_, .advances stream event r⟩, fun htrue ho => ?_⟩
  · have horder := ho v.trace t stream event r (List.suffix_refl _)
    refine (hinv ho.tail).quiet (t := t) rfl rfl ⟨nofun, nofun⟩
      (fun u hne => appending_did_of_ne hne _ _ _) fun s hs u hne => ?_
    cases (appending_did_self _ _ _).symm.trans hs
    exact horder.alone u hne
  · have horder := ho v.trace t stream event r (List.suffix_refl _)
    have hbelow : ∀ m, v.world stream = some m → m < event.sequence := by
      intro m hm
      rw [htrue, hm] at hr
      exact of_decide_eq_true hr.symm
    refine ⟨appending_did_self _ _ _, hbelow, ?_, ⟨r, List.mem_cons_self ..⟩⟩
    intro u k slot p r' hmem hscope hseq
    rcases List.mem_cons.1 hmem with heq | hmem
    · cases heq
    obtain ⟨event', hp, hseq', r'', hchecked⟩ := (hinv ho.tail).checked u k slot p r' hmem
    by_cases heq : event' = event
    · exact heq ▸ hp
    · -- another event under this sequence was acknowledged, so the mark is not below it
      obtain ⟨u', r₁, hins⟩ :=
        horder.settled u event' r'' (hscope ▸ hchecked) (hseq'.trans hseq) heq
      obtain ⟨m, hm, hle⟩ := (hinv ho.tail).marked u' stream event.sequence r₁ hins
      exact absurd (hbelow m hm) (Nat.not_lt.2 hle)

lemma inv_of_insertLast (hinv : discipline.inv v) (hK : Orderly v.trace → Holds t stream event v)
    {r : Unit} (hw : host.handle t (.insertLast stream event.sequence) v.world r w) :
    discipline.inv (v.did t (.insertLast stream event.sequence) r w) ∧
      discipline.may t v (v.did t (.insertLast stream event.sequence) r w) := by
  cases hw
  refine ⟨fun hord => ?_, .insertLast stream event.sequence r fun h => (hK h).appending⟩
  have hold := hK hord.tail
  refine (hinv hord.tail).cons rfl ?_ ?_ nofun ?_
  · intro s n hn
    rcases eq_or_ne s stream with rfl | hne
    · exact ⟨event.sequence, Function.update_self .., Nat.le_of_lt (hold.below n hn)⟩
    · exact ⟨n, (Function.update_of_ne hne _ _).trans hn, Nat.le_refl _⟩
  · rintro u s n r' heq
    cases heq
    exact ⟨event.sequence, Function.update_self .., Nat.le_refl _⟩
  · refine (hinv hord.tail).exclusive_of (t := t) (fun u hne => appending_did_of_ne hne _ _ _) ?_
    intro s hs
    cases (appending_did_self (.insertLast stream event.sequence) r _).symm.trans hs

lemma sat_appendUnder {material : AuditKeyMaterial} :
    discipline.Sat host t (fun _ _ => True) (appendUnder material stream event bucket).run v := by
  have hstable : discipline.Stable host t fun v => Orderly v.trace → Holds t stream event v :=
    stable_holds
  refine Sat.request (R := fun (r : Bool) v => r = true → Orderly v.trace → Holds t stream event v)
    (fun hinv r w hw => holds_of_advances hinv hw)
    (fun r v v' hinv hP henv htrue => hstable hinv (hP htrue) henv) fun r v _ hadv => ?_
  refine Sat.check (fun _ hr => ?_) fun _ _ => trivial
  change Bool at r
  have htrue := ensure_eq_ok.1 hr
  have hK := hadv htrue
  refine Sat.check (fun payload hp => ?_) fun _ _ => trivial
  have hp := okOr_eq_ok.1 hp
  refine Sat.request (R := fun _ v => Orderly v.trace → Holds t stream event v) ?_
    (fun _ => hstable) fun answer v _ hK => ?_
  · rintro hinv r w ⟨-, rfl⟩
    refine holds_of_inside hinv hK rfl nofun ?_
    rintro k slot p heq
    cases heq
    exact ⟨rfl, hp⟩
  refine Sat.check (fun ciphertext _ => ?_) fun _ _ => trivial
  refine Sat.check (fun _ _ => ?_) fun _ _ => trivial
  refine Sat.request (R := fun _ v => Orderly v.trace → Holds t stream event v) ?_
    (fun _ => hstable) fun stored v _ hK => ?_
  · rintro hinv r w rfl
    exact holds_of_inside hinv hK rfl nofun nofun
  refine Sat.check (fun _ _ => ?_) fun _ _ => trivial
  exact Sat.request (R := fun _ _ => True)
    (fun hinv r w hw => ⟨inv_of_insertLast hinv hK hw, trivial⟩) (fun _ _ _ _ _ _ => trivial)
    fun _ _ _ _ => trivial

lemma sat_append :
    discipline.Sat host t (fun _ _ => True) (append event bucket).run v := by
  refine Sat.check (fun _ _ => ?_) fun _ _ => trivial
  refine Sat.request (R := fun _ _ => True) ?_ (fun _ _ _ _ _ _ => trivial) fun answer v _ _ => ?_
  · rintro hinv r w rfl
    refine ⟨⟨fun ho => ?_, .currentKey r⟩, trivial⟩
    refine (hinv ho.tail).quiet (t := t) rfl rfl ⟨nofun, nofun⟩
      (fun u hne => appending_did_of_ne hne _ _ _) fun s hs => ?_
    cases (appending_did_self .currentKey r _).symm.trans hs
  · exact Sat.check (fun _ _ => sat_appendUnder) fun _ _ => trivial

lemma sat_appendAll (events : List ExecutionAuditEvent) (hv : discipline.inv v) :
    discipline.Sat host t (fun _ _ => True) (appendAll bucket events).run v := by
  induction events generalizing v with
  | nil => trivial
  | cons event events ih =>
    exact Sat.seq hv sat_append (fun _ _ hv' _ => ih hv') fun _ _ _ _ => trivial

lemma sat_body (c : Call) (hv : discipline.inv v) : discipline.Sat host t (fun _ _ => True) c.body v := by
  cases c with
  | append event bucket =>
    exact Sat.seq hv sat_append (fun _ _ _ _ => trivial) fun _ _ _ _ => trivial
  | appendLifecycle events bucket =>
    exact Sat.check (fun _ _ => sat_appendAll events hv) fun _ _ => trivial

omit [Sha256] [Aead] in
lemma inv_start (hinv : discipline.inv v) (c : Call) : discipline.inv (v.start t c) :=
  fun ho => (hinv ho.tail).cons (l := .started t c) rfl (fun _ n hn => ⟨n, hn, Nat.le_refl _⟩) nofun nofun
    (hinv ho.tail).exclusive

lemma sound : discipline.Sound host Call.body fun _ _ _ _ => True where
  start c hinv _ := inv_start hinv c
  outside _ hw := hw.elim
  cancel {v} t c hinv := by
    refine ⟨fun ho => ?_, .cancelled c⟩
    refine (hinv ho.tail).quiet (t := t) rfl rfl ⟨nofun, nofun⟩ (fun u hne => if_neg hne.symm) ?_
    intro s hs
    cases (if_pos rfl : appending t (v.cancel t c v.world).trace = none).symm.trans hs
  finish {v t c a} hinv _ := by
    refine ⟨fun ho => ?_, .returned c a⟩
    refine (hinv ho.tail).quiet (t := t) rfl rfl ⟨nofun, nofun⟩ (fun u hne => if_neg hne.symm) ?_
    intro s hs
    cases (if_pos rfl : appending t (v.finish t c a).trace = none).symm.trans hs
  body _ c hinv _ henv := sat_body c (Discipline.inv_of_env (inv_start hinv c) henv)

end

section

variable [Sha256] [Aead] [Serde ExecutionAuditEvent]

def writerPool : Code Call Op Op.Ans (Except AuditError Unit) := Code.ofProg Call.body

/-- In an orderly run two records sealed under one slot are equal. -/
theorem audit_seals_agree {σ : Config Marks Call Op Op.Ans (Except AuditError Unit) writerPool.State}
    (h : Reach host writerPool (fun _ => none) σ) (horder : Orderly σ.trace) {t t' : Tid}
    {k k' : SealKey} {slot : SealSlot} {p p' : List UInt8} {r r' : Except CryptoError (List UInt8)}
    (hseal : .did t (.sealAtRest k slot p) r ∈ σ.trace)
    (hseal' : .did t' (.sealAtRest k' slot p') r' ∈ σ.trace) : p = p' := by
  have hinit : discipline.inv ⟨fun _ => none, []⟩ := fun _ => ⟨nofun, nofun, nofun, nofun⟩
  obtain ⟨hinv, -⟩ := sound.reach hinit h
  exact (hinv horder).agree t t' k k' slot p p' r r' hseal hseal'

lemma plays_append_lost {t : Tid} {w : Marks} {material : AuditKeyMaterial}
    {event : ExecutionAuditEvent} {bucket : CreatedBucket} {stream payload ciphertext : List UInt8}
    (hvalid : event.validate = .ok ())
    (hstream : streamBlindIndex material.blindIndex event.chain event.intentId = stream)
    (hmark : w stream = none) (hpayload : Serde.toVec event = some payload)
    (hct : PrivateExecution.sealAtRest material.sealKey (slot material stream event) payload =
      .ok ciphertext)
    (hrecord : (record stream event ciphertext bucket).validate = .ok ()) :
    Plays host t (Call.append event bucket).body w
      [⟨.currentKey, .ok material⟩, ⟨.advances stream event, true⟩,
        ⟨.sealAtRest material.sealKey (slot material stream event) payload, .ok ciphertext⟩,
        ⟨.appendEvent (record stream event ciphertext bucket), .error .unavailable⟩]
      (.pure (.error .storageUnavailable)) w := by
  subst hstream
  refine .fail (.check hvalid (.request rfl (.check rfl ?_)))
  refine .request ⟨by rw [hmark]; rfl, rfl⟩ (.check rfl (.check (by rw [hpayload]; rfl) ?_))
  refine .request ⟨hct.symm, rfl⟩ (.check rfl (.check (by rw [hrecord]; rfl) ?_))
  exact .request rfl (.check_error rfl)

end

/-- An orderly trace in which one event is the only one ever appended to its stream and nobody is
appending now. -/
structure Retrying (stream : List UInt8) (event : ExecutionAuditEvent) (trace : Trace) : Prop where
  orderly : Orderly trace
  idle : ∀ u, appending u trace = none
  same : ∀ u event' r, .did u (.advances stream event') r ∈ trace → event' = event

lemma Retrying.nil {stream : List UInt8} {event : ExecutionAuditEvent} : Retrying stream event [] :=
  ⟨.nil, fun _ => rfl, fun _ _ _ h => absurd h List.not_mem_nil⟩

lemma Retrying.lost {t : Tid} {trace : Trace} {c : Call} {a : Except AuditError Unit}
    {stream payload : List UInt8} {event : ExecutionAuditEvent} {key : SealKey} {slot : SealSlot}
    {record : OpaqueEventRecord} {r₀ : Except AuditError AuditKeyMaterial} {r₁ : Bool}
    {r₂ : Except CryptoError (List UInt8)} {r₃ : Except StorageError Unit} (h : Retrying stream event trace) :
    Retrying stream event (.returned t c a :: .did t (.appendEvent record) r₃ ::
      .did t (.sealAtRest key slot payload) r₂ :: .did t (.advances stream event) r₁ ::
      .did t .currentKey r₀ :: .started t c :: trace) where
  orderly := by
    have hin : InOrder t stream event (.did t .currentKey r₀ :: .started t c :: trace) := by
      refine ⟨fun u hne => ?_, ?_⟩
      · simp only [appending, if_neg hne.symm, h.idle, ne_eq, reduceCtorEq, not_false_eq_true]
      · rintro u event' r (_ | ⟨_, _ | ⟨_, hmem⟩⟩) - hne
        exact absurd (h.same u event' r hmem) hne
    have hkey : Orderly (.did t .currentKey r₀ :: .started t c :: trace) :=
      (h.orderly.cons fun _ _ _ _ heq => by cases heq).cons fun _ _ _ _ heq => by cases heq
    have hcheck : Orderly (.did t (.advances stream event) r₁ :: .did t .currentKey r₀ ::
        .started t c :: trace) := hkey.cons fun _ _ _ _ heq => by cases heq; exact hin
    exact ((hcheck.cons fun _ _ _ _ heq => by cases heq).cons fun _ _ _ _ heq => by cases heq).cons
      fun _ _ _ _ heq => by cases heq
  idle u := by
    rcases eq_or_ne t u with heq | hne
    · exact if_pos heq
    · simp only [appending, if_neg hne, h.idle]
  same := by
    rintro u event' r (_ | ⟨_, _ | ⟨_, _ | ⟨_, _ | ⟨_, _ | ⟨_, _ | ⟨_, hmem⟩⟩⟩⟩⟩⟩)
    · rfl
    · exact h.same u event' r hmem

/-! ### A concrete event

A swap that failed before submission, recorded under sequence 1 of its stream. -/

namespace AuditSample

attribute [local instance] Sha256.sha2 XChaCha.aead

def usdc : AssetId := ⟨.base, "0xusdc"⟩

def weth : AssetId := ⟨.base, "0xweth"⟩

def preview : ExecutionPreview where
  intentId := .lit "intent-1"
  chain := .base
  tokenIn := usdc
  tokenOut := weth
  side := .buy
  simulatedNetInput := ⟨usdc, .lit 1000⟩
  simulatedNetOutput := ⟨weth, .lit 7⟩
  grossOutput := ⟨weth, .lit 7⟩
  costComponents := ⟨none, none, none, none⟩
  localStateFreshness := .fresh

def event (attempt : U32) : ExecutionAuditEvent where
  schemaVersion := auditSchemaVersion
  sequence := .lit 1
  intentId := .lit "intent-1"
  idempotencyKey := .lit "key-1"
  userId := .lit "user-1"
  walletRef := .lit "wallet-1"
  chain := .base
  source := .web
  tokenIn := usdc
  tokenOut := weth
  side := .buy
  amountType := .inputAssetAtomic
  amount := .lit 1000
  orderType := .market
  limitPrice := none
  risk := ⟨.lit 0, .lit 0, .lit 100, .lit 50, none⟩
  route := ⟨[⟨"venue", "pool", usdc, weth, .lit 1000, .lit 7⟩],
    ⟨weth, .lit 7⟩, ⟨.lit 1, .lit 1, .lit 1⟩⟩
  preview := preview
  revalidation := none
  signing := ⟨Vector.replicate 32 0, Vector.replicate 32 0, .lit 1, none⟩
  relay := ⟨.failedBeforeSubmit, none, attempt⟩
  policy := ⟨.lit 1, .lit 1, none⟩
  executionId := none

def first : ExecutionAuditEvent := event (.lit 1)

def second : ExecutionAuditEvent := event (.lit 2)

lemma json_injective : ∀ a ∈ [first, second], ∀ b ∈ [first, second], json a = json b → a = b := by
  decide +kernel

@[reducible] def serde : Serde ExecutionAuditEvent := Serde.ofList [first, second] json_injective

attribute [local instance] serde

def material : AuditKeyMaterial :=
  ⟨Vector.replicate 16 1, ⟨Vector.replicate 32 2⟩, ⟨Vector.replicate 32 3⟩⟩

def stream : List UInt8 := streamBlindIndex material.blindIndex .base preview.intentId

def bucket : CreatedBucket := ⟨I64.zero, le_rfl⟩

lemma events_valid : ∀ event ∈ [first, second], event.validate = .ok () ∧
    (json event).length ≤ XChaCha.maxLength ∧ event.sequence.val ≠ 0 ∧
    event.schemaVersion.val ≠ 0 ∧ event.chain = .base ∧ event.intentId = preview.intentId := by
  decide +kernel

lemma plays_lost (event : ExecutionAuditEvent) (hevent : event ∈ [first, second]) (t : Tid) :
    ∃ ciphertext, Plays host t (Call.append event bucket).body (fun _ => none)
      [⟨.currentKey, .ok material⟩, ⟨.advances stream event, true⟩,
        ⟨.sealAtRest material.sealKey (slot material stream event) (json event), .ok ciphertext⟩,
        ⟨.appendEvent (record stream event ciphertext bucket), .error .unavailable⟩]
      (.pure (.error .storageUnavailable)) fun _ => none := by
  obtain ⟨hvalid, hlen, hsequence, hschema, hchain, hintent⟩ := events_valid event hevent
  obtain ⟨ciphertext, hct⟩ :=
    XChaCha.exists_sealAtRest material.sealKey (slot material stream event) hlen
  have hstream : streamBlindIndex material.blindIndex event.chain event.intentId = stream := by
    rw [hchain, hintent, stream]
  have hrecord : (record stream event ciphertext bucket).validate = .ok () :=
    validate_record (hstream ▸ streamBlindIndex_ne_nil _ _ _) hsequence hschema (sealAtRest_ne_nil hct)
  exact ⟨ciphertext, plays_append_lost hvalid hstream rfl (if_pos hevent) hct hrecord⟩

end AuditSample

section

attribute [local instance] Sha256.sha2 XChaCha.aead AuditSample.serde

open AuditSample in
lemma lost_twice (event : ExecutionAuditEvent) (hevent : event ∈ [first, second]) :
    ∃ (σ : Config Marks Call Op Op.Ans (Except AuditError Unit) writerPool.State) (t : Tid)
      (c c' : List UInt8), Reach host writerPool (fun _ => none) σ ∧
      .did 0 (.sealAtRest material.sealKey (slot material stream first) (json first)) (.ok c) ∈ σ.trace ∧
      .did t (.sealAtRest material.sealKey (slot material stream event) (json event)) (.ok c') ∈ σ.trace ∧
      (event = first → Orderly σ.trace) := by
  obtain ⟨c, hfirst⟩ := plays_lost first (by simp) 0
  have hboot : Reach host writerPool (fun _ => none) (.boot fun _ => none) := .refl
  obtain ⟨σ, hσ, hworld, htrace⟩ := hboot.call hfirst
  obtain ⟨c', hsecond⟩ := plays_lost event hevent σ.next
  rw [← hworld] at hsecond
  obtain ⟨τ, hτ, -, htrace'⟩ := hσ.call hsecond
  refine ⟨τ, σ.next, c, c', hτ, ?_, ?_, ?_⟩ <;> rw [htrace']
  · rw [htrace]
    exact did_mem_call.2 (.inr (did_mem_call.2 (.inl ⟨rfl, .tail _ (.tail _ (.head _))⟩)))
  · exact did_mem_call.2 (.inl ⟨rfl, .tail _ (.tail _ (.head _))⟩)
  · rintro rfl
    have hnil : Retrying stream first [] := .nil
    rw [htrace]
    exact hnil.lost.lost.orderly

/-- The nonce is reused for the sample events: the store loses the append of the first one, the mark
stays, and the second one is sealed under the same sequence. -/
theorem audit_reseals_after_lost_append :
    ∃ (σ : Config Marks Call Op Op.Ans (Except AuditError Unit) writerPool.State) (t t' : Tid)
      (k k' : SealKey) (slot : SealSlot) (p p' : List UInt8) (r r' : Except CryptoError (List UInt8)),
      Reach host writerPool (fun _ => none) σ ∧
      .did t (.sealAtRest k slot p) r ∈ σ.trace ∧ .did t' (.sealAtRest k' slot p') r' ∈ σ.trace ∧ p ≠ p' := by
  obtain ⟨σ, t, c, c', hσ, hfirst, hsecond, -⟩ := lost_twice AuditSample.second (by simp)
  exact ⟨σ, 0, t, _, _, _, _, _, _, _, hσ, hfirst, hsecond, by decide +kernel⟩

/-- The first event, lost by the store and appended again by the same request, is sealed twice
alike. -/
theorem retried_event_seals_agree :
    ∃ (σ : Config Marks Call Op Op.Ans (Except AuditError Unit) writerPool.State) (t t' : Tid)
      (k : SealKey) (slot : SealSlot) (p p' : List UInt8) (r r' : Except CryptoError (List UInt8)),
      Reach host writerPool (fun _ => none) σ ∧ Orderly σ.trace ∧
      .did t (.sealAtRest k slot p) r ∈ σ.trace ∧ .did t' (.sealAtRest k slot p') r' ∈ σ.trace ∧ p = p' := by
  obtain ⟨σ, t, c, c', hσ, hfirst, hagain, horder⟩ := lost_twice AuditSample.first (by simp)
  have horder := horder rfl
  exact ⟨σ, 0, t, _, _, _, _, _, _, hσ, horder, hfirst, hagain, audit_seals_agree hσ horder hfirst hagain⟩

end

end Audit

end PrivateExecution
