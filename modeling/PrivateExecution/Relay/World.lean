import PrivateExecution.Async.Pool
import PrivateExecution.Relay.Store
import PrivateExecution.Relay.Breaker

/-!
# The operations of the relay and the world they act on

Everything `ExecutionRelay::execute` and `reconcile` do that another caller can see is a `RelayOp`:
a call on the attempt store, the signer, the payload source or the chain adapter, and each critical
section on the relay's own breakers and journal. The world (`RelayWorld`) holds the one durable
store, the process-local state of every relay instance, and the admission guards each running call
holds, which are dropped with it.
-/

namespace PrivateExecution

open Async

variable [Sha256]

/-! ### Operations -/

inductive BreakerRef where
  | signing
  | chain (chain : ChainId)
deriving DecidableEq

inductive GuardResult where
  | success
  | failure (nowMs : I64)

abbrev RelayId := ℕ

/-- One atomic operation of a running call. The binding of `sign`, `submit`, `query` and
`reconcile` is the attempt on whose behalf the request is made; the signer and the adapter see the
request only. -/
inductive RelayOp where
  | isTradingEnabled (relay : RelayId)
  | adapterHealth (nowMs : I64)
  | breakerObserve (relay : RelayId) (chain : ChainId) (health : Health) (nowMs : I64)
  | breakerCheckAllowed (relay : RelayId) (chain : ChainId) (nowMs : I64)
  | payloadToSign (key : IdempotencyKey) (intentId : IntentId)
  | store (call : StoreCall)
  | admitProbe (relay : RelayId) (breaker : BreakerRef) (nowMs : I64)
  | resolveGuard (relay : RelayId) (breaker : BreakerRef) (result : GuardResult)
  | sign (binding : AttemptBinding) (request : SigningRequest)
  | signedPayload (signed : SignedExecutionRef)
  | journalInsert (relay : RelayId) (binding : AttemptBinding) (request : SubmitRequest)
  | journalSetChainReference (relay : RelayId) (binding : AttemptBinding) (reference : String)
  | journalGet (relay : RelayId) (binding : AttemptBinding)
  | submit (binding : AttemptBinding) (request : SubmitRequest)
  | query (binding : AttemptBinding) (request : SubmitRequest) (nowMs : I64)
  | reconcile (binding : AttemptBinding) (request : SubmitRequest) (nowMs : I64)

/-- The answers. `admitProbe` answers whether a guard was handed out. -/
def RelayOp.Ans : RelayOp → Type
  | .isTradingEnabled _ | .breakerCheckAllowed _ _ _ | .admitProbe _ _ _ => Bool
  | .adapterHealth _ => Health
  | .payloadToSign _ _ | .signedPayload _ => Except RelayError SignedPayload
  | .store c => Except RelayError c.Result
  | .sign _ _ => Except RelayError SignedExecutionRef
  | .journalGet _ _ => Option SubmitRequest
  | .submit _ _ => Except RelayError SubmissionReceipt
  | .query _ _ _ | .reconcile _ _ _ => Except RelayError ChainObservation
  | _ => Unit

abbrev RelayProg := Prog RelayOp RelayOp.Ans

/-! ### The world -/

structure RelayInstance where
  tradingEnabled : Bool
  chainPolicy : BreakerPolicy
  chainEntry : ChainId → BreakerEntry
  signingPolicy : BreakerPolicy
  signingEntry : BreakerEntry
  journal : DurableKey → Option SubmitRequest

namespace RelayInstance

def boot (tradingEnabled : Bool) (chainPolicy signingPolicy : BreakerPolicy) : RelayInstance :=
  ⟨tradingEnabled, chainPolicy, fun _ => .default, signingPolicy, .default, fun _ => none⟩

variable (x : RelayInstance)

def policy : BreakerRef → BreakerPolicy
  | .signing => x.signingPolicy
  | .chain _ => x.chainPolicy

def entry : BreakerRef → BreakerEntry
  | .signing => x.signingEntry
  | .chain c => x.chainEntry c

def setEntry (b : BreakerRef) (e : BreakerEntry) : RelayInstance :=
  match b with
  | .signing => { x with signingEntry := e }
  | .chain c => { x with chainEntry := Function.update x.chainEntry c e }

end RelayInstance

structure HeldGuard where
  relay : RelayId
  breaker : BreakerRef
  guard : ProbeGuard

structure RelayWorld where
  attempts : Attempts
  relays : RelayId → RelayInstance
  guards : Tid → List HeldGuard

/-- The trading switch and the two breaker policies each relay is constructed with. -/
abbrev RelaySetup := RelayId → Bool × BreakerPolicy × BreakerPolicy

namespace RelayWorld

def boot (relays : RelaySetup) : RelayWorld where
  attempts := fun _ => none
  relays i := .boot (relays i).1 (relays i).2.1 (relays i).2.2
  guards := fun _ => []

variable (w : RelayWorld)

variable (t : Tid) (i : RelayId) (b : BreakerRef) (f : BreakerPolicy → BreakerEntry → BreakerEntry)

def updateRelay (f : RelayInstance → RelayInstance) : RelayWorld :=
  { w with relays := Function.update w.relays i (f (w.relays i)) }

def updateEntry : RelayWorld :=
  w.updateRelay i fun x => x.setEntry b (f (x.policy b) (x.entry b))

def admitProbe (nowMs : I64) : Bool × RelayWorld :=
  let answer := ((w.relays i).entry b).admitProbe nowMs
  let w' := w.updateEntry i b fun _ _ => answer.2
  match answer.1 with
  | none => (false, w')
  | some g => (true, { w' with guards := Function.update w'.guards t (⟨i, b, g⟩ :: w'.guards t) })

def resolve (result : GuardResult) : RelayWorld :=
  let w' := w.updateEntry i b fun p e => match result with
    | .success => e.recordSuccess
    | .failure nowMs => e.recordFailure p nowMs
  { w' with
    guards := Function.update w'.guards t
      ((w'.guards t).eraseP fun g => g.relay = i ∧ g.breaker = b) }

def dropGuards : RelayWorld :=
  let w' := (w.guards t).foldl (fun w g => w.updateEntry g.relay g.breaker fun p e =>
    e.dropGuard p g.guard) w
  { w' with guards := Function.update w'.guards t [] }

@[simp] lemma updateEntry_attempts : (w.updateEntry i b f).attempts = w.attempts :=
  rfl

@[simp] lemma admitProbe_attempts (nowMs : I64) : (w.admitProbe t i b nowMs).2.attempts = w.attempts := by
  unfold admitProbe
  rcases ((w.relays i).entry b).admitProbe nowMs with ⟨_ | g, e⟩ <;> rfl

@[simp] lemma resolve_attempts (result : GuardResult) : (w.resolve t i b result).attempts = w.attempts := rfl

@[simp] lemma dropGuards_attempts : (w.dropGuards t).attempts = w.attempts := by
  have h : ∀ (gs : List HeldGuard) (w : RelayWorld), (gs.foldl (fun w g =>
      w.updateEntry g.relay g.breaker fun p e => e.dropGuard p g.guard) w).attempts = w.attempts := by
    intro gs
    induction gs with
    | nil => intro w; rfl
    | cons g gs ih => intro w; exact ih _
  exact h _ _

end RelayWorld

/-! ### The host -/

/-- How a call on the store is answered. With `faults` any call may fail with any error, whether
or not it took effect. -/
inductive StoreAnswer (faults : Bool) (s : Attempts) (c : StoreCall) :
    Except RelayError c.Result → Attempts → Prop where
  | served : StoreAnswer faults s c (DurableStore.run s c).1 (DurableStore.run s c).2
  | failed (e : RelayError) (hf : faults = true) : StoreAnswer faults s c (.error e) s
  | lost (e : RelayError) (hf : faults = true) :
      StoreAnswer faults s c (.error e) (DurableStore.run s c).2

lemma StoreAnswer.served_of_ok {faults : Bool} {s s' : Attempts} {c : StoreCall}
    {r : Except RelayError c.Result} {x : c.Result} (h : StoreAnswer faults s c r s')
    (hr : r = .ok x) : (DurableStore.run s c).1 = .ok x ∧ s' = (DurableStore.run s c).2 := by
  cases h with
  | served => exact ⟨hr, rfl⟩
  | failed => cases hr
  | lost => cases hr

def relayHandle (faults : Bool) (t : Tid) : (o : RelayOp) → RelayWorld → o.Ans → RelayWorld → Prop
  | .isTradingEnabled i, w, r, w' => r = (w.relays i).tradingEnabled ∧ w' = w
  | .adapterHealth _, w, _, w' => w' = w
  | .breakerObserve i c h now, w, _, w' => w' = w.updateEntry i (.chain c) fun p e => e.observe p h now
  | .breakerCheckAllowed i c now, w, r, w' => r = ((w.relays i).chainEntry c).checkAllowed now ∧ w' = w
  | .payloadToSign _ _, w, _, w' => w' = w
  | .store c, w, r, w' => ∃ s, StoreAnswer faults w.attempts c r s ∧ w' = { w with attempts := s }
  | .admitProbe i b now, w, r, w' => r = (w.admitProbe t i b now).1 ∧ w' = (w.admitProbe t i b now).2
  | .resolveGuard i b result, w, _, w' => w' = w.resolve t i b result
  | .sign _ _, w, _, w' => w' = w
  | .signedPayload _, w, _, w' => w' = w
  | .journalInsert i b request, w, _, w' => w' = w.updateRelay i fun x =>
      { x with journal := Function.update x.journal b.key (some request) }
  | .journalSetChainReference i b reference, w, _, w' => w' = w.updateRelay i fun x =>
      { x with
        journal := Function.update x.journal b.key
          ((x.journal b.key).map (·.withChainReference reference)) }
  | .journalGet i b, w, r, w' => r = (w.relays i).journal b.key ∧ w' = w
  | .submit _ _, w, _, w' => w' = w
  | .query _ _ _, w, _, w' => w' = w
  | .reconcile _ _ _, w, _, w' => w' = w

/-- The relay's surroundings: the kill switch of an instance may be thrown at any time. -/
def relayHost (faults : Bool) : Host RelayWorld RelayOp RelayOp.Ans where
  handle := relayHandle faults
  cancel t w := w.dropGuards t
  ambient w w' := ∃ i, w' = w.updateRelay i fun x => { x with tradingEnabled := false }

lemma relayHandle_attempts {faults : Bool} {t : Tid} {o : RelayOp} {w w' : RelayWorld} {r : o.Ans}
    (h : relayHandle faults t o w r w') :
    w'.attempts = w.attempts ∨ ∃ c, o = .store c ∧ w'.attempts = (DurableStore.run w.attempts c).2 := by
  cases o with
  | store c =>
    obtain ⟨s, hs, rfl⟩ := h
    cases hs with
    | served => exact .inr ⟨c, rfl, rfl⟩
    | failed => exact .inl rfl
    | lost => exact .inr ⟨c, rfl, rfl⟩
  | isTradingEnabled | breakerCheckAllowed | journalGet => exact .inl (by rw [h.2])
  | admitProbe => exact .inl (by rw [h.2, RelayWorld.admitProbe_attempts])
  | adapterHealth | breakerObserve | payloadToSign | resolveGuard | sign | signedPayload
  | journalInsert | journalSetChainReference | submit | query | reconcile =>
    obtain rfl := h
    exact .inl rfl

end PrivateExecution
