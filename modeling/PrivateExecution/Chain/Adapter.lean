import PrivateExecution.Async.Pool
import PrivateExecution.Chain.SolanaTransaction
import PrivateExecution.Relay.State

/-!
# Submitting through a chain adapter

`EvmChainSubmissionAdapter::submit` and `SolanaChainSubmissionAdapter::submit`
(`chain-adapters/src/lib.rs`, `chain-adapters/src/solana.rs`) keep an in-process ledger of
admissions per idempotency key. Looking up the key, sending the payload, learning the result and
writing it back are separate steps, with other calls in between; a call may be dropped while it
waits for the result, which leaves its entry in flight for ever.
-/

namespace PrivateExecution

open Async

def SubmissionReceipt.new (reference : String) : Except RelayError SubmissionReceipt :=
  if isBlank reference then .error .adapterUnavailable else .ok ⟨reference⟩

inductive EvmChain where
  | base | ethereum | bnbChain

def EvmChain.chain : EvmChain → ChainId
  | .base => .base
  | .ethereum => .ethereum
  | .bnbChain => .bnbChain

def isBase58 (c : Char) : Bool :=
  c.isAlphanum && !(c = '0' || c = 'O' || c = 'I' || c = 'l')

/-- A base58 text has as many bytes as characters. -/
def isPlausibleSignature (value : String) : Bool :=
  64 ≤ value.toList.length && value.toList.length ≤ 88 && value.toList.all isBase58

def mapSubmitError : ChainAdapterError → RelayError
  | .rejected => .adapterRejected
  | .timeout => .adapterTimeout
  | _ => .adapterUnavailable

inductive SubmitAdmission where
  | inFlight (digest : PayloadDigest)
  | done (digest : PayloadDigest) (reference : String)

abbrev SubmissionLedger := IdempotencyKey → Option SubmitAdmission

section

variable [Sha256]

/-- The steps of a `submit` call that others can see. `admission` looks the key up and, if it is
not there, enters it as in flight; it answers what it found. -/
inductive AdapterOp where
  | admission (request : SubmitRequest)
  | send (request : SubmitRequest)
  | answer (request : SubmitRequest)
  | record (request : SubmitRequest) (reference : String)
  | release (request : SubmitRequest)

def AdapterOp.Ans : AdapterOp → Type
  | .admission _ => Option SubmitAdmission
  | .answer _ => Except ChainAdapterError String
  | _ => Unit

/-- What the ledger does. The transport is not constrained. -/
inductive AdapterHandles (ledger : SubmissionLedger) : (o : AdapterOp) → o.Ans → SubmissionLedger → Prop where
  | admitted (r : SubmitRequest) (h : ledger r.idempotencyKey = none) :
      AdapterHandles ledger (.admission r) (none : Option SubmitAdmission)
        (Function.update ledger r.idempotencyKey (some (.inFlight r.payloadDigest)))
  | refused (r : SubmitRequest) (a : SubmitAdmission) (h : ledger r.idempotencyKey = some a) :
      AdapterHandles ledger (.admission r) (some a) ledger
  | send (r : SubmitRequest) : AdapterHandles ledger (.send r) () ledger
  | answer (r : SubmitRequest) (x : Except ChainAdapterError String) :
      AdapterHandles ledger (.answer r) x ledger
  | record (r : SubmitRequest) (reference : String) : AdapterHandles ledger (.record r reference) ()
      (Function.update ledger r.idempotencyKey (some (.done r.payloadDigest reference)))
  | release (r : SubmitRequest) : AdapterHandles ledger (.release r) ()
      (Function.update ledger r.idempotencyKey none)

/-- The host of an adapter. Dropping a call touches nothing. -/
def adapterHost : Host SubmissionLedger AdapterOp AdapterOp.Ans where
  handle _ o ledger r ledger' := AdapterHandles ledger o r ledger'
  cancel _ ledger := ledger
  ambient _ _ := False

abbrev AdapterProg := Prog AdapterOp AdapterOp.Ans

/-- The answer to a call that finds its key in the ledger. -/
def SubmitAdmission.reply (a : SubmitAdmission) (request : SubmitRequest) :
    Except RelayError SubmissionReceipt :=
  match a with
  | .done existing reference =>
    if existing = request.payloadDigest then SubmissionReceipt.new reference
    else .error .idempotencyConflict
  | .inFlight existing =>
    if existing = request.payloadDigest then .error .adapterUnavailable
    else .error .idempotencyConflict

def adapterStep (o : AdapterOp) : AdapterProg o.Ans := Prog.perform o

def settleSend (acknowledges : String → Bool) (request : SubmitRequest) :
    Except ChainAdapterError String → AdapterProg (Except RelayError SubmissionReceipt)
  | .ok reference =>
    if acknowledges reference then do
      adapterStep (.record request reference)
      return SubmissionReceipt.new reference
    else do
      adapterStep (.release request)
      return .error .adapterUnavailable
  | .error e => do
    adapterStep (.release request)
    return .error (mapSubmitError e)

/-- The common body of the two adapters: `accepts` is what is checked before the ledger is
consulted, `acknowledges` which references count as an acknowledgement. -/
def submitWith (accepts : SubmitRequest → Except RelayError Unit) (acknowledges : String → Bool)
    (request : SubmitRequest) : AdapterProg (Except RelayError SubmissionReceipt) :=
  match accepts request with
  | .error e => return .error e
  | .ok () => do
    let found : Option SubmitAdmission ← adapterStep (.admission request)
    match found with
    | some a => return a.reply request
    | none => do
      adapterStep (.send request)
      let answer : Except ChainAdapterError String ← adapterStep (.answer request)
      settleSend acknowledges request answer

def EvmChainSubmissionAdapter.accepts (chain : EvmChain) (request : SubmitRequest) :
    Except RelayError Unit := do
  ensure (request.chain = chain.chain) .chainMismatch
  ensure (request.payload ≠ []) .signedPayloadEmpty

lemma EvmChainSubmissionAdapter.accepts_eq_ok {chain : EvmChain} {request : SubmitRequest} :
    accepts chain request = .ok () ↔ request.chain = chain.chain := by
  simp [accepts, request.checked.nonempty]

def EvmChainSubmissionAdapter.submit (chain : EvmChain) :
    SubmitRequest → AdapterProg (Except RelayError SubmissionReceipt) :=
  submitWith (accepts chain) fun _ => true

def SolanaChainSubmissionAdapter.accepts (request : SubmitRequest) : Except RelayError Unit := do
  ensure (request.chain = .solana) .chainMismatch
  ensure (request.payload ≠ []) .signedPayloadEmpty
  ensure (validateSolanaTransaction request.payload).isOk .adapterRejected

lemma SolanaChainSubmissionAdapter.accepts_eq_ok {request : SubmitRequest} :
    accepts request = .ok () ↔
      request.chain = .solana ∧ (validateSolanaTransaction request.payload).isOk = true := by
  simp [accepts, request.checked.nonempty]

def SolanaChainSubmissionAdapter.submit : SubmitRequest → AdapterProg (Except RelayError SubmissionReceipt) :=
  submitWith accepts isPlausibleSignature

inductive SubmissionAdapter where
  | evm (chain : EvmChain)
  | solana

namespace SubmissionAdapter

def submit : SubmissionAdapter → SubmitRequest → AdapterProg (Except RelayError SubmissionReceipt)
  | .evm chain => EvmChainSubmissionAdapter.submit chain
  | .solana => SolanaChainSubmissionAdapter.submit

def accepts : SubmissionAdapter → SubmitRequest → Except RelayError Unit
  | .evm chain => EvmChainSubmissionAdapter.accepts chain
  | .solana => SolanaChainSubmissionAdapter.accepts

def acknowledges : SubmissionAdapter → String → Bool
  | .evm _ => fun _ => true
  | .solana => isPlausibleSignature

lemma submit_eq (A : SubmissionAdapter) : A.submit = submitWith A.accepts A.acknowledges := by
  cases A <;> rfl

end SubmissionAdapter

end

end PrivateExecution
