import PrivateExecution.Relay.World

/-!
# `ExecutionRelay::execute` and `reconcile`

The two entry points of the relay (`execution-relay/src/relay.rs`) as programs over `RelayOp`.
`execute` is cut at the points where what may still happen changes: the gates and the claim
(`execute`, steps 1 to 5), signing (`signClaimed`, steps 5b to 7), binding and persisting the
submission (`persistSigned`, steps 8 to 9b), and the one submission (`submitOnce`, steps 10 and 11).
-/

namespace PrivateExecution

open Async

variable [Sha256]

/-- The policy context is carried
for provenance only and is not read. -/
structure RelayExecutionInput where
  intent : TradeIntent
  prepared : PreparedExecutionRef
  approved : ApprovedExecution
  route : RoutePlan
  preview : ExecutionPreview
  nowMs : I64

abbrev RelayResult := Except RelayError RelayOutcome

def ask (o : RelayOp) : RelayProg o.Ans := Prog.perform o

def storeCall (c : StoreCall) : RelayProg (Except RelayError c.Result) := ask (.store c)

variable (relay : RelayId) (b : AttemptBinding) (d : RequestDigest)

/-- Persists an outcome; a store failure is swallowed. -/
def recordOutcome (outcome : RelayOutcome) : RelayProg Unit := do
  let _ ← storeCall (.recordOutcome b d outcome)
  return ()

/-- A definitive failure before anything was sent: record it and return `r`. -/
def abandon (r : RelayResult) : RelayProg RelayResult := do
  recordOutcome b d .failedBeforeSubmit
  return r

def conclude (outcome : RelayOutcome) : RelayProg RelayResult := do
  recordOutcome b d outcome
  return .ok outcome

variable (signing : SigningRequest) (nowMs : I64)

/-- Step 11, once the adapter has answered. -/
def settleSubmission : Except RelayError SubmissionReceipt → RelayProg RelayResult
  | .ok receipt => do
    ask (.resolveGuard relay (.chain b.chain) .success)
    if isBlank receipt.reference then conclude b d .unknown
    else do
      ask (.journalSetChainReference relay b receipt.reference)
      conclude b d (.submitted receipt.reference .unknown)
  | .error .adapterRejected => do
    ask (.resolveGuard relay (.chain b.chain) .success)
    conclude b d (.rejected "adapter rejected submission")
  | .error _ => do
    ask (.resolveGuard relay (.chain b.chain) (.failure nowMs))
    conclude b d .unknown

/-- Steps 10 and 11: admit the submission, submit once. -/
def submitOnce (request : SubmitRequest) (nowMs : I64) : RelayProg RelayResult := do
  let admitted : Bool ← ask (.admitProbe relay (.chain b.chain) nowMs)
  match admitted with
  | false => abandon b d (.error .chainHealthUnavailable)
  | true => do
    let answer : Except RelayError SubmissionReceipt ← ask (.submit b request)
    settleSubmission relay b d nowMs answer

/-- Steps 8 to 9b: fetch the signed payload, re-verify every binding, persist the submission. -/
def persistSigned (signed : SignedExecutionRef) (nowMs : I64) : RelayProg RelayResult := do
  let payload : Except RelayError SignedPayload ← ask (.signedPayload signed)
  match payload with
  | .error _ => abandon b d (.error .missingSignedPayload)
  | .ok payload =>
    match SubmitRequest.bind signing signed payload b.chain with
    | .error e => abandon b d (.error e)
    | .ok request => do
      ask (.journalInsert relay b request)
      let persisted : Except RelayError Unit ← storeCall (.recordSubmission b d request)
      match persisted with
      | .error _ => abandon b d (.error .storeUnavailable)
      | .ok () => submitOnce relay b d request nowMs

/-- Step 7: note the reference durably. -/
def noteSigned (signed : SignedExecutionRef) : RelayProg RelayResult := do
  let noted : Except RelayError Unit ← storeCall (.recordSignedReference b d signed.reference)
  match noted with
  | .error _ => abandon b d (.ok .failedBeforeSubmit)
  | .ok () => persistSigned relay b d signing signed nowMs

/-- Steps 6 and 7: sign once through the signing breaker, note the reference durably. -/
def signOnce : RelayProg RelayResult := do
  let answer : Except RelayError SignedExecutionRef ← ask (.sign b signing)
  match answer with
  | .error _ => do
    ask (.resolveGuard relay .signing (.failure nowMs))
    abandon b d (.error .signingFailed)
  | .ok signed =>
    if ¬ signed.Attests signing then do
      ask (.resolveGuard relay .signing (.failure nowMs))
      abandon b d (.error .signingRequestMismatch)
    else do
      ask (.resolveGuard relay .signing .success)
      noteSigned relay b d signing nowMs signed

/-- Steps 5b and 6: record `SIGN_REQUESTED`, then ask the signing breaker. -/
def signClaimed : RelayProg RelayResult := do
  let requested : Except RelayError Unit ←
    storeCall (.recordSignRequested b d signing.providerIdempotencyId)
  match requested with
  | .error _ => abandon b d (.error .storeUnavailable)
  | .ok () => do
    let admitted : Bool ← ask (.admitProbe relay .signing nowMs)
    match admitted with
    | false => abandon b d (.error .signingUnavailable)
    | true => signOnce relay b d signing nowMs

/-- Step 5: claim the attempt before anything is signed. -/
def claimAttempt : RelayProg RelayResult := do
  let reservation : Except RelayError Reservation ←
    storeCall (.reserveBound b signing.requestDigest)
  match reservation with
  | .ok .reserved => signClaimed relay b signing.requestDigest signing nowMs
  | .ok (.alreadyReserved outcome) => return .ok outcome
  | .ok .conflict => return .error .idempotencyConflict
  | .error _ => return .error .reservationUnavailable

/-- Steps 3 and 4: the payload to sign and the bound signing request. The kill switch is read
once more inside `SigningRequest::bind`. -/
def bindSigning (input : RelayExecutionInput) : RelayProg RelayResult := do
  let payload : Except RelayError SignedPayload ←
    ask (.payloadToSign input.intent.idempotencyKey input.intent.id)
  match payload with
  | .error _ => return .error .missingSignedPayload
  | .ok payload => do
    let enabled : Bool ← ask (.isTradingEnabled relay)
    match SigningRequest.bind enabled input.approved input.prepared input.intent input.route
        input.preview payload.digest input.nowMs with
    | .error _ => return .error .signingFailed
    | .ok signing =>
      claimAttempt relay (AttemptBinding.fromIntent input.intent) signing input.nowMs

def execute (input : RelayExecutionInput) : RelayProg RelayResult := do
  let enabled : Bool ← ask (.isTradingEnabled relay)
  match enabled with
  | false => return .error .tradingDisabled
  | true => do
    let health : Health ← ask (.adapterHealth input.nowMs)
    ask (.breakerObserve relay input.intent.chain health input.nowMs)
    if health = .unavailable then return .error .chainHealthUnavailable
    else do
      let allowed : Bool ← ask (.breakerCheckAllowed relay input.intent.chain input.nowMs)
      match allowed with
      | false => return .error .chainHealthUnavailable
      | true => bindSigning relay input

/-- The part of `reconcile` after the bound request is known: ask the chain, record the answer. -/
def observeChain (request : SubmitRequest) (nowMs : I64) : RelayProg RelayResult := do
  let queried : Except RelayError ChainObservation ← ask (.query b request nowMs)
  match queried with
  | .ok .unknown | .error _ => do
    let reconciled : Except RelayError ChainObservation ← ask (.reconcile b request nowMs)
    match reconciled with
    | .error _ => return .error .adapterUnavailable
    | .ok observation => conclude b request.requestDigest observation.toOutcome
  | .ok observation => conclude b request.requestDigest observation.toOutcome

/-- The part of `reconcile` that finds the bound request: the journal first, the store otherwise. -/
def reconcileOpen : RelayProg RelayResult := do
  let journaled : Option SubmitRequest ← ask (.journalGet relay b)
  match journaled with
  | some request => observeChain b request nowMs
  | none => do
    let loaded : Except RelayError (Option DurableSubmission) ← storeCall (.loadSubmission b)
    match loaded with
    | .error _ => return .error .storeUnavailable
    | .ok none => return .error .invalidTransition
    | .ok (some submission) =>
      match SubmitRequest.restore submission with
      | .error e => return .error e
      | .ok request => observeChain b request nowMs

def reconcile : RelayProg RelayResult := do
  let loaded : Except RelayError (Option RelayOutcome) ← storeCall (.loadOutcome b)
  match loaded with
  | .ok (some outcome) =>
    if outcome.attemptStatus.isTerminal then return .ok outcome else reconcileOpen relay b nowMs
  | _ => reconcileOpen relay b nowMs

end PrivateExecution
