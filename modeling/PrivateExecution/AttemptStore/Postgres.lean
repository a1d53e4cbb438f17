import PrivateExecution.Relay.Store

/-!
# The Postgres attempt store

`PostgresExecutionAttemptStore` (`execution-store/src/postgres.rs`). The table `execution_attempts`
has one row per `(owner_id, workspace_ref, idempotency_key)`. Every transition is one guarded
`UPDATE`; it succeeds if it finds a row to update. Outcomes and submissions are not stored but
decoded from the columns of a row.
-/

namespace PrivateExecution

variable [Sha256]

structure AttemptRow where
  requestDigest : RequestDigest
  intentId : IntentId
  chainTag : UInt8
  status : AttemptStatus
  providerIdempotencyId : Option String
  signedReference : Option String
  submissionReference : Option String
  payloadDigest : Option PayloadDigest
  payload : Option (List UInt8)
  finalReason : Option String
  netInput : Option U128
  netOutput : Option U128

abbrev AttemptTable := DurableKey → Option AttemptRow

namespace AttemptRow

def reserved (b : AttemptBinding) (d : RequestDigest) (tag : UInt8) : AttemptRow where
  requestDigest := d
  intentId := b.intentId
  chainTag := tag
  status := .reserved
  providerIdempotencyId := none
  signedReference := none
  submissionReference := none
  payloadDigest := none
  payload := none
  finalReason := none
  netInput := none
  netOutput := none

variable (r : AttemptRow)

/-- The amounts of a confirmation: both or none. -/
def fill : Option ObservedFill :=
  match r.netInput, r.netOutput with
  | some input, some output => some ⟨input, output⟩
  | _, _ => none

def decodeExistingOutcome : Except RelayError RelayOutcome :=
  match r.status with
  | .reserved | .signRequested => .ok .reserved
  | .signed => .ok .signed
  | .submitted =>
    match r.submissionReference with
    | some reference => if isBlank reference then .ok .unknown else .ok (.submitted reference .unknown)
    | none => .ok .unknown
  | .submissionUnknown => .ok .unknown
  | .confirmed =>
    match (r.submissionReference.or r.signedReference).filter (fun value => !isBlank value) with
    | some reference => .ok (.confirmed reference r.fill)
    | none => .error .storeUnavailable
  | .rejected => .ok (.rejected (r.finalReason.getD ""))
  | .failedBeforeSubmit => .ok .failedBeforeSubmit

def decodeSubmission (key : IdempotencyKey) : Except RelayError (Option DurableSubmission) :=
  match r.payload, r.payloadDigest, r.signedReference with
  | some payload, some payloadDigest, some signedReference => do
    let chain ← okOr (chainFromCanonicalTag r.chainTag) .storeUnavailable
    let submission ← DurableSubmission.new r.intentId key chain r.requestDigest payloadDigest
      signedReference r.submissionReference payload
    return some submission
  | _, _, _ => .ok none

def signRequested (value : String) (r : AttemptRow) : AttemptRow :=
  { r with status := .signRequested, providerIdempotencyId := some value }

def signed : AttemptRow := { r with status := .signed }

def signedWith (reference : String) (r : AttemptRow) : AttemptRow :=
  { r with status := .signed, signedReference := some reference }

def submitting (submission : DurableSubmission) (r : AttemptRow) : AttemptRow :=
  { r with
    status := .submissionUnknown
    payloadDigest := some submission.payloadDigest
    payload := some submission.payload }

/-- The columns `record_outcome` sets. A reference is kept if the outcome brings none. -/
def withOutcome (o : RelayOutcome) (r : AttemptRow) : AttemptRow :=
  let fill := match o with
    | .confirmed _ fill => fill
    | _ => none
  { r with
    status := o.attemptStatus
    submissionReference := o.reference?.or r.submissionReference
    finalReason := match o with
      | .rejected finalReason => some finalReason
      | _ => none
    netInput := fill.map (·.netInput)
    netOutput := fill.map (·.netOutput) }

end AttemptRow

namespace PostgresStore

variable (t : AttemptTable) (b : AttemptBinding) (d : RequestDigest)

/-- `UPDATE execution_attempts SET .. WHERE .. AND request_digest = .. AND status IN ..`: no row to
update is an error. -/
def update (from_ : AttemptStatus → Bool)
    (set : AttemptRow → AttemptRow) : Except RelayError Unit × AttemptTable :=
  match t b.key with
  | some r =>
    if r.requestDigest = d ∧ from_ r.status then (.ok (), Function.update t b.key (some (set r)))
    else (.error .storeUnavailable, t)
  | none => (.error .storeUnavailable, t)

def reserveBound : Except RelayError Reservation × AttemptTable :=
  match chainTag b.chain with
  | .error _ => (.error .storeUnavailable, t)
  | .ok tag =>
    match t b.key with
    | none => (.ok .reserved, Function.update t b.key (some (.reserved b d tag)))
    | some r =>
      if r.requestDigest = d then (r.decodeExistingOutcome.map .alreadyReserved, t)
      else (.ok .conflict, t)

/-- A terminal row is left alone, and that is no error. -/
def recordOutcome (o : RelayOutcome) : Except RelayError Unit × AttemptTable :=
  match update t b d (fun status => !status.isTerminal) (.withOutcome o) with
  | (.ok (), t') => (.ok (), t')
  | (.error e, t') =>
    match t b.key with
    | some r => if r.requestDigest = d ∧ r.status.isTerminal then (.ok (), t') else (.error e, t')
    | none => (.error e, t')

def run : (c : StoreCall) → Except RelayError c.Result × AttemptTable
  | .reserveBound b d => reserveBound t b d
  | .recordSignRequested b d value =>
    update t b d (fun status => status = .reserved || status = .signRequested) (.signRequested value)
  | .recordSigned b d =>
    update t b d (fun status => status = .signRequested || status = .signed) .signed
  | .recordSignedReference b d reference =>
    if isBlank reference then (.error .signingFailed, t)
    else update t b d (fun status => status = .signRequested || status = .signed) (.signedWith reference)
  | .recordSubmission b d request =>
    match DurableSubmission.fromRequest request with
    | .error e => (.error e, t)
    | .ok submission =>
      update t b d
        (fun status => status = .signed || status = .submissionUnknown || status = .submitted)
        (.submitting submission)
  | .recordOutcome b d o => recordOutcome t b d o
  | .loadSubmission b =>
    match t b.key with
    | some r => (r.decodeSubmission b.idempotencyKey, t)
    | none => (.ok none, t)
  | .loadOutcome b =>
    match t b.key with
    | some r => (r.decodeExistingOutcome.map some, t)
    | none => (.ok none, t)

lemma run_recordSignedReference {reference : String} (h : isBlank reference = false) :
    run t (.recordSignedReference b d reference) =
      update t b d (fun status => status = .signRequested || status = .signed) (.signedWith reference) :=
  if_neg (by simp [h])

end PostgresStore

end PrivateExecution
