import PrivateExecution.Web.Envelope

/-!
# The command channel

`EncryptedCommandClient.send` (`transport/command.ts`) from the moment the request was posted, the verdict on
its errors (`core/idempotency.ts`), and the panel that acts on the verdict (`features/limits/LimitsPanel.tsx`).
Whatever the relay makes of the answer, a capital-committing operation may end in an error that counts as a
determinate rejection only if the backend sealed that rejection.
-/

namespace PrivateExecution.Web

/-! ### Verdicts and submission keys -/

def isIndeterminateOutcome (code : WorkspaceErrorCode) (retryable : Option Bool) : Bool :=
  if retryable = some true then true
  else if code = .server then retryable ≠ some false
  else code ∈ [.network, .protocol, .unknown, .cancelled]

/-- The verdict on what was thrown. -/
def Thrown.isDeterminate (thrown : Thrown) : Bool :=
  let shape := toWorkspaceErrorShape thrown
  !isIndeterminateOutcome shape.code (some shape.retryable)

abbrev SubmissionKeys : Type := Option (String × String)

/-- `keyFor`, where `fresh` is the key that would be generated. -/
def SubmissionKeys.keyFor (keys : SubmissionKeys) (signature fresh : String) : SubmissionKeys :=
  match keys with
  | some (current, key) => if current = signature then some (current, key) else some (signature, fresh)
  | none => some (signature, fresh)

/-! ### Responses -/

/-- What can be read of a body: chunks of a stream up to its end or a failure, or what `text()` or `json()`
settles with. -/
inductive Body where
  | stream (chunks : List (List UInt8)) (failure : Option Failure)
  | text (outcome : Except Failure String)
  | json (outcome : Except Failure Json)
  | unreadable

/-- An HTTP response. `contentLength` is the number that the header reads as, if it is there and is one. -/
structure Response where
  status : ℕ
  contentLength : Option Number
  body : Body

def Response.ok (response : Response) : Bool := decide (200 ≤ response.status ∧ response.status ≤ 299)

def maxResponseBytes : ℕ := 2 * 1024 * 1024

def writeOps : List String :=
  ["execute_market_order", "place_limit_order", "cancel_order", "start_twap", "submit_rfq",
    "request_withdrawal", "set_wallet_limits"]

/-- A number that is over the limit of a response. -/
def exceedsResponse : Number → Bool
  | .finite q => decide ((maxResponseBytes : ℚ) < q)
  | .infinite negative => !negative

def tooLarge : Thrown := workspaceError .protocol "Command response exceeded the size limit."

/-- The loop of `readBoundedText` over the chunks of a stream. -/
def readChunks (failure : Option Failure) : (total : ℕ) → List (List UInt8) → Except Thrown (List UInt8)
  | _, [] => failure.elim (.ok []) fun f => .error (.failure f)
  | total, chunk :: rest =>
    if maxResponseBytes < total + chunk.length then .error tooLarge
    else do
      let bytes ← readChunks failure (total + chunk.length) rest
      return chunk ++ bytes

section

variable [Platform]

def readBoundedText : Body → Except Thrown String
  | .stream chunks failure => do
    let merged ← readChunks failure 0 chunks
    okOr (Platform.utf8Decode merged) (.failure .other)
  | .text outcome => do
    let text ← outcome.mapError Thrown.failure
    ensure (jsLength text ≤ maxResponseBytes) tooLarge
    return text
  | .json _ | .unreadable => .error (.failure .other)

variable (response : Response)

def readJsonBody : Except Thrown Json := do
  ensure (response.contentLength.any exceedsResponse = false) tooLarge
  match response.body with
  | .json outcome => outcome.mapError fun _ => workspaceError .protocol "Command response was not valid JSON."
  | .unreadable => .error (workspaceError .protocol "Command response was unreadable.")
  | body => do
    let text ← readBoundedText body
    okOr (Platform.jsonParse text) (workspaceError .protocol "Command response was not valid JSON.")

def readEnvelope : Except Thrown StreamEnvelope := do
  let raw ← readJsonBody response
  ensure (raw.isObject = true) (workspaceError .protocol "Command response was malformed.")
  -- `record.envelope ?? record`
  validateEnvelope (match raw.get "envelope" with
    | none | some .null => raw
    | some envelope => envelope)

/-! ### The command client -/

def mapCommandFailure (status : ℕ) (op : String) : Thrown :=
  if op ∈ writeOps then
    workspaceErrorWith .unknown "Command outcome could not be authenticated." (some true)
      (some ("command " ++ Nat.repr status))
  else if status = 401 ∨ status = 403 then
    workspaceErrorWith .auth "Command is not authorized." (some false) none
  else if status = 404 ∨ status = 501 then
    workspaceErrorWith .capabilityMissing "Command is not available." (some false) none
  else if status = 409 then
    workspaceErrorWith .freshness "Command rejected: state changed." (some true) none
  else
    workspaceErrorWith .server "Command failed." (some (decide (500 ≤ status)))
      (some ("command " ++ Nat.repr status))

/-- What stands in an authenticated error. A value that is no object becomes a plain shape, which is thrown as
such and is no `WorkspaceError`. -/
def mapCommandError (raw : Json) (op : String) : Thrown :=
  if raw.isObject then
    let code := ((raw.get "code").bind Json.asString).getD "server"
    let message := ((raw.get "message").bind Json.asString).getD "Command rejected."
    let retryable := ((raw.get "retryable").bind Json.asBool).getD (decide (op ∈ writeOps))
    workspaceErrorWith ((WorkspaceErrorCode.ofName code).getD .server) message (some retryable) none
  else .failure .other

/-- The session's key id, which the client and its decryptor share, and the request that was posted. -/
structure Posted where
  kid : String
  op : String
  sequence : ℕ
  requestId : String

namespace Posted

variable (posted : Posted)

/-- The error of a body that is bound to the request, if it has one. -/
def boundError (body : Json) : Option Json :=
  if (body.get "request_id").bind Json.asString = some posted.requestId then (body.get "error").filter Json.truthy
  else none

/-- The JSON text in a decrypted body. -/
def readPlaintext (decrypted : List UInt8) : Option Json :=
  (Platform.utf8Decode decrypted).bind Platform.jsonParse

def tryAuthenticatedError (aead : Aead) (response : Response) : Option Thrown := do
  let envelope ← (readEnvelope response).toOption
  if envelope.sequence ≠ posted.sequence ∨ envelope.kid ≠ posted.kid then none
  else
    let decrypted ← (decrypt aead posted.kid envelope).toOption
    let body ← readPlaintext decrypted
    let error ← posted.boundError body
    return mapCommandError error posted.op

/-- The answer of a success, from the decrypted body on. -/
def readResult (decrypted : List UInt8) : Except Thrown Json := do
  let body ← okOr (readPlaintext decrypted) (workspaceError .protocol "Command response was not valid JSON.")
  ensure (body.isRecord = true) (workspaceError .protocol "Command response was malformed.")
  ensure ((body.get "request_id").bind Json.asString = some posted.requestId)
    (workspaceErrorWith .protocol "Command response was not bound to this request." (some false)
      (some "request binding"))
  match posted.boundError body with
  | some error => .error (mapCommandError error posted.op)
  | none => do
    let result ← okOr (body.get "result") (workspaceError .protocol "Command response carried no result.")
    ensure (posted.op ∈ writeOps → result.isRecord = true)
      (workspaceErrorWith .unknown "Write command outcome was not confirmed." (some true) none)
    return result

/-- What `send` makes of the outcome of `fetch`. -/
def send (aead : Aead) (fetched : Except Failure Response) : Except Thrown Json :=
  match fetched with
  | .error .abort => .error (workspaceErrorWith .cancelled "Command cancelled." (some true) none)
  | .error .other => .error (workspaceErrorWith .network "Command transport failed." (some true) none)
  | .ok response =>
    if response.ok = false then
      .error ((posted.tryAuthenticatedError aead response).getD (mapCommandFailure response.status posted.op))
    else do
      let envelope ← readEnvelope response
      ensure (envelope.sequence = posted.sequence)
        (workspaceErrorWith .protocol "Command response sequence mismatch." (some false)
          (some ("expected " ++ Nat.repr posted.sequence ++ ", received " ++ Nat.repr envelope.sequence)))
      let decrypted ← decrypt aead posted.kid envelope
      posted.readResult decrypted

end Posted

/-! ### The panel -/

structure PlacePanel where
  submissionKeys : SubmissionKeys
  placeUnknown : Option (String × String)
  actionError : Option String

omit [Platform] in
/-- A success that does not identify the created order is none. -/
def requireOrderId (result : Json) : Except Thrown Unit :=
  ensure (∃ orderId ∈ (result.get "order_id").bind Json.asString, orderId ≠ "")
    (workspaceError .protocol "Limit order response was missing an order id.")

/-- One submission with the outcome of its command; `fresh` is the key it would generate. -/
def PlacePanel.submitPlace (panel : PlacePanel) (signature fresh : String) (outcome : Except Thrown Json) :
    PlacePanel :=
  match outcome.bind requireOrderId with
  | .ok () => ⟨none, none, none⟩
  | .error thrown =>
    let shape := toWorkspaceErrorShape thrown
    if panel.placeUnknown.isSome ∨ isIndeterminateOutcome shape.code (some shape.retryable) then
      ⟨panel.submissionKeys.keyFor signature fresh, some (shape.message, signature), none⟩
    else ⟨none, none, some shape.message⟩

/-! ### Errors that prove nothing -/

def Ambiguous {α : Type} (m : Except Thrown α) :
    Prop := ∀ thrown, m = .error thrown → thrown.isDeterminate = false

section

variable {α β : Type}

omit [Platform]

lemma Ambiguous.ok (a : α) : Ambiguous (.ok a : Except Thrown α) := nofun

lemma Ambiguous.error {thrown : Thrown} (h : thrown.isDeterminate = false) :
    Ambiguous (.error thrown : Except Thrown α) := fun _ heq => Except.error.inj heq ▸ h

lemma Ambiguous.bind {m : Except Thrown α} {f : α → Except Thrown β} (hm : Ambiguous m)
    (hf : ∀ a, Ambiguous (f a)) : Ambiguous (m >>= f) := by
  intro thrown h
  obtain herror | ⟨a, -, h⟩ := bind_error.1 h
  · exact hm thrown herror
  · exact hf a thrown h

lemma Ambiguous.ensure {p : Prop} [Decidable p] {thrown : Thrown} (h : thrown.isDeterminate = false) :
    Ambiguous (ensure p thrown) := by
  intro thrown' heq
  obtain ⟨-, rfl⟩ := ensure_eq_error.1 heq
  exact h

lemma Ambiguous.okOr {x : Option α} {thrown : Thrown} (h : thrown.isDeterminate = false) :
    Ambiguous (okOr x thrown) := by
  cases x with
  | none => exact .error h
  | some a => exact .ok a

lemma protocol_not_determinate (message : String) (retryable : Option Bool) (detail : Option String) :
    (workspaceErrorWith .protocol message retryable detail).isDeterminate = false := by
  simp [workspaceErrorWith, Thrown.isDeterminate, toWorkspaceErrorShape, isIndeterminateOutcome]

lemma failure_not_determinate (failure : Failure) : (Thrown.failure failure).isDeterminate = false := by
  cases failure <;> decide

lemma validateEnvelope_ambiguous (raw : Json) : Ambiguous (validateEnvelope raw) := by
  have hprotocol (message : String) : (workspaceError .protocol message).isDeterminate = false :=
    protocol_not_determinate message none none
  unfold validateEnvelope
  exact .bind (.ensure (hprotocol _)) fun _ => .bind (.okOr (hprotocol _)) fun _ => .bind (.ensure (hprotocol _))
    fun _ => .bind (.okOr (hprotocol _)) fun _ => .bind (.ensure (hprotocol _)) fun _ =>
    .bind (.okOr (hprotocol _)) fun _ => .bind (.ensure (hprotocol _)) fun _ => .bind (.okOr (hprotocol _)) fun _ =>
    .bind (.okOr (hprotocol _)) fun _ => .bind (.ensure (hprotocol _)) fun _ => .bind (.okOr (hprotocol _)) fun _ =>
    .bind (.ensure (hprotocol _)) fun _ => .ok _

lemma readChunks_ambiguous (failure : Option Failure) (total : ℕ) (chunks : List (List UInt8)) :
    Ambiguous (readChunks failure total chunks) := by
  induction chunks generalizing total with
  | nil =>
    cases failure with
    | none => exact .ok []
    | some f => exact .error (failure_not_determinate f)
  | cons chunk rest ih =>
    unfold readChunks
    split
    · exact .error (protocol_not_determinate _ _ _)
    · exact .bind (ih _) fun _ => .ok _

end

lemma readJsonBody_ambiguous : Ambiguous (readJsonBody response) := by
  refine .bind (.ensure (protocol_not_determinate _ _ _)) fun _ => ?_
  have htext (body : Body) : Ambiguous (readBoundedText body) := by
    cases body with
    | stream chunks failure =>
      exact .bind (readChunks_ambiguous failure 0 chunks) fun _ => .okOr (failure_not_determinate _)
    | text outcome =>
      refine .bind ?_ fun _ => .bind (.ensure (protocol_not_determinate _ _ _)) fun _ => .ok _
      cases outcome with
      | error f => exact .error (failure_not_determinate f)
      | ok text => exact .ok text
    | json | unreadable => exact .error (failure_not_determinate _)
  split
  next outcome _ =>
    cases outcome with
    | error => exact .error (protocol_not_determinate _ _ _)
    | ok body => exact .ok body
  · exact .error (protocol_not_determinate _ _ _)
  · exact .bind (htext _) fun _ => .okOr (protocol_not_determinate _ _ _)

lemma readEnvelope_ambiguous : Ambiguous (readEnvelope response) :=
  .bind (readJsonBody_ambiguous response) fun _ => .bind (.ensure (protocol_not_determinate _ _ _)) fun _ =>
    validateEnvelope_ambiguous _

/-! ### Rejections that the backend sealed -/

/-- A plaintext that is an error with `retryable = false`, bound to the request. -/
def Rejects (requestId : String) (plaintext : List UInt8) : Prop :=
  ∃ body error, Posted.readPlaintext plaintext = some body ∧ body.get "request_id" = some (.string requestId) ∧
    body.get "error" = some error ∧ error.get "retryable" = some (.bool false)

omit [Platform] in
lemma asString_eq_some {v : Option Json} {s : String} (h : v.bind Json.asString = some s) :
    v = some (.string s) := by
  obtain ⟨j, rfl, hj⟩ := Option.bind_eq_some_iff.1 h
  cases j <;> cases hj
  rfl

omit [Platform] in
lemma retryable_of_mapCommandError {raw : Json} {op : String} (hop : op ∈ writeOps)
    (h : (mapCommandError raw op).isDeterminate = true) : raw.get "retryable" = some (.bool false) := by
  unfold mapCommandError at h
  split at h
  · simp only [hop, decide_true, workspaceErrorWith, Option.getD_some, Thrown.isDeterminate, toWorkspaceErrorShape,
      isIndeterminateOutcome, Option.some.injEq] at h
    cases hraw : raw.get "retryable" with
    | none => simp [hraw] at h
    | some v =>
      cases v with
      | bool b =>
        cases b with
        | true => simp [hraw, Json.asBool] at h
        | false => rfl
      | null | number | string | array | object => simp [hraw, Json.asBool] at h
  · rw [failure_not_determinate] at h
    cases h

lemma rejects_of_boundError {posted : Posted} {plaintext : List UInt8} {body error : Json}
    (hop : posted.op ∈ writeOps) (hbody : Posted.readPlaintext plaintext = some body)
    (herror : posted.boundError body = some error)
    (h : (mapCommandError error posted.op).isDeterminate = true) : Rejects posted.requestId plaintext := by
  unfold Posted.boundError at herror
  split at herror
  next hbound =>
    exact ⟨body, error, hbody, asString_eq_some hbound, (Option.filter_eq_some_iff.1 herror).1,
      retryable_of_mapCommandError hop h⟩
  · cases herror

omit [Platform] in
lemma decrypt_cases (aead : Aead) {kid : String} {envelope : StreamEnvelope} (hkid : envelope.kid = kid) :
    Ambiguous (decrypt aead kid envelope) ∧ ∀ plaintext, decrypt aead kid envelope = .ok plaintext →
      ∃ iv additionalData ciphertext, aead iv additionalData ciphertext = some plaintext := by
  unfold decrypt
  constructor
  · refine .bind ?_ fun _ => .bind (.okOr (failure_not_determinate _)) fun _ =>
      .bind (.okOr (failure_not_determinate _)) fun _ => .okOr (protocol_not_determinate _ _ _)
    simp only [ensure, hkid, if_true]
    exact .ok ()
  · intro plaintext h
    obtain ⟨-, -, h⟩ := bind_ok.1 h
    obtain ⟨nonce, -, h⟩ := bind_ok.1 h
    obtain ⟨ciphertext, -, h⟩ := bind_ok.1 h
    exact ⟨nonce, _, ciphertext, okOr_eq_ok.1 h⟩

/-- A success carries a well-formed envelope with the sequence of the request and a foreign key id. -/
def ForeignKid (posted : Posted) (fetched : Except Failure Response) : Prop :=
  ∃ response envelope, fetched = .ok response ∧ response.ok = true ∧ readEnvelope response = .ok envelope ∧
    envelope.sequence = posted.sequence ∧ envelope.kid ≠ posted.kid

section

variable {posted : Posted} {aead : Aead} {sealed : Set (List UInt8)}

lemma rejects_of_refused (hop : posted.op ∈ writeOps)
    (haead : ∀ iv additionalData ciphertext p, aead iv additionalData ciphertext = some p → p ∈ sealed)
    {response : Response}
    (h : ((posted.tryAuthenticatedError aead response).getD
      (mapCommandFailure response.status posted.op)).isDeterminate = true) :
    ∃ p ∈ sealed, Rejects posted.requestId p := by
  cases hauth : posted.tryAuthenticatedError aead response with
  | none =>
    simp only [hauth, Option.getD_none, mapCommandFailure, hop, if_true] at h
    exact absurd h (by simp [workspaceErrorWith, Thrown.isDeterminate, toWorkspaceErrorShape, isIndeterminateOutcome])
  | some thrown =>
    rw [hauth] at h
    obtain ⟨envelope, -, hauth⟩ := Option.bind_eq_some_iff.1 hauth
    split at hauth
    · cases hauth
    next hbound =>
      obtain ⟨plaintext, hdecrypt, hauth⟩ := Option.bind_eq_some_iff.1 hauth
      obtain ⟨body, hbody, hauth⟩ := Option.bind_eq_some_iff.1 hauth
      obtain ⟨error, herror, hthrown⟩ := Option.bind_eq_some_iff.1 hauth
      cases hthrown
      have hkid : envelope.kid = posted.kid := not_not.1 (not_or.1 hbound).2
      obtain ⟨iv, additionalData, ciphertext, hopened⟩ :=
        (decrypt_cases aead hkid).2 plaintext (toOption_eq_some hdecrypt)
      exact ⟨plaintext, haead _ _ _ _ hopened, rejects_of_boundError hop hbody herror h⟩

lemma rejects_of_readResult (hop : posted.op ∈ writeOps) {plaintext : List UInt8} {thrown : Thrown}
    (h : posted.readResult plaintext = .error thrown) (hdeterminate : thrown.isDeterminate = true) :
    Rejects posted.requestId plaintext := by
  have hnot {α : Type} {m : Except Thrown α} (hm : Ambiguous m) : m ≠ .error thrown := fun heq =>
    absurd hdeterminate (by rw [hm thrown heq]; exact Bool.false_ne_true)
  unfold Posted.readResult at h
  obtain h | ⟨body, hbody, h⟩ := bind_error.1 h
  · exact absurd h (hnot (.okOr (protocol_not_determinate _ _ _)))
  obtain h | ⟨-, -, h⟩ := bind_error.1 h
  · exact absurd h (hnot (.ensure (protocol_not_determinate _ _ _)))
  obtain h | ⟨-, -, h⟩ := bind_error.1 h
  · exact absurd h (hnot (.ensure (protocol_not_determinate _ _ _)))
  split at h
  next error herror =>
    cases h
    exact rejects_of_boundError hop (okOr_eq_ok.1 hbody) herror hdeterminate
  · refine absurd h (hnot (.bind (.okOr (protocol_not_determinate _ _ _)) fun _ => .bind (.ensure ?_) fun _ => .ok _))
    simp [workspaceErrorWith, Thrown.isDeterminate, toWorkspaceErrorShape, isIndeterminateOutcome]

lemma rejects_of_send (hop : posted.op ∈ writeOps)
    (haead : ∀ iv additionalData ciphertext p, aead iv additionalData ciphertext = some p → p ∈ sealed)
    {fetched : Except Failure Response} (hkid : ¬ForeignKid posted fetched) {thrown : Thrown}
    (h : posted.send aead fetched = .error thrown) (hdeterminate : thrown.isDeterminate = true) :
    ∃ p ∈ sealed, Rejects posted.requestId p := by
  have hnot {α : Type} {m : Except Thrown α} (hm : Ambiguous m) : m ≠ .error thrown := fun heq =>
    absurd hdeterminate (by rw [hm thrown heq]; exact Bool.false_ne_true)
  unfold Posted.send at h
  split at h
  · cases h
    cases hdeterminate
  · cases h
    cases hdeterminate
  next response =>
    split at h
    · cases h
      exact rejects_of_refused hop haead hdeterminate
    next hok =>
      obtain h | ⟨envelope, henvelope, h⟩ := bind_error.1 h
      · exact absurd h (hnot (readEnvelope_ambiguous response))
      obtain h | ⟨_, hsequence, h⟩ := bind_error.1 h
      · exact absurd h (hnot (.ensure (protocol_not_determinate _ _ _)))
      -- The envelope has the sequence of the request, so it has the key id of the session.
      have hsession : envelope.kid = posted.kid := by
        by_contra hne
        exact hkid ⟨response, envelope, rfl, Bool.not_eq_false _ ▸ hok, henvelope, ensure_eq_ok.1 hsequence, hne⟩
      obtain ⟨hambiguous, hopens⟩ := decrypt_cases aead hsession
      obtain h | ⟨plaintext, hdecrypt, h⟩ := bind_error.1 h
      · exact absurd h (hnot hambiguous)
      obtain ⟨iv, additionalData, ciphertext, hopened⟩ := hopens plaintext hdecrypt
      exact ⟨plaintext, haead _ _ _ _ hopened, rejects_of_readResult hop h hdeterminate⟩

lemma send_of_foreignKid {fetched : Except Failure Response} (h : ForeignKid posted fetched) (aead : Aead) :
    posted.send aead fetched = .error (workspaceError .auth "Stream envelope key id mismatch.") := by
  obtain ⟨response, envelope, rfl, hok, henvelope, hsequence, hkid⟩ := h
  have hbind : ∀ {α β : Type} {m : Except Thrown α} {a : α} (f : α → Except Thrown β), m = .ok a →
      (m >>= f) = f a := fun f h => by rw [h]; rfl
  unfold Posted.send
  simp only [hok, Bool.true_eq_false, if_false]
  rw [hbind _ henvelope, hbind (a := ()) _ (ensure_eq_ok.2 hsequence)]
  simp only [decrypt, ensure, hkid, if_false]
  rfl

/-- A response leaves the verdict to the backend, for every cipher that opens only what the backend sealed, unless
it is a success with the sequence of the request and a foreign key id: a determinate rejection was sealed, and
so was one that makes the panel give up the key of a first attempt. -/
theorem determinate_rejection_sealed (posted : Posted) (hop : posted.op ∈ writeOps)
    (fetched : Except Failure Response) :
    (∀ (aead : Aead) (sealed : Set (List UInt8)),
      (∀ iv additionalData ciphertext p, aead iv additionalData ciphertext = some p → p ∈ sealed) →
      (∀ thrown, posted.send aead fetched = .error thrown → thrown.isDeterminate = true →
        ∃ p ∈ sealed, Rejects posted.requestId p) ∧
      ∀ (panel : PlacePanel) signature fresh thrown, panel.placeUnknown = none →
        posted.send aead fetched = .error thrown →
        (panel.submitPlace signature fresh (posted.send aead fetched)).submissionKeys = none →
        ∃ p ∈ sealed, Rejects posted.requestId p) ↔ ¬ForeignKid posted fetched := by
  constructor
  · intro h hforeign
    obtain ⟨hsealed, -⟩ := h (fun _ _ _ => none) ∅ nofun
    obtain ⟨p, hp, -⟩ := hsealed _ (send_of_foreignKid hforeign _) (by decide)
    exact hp
  · intro hkid aead sealed haead
    refine ⟨fun thrown h hdeterminate => rejects_of_send hop haead hkid h hdeterminate,
      fun panel signature fresh thrown _ h hkeys => rejects_of_send hop haead hkid h ?_⟩
    -- The panel keeps the key of an ambiguous outcome.
    rw [h] at hkeys
    by_contra hambiguous
    have hindeterminate : isIndeterminateOutcome (toWorkspaceErrorShape thrown).code
        (some (toWorkspaceErrorShape thrown).retryable) = true := by
      simpa [Thrown.isDeterminate] using hambiguous
    have hkept : (panel.submitPlace signature fresh (.error thrown)).submissionKeys =
        panel.submissionKeys.keyFor signature fresh := by
      simp [PlacePanel.submitPlace, Except.bind, hindeterminate]
    rw [hkept] at hkeys
    unfold SubmissionKeys.keyFor at hkeys
    split at hkeys
    · split at hkeys <;> cases hkeys
    · cases hkeys

end

end

namespace Sample

/-- An envelope for the first request of a session. -/
def envelope (kid : String) : Json :=
  .object [("kid", .string kid), ("nonce", .string "AAAAAAAAAAAAAAAA"), ("sequence", .number (.finite 0)),
    ("ciphertext", .string "AAAAAAAAAAAAAAAAAAAAAA==")]

def forgedText : String :=
  "\x7b\"kid\":\"other\",\"nonce\":\"AAAAAAAAAAAAAAAA\",\"sequence\":0,\"ciphertext\":\"AAAAAAAAAAAAAAAAAAAAAA==\"\x7d"

abbrev browser : Platform where
  jsonParse text := if text = forgedText then some (envelope "other") else none
  utf8Decode bytes := String.fromUTF8? ⟨bytes.toArray⟩

def answer : Response := ⟨200, none, .text (.ok forgedText)⟩

def posted : Posted := ⟨"session", "place_limit_order", 0, "request"⟩

/-- A refusal for good, bound to the posted order. -/
def refusal : String :=
  "\x7b\"request_id\":\"request\",\"error\":\x7b\"code\":\"freshness\",\"retryable\":false\x7d\x7d"

abbrev workspace : Platform where
  jsonParse text := if text = refusal then some (.object [("request_id", .string "request"),
    ("error", .object [("code", .string "freshness"), ("retryable", .bool false)])]) else none
  utf8Decode bytes := String.fromUTF8? ⟨bytes.toArray⟩

/-- The cipher under a key with which the backend has sealed only the refusal. -/
def aead : Aead := fun iv additionalData ciphertext =>
  if iv = List.replicate 12 0 ∧ additionalData = associatedData "session" 0 ∧
    ciphertext = List.replicate 16 0 then some refusal.toUTF8.toList else none

def refused : Response := ⟨409, none, .json (.ok (envelope "session"))⟩

end Sample

section

attribute [local instance] Sample.workspace

/-- The backend refuses the posted order for good: the panel gives up the key, and a refusal was sealed. -/
theorem sealed_refusal_rejects :
    let sent := Sample.posted.send Sample.aead (.ok Sample.refused)
    ((⟨none, none, none⟩ : PlacePanel).submitPlace "signature" "key" sent).submissionKeys = none ∧
      ∃ p ∈ ({Sample.refusal.toUTF8.toList} : Set (List UInt8)), Rejects Sample.posted.requestId p := by
  have hkid : ¬ForeignKid Sample.posted (.ok Sample.refused) := by
    rintro ⟨_, _, ⟨⟩, hok, -⟩
    exact absurd hok (by decide)
  have herror : Sample.posted.tryAuthenticatedError Sample.aead Sample.refused =
      some (workspaceErrorWith .freshness "Command rejected." (some false) none) := by decide +kernel
  have hsent : Sample.posted.send Sample.aead (.ok Sample.refused) =
      .error (workspaceErrorWith .freshness "Command rejected." (some false) none) := by
    rw [Posted.send, if_pos (by decide), herror, Option.getD_some]
  have haead : ∀ iv additionalData ciphertext p, Sample.aead iv additionalData ciphertext = some p →
      p ∈ ({Sample.refusal.toUTF8.toList} : Set (List UInt8)) := fun _ _ _ _ hp =>
    (Option.some.inj (Option.ite_none_right_eq_some.1 hp).2).symm
  obtain ⟨hsealed, -⟩ :=
    (determinate_rejection_sealed Sample.posted (by decide) (.ok Sample.refused)).2 hkid _ _ haead
  exact ⟨by rw [hsent]; decide, hsealed _ hsent (by decide)⟩

end

section

attribute [local instance] Sample.browser

/-- A relay that answers the posted order with an envelope of a foreign key id makes the command end in a
determinate rejection although nothing was sealed, and the panel gives up the key of its first attempt. -/
theorem foreign_kid_rejects :
    let sent := Sample.posted.send (fun _ _ _ => none) (.ok Sample.answer)
    sent = .error (workspaceError .auth "Stream envelope key id mismatch.") ∧
      (workspaceError .auth "Stream envelope key id mismatch.").isDeterminate = true ∧
      ((⟨none, none, none⟩ : PlacePanel).submitPlace "signature" "key" sent).submissionKeys = none := by
  have hread : readEnvelope Sample.answer =
      .ok ⟨"other", "AAAAAAAAAAAAAAAA", 0, "AAAAAAAAAAAAAAAAAAAAAA=="⟩ := by decide +kernel
  have hforeign : ForeignKid Sample.posted (.ok Sample.answer) := ⟨_, _, rfl, by decide, hread, rfl, by decide⟩
  have hsent := send_of_foreignKid hforeign fun _ _ _ => none
  exact ⟨hsent, by decide, by rw [hsent]; decide⟩

end

end PrivateExecution.Web
