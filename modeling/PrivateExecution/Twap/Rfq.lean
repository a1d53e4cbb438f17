import PrivateExecution.Twap.Progress

/-!
# Durable progress of an RFQ

The record of one request for quotes (`adaptive-exec/src/progress.rs`). Its ledger holds the keys of the
transitions and not what they recorded, and a call with a key of the ledger is answered with the record.
The immutable request, which no transition reads, is left out.
-/

namespace PrivateExecution.Twap

open Async

inductive RfqStatus where
  | requested | quoted | won | noWinner | cancelled | failedFinal
deriving DecidableEq

namespace RfqStatus

def isTerminal : RfqStatus → Bool
  | won | noWinner | cancelled | failedFinal => true
  | _ => false

def canTransitionTo : RfqStatus → RfqStatus → Bool
  | requested, quoted | requested, cancelled | requested, failedFinal | quoted, won | quoted, noWinner
  | quoted, cancelled | quoted, failedFinal => true
  | _, _ => false

def rank : RfqStatus → ℕ
  | requested => 0
  | quoted => 1
  | _ => 2

lemma rank_lt {s t : RfqStatus} (h : s.canTransitionTo t = true) : s.rank < t.rank := by
  revert h
  cases s <;> cases t <;> decide

lemma not_terminal {s t : RfqStatus} (h : s.canTransitionTo t = true) : s.isTerminal = false := by
  revert h
  cases s <;> cases t <;> decide

end RfqStatus

structure SolverQuote where
  solverId : String
  settledOutput : AssetAmount
  validUntilMs : I64
deriving DecidableEq

inductive NoWinnerReason where
  | requestExpired | noQuotes | allExpired | invalidBaseline | belowBaseline | arithmetic
deriving DecidableEq

/-- The result of one competition (`adaptive-exec/src/rfq.rs`). -/
inductive CompetitionOutcome where
  | winner (winner : SolverQuote) (runnerUp : Option SolverQuote) (improvementBps : U16)
  | noWinner (reason : NoWinnerReason) (bestQuote : Option SolverQuote) (improvementBps : Option U16)
deriving DecidableEq

structure RfqProgress where
  requestId : String
  status : RfqStatus
  winner : Option String
  improvementBps : Option U16
  version : U64
  updatedAtMs : I64
  applied : List String
deriving DecidableEq

namespace RfqProgress

def requested (requestId : String) : RfqProgress := ⟨requestId, .requested, none, none, .lit 1, .zero, []⟩

def new (requestId : String) : Except ProgressError RfqProgress := do
  ensure (isBlank requestId = false) .emptyId
  return requested requestId

def transition (p : RfqProgress) (next : RfqStatus) (atMs : I64) (key : String)
    (apply : RfqProgress → RfqProgress) : Except ProgressError RfqProgress := do
  ensure (isBlank key = false) .missingIdempotencyKey
  if key ∈ p.applied then return p
  else
    ensure (p.status.canTransitionTo next = true) .invalidTransition
    ensure (p.applied.length < maxAppliedProgressKeys) .idempotencyLedgerFull
    let version ← okOr (p.version.checkedAdd (.lit 1)) .saturated
    return apply { p with status := next, version, updatedAtMs := atMs, applied := p.applied ++ [key] }

variable (p : RfqProgress) (atMs : I64) (key : String)

def recordQuoted : Except ProgressError RfqProgress := p.transition .quoted atMs key id

def recordDecision : CompetitionOutcome → Except ProgressError RfqProgress
  | .winner winner _ bps =>
    p.transition .won atMs key fun u => { u with winner := some winner.solverId, improvementBps := some bps }
  | .noWinner _ _ bps => p.transition .noWinner atMs key fun u => { u with improvementBps := bps }

def cancel : Except ProgressError RfqProgress := p.transition .cancelled atMs key id

def failFinal : Except ProgressError RfqProgress := p.transition .failedFinal atMs key id

end RfqProgress

/-! ### Runs -/

/-- The content of a call. -/
inductive RfqOp where
  | quoted | decision (outcome : CompetitionOutcome) | cancel | failFinal
deriving DecidableEq

namespace RfqOp

def status : RfqOp → RfqStatus
  | quoted => .quoted
  | decision (.winner ..) => .won
  | decision (.noWinner ..) => .noWinner
  | cancel => .cancelled
  | failFinal => .failedFinal

def record : RfqOp → RfqProgress → RfqProgress
  | decision (.winner winner _ bps), u => { u with winner := some winner.solverId, improvementBps := some bps }
  | decision (.noWinner _ _ bps), u => { u with improvementBps := bps }
  | _, u => u

/-- The record has the winner and the improvement of the decision. -/
def Records (p : RfqProgress) : RfqOp → Prop
  | decision (.winner winner _ bps) => p.winner = some winner.solverId ∧ p.improvementBps = some bps
  | decision (.noWinner _ _ bps) => p.improvementBps = bps
  | _ => True

lemma record_frame (u : RfqProgress) : ∀ op : RfqOp, (op.record u).status = u.status ∧
    (op.record u).version = u.version ∧ (op.record u).applied = u.applied ∧ op.Records (op.record u)
  | quoted | cancel | failFinal => ⟨rfl, rfl, rfl, trivial⟩
  | decision (.winner ..) => ⟨rfl, rfl, rfl, rfl, rfl⟩
  | decision (.noWinner ..) => ⟨rfl, rfl, rfl, rfl⟩

end RfqOp

structure RfqCall where
  op : RfqOp
  atMs : I64
  key : String

def RfqCall.answer (p : RfqProgress) (c : RfqCall) : Except ProgressError RfqProgress :=
  match c.op with
  | .quoted => p.recordQuoted c.atMs c.key
  | .decision outcome => p.recordDecision c.atMs c.key outcome
  | .cancel => p.cancel c.atMs c.key
  | .failFinal => p.failFinal c.atMs c.key

/-- The record with the calls that took effect, the last one first. -/
abbrev Recorded := RfqProgress × List (String × RfqOp)

/-- The caller keeps the record on an error. -/
def rfq : Machine RfqCall fun _ => Except ProgressError RfqProgress where
  State := Recorded
  step s c :=
    match c.answer s.1 with
    | .ok p => (.ok p, p, if p = s.1 then s.2 else (c.key, c.op) :: s.2)
    | .error e => (.error e, s)

/-- The call tells the truth about its effect. -/
structure Honest (s : Recorded) (c : RfqCall) : Prop where
  asked : ∀ p, c.answer s.1 = .ok p → p.status = c.op.status ∧ c.op.Records p
  repeated : (c.key, c.op) ∈ s.2 → ∀ p, c.answer s.1 = .ok p → p = s.1
  refused : ∀ op, (c.key, op) ∈ s.2 → op ≠ c.op → ∃ e, c.answer s.1 = .error e
  terminal : ∀ p, c.answer s.1 = .ok p → s.1.status.isTerminal = true → p.status = s.1.status
  version : ∀ p, c.answer s.1 = .ok p → p = s.1 ∨ p.version.val = s.1.version.val + 1

/-- A call with an applied key repeats the last call that took effect. -/
def RepeatsLast (s : Recorded) (c : RfqCall) : Prop :=
  c.key ∈ s.1.applied → s.2.head? = some (c.key, c.op)

/-- What a transition makes of the record. -/
structure Effective (p p' : RfqProgress) (c : RfqCall) : Prop where
  key : isBlank c.key = false
  allowed : p.status.canTransitionTo c.op.status = true
  status : p'.status = c.op.status
  records : c.op.Records p'
  version : p'.version.val = p.version.val + 1
  applied : p'.applied = p.applied ++ [c.key]

variable {p p' : RfqProgress} {c : RfqCall}

lemma answer_eq (p : RfqProgress) :
    ∀ c : RfqCall, c.answer p = p.transition c.op.status c.atMs c.key c.op.record
  | ⟨.quoted, _, _⟩ | ⟨.cancel, _, _⟩ | ⟨.failFinal, _, _⟩ | ⟨.decision (.winner ..), _, _⟩
  | ⟨.decision (.noWinner ..), _, _⟩ => rfl

lemma answer_of_mem (hkey : isBlank c.key = false) (hmem : c.key ∈ p.applied) : c.answer p = .ok p := by
  rw [answer_eq, RfqProgress.transition, ensure_pos hkey, if_pos hmem]
  rfl

lemma Effective.of_answer (hfresh : c.key ∉ p.applied) (h : c.answer p = .ok p') : Effective p p' c := by
  rw [answer_eq, RfqProgress.transition, ensure_ok, if_neg hfresh, ensure_ok,
    ensure_ok, bind_ok] at h
  obtain ⟨hkey, hallowed, -, version, hversion, hp⟩ := h
  obtain rfl := Except.ok.inj hp
  have hnext : version.val = p.version.val + 1 := Unsigned.checkedAdd_eq_some.1 (okOr_eq_ok.1 hversion)
  obtain ⟨hstatus, hver, happlied, hrecords⟩ := RfqOp.record_frame { p with
    status := c.op.status, version, updatedAtMs := c.atMs, applied := p.applied ++ [c.key] } c.op
  exact ⟨hkey, hallowed, hstatus, hrecords, (congrArg _ hver).trans hnext, happlied⟩

/-- The record is what the last call that took effect made of it. -/
structure RfqInv (s : Recorded) : Prop where
  keys : s.1.applied = (s.2.map Prod.fst).reverse
  notBlank : ∀ key ∈ s.1.applied, isBlank key = false
  unique : s.2.Pairwise fun a b => a.1 ≠ b.1
  last : ∀ entry, s.2.head? = some entry → s.1.status = entry.2.status ∧ entry.2.Records s.1
  earlier : ∀ entry ∈ s.2.tail, entry.2.status.rank < s.1.status.rank

namespace RfqInv

lemma requested (requestId : String) : RfqInv (.requested requestId, []) := by
  refine ⟨rfl, ?_, .nil, ?_, ?_⟩ <;> simp [RfqProgress.requested]

variable {s : Recorded}

section

variable (h : RfqInv s)

include h

lemma le_rank {entry : String × RfqOp} (hmem : entry ∈ s.2) :
    entry.2.status.rank ≤ s.1.status.rank := by
  obtain ⟨p, _ | ⟨last, rest⟩⟩ := s
  · nomatch hmem
  · rcases List.mem_cons.1 hmem with rfl | htail
    · exact (congrArg _ (h.last _ rfl).1.symm).le
    · exact (h.earlier _ htail).le

lemma mem_applied {key : String} : key ∈ s.1.applied ↔ ∃ op, (key, op) ∈ s.2 := by
  simp [h.keys]

lemma fresh {key : String} (hkey : key ∉ s.1.applied) (op : RfqOp) : (key, op) ∉ s.2 :=
  fun hop => hkey (h.mem_applied.2 ⟨op, hop⟩)

lemma step (c : RfqCall) : RfqInv (rfq.step s c).2 := by
  unfold rfq
  by_cases hmem : c.key ∈ s.1.applied
  · simpa [answer_of_mem (h.notBlank _ hmem) hmem] using h
  cases hanswer : c.answer s.1 with
  | error e => simpa [hanswer] using h
  | ok p' =>
    have he := Effective.of_answer hmem hanswer
    have hne : p' ≠ s.1 := fun hp => by simpa [hp] using he.version
    simp only [hanswer, if_neg hne]
    refine ⟨by simp [he.applied, h.keys], fun key hkey => ?_, ?_, ?_, fun entry hentry => ?_⟩
    · rw [he.applied] at hkey
      rcases List.mem_append.1 hkey with hold | hnew
      · exact h.notBlank key hold
      · exact List.mem_singleton.1 hnew ▸ he.key
    · refine List.pairwise_cons.2 ⟨fun entry hentry hkey => h.fresh hmem entry.2 ?_, h.unique⟩
      rwa [show (c.key, entry.2) = entry from Prod.ext hkey rfl]
    · rintro entry ⟨⟩
      exact ⟨he.status, he.records⟩
    · rw [he.status]
      exact (h.le_rank hentry).trans_lt (RfqStatus.rank_lt he.allowed)

lemma same_op {key : String} {op op' : RfqOp} (hhead : s.2.head? = some (key, op))
    (hmem : (key, op') ∈ s.2) : op' = op := by
  obtain ⟨p, _ | ⟨last, rest⟩⟩ := s
  · nomatch hmem
  · obtain rfl : last = (key, op) := Option.some.inj hhead
    rcases List.mem_cons.1 hmem with heq | hrest
    · exact congrArg Prod.snd heq
    · exact ((List.pairwise_cons.1 h.unique).1 _ hrest rfl).elim

lemma honest_iff (c : RfqCall) : Honest s c ↔ RepeatsLast s c := by
  by_cases hmem : c.key ∈ s.1.applied
  swap
  · have he : ∀ p, c.answer s.1 = .ok p → Effective s.1 p c := fun _ => .of_answer hmem
    refine iff_of_true ⟨fun p hp => ⟨(he p hp).status, (he p hp).records⟩, fun hop => absurd hop (h.fresh hmem _),
      fun op hop => absurd hop (h.fresh hmem op), fun p hp hterminal => ?_, fun p hp => .inr (he p hp).version⟩
      fun hmem' => absurd hmem' hmem
    simp [RfqStatus.not_terminal (he p hp).allowed] at hterminal
  have heq := answer_of_mem (h.notBlank _ hmem) hmem
  constructor
  · intro hhonest _
    obtain ⟨op, hop⟩ := h.mem_applied.1 hmem
    have hsame : op = c.op := by
      by_contra hne
      obtain ⟨e, he⟩ := hhonest.refused op hop hne
      simp [heq] at he
    subst hsame
    have hstatus := (hhonest.asked _ heq).1
    obtain ⟨p, _ | ⟨last, rest⟩⟩ := s
    · nomatch hop
    · rcases List.mem_cons.1 hop with rfl | htail
      · rfl
      · -- An earlier call asked for a status that has been left.
        have hlt := h.earlier _ htail
        rw [hstatus] at hlt
        exact absurd hlt (lt_irrefl _)
  · intro hrepeats
    obtain ⟨hstatus, hrecords⟩ := h.last _ (hrepeats hmem)
    exact ⟨by simp [heq, hstatus, hrecords], by simp [heq],
      fun op hop hne => absurd (h.same_op (hrepeats hmem) hop) hne, by simp [heq], by simp [heq]⟩

end

end RfqInv

/-- The calls of a run are honest exactly if each one with an applied key repeats the last call that took
effect. -/
theorem rfq_honest_iff (requestId : String) (calls : List RfqCall) :
    rfq.Meets Honest (.requested requestId, []) calls ↔ rfq.Meets RepeatsLast (.requested requestId, []) calls :=
  Machine.meets_congr (RfqInv.requested requestId) (fun _ c h => h.step c) fun _ c h => h.honest_iff c

/-- A cancellation with the key of the quotes succeeds and cancels nothing. -/
theorem cancel_without_effect :
    (do
      let p ← RfqProgress.new "rfq"
      let p ← p.recordQuoted .zero "key"
      let cancelled ← p.cancel .zero "key"
      return (cancelled.status, decide (cancelled = p))) = Except.ok (.quoted, true) := by
  decide +kernel

end PrivateExecution.Twap
