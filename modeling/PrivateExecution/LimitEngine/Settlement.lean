import PrivateExecution.LimitEngine.Trigger

/-!
# Settling a triggered chunk

Once `evaluate_trigger` has chosen a chunk, the order is moved to `Executing` and the chunk is sent. A
confirmed fill is booked by `resolve_fill` (`limit-engine/src/orchestrator.rs`) with one more
transition of the state machine; if that transition were refused, the fill on chain could never be
recorded.
-/

namespace PrivateExecution

lemma LimitOrder.validate_of_funded {o o' : LimitOrder} {atMs atMs' : I64} (h : o.validate atMs = .ok ())
    (hframe : o' = { o with remainingInput := o'.remainingInput, status := o'.status })
    (hfunded : o'.Funded) (hopen : o'.status.isExpiryGated = true → atMs' < o'.expiresAtMs)
    (hexpired : o'.status = .expired → o'.expiresAtMs ≤ atMs') : o'.validate atMs' = .ok () := by
  obtain ⟨hle, hfilled, hspend, hviable, haon⟩ := hfunded
  generalize o'.remainingInput = remaining, o'.status = status at *
  subst hframe
  simp only [LimitOrder.validate, StringId.validate, ensure_ok] at h ⊢
  obtain ⟨hid, howner, hwallet, hchain, hin, hout, hchains, hpair, hzero, hasset, -, -, -, -, -, -, -, hprice,
    hrisk⟩ := h
  exact ⟨hid, howner, hwallet, hchain, hin, hout, hchains, hpair, hzero, hasset, hle, hfilled, hspend,
    hviable, haon, hopen, hexpired, hprice, hrisk⟩

namespace StoredLimitOrder

variable {s s' x : StoredLimitOrder} {provider : QuoteProvider} {nowMs atMs : I64}
  {policy : FreshnessPolicy} {c : AtomicAmount} {requested : OrderStatus}

/-- The transition with which a confirmed fill is resolved; a fill that is not the expected one fails
the order. -/
def resolveFill (s : StoredLimitOrder) (expectedInput : AtomicAmount) (minOut : U128)
    (fill : RealizedFill) (atMs : I64) : Except LimitEngineError StoredLimitOrder :=
  if fill.netInput ≠ expectedInput ∨ fill.netOutput < minOut then s.applyTransition .failedFinal none atMs
  else do
    let remainingAfter ← okOr (s.order.remainingInput.checkedSub fill.netInput) .remainingUnderflow
    let delta : FillDelta := ⟨fill.netInput, fill.netOutput, remainingAfter⟩
    let target := if remainingAfter.val = 0 then OrderStatus.filled else .partiallyFilled
    s.applyTransition target (some delta) atMs

structure Moved (s s' : StoredLimitOrder) : Prop where
  order : s'.order = { s.order with status := s'.order.status }
  filledInput : s'.filledInput = s.filledInput

lemma Moved.refl (s : StoredLimitOrder) : s.Moved s := ⟨rfl, rfl⟩

lemma Moved.trans {t : StoredLimitOrder} (h : s.Moved s') (h' : s'.Moved t) : s.Moved t where
  order := by rw [h'.order, h.order]
  filledInput := h'.filledInput.trans h.filledInput

lemma moved_of_applyTransition (h : s.applyTransition requested none atMs = .ok s') : s.Moved s' := by
  have haccepted := accepted_of_applyTransition h
  have hremaining : s'.order.remainingInput = s.order.remainingInput :=
    Unsigned.ext haccepted.remaining
  have hfilled : s'.filledInput = s.filledInput := Unsigned.ext haccepted.filled
  refine ⟨?_, hfilled⟩
  have hframe := congrArg StoredLimitOrder.order haccepted.frame
  rw [hframe, hremaining]

lemma landed_of_applyTransition {fill : Option FillDelta}
    (h : s.applyTransition requested fill atMs = .ok s') :
    s'.order.validate atMs = .ok () ∧ (fill = none → s'.order.status = requested) := by
  obtain ⟨_, -, h⟩ := bind_ok.1 h
  obtain ⟨-, h⟩ := ensure_ok.1 h
  obtain ⟨-, -, h⟩ := bind_ok.1 h
  obtain ⟨next, -, h⟩ := bind_ok.1 h
  obtain ⟨-, h⟩ := ensure_ok.1 h
  obtain ⟨-, h⟩ := ensure_ok.1 h
  obtain ⟨_, -, h⟩ := bind_ok.1 h
  obtain ⟨_, hvalid, h⟩ := bind_ok.1 h
  obtain ⟨version, -, h⟩ := bind_ok.1 h
  obtain ⟨seq, -, h⟩ := bind_ok.1 h
  cases h
  refine ⟨mapError_eq_ok hvalid, ?_⟩
  rintro rfl
  simp [landing, deadlineTarget]

/-! ### Booking the fill -/

/-- Where a confirmed fill that leaves `rest` takes an executing order. -/
def settledStatus (s : StoredLimitOrder) (rest : AtomicAmount) (atMs : I64) : OrderStatus :=
  if rest.val = 0 then .filled else if s.order.expiresAtMs ≤ atMs then .expired else .partiallyFilled

/-- What makes the fill of a chunk bookable: the order is executing, its ledger adds up, and the chunk
leaves `rest`, which is nothing or viable. -/
structure Bookable (x : StoredLimitOrder) (c rest : AtomicAmount) : Prop where
  executing : x.order.status = .executing
  conserved : x.filledInput.val + x.order.remainingInput.val = x.order.maxInput.amount.val
  valid : ∃ atMs, x.order.validate atMs = .ok ()
  minFill : x.order.minFill ≤ c
  split : rest.val + c.val = x.order.remainingInput.val
  viable : rest.val ≠ 0 → x.order.minFill ≤ rest ∧ x.order.allowPartialFill = true

variable {rest out : AtomicAmount}

lemma Bookable.minFill_pos (h : x.Bookable c rest) : x.order.minFill.val ≠ 0 := by
  obtain ⟨t, hvalid⟩ := h.valid
  exact ((LimitOrder.funded_of_validate hvalid).viable (by simp [h.executing, OrderStatus.isExecutable])).1

def booked (x : StoredLimitOrder) (c rest : AtomicAmount) : StoredLimitOrder :=
  { x with
    filledInput := .lit (x.filledInput.val + c.val)
    order := { x.order with remainingInput := rest } }

lemma Bookable.applyFill (h : x.Bookable c rest) : x.applyFill ⟨c, out, rest⟩ = .ok (x.booked c rest) := by
  have hsplit := h.split
  have hsum := h.conserved
  have hmax := x.order.maxInput.amount.lt
  have hsub : x.order.remainingInput.checkedSub c = some rest :=
    Unsigned.checkedSub_eq_some.2 ⟨by omega, by omega⟩
  have hval : (Unsigned.lit (x.filledInput.val + c.val) : AtomicAmount).val =
      x.filledInput.val + c.val := Unsigned.lit_val (by omega)
  have hadd : x.filledInput.checkedAdd c = some (.lit (x.filledInput.val + c.val)) :=
    Unsigned.checkedAdd_eq_some.2 hval
  have hconserved : (Unsigned.lit (x.filledInput.val + c.val) : AtomicAmount).checkedAdd rest =
      some x.order.maxInput.amount := Unsigned.checkedAdd_eq_some.2 (by omega)
  simp [StoredLimitOrder.applyFill, hsub, hadd, hconserved, okOr, ensure, bind, Except.bind, booked, pure,
    Except.pure]

lemma settledStatus_cases (s : StoredLimitOrder) (rest : AtomicAmount) (atMs : I64) :
    rest.val = 0 ∧ s.settledStatus rest atMs = .filled ∨
      rest.val ≠ 0 ∧ s.order.expiresAtMs ≤ atMs ∧ s.settledStatus rest atMs = .expired ∨
      rest.val ≠ 0 ∧ atMs < s.order.expiresAtMs ∧ s.settledStatus rest atMs = .partiallyFilled := by
  unfold settledStatus
  split_ifs with hrest hlate
  · exact .inl ⟨hrest, rfl⟩
  · exact .inr (.inl ⟨hrest, hlate, rfl⟩)
  · exact .inr (.inr ⟨hrest, Int.not_le.1 hlate, rfl⟩)

lemma Bookable.validate (h : x.Bookable c rest) (atMs : I64) :
    LimitOrder.validate { (x.booked c rest).order with status := x.settledStatus rest atMs } atMs =
      .ok () := by
  obtain ⟨t, hvalid⟩ := h.valid
  have hmin := h.minFill_pos
  have hle : rest ≤ x.order.maxInput.amount := by
    have hsplit := h.split
    have hsum := h.conserved
    rw [Unsigned.le_def]
    omega
  rcases x.settledStatus_cases rest atMs with ⟨hrest, hto⟩ | ⟨-, hlate, hto⟩ | ⟨hrest, hopen, hto⟩
  · refine LimitOrder.validate_of_funded hvalid rfl ⟨hle, fun _ => hrest, ?_, ?_, ?_⟩ ?_ ?_ <;>
      simp [hto, OrderStatus.isExecutable, OrderStatus.isExpiryGated]
  · refine LimitOrder.validate_of_funded hvalid rfl ⟨hle, ?_, ?_, ?_, ?_⟩ ?_ fun _ => hlate <;>
      simp [hto, OrderStatus.isExecutable, OrderStatus.isExpiryGated]
  · obtain ⟨hviable, hpart⟩ := h.viable hrest
    refine LimitOrder.validate_of_funded hvalid rfl ⟨hle, ?_, fun _ => hrest, fun _ => ⟨hmin, hviable⟩, ?_⟩
      (fun _ => hopen) ?_
    all_goals simp [hto, booked, hpart]

lemma applyTransition_of_rules {fill : Option FillDelta} {next : StoredLimitOrder} {version seq : U64}
    {target effective : OrderStatus} (htarget : s.deadlineTarget requested fill atMs = target)
    (hallowed : s.order.status.canTransitionTo target = true) (hconserved : s.conservationHolds = true)
    (hdeadline : s.checkDeadline target atMs = .ok ()) (hstep : s.fillStep requested fill = .ok next)
    (hpart : requested = .partiallyFilled → next.order.remainingInput.val ≠ 0)
    (hfull : requested = .filled → next.order.remainingInput.val = 0)
    (hland : s.landing next target fill = effective) (hcheck : s.checkFill effective fill = .ok ())
    (hvalid : LimitOrder.validate { next.order with status := effective } atMs = .ok ())
    (hversion : s.version.checkedAdd (.lit 1) = some version)
    (hseq : s.lastTransitionSeq.checkedAdd (.lit 1) = some seq) :
    s.applyTransition requested fill atMs = .ok { next with
      order := { next.order with status := effective }
      version := version
      lastTransitionSeq := seq } := by
  subst htarget hland
  refine bind_ok.2 ⟨(), ensure_eq_ok.2 hallowed, ?_⟩
  refine ensure_ok.2 ⟨hconserved, bind_ok.2 ⟨(), hdeadline, ?_⟩⟩
  refine bind_ok.2 ⟨next, hstep, ensure_ok.2 ⟨hpart, ensure_ok.2 ⟨hfull, ?_⟩⟩⟩
  refine bind_ok.2 ⟨(), hcheck, bind_ok.2 ⟨(), ?_, ?_⟩⟩
  · rw [hvalid]
    rfl
  · exact bind_ok.2 ⟨version, okOr_eq_ok.2 hversion,
      bind_ok.2 ⟨seq, okOr_eq_ok.2 hseq, rfl⟩⟩

lemma deadlineTarget_settled (h : x.order.status = .executing) (delta : FillDelta) :
    x.deadlineTarget (if rest.val = 0 then .filled else .partiallyFilled) (some delta) atMs =
      x.settledStatus rest atMs := by
  unfold deadlineTarget settledStatus
  by_cases hrest : rest.val = 0
  · simp [hrest]
  · simp [hrest, h, OrderStatus.isFilling]

lemma landing_settled (delta : FillDelta) :
    x.landing (x.booked c rest) (x.settledStatus rest atMs) (some delta) = x.settledStatus rest atMs := by
  unfold landing
  split_ifs with hland
  · obtain ⟨hexpired, -, -, hrest⟩ := hland
    have hzero : rest.val = 0 := hrest
    simp [settledStatus, hzero]
  · rfl

lemma Bookable.applyTransition (h : x.Bookable c rest) (hversion : x.version.val + 1 < 2 ^ 64)
    (hseq : x.lastTransitionSeq.val + 1 < 2 ^ 64) (out : AtomicAmount) (atMs : I64) :
    ∃ next, x.applyTransition (if rest.val = 0 then .filled else .partiallyFilled)
        (some ⟨c, out, rest⟩) atMs = .ok next ∧
      next.order.status = x.settledStatus rest atMs ∧ next.order.remainingInput = rest := by
  have hcval : c.val ≠ 0 := by
    have hmin := h.minFill_pos
    have hle := h.minFill
    rw [Unsigned.le_def] at hle
    omega
  have hallowed : x.order.status.canTransitionTo (x.settledStatus rest atMs) = true := by
    rw [h.executing]
    rcases x.settledStatus_cases rest atMs with ⟨-, hto⟩ | ⟨-, -, hto⟩ | ⟨-, -, hto⟩ <;> rw [hto] <;> rfl
  have hdeadline : x.checkDeadline (x.settledStatus rest atMs) atMs = .ok () := by
    rcases x.settledStatus_cases rest atMs with ⟨-, hto⟩ | ⟨-, hlate, hto⟩ | ⟨-, hopen, hto⟩ <;> rw [hto]
    · simp [checkDeadline, OrderStatus.isTerminal]
    · simp [checkDeadline, hlate]
    · simp [checkDeadline, hopen]
  have hstep : x.fillStep (if rest.val = 0 then .filled else .partiallyFilled) (some ⟨c, out, rest⟩) =
      .ok (x.booked c rest) := by
    have hallowed : fillAllowed x.order.status (if rest.val = 0 then .filled else .partiallyFilled) =
        true := by
      rw [h.executing]
      split_ifs <;> rfl
    exact (if_pos hallowed).trans h.applyFill
  have hcheck : x.checkFill (x.settledStatus rest atMs) (some ⟨c, out, rest⟩) = .ok () := by
    refine ensure_ok.2 ⟨fun hpart => ?_, ensure_eq_ok.2 ⟨hcval, h.minFill⟩⟩
    refine (h.viable fun hzero => ?_).2
    simp [settledStatus, hzero] at hpart
  exact ⟨_, applyTransition_of_rules (deadlineTarget_settled h.executing _) hallowed
    (decide_eq_true (Unsigned.checkedAdd_eq_some.2 h.conserved.symm)) hdeadline hstep
    (by split_ifs with hrest <;> simp [booked, hrest]) (by split_ifs with hrest <;> simp [booked, hrest])
    (landing_settled _) hcheck (h.validate atMs) (dif_pos (by simpa using hversion))
    (dif_pos (by simpa using hseq)), rfl, rfl⟩

/-! ### From the trigger to the settlement -/

lemma fill_of_evaluateTrigger {signal : Bool}
    (h : s.evaluateTrigger provider nowMs policy signal = .ok ⟨s', .fill c⟩) :
    s.Fillable provider nowMs policy c ∧ s.Moved s' := by
  simp only [evaluateTrigger] at h
  by_cases hlate : s.order.status.isTerminal = false ∧ s.order.expiresAtMs ≤ nowMs
  · rw [if_pos hlate] at h
    obtain ⟨expired, -, h⟩ := bind_ok.1 h
    cases h
  rw [if_neg hlate] at h
  by_cases hterm : s.order.status.isTerminal = true
  · rw [if_pos hterm] at h
    cases h
  rw [if_neg hterm] at h
  by_cases hsignal : signal = false
  · rw [if_pos hsignal] at h
    cases h
  rw [if_neg hsignal] at h
  obtain ⟨candidate, hcandidate, h⟩ := bind_ok.1 h
  obtain ⟨chunk, hchunk, h⟩ := bind_ok.1 h
  cases chunk with
  | none =>
    obtain ⟨reverted, -, h⟩ := bind_ok.1 h
    cases h
  | some chunk =>
    cases h
    refine ⟨fillable_of_maxSafeFill hchunk, ?_⟩
    unfold promote at hcandidate
    split_ifs at hcandidate
    · cases hcandidate
      exact .refl s
    · exact moved_of_applyTransition hcandidate

lemma bookable_of_moved {m : StoredLimitOrder} {t : I64} (hchunk : s.Fillable provider nowMs policy c)
    (hmoved : s.Moved m) (h : m.applyTransition .executing none t = .ok x) :
    x.Bookable c (.lit (x.order.remainingInput.val - c.val)) := by
  obtain ⟨hvalid, hstatus⟩ := landed_of_applyTransition h
  have hx : s.Moved x := hmoved.trans (moved_of_applyTransition h)
  have hremaining : x.order.remainingInput = s.order.remainingInput := by rw [hx.order]
  have hminFill : x.order.minFill = s.order.minFill := by rw [hx.order]
  have hpart : x.order.allowPartialFill = s.order.allowPartialFill := by rw [hx.order]
  have hle : c.val ≤ x.order.remainingInput.val := hremaining ▸ hchunk.le_remaining
  have hval : (Unsigned.lit (x.order.remainingInput.val - c.val) : AtomicAmount).val =
      x.order.remainingInput.val - c.val :=
    Unsigned.lit_val (lt_of_le_of_lt (Nat.sub_le ..) x.order.remainingInput.lt)
  have haccepted := accepted_of_applyTransition h
  refine ⟨hstatus rfl, ?_, ⟨t, hvalid⟩, hminFill ▸ hchunk.minFill_le, by omega, fun hrest => ?_⟩
  · have hconserved := haccepted.conserved
    have hback : m.Moved x := moved_of_applyTransition h
    rw [hback.filledInput, hback.order]
    exact hconserved
  · have hne : c ≠ s.order.remainingInput := by
      rintro rfl
      exact hrest (by rw [hval, hremaining, Nat.sub_self])
    refine ⟨?_, ?_⟩
    · rw [Unsigned.le_def, hval, hminFill, hremaining]
      exact hchunk.remainder.resolve_left hne
    · rw [hpart]
      cases hall : s.order.allowPartialFill with
      | true => rfl
      | false => exact absurd (hchunk.whole hall) hne

/-- A chunk that was triggered can be settled: after the moves to `Executing`, the transition with which
a confirmed fill of exactly that chunk is resolved is accepted at every time, and the order it leaves
passes its checks then, provided that the order's counters are not used up. -/
theorem triggered_chunk_settles {candidate q m : StoredLimitOrder} {t₁ t₂ t₃ : I64} {signal : Bool}
    (htrigger : s.evaluateTrigger provider nowMs policy signal = .ok ⟨candidate, .fill c⟩)
    (hquoting : candidate.applyTransition .quoting none t₁ = .ok q)
    (hsimulating : q.applyTransition .simulating none t₂ = .ok m)
    (hexecuting : m.applyTransition .executing none t₃ = .ok x)
    (hversion : x.version.val + 1 < 2 ^ 64) (hseq : x.lastTransitionSeq.val + 1 < 2 ^ 64)
    (fill : RealizedFill) (hinput : fill.netInput = c) (minOut : U128) (hout : minOut ≤ fill.netOutput)
    (atMs : I64) :
    ∃ next, x.resolveFill c minOut fill atMs = .ok next ∧ next.order.validate atMs = .ok () ∧
      next.order.remainingInput.val + c.val = x.order.remainingInput.val ∧
      next.order.status = x.settledStatus next.order.remainingInput atMs := by
  obtain ⟨hchunk, hmoved⟩ := fill_of_evaluateTrigger htrigger
  have hmoved : s.Moved m := (hmoved.trans (moved_of_applyTransition hquoting)).trans
    (moved_of_applyTransition hsimulating)
  have hbook := bookable_of_moved hchunk hmoved hexecuting
  obtain ⟨next, hnext, hstatus, hrest⟩ := hbook.applyTransition hversion hseq fill.netOutput atMs
  have hsub : x.order.remainingInput.checkedSub c = some (.lit (x.order.remainingInput.val - c.val)) := by
    have hsplit := hbook.split
    exact Unsigned.checkedSub_eq_some.2 ⟨by omega, by omega⟩
  have hcompliant : ¬ (fill.netInput ≠ c ∨ fill.netOutput < minOut) := by
    rintro (hne | hlt)
    · exact hne hinput
    · exact absurd hout (Nat.not_le_of_lt hlt)
  refine ⟨next, ?_, (landed_of_applyTransition hnext).1, hrest ▸ hbook.split, hrest ▸ hstatus⟩
  rw [resolveFill, if_neg hcompliant, hinput]
  exact bind_ok.2 ⟨_, okOr_eq_ok.2 hsub, hnext⟩

def TriggerSample.moved (version : ℕ) (status : OrderStatus) (n : ℕ) : StoredLimitOrder :=
  { stored status 1 (version + n) with lastTransitionSeq := .lit n }

open TriggerSample in
/-- Two of the three units are triggered before the deadline and settled long after it. -/
theorem sample_chunk_settles :
    ∃ next, (moved 1 .executing 4).resolveFill (.lit 2) Unsigned.zero ⟨.lit 2, .lit 2⟩ (.lit 5000) = .ok next ∧
      next.order.validate (.lit 5000) = .ok () ∧
      next.order.remainingInput.val + 2 = (moved 1 .executing 4).order.remainingInput.val ∧
      next.order.status = (moved 1 .executing 4).settledStatus next.order.remainingInput (.lit 5000) := by
  have htrigger : (stored .active 1 1).evaluateTrigger quotes (.lit 100) .default true =
      .ok ⟨moved 1 .triggerCandidate 1, .fill (.lit 2)⟩ := by decide +kernel
  have hquoting : (moved 1 .triggerCandidate 1).applyTransition .quoting none (.lit 101) =
      .ok (moved 1 .quoting 2) := by decide +kernel
  have hsimulating : (moved 1 .quoting 2).applyTransition .simulating none (.lit 102) =
      .ok (moved 1 .simulating 3) := by decide +kernel
  have hexecuting : (moved 1 .simulating 3).applyTransition .executing none (.lit 103) =
      .ok (moved 1 .executing 4) := by decide +kernel
  exact triggered_chunk_settles htrigger hquoting hsimulating hexecuting (by decide +kernel)
    (by decide +kernel) ⟨.lit 2, .lit 2⟩ rfl Unsigned.zero (by decide) (.lit 5000)

open TriggerSample in
/-- An order that passes its checks, with a version that can be incremented four times: the chunk is
triggered, the order reaches `Executing`, and the confirmed fill is refused. -/
theorem used_up_counter_wedges :
    (stored .active 1 (2 ^ 64 - 5)).order.validate (.lit 100) = .ok () ∧
      (stored .active 1 (2 ^ 64 - 5)).evaluateTrigger quotes (.lit 100) .default true =
        .ok ⟨moved (2 ^ 64 - 5) .triggerCandidate 1, .fill (.lit 2)⟩ ∧
      (moved (2 ^ 64 - 5) .triggerCandidate 1).applyTransition .quoting none (.lit 101) =
        .ok (moved (2 ^ 64 - 5) .quoting 2) ∧
      (moved (2 ^ 64 - 5) .quoting 2).applyTransition .simulating none (.lit 102) =
        .ok (moved (2 ^ 64 - 5) .simulating 3) ∧
      (moved (2 ^ 64 - 5) .simulating 3).applyTransition .executing none (.lit 103) =
        .ok (moved (2 ^ 64 - 5) .executing 4) ∧
      (moved (2 ^ 64 - 5) .executing 4).resolveFill (.lit 2) Unsigned.zero ⟨.lit 2, .lit 2⟩ (.lit 200) =
        .error .arithmeticOverflow := by
  refine ⟨?_, ?_, ?_, ?_, ?_, ?_⟩ <;> decide +kernel

end StoredLimitOrder

end PrivateExecution
