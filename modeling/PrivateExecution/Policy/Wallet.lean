import PrivateExecution.Policy.Engine

/-!
# Wallet limits

The per-wallet limits and the rule for relaxing them (`policy/src/wallet.rs`). A change that loosens
nothing is applied at once, every other change needs the owner's fresh confirmation on the web.
-/

namespace PrivateExecution

inductive WalletPolicyError where
  | invalidLimits | walletMismatch | versionConflict | strongConfirmationRequired
  | missingIdempotencyKey | tradingDisabled | unavailable
deriving DecidableEq

/-- The hash sets of the source are lists here, compared as sets. -/
structure WalletLimits where
  walletRef : WalletRef
  maxTradeUsd : UsdMicros
  maxHourlyTurnoverUsd : UsdMicros
  maxDailyTurnoverUsd : UsdMicros
  maxBuyTax : Bps
  maxSellTax : Bps
  maxPriceImpact : Bps
  maxSlippage : Bps
  allowedChains : List ChainId
  allowedVenues : List String

namespace WalletLimits

def validate (l : WalletLimits) : Except WalletPolicyError Unit := do
  ensure (l.maxTradeUsd.val ≠ 0 ∧ l.maxTradeUsd ≤ l.maxHourlyTurnoverUsd ∧
    l.maxTradeUsd ≤ l.maxDailyTurnoverUsd ∧ l.maxHourlyTurnoverUsd ≤ l.maxDailyTurnoverUsd)
    .invalidLimits
  ensure (l.allowedChains ≠ []) .invalidLimits
  ensure (∀ v ∈ l.allowedVenues, isBlank v = false) .invalidLimits

/-- The seven caps, in the order in which the classifier compares them. -/
def caps (l : WalletLimits) : List ℕ :=
  [l.maxTradeUsd.val, l.maxHourlyTurnoverUsd.val, l.maxDailyTurnoverUsd.val, l.maxBuyTax.get,
    l.maxSellTax.get, l.maxPriceImpact.get, l.maxSlippage.get]

/-- Some dimension of `next` is looser: a higher cap, or a chain or a venue that was not allowed. -/
def looser (current next : WalletLimits) : Bool :=
  (current.caps.zip next.caps).any (fun pair => pair.1 < pair.2) ||
    !decide (next.allowedChains ⊆ current.allowedChains) ||
    !decide (next.allowedVenues ⊆ current.allowedVenues)

/-- The derived equality, sets being compared as sets. -/
def same (a b : WalletLimits) : Bool :=
  a.walletRef = b.walletRef && a.caps = b.caps &&
    decide (a.allowedChains ⊆ b.allowedChains ∧ b.allowedChains ⊆ a.allowedChains) &&
    decide (a.allowedVenues ⊆ b.allowedVenues ∧ b.allowedVenues ⊆ a.allowedVenues)

structure Within (next current : WalletLimits) : Prop where
  maxTradeUsd : next.maxTradeUsd ≤ current.maxTradeUsd
  maxHourlyTurnoverUsd : next.maxHourlyTurnoverUsd ≤ current.maxHourlyTurnoverUsd
  maxDailyTurnoverUsd : next.maxDailyTurnoverUsd ≤ current.maxDailyTurnoverUsd
  maxBuyTax : next.maxBuyTax ≤ current.maxBuyTax
  maxSellTax : next.maxSellTax ≤ current.maxSellTax
  maxPriceImpact : next.maxPriceImpact ≤ current.maxPriceImpact
  maxSlippage : next.maxSlippage ≤ current.maxSlippage
  allowedChains : next.allowedChains ⊆ current.allowedChains
  allowedVenues : next.allowedVenues ⊆ current.allowedVenues

lemma within_of_looser_eq_false {current next : WalletLimits} (h : looser current next = false) :
    Within next current := by
  simp only [looser, caps, List.zip_cons_cons, List.zip_nil_right, List.any_cons, List.any_nil,
    Bool.or_false, Bool.or_eq_false_iff, Bool.not_eq_false', decide_eq_true_eq, decide_eq_false_iff_not,
    not_lt] at h
  obtain ⟨⟨⟨htrade, hhourly, hdaily, hbuy, hsell, himpact, hslippage⟩, hchains⟩, hvenues⟩ := h
  exact ⟨htrade, hhourly, hdaily, hbuy, hsell, himpact, hslippage, hchains, hvenues⟩

end WalletLimits

def ValidLimits : Type := { l : WalletLimits // l.validate = .ok () }

/-- The limits of the engine; what it checks of them was checked of the record. -/
def ValidLimits.toPolicyLimits (l : ValidLimits) : PolicyLimits where
  maxTradeUsd := l.1.maxTradeUsd
  maxHourlyTurnoverUsd := l.1.maxHourlyTurnoverUsd
  maxDailyTurnoverUsd := l.1.maxDailyTurnoverUsd
  maxBuyTax := l.1.maxBuyTax
  maxSellTax := l.1.maxSellTax
  maxPriceImpact := l.1.maxPriceImpact
  maxSlippage := l.1.maxSlippage
  allowedChains := l.1.allowedChains
  allowedVenues := l.1.allowedVenues
  tradeUsd_ne := (ensure_ok.1 l.2).1.1
  hourly_le := (ensure_ok.1 l.2).1.2.1
  daily_le := (ensure_ok.1 l.2).1.2.2.1
  chains_ne := (ensure_ok.1 (ensure_ok.1 l.2).2).1
  venues_notBlank := ensure_eq_ok.1 (ensure_ok.1 (ensure_ok.1 l.2).2).2

/-! ### Classification -/

inductive LimitsChange where
  | unchanged | tightening | relaxation | mixed
deriving DecidableEq

def LimitsChange.requiresStrongConfirmation : LimitsChange → Bool
  | .relaxation | .mixed => true
  | .unchanged | .tightening => false

/-- A dimension is tighter if it is looser the other way round. -/
def classifyLimitsChange (current : Option WalletLimits) (next : WalletLimits) : LimitsChange :=
  match current with
  | none => .relaxation
  | some current =>
    match current.looser next, next.looser current with
    | false, false => .unchanged
    | false, true => .tightening
    | true, false => .relaxation
    | true, true => .mixed

lemma requiresStrongConfirmation_classify {current next : WalletLimits} :
    (classifyLimitsChange (some current) next).requiresStrongConfirmation = current.looser next := by
  rw [classifyLimitsChange]
  cases current.looser next <;> cases next.looser current <;> rfl

/-! ### The store -/

inductive Confirmation where
  | none
  | webStrong (verifiedAtMs : I64)

def Confirmation.isStrong : Confirmation → Bool
  | .none => false
  | .webStrong _ => true

structure WalletPolicyRecord where
  limits : ValidLimits
  version : U64

structure WalletLimitsChange where
  walletRef : WalletRef
  next : WalletLimits
  expectedVersion : U64
  idempotencyKey : String

def maxAppliedPolicyKeys : ℕ := 4096

/-- The records by wallet, and the applied writes by scoped key. -/
structure InMemoryWalletPolicyStore where
  records : String → Option WalletPolicyRecord
  applied : List (String × WalletPolicyRecord)

namespace InMemoryWalletPolicyStore

def new : InMemoryWalletPolicyStore := ⟨fun _ => none, []⟩

def scopedKey (change : WalletLimitsChange) : String :=
  change.walletRef.asStr ++ ":" ++ change.idempotencyKey

def screen (change : WalletLimitsChange) (tradingEnabled : Bool) : Except WalletPolicyError ValidLimits := do
  ensure (tradingEnabled = true) .tradingDisabled
  ensure (isBlank change.idempotencyKey = false) .missingIdempotencyKey
  ensure (change.walletRef = change.next.walletRef) .walletMismatch
  match h : change.next.validate with
  | .error e => .error e
  | .ok () => .ok ⟨change.next, h⟩

def admitted (current : Option WalletPolicyRecord) (change : WalletLimitsChange)
    (confirmation : Confirmation) : Except WalletPolicyError U64 := do
  let observed := current.elim Unsigned.zero (·.version)
  ensure (observed = change.expectedVersion) .versionConflict
  ensure ((classifyLimitsChange (current.map (·.limits.1)) change.next).requiresStrongConfirmation = true →
    confirmation.isStrong = true) .strongConfirmationRequired
  okOr (observed.checkedAdd (.lit 1)) .unavailable

/-- One write; the store is locked from the first look at the records on. A full ledger of applied
keys is noticed only after the record was replaced. -/
def apply (s : InMemoryWalletPolicyStore) (change : WalletLimitsChange) (confirmation : Confirmation)
    (tradingEnabled : Bool) : Except WalletPolicyError WalletPolicyRecord × InMemoryWalletPolicyStore :=
  match screen change tradingEnabled with
  | .error e => (.error e, s)
  | .ok next =>
    match s.applied.lookup (scopedKey change) with
    | some record =>
      if record.limits.1.same change.next then (.ok record, s) else (.error .versionConflict, s)
    | none =>
      match admitted (s.records change.walletRef.asStr) change confirmation with
      | .error e => (.error e, s)
      | .ok version =>
        let record : WalletPolicyRecord := ⟨next, version⟩
        let records := Function.update s.records change.walletRef.asStr (some record)
        if maxAppliedPolicyKeys ≤ s.applied.length then (.error .unavailable, { s with records := records })
        else (.ok record, ⟨records, (scopedKey change, record) :: s.applied⟩)

end InMemoryWalletPolicyStore

/-! ### What the engine lets through -/

namespace PolicyEngine

def Approves (enabled : Bool) (limits : PolicyLimits) (intent : TradeIntent) (ctx : PolicyContext) : Prop :=
  ∃ a, authorizeTrade enabled limits intent ctx = .ok a

structure Passes (enabled : Bool) (limits : PolicyLimits) (intent : TradeIntent) (ctx : PolicyContext) :
    Prop where
  on : enabled = true
  valid : intent.validate ctx.nowMs = .ok ()
  valuation : checkValuation intent ctx = .ok ()
  chain : intent.chain ∈ limits.allowedChains
  size : ctx.tradeUsd ≤ limits.maxTradeUsd
  hourly : checkTurnover ctx.turnover.hourlyUsedUsd ctx.tradeUsd limits.maxHourlyTurnoverUsd
    .hourlyTurnoverExceeded = .ok ()
  daily : checkTurnover ctx.turnover.dailyUsedUsd ctx.tradeUsd limits.maxDailyTurnoverUsd
    .dailyTurnoverExceeded = .ok ()
  risk : intent.risk.maxBuyTax ≤ limits.maxBuyTax ∧ intent.risk.maxSellTax ≤ limits.maxSellTax ∧
    intent.risk.maxPriceImpact ≤ limits.maxPriceImpact ∧ intent.risk.maxSlippage ≤ limits.maxSlippage
  venue : checkVenue limits.allowedVenues ctx.venue = .ok ()

variable {enabled : Bool} {limits : PolicyLimits} {intent : TradeIntent} {ctx : PolicyContext}

lemma approves_iff : Approves enabled limits intent ctx ↔ Passes enabled limits intent ctx := by
  constructor
  · rintro ⟨a, h⟩
    obtain ⟨henabled, h⟩ := ensure_ok.1 h
    obtain ⟨⟨⟩, hintent, h⟩ := bind_ok.1 h
    obtain ⟨⟨⟩, hvaluation, h⟩ := bind_ok.1 h
    obtain ⟨hchain, h⟩ := ensure_ok.1 h
    obtain ⟨hsize, h⟩ := ensure_ok.1 h
    obtain ⟨⟨⟩, hhourly, h⟩ := bind_ok.1 h
    obtain ⟨⟨⟩, hdaily, h⟩ := bind_ok.1 h
    obtain ⟨hrisk, h⟩ := ensure_ok.1 h
    obtain ⟨⟨⟩, hvenue, -⟩ := bind_ok.1 h
    exact ⟨henabled, mapError_eq_ok hintent, hvaluation, hchain, hsize, hhourly, hdaily, hrisk, hvenue⟩
  · intro h
    refine ⟨⟨intent.id, intent.walletRef, intent.chain, intent.idempotencyKey, intent.expiryMs, ctx.tradeUsd,
      ctx.nowMs⟩, ensure_ok.2 ⟨h.on, bind_ok.2 ⟨(), ?_, bind_ok.2
      ⟨(), h.valuation, ensure_ok.2 ⟨h.chain, ensure_ok.2 ⟨h.size, ?_⟩⟩⟩⟩⟩⟩
    · rw [h.valid]
      rfl
    · exact bind_ok.2 ⟨(), h.hourly, bind_ok.2 ⟨(), h.daily,
        ensure_ok.2 ⟨h.risk, bind_ok.2 ⟨(), h.venue, rfl⟩⟩⟩⟩

lemma checkTurnover_mono {used trade limit limit' : UsdMicros} {e : PolicyError}
    (h : checkTurnover used trade limit e = .ok ()) (hle : limit ≤ limit') :
    checkTurnover used trade limit' e = .ok () := by
  obtain ⟨total, htotal, h⟩ := bind_ok.1 h
  exact bind_ok.2 ⟨total, htotal, ensure_eq_ok.2 (Nat.le_trans (ensure_eq_ok.1 h) hle)⟩

lemma checkVenue_mono {allowed allowed' : List String} {venue : Option String}
    (h : checkVenue allowed venue = .ok ()) (hsub : allowed ⊆ allowed')
    (hempty : allowed = [] → allowed' = []) : checkVenue allowed' venue = .ok () := by
  unfold checkVenue at h ⊢
  split_ifs with hnil'
  · rfl
  · rw [if_neg fun hnil => hnil' (hempty hnil)] at h
    obtain ⟨v, hv, h⟩ := bind_ok.1 h
    exact bind_ok.2 ⟨v, hv, ensure_eq_ok.2 (hsub (ensure_eq_ok.1 h))⟩

end PolicyEngine

open PolicyEngine

lemma WalletLimits.Within.approves {cur next : ValidLimits} (h : Within next.1 cur.1)
    (hvenues : next.1.allowedVenues = [] → cur.1.allowedVenues = []) {enabled : Bool} {intent : TradeIntent}
    {ctx : PolicyContext} (happroves : Approves enabled next.toPolicyLimits intent ctx) :
    Approves enabled cur.toPolicyLimits intent ctx := by
  have hp := approves_iff.1 happroves
  obtain ⟨hbuy, hsell, himpact, hslippage⟩ := hp.risk
  refine approves_iff.2 ⟨hp.on, hp.valid, hp.valuation, h.allowedChains hp.chain,
    Nat.le_trans hp.size h.maxTradeUsd, checkTurnover_mono hp.hourly h.maxHourlyTurnoverUsd,
    checkTurnover_mono hp.daily h.maxDailyTurnoverUsd, ?_, checkVenue_mono hp.venue h.allowedVenues hvenues⟩
  exact ⟨Nat.le_trans hbuy h.maxBuyTax, Nat.le_trans hsell h.maxSellTax,
    Nat.le_trans himpact h.maxPriceImpact, Nat.le_trans hslippage h.maxSlippage⟩

/-! ### A trade that any limits without venues let through -/

namespace Smallest

def intent (chain : ChainId) : TradeIntent :=
  .marketBuy ⟨chain, "USDC"⟩ ⟨chain, "TOKEN"⟩ (.lit 1) ⟨.lit 0, .lit 0, .lit 0, .lit 0, none⟩

/-- The first trade of a wallet, worth the smallest unit, on no named venue. -/
def ctx : PolicyContext where
  nowMs := .zero
  tradeUsd := .lit 1
  turnover := ⟨.zero, .zero⟩
  venue := none
  tradeUsd_ne := Nat.one_ne_zero
  venue_notBlank := notBlank_none

variable {chain : ChainId} {limits : PolicyLimits}

lemma intent_valid (h : chain.isValid = true) :
    (intent chain).validate ctx.nowMs = .ok () := by
  have hin : (AssetId.mk chain "USDC").isValid = true := by simp [AssetId.isValid, h]; decide
  have hout : (AssetId.mk chain "TOKEN").isValid = true := by simp [AssetId.isValid, h]; decide
  simp [TradeIntent.validate, intent, TradeIntent.marketBuy, h, hin, hout,
    TradeIntent.validateOrderType,
    TradeIntent.validateLimitPrice, RiskConstraints.validate, bind_ok]

lemma approves (hvenues : limits.allowedVenues = [])
    (hchain : chain ∈ limits.allowedChains) (hvalid : chain.isValid = true) :
    Approves true limits (intent chain) ctx := by
  have hsize : 1 ≤ limits.maxTradeUsd.val := Nat.one_le_iff_ne_zero.2 limits.tradeUsd_ne
  have hturnover : ∀ {limit : UsdMicros} {e}, limits.maxTradeUsd ≤ limit →
      checkTurnover .zero ctx.tradeUsd limit e = .ok () := fun hle =>
    bind_ok.2 ⟨.lit 1, okOr_eq_ok.2 (Unsigned.checkedAdd_eq_some.2 rfl),
      ensure_eq_ok.2 (Nat.le_trans hsize hle)⟩
  refine approves_iff.2 ⟨rfl, intent_valid hvalid, rfl, hchain, hsize, hturnover limits.hourly_le,
    hturnover limits.daily_le, ⟨Nat.zero_le _, Nat.zero_le _, Nat.zero_le _, Nat.zero_le _⟩, ?_⟩
  rw [checkVenue, if_pos hvenues]

lemma not_approves (hvenues : limits.allowedVenues ≠ []) :
    ¬Approves true limits (intent chain) ctx := by
  intro h
  have hvenue := (approves_iff.1 h).venue
  rw [checkVenue, if_neg hvenues] at hvenue
  cases hvenue

end Smallest

/-! ### Unconfirmed changes -/

namespace InMemoryWalletPolicyStore

variable (s : InMemoryWalletPolicyStore) {change : WalletLimitsChange} {confirmation : Confirmation}
  {tradingEnabled : Bool}

/-- The store has limits for the wallet of the intent, and the engine lets the trade through under
them. -/
def Authorizes (enabled : Bool) (intent : TradeIntent) (ctx : PolicyContext) : Prop :=
  ∃ record, s.records intent.walletRef.asStr = some record ∧
    Approves enabled record.limits.toPolicyLimits intent ctx

/-- The change does not empty the list of venues of its wallet. -/
def KeepsVenues (change : WalletLimitsChange) : Prop :=
  ∀ record, s.records change.walletRef.asStr = some record → change.next.allowedVenues = [] →
    record.limits.1.allowedVenues = []

/-- Any number of unconfirmed writes, each of which keeps the venues. -/
inductive Unconfirmed (s : InMemoryWalletPolicyStore) : InMemoryWalletPolicyStore → Prop where
  | refl : Unconfirmed s s
  | apply {s' : InMemoryWalletPolicyStore} {change : WalletLimitsChange} {confirmation : Confirmation}
      {tradingEnabled : Bool} (h : Unconfirmed s s') (hconfirmation : confirmation.isStrong = false)
      (hvenues : s'.KeepsVenues change) :
      Unconfirmed s (s'.apply change confirmation tradingEnabled).2

lemma screen_eq_ok {next : ValidLimits}
    (h : screen change tradingEnabled = .ok next) : next.1 = change.next := by
  obtain ⟨-, h⟩ := ensure_ok.1 h
  obtain ⟨-, h⟩ := ensure_ok.1 h
  obtain ⟨-, h⟩ := ensure_ok.1 h
  split at h
  · cases h
  · cases h
    rfl

lemma admitted_eq_ok {current : Option WalletPolicyRecord} {version : U64}
    (hconfirmation : confirmation.isStrong = false)
    (h : admitted current change confirmation = .ok version) :
    ∃ record, current = some record ∧ change.next.Within record.limits.1 := by
  obtain ⟨-, h⟩ := ensure_ok.1 h
  obtain ⟨hclass, -⟩ := ensure_ok.1 h
  rw [hconfirmation] at hclass
  cases current with
  | none => cases hclass rfl
  | some record =>
    refine ⟨record, rfl, WalletLimits.within_of_looser_eq_false ?_⟩
    rw [Option.map_some, requiresStrongConfirmation_classify] at hclass
    exact Bool.eq_false_iff.2 fun hloose => Bool.false_ne_true (hclass hloose)

lemma records_apply (change : WalletLimitsChange) (confirmation : Confirmation) (tradingEnabled : Bool) :
    (s.apply change confirmation tradingEnabled).2.records = s.records ∨
      ∃ (next : ValidLimits) (version : U64), next.1 = change.next ∧
        admitted (s.records change.walletRef.asStr) change confirmation = .ok version ∧
        (s.apply change confirmation tradingEnabled).2.records =
          Function.update s.records change.walletRef.asStr (some ⟨next, version⟩) := by
  unfold apply
  split
  · exact .inl rfl
  next next hscreen =>
    split
    · split_ifs <;> exact .inl rfl
    · split
      · exact .inl rfl
      next version hversion =>
        refine .inr ⟨next, version, screen_eq_ok hscreen, hversion, ?_⟩
        split_ifs <;> rfl

lemma authorizes_of_apply {s : InMemoryWalletPolicyStore} {enabled : Bool} {intent : TradeIntent} {ctx : PolicyContext}
    (hconfirmation : confirmation.isStrong = false) (hvenues : s.KeepsVenues change)
    (h : (s.apply change confirmation tradingEnabled).2.Authorizes enabled intent ctx) :
    s.Authorizes enabled intent ctx := by
  obtain ⟨record, hrecord, happroves⟩ := h
  rcases records_apply s change confirmation tradingEnabled with hsame | ⟨next, version, hnext, hversion, hrecords⟩
  · exact ⟨record, hsame ▸ hrecord, happroves⟩
  rw [hrecords, Function.update_apply] at hrecord
  split_ifs at hrecord with hwallet
  · cases hrecord
    obtain ⟨current, hcurrent, hwithin⟩ := admitted_eq_ok hconfirmation hversion
    refine ⟨current, hwallet ▸ hcurrent, ?_⟩
    rw [← hnext] at hwithin
    exact hwithin.approves (fun hnil => hvenues current hcurrent (hnext ▸ hnil)) happroves
  · exact ⟨record, hrecord, happroves⟩

end InMemoryWalletPolicyStore

open InMemoryWalletPolicyStore

/-- A change that needs no confirmation lets no trade through that was refused before, exactly if it
does not empty a list of venues (or allows no valid chain at all); and so does every run of unconfirmed
writes of which none empties a list of venues. -/
theorem unconfirmed_change_keeps_trades (cur next : ValidLimits) (s s' : InMemoryWalletPolicyStore) :
    ((classifyLimitsChange (some cur.1) next.1 = .unchanged ∨
        classifyLimitsChange (some cur.1) next.1 = .tightening) →
      ((∀ enabled intent ctx, Approves enabled next.toPolicyLimits intent ctx →
          Approves enabled cur.toPolicyLimits intent ctx) ↔
        (next.1.allowedVenues = [] → cur.1.allowedVenues = []) ∨
          ∀ c ∈ next.1.allowedChains, c.isValid = false)) ∧
    (Unconfirmed s s' → ∀ enabled intent ctx, s'.Authorizes enabled intent ctx →
      s.Authorizes enabled intent ctx) := by
  refine ⟨fun hclass => ⟨fun h => ?_, ?_⟩, fun hrun enabled intent ctx h => ?_⟩
  · by_contra hcon
    obtain ⟨hvenues, hchains⟩ := not_or.1 hcon
    obtain ⟨hnil, hne⟩ := Classical.not_imp.1 hvenues
    push Not at hchains
    obtain ⟨c, hc, hvalid⟩ := hchains
    exact Smallest.not_approves hne
      (h true (Smallest.intent c) Smallest.ctx (Smallest.approves hnil hc (by simpa using hvalid)))
  · have hloose : cur.1.looser next.1 = false := by
      rw [← requiresStrongConfirmation_classify]
      rcases hclass with h | h <;> rw [h] <;> rfl
    have hwithin := WalletLimits.within_of_looser_eq_false hloose
    rintro (hvenues | hchains) enabled intent ctx happroves
    · exact hwithin.approves hvenues happroves
    · -- No intent on an invalid chain is valid.
      have hp := approves_iff.1 happroves
      have hvalid := hp.valid
      simp only [TradeIntent.validate, bind_ok, ensure_eq_ok] at hvalid
      obtain ⟨-, -, -, -, -, -, -, -, -, hchain, -⟩ := hvalid
      rw [hchains _ hp.chain] at hchain
      cases hchain
  · induction hrun with
    | refl => exact h
    | apply _ hconfirmation hvenues ih => exact ih (authorizes_of_apply hconfirmation hvenues h)

def Smallest.limits (venues : List String) : WalletLimits where
  walletRef := .lit "wallet-1"
  maxTradeUsd := .lit 1000000
  maxHourlyTurnoverUsd := .lit 5000000
  maxDailyTurnoverUsd := .lit 20000000
  maxBuyTax := .lit 500
  maxSellTax := .lit 500
  maxPriceImpact := .lit 300
  maxSlippage := .lit 200
  allowedChains := [.base]
  allowedVenues := venues

def Smallest.change (venues : List String) (version : U64) (key : String) : WalletLimitsChange :=
  ⟨.lit "wallet-1", Smallest.limits venues, version, key⟩

/-- An owner allows two venues and then, without confirmation, only the first; what is traded there was
authorized before. -/
theorem unconfirmed_tightening_keeps_trades :
    let venue := { Smallest.ctx with venue := some "uniswap", venue_notBlank := by decide }
    classifyLimitsChange (some (Smallest.limits ["uniswap", "curve"])) (Smallest.limits ["uniswap"]) =
        .tightening ∧
    (∀ enabled intent ctx,
      Approves enabled (ValidLimits.toPolicyLimits ⟨Smallest.limits ["uniswap"], by rfl⟩) intent ctx →
        Approves enabled (ValidLimits.toPolicyLimits ⟨Smallest.limits ["uniswap", "curve"], by rfl⟩)
          intent ctx) ∧
    ∃ s s' : InMemoryWalletPolicyStore,
      (new.apply (Smallest.change ["uniswap", "curve"] .zero "k1") (.webStrong .zero) true).2 = s ∧
      (s.apply (Smallest.change ["uniswap"] (.lit 1) "k2") .none true).2 = s' ∧
      s'.Authorizes true (Smallest.intent .base) venue ∧ s.Authorizes true (Smallest.intent .base) venue := by
  intro venue
  have hafter : ((new.apply (Smallest.change ["uniswap", "curve"] .zero "k1") (.webStrong .zero) true).2.apply
      (Smallest.change ["uniswap"] (.lit 1) "k2") .none true).2.Authorizes true (Smallest.intent .base) venue :=
    ⟨⟨⟨Smallest.limits ["uniswap"], by rfl⟩, .lit 2⟩, by rfl, _, rfl⟩
  have htight : classifyLimitsChange (some (Smallest.limits ["uniswap", "curve"]))
    (Smallest.limits ["uniswap"]) = .tightening := by decide
  have hkeeps := fun s s' => unconfirmed_change_keeps_trades ⟨Smallest.limits ["uniswap", "curve"], by rfl⟩
    ⟨Smallest.limits ["uniswap"], by rfl⟩ s s'
  exact ⟨htight, ((hkeeps new new).1 (.inr htight)).2 (.inl nofun), _, _, rfl, rfl, hafter,
    (hkeeps _ _).2 (.apply .refl rfl fun _ _ hnil => absurd hnil (List.cons_ne_nil _ _)) true _ _ hafter⟩

/-- The owner allows one venue; the unconfirmed write that removes it is a tightening, and a trade on no
named venue is authorized only after it. -/
theorem unconfirmed_change_opens_venues :
    classifyLimitsChange (some (Smallest.limits ["uniswap"])) (Smallest.limits []) = .tightening ∧
    ∃ s₁ s₂ : InMemoryWalletPolicyStore,
      (new.apply (Smallest.change ["uniswap"] .zero "k1") (.webStrong .zero) true).2 = s₁ ∧
      (s₁.apply (Smallest.change [] (.lit 1) "k2") .none true).2 = s₂ ∧
      ¬s₁.Authorizes true (Smallest.intent .base) Smallest.ctx ∧
      s₂.Authorizes true (Smallest.intent .base) Smallest.ctx := by
  refine ⟨by decide, _, _, rfl, rfl, ?_, ?_⟩
  · rintro ⟨record, hrecord, happroves⟩
    have hstored : (new.apply (Smallest.change ["uniswap"] .zero "k1") (.webStrong .zero) true).2.records
        "wallet-1" = some ⟨⟨Smallest.limits ["uniswap"], by rfl⟩, .lit 1⟩ := by rfl
    cases hrecord.symm.trans hstored
    exact Smallest.not_approves (List.cons_ne_nil _ _) happroves
  · exact ⟨⟨⟨Smallest.limits [], by rfl⟩, .lit 2⟩, by rfl,
      Smallest.approves rfl List.mem_cons_self rfl⟩

end PrivateExecution
