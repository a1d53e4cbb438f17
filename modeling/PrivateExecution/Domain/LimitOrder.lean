import PrivateExecution.Domain.Intent

/-!
# Limit orders

The limit order of the domain and its validation (`domain/src/lib.rs`). The table
`OrderStatus.canTransitionTo` is the only authority on the life cycle: every other component asks
it.
-/

namespace PrivateExecution

inductive OrderStatus where
  | created | active | triggerCandidate | quoting | simulating | executing | partiallyFilled
  | filled | cancelled | expired | failedRetryable | failedFinal
deriving DecidableEq

namespace OrderStatus

def canTransitionTo : OrderStatus → OrderStatus → Bool
  | .created, .active | .created, .cancelled | .created, .expired => true
  | .active, .triggerCandidate | .active, .cancelled | .active, .expired => true
  | .triggerCandidate, .active | .triggerCandidate, .quoting | .triggerCandidate, .cancelled
  | .triggerCandidate, .expired => true
  | .quoting, .simulating | .quoting, .active | .quoting, .failedRetryable | .quoting, .cancelled
  | .quoting, .expired => true
  | .simulating, .executing | .simulating, .active | .simulating, .failedRetryable
  | .simulating, .cancelled | .simulating, .expired => true
  | .executing, .partiallyFilled | .executing, .filled | .executing, .failedRetryable
  | .executing, .failedFinal | .executing, .expired => true
  | .partiallyFilled, .active | .partiallyFilled, .triggerCandidate | .partiallyFilled, .executing
  | .partiallyFilled, .filled | .partiallyFilled, .cancelled | .partiallyFilled, .expired => true
  | .failedRetryable, .active | .failedRetryable, .triggerCandidate
  | .failedRetryable, .failedFinal | .failedRetryable, .cancelled
  | .failedRetryable, .expired => true
  | _, _ => false

/-- The states that can still execute or retry. -/
def isExecutable : OrderStatus → Bool
  | .created | .active | .triggerCandidate | .quoting | .simulating | .executing
  | .partiallyFilled | .failedRetryable => true
  | .filled | .cancelled | .expired | .failedFinal => false

/-- The states that must live within the order's window; an executing order may outlive it. -/
def isExpiryGated : OrderStatus → Bool
  | .created | .active | .triggerCandidate | .quoting | .simulating | .partiallyFilled
  | .failedRetryable => true
  | .executing | .filled | .cancelled | .expired | .failedFinal => false

lemma isExecutable_of_canTransitionTo {s t : OrderStatus} (h : s.canTransitionTo t = true) :
    s.isExecutable = true := by
  cases s <;> first | rfl | cases h

end OrderStatus

structure LimitOrder where
  id : OrderId
  owner : UserId
  walletRef : WalletRef
  chain : ChainId
  tokenIn : AssetId
  tokenOut : AssetId
  side : TradeSide
  maxInput : AssetAmount
  remainingInput : AtomicAmount
  limitPrice : LimitPrice
  risk : RiskConstraints
  allowPartialFill : Bool
  minFill : AtomicAmount
  expiresAtMs : I64
  status : OrderStatus
deriving DecidableEq

namespace LimitOrder

def validate (o : LimitOrder) (nowMs : I64) : Except DomainError Unit := do
  o.id.validate
  o.owner.validate
  o.walletRef.validate
  ensure o.chain.isValid .chainMismatch
  ensure o.tokenIn.isValid .chainMismatch
  ensure o.tokenOut.isValid .chainMismatch
  ensure (o.tokenIn.chain = o.chain ∧ o.tokenOut.chain = o.chain) .chainMismatch
  ensure (o.tokenIn ≠ o.tokenOut) .sameAssetPair
  ensure (o.maxInput.amount.val ≠ 0) .zeroTradeAmount
  ensure (o.maxInput.asset = o.tokenIn) .inputAssetMismatch
  ensure (o.remainingInput ≤ o.maxInput.amount) .invalidRemainingInput
  ensure (o.status = .filled → o.remainingInput.val = 0) .invalidRemainingInput
  -- states that can still execute keep spendable input and a viable minimum fill
  ensure (o.status.isExecutable → o.remainingInput.val ≠ 0) .invalidRemainingInput
  ensure (o.status.isExecutable → o.minFill.val ≠ 0 ∧ o.minFill ≤ o.remainingInput) .invalidMinFill
  ensure (o.status.isExecutable → o.allowPartialFill = false → o.minFill = o.remainingInput)
    .nonPartialFillMismatch
  ensure (o.status.isExpiryGated → nowMs < o.expiresAtMs) .expired
  ensure (o.status = .expired → o.expiresAtMs ≤ nowMs) .expiredStatusBeforeWindow
  ensure ((o.limitPrice.numeratorAsset, o.limitPrice.denominatorAsset) =
    o.side.priceAssets o.tokenIn o.tokenOut) .limitPriceAssetMismatch
  o.risk.validate o.tokenIn

/-- What validation guarantees about the input an order still holds. -/
structure Funded (o : LimitOrder) : Prop where
  remaining_le : o.remainingInput ≤ o.maxInput.amount
  filled : o.status = .filled → o.remainingInput.val = 0
  spendable : o.status.isExecutable = true → o.remainingInput.val ≠ 0
  viable : o.status.isExecutable = true → o.minFill.val ≠ 0 ∧ o.minFill ≤ o.remainingInput
  allOrNothing : o.status.isExecutable = true → o.allowPartialFill = false →
    o.minFill = o.remainingInput

lemma funded_of_validate {o : LimitOrder} {nowMs : I64} (h : o.validate nowMs = .ok ()) : o.Funded := by
  obtain ⟨_, -, h⟩ := bind_ok.1 h
  obtain ⟨_, -, h⟩ := bind_ok.1 h
  obtain ⟨_, -, h⟩ := bind_ok.1 h
  simp only [ensure_ok] at h
  obtain ⟨-, -, -, -, -, -, -, hle, hfilled, hspend, hviable, haon, -⟩ := h
  exact ⟨hle, hfilled, hspend, hviable, haon⟩

end LimitOrder

end PrivateExecution
