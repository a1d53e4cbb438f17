import Mathlib.Tactic.NormNum

/-!
# Identifiers, chains, amounts

The primitive values of the trading domain (`chain-types`, `market-types/src/primitives.rs`, the
`string_id!` family of `domain/src/lib.rs`). A type whose constructor rejects some inputs carries
the check as a field, so an invalid value cannot be built: an identifier is never blank, a `Bps`
never exceeds ten thousand, a `PriceRatio` never has a zero side.
-/

namespace PrivateExecution

/-! ### Validation steps -/

/-- One validation step: succeed if the condition holds, fail with `e` otherwise. -/
def ensure {ε : Type} (p : Prop) [Decidable p] (e : ε) : Except ε Unit :=
  if p then .ok () else .error e

section

variable {ε α β : Type} {p : Prop} [Decidable p] {e e' : ε} {m : Except ε α} {f : α → Except ε β} {a : α}
  {x : Option α}

@[simp] lemma ensure_eq_ok {u : Unit} : ensure p e = .ok u ↔ p := by
  unfold ensure
  split_ifs with h <;> simp [h]

@[simp] lemma ensure_ok {f : Unit → Except ε α} : (ensure p e >>= f) = .ok a ↔ p ∧ f () = .ok a := by
  unfold ensure
  split_ifs with h
  · exact ⟨fun hf => ⟨h, hf⟩, fun hf => hf.2⟩
  · exact ⟨nofun, fun hf => absurd hf.1 h⟩

lemma ensure_pos {f : Unit → Except ε α} (h : p) : (ensure p e >>= f) = f () := by
  rw [ensure, if_pos h]
  rfl

lemma ensure_neg {f : Unit → Except ε α} (h : ¬p) : (ensure p e >>= f) = .error e := by
  rw [ensure, if_neg h]
  rfl

lemma bind_ok {x : β} : (m >>= f) = .ok x ↔ ∃ a, m = .ok a ∧ f a = .ok x := by
  rcases m with e | a
  · exact ⟨nofun, fun ⟨_, h, _⟩ => nomatch h⟩
  · exact ⟨fun h => ⟨a, rfl, h⟩, fun ⟨_, h, hf⟩ => by cases h; exact hf⟩

lemma exists_ok_of_toBool (h : m.toBool = true) : ∃ a, m = .ok a := by
  cases m with
  | error e => cases h
  | ok a => exact ⟨a, rfl⟩

lemma toOption_eq_some (h : m.toOption = some a) : m = .ok a := by
  cases m with
  | error e => cases h
  | ok b =>
    cases h
    rfl

lemma ensure_eq_error : ensure p e = .error e' ↔ ¬p ∧ e' = e := by
  unfold ensure
  split_ifs with h
  · exact ⟨nofun, fun h' => absurd h h'.1⟩
  · exact ⟨fun heq => ⟨h, (Except.error.inj heq).symm⟩, fun h' => by rw [h'.2]⟩

lemma bind_error : (m >>= f) = .error e ↔ m = .error e ∨ ∃ a, m = .ok a ∧ f a = .error e := by
  rcases m with e' | a
  · exact ⟨fun h => .inl (by cases h; rfl), fun h => h.elim (fun h => by cases h; rfl)
      fun ⟨_, h, _⟩ => nomatch h⟩
  · exact ⟨fun h => .inr ⟨a, rfl, h⟩, fun h => h.elim nofun fun ⟨_, h, hf⟩ => by cases h; exact hf⟩

def okOr {ε α : Type} (x : Option α) (e : ε) : Except ε α :=
  match x with
  | some a => .ok a
  | none => .error e

@[simp] lemma okOr_eq_ok : okOr x e = .ok a ↔ x = some a := by
  cases x <;> simp [okOr]

lemma okOr_eq_error : okOr x e = .error e' ↔ x = none ∧ e' = e := by
  cases x <;> simp [okOr, eq_comm]

lemma okOr_some (h : x = some a) : (okOr x e >>= f) = f a := by
  subst h
  rfl

lemma okOr_bind_of_none (h : x = none) : (okOr x e >>= f) = .error e := by
  subst h
  rfl

lemma except_map_eq_ok {f : α → β} {b : β} : m.map f = .ok b ↔ ∃ a, m = .ok a ∧ f a = b := by
  cases m <;> simp [Except.map]

lemma mapError_eq_ok {ε' : Type} {f : ε → ε'} (h : m.mapError f = .ok a) : m = .ok a := by
  cases m with
  | error e => cases h
  | ok b =>
    cases h
    rfl

end

/-! ### Machine integers -/

@[ext] structure Unsigned (w : ℕ) where
  val : ℕ
  /-- It fits into `w` bits. -/
  lt : val < 2 ^ w
deriving DecidableEq

namespace Unsigned

variable {w : ℕ}

instance : LE (Unsigned w) := ⟨fun a b => a.val ≤ b.val⟩
instance : LT (Unsigned w) := ⟨fun a b => a.val < b.val⟩
instance (a b : Unsigned w) : Decidable (a ≤ b) := inferInstanceAs (Decidable (a.val ≤ b.val))
instance (a b : Unsigned w) : Decidable (a < b) := inferInstanceAs (Decidable (a.val < b.val))

lemma le_def {a b : Unsigned w} : a ≤ b ↔ a.val ≤ b.val := Iff.rfl

lemma lt_def {a b : Unsigned w} : a < b ↔ a.val < b.val := Iff.rfl

def zero : Unsigned w := ⟨0, Nat.two_pow_pos w⟩

def max : Unsigned w := ⟨2 ^ w - 1, Nat.sub_lt (Nat.two_pow_pos w) Nat.one_pos⟩

def isZero (a : Unsigned w) : Bool := a.val == 0

@[simp] lemma isZero_iff {a : Unsigned w} : a.isZero = true ↔ a.val = 0 := by simp [isZero]

def lit (n : ℕ) : Unsigned w := if h : n < 2 ^ w then ⟨n, h⟩ else zero

@[simp] lemma lit_val {n : ℕ} (h : n < 2 ^ w) : (lit n : Unsigned w).val = n := by
  rw [lit, dif_pos h]

@[simp] lemma lit_self (a : Unsigned w) : lit a.val = a := by
  rw [lit, dif_pos a.lt]

def ofNat? (n : ℕ) : Option (Unsigned w) := if h : n < 2 ^ w then some ⟨n, h⟩ else none

lemma exists_val {n : ℕ} (h : n < 2 ^ w) : ∃ a : Unsigned w, a.val = n := ⟨⟨n, h⟩, rfl⟩

variable (a b : Unsigned w)

def checkedAdd : Option (Unsigned w) :=
  if h : a.val + b.val < 2 ^ w then some ⟨a.val + b.val, h⟩ else none

lemma sub_lt : a.val - b.val < 2 ^ w := lt_of_le_of_lt (Nat.sub_le _ _) a.lt

def checkedSub : Option (Unsigned w) :=
  if b.val ≤ a.val then some ⟨a.val - b.val, sub_lt a b⟩ else none

def saturatingAdd : Unsigned w := (a.checkedAdd b).getD max

lemma ofNat?_eq_some {n : ℕ} {a : Unsigned w} : ofNat? n = some a ↔ a.val = n := by
  unfold ofNat?
  split_ifs with h
  · rw [Option.some.injEq, Unsigned.ext_iff, eq_comm]
  · exact ⟨nofun, fun h' => absurd (h' ▸ a.lt) h⟩

lemma checkedAdd_eq_some {a b c : Unsigned w} : a.checkedAdd b = some c ↔ c.val = a.val + b.val := by
  unfold checkedAdd
  split_ifs with h
  · rw [Option.some.injEq, Unsigned.ext_iff, eq_comm]
  · refine ⟨nofun, fun h' => absurd c.lt ?_⟩
    rw [h']
    exact h

lemma checkedSub_eq_some {a b c : Unsigned w} :
    a.checkedSub b = some c ↔ b.val ≤ a.val ∧ c.val = a.val - b.val := by
  unfold checkedSub
  split_ifs with h
  · rw [Option.some.injEq, Unsigned.ext_iff, eq_comm]
    exact ⟨fun h' => ⟨h, h'⟩, fun h' => h'.2⟩
  · exact ⟨nofun, fun h' => absurd h'.1 h⟩

end Unsigned

abbrev U128 := Unsigned 128
abbrev U64 := Unsigned 64
abbrev U32 := Unsigned 32

@[ext] structure I64 where
  val : ℤ
  /-- It fits into 64 bits, two's complement. -/
  inRange : -(2 ^ 63) ≤ val ∧ val < 2 ^ 63
deriving DecidableEq

namespace I64

instance : LE I64 := ⟨fun a b => a.val ≤ b.val⟩
instance : LT I64 := ⟨fun a b => a.val < b.val⟩
instance (a b : I64) : Decidable (a ≤ b) := inferInstanceAs (Decidable (a.val ≤ b.val))
instance (a b : I64) : Decidable (a < b) := inferInstanceAs (Decidable (a.val < b.val))

lemma le_def {a b : I64} : a ≤ b ↔ a.val ≤ b.val := Iff.rfl

def zero : I64 := ⟨0, by decide⟩

def lit (n : ℤ) : I64 := if h : -(2 ^ 63) ≤ n ∧ n < 2 ^ 63 then ⟨n, h⟩ else zero

def clamp (x : ℤ) : I64 :=
  ⟨max (-(2 ^ 63)) (min x (2 ^ 63 - 1)), by
    constructor
    · exact le_max_left _ _
    · exact max_lt (by norm_num) (lt_of_le_of_lt (min_le_right _ _) (by norm_num))⟩

def saturatingAdd (a b : I64) : I64 := clamp (a.val + b.val)

end I64

/-! ### Blank strings and identifiers -/

/-- The characters `str::trim` removes: the Unicode `White_Space` property. -/
def isWhiteSpace (c : Char) : Bool :=
  let n := c.toNat
  (9 ≤ n && n ≤ 13) || n == 0x20 || n == 0x85 || n == 0xA0 || n == 0x1680 ||
    (0x2000 ≤ n && n ≤ 0x200A) || n == 0x2028 || n == 0x2029 || n == 0x202F || n == 0x205F ||
    n == 0x3000

def isBlank (s : String) : Bool := s.toList.all isWhiteSpace

/-- The identifier types of the domain, one per use of the `string_id!` macro. -/
inductive IdKind where
  | intentId | orderId | executionId | idempotencyKey | userId | walletRef

def IdKind.label : IdKind → String
  | .intentId => "intent_id"
  | .orderId => "order_id"
  | .executionId => "execution_id"
  | .idempotencyKey => "idempotency_key"
  | .userId => "user_id"
  | .walletRef => "wallet_ref"

@[ext] structure StringId (k : IdKind) where
  asStr : String
  /-- What `new` checks. -/
  notBlank : isBlank asStr = false
deriving DecidableEq

abbrev IntentId := StringId .intentId
abbrev OrderId := StringId .orderId
abbrev ExecutionId := StringId .executionId
abbrev IdempotencyKey := StringId .idempotencyKey
abbrev UserId := StringId .userId
abbrev WalletRef := StringId .walletRef

def StringId.new (k : IdKind) (value : String) : Option (StringId k) :=
  if h : isBlank value = false then some ⟨value, h⟩ else none

def StringId.lit {k : IdKind} (value : String) : StringId k :=
  if h : isBlank value = false then ⟨value, h⟩ else ⟨"?", by decide⟩

/-! ### Chains and assets -/

inductive ChainId where
  | solana | base | bnbChain | ethereum | robinhoodAssociated
  | other (value : String)
deriving DecidableEq

def ChainId.isValid : ChainId → Bool
  | .other value => !isBlank value
  | _ => true

structure AssetId where
  chain : ChainId
  address : String
deriving DecidableEq

def AssetId.isValid (a : AssetId) : Bool := a.chain.isValid && !isBlank a.address

/-! ### Amounts, ratios, freshness -/

abbrev AtomicAmount := U128

@[ext] structure Bps where
  get : ℕ
  le : get ≤ 10000
deriving DecidableEq

def Bps.new (value : ℕ) : Option Bps := if h : value ≤ 10000 then some ⟨value, h⟩ else none

def Bps.lit (n : ℕ) : Bps := if h : n ≤ 10000 then ⟨n, h⟩ else ⟨0, Nat.zero_le _⟩

@[simp] lemma Bps.lit_get {n : ℕ} (h : n ≤ 10000) : (Bps.lit n).get = n := by
  rw [Bps.lit, dif_pos h]

lemma Bps.new_eq_some {value : ℕ} {b : Bps} : Bps.new value = some b ↔ b.get = value := by
  unfold Bps.new
  split_ifs with h
  · rw [Option.some.injEq, Bps.ext_iff, eq_comm]
  · exact ⟨nofun, fun h' => absurd (h' ▸ b.le) h⟩

instance : LE Bps := ⟨fun a b => a.get ≤ b.get⟩
instance (a b : Bps) : Decidable (a ≤ b) := inferInstanceAs (Decidable (a.get ≤ b.get))

/-- A price, both sides non-zero. -/
@[ext] structure PriceRatio where
  numeratorAtomic : U128
  denominatorAtomic : U128
  /-- What `new` checks of the numerator. -/
  numerator_ne : numeratorAtomic.val ≠ 0
  /-- What `new` checks of the denominator. -/
  denominator_ne : denominatorAtomic.val ≠ 0
deriving DecidableEq

@[ext] structure AssetAmount where
  asset : AssetId
  amount : AtomicAmount
deriving DecidableEq

structure Freshness where
  observedAtMs : I64
  chainHeight : U64
  sequence : U64
deriving DecidableEq

end PrivateExecution
