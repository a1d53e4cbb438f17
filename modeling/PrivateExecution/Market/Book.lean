import PrivateExecution.Market.Sequence
import PrivateExecution.Collections.Ladder
import PrivateExecution.Async.Call
import PrivateExecution.Async.Machine

/-!
# Bounded order books

`OrderBookDepth` keeps the best `max_levels` levels of each side of an order book from a snapshot and
contiguous deltas (`market-types/src/orderbook.rs`). A delta edits a copy of the kept levels in place,
the copy is cut back to `max_levels`, checked not to be crossed and only then kept. What is cut off is
forgotten: `book_shows_top_iff` says when the book shows the best levels nevertheless.
-/

namespace PrivateExecution

open Async

/-! ### Levels -/

/-- Prices, next to their order: zero, and the middle of two prices unless it is not finite. -/
class Price (P : Type) where
  isZero : P → Bool
  mid : P → P → Option P

/-- Quantities: zero, and sums unless they are not finite. -/
class Quantity (Q : Type) where
  zero : Q
  isZero : Q → Bool
  add : Q → Q → Option Q

@[ext] structure DepthLevel (P Q : Type) where
  price : P
  quantity : Q
deriving DecidableEq

namespace DepthLevel

variable {P Q : Type}

def bidKey (l : DepthLevel P Q) : Pᵒᵈ := OrderDual.toDual l.price

def askKey (l : DepthLevel P Q) : P := l.price

lemma bidKey_eq_iff (a b : DepthLevel P Q) : a.bidKey = b.bidKey ↔ a.price = b.price := Iff.rfl

lemma askKey_eq_iff (a b : DepthLevel P Q) : a.askKey = b.askKey ↔ a.price = b.price := Iff.rfl

variable [Price P] [Quantity Q]

def validateSnapshot (l : DepthLevel P Q) : Except MarketTypeError Unit := do
  ensure (Price.isZero l.price = false) .zeroPrice
  ensure (Quantity.isZero l.quantity = false) .zeroQuantity

def validateDelta (l : DepthLevel P Q) : Except MarketTypeError Unit :=
  ensure (Price.isZero l.price = false) .zeroPrice

end DepthLevel

/-! ### Snapshots and deltas -/

def maxDepthLevels : ℕ := 5000

structure DepthSnapshot (P Q : Type) where
  target : FeedTarget
  sequence : Sequence
  timestampMs : I64
  bids : List (DepthLevel P Q)
  asks : List (DepthLevel P Q)
deriving DecidableEq

structure DepthDelta (P Q : Type) where
  target : FeedTarget
  sequenceRange : SequenceRange
  timestampMs : I64
  bids : List (DepthLevel P Q)
  asks : List (DepthLevel P Q)
deriving DecidableEq

section

variable {P Q : Type} [LinearOrder P] [Price P] [Quantity Q]

variable {K : Type}

/-- Where a level stands relative to the one before it, in the order of the side. -/
def checkLevelOrder [LinearOrder K] (key : DepthLevel P Q → K) (side : String)
    (prev : Option (DepthLevel P Q)) (level : DepthLevel P Q) : Except MarketTypeError Unit :=
  match prev with
  | none => .ok ()
  | some p => do
    ensure (level.price ≠ p.price) (.duplicateDepthPriceLevel side)
    ensure (¬key level < key p) (.unsortedDepthLevels side)

/-- The checks of the levels of one side of a snapshot, after the level `prev`. -/
def validateSide [LinearOrder K] (key : DepthLevel P Q → K) (side : String) :
    Option (DepthLevel P Q) → List (DepthLevel P Q) → Except MarketTypeError Unit
  | _, [] => .ok ()
  | prev, level :: rest => do
    level.validateSnapshot
    checkLevelOrder key side prev level
    validateSide key side (some level) rest

def crossed (bids asks : List (DepthLevel P Q)) : Bool :=
  match bids.head?, asks.head? with
  | some bid, some ask => decide (ask.price ≤ bid.price)
  | _, _ => false

def ensureLevels (timestampMs : I64) (bids asks : List (DepthLevel P Q)) : Except MarketTypeError Unit := do
  ensure (¬timestampMs.val ≤ 0) (.invalidTimestamp timestampMs.val)
  ensure (bids.length ≤ maxDepthLevels) (.depthLevelsExceeded bids.length maxDepthLevels)
  ensure (asks.length ≤ maxDepthLevels) (.depthLevelsExceeded asks.length maxDepthLevels)

def DepthSnapshot.validate (s : DepthSnapshot P Q) : Except MarketTypeError Unit := do
  s.target.validate
  s.sequence.validate
  ensureLevels s.timestampMs s.bids s.asks
  validateSide DepthLevel.bidKey "bids" none s.bids
  validateSide DepthLevel.askKey "asks" none s.asks
  ensure (crossed s.bids s.asks = false) .crossedOrderBook

def DepthDelta.validate (d : DepthDelta P Q) : Except MarketTypeError Unit := do
  d.target.validate
  d.sequenceRange.validate
  ensureLevels d.timestampMs d.bids d.asks
  d.bids.forM DepthLevel.validateDelta
  d.asks.forM DepthLevel.validateDelta

def applyUpdates [LinearOrder K] (key : DepthLevel P Q → K) (levels updates : List (DepthLevel P Q)) :
    List (DepthLevel P Q) :=
  updates.foldl (Ladder.edit key (fun l => Quantity.isZero l.quantity)
    fun update l => { l with quantity := update.quantity }) levels

lemma validateSide_ascending [LinearOrder K] {key : DepthLevel P Q → K} {side : String}
    (hkey : ∀ a b, key a = key b ↔ a.price = b.price) {levels : List (DepthLevel P Q)} :
    ∀ {prev : Option (DepthLevel P Q)} {u : Unit}, validateSide key side prev levels = .ok u →
      Ladder.Ascending key (prev.toList ++ levels) := by
  induction levels with
  | nil =>
    intro prev u _
    cases prev <;> simp [Ladder.Ascending]
  | cons level rest ih =>
    intro prev u h
    obtain ⟨_, -, h⟩ := bind_ok.1 h
    obtain ⟨_, horder, h⟩ := bind_ok.1 h
    have hsorted := ih h
    cases prev with
    | none => exact hsorted
    | some p =>
      simp only [checkLevelOrder, ensure_ok, ensure_eq_ok] at horder
      have hlt : key p < key level :=
        lt_of_le_of_ne (not_lt.1 horder.2) fun heq => horder.1 ((hkey _ _).1 heq.symm)
      refine List.pairwise_cons.2 ⟨fun b hb => ?_, hsorted⟩
      rcases List.mem_cons.1 hb with rfl | hb
      · exact hlt
      · exact hlt.trans (List.rel_of_pairwise_cons hsorted hb)

lemma DepthSnapshot.validate_sides {s : DepthSnapshot P Q} {u : Unit} (h : s.validate = .ok u) :
    Ladder.Ascending DepthLevel.bidKey s.bids ∧ Ladder.Ascending DepthLevel.askKey s.asks ∧
      crossed s.bids s.asks = false := by
  obtain ⟨_, -, h⟩ := bind_ok.1 h
  obtain ⟨_, -, h⟩ := bind_ok.1 h
  obtain ⟨_, -, h⟩ := bind_ok.1 h
  obtain ⟨_, hbids, h⟩ := bind_ok.1 h
  obtain ⟨_, hasks, h⟩ := bind_ok.1 h
  exact ⟨validateSide_ascending DepthLevel.bidKey_eq_iff hbids,
    validateSide_ascending DepthLevel.askKey_eq_iff hasks, ensure_eq_ok.1 h⟩

omit [Price P] [Quantity Q] in
lemma crossed_take {bids asks : List (DepthLevel P Q)} {n : ℕ} (hn : n ≠ 0) :
    crossed (bids.take n) (asks.take n) = crossed bids asks := by
  obtain ⟨m, rfl⟩ := Nat.exists_eq_succ_of_ne_zero hn
  cases bids <;> cases asks <;> rfl

end

/-! ### The bounded book -/

structure OrderBookDepth (P Q : Type) where
  target : FeedTarget
  sequence : Sequence
  timestampMs : I64
  bids : List (DepthLevel P Q)
  asks : List (DepthLevel P Q)
  maxLevels : ℕ
  resyncRequired : Bool
deriving DecidableEq

def ensureMaxLevels (maxLevels : ℕ) : Except MarketTypeError Unit :=
  ensure (maxLevels ≠ 0 ∧ maxLevels ≤ maxDepthLevels) (.depthLevelsExceeded maxLevels maxDepthLevels)

namespace OrderBookDepth

variable {P Q : Type} [LinearOrder P] [Price P] [Quantity Q]

variable (b : OrderBookDepth P Q) (s : DepthSnapshot P Q)

def new (maxLevels : ℕ) : Except MarketTypeError (OrderBookDepth P Q) := do
  s.validate
  ensureMaxLevels maxLevels
  return ⟨s.target, s.sequence, s.timestampMs, s.bids.take maxLevels, s.asks.take maxLevels, maxLevels, false⟩

def triggerResync : OrderBookDepth P Q := { b with resyncRequired := true }

def rebase : OrderBookDepth P Q :=
  { b with
    sequence := s.sequence, timestampMs := s.timestampMs, bids := s.bids.take b.maxLevels,
    asks := s.asks.take b.maxLevels, resyncRequired := false }

def resetWithSnapshot : Call (OrderBookDepth P Q) MarketTypeError Unit := do
  let b ← Call.read
  Call.check s.validate
  Call.check (ensure (s.target = b.target) .targetMismatch)
  Call.write (b.rebase s)

def applySnapshot : Call (OrderBookDepth P Q) MarketTypeError SnapshotClassification := do
  let b ← Call.read
  Call.check s.validate
  Call.check (ensure (s.target = b.target) .targetMismatch)
  if s.sequence < b.sequence then return .stale s.sequence b.sequence
  if s.sequence = b.sequence then return .duplicate b.sequence
  Call.write (b.rebase s)
  return .accepted s.sequence

def edited (d : DepthDelta P Q) : OrderBookDepth P Q :=
  { b with
    bids := (applyUpdates DepthLevel.bidKey b.bids d.bids).take b.maxLevels
    asks := (applyUpdates DepthLevel.askKey b.asks d.asks).take b.maxLevels
    sequence := d.sequenceRange.stop, timestampMs := d.timestampMs }

/-- A gap latches the book; a contiguous delta is kept unless it crosses it. -/
def applyDelta (d : DepthDelta P Q) : Call (OrderBookDepth P Q) MarketTypeError DeltaClassification := do
  let b ← Call.read
  if b.resyncRequired then return .resyncRequired (Sequence.next b.sequence) d.sequenceRange.start
  Call.check d.validate
  Call.check (ensure (d.target = b.target) .targetMismatch)
  if d.sequenceRange.stop < b.sequence then return .stale d.sequenceRange.stop b.sequence
  if d.sequenceRange.stop = b.sequence then return .duplicate b.sequence
  if d.sequenceRange.start ≠ Sequence.next b.sequence then
    Call.write b.triggerResync
    return .resyncRequired (Sequence.next b.sequence) d.sequenceRange.start
  Call.check (ensure (crossed (b.edited d).bids (b.edited d).asks = false) .crossedOrderBook)
  Call.write (b.edited d)
  return .contiguous d.sequenceRange.stop

end OrderBookDepth

/-! ### What a call can do -/

namespace Book

section

variable {P Q : Type} [LinearOrder P] [Price P] [Quantity Q]

inductive Act (P Q : Type) where
  | applyDelta (d : DepthDelta P Q)
  | applySnapshot (s : DepthSnapshot P Q)
  | resetWithSnapshot (s : DepthSnapshot P Q)
  | triggerResync

inductive Answer where
  | delta (c : DeltaClassification)
  | snapshot (c : SnapshotClassification)
  | reset
  | triggered
deriving DecidableEq

def call : Act P Q → Call (OrderBookDepth P Q) MarketTypeError Answer
  | .applyDelta d => do return .delta (← OrderBookDepth.applyDelta d)
  | .applySnapshot s => do return .snapshot (← OrderBookDepth.applySnapshot s)
  | .resetWithSnapshot s => do
    OrderBookDepth.resetWithSnapshot s
    return .reset
  | .triggerResync => fun b => (.ok .triggered, b.triggerResync)

inductive Taken (P Q : Type) where
  | nothing
  | delta (d : DepthDelta P Q)
  | snapshot (s : DepthSnapshot P Q)

def taken : Act P Q → Except MarketTypeError Answer → Taken P Q
  | .applyDelta d, .ok (.delta (.contiguous _)) => .delta d
  | .applySnapshot s, .ok (.snapshot (.accepted _)) => .snapshot s
  | .resetWithSnapshot s, .ok .reset => .snapshot s
  | _, _ => .nothing

inductive Outcome (b : OrderBookDepth P Q) (a : Act P Q) : Except MarketTypeError Answer × OrderBookDepth P Q → Prop
  where
  | held (x : Except MarketTypeError Answer) (latch : Bool) (hx : taken a x = .nothing) :
      Outcome b a (x, { b with resyncRequired := latch })
  | delta (d : DepthDelta P Q) (x : Except MarketTypeError Answer) (hx : taken a x = .delta d)
      (hcrossed : crossed (b.edited d).bids (b.edited d).asks = false) : Outcome b a (x, b.edited d)
  | snapshot (s : DepthSnapshot P Q) (u : Unit) (x : Except MarketTypeError Answer)
      (hx : taken a x = .snapshot s) (hvalid : s.validate = .ok u) : Outcome b a (x, b.rebase s)

lemma call_outcome (b : OrderBookDepth P Q) (a : Act P Q) : Outcome b a (call a b) := by
  cases a with
  | applyDelta d =>
    unfold call OrderBookDepth.applyDelta
    simp only [Call.bind_assoc, Call.read_bind]
    by_cases hlatch : b.resyncRequired = true
    · rw [if_pos hlatch]
      exact .held _ b.resyncRequired rfl
    · rw [if_neg hlatch]
      simp only [Call.bind_assoc]
      refine Call.check_cases (fun _ => .held _ b.resyncRequired rfl) fun _ _ => ?_
      refine Call.check_cases (fun _ => .held _ b.resyncRequired rfl) fun _ _ => ?_
      split_ifs with hstale hdup hstart
      · exact .held _ b.resyncRequired rfl
      · exact .held _ b.resyncRequired rfl
      · exact .held _ true rfl
      · simp only [Call.bind_assoc]
        refine Call.check_cases (fun _ => .held _ b.resyncRequired rfl) fun _ hcrossed => ?_
        exact .delta d _ rfl (ensure_eq_ok.1 hcrossed)
  | applySnapshot s =>
    unfold call OrderBookDepth.applySnapshot
    simp only [Call.bind_assoc, Call.read_bind]
    refine Call.check_cases (fun _ => .held _ b.resyncRequired rfl) fun u hvalid => ?_
    refine Call.check_cases (fun _ => .held _ b.resyncRequired rfl) fun _ _ => ?_
    split_ifs with hstale hdup
    · exact .held _ b.resyncRequired rfl
    · exact .held _ b.resyncRequired rfl
    · exact .snapshot s u _ rfl hvalid
  | resetWithSnapshot s =>
    unfold call OrderBookDepth.resetWithSnapshot
    simp only [Call.bind_assoc, Call.read_bind]
    refine Call.check_cases (fun _ => .held _ b.resyncRequired rfl) fun u hvalid => ?_
    refine Call.check_cases (fun _ => .held _ b.resyncRequired rfl) fun _ _ => ?_
    exact .snapshot s u _ rfl hvalid
  | triggerResync => exact .held _ true rfl

end

/-! ### The full book -/

section

variable {P Q : Type} [LinearOrder P] [Quantity Q]

/-- A level set to its quantity in a map, or deleted if the quantity is zero. -/
def setLevel (m : P → Option Q) (l : DepthLevel P Q) : P → Option Q :=
  Function.update m l.price (if Quantity.isZero l.quantity then none else some l.quantity)

def mapOf (levels : List (DepthLevel P Q)) (p : P) : Option Q :=
  (levels.find? fun l => l.price = p).map DepthLevel.quantity

def levelsOf (m : P → Option Q) : Set (DepthLevel P Q) := {l | m l.price = some l.quantity}

structure Full (P Q : Type) where
  bids : P → Option Q
  asks : P → Option Q

def Full.of (s : DepthSnapshot P Q) : Full P Q := ⟨mapOf s.bids, mapOf s.asks⟩

def Full.take (f : Full P Q) : Taken P Q → Full P Q
  | .nothing => f
  | .delta d => ⟨d.bids.foldl setLevel f.bids, d.asks.foldl setLevel f.asks⟩
  | .snapshot s => .of s

section

variable {K : Type} {key : DepthLevel P Q → K}

omit [Quantity Q] in
lemma mem_levelsOf_mapOf [LinearOrder K] (hkey : ∀ a b, key a = key b ↔ a.price = b.price)
    {levels : List (DepthLevel P Q)} (h : Ladder.Ascending key levels) (l : DepthLevel P Q) :
    l ∈ levels ↔ l ∈ levelsOf (mapOf levels) := by
  simp only [levelsOf, mapOf, Set.mem_ofPred_eq, Option.map_eq_some_iff]
  induction levels with
  | nil => simp
  | cons a levels ih =>
    obtain ⟨ha, hrest⟩ := List.pairwise_cons.1 h
    rw [List.find?_cons, List.mem_cons]
    by_cases hp : a.price = l.price
    · simp only [hp, decide_true, Option.some.injEq, exists_eq_left']
      constructor
      · rintro (rfl | hl)
        · rfl
        · exact absurd (ha l hl) (by rw [(hkey a l).2 hp]; exact lt_irrefl _)
      · intro hq
        exact .inl (DepthLevel.ext hp.symm hq.symm)
    · simp only [hp, decide_false]
      rw [← ih hrest, or_iff_right fun heq => hp (congrArg DepthLevel.price heq.symm)]

lemma levelsOf_setLevel (hkey : ∀ a b, key a = key b ↔ a.price = b.price) (m : P → Option Q)
    (u : DepthLevel P Q) :
    levelsOf (setLevel m u) = Ladder.editSet key (fun l => Quantity.isZero l.quantity) (levelsOf m) u := by
  ext l
  simp only [levelsOf, setLevel, Ladder.editSet, Set.mem_ofPred_eq, ne_eq, hkey]
  by_cases hp : l.price = u.price
  · rw [hp, Function.update_self]
    cases hzero : Quantity.isZero u.quantity with
    | true => simp
    | false =>
      simp only [Bool.false_eq_true, if_false, Option.some.injEq, true_and, not_true_eq_false, and_false,
        or_false]
      constructor
      · intro hq
        exact DepthLevel.ext hp hq.symm
      · rintro rfl
        rfl
  · rw [Function.update_of_ne hp]
    have hne : l ≠ u := fun heq => hp (congrArg DepthLevel.price heq)
    simp [hp, hne]

lemma levelsOf_foldl (hkey : ∀ a b, key a = key b ↔ a.price = b.price) (updates : List (DepthLevel P Q)) :
    ∀ m : P → Option Q, levelsOf (updates.foldl setLevel m) =
      updates.foldl (Ladder.editSet key fun l => Quantity.isZero l.quantity) (levelsOf m) := by
  induction updates with
  | nil => exact fun _ => rfl
  | cons u updates ih =>
    intro m
    rw [List.foldl_cons, List.foldl_cons, ih, levelsOf_setLevel hkey]

variable [LinearOrder K] {n : ℕ} {m : P → Option Q} {levels : List (DepthLevel P Q)}

omit [LinearOrder P] [Quantity Q] [LinearOrder K] in
lemma update_quantity (hkey : ∀ a b, key a = key b ↔ a.price = b.price) (u l : DepthLevel P Q)
    (h : key l = key u) : { l with quantity := u.quantity } = u :=
  DepthLevel.ext ((hkey l u).1 h) rfl

lemma part_applyUpdates (hkey : ∀ a b, key a = key b ↔ a.price = b.price) (updates : List (DepthLevel P Q))
    (h : Ladder.Part key n (levelsOf m) levels) :
    Ladder.Part key n (levelsOf (updates.foldl setLevel m)) ((applyUpdates key levels updates).take n) := by
  rw [levelsOf_foldl hkey]
  exact h.edits (update_quantity hkey) updates

lemma top_applyUpdates (hkey : ∀ a b, key a = key b ↔ a.price = b.price) (updates : List (DepthLevel P Q))
    (h : Ladder.Top key n (levelsOf m) levels) :
    Ladder.Top key n (levelsOf (updates.foldl setLevel m)) ((applyUpdates key levels updates).take n) ↔
      Ladder.Clear key n (levelsOf m) levels (applyUpdates key levels updates) updates := by
  rw [levelsOf_foldl hkey]
  exact Ladder.top_edits_iff (update_quantity hkey) updates h

omit [Quantity Q] in
lemma top_mapOf (hkey : ∀ a b, key a = key b ↔ a.price = b.price) (h : Ladder.Ascending key levels)
    (n : ℕ) :
    Ladder.Top key n (levelsOf (mapOf levels)) (levels.take n) :=
  h.top (mem_levelsOf_mapOf hkey h) n

end

end

/-! ### Views -/

section

variable {P Q : Type} [LinearOrder P] [Price P] [Quantity Q]

structure View (P Q : Type) where
  book : OrderBookDepth P Q
  full : Full P Q

abbrev machine (P Q : Type) [LinearOrder P] [Price P] [Quantity Q] :
    Machine (Act P Q) fun _ => Except MarketTypeError Answer where
  State := View P Q
  step v a := ((call a v.book).1, ⟨(call a v.book).2, v.full.take (taken a (call a v.book).1)⟩)

/-- Both sides are sorted, within the bound and made of levels of the full book, and not crossed. -/
structure Sound (v : View P Q) : Prop where
  bids : Ladder.Part DepthLevel.bidKey v.book.maxLevels (levelsOf v.full.bids) v.book.bids
  asks : Ladder.Part DepthLevel.askKey v.book.maxLevels (levelsOf v.full.asks) v.book.asks
  uncrossed : crossed v.book.bids v.book.asks = false
  bounded : v.book.maxLevels ≠ 0

def ShowsTop (v : View P Q) : Prop :=
  Ladder.Top DepthLevel.bidKey v.book.maxLevels (levelsOf v.full.bids) v.book.bids ∧
    Ladder.Top DepthLevel.askKey v.book.maxLevels (levelsOf v.full.asks) v.book.asks

/-- If the call is answered by taking a delta, then of each side every level that is out of view and not
named by the delta has at least `max_levels` better ones among the levels in view, once the delta has
edited them. -/
def KeepsTop (v : View P Q) (a : Act P Q) : Prop :=
  ∀ d, taken a (call a v.book).1 = .delta d →
    Ladder.Clear DepthLevel.bidKey v.book.maxLevels (levelsOf v.full.bids) v.book.bids
        (applyUpdates DepthLevel.bidKey v.book.bids d.bids) d.bids ∧
      Ladder.Clear DepthLevel.askKey v.book.maxLevels (levelsOf v.full.asks) v.book.asks
        (applyUpdates DepthLevel.askKey v.book.asks d.asks) d.asks

lemma showsTop_rebase {s : DepthSnapshot P Q} {u : Unit} (hvalid : s.validate = .ok u)
    (b : OrderBookDepth P Q)
    (hbound : b.maxLevels ≠ 0) : Sound ⟨b.rebase s, .of s⟩ ∧ ShowsTop ⟨b.rebase s, .of s⟩ := by
  obtain ⟨hbids, hasks, hcrossed⟩ := DepthSnapshot.validate_sides hvalid
  have htop : ShowsTop ⟨b.rebase s, .of s⟩ :=
    ⟨top_mapOf DepthLevel.bidKey_eq_iff hbids b.maxLevels, top_mapOf DepthLevel.askKey_eq_iff hasks b.maxLevels⟩
  exact ⟨⟨htop.1.toPart, htop.2.toPart, (crossed_take hbound).trans hcrossed, hbound⟩, htop⟩

lemma showsTop_new {s : DepthSnapshot P Q} {maxLevels : ℕ} {b : OrderBookDepth P Q}
    (hnew : OrderBookDepth.new s maxLevels = .ok b) : Sound ⟨b, .of s⟩ ∧ ShowsTop ⟨b, .of s⟩ := by
  obtain ⟨u, hvalid, hrest⟩ := bind_ok.1 hnew
  obtain ⟨_, hbound, hreturn⟩ := bind_ok.1 hrest
  cases hreturn
  exact showsTop_rebase hvalid ⟨s.target, s.sequence, s.timestampMs, [], [], maxLevels, false⟩
    (ensure_eq_ok.1 hbound).1

lemma Sound.step {v : View P Q} (h : Sound v) (a : Act P Q) : Sound ((machine P Q).step v a).2 := by
  have hout := call_outcome v.book a
  change Sound ⟨(call a v.book).2, v.full.take (taken a (call a v.book).1)⟩
  generalize call a v.book = r at hout ⊢
  cases hout with
  | held x latch hx =>
    rw [hx]
    exact ⟨h.bids, h.asks, h.uncrossed, h.bounded⟩
  | delta d x hx hcrossed =>
    rw [hx]
    exact ⟨part_applyUpdates DepthLevel.bidKey_eq_iff d.bids h.bids,
      part_applyUpdates DepthLevel.askKey_eq_iff d.asks h.asks, hcrossed, h.bounded⟩
  | snapshot s u x hx hvalid =>
    rw [hx]
    exact (showsTop_rebase hvalid v.book h.bounded).1

lemma keepsTop_iff {v : View P Q} (hbound : v.book.maxLevels ≠ 0) (h : ShowsTop v) (a : Act P Q) :
    KeepsTop v a ↔ ShowsTop ((machine P Q).step v a).2 := by
  have hout := call_outcome v.book a
  change (∀ d, taken a (call a v.book).1 = .delta d → _) ↔
    ShowsTop ⟨(call a v.book).2, v.full.take (taken a (call a v.book).1)⟩
  generalize call a v.book = r at hout ⊢
  cases hout with
  | held x latch hx =>
    rw [hx]
    exact iff_of_true (by simp) h
  | delta d x hx hcrossed =>
    simp only [hx, Taken.delta.injEq, forall_eq']
    exact and_congr (top_applyUpdates DepthLevel.bidKey_eq_iff d.bids h.1).symm
      (top_applyUpdates DepthLevel.askKey_eq_iff d.asks h.2).symm
  | snapshot s u x hx hvalid =>
    rw [hx]
    exact iff_of_true (by simp) (showsTop_rebase hvalid v.book hbound).2

/-- **The bounded book shows the top of the book as long as what was cut off stays behind it.** -/
theorem book_shows_top_iff (s : DepthSnapshot P Q) (maxLevels : ℕ) (b : OrderBookDepth P Q)
    (hnew : OrderBookDepth.new s maxLevels = .ok b) (acts : List (Act P Q)) :
    (∀ pre, pre <+: acts → Sound ((machine P Q).run ⟨b, .of s⟩ pre : View P Q)) ∧
      ((∀ pre, pre <+: acts → ShowsTop ((machine P Q).run ⟨b, .of s⟩ pre : View P Q)) ↔
        (machine P Q).Meets KeepsTop ⟨b, .of s⟩ acts) := by
  obtain ⟨hsound, htop⟩ := showsTop_new hnew
  have hsounds : ∀ pre, Sound ((machine P Q).run ⟨b, .of s⟩ pre : View P Q) := fun pre =>
    Machine.run_invariant (M := machine P Q) (P := Sound) hsound fun v a hv => hv.step a
  -- The condition is exact for sound views, and all views of the run are.
  have hiff : (machine P Q).Meets KeepsTop ⟨b, .of s⟩ acts ↔
      ∀ pre, pre <+: acts → Sound ((machine P Q).run ⟨b, .of s⟩ pre : View P Q) ∧
        ShowsTop ((machine P Q).run ⟨b, .of s⟩ pre : View P Q) :=
    Machine.meets_iff (M := machine P Q) (P := fun v => Sound v ∧ ShowsTop v) ⟨hsound, htop⟩ fun v a hv =>
      (keepsTop_iff hv.1.bounded hv.2 a).trans (iff_and_self.2 fun _ => hv.1.step a)
  refine ⟨fun pre _ => hsounds pre, Iff.trans ?_ hiff.symm⟩
  exact forall₂_congr fun pre _ => iff_and_self.2 fun _ => hsounds pre

end

/-! A book of one level a side, with a second bid cut off, whole numbers for prices and quantities. -/

section

instance Sample.price : Price ℕ where
  isZero n := n == 0
  mid a b := some ((a + b) / 2)

instance Sample.quantity : Quantity ℕ where
  zero := 0
  isZero n := n == 0
  add a b := if a + b < 1000 then some (a + b) else none

def Sample.snapshot : DepthSnapshot ℕ ℕ :=
  ⟨.pool ⟨.solana, "p"⟩, .lit 1, .lit 5, [⟨10, 4⟩, ⟨9, 5⟩], [⟨20, 6⟩]⟩

def Sample.book : OrderBookDepth ℕ ℕ :=
  ⟨.pool ⟨.solana, "p"⟩, .lit 1, .lit 5, [⟨10, 4⟩], [⟨20, 6⟩], 1, false⟩

def Sample.delta (bids : List (DepthLevel ℕ ℕ)) : Act ℕ ℕ :=
  .applyDelta ⟨.pool ⟨.solana, "p"⟩, ⟨.lit 2, .lit 2⟩, .lit 6, bids, []⟩

lemma Sample.new_book : OrderBookDepth.new Sample.snapshot 1 = .ok Sample.book := by decide +kernel

/-- A new best bid and the best bid deleted: the level that was cut off stays behind what is shown. -/
theorem sample_shows_top :
    let v : View ℕ ℕ := (machine ℕ ℕ).run ⟨Sample.book, .of Sample.snapshot⟩ [Sample.delta [⟨11, 3⟩, ⟨10, 0⟩]]
    v.book.bids = [⟨11, 3⟩] ∧ ShowsTop v := by
  intro v
  refine ⟨by decide +kernel, ?_⟩
  refine (book_shows_top_iff Sample.snapshot 1 Sample.book Sample.new_book
    [Sample.delta [⟨11, 3⟩, ⟨10, 0⟩]]).2.2 ⟨fun d hd => ?_, trivial⟩ _ (List.prefix_refl _)
  have htaken : taken (Sample.delta [⟨11, 3⟩, ⟨10, 0⟩]) (call (Sample.delta [⟨11, 3⟩, ⟨10, 0⟩]) Sample.book).1 =
      .delta ⟨.pool ⟨.solana, "p"⟩, ⟨.lit 2, .lit 2⟩, .lit 6, [⟨11, 3⟩, ⟨10, 0⟩], []⟩ := rfl
  cases htaken.symm.trans hd
  have hvalid : Sample.snapshot.validate = .ok () := by decide +kernel
  obtain ⟨hbids, hasks, -⟩ := DepthSnapshot.validate_sides hvalid
  constructor
  · intro l hl hout hxs
    have hmem : l ∈ Sample.snapshot.bids := (mem_levelsOf_mapOf DepthLevel.bidKey_eq_iff hbids l).2 hl
    rcases List.mem_cons.1 hmem with rfl | hmem
    · exact absurd (List.mem_singleton.2 rfl) hout
    · cases List.mem_singleton.1 hmem
      decide +kernel
  · intro l hl hout hxs
    exact absurd ((mem_levelsOf_mapOf DepthLevel.askKey_eq_iff hasks l).2 hl) hout

/-- The best bid deleted: the second one is the best now, and is not shown. -/
theorem deletion_uncovers_nothing :
    let v : View ℕ ℕ := (machine ℕ ℕ).run ⟨Sample.book, .of Sample.snapshot⟩ [Sample.delta [⟨10, 0⟩]]
    OrderBookDepth.new Sample.snapshot 1 = .ok Sample.book ∧
      (call (Sample.delta [⟨10, 0⟩]) Sample.book).1 = .ok (.delta (.contiguous (.lit 2))) ∧
      v.full.bids 9 = some 5 ∧ v.book.bids = [] ∧ ¬ShowsTop v := by
  intro v
  have hempty : v.book.bids = [] := by decide +kernel
  have hfull : v.full.bids 9 = some 5 := by decide +kernel
  refine ⟨Sample.new_book, by decide +kernel, hfull, hempty, fun htop => ?_⟩
  have hrest := htop.1.rest ⟨9, 5⟩ hfull
  rw [hempty] at hrest
  rcases hrest with hmem | ⟨hlen, -⟩
  · cases hmem
  · exact absurd hlen (by decide +kernel)

end

end Book

end PrivateExecution
