import PrivateExecution.Market.Book

/-!
# Candles

`OhlcvAggregator` rolls candles and single price ticks up into windows of one timeframe
(`market-types/src/ohlcv.rs`, `aggregation.rs`). It keeps one window open and a bounded number of
finished ones. With a sequence it takes only the next one; a gap latches it until it is given a new
baseline.
-/

namespace PrivateExecution

open Async

/-! ### Candles and windows -/

def maxCandleWindowMs : ℕ := 366 * 86400 * 1000
def maxRetainedWindows : ℕ := 10000

inductive CandleTimeframe where
  | s1 | s5 | s15 | m1 | m5 | m15 | m30 | h1 | h4 | d1 | w1
  | custom (ms : U64)
deriving DecidableEq

def CandleTimeframe.durationMs : CandleTimeframe → ℕ
  | s1 => 1000
  | s5 => 5000
  | s15 => 15000
  | m1 => 60000
  | m5 => 300000
  | m15 => 900000
  | m30 => 1800000
  | h1 => 3600000
  | h4 => 14400000
  | d1 => 86400000
  | w1 => 604800000
  | custom ms => ms.val

structure Candle (P Q : Type) where
  instrument : InstrumentId
  timeframe : CandleTimeframe
  openTimeMs : I64
  closeTimeMs : I64
  openPrice : P
  high : P
  low : P
  close : P
  volume : Q
  quoteVolume : Option Q
  tradesCount : Option U64
deriving DecidableEq

structure ActiveCandleWindow (P Q : Type) where
  openTimeMs : I64
  closeTimeMs : I64
  openPrice : P
  high : P
  low : P
  close : P
  volume : Q
  quoteVolume : Option Q
  tradesCount : Option U64
  lastSequence : Option Sequence
  updateCount : U64
deriving DecidableEq

section

variable {P Q : Type} [LinearOrder P] [Price P] [Quantity Q]

variable (c : Candle P Q)

/-- `(close_time_ms - open_time_ms) as u64`, after the open time was checked to be before the close. -/
def Candle.durationMs : ℕ := (c.closeTimeMs.val - c.openTimeMs.val).toNat

def Candle.validate : Except MarketTypeError Unit := do
  c.instrument.validate
  ensure (¬c.openTimeMs.val ≤ 0) (.invalidTimestamp c.openTimeMs.val)
  ensure (¬c.closeTimeMs.val ≤ 0) (.invalidTimestamp c.closeTimeMs.val)
  ensure (c.openTimeMs < c.closeTimeMs) (.invalidCandleWindow c.openTimeMs.val c.closeTimeMs.val)
  ensure (c.durationMs ≤ maxCandleWindowMs) (.candleWindowExceeded c.durationMs maxCandleWindowMs)
  ensure ((Price.isZero c.openPrice || Price.isZero c.high || Price.isZero c.low || Price.isZero c.close) = false)
    .zeroPrice
  ensure (¬c.openPrice < c.low) (.invalidCandleBounds "low price exceeds open price")
  ensure (¬c.close < c.low) (.invalidCandleBounds "low price exceeds close price")
  ensure (¬c.high < c.openPrice) (.invalidCandleBounds "open price exceeds high price")
  ensure (¬c.high < c.close) (.invalidCandleBounds "close price exceeds high price")

def ActiveCandleWindow.opening (openTimeMs closeTimeMs : I64) (sequence : Option Sequence) :
    ActiveCandleWindow P Q :=
  { openTimeMs, closeTimeMs, openPrice := c.openPrice, high := c.high, low := c.low, close := c.close,
    volume := c.volume, quoteVolume := c.quoteVolume, tradesCount := c.tradesCount, lastSequence := sequence,
    updateCount := .lit 1 }

def ActiveCandleWindow.toCandle (w : ActiveCandleWindow P Q) (instrument : InstrumentId)
    (timeframe : CandleTimeframe) : Except MarketTypeError (Candle P Q) := do
  let candle : Candle P Q :=
    { instrument, timeframe, openTimeMs := w.openTimeMs, closeTimeMs := w.closeTimeMs, openPrice := w.openPrice,
      high := w.high, low := w.low, close := w.close, volume := w.volume, quoteVolume := w.quoteVolume,
      tradesCount := w.tradesCount }
  candle.validate
  return candle

def mergeOption {A : Type} (add : A → A → Except MarketTypeError A) :
    Option A → Option A → Except MarketTypeError (Option A)
  | some a, some b => some <$> add a b
  | some a, none | none, some a => .ok (some a)
  | none, none => .ok none

def ActiveCandleWindow.absorb (w : ActiveCandleWindow P Q) (c : Candle P Q) (sequence : Option Sequence) :
    Except MarketTypeError (ActiveCandleWindow P Q) := do
  let volume ← okOr (Quantity.add w.volume c.volume) (.arithmeticOverflow "candle volume accumulation overflow")
  let quoteVolume ← mergeOption
    (fun a b => okOr (Quantity.add a b) (.arithmeticOverflow "candle quote volume accumulation overflow"))
    w.quoteVolume c.quoteVolume
  let tradesCount ← mergeOption
    (fun a b => okOr (a.checkedAdd b) (.arithmeticOverflow "trades count overflow")) w.tradesCount c.tradesCount
  let updateCount ← okOr (w.updateCount.checkedAdd (.lit 1)) (.arithmeticOverflow "update count overflow")
  return { w with
    high := max w.high c.high, low := min w.low c.low, close := c.close, volume, quoteVolume, tradesCount,
    lastSequence := sequence.or w.lastSequence, updateCount }

end

/-! ### The aggregator -/

structure OhlcvAggregator (P Q : Type) where
  instrument : InstrumentId
  timeframe : CandleTimeframe
  maxRetainedWindows : ℕ
  currentSequence : Option Sequence
  lastTimestampMs : Option I64
  resyncRequired : Bool
  activeWindow : Option (ActiveCandleWindow P Q)
  retainedCandles : List (Candle P Q)
deriving DecidableEq

namespace OhlcvAggregator

variable {P Q : Type} [LinearOrder P] [Price P] [Quantity Q]

def new (instrument : InstrumentId) (timeframe : CandleTimeframe) (maxRetained : ℕ) :
    Except MarketTypeError (OhlcvAggregator P Q) := do
  instrument.validate
  ensure (maxRetained ≠ 0 ∧ maxRetained ≤ PrivateExecution.maxRetainedWindows)
    (.retainedWindowsExceeded maxRetained PrivateExecution.maxRetainedWindows)
  ensure (timeframe.durationMs ≠ 0) (.invalidCandleTimeframe "zero duration")
  return ⟨instrument, timeframe, maxRetained, none, none, false, none, []⟩

variable (o : OhlcvAggregator P Q)

def triggerResync : OhlcvAggregator P Q := { o with resyncRequired := true }

def width : I64 := .wrap o.timeframe.durationMs

def windowOpen (t : I64) : I64 := .wrap (t.val.tdiv o.width.val * o.width.val)

def windowClose (t : I64) : I64 := .wrap ((o.windowOpen t).val + o.width.val)

def resetWithBaseline (sequence : Sequence) (c : Candle P Q) :
    Call (OhlcvAggregator P Q) MarketTypeError Unit := do
  let o ← Call.read
  Call.check c.validate
  Call.check sequence.validate
  Call.check (ensure (c.instrument = o.instrument) .targetMismatch)
  Call.check (o.currentSequence.forM fun curr =>
    ensure (curr < sequence) (.staleSequence sequence.val curr.val))
  Call.write { o with
    activeWindow := some (.opening c (o.windowOpen c.openTimeMs) (o.windowClose c.openTimeMs) (some sequence))
    currentSequence := some sequence
    lastTimestampMs := some c.closeTimeMs
    resyncRequired := false }

variable (c : Candle P Q) (sequence : Option Sequence)

/-- The windows a candle leads to: rolled into the open window, or the open window is finished and a new
one opened. -/
def rollup : Except MarketTypeError (ActiveCandleWindow P Q × List (Candle P Q)) := do
  let targetOpen := o.windowOpen c.openTimeMs
  let targetClose := o.windowClose c.openTimeMs
  ensure (¬targetClose < c.closeTimeMs)
    (.invalidCandleBounds "candle window crosses aggregation timeframe boundary")
  match o.activeWindow with
  | some active =>
    ensure (¬targetOpen < active.openTimeMs) (.staleCandleWindow c.openTimeMs.val active.closeTimeMs.val)
    if targetOpen = active.openTimeMs then return (← active.absorb c sequence, o.retainedCandles)
    else
      let finalized ← active.toCandle o.instrument o.timeframe
      let retained := o.retainedCandles ++ [finalized]
      return (.opening c targetOpen targetClose sequence,
        if retained.length > o.maxRetainedWindows then retained.drop 1 else retained)
  | none =>
    o.lastTimestampMs.forM fun last =>
      ensure (¬c.openTimeMs < last) (.staleCandleWindow c.openTimeMs.val last.val)
    return (.opening c targetOpen targetClose sequence, o.retainedCandles)

/-- What `apply_candle` checks of a candle before it looks at the sequence. -/
def ensureCandle : Except MarketTypeError Unit := do
  c.validate
  ensure (c.instrument = o.instrument) .targetMismatch
  ensure (c.durationMs ≤ o.timeframe.durationMs) (.candleWindowExceeded c.durationMs o.timeframe.durationMs)

/-- The end of `apply_candle`, for a candle that is next. -/
def keepCandle : Call (OhlcvAggregator P Q) MarketTypeError DeltaClassification := do
  let o ← Call.read
  let (active, retained) ← Call.check (o.rollup c sequence)
  let current := sequence.or o.currentSequence
  Call.write { o with
    activeWindow := some active
    retainedCandles := retained
    currentSequence := current
    lastTimestampMs := some c.closeTimeMs }
  return .contiguous (current.getD (.lit 1))

def applyCandle : Call (OhlcvAggregator P Q) MarketTypeError DeltaClassification := do
  let o ← Call.read
  if o.resyncRequired then
    let expected := Sequence.expected o.currentSequence
    return .resyncRequired expected (sequence.getD expected)
  Call.check (o.ensureCandle c)
  match o.currentSequence, sequence with
  | some curr, some seq =>
    Call.check seq.validate
    if seq < curr then return .stale seq curr
    if seq = curr then return .duplicate curr
    if seq ≠ Sequence.next curr then
      Call.write o.triggerResync
      return .resyncRequired (Sequence.next curr) seq
    keepCandle c sequence
  | _, _ => keepCandle c sequence

def tickCandle (price : P) (quantity : Q) (timestampMs : I64) : Except MarketTypeError (Candle P Q) := do
  let closeTimeMs ← okOr (I64.ofInt? (timestampMs.val + 1)) (.arithmeticOverflow "timestamp overflow on tick close")
  return { instrument := o.instrument, timeframe := o.timeframe, openTimeMs := timestampMs, closeTimeMs,
           openPrice := price, high := price, low := price, close := price, volume := quantity,
           quoteVolume := none, tradesCount := some (.lit 1) }

def applyTick (price : P) (quantity : Q) (timestampMs : I64) (sequence : Option Sequence) :
    Call (OhlcvAggregator P Q) MarketTypeError DeltaClassification := do
  let o ← Call.read
  Call.check (ensure (¬timestampMs.val ≤ 0) (.invalidTimestamp timestampMs.val))
  Call.check (ensure (Price.isZero price = false) .zeroPrice)
  let candle ← Call.check (o.tickCandle price quantity timestampMs)
  applyCandle candle sequence

/-! ### What a candle and a baseline can do -/

/-- A candle was taken with its sequence: it is the current one now, and was the next one. -/
structure Takes (o : OhlcvAggregator P Q) (seq : Sequence) (o' : OhlcvAggregator P Q) : Prop where
  unlatched : o.resyncRequired = false ∧ o'.resyncRequired = false
  next : ∀ curr, o.currentSequence = some curr → seq = Sequence.next curr ∧ curr < seq
  current : o'.currentSequence = some seq

inductive CandleOutcome (o : OhlcvAggregator P Q) (seq : Sequence) :
    Except MarketTypeError DeltaClassification × OhlcvAggregator P Q → Prop where
  | failed (e : MarketTypeError) : CandleOutcome o seq (.error e, o)
  | latched (expected received : Sequence) (h : o.resyncRequired = true) :
      CandleOutcome o seq (.ok (.resyncRequired expected received), o)
  | stale (curr : Sequence) (h : o.currentSequence = some curr) (hlt : seq < curr) :
      CandleOutcome o seq (.ok (.stale seq curr), o)
  | duplicate (h : o.currentSequence = some seq) : CandleOutcome o seq (.ok (.duplicate seq), o)
  | gap (curr : Sequence) (h : o.currentSequence = some curr) (hlt : curr < seq) (hne : seq ≠ Sequence.next curr) :
      CandleOutcome o seq (.ok (.resyncRequired (Sequence.next curr) seq), o.triggerResync)
  | kept (o' : OhlcvAggregator P Q) (h : Takes o seq o') : CandleOutcome o seq (.ok (.contiguous seq), o')

section

variable (o : OhlcvAggregator P Q)

lemma keepCandle_outcome (c : Candle P Q) (seq : Sequence) (hlatch : o.resyncRequired = false)
    (hnext : ∀ curr, o.currentSequence = some curr → seq = Sequence.next curr ∧ curr < seq) :
    CandleOutcome o seq (keepCandle c (some seq) o) := by
  unfold keepCandle
  rw [Call.read_bind]
  refine Call.check_cases .failed fun windows _ => ?_
  exact .kept _ ⟨⟨hlatch, hlatch⟩, hnext, rfl⟩

lemma applyCandle_outcome (c : Candle P Q) (seq : Sequence) :
    CandleOutcome o seq (applyCandle c (some seq) o) := by
  unfold applyCandle
  rw [Call.read_bind]
  by_cases hlatch : o.resyncRequired = true
  · rw [if_pos hlatch]
    exact .latched _ _ hlatch
  · rw [if_neg hlatch]
    have hopen : o.resyncRequired = false := Bool.eq_false_of_not_eq_true hlatch
    refine Call.check_cases .failed fun _ _ => ?_
    cases hcurr : o.currentSequence with
    | none => exact keepCandle_outcome o c seq hopen (by simp [hcurr])
    | some curr =>
      refine Call.check_cases .failed fun _ _ => ?_
      split_ifs with hstale hdup hgap
      · exact .stale curr hcurr hstale
      · subst hdup
        exact .duplicate hcurr
      · exact .gap curr hcurr (Sequence.lt_of_not hstale hdup) hgap
      · refine keepCandle_outcome o c seq hopen fun curr' hcurr' => ?_
        cases hcurr.symm.trans hcurr'
        exact ⟨not_not.1 hgap, Sequence.lt_of_not hstale hdup⟩

lemma applyTick_outcome (price : P) (quantity : Q) (timestampMs : I64) (seq : Sequence) :
    CandleOutcome o seq (applyTick price quantity timestampMs (some seq) o) := by
  unfold applyTick
  rw [Call.read_bind]
  refine Call.check_cases .failed fun _ _ => ?_
  refine Call.check_cases .failed fun _ _ => ?_
  refine Call.check_cases .failed fun candle _ => ?_
  exact applyCandle_outcome o candle seq

inductive BaselineOutcome (o : OhlcvAggregator P Q) (seq : Sequence) :
    Except MarketTypeError Unit × OhlcvAggregator P Q → Prop where
  | failed (e : MarketTypeError) : BaselineOutcome o seq (.error e, o)
  | reset (o' : OhlcvAggregator P Q) (hlatch : o'.resyncRequired = false) (hcurrent : o'.currentSequence = some seq)
      (habove : ∀ curr, o.currentSequence = some curr → curr < seq) : BaselineOutcome o seq (.ok (), o')

omit [Quantity Q] in
lemma resetWithBaseline_outcome (seq : Sequence) (c : Candle P Q) :
    BaselineOutcome o seq (resetWithBaseline seq c o) := by
  unfold resetWithBaseline
  rw [Call.read_bind]
  refine Call.check_cases .failed fun _ _ => ?_
  refine Call.check_cases .failed fun _ _ => ?_
  refine Call.check_cases .failed fun _ _ => ?_
  refine Call.check_cases .failed fun u habove => ?_
  refine .reset _ rfl rfl fun curr hcurr => ?_
  rw [hcurr] at habove
  exact ensure_eq_ok.1 habove

end

end OhlcvAggregator

end PrivateExecution
