import PrivateExecution.Collections.SortBy
import PrivateExecution.Routing.Request

/-!
# Candidate paths

The bounded enumeration of routes over the pools of a request (`routing/src/graph.rs`): direct paths, and
paths over one bridge asset.
-/

namespace PrivateExecution.Routing

open Collections

/-! ### Edges -/

inductive EdgeDir where
  | zeroForOne | oneForZero
deriving DecidableEq

structure Edge where
  descIdx : ℕ
  desc : PoolDescriptor
  dir : EdgeDir

variable (e : Edge)

def Edge.tokenIn : AssetId :=
  match e.dir with
  | .zeroForOne => e.desc.envelope.state.token0
  | .oneForZero => e.desc.envelope.state.token1

def Edge.tokenOut : AssetId :=
  match e.dir with
  | .zeroForOne => e.desc.envelope.state.token1
  | .oneForZero => e.desc.envelope.state.token0

def Edge.pool : String := e.desc.envelope.poolId.address

/-- Four labels, compared one after the other. -/
structure LegKey where
  first : String
  second : String
  third : String
  fourth : String

def LegKey.cmp : LegKey → LegKey → Ordering :=
  compareLex (compareOn (·.first)) <| compareLex (compareOn (·.second)) <|
    compareLex (compareOn (·.third)) (compareOn (·.fourth))

def Edge.sortKey : LegKey :=
  ⟨e.tokenIn.address, e.tokenOut.address, e.desc.venue.asStr, e.desc.legPoolRef.asStr⟩

/-! ### The canonical order of descriptors -/

def cpmmCmp : CpmmPoolState → CpmmPoolState → Ordering :=
  compareLex (compareOn (·.token0.address)) <| compareLex (compareOn (·.token1.address)) <|
    compareLex (compareOn (·.decimals0.val)) <| compareLex (compareOn (·.decimals1.val)) <|
    compareLex (compareOn (·.reserve0.val)) <| compareLex (compareOn (·.reserve1.val)) <|
    compareLex (compareOn (·.totalLpSupply.map (·.val))) (compareOn (·.feeBps.get))

def tickCmp : ClmmTick → ClmmTick → Ordering :=
  compareLex (compareOn (·.index)) <| compareLex (compareOn (·.liquidityGross.val)) (compareOn (·.liquidityNet))

def clmmCmp : ClmmPoolState → ClmmPoolState → Ordering :=
  compareLex (compareOn (·.token0.address)) <| compareLex (compareOn (·.token1.address)) <|
    compareLex (compareOn (·.decimals0.val)) <| compareLex (compareOn (·.decimals1.val)) <|
    compareLex (compareOn (·.tickSpacing.val)) <| compareLex (compareOn (·.currentTick)) <|
    compareLex (compareOn (·.sqrtPriceX64.val)) <| compareLex (compareOn (·.liquidity.val)) <|
    compareLex (compareOn (·.feeBps.get)) fun a b => List.compareLex tickCmp a.ticks b.ticks

def binCmp : LiquidityBin → LiquidityBin → Ordering :=
  compareLex (compareOn (·.id)) <| compareLex (compareOn (·.reserve0.val)) (compareOn (·.reserve1.val))

def binPoolCmp : BinPoolState → BinPoolState → Ordering :=
  compareLex (compareOn (·.token0.address)) <| compareLex (compareOn (·.token1.address)) <|
    compareLex (compareOn (·.decimals0.val)) <| compareLex (compareOn (·.decimals1.val)) <|
    compareLex (compareOn (·.activeBinId)) <| compareLex (compareOn (·.binStep)) <|
    compareLex (compareOn (·.feeBps.get)) fun a b => List.compareLex binCmp a.bins b.bins

def stateRank : PoolKindState → ℕ
  | .cpmm _ => 0
  | .clmm _ => 1
  | .bin _ => 2

def stateCmp (left right : PoolKindState) : Ordering :=
  match left, right with
  | .cpmm a, .cpmm b => cpmmCmp a b
  | .clmm a, .clmm b => clmmCmp a b
  | .bin a, .bin b => binPoolCmp a b
  | _, _ => compare (stateRank left) (stateRank right)

def descriptorCmp : PoolDescriptor → PoolDescriptor → Ordering :=
  compareLex (compareOn (·.venue.asStr)) <| compareLex (compareOn (·.legPoolRef.asStr)) <|
    compareLex (compareOn (·.envelope.observedAtMs.val)) <| compareLex (compareOn (·.envelope.sequence.val)) <|
    compareLex (compareOn (·.impactOverrideBps.map (·.get))) fun a b => stateCmp a.envelope.state b.envelope.state

/-! ### Duplicates -/

def Edge.Same (a b : Edge) : Prop := a.pool = b.pool ∧ a.dir = b.dir

instance (a b : Edge) : Decidable (a.Same b) := inferInstanceAs (Decidable (_ ∧ _))

/-- One round of `dedupe_edges`. There is at most one edge to replace. -/
def keepEdge (deduped : List Edge) (edge : Edge) : List Edge :=
  if ∃ current ∈ deduped, edge.Same current then
    deduped.map fun current =>
      if edge.Same current ∧ descriptorCmp edge.desc current.desc = .lt then edge else current
  else deduped ++ [edge]

def dedupeEdges (edges : List Edge) : List Edge := edges.foldl keepEdge []

/-- The first edge of every pool that is not among those seen. -/
def firstPerPool : List Edge → List String → List Edge
  | [], _ => []
  | edge :: rest, seen =>
    if edge.pool ∈ seen then firstPerPool rest seen else edge :: firstPerPool rest (edge.pool :: seen)

/-! ### Paths -/

def candidateLeg : CandidateLeg := ⟨e.descIdx, e.tokenIn, e.tokenOut⟩

abbrev EdgePath : Type := List Edge

def pathKey (path : EdgePath) : ℕ × List LegKey :=
  (path.length, path.map fun e =>
    ⟨e.desc.venue.asStr, e.desc.legPoolRef.asStr, e.tokenIn.address, e.tokenOut.address⟩)

def pathCmp : EdgePath → EdgePath → Ordering :=
  compareLex (compareOn fun path => (pathKey path).1) fun a b =>
    List.compareLex LegKey.cmp (pathKey a).2 (pathKey b).2

/-- The edges of a pool. A pool has to be valid and on the chain of the intent. -/
def descriptorEdges (intent : TradeIntent) (descIdx : ℕ) (desc : PoolDescriptor) :
    Except RoutingError (List Edge) := do
  desc.envelope.validate.mapError fun _ => .poolStateInvalid
  ensure (desc.envelope.poolId.chain = intent.chain ∧ desc.envelope.state.token0.chain = intent.chain ∧
    desc.envelope.state.token1.chain = intent.chain) .poolChainMismatch
  return [⟨descIdx, desc, .zeroForOne⟩, ⟨descIdx, desc, .oneForZero⟩]

def allEdges (intent : TradeIntent) : ℕ → List PoolDescriptor → Except RoutingError (List Edge)
  | _, [] => .ok []
  | descIdx, desc :: rest => do
    let edges ← descriptorEdges intent descIdx desc
    let more ← allEdges intent (descIdx + 1) rest
    return edges ++ more

def directPaths (intent : TradeIntent) (edges : List Edge) : List EdgePath :=
  (firstPerPool (edges.filter fun e => e.tokenIn = intent.tokenIn ∧ e.tokenOut = intent.tokenOut) []).map ([·])

/-- The bridge assets in the order they are met, each once. -/
def bridgeAssets (intent : TradeIntent) (edges : List Edge) : List AssetId :=
  ((edges.filter (·.tokenIn = intent.tokenIn)).map (·.tokenOut)).foldl
    (fun assets out =>
      if out = intent.tokenOut ∨ out = intent.tokenIn ∨ out ∈ assets then assets else assets ++ [out]) []

/-- The paths of two hops over a bridge asset. No pool is used twice. -/
def bridgePaths (intent : TradeIntent) (edges : List Edge) (bridge : AssetId) : List EdgePath :=
  (edges.filter fun e => e.tokenIn = intent.tokenIn ∧ e.tokenOut = bridge).flatMap fun first =>
    (edges.filter fun e => e.tokenIn = bridge ∧ e.tokenOut = intent.tokenOut ∧ e.pool ≠ first.pool).map
      fun second => [first, second]

/-- The paths over the bridge assets that the cap leaves, and whether it cut some off. -/
def bridgedPaths (intent : TradeIntent) (maxHops : ℕ) (edges : List Edge) : List EdgePath × Bool :=
  if 2 ≤ maxHops then
    let bridges := sortBy (compareOn (·.address)) (bridgeAssets intent edges)
    ((bridges.take maxBridgeAssets).flatMap (bridgePaths intent edges), decide (maxBridgeAssets < bridges.length))
  else ([], false)

def enumerateCandidates (intent : TradeIntent) (maxHops : ℕ) (descriptors : List PoolDescriptor) :
    Except RoutingError CandidateSet := do
  ensure (¬(maxHops = 0 ∨ maxRouteHops < maxHops)) .unsupportedHopCount
  ensure (descriptors ≠ []) .emptyPoolSet
  ensure (descriptors.length ≤ maxPoolsScanned) .poolSetTooLarge
  ensure (intent.tokenIn ≠ intent.tokenOut) .sameAssetPair
  let edges ← allEdges intent 0 descriptors
  let edges := dedupeEdges (sortBy (fun a b => LegKey.cmp a.sortKey b.sortKey) edges)
  let (bridged, truncated) := bridgedPaths intent maxHops edges
  let paths := sortBy pathCmp (directPaths intent edges ++ bridged)
  return {
    paths := (paths.take maxRouteCandidates).map fun path => ⟨path.map candidateLeg⟩
    truncated := truncated || decide (maxRouteCandidates < paths.length) }

end PrivateExecution.Routing
