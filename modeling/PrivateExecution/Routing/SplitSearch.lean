import PrivateExecution.Routing.Planner
import PrivateExecution.Routing.Split

/-!
# The split search

The phases of `plan_split` (`routing/src/split.rs`).
-/

namespace PrivateExecution.Routing

open Collections Async

section

variable (req : RouteRequest) (config : SplitConfig) (incumbentNet : U128)

/-! ### Two paths -/

structure TwoPathPoint where
  x : ℕ
  left : RouteQuote
  right : RouteQuote
  value : ℕ

def bothPassDust (x right : ℕ) (left rightQuote : RouteQuote) : Except RoutingError Bool := do
  if ← passesDust config x left then passesDust config right rightQuote else return false

def evalTwoPath (total : ℕ) (pathI pathJ : CandidatePath) (x : ℕ) : Search (Option TwoPathPoint) :=
  let right := total - x
  if x < config.minLegInput.val ∨ right < config.minLegInput.val then return none
  else do
    match ← tryQuoteBranch req pathI x with
    | none => return none
    | some left =>
      match ← tryQuoteBranch req pathJ right with
      | none => return none
      | some rightQuote =>
        let passes ← Call.check (bothPassDust config x right left rightQuote)
        let value := left.netOutput.amount.val + rightQuote.netOutput.amount.val
        return if passes ∧ value < 2 ^ 128 then some ⟨x, left, rightQuote, value⟩ else none

def evalAll (eval : ℕ → Search (Option TwoPathPoint)) : List ℕ → Search (List TwoPathPoint)
  | [] => return []
  | x :: rest => do
    let point ← eval x
    let points ← evalAll eval rest
    return point.toList ++ points

/-- The better of two points: more output, or as much with less on the left. Of equal points the later one
stays. -/
def betterPoint (best point : TwoPathPoint) : TwoPathPoint :=
  if point.value < best.value ∨ point.value = best.value ∧ best.x < point.x then best else point

def bestPoint : List TwoPathPoint → Option TwoPathPoint
  | [] => none
  | point :: rest => some (rest.foldl betterPoint point)

/-- What the bisection carries. -/
structure Refine where
  lo : ℕ
  hi : ℕ
  loPoint : Option TwoPathPoint
  hiPoint : Option TwoPathPoint
  best : TwoPathPoint

def pointValue (point : Option TwoPathPoint) : ℕ := (point.map (·.value)).getD 0

/-- A quoted midpoint replaces the end with the lesser value, and the best point if it is better. -/
def Refine.hit (r : Refine) (mid : ℕ) (point : TwoPathPoint) : Refine :=
  let best := if r.best.value < point.value ∨ point.value = r.best.value ∧ point.x < r.best.x then point else r.best
  if pointValue r.loPoint ≤ pointValue r.hiPoint then
    { r with lo := mid, loPoint := some point, best := best }
  else { r with hi := mid, hiPoint := some point, best := best }

/-- A midpoint without a quote: which end moves there, if one has a point. -/
def Refine.miss (r : Refine) (mid : ℕ) : Option Refine :=
  match r.loPoint, r.hiPoint with
  | some _, some _ =>
    some (if pointValue r.loPoint ≤ pointValue r.hiPoint then { r with lo := mid } else { r with hi := mid })
  | some _, none => some { r with hi := mid }
  | none, some _ => some { r with lo := mid }
  | none, none => none

def refine (eval : ℕ → Search (Option TwoPathPoint)) : ℕ → Refine → Search TwoPathPoint
  | 0, r => return r.best
  | steps + 1, r =>
    if r.hi ≤ r.lo + 1 then return r.best
    else do
      let mid := r.lo + (r.hi - r.lo) / 2
      match ← eval mid with
      | some point => refine eval steps (r.hit mid point)
      | none =>
        match r.miss mid with
        | some r => refine eval steps r
        | none => return r.best

/-- The allocations of the coarse grid. The products fit: the quotient is at most the total. -/
def gridPoints (total : ℕ) : List ℕ :=
  (List.range' 1 (splitGridSteps - 1)).map fun k => total * k / splitGridSteps

def bestTwoPath (total : ℕ) (pathI pathJ : CandidatePath) : Search (Option TwoPathPoint) :=
  let minInput := config.minLegInput.val
  let eval := evalTwoPath req config total pathI pathJ
  if total < min (minInput * 2) (2 ^ 128 - 1) then return none
  else do
    match bestPoint (← evalAll eval (gridPoints total)) with
    | none => return none
    | some best =>
      let step := total / splitGridSteps
      let lo := max (best.x - step) minInput
      let hi := min (best.x + step) (total - minInput)
      let loPoint ← eval lo
      let hiPoint ← eval hi
      let point ← refine eval maxSplitRefineSteps ⟨lo, hi, loPoint, hiPoint, best⟩
      return some point

/-! ### Single paths -/

structure SingleBaseline where
  path : CandidatePath
  scored : ScoredRoute
  netAfterGas : Option U128

def SingleBaseline.ranked (b : SingleBaseline) : RankedRoute := ⟨b.scored, b.netAfterGas, none⟩

def SingleBaseline.net (b : SingleBaseline) : U128 := b.ranked.primaryNet

/-- The quote of a single path and its score, or why there is none. -/
def baselineOf (path : CandidatePath) (gasCost : Option AssetAmount) : Except RoutingError SingleBaseline := do
  let quote ← quotePath req req.descriptors path
  let score ← buildScore req.intent quote req.scoring gasCost req.nowMs
  let net ← netAfterGas quote.netOutput gasCost req.gasPriceInOutput
  return ⟨path, ⟨quote, score⟩, net⟩

/-- The loop over the single paths: the baselines and the failures, in order. -/
def baselines : List CandidatePath → Search (List SingleBaseline × List RoutingError)
  | [] => return ([], [])
  | path :: rest => do
    chargeBudget
    match estimateGasCost req path.legs.length with
    | .error e =>
      let (found, failures) ← baselines rest
      return (found, e :: failures)
    | .ok gasCost =>
      countQuote
      match baselineOf req path gasCost with
      | .error e =>
        let (found, failures) ← baselines rest
        return (found, e :: failures)
      | .ok baseline =>
        let (found, failures) ← baselines rest
        return (baseline :: found, failures)

def pathPoolRefs (descriptors : List PoolDescriptor) (path : CandidatePath) : List String :=
  path.legs.filterMap fun leg => descriptors[leg.descriptorIndex]?.map (·.envelope.poolId.address)

/-- One of the best single paths: its position, and the pools it uses. -/
structure TopPath where
  index : ℕ
  path : CandidatePath
  pools : List String

def TopPath.Overlaps (a b : TopPath) : Prop := ∃ pool ∈ a.pools, pool ∈ b.pools

instance (a b : TopPath) : Decidable (a.Overlaps b) := inferInstanceAs (Decidable (∃ pool ∈ a.pools, pool ∈ b.pools))

/-! ### Pairs -/

structure CandidateWithPaths where
  candidate : SplitQuote
  paths : List TopPath

def compareCandidates : CandidateWithPaths → CandidateWithPaths → Ordering :=
  compareLex (fun left right => compare right.candidate.netOutput.amount.val left.candidate.netOutput.amount.val) <|
    compareLex (compareOn fun c => c.candidate.legs.length) fun left right =>
      List.compareLex LegKey.cmp left.candidate.canonicalKey right.candidate.canonicalKey

/-- The improvement gate over the best single path. -/
def clearsGate (candidate : SplitQuote) : Except RoutingError Bool := do
  let net ← splitPrimaryNet candidate req.gasPriceInOutput
  return splitImproves net incumbentNet config.minSplitImprovementBps

/-- The candidate of some branches, if it can be built and clears the gate. -/
def gatedQuote (legs : List Branch) : Except RoutingError (Option SplitQuote) := do
  match ← buildSplitQuote req legs config with
  | none => return none
  | some candidate => return if ← clearsGate req config incumbentNet candidate then some candidate else none

def tryPair (pair : TopPath × TopPath) : Search (Option CandidateWithPaths) :=
  let total := req.amountIn.val
  if pair.1.Overlaps pair.2 then return none
  else do
    match ← bestTwoPath req config total pair.1.path pair.2.path with
    | none => return none
    | some point =>
      let candidate ← Call.check
        (gatedQuote req config incumbentNet [⟨point.x, point.left⟩, ⟨total - point.x, point.right⟩])
      return candidate.map (⟨·, [pair.1, pair.2]⟩)

def pairs {A : Type} : List A → List (A × A)
  | [] => []
  | a :: rest => rest.map (a, ·) ++ pairs rest

def tryPairs : List (TopPath × TopPath) → Search (List CandidateWithPaths)
  | [] => return []
  | pair :: rest => do
    let candidate ← tryPair req config incumbentNet pair
    let candidates ← tryPairs rest
    return candidate.toList ++ candidates

/-! ### Extension -/

structure LegState where
  top : TopPath
  budget : ℕ
  quote : RouteQuote

def LegState.branch (leg : LegState) : Branch := ⟨leg.budget, leg.quote⟩

def aggregateNet (legs : List LegState) : Option ℕ :=
  (NetDelta.aggregate (legs.map (·.quote.netDelta))).toOption.map (·.netOutput.amount.val)

def quoteLeg (top : TopPath) (budget : ℕ) : Search (Option LegState) := do
  match ← tryQuoteBranch req top.path budget with
  | none => return none
  | some quote =>
    let passes ← Call.check (passesDust config budget quote)
    return if passes then some ⟨top, budget, quote⟩ else none

/-- Legs quoted at other budgets; the first that cannot be ends the loop. -/
def requoteLegs : List (LegState × ℕ) → Search (Option (List LegState))
  | [] => return some []
  | (leg, budget) :: rest => do
    match ← quoteLeg req config leg.top budget with
    | none => return none
    | some leg =>
      match ← requoteLegs rest with
      | none => return none
      | some legs => return some (leg :: legs)

/-- The branches of a trial and their aggregate output. -/
structure Trial where
  legs : List LegState
  net : ℕ

/-- The leg at position `a` gives some of its budget to the one at `b`, if that yields more. -/
def tryMove (trial : Trial) (a b : ℕ) : Search (Option Trial) :=
  match trial.legs[a]?, trial.legs[b]? with
  | some legA, some legB =>
    let quantum := max (legA.budget / 8) config.minLegInput.val
    if legA.budget ≤ quantum ∨ 2 ^ 128 ≤ legB.budget + quantum then return none
    else do
      let newA := legA.budget - quantum
      let newB := legB.budget + quantum
      match ← tryQuoteBranch req legA.top.path newA with
      | none => return none
      | some quoteA =>
        match ← tryQuoteBranch req legB.top.path newB with
        | none => return none
        | some quoteB =>
          let passes ← Call.check (bothPassDust config newA newB quoteA quoteB)
          let legs := (trial.legs.set a { legA with budget := newA, quote := quoteA }).set b
            { legB with budget := newB, quote := quoteB }
          match aggregateNet legs with
          | none => return none
          | some net => return if passes ∧ trial.net < net then some ⟨legs, net⟩ else none
  | _, _ => return none

def moves (n : ℕ) : List (ℕ × ℕ) :=
  (List.range n).flatMap fun a => ((List.range n).filter (· ≠ a)).map (a, ·)

/-- One round of the coordinate ascent; says whether a move was accepted. -/
def ascendRound : List (ℕ × ℕ) → Trial → Bool → Search (Trial × Bool)
  | [], trial, accepted => return (trial, accepted)
  | (a, b) :: rest, trial, accepted => do
    match ← tryMove req config trial a b with
    | none => ascendRound rest trial accepted
    | some trial => ascendRound rest trial true

def ascend : ℕ → Trial → Search Trial
  | 0, trial => return trial
  | steps + 1, trial => do
    let (trial, accepted) ← ascendRound req config (moves trial.legs.length) trial false
    if accepted then ascend steps trial else return trial

/-- What the extension carries: the branches, their aggregate output and the candidates so far. -/
structure Growth where
  legs : List LegState
  net : ℕ
  candidates : List CandidateWithPaths

/-- The budgets of the branches when one more joins. The sums fit: they are at most the total. -/
def scaledBudgets (legs : List LegState) : List ℕ :=
  legs.map fun leg => leg.budget * legs.length / (legs.length + 1)

/-- The legs of an extension by a path: the old ones scaled down, the new one with the rest. -/
def extendedLegs (legs : List LegState) (top : TopPath) : Search (Option (List LegState)) :=
  let scaled := scaledBudgets legs
  if req.amountIn.val < scaled.sum ∨ req.amountIn.val - scaled.sum < config.minLegInput.val then return none
  else do
    match ← requoteLegs req config (legs.zip scaled) with
    | none => return none
    | some trial =>
      match ← quoteLeg req config top (req.amountIn.val - scaled.sum) with
      | none => return none
      | some leg => return some (trial ++ [leg])

/-- One extension attempt of phase 3. -/
def tryExtend (growth : Growth) (top : TopPath) : Search (Option Growth) := do
  match ← extendedLegs req config growth.legs top with
  | none => return none
  | some legs =>
    match aggregateNet legs with
    | none => return none
    | some net =>
      let trial ← ascend req config maxSplitRefineSteps ⟨legs, net⟩
      if trial.net ≤ growth.net then return none
      else
        match ← Call.check (buildSplitQuote req (trial.legs.map LegState.branch) config) with
        | none => return none
        | some candidate =>
          if candidate.netOutput.amount.val ≠ trial.net then return none
          else
            let improves ← Call.check (clearsGate req config incumbentNet candidate)
            return if improves then
              some ⟨trial.legs, trial.net, growth.candidates ++ [⟨candidate, trial.legs.map (·.top)⟩]⟩
            else none

/-- The path is taken already, or shares a pool with a branch. -/
def Growth.Taken (growth : Growth) (top : TopPath) : Prop :=
  ∃ leg ∈ growth.legs, leg.top.index = top.index ∨ leg.top.Overlaps top

instance (growth : Growth) (top : TopPath) : Decidable (growth.Taken top) :=
  inferInstanceAs (Decidable (∃ leg ∈ growth.legs, _))

/-- One pass over the paths; says whether an extension was adopted. -/
def extendPass : List TopPath → Growth → Bool → Search (Growth × Bool)
  | [], growth, adopted => return (growth, adopted)
  | top :: rest, growth, adopted =>
    if config.maxLegs ≤ growth.legs.length then return (growth, adopted)
    else if growth.Taken top then extendPass rest growth adopted
    else do
      match ← tryExtend req config incumbentNet growth top with
      | none => extendPass rest growth adopted
      | some growth => extendPass rest growth true

/-- The passes of phase 3. A pass that adopts an extension adds a branch, so there are fewer passes than
branches are allowed. -/
def extendLoop (tops : List TopPath) : ℕ → Growth → Search Growth
  | 0, growth => return growth
  | passes + 1, growth =>
    if config.maxLegs < growth.legs.length + 1 then return growth
    else do
      let (growth, adopted) ← extendPass req config incumbentNet tops growth false
      if adopted then extendLoop tops passes growth else return growth

/-- Phase 3: the candidates with those of the extension of the best. -/
def extendBest (tops : List TopPath)
    (candidates : List CandidateWithPaths) : Search (List CandidateWithPaths) :=
  match candidates with
  | [] => return []
  | base :: _ => do
    let legs := (base.paths.zip base.candidate.legs).map fun (top, leg) => ⟨top, leg.amountIn.val, leg.quote⟩
    let growth ← extendLoop req config incumbentNet tops maxSplitLegs
      ⟨legs, base.candidate.netOutput.amount.val, candidates⟩
    return growth.candidates

/-! ### The planner -/

structure SplitDecision where
  candidates : List SplitQuote
  selected : Option SplitQuote
  incumbent : Option ScoredRoute
  truncated : Bool

def verifySplit (candidate : SplitQuote) : Except BridgeError ExecutionPreview :=
  validateSplitDeltaPreviewWithAssessment req.intent candidate.split
    (candidate.legs.map (·.quote.netDelta)) req.assessment req.nowMs

/-- Phase 0: the checks of the request. -/
def checkSplitRequest : Except RoutingError Unit := do
  checkRouteRequest req
  config.validate req.intent
  validateAssessment req

def topPaths (ranked : List SingleBaseline) : List TopPath :=
  (ranked.take maxSplitPairs).zipIdx.map fun (baseline, index) =>
    ⟨index, baseline.path, pathPoolRefs req.descriptors baseline.path⟩

/-- Phases 1 to 3: the split candidates over the best single path, best first. -/
def splitCandidates (ranked : List SingleBaseline)
    (best : SingleBaseline) : Search (List CandidateWithPaths) := do
  let tops := topPaths req ranked
  let found ← tryPairs req config best.net (pairs tops)
  let all ← extendBest req config best.net tops (sortBy compareCandidates found)
  return sortBy compareCandidates all

/-- Phase 4: what the bridge verifies, or why nothing is left. -/
def verifyPhase (truncated : Bool) (singles : List ScoredRoute) (splits : List SplitQuote) :
    Except RoutingError SplitDecision :=
  let verified := splits.filter fun candidate => (verifySplit req candidate).toBool
  let incumbent := singles.find? fun route => (verifySingle req route).toBool
  if verified = [] ∧ incumbent = none then
    .error (.selectedRejected
      (((firstReject (verifySplit req) splits).or (firstReject (verifySingle req) singles)).getD .domain))
  else .ok ⟨verified, verified.head?, incumbent, truncated⟩

def planSplit : Search SplitDecision := do
  Call.check (checkSplitRequest req config)
  let set ← Call.check (enumerateCandidates req.intent req.maxHops req.descriptors)
  let (found, failures) ← baselines req set.paths
  let ranked := sortBy (fun a b => compareScored a.ranked b.ranked) found
  match ranked with
  | [] => Call.check (.error (aggregateFailure failures))
  | best :: _ =>
    let candidates ← splitCandidates req config ranked best
    Call.check (verifyPhase req set.truncated (ranked.map (·.scored)) (candidates.map (·.candidate)))

/-- A call of the planner: the budget starts at zero. -/
def runPlanSplit : Except RoutingError SplitDecision × Meter :=
  planSplit req config ⟨0, 0⟩

end

/-! ### The order of the candidates -/

instance : Std.TransCmp LegKey.cmp := by
  unfold LegKey.cmp
  infer_instance

instance : Std.TransCmp compareCandidates := by
  have hnet := transCmp_on (fun a b : ℕ => compare b a) fun c : CandidateWithPaths => c.candidate.netOutput.amount.val
  have hkey := transCmp_on (List.compareLex LegKey.cmp) fun c : CandidateWithPaths => c.candidate.canonicalKey
  unfold compareCandidates
  infer_instance

lemma compareCandidates_isLE {a b : CandidateWithPaths} (h : (compareCandidates a b).isLE = true) :
    b.candidate.netOutput.amount.val ≤ a.candidate.netOutput.amount.val ∧
      (b.candidate.netOutput.amount.val = a.candidate.netOutput.amount.val →
        a.candidate.legs.length ≤ b.candidate.legs.length) := by
  obtain ⟨hnet, hrest⟩ := isLE_compareLex h
  refine ⟨Nat.isLE_compare.1 hnet, fun heq => ?_⟩
  exact Nat.isLE_compare.1 (isLE_compareLex (hrest (Nat.compare_eq_eq.2 heq))).1

lemma planSplit_inv {req : RouteRequest} {config : SplitConfig} {decision : SplitDecision} {s s' : Meter}
    (h : planSplit req config s = (.ok decision, s')) :
    ∃ ranked best candidates s₁ s₂, splitCandidates req config ranked best s₁ = (.ok candidates, s₂) ∧
      decision.candidates =
        (candidates.map (·.candidate)).filter (fun candidate => (verifySplit req candidate).toBool) ∧
      decision.selected = decision.candidates.head? := by
  obtain ⟨_, s₀, -, h⟩ := Call.bind_eq_ok.1 h
  obtain ⟨set, s₁, -, h⟩ := Call.bind_eq_ok.1 h
  obtain ⟨⟨found, failures⟩, s₂, -, h⟩ := Call.bind_eq_ok.1 h
  dsimp only at h
  cases hranked : sortBy (fun a b => compareScored a.ranked b.ranked) found with
  | nil =>
    rw [hranked] at h
    cases h
  | cons best rest =>
    rw [hranked] at h
    obtain ⟨candidates, s₃, hcandidates, h⟩ := Call.bind_eq_ok.1 h
    have hphase := congrArg Prod.fst h
    unfold Call.check verifyPhase at hphase
    dsimp only at hphase
    split_ifs at hphase
    cases hphase
    exact ⟨best :: rest, best, candidates, s₂, s₃, hcandidates, rfl, rfl⟩

lemma splitCandidates_sorted {req : RouteRequest} {config : SplitConfig} {ranked : List SingleBaseline}
    {best : SingleBaseline} {candidates : List CandidateWithPaths} {s s' : Meter}
    (h : splitCandidates req config ranked best s = (.ok candidates, s')) :
    candidates.Pairwise fun a b => (compareCandidates a b).isLE = true := by
  obtain ⟨found, s₁, -, h⟩ := Call.bind_eq_ok.1 h
  obtain ⟨all, s₂, -, h⟩ := Call.bind_eq_ok.1 h
  cases h
  exact pairwise_sortBy all

/-- **The selected split has the largest net output.** No verified candidate of the decision has more net
output than the selected one, and one that has as much has no fewer branches. Gas does not enter this
order. -/
theorem selected_split_largest {req : RouteRequest} {config : SplitConfig} {decision : SplitDecision}
    {q : SplitQuote} (h : (runPlanSplit req config).1 = .ok decision) (hq : decision.selected = some q) :
    ∀ c ∈ decision.candidates, c.netOutput.amount ≤ q.netOutput.amount ∧
      (c.netOutput.amount = q.netOutput.amount → q.legs.length ≤ c.legs.length) := by
  obtain ⟨ranked, best, candidates, s₁, s₂, hrun, hcandidates, hselected⟩ :=
    planSplit_inv (Prod.ext h rfl : planSplit req config ⟨0, 0⟩ = (.ok decision, _))
  have hsorted : decision.candidates.Pairwise fun a b =>
      b.netOutput.amount.val ≤ a.netOutput.amount.val ∧
        (b.netOutput.amount.val = a.netOutput.amount.val → a.legs.length ≤ b.legs.length) := by
    rw [hcandidates]
    refine List.Pairwise.filter _ ?_
    rw [List.pairwise_map]
    exact (splitCandidates_sorted hrun).imp compareCandidates_isLE
  cases hlist : decision.candidates with
  | nil =>
    rw [hselected, hlist] at hq
    cases hq
  | cons first rest =>
    rw [hselected, hlist] at hq
    obtain rfl := Option.some.inj hq
    rw [hlist, List.pairwise_cons] at hsorted
    intro c hc
    rcases List.mem_cons.1 hc with rfl | hc
    · exact ⟨le_refl (c.netOutput.amount.val), fun _ => le_rfl⟩
    · obtain ⟨hle, hlegs⟩ := hsorted.1 c hc
      exact ⟨hle, fun heq => hlegs (congrArg _ heq)⟩

namespace SplitSample

open RouteSample

def pool (address : String) : PoolDescriptor where
  envelope := ⟨⟨.base, address⟩, .lit 7, .lit 1000,
    .cpmm ⟨usdc, token, .lit 6, .lit 6, .lit 64, .lit 64, none, .lit 0⟩⟩
  venue := .lit "dex"
  legPoolRef := .lit address
  impactOverrideBps := none

def gasAsset : AssetId := ⟨.base, "ETH"⟩

lemma unit_ne_zero : (Unsigned.lit 1 : U128).val ≠ 0 := by decide

def evenRatio : PriceRatio := ⟨.lit 1, .lit 1, unit_ne_zero, unit_ne_zero⟩

/-- A buy over the three pools; every branch costs two units of gas, which are worth as much output. -/
def gasRequest : RouteRequest :=
  { request (.lit 32) [pool "A", pool "B", pool "C"] with
    intent := { intent (.lit 32) with risk := ⟨.lit 0, .lit 0, .lit 0, .lit 0, none⟩ }
    maxHops := 1
    gas := some fun _ _ => .ok ⟨gasAsset, .lit 2⟩
    gasPriceInOutput := some ⟨gasAsset, token, evenRatio⟩
    depthTargets := [] }

/-- Any improvement counts; branches of at least eight units. -/
def gasConfig : SplitConfig := ⟨.lit 0, .lit 8, .lit 1, .lit 0, none, 3⟩

def afterGas (c : SplitQuote) : Option U128 :=
  ((netAfterGas c.netOutput c.score.gasCost gasRequest.gasPriceInOutput).toOption).join

def Beaten (decision : SplitDecision) : Prop :=
  ∃ q ∈ decision.selected, ∃ c ∈ decision.candidates, ∃ v ∈ afterGas q, ∃ w ∈ afterGas c, v < w

instance (decision : SplitDecision) : Decidable (Beaten decision) :=
  inferInstanceAs (Decidable (∃ q ∈ decision.selected, ∃ c ∈ decision.candidates, ∃ v ∈ afterGas q,
    ∃ w ∈ afterGas c, v < w))

lemma gas_decision : ∃ decision, (runPlanSplit gasRequest gasConfig).1 = .ok decision ∧ Beaten decision := by
  have hruns : (runPlanSplit gasRequest gasConfig).1.toOption.any (fun decision => decide (Beaten decision)) := by
    decide +kernel
  obtain ⟨decision, hdecision, hbeaten⟩ := Option.any_eq_true _ _ |>.1 hruns
  exact ⟨decision, toOption_eq_some hdecision, of_decide_eq_true hbeaten⟩

end SplitSample

open SplitSample in
/-- Three branches return more than two, but not after gas; they are selected. -/
theorem selected_split_beaten_after_gas : ∃ decision q, (runPlanSplit gasRequest gasConfig).1 = .ok decision ∧
    decision.selected = some q ∧ ∃ c ∈ decision.candidates, ∃ v w,
      netAfterGas q.netOutput q.score.gasCost gasRequest.gasPriceInOutput = .ok (some v) ∧
      netAfterGas c.netOutput c.score.gasCost gasRequest.gasPriceInOutput = .ok (some w) ∧ v < w := by
  obtain ⟨decision, hdecision, q, hq, c, hc, v, hv, w, hw, hlt⟩ := gas_decision
  have hok : ∀ {c : SplitQuote} {v : U128}, afterGas c = some v →
      netAfterGas c.netOutput c.score.gasCost gasRequest.gasPriceInOutput = .ok (some v) := by
    intro c v h
    unfold afterGas at h
    exact toOption_eq_some (Option.join_eq_some_iff.1 h)
  exact ⟨decision, q, hdecision, hq, c, hc, v, w, hok hv, hok hw, hlt⟩

open SplitSample in
theorem selected_split_largest_of_three : ∃ decision q, (runPlanSplit gasRequest gasConfig).1 = .ok decision ∧
    decision.selected = some q ∧ ∀ c ∈ decision.candidates, c.netOutput.amount ≤ q.netOutput.amount ∧
      (c.netOutput.amount = q.netOutput.amount → q.legs.length ≤ c.legs.length) := by
  obtain ⟨decision, hdecision, q, hq, -⟩ := gas_decision
  exact ⟨decision, q, hdecision, hq, selected_split_largest hdecision hq⟩

end PrivateExecution.Routing
