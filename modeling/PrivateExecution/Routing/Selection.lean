import PrivateExecution.Routing.Planner

/-!
# What the single-path planner answers

Two facts about whole routes. More input through the same pools never returns less, net of tax
(**`quote_monotone`**): each of the three kernels is monotone, and so is a tax. The planner loses and
invents no candidate, and nothing it kept returns more after gas than the route it selects
(**`planner_selects_best`**).
-/

namespace PrivateExecution.Routing

open Collections

/-! ### More input, more output -/

section

variable {descriptors : List PoolDescriptor} {tokenIn tokenOut : AssetId} {req : RouteRequest}
  {amount a b out out' : AtomicAmount} {path : CandidatePath}

lemma cpmm_output_mono {pool : CpmmPoolState} {q q' : CpmmSimulationQuote}
    (h : simulateCpmmExactInput pool ⟨tokenIn, a, some tokenOut⟩ = .ok q)
    (h' : simulateCpmmExactInput pool ⟨tokenIn, b, some tokenOut⟩ = .ok q') (hle : a.val ≤ b.val) :
    q.output.amount.val ≤ q'.output.amount.val := by
  obtain ⟨ha, token0In, hadmits⟩ := admits_of_simulate (.inr ⟨q, h⟩)
  obtain ⟨hb, -⟩ := admits_of_simulate (.inr ⟨q', h'⟩)
  have houtput : ∀ {c : U128} {r : CpmmSimulationQuote}, 0 < c.val →
      simulateCpmmExactInput pool ⟨tokenIn, c, some tokenOut⟩ = .ok r →
      r.output.amount.val = pool.outputOf token0In c.val := by
    intro c r hc hr
    rcases hadmits.cases hc with ⟨heq, -⟩ | ⟨heq, -⟩ | ⟨-, r', heq, -, -, hout⟩
    · cases hr.symm.trans heq
    · cases hr.symm.trans heq
    · cases hr.symm.trans heq
      exact hout
  rw [houtput ha h, houtput hb h']
  have hlt := cpmmOutput_lt (e := effectiveOf pool.feeBps.get a.val) hadmits.reserveIn_pos hadmits.reserveOut_pos
  refine (le_cpmmOutput_iff hadmits.reserveIn_pos hlt).2 ?_
  exact ((le_cpmmOutput_iff hadmits.reserveIn_pos hlt).1 le_rfl).trans (effectiveOf_mono hadmits.fee ha hle)

lemma simulateBin_none {pool : BinPoolState} {q : BinSimulationQuote}
    (h : simulateBinExactInput pool ⟨tokenIn, a, some tokenOut⟩ = .ok q) :
    simulateBinExactInput pool ⟨tokenIn, a, none⟩ = .ok q := by
  unfold simulateBinExactInput at h ⊢
  obtain ⟨u, hvalid, h⟩ := bind_ok.1 h
  obtain ⟨ha, h⟩ := ensure_ok.1 h
  obtain ⟨hchain, h⟩ := ensure_ok.1 h
  obtain ⟨token0In, hdirection, h⟩ := bind_ok.1 h
  obtain ⟨-, -, h⟩ := bind_ok.1 h
  exact bind_ok.2 ⟨u, hvalid, ensure_ok.2 ⟨ha, ensure_ok.2 ⟨hchain, bind_ok.2 ⟨token0In, hdirection, h⟩⟩⟩⟩

lemma bin_output_mono {pool : BinPoolState} {q q' : BinSimulationQuote}
    (h : simulateBinExactInput pool ⟨tokenIn, a, some tokenOut⟩ = .ok q)
    (h' : simulateBinExactInput pool ⟨tokenIn, b, some tokenOut⟩ = .ok q') (hle : a.val ≤ b.val) :
    q.output.amount.val ≤ q'.output.amount.val := by
  obtain ⟨ha, token0In, active, hadmits⟩ := admits_of_simulateBin h
  obtain ⟨input, hwalks⟩ : ∃ input, BinWalks pool tokenIn none token0In active a input :=
    hadmits.walks expects_none ha
  obtain ⟨input', hwalks'⟩ : ∃ input, BinWalks pool tokenIn none token0In active b input :=
    hadmits.walks expects_none (by omega)
  obtain ⟨final, hrun, -, hout, -⟩ := hwalks.of_quote (simulateBin_none h)
  obtain ⟨final', hrun', -, hout', -⟩ := hwalks'.of_quote (simulateBin_none h')
  obtain ⟨_, hrun₁, hlags⟩ := hadmits.oracle_mono ha hle hwalks.input_eq hwalks'.input_eq hrun'
  obtain rfl := Except.ok.inj (hrun.symm.trans hrun₁)
  rw [hout, hout']
  exact hlags.output

lemma simulateHop_mono {descriptor : PoolDescriptor} {depth : Bool} {hop hop' : SimulatedHop}
    (h : simulateHop descriptor tokenIn tokenOut a depth = .ok hop)
    (h' : simulateHop descriptor tokenIn tokenOut b depth = .ok hop') (hle : a.val ≤ b.val) :
    hop.amountOut.val ≤ hop'.amountOut.val := by
  unfold simulateHop at h h'
  cases hstate : descriptor.envelope.state
  all_goals
    simp only [hstate] at h h'
    obtain ⟨q, hq, h⟩ := bind_ok.1 h
    obtain ⟨q', hq', h'⟩ := bind_ok.1 h'
    cases h
    cases h'
  case cpmm => exact cpmm_output_mono (mapError_eq_ok hq) (mapError_eq_ok hq') hle
  case clmm => exact ((simulateClmm_order b (some tokenOut) (mapError_eq_ok hq) hle).2 q' (mapError_eq_ok hq')).1
  case bin => exact bin_output_mono (mapError_eq_ok hq) (mapError_eq_ok hq') hle

lemma composeHops_mono {legs : List CandidateLeg} {depth : Bool} {hops hops' : List HopQuote}
    (h : composeHops descriptors depth legs a = .ok (hops, out))
    (h' : composeHops descriptors depth legs b = .ok (hops', out')) (hle : a.val ≤ b.val) :
    out.val ≤ out'.val := by
  induction legs generalizing a b hops hops' with
  | nil =>
    cases h
    cases h'
    exact hle
  | cons leg rest ih =>
    obtain ⟨descriptor, hlookup, h⟩ := bind_ok.1 h
    obtain ⟨hop, hhop, h⟩ := bind_ok.1 h
    obtain ⟨-, h⟩ := ensure_ok.1 h
    obtain ⟨⟨more, output⟩, hrest, h⟩ := bind_ok.1 h
    obtain ⟨descriptor', hlookup', h'⟩ := bind_ok.1 h'
    obtain ⟨hop', hhop', h'⟩ := bind_ok.1 h'
    obtain ⟨-, h'⟩ := ensure_ok.1 h'
    obtain ⟨⟨more', output'⟩, hrest', h'⟩ := bind_ok.1 h'
    cases h
    cases h'
    obtain rfl := Except.ok.inj (hlookup.symm.trans hlookup')
    exact ih hrest hrest' (simulateHop_mono hhop hhop' hle)

lemma applyTax_mono {assessment : TaxAssessment} {bps : Bps} {zeroGross zeroNet : TaxSafetyError}
    {gross gross' taxCost taxCost' net net' : AssetAmount}
    (h : applyTax assessment bps zeroGross zeroNet gross = .ok (taxCost, net))
    (h' : applyTax assessment bps zeroGross zeroNet gross' = .ok (taxCost', net'))
    (hle : gross.amount.val ≤ gross'.amount.val) : net.amount.val ≤ net'.amount.val := by
  obtain ⟨-, -, htax, hsum, hpos⟩ := applyTax_spec h
  obtain ⟨-, -, htax', hsum', -⟩ := applyTax_spec h'
  have hrate : bps.get < 10000 := by
    refine lt_of_le_of_ne bps.le fun hall => ?_
    rw [hall, Nat.mul_div_cancel _ (by norm_num)] at htax
    omega
  have hmono := effectiveOf_mono hrate (by omega) hle
  unfold effectiveOf at hmono
  omega

lemma inputTax_mono {tax tax' : Option AssetAmount}
    (h : inputTax req = .ok (a, tax)) (h' : inputTax { req with amountIn := amount } = .ok (b, tax'))
    (hle : req.amountIn.val ≤ amount.val) : a.val ≤ b.val := by
  unfold inputTax at h h'
  cases hside : req.intent.side with
  | buy =>
    simp only [hside] at h h'
    cases h
    cases h'
    exact hle
  | sell =>
    simp only [hside] at h h'
    obtain ⟨taxed, htaxed, h⟩ := bind_ok.1 h
    obtain ⟨taxed', htaxed', h'⟩ := bind_ok.1 h'
    cases h
    cases h'
    obtain ⟨⟨_, _⟩, htax, hsell⟩ := bind_ok.1 (Fault.typed_eq_ok.1 (mapError_eq_ok htaxed))
    obtain ⟨⟨_, _⟩, htax', hsell'⟩ := bind_ok.1 (Fault.typed_eq_ok.1 (mapError_eq_ok htaxed'))
    cases hsell
    cases hsell'
    exact applyTax_mono htax htax' hle

lemma outputTax_mono {tax tax' cost cost' : Option AssetAmount} (h : outputTax req out tax = .ok (a, cost))
    (h' : outputTax { req with amountIn := amount } out' tax' = .ok (b, cost')) (hle : out.val ≤ out'.val) :
    a.val ≤ b.val := by
  unfold outputTax at h h'
  cases hside : req.intent.side with
  | buy =>
    simp only [hside] at h h'
    obtain ⟨taxed, htaxed, h⟩ := bind_ok.1 h
    obtain ⟨taxed', htaxed', h'⟩ := bind_ok.1 h'
    cases h
    cases h'
    obtain ⟨⟨_, _⟩, htax, hbuy⟩ := bind_ok.1 (Fault.typed_eq_ok.1 (mapError_eq_ok htaxed))
    obtain ⟨⟨_, _⟩, htax', hbuy'⟩ := bind_ok.1 (Fault.typed_eq_ok.1 (mapError_eq_ok htaxed'))
    cases hbuy
    cases hbuy'
    exact applyTax_mono htax htax' hle
  | sell =>
    simp only [hside] at h h'
    cases h
    cases h'
    exact hle

/-- **More input through the same pools never returns less**, before and after tax. -/
theorem quote_monotone {q q' : RouteQuote} (h : quotePath req descriptors path = .ok q)
    (h' : quotePath { req with amountIn := amount } descriptors path = .ok q')
    (hle : req.amountIn ≤ amount) :
    q.grossOutput.amount ≤ q'.grossOutput.amount ∧ q.netOutput.amount ≤ q'.netOutput.amount := by
  obtain ⟨_, _, htax, hhops, hnet⟩ := (quotePath_inv h).amounts
  obtain ⟨_, _, htax', hhops', hnet'⟩ := (quotePath_inv h').amounts
  have hout := composeHops_mono hhops hhops' (inputTax_mono htax htax' hle)
  exact ⟨hout, outputTax_mono hnet hnet' hout⟩

end

open RouteSample in
theorem quote_monotone_over_a_bin : ∃ q q',
    quotePath (request (.lit 1000) twoPools) twoPools ⟨[⟨0, usdc, weth⟩, ⟨1, weth, token⟩]⟩ = .ok q ∧
    quotePath { request (.lit 1000) twoPools with amountIn := .lit 2000 } twoPools
      ⟨[⟨0, usdc, weth⟩, ⟨1, weth, token⟩]⟩ = .ok q' ∧ q.netOutput.amount ≤ q'.netOutput.amount := by
  have hruns : (quotePath (request (.lit 1000) twoPools) twoPools
    ⟨[⟨0, usdc, weth⟩, ⟨1, weth, token⟩]⟩).toBool := by decide +kernel
  have hruns' : (quotePath { request (.lit 1000) twoPools with amountIn := .lit 2000 } twoPools
    ⟨[⟨0, usdc, weth⟩, ⟨1, weth, token⟩]⟩).toBool := by decide +kernel
  obtain ⟨q, hq⟩ := exists_ok_of_toBool hruns
  obtain ⟨q', hq'⟩ := exists_ok_of_toBool hruns'
  exact ⟨q, q', hq, hq', (quote_monotone hq hq' (by decide)).2⟩

/-! ### The selection -/

lemma mem_rankCandidates {req : RouteRequest} {paths : List CandidatePath} {ranked : List RankedRoute}
    {failures : List RoutingError} (h : rankCandidates req paths = .ok (ranked, failures)) {r : RankedRoute} :
    r ∈ ranked ↔ ∃ path ∈ paths, rankCandidate req path = .ok (.ok r) := by
  induction paths generalizing ranked failures with
  | nil =>
    cases h
    simp
  | cons path rest ih =>
    obtain ⟨outcome, houtcome, h⟩ := bind_ok.1 h
    obtain ⟨⟨more, others⟩, hrest, h⟩ := bind_ok.1 h
    rw [List.exists_mem_cons_iff, houtcome, ← ih hrest]
    cases outcome with
    | error e =>
      cases h
      simp
    | ok route =>
      cases h
      simp [eq_comm]

/-- **The planner selects the best route.** The decision lists the routes of exactly those enumerated paths
that can be ranked and that the bridge verifies, what returns more after gas first, and selects the first. -/
theorem planner_selects_best {req : RouteRequest} {d : RoutingDecision} (h : planSinglePath req = .ok d) :
    ∃ set kept, enumerateCandidates req.intent req.maxHops req.descriptors = .ok set ∧
      (∀ r, r ∈ kept ↔ (∃ path ∈ set.paths, rankCandidate req path = .ok (.ok r)) ∧
        (verifySingle req r.route).toBool = true) ∧
      kept.Pairwise (fun a b => b.primaryNet ≤ a.primaryNet) ∧ kept ≠ [] ∧
      d = ⟨kept.map (·.route), kept.head?.map (·.route.quote), set.truncated⟩ := by
  unfold planSinglePath at h
  obtain ⟨-, -, h⟩ := bind_ok.1 h
  obtain ⟨-, -, h⟩ := bind_ok.1 h
  obtain ⟨set, hset, h⟩ := bind_ok.1 h
  obtain ⟨⟨ranked, failures⟩, hranked, h⟩ := bind_ok.1 h
  dsimp only at h
  rw [List.filter_map] at h
  split_ifs at h with hnone hrejected
  cases h
  refine ⟨set, (sortBy compareScored ranked).filter fun r => (verifySingle req r.route).toBool, hset,
    fun r => ?_, ?_, fun hnil => hrejected (congrArg _ hnil), by rw [List.head?_map, Option.map_map]; rfl⟩
  · rw [List.mem_filter, sortBy, List.mem_insertionSort, mem_rankCandidates hranked]
  · exact (pairwise_sortBy_then (fun _ _ => rfl) ranked).filter _

open RouteSample in
/-- The second of two direct pools returns one unit more than the first. -/
theorem planner_selects_sample :
    let req := request (.lit 1000) [descriptor "A" (.lit 7) (cpmm usdc token), descriptor "B" (.lit 7) (bin usdc token)]
    ∃ d, ∃ kept : List RankedRoute, planSinglePath req = .ok d ∧
      d.candidates.map (·.quote.netOutput.amount) = [.lit 1000, .lit 999] ∧ d.candidates = kept.map (·.route) ∧
      kept.Pairwise (fun a b => b.primaryNet ≤ a.primaryNet) ∧
      d.selected = kept.head?.map (·.route.quote) := by
  intro req
  have hnets : (planSinglePath req).toOption.map (·.candidates.map (·.quote.netOutput.amount)) =
      some [.lit 1000, .lit 999] := by decide +kernel
  obtain ⟨d, hd, hd'⟩ := Option.map_eq_some_iff.1 hnets
  obtain ⟨_, kept, -, -, hsorted, -, rfl⟩ := planner_selects_best (toOption_eq_some hd)
  exact ⟨_, kept, toOption_eq_some hd, hd', rfl, hsorted, rfl⟩

end PrivateExecution.Routing
