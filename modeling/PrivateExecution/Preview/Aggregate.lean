import Mathlib.Algebra.Order.BigOperators.Group.List
import PrivateExecution.Domain.Split
import PrivateExecution.Preview.Bridge

/-!
# Aggregating net deltas

The wallet-level delta of a split order is the sum of the deltas of its branches
(`execution-preview/src/lib.rs`, `NetDelta::aggregate`). A delta has five amounts (`Component`). Its
validation is linear in them, once the tax is counted per asset (`Sound`), so sums of valid deltas are
valid.
-/

namespace PrivateExecution

namespace NetDelta

inductive Component where
  | input | gross | net | fee | tax

def part (d : NetDelta) : Component → ℕ
  | .input => d.netInput.amount.val
  | .gross => d.grossOutput.amount.val
  | .net => d.netOutput.amount.val
  | .fee => d.dexFee.elim 0 (·.amount.val)
  | .tax => d.taxCost.elim 0 (·.amount.val)

def taxIn (d : NetDelta) (asset : AssetId) : ℕ :=
  d.taxCost.elim 0 fun tax => if tax.asset = asset then tax.amount.val else 0

/-- What validation asks of a delta, as linear facts about its amounts. -/
structure Sound (d : NetDelta) : Prop where
  distinct : d.tokenIn ≠ d.tokenOut
  sameChain : d.tokenIn.chain = d.tokenOut.chain
  inputAsset : d.netInput.asset = d.tokenIn
  grossAsset : d.grossOutput.asset = d.tokenOut
  netAsset : d.netOutput.asset = d.tokenOut
  input_ne_zero : d.part .input ≠ 0
  net_ne_zero : d.part .net ≠ 0
  fee : ∀ fee ∈ d.dexFee, fee.amount.val ≠ 0 ∧ fee.asset = d.tokenIn
  tax : ∀ tax ∈ d.taxCost, tax.amount.val ≠ 0 ∧ (tax.asset = d.tokenIn ∨ tax.asset = d.tokenOut)
  covered : d.part .fee + d.taxIn d.tokenIn ≤ d.part .input
  conserved : d.part .net + d.taxIn d.tokenOut = d.part .gross

variable {d d' : NetDelta}

lemma validateFee_eq_ok {fee : AssetAmount} : d.validateFee fee = .ok () ↔
      fee.amount.val ≠ 0 ∧ fee.asset = d.tokenIn ∧ fee.amount.val ≤ d.part .input := by
  simp [validateFee, require, part, Unsigned.le_def]

/-- The tax check: an output tax completes the net output to the gross one, an input tax leaves the
output alone and the input covers it together with the fee. -/
lemma validateTax_eq_ok {tax : AssetAmount} (hne : d.tokenIn ≠ d.tokenOut) :
    d.validateTax tax = .ok () ↔ tax.amount.val ≠ 0 ∧
      (tax.asset = d.tokenOut ∧ d.part .net + tax.amount.val = d.part .gross ∨
        tax.asset = d.tokenIn ∧ d.part .net = d.part .gross ∧
          d.part .fee + tax.amount.val ≤ d.part .input) := by
  by_cases hout : tax.asset = d.tokenOut
  · have hin : d.tokenOut ≠ d.tokenIn := hne.symm
    simp only [validateTax, require, hout, hin, or_true, if_true, true_and, false_and, or_false,
      bind_ok, exists_const, okOr_eq_ok, Unsigned.checkedAdd_eq_some, ensure_eq_ok]
    refine and_congr_right fun _ => ⟨?_, fun h => ⟨d.grossOutput.amount, h.symm, rfl⟩⟩
    rintro ⟨total, htotal, rfl⟩
    exact htotal.symm
  · have hfee : ((d.dexFee.map (·.amount)).getD Unsigned.zero).val = d.part .fee := by
      cases hd : d.dexFee <;> simp [part, hd, Unsigned.zero]
    simp only [validateTax, require, hout, or_false, if_false, false_and, false_or, bind_ok,
      exists_const, okOr_eq_ok, Unsigned.checkedSub_eq_some, ensure_eq_ok, Unsigned.le_def, hfee,
      Unsigned.ext_iff]
    refine and_congr_right fun _ => and_congr_right fun _ => and_congr_right fun _ => ?_
    constructor
    · rintro ⟨-, poolInput, ⟨hle, hval⟩, hcover⟩
      simp only [part] at hcover ⊢
      omega
    · intro hcover
      simp only [part] at hcover ⊢
      refine ⟨by omega, ⟨d.netInput.amount.val - tax.amount.val, Unsigned.sub_lt ..⟩, ⟨by omega, rfl⟩, ?_⟩
      simp only
      omega

lemma forM_validateFee_eq_ok : d.dexFee.forM d.validateFee = .ok () ↔
      (∀ fee ∈ d.dexFee, fee.amount.val ≠ 0 ∧ fee.asset = d.tokenIn) ∧ d.part .fee ≤ d.part .input := by
  cases hd : d.dexFee with
  | none => simp [Option.forM, pure, Except.pure, part, hd]
  | some fee => simp [Option.forM, validateFee_eq_ok, part, hd, and_assoc]

lemma checkTax_eq_ok (hne : d.tokenIn ≠ d.tokenOut) (hfee : d.part .fee ≤ d.part .input) :
    (match d.taxCost with
      | some tax => d.validateTax tax
      | none => require (d.netOutput.amount = d.grossOutput.amount)
          "net_output must equal gross_output when no tax is present") = .ok () ↔
      (∀ tax ∈ d.taxCost, tax.amount.val ≠ 0 ∧ (tax.asset = d.tokenIn ∨ tax.asset = d.tokenOut)) ∧
        d.part .fee + d.taxIn d.tokenIn ≤ d.part .input ∧
        d.part .net + d.taxIn d.tokenOut = d.part .gross := by
  cases hd : d.taxCost with
  | none => simpa [require, taxIn, hd, part, Unsigned.ext_iff] using fun _ => hfee
  | some tax =>
    simp only [validateTax_eq_ok hne, Option.mem_some, forall_eq', taxIn, hd, Option.elim_some]
    by_cases hout : tax.asset = d.tokenOut
    · have hin : d.tokenOut ≠ d.tokenIn := hne.symm
      simp [hout, hin, hfee]
    · by_cases hin : tax.asset = d.tokenIn
      · simp [hin, hne, and_comm]
      · simp [hout, hin]

lemma validate_eq_ok {u : Unit} : d.validate = .ok u ↔ d.Sound := by
  simp only [validate, require, bind_ok, exists_const, ensure_eq_ok]
  constructor
  · rintro ⟨hne, hchain, hin, hgross, hnet, hinput, -, hnetzero, -, _, hforM, htax⟩
    obtain ⟨hfee, hcover⟩ := forM_validateFee_eq_ok.1 hforM
    obtain ⟨htax, hcovered, hconserved⟩ := (checkTax_eq_ok hne hcover).1 htax
    exact ⟨hne, hchain, hin, hgross, hnet, hinput, hnetzero, hfee, htax, hcovered, hconserved⟩
  · rintro ⟨hne, hchain, hin, hgross, hnet, hinput, hnetzero, hfee, htax, hcovered, hconserved⟩
    have hcover : d.part .fee ≤ d.part .input := (Nat.le_add_right ..).trans hcovered
    have hle : d.part .net ≤ d.part .gross := (Nat.le_add_right ..).trans hconserved.le
    have hgrosszero : d.part .gross ≠ 0 := fun h => hnetzero (Nat.le_zero.1 (h ▸ hle))
    exact ⟨hne, hchain, hin, hgross, hnet, hinput, hgrosszero, hnetzero, hle, (),
      forM_validateFee_eq_ok.2 ⟨hfee, hcover⟩, (checkTax_eq_ok hne hcover).2 ⟨htax, hcovered, hconserved⟩⟩

/-! ### Aggregation -/

/-- The running sums of `aggregate`. -/
@[ext] structure Sums where
  netInput : U128
  grossOutput : U128
  netOutput : U128
  dexFee : U128
  taxTotal : U128
  taxAsset : Option AssetId

def Sums.zero : Sums := ⟨.zero, .zero, .zero, .zero, .zero, none⟩

def addChecked (total amount : U128) (reason : String) : Except BridgeError U128 :=
  okOr (total.checkedAdd amount) (.netDeltaInconsistent reason)

variable (sums : Sums)

def Sums.addFee : Option AssetAmount → Except BridgeError U128
  | none => .ok sums.dexFee
  | some fee => addChecked sums.dexFee fee.amount "split dex_fee sum overflowed u128"

def Sums.addTax : Option AssetAmount → Except BridgeError (U128 × Option AssetId)
  | none => .ok (sums.taxTotal, sums.taxAsset)
  | some tax => do
    require (∀ asset ∈ sums.taxAsset, asset = tax.asset) "split deltas mix tax denominations"
    let total ← addChecked sums.taxTotal tax.amount "split tax_cost sum overflowed u128"
    return (total, some (sums.taxAsset.getD tax.asset))

def Sums.add (tokenIn tokenOut : AssetId) (sums : Sums) (delta : NetDelta) : Except BridgeError Sums := do
  delta.validate
  require (delta.tokenIn = tokenIn ∧ delta.tokenOut = tokenOut) "split deltas must share one token pair"
  let netInput ← addChecked sums.netInput delta.netInput.amount "split net_input sum overflowed u128"
  let grossOutput ← addChecked sums.grossOutput delta.grossOutput.amount
    "split gross_output sum overflowed u128"
  let netOutput ← addChecked sums.netOutput delta.netOutput.amount "split net_output sum overflowed u128"
  let dexFee ← sums.addFee delta.dexFee
  let (taxTotal, taxAsset) ← sums.addTax delta.taxCost
  return ⟨netInput, grossOutput, netOutput, dexFee, taxTotal, taxAsset⟩

def Sums.delta (tokenIn tokenOut : AssetId) : NetDelta where
  tokenIn := tokenIn
  tokenOut := tokenOut
  netInput := ⟨tokenIn, sums.netInput⟩
  grossOutput := ⟨tokenOut, sums.grossOutput⟩
  netOutput := ⟨tokenOut, sums.netOutput⟩
  dexFee := if sums.dexFee.val = 0 then none else some ⟨tokenIn, sums.dexFee⟩
  taxCost := sums.taxAsset.map fun asset => ⟨asset, sums.taxTotal⟩

def aggregate (deltas : List NetDelta) : Except BridgeError NetDelta := do
  let first ← okOr deltas.head? (.netDeltaInconsistent "split requires at least one net delta")
  let sums ← deltas.foldlM (Sums.add first.tokenIn first.tokenOut) .zero
  let total := sums.delta first.tokenIn first.tokenOut
  total.validate
  return total

/-! ### What the loop computes -/

def Sums.part : Component → ℕ
  | .input => sums.netInput.val
  | .gross => sums.grossOutput.val
  | .net => sums.netOutput.val
  | .fee => sums.dexFee.val
  | .tax => sums.taxTotal.val

/-- What one round does: the delta is valid and of the pair, its tax joins taxes in the same asset, and
its amounts are added. -/
structure Sums.Added (tokenIn tokenOut : AssetId) (sums : Sums) (delta : NetDelta) (next : Sums) : Prop where
  sound : delta.Sound
  pair : delta.tokenIn = tokenIn ∧ delta.tokenOut = tokenOut
  sameTax : ∀ tax ∈ delta.taxCost, ∀ asset ∈ sums.taxAsset, asset = tax.asset
  taxAsset : next.taxAsset = sums.taxAsset.or (delta.taxCost.map (·.asset))
  part : ∀ k, next.part k = sums.part k + delta.part k

variable {tokenIn tokenOut : AssetId} {sums next : Sums} {delta : NetDelta} {deltas : List NetDelta}

lemma addChecked_eq_ok {total amount result : U128} {reason : String} :
    addChecked total amount reason = .ok result ↔ result.val = total.val + amount.val := by
  rw [addChecked, okOr_eq_ok, Unsigned.checkedAdd_eq_some]

lemma Sums.addFee_eq_ok {total : U128} :
    sums.addFee delta.dexFee = .ok total ↔ total.val = sums.dexFee.val + delta.part .fee := by
  cases hd : delta.dexFee with
  | none => simp [addFee, NetDelta.part, hd, Unsigned.ext_iff, eq_comm]
  | some fee => simp [addFee, NetDelta.part, hd, addChecked_eq_ok]

lemma Sums.addTax_eq_ok {total : U128} {asset : Option AssetId} :
    sums.addTax delta.taxCost = .ok (total, asset) ↔
      (∀ tax ∈ delta.taxCost, ∀ asset ∈ sums.taxAsset, asset = tax.asset) ∧
        asset = sums.taxAsset.or (delta.taxCost.map (·.asset)) ∧
        total.val = sums.taxTotal.val + delta.part .tax := by
  cases hd : delta.taxCost with
  | none => simp [addTax, NetDelta.part, hd, Unsigned.ext_iff, eq_comm, and_comm]
  | some tax =>
    have hor : some (sums.taxAsset.getD tax.asset) = sums.taxAsset.or (some tax.asset) := by
      cases sums.taxAsset <;> rfl
    simp only [addTax, require, bind_ok, exists_const, ensure_eq_ok, addChecked_eq_ok, hor,
      Option.mem_some, forall_eq', Option.map_some, NetDelta.part, hd, Option.elim_some]
    refine and_congr_right fun _ => ⟨?_, ?_⟩
    · rintro ⟨result, hresult, h⟩
      cases h
      exact ⟨rfl, hresult⟩
    · rintro ⟨rfl, htotal⟩
      exact ⟨total, htotal, rfl⟩

lemma Sums.add_eq_ok : sums.add tokenIn tokenOut delta = .ok next ↔
    sums.Added tokenIn tokenOut delta next := by
  simp only [Sums.add, require, bind_ok, exists_const, ensure_eq_ok, validate_eq_ok,
    addChecked_eq_ok, addFee_eq_ok]
  constructor
  · rintro ⟨hsound, hpair, netInput, hinput, gross, hgross, net, hnet, fee, hfee, ⟨tax, asset⟩, htax, h⟩
    cases h
    obtain ⟨hsame, rfl, htax⟩ := addTax_eq_ok.1 htax
    refine ⟨hsound, hpair, hsame, rfl, fun k => ?_⟩
    cases k <;> assumption
  · rintro ⟨hsound, hpair, hsame, hasset, hpart⟩
    exact ⟨hsound, hpair, _, hpart .input, _, hpart .gross, _, hpart .net, _, hpart .fee, _,
      addTax_eq_ok.2 ⟨hsame, hasset, hpart .tax⟩, rfl⟩

def total (deltas : List NetDelta) (k : Component) : ℕ := (deltas.map (·.part k)).sum

@[simp] lemma total_nil (k : Component) : total [] k = 0 := rfl

@[simp] lemma total_cons (delta : NetDelta) (deltas : List NetDelta) (k : Component) :
    total (delta :: deltas) k = delta.part k + total deltas k := by
  simp [total]

lemma Sums.part_lt (sums : Sums) (k : Component) : sums.part k < 2 ^ 128 := by
  cases k <;> exact Unsigned.lt _

def Sums.ofParts (part : Component → ℕ) (taxAsset : Option AssetId) : Sums :=
  ⟨.lit (part .input), .lit (part .gross), .lit (part .net), .lit (part .fee), .lit (part .tax), taxAsset⟩

lemma Sums.part_ofParts {part : Component → ℕ} {asset : Option AssetId} (h : ∀ k, part k < 2 ^ 128)
    (k : Component) : (Sums.ofParts part asset).part k = part k := by
  cases k <;> exact Unsigned.lit_val (h _)

/-- What the whole loop does. -/
structure Sums.Summed (tokenIn tokenOut : AssetId) (sums : Sums) (deltas : List NetDelta) (next : Sums) :
    Prop where
  sound : ∀ delta ∈ deltas, delta.Sound
  pair : ∀ delta ∈ deltas, delta.tokenIn = tokenIn ∧ delta.tokenOut = tokenOut
  kept : ∀ asset, sums.taxAsset = some asset → next.taxAsset = some asset
  sameTax : ∀ delta ∈ deltas, ∀ tax ∈ delta.taxCost, next.taxAsset = some tax.asset
  taxed : ∀ asset, next.taxAsset = some asset →
    sums.taxAsset = some asset ∨ ∃ delta ∈ deltas, ∃ tax ∈ delta.taxCost, tax.asset = asset
  part : ∀ k, next.part k = sums.part k + total deltas k

def Sums.plus (sums : Sums) (delta : NetDelta) : Sums :=
  .ofParts (fun k => sums.part k + delta.part k) (sums.taxAsset.or (delta.taxCost.map (·.asset)))

lemma Sums.Added.summed {mid : Sums} (h : sums.Added tokenIn tokenOut delta mid)
    (hrest : mid.Summed tokenIn tokenOut deltas next) :
    sums.Summed tokenIn tokenOut (delta :: deltas) next where
  sound := List.forall_mem_cons.2 ⟨h.sound, hrest.sound⟩
  pair := List.forall_mem_cons.2 ⟨h.pair, hrest.pair⟩
  kept asset hasset := hrest.kept asset (by rw [h.taxAsset, hasset]; rfl)
  sameTax := by
    refine List.forall_mem_cons.2 ⟨fun tax htax => hrest.kept _ ?_, hrest.sameTax⟩
    rw [h.taxAsset, Option.mem_def.1 htax]
    cases hs : sums.taxAsset with
    | none => rfl
    | some asset => exact congrArg some (h.sameTax tax htax asset hs)
  taxed asset hasset := by
    rcases hrest.taxed asset hasset with hmid | ⟨d, hd, htax⟩
    · rw [h.taxAsset, Option.or_eq_some_iff, Option.map_eq_some_iff] at hmid
      rcases hmid with hs | ⟨-, tax, htax, rfl⟩
      · exact .inl hs
      · exact .inr ⟨delta, List.mem_cons_self .., tax, htax, rfl⟩
    · exact .inr ⟨d, List.mem_cons_of_mem _ hd, htax⟩
  part k := by rw [hrest.part, h.part, total_cons, Nat.add_assoc]

lemma Sums.Summed.round (h : sums.Summed tokenIn tokenOut (delta :: deltas) next) :
    sums.Added tokenIn tokenOut delta (sums.plus delta) ∧
      (sums.plus delta).Summed tokenIn tokenOut deltas next := by
  have hfits : ∀ k, sums.part k + delta.part k < 2 ^ 128 := by
    intro k
    have hpart := h.part k
    have hlt := next.part_lt k
    rw [total_cons] at hpart
    omega
  have hhead : delta ∈ delta :: deltas := List.mem_cons_self ..
  have hadded : sums.Added tokenIn tokenOut delta (sums.plus delta) := by
    refine ⟨h.sound delta hhead, h.pair delta hhead, fun tax htax asset hasset => ?_, rfl, part_ofParts hfits⟩
    exact Option.some.inj ((h.kept asset hasset).symm.trans (h.sameTax delta hhead tax htax))
  refine ⟨hadded, ⟨fun d hd => h.sound d (List.mem_cons_of_mem _ hd),
    fun d hd => h.pair d (List.mem_cons_of_mem _ hd), fun asset hasset => ?_,
    fun d hd => h.sameTax d (List.mem_cons_of_mem _ hd), fun asset hasset => ?_, fun k => ?_⟩⟩
  · rw [hadded.taxAsset, Option.or_eq_some_iff, Option.map_eq_some_iff] at hasset
    rcases hasset with hs | ⟨-, tax, htax, rfl⟩
    · exact h.kept asset hs
    · exact h.sameTax delta hhead tax htax
  · rcases h.taxed asset hasset with hs | ⟨d, hd, tax, htax, rfl⟩
    · exact .inl (by rw [hadded.taxAsset, hs]; rfl)
    · rcases List.mem_cons.1 hd with rfl | hd
      · left
        rw [hadded.taxAsset, Option.mem_def.1 htax]
        cases hs : sums.taxAsset with
        | none => rfl
        | some asset => exact congrArg some (hadded.sameTax tax htax asset hs)
      · exact .inr ⟨d, hd, tax, htax, rfl⟩
  · rw [h.part, hadded.part, total_cons, Nat.add_assoc]

lemma Sums.eq_of_part (h : ∀ k, next.part k = sums.part k) (hasset : next.taxAsset = sums.taxAsset) :
    next = sums := by
  exact Sums.ext (Unsigned.ext (h .input)) (Unsigned.ext (h .gross)) (Unsigned.ext (h .net))
    (Unsigned.ext (h .fee)) (Unsigned.ext (h .tax)) hasset

lemma Sums.foldlM_add_eq_ok : deltas.foldlM (Sums.add tokenIn tokenOut) sums = .ok next ↔
    sums.Summed tokenIn tokenOut deltas next := by
  induction deltas generalizing sums with
  | nil =>
    constructor
    · intro h
      cases h
      exact ⟨by simp, by simp, fun _ => id, by simp, fun _ => .inl, by simp⟩
    · intro h
      refine congrArg Except.ok (eq_of_part (fun k => ?_) ?_).symm
      · simpa using h.part k
      · refine Option.ext fun asset => ⟨fun hnext => ?_, h.kept asset⟩
        exact (h.taxed asset hnext).resolve_right (by simp)
  | cons delta deltas ih =>
    rw [List.foldlM_cons, bind_ok]
    constructor
    · rintro ⟨mid, hadd, hrest⟩
      exact (add_eq_ok.1 hadd).summed (ih.1 hrest)
    · intro h
      obtain ⟨hadded, hrest⟩ := h.round
      exact ⟨_, add_eq_ok.2 hadded, ih.2 hrest⟩

/-! ### What aggregation computes -/

structure Aggregates (deltas : List NetDelta) (d : NetDelta) : Prop where
  sound : ∀ delta ∈ deltas, delta.Sound
  pair : ∀ delta ∈ deltas, delta.tokenIn = d.tokenIn ∧ delta.tokenOut = d.tokenOut
  sameTax : ∀ delta ∈ deltas, ∀ tax ∈ delta.taxCost, d.taxCost.map (·.asset) = some tax.asset
  taxed : ∀ tax ∈ d.taxCost, ∃ delta ∈ deltas, ∃ tax' ∈ delta.taxCost, tax'.asset = tax.asset
  part : ∀ k, d.part k = total deltas k
  result : d.Sound

lemma total_tax_eq_zero (h : ∀ delta ∈ deltas, delta.taxCost = none) : total deltas .tax = 0 := by
  refine List.sum_eq_zero fun n hn => ?_
  obtain ⟨delta, hdelta, rfl⟩ := List.mem_map.1 hn
  simp [NetDelta.part, h delta hdelta]

lemma part_delta (h : sums.taxAsset = none → sums.part .tax = 0) (k : Component) :
    (sums.delta tokenIn tokenOut).part k = sums.part k := by
  cases k with
  | fee =>
    by_cases hz : sums.dexFee.val = 0 <;> simp [Sums.delta, NetDelta.part, Sums.part, hz]
  | tax =>
    cases ha : sums.taxAsset with
    | none => simp [Sums.delta, NetDelta.part, ha, h ha]
    | some asset => simp [Sums.delta, NetDelta.part, Sums.part, ha]
  | _ => rfl

def Sums.of (d : NetDelta) : Sums := .ofParts d.part (d.taxCost.map (·.asset))

lemma part_lt (d : NetDelta) (k : Component) : d.part k < 2 ^ 128 := by
  cases k with
  | fee =>
    cases h : d.dexFee with
    | none => simp [part, h]
    | some fee => simpa [part, h] using fee.amount.lt
  | tax =>
    cases h : d.taxCost with
    | none => simp [part, h]
    | some tax => simpa [part, h] using tax.amount.lt
  | _ => exact Unsigned.lt _

lemma eq_of_fields (hin : d.tokenIn = d'.tokenIn) (hout : d.tokenOut = d'.tokenOut)
    (hinput : d.netInput = d'.netInput) (hgross : d.grossOutput = d'.grossOutput)
    (hnet : d.netOutput = d'.netOutput) (hfee : d.dexFee = d'.dexFee) (htax : d.taxCost = d'.taxCost) :
    d = d' := by
  cases d
  cases d'
  simp_all

lemma Sound.delta_of (h : d.Sound) : (Sums.of d).delta d.tokenIn d.tokenOut = d := by
  refine eq_of_fields rfl rfl ?_ ?_ ?_ ?_ ?_
  · simp [Sums.delta, Sums.of, Sums.ofParts, part, ← h.inputAsset]
  · simp [Sums.delta, Sums.of, Sums.ofParts, part, ← h.grossAsset]
  · simp [Sums.delta, Sums.of, Sums.ofParts, part, ← h.netAsset]
  · cases hd : d.dexFee with
    | none => simp [Sums.delta, Sums.of, Sums.ofParts, part, hd, Unsigned.lit]
    | some fee =>
      obtain ⟨hne, hasset⟩ := h.fee fee hd
      simp [Sums.delta, Sums.of, Sums.ofParts, part, hd, hne, ← hasset]
  · cases hd : d.taxCost with
    | none => simp [Sums.delta, Sums.of, Sums.ofParts, hd]
    | some tax => simp [Sums.delta, Sums.of, Sums.ofParts, part, hd]

lemma aggregate_eq_ok (hne : deltas ≠ []) : aggregate deltas = .ok d ↔ Aggregates deltas d := by
  obtain ⟨first, rest, rfl⟩ := List.exists_cons_of_ne_nil hne
  simp only [aggregate, List.head?_cons, okOr, bind_ok, exists_const, validate_eq_ok,
    Sums.foldlM_add_eq_ok]
  constructor
  · rintro ⟨first, h, sums, hsums, hsound, hd⟩
    cases h
    cases hd
    have htax : sums.taxAsset = none → sums.part .tax = 0 := by
      intro hnone
      rw [hsums.part, total_tax_eq_zero]
      · rfl
      · intro delta hdelta
        cases htax : delta.taxCost with
        | none => rfl
        | some tax => cases hnone.symm.trans (hsums.sameTax delta hdelta tax htax)
    refine ⟨hsums.sound, hsums.pair, fun delta hdelta tax htax => ?_, ?_, fun k => ?_, hsound⟩
    · simp [Sums.delta, hsums.sameTax delta hdelta tax htax]
    · intro tax htax
      obtain ⟨asset, hasset, rfl⟩ := Option.map_eq_some_iff.1 htax
      exact (hsums.taxed asset hasset).resolve_left (by simp [Sums.zero])
    · rw [part_delta htax, hsums.part]
      cases k <;> exact Nat.zero_add _
  · intro h
    have hfirst := h.pair first (List.mem_cons_self ..)
    refine ⟨first, rfl, Sums.of d, ⟨h.sound, ?_, ?_, h.sameTax, ?_, fun k => ?_⟩, ?_, ?_⟩
    · rw [hfirst.1, hfirst.2]
      exact h.pair
    · intro asset hasset
      cases hasset
    · intro asset hasset
      obtain ⟨tax, htax, rfl⟩ := Option.map_eq_some_iff.1 hasset
      exact .inr (h.taxed tax htax)
    · rw [Sums.of, Sums.part_ofParts d.part_lt, h.part]
      cases k <;> exact (Nat.zero_add _).symm
    · rw [hfirst.1, hfirst.2, h.result.delta_of]
      exact h.result
    · rw [hfirst.1, hfirst.2, h.result.delta_of]
      rfl

/-! ### Sums of valid deltas are valid -/

/-- The conditions under which a list of deltas can be added up. -/
structure Compatible (deltas : List NetDelta) : Prop where
  valid : ∀ delta ∈ deltas, delta.validate = .ok ()
  pair : ∀ delta ∈ deltas, ∀ delta' ∈ deltas,
    delta.tokenIn = delta'.tokenIn ∧ delta.tokenOut = delta'.tokenOut
  sameTax : ∀ delta ∈ deltas, ∀ delta' ∈ deltas, ∀ tax ∈ delta.taxCost, ∀ tax' ∈ delta'.taxCost,
    tax.asset = tax'.asset
  fits : ∀ k, total deltas k < 2 ^ 128

def totalTaxIn (deltas : List NetDelta) (asset : AssetId) : ℕ := (deltas.map (·.taxIn asset)).sum

lemma part_le_total {k : Component} (h : delta ∈ deltas) : delta.part k ≤ total deltas k :=
  List.single_le_sum (by simp) _ (List.mem_map_of_mem h)

lemma total_covered (h : ∀ delta ∈ deltas, delta.Sound ∧ delta.tokenIn = tokenIn) :
    total deltas .fee + totalTaxIn deltas tokenIn ≤ total deltas .input := by
  induction deltas with
  | nil => exact le_rfl
  | cons delta deltas ih =>
    obtain ⟨⟨hsound, rfl⟩, hrest⟩ := List.forall_mem_cons.1 h
    have hcovered := hsound.covered
    have := ih hrest
    simp only [total_cons, totalTaxIn, List.map_cons, List.sum_cons] at this ⊢
    omega

lemma total_conserved (h : ∀ delta ∈ deltas, delta.Sound ∧ delta.tokenOut = tokenOut) :
    total deltas .net + totalTaxIn deltas tokenOut = total deltas .gross := by
  induction deltas with
  | nil => rfl
  | cons delta deltas ih =>
    obtain ⟨⟨hsound, rfl⟩, hrest⟩ := List.forall_mem_cons.1 h
    have hconserved := hsound.conserved
    have := ih hrest
    simp only [total_cons, totalTaxIn, List.map_cons, List.sum_cons] at this ⊢
    omega

lemma totalTaxIn_eq {asset : AssetId} (h : ∀ delta ∈ deltas, ∀ tax ∈ delta.taxCost, tax.asset = asset)
    (asset' : AssetId) : totalTaxIn deltas asset' = if asset = asset' then total deltas .tax else 0 := by
  induction deltas with
  | nil => simp [totalTaxIn]
  | cons delta deltas ih =>
    obtain ⟨hhead, hrest⟩ := List.forall_mem_cons.1 h
    have hdelta : delta.taxIn asset' = if asset = asset' then delta.part .tax else 0 := by
      cases hd : delta.taxCost with
      | none => simp [taxIn, NetDelta.part, hd]
      | some tax => simp [taxIn, NetDelta.part, hd, hhead tax hd]
    have hsum := ih hrest
    simp only [totalTaxIn, List.map_cons, List.sum_cons, total_cons] at hsum ⊢
    rw [hsum, hdelta]
    split_ifs <;> rfl

def Sums.ofTotals (deltas : List NetDelta) : Sums :=
  .ofParts (total deltas) ((deltas.findSome? (·.taxCost)).map (·.asset))

lemma Compatible.taxAsset (h : Compatible deltas) {tax : AssetAmount} (hdelta : delta ∈ deltas)
    (htax : tax ∈ delta.taxCost) : (Sums.ofTotals deltas).taxAsset = some tax.asset := by
  cases hfind : deltas.findSome? (·.taxCost) with
  | none => cases (List.findSome?_eq_none_iff.1 hfind delta hdelta).symm.trans htax
  | some tax' =>
    obtain ⟨delta', hdelta', htax'⟩ := List.exists_of_findSome?_eq_some hfind
    simp [Sums.ofTotals, Sums.ofParts, hfind, h.sameTax delta' hdelta' delta hdelta tax' htax' tax htax]

lemma taxed_of_ofTotals {asset : AssetId} (h : (Sums.ofTotals deltas).taxAsset = some asset) :
    ∃ delta ∈ deltas, ∃ tax ∈ delta.taxCost, tax.asset = asset := by
  obtain ⟨tax, hfind, rfl⟩ := Option.map_eq_some_iff.1 h
  obtain ⟨delta, hdelta, htax⟩ := List.exists_of_findSome?_eq_some hfind
  exact ⟨delta, hdelta, tax, htax, rfl⟩

section

variable (h : Compatible deltas)

include h

lemma Compatible.taxIn (asset : AssetId) :
    ((Sums.ofTotals deltas).delta tokenIn tokenOut).taxIn asset = totalTaxIn deltas asset := by
  cases ha : (Sums.ofTotals deltas).taxAsset with
  | none =>
    have hnone : ∀ delta ∈ deltas, delta.taxCost = none := by
      intro delta hdelta
      cases htax : delta.taxCost with
      | none => rfl
      | some tax => cases ha.symm.trans (h.taxAsset hdelta htax)
    have hzero : totalTaxIn deltas asset = 0 := by
      refine List.sum_eq_zero fun n hn => ?_
      obtain ⟨delta, hdelta, rfl⟩ := List.mem_map.1 hn
      simp [NetDelta.taxIn, hnone delta hdelta]
    simp [Sums.delta, NetDelta.taxIn, ha, hzero]
  | some asset' =>
    have hall : ∀ delta ∈ deltas, ∀ tax ∈ delta.taxCost, tax.asset = asset' := by
      intro delta hdelta tax htax
      exact Option.some.inj ((h.taxAsset hdelta htax).symm.trans ha)
    rw [totalTaxIn_eq hall]
    have htotal : (Sums.ofTotals deltas).taxTotal.val = total deltas .tax := Sums.part_ofParts h.fits .tax
    simp [Sums.delta, NetDelta.taxIn, ha, htotal]

lemma Compatible.sound (hdelta : delta ∈ deltas) : delta.Sound :=
  validate_eq_ok.1 (h.valid delta hdelta)

lemma Compatible.part (k : Component) :
    ((Sums.ofTotals deltas).delta tokenIn tokenOut).part k = total deltas k := by
  have hpart : ∀ k, (Sums.ofTotals deltas).part k = total deltas k := Sums.part_ofParts h.fits
  rw [part_delta, hpart]
  intro hnone
  rw [hpart]
  refine total_tax_eq_zero fun delta hdelta => ?_
  cases htax : delta.taxCost with
  | none => rfl
  | some tax => cases hnone.symm.trans (h.taxAsset hdelta htax)

lemma Compatible.tax {asset : AssetId}
    (hasset : (Sums.ofTotals deltas).taxAsset = some asset) :
    (Sums.ofTotals deltas).taxTotal.val ≠ 0 ∧
      ∃ delta ∈ deltas, asset = delta.tokenIn ∨ asset = delta.tokenOut := by
  obtain ⟨delta, hdelta, tax, htax, rfl⟩ := taxed_of_ofTotals hasset
  obtain ⟨hne, hside⟩ := (h.sound hdelta).tax tax htax
  have htotal : (Sums.ofTotals deltas).taxTotal.val = total deltas .tax := Sums.part_ofParts h.fits .tax
  have hle := part_le_total (k := .tax) hdelta
  rw [NetDelta.part, Option.mem_def.1 htax, Option.elim_some, ← htotal] at hle
  exact ⟨by omega, delta, hdelta, hside⟩

lemma Compatible.sound_total {first : NetDelta} (hfirst : first ∈ deltas) :
    ((Sums.ofTotals deltas).delta first.tokenIn first.tokenOut).Sound where
  distinct := (h.sound hfirst).distinct
  sameChain := (h.sound hfirst).sameChain
  inputAsset := rfl
  grossAsset := rfl
  netAsset := rfl
  input_ne_zero := by
    have hle := part_le_total (k := .input) hfirst
    have hne := (h.sound hfirst).input_ne_zero
    rw [h.part]
    omega
  net_ne_zero := by
    have hle := part_le_total (k := .net) hfirst
    have hne := (h.sound hfirst).net_ne_zero
    rw [h.part]
    omega
  fee := by
    intro fee hfee
    simp only [Sums.delta, Option.mem_def] at hfee
    split_ifs at hfee with hzero
    cases hfee
    exact ⟨hzero, rfl⟩
  tax := by
    intro tax htax
    obtain ⟨asset, hasset, rfl⟩ := Option.map_eq_some_iff.1 htax
    obtain ⟨hne, delta, hdelta, hside⟩ := h.tax hasset
    rw [(h.pair delta hdelta first hfirst).1, (h.pair delta hdelta first hfirst).2] at hside
    exact ⟨hne, hside⟩
  covered := by
    rw [h.part, h.part, h.taxIn]
    exact total_covered fun delta hdelta => ⟨h.sound hdelta, (h.pair delta hdelta first hfirst).1⟩
  conserved := by
    rw [h.part, h.part, h.taxIn]
    exact total_conserved fun delta hdelta => ⟨h.sound hdelta, (h.pair delta hdelta first hfirst).2⟩

lemma Compatible.aggregates {first : NetDelta} (hfirst : first ∈ deltas) :
    Aggregates deltas ((Sums.ofTotals deltas).delta first.tokenIn first.tokenOut) where
  sound _ hdelta := h.sound hdelta
  pair delta hdelta := h.pair delta hdelta first hfirst
  sameTax delta hdelta tax htax := by simp [Sums.delta, h.taxAsset hdelta htax]
  taxed tax htax := by
    obtain ⟨asset, hasset, rfl⟩ := Option.map_eq_some_iff.1 htax
    exact taxed_of_ofTotals hasset
  part := h.part
  result := h.sound_total hfirst

end

lemma Aggregates.compatible (h : Aggregates deltas d) : Compatible deltas where
  valid delta hdelta := validate_eq_ok.2 (h.sound delta hdelta)
  pair delta hdelta delta' hdelta' := by
    obtain ⟨hin, hout⟩ := h.pair delta hdelta
    obtain ⟨hin', hout'⟩ := h.pair delta' hdelta'
    exact ⟨hin.trans hin'.symm, hout.trans hout'.symm⟩
  sameTax delta hdelta delta' hdelta' tax htax tax' htax' :=
    Option.some.inj ((h.sameTax delta hdelta tax htax).symm.trans (h.sameTax delta' hdelta' tax' htax'))
  fits k := h.part k ▸ d.part_lt k

/-! ### Groups -/

lemma Compatible.sublist {group : List NetDelta} (h : Compatible deltas) (hsub : group.Sublist deltas) :
    Compatible group where
  valid delta hdelta := h.valid delta (hsub.subset hdelta)
  pair delta hdelta delta' hdelta' := h.pair delta (hsub.subset hdelta) delta' (hsub.subset hdelta')
  sameTax delta hdelta delta' hdelta' :=
    h.sameTax delta (hsub.subset hdelta) delta' (hsub.subset hdelta')
  fits k := lt_of_le_of_lt ((hsub.map _).sum_le_sum (by simp)) (h.fits k)

variable {groups : List (List NetDelta)} {ds : List NetDelta}

lemma exists_group_of_mem (h : groups.Forall₂ Aggregates ds) (hd : d ∈ ds) :
    ∃ group ∈ groups, Aggregates group d := by
  induction h with
  | nil => cases hd
  | cons hgroup _ ih =>
    rcases List.mem_cons.1 hd with rfl | hd
    · exact ⟨_, List.mem_cons_self .., hgroup⟩
    · obtain ⟨group, hmem, hgroup⟩ := ih hd
      exact ⟨group, List.mem_cons_of_mem _ hmem, hgroup⟩

lemma exists_aggregate_of_mem {group : List NetDelta} (h : groups.Forall₂ Aggregates ds)
    (hgroup : group ∈ groups) : ∃ d ∈ ds, Aggregates group d := by
  induction h with
  | nil => cases hgroup
  | cons hhead _ ih =>
    rcases List.mem_cons.1 hgroup with rfl | hgroup
    · exact ⟨_, List.mem_cons_self .., hhead⟩
    · obtain ⟨d, hmem, hd⟩ := ih hgroup
      exact ⟨d, List.mem_cons_of_mem _ hmem, hd⟩

lemma total_append (l l' : List NetDelta) (k : Component) : total (l ++ l') k = total l k + total l' k := by
  simp [total]

lemma total_groups (h : groups.Forall₂ Aggregates ds) (k : Component) :
    total ds k = total groups.flatten k := by
  induction h with
  | nil => rfl
  | cons hgroup _ ih => rw [total_cons, List.flatten_cons, total_append, hgroup.part, ih]

lemma Aggregates.regroup (h : Aggregates groups.flatten d) (hne : ∀ group ∈ groups, group ≠ [])
    (hgroups : groups.Forall₂ Aggregates ds) : Aggregates ds d where
  sound d' hd' := (exists_group_of_mem hgroups hd').elim fun _ hgroup => hgroup.2.result
  pair d' hd' := by
    obtain ⟨group, hmem, hgroup⟩ := exists_group_of_mem hgroups hd'
    obtain ⟨delta, hdelta⟩ := List.exists_mem_of_ne_nil group (hne group hmem)
    obtain ⟨hin, hout⟩ := hgroup.pair delta hdelta
    obtain ⟨hin', hout'⟩ := h.pair delta (List.mem_flatten_of_mem hmem hdelta)
    exact ⟨hin.symm.trans hin', hout.symm.trans hout'⟩
  sameTax d' hd' tax htax := by
    obtain ⟨group, hmem, hgroup⟩ := exists_group_of_mem hgroups hd'
    obtain ⟨delta, hdelta, tax', htax', hasset⟩ := hgroup.taxed tax htax
    rw [← hasset]
    exact h.sameTax delta (List.mem_flatten_of_mem hmem hdelta) tax' htax'
  taxed tax htax := by
    obtain ⟨delta, hdelta, tax', htax', hasset⟩ := h.taxed tax htax
    obtain ⟨group, hmem, hin⟩ := List.mem_flatten.1 hdelta
    obtain ⟨d', hd', hgroup⟩ := exists_aggregate_of_mem hgroups hmem
    obtain ⟨tax'', htax'', hasset'⟩ := Option.map_eq_some_iff.1 (hgroup.sameTax delta hin tax' htax')
    exact ⟨d', hd', tax'', htax'', hasset'.trans hasset⟩
  part k := by rw [h.part, total_groups hgroups]
  result := h.result

lemma exists_mapM_aggregate (hne : ∀ group ∈ groups, group ≠ []) (h : ∀ group ∈ groups, Compatible group) :
    ∃ ds, groups.mapM aggregate = .ok ds ∧ groups.Forall₂ Aggregates ds := by
  induction groups with
  | nil => exact ⟨[], rfl, .nil⟩
  | cons group groups ih =>
    obtain ⟨hnehead, hnerest⟩ := List.forall_mem_cons.1 hne
    obtain ⟨hhead, hrest⟩ := List.forall_mem_cons.1 h
    obtain ⟨first, hfirst⟩ := List.exists_mem_of_ne_nil group hnehead
    obtain ⟨ds, hds, hall⟩ := ih hnerest hrest
    have hagg := hhead.aggregates hfirst
    refine ⟨_ :: ds, ?_, .cons hagg hall⟩
    rw [List.mapM_cons, (aggregate_eq_ok hnehead).2 hagg, hds]
    rfl

/-- Aggregation is exact, closed and associative. -/
theorem aggregate_exact (deltas : List NetDelta) (hne : deltas ≠ []) :
    ((∃ d, aggregate deltas = .ok d) ↔ Compatible deltas) ∧
      ∀ d, aggregate deltas = .ok d →
        (∀ k, d.part k = total deltas k) ∧
        (∀ delta ∈ deltas, delta.tokenIn = d.tokenIn ∧ delta.tokenOut = d.tokenOut ∧
          ∀ tax ∈ delta.taxCost, d.taxCost.map (·.asset) = some tax.asset) ∧
        d.validate = .ok () ∧
        ∀ groups : List (List NetDelta), groups.flatten = deltas → (∀ group ∈ groups, group ≠ []) →
          ∃ ds, groups.mapM aggregate = .ok ds ∧ aggregate ds = .ok d := by
  simp only [aggregate_eq_ok hne]
  refine ⟨⟨fun ⟨d, h⟩ => h.compatible, fun h => ?_⟩, fun d h => ?_⟩
  · obtain ⟨first, hfirst⟩ := List.exists_mem_of_ne_nil deltas hne
    exact ⟨_, h.aggregates hfirst⟩
  · refine ⟨h.part, fun delta hdelta => ?_, validate_eq_ok.2 h.result, ?_⟩
    · exact ⟨(h.pair delta hdelta).1, (h.pair delta hdelta).2, h.sameTax delta hdelta⟩
    · rintro groups rfl hgroups
      obtain ⟨ds, hds, hall⟩ := exists_mapM_aggregate hgroups fun group hgroup =>
        h.compatible.sublist (List.sublist_flatten_of_mem hgroup)
      have hdsne : ds ≠ [] := by
        rintro rfl
        cases hall
        exact hne rfl
      exact ⟨ds, hds, (aggregate_eq_ok hdsne).2 (h.regroup hgroups hall)⟩

def buy (input gross net : ℕ) (fee tax : Option ℕ) : NetDelta where
  tokenIn := ⟨.base, "0xa"⟩
  tokenOut := ⟨.base, "0xb"⟩
  netInput := ⟨⟨.base, "0xa"⟩, .lit input⟩
  grossOutput := ⟨⟨.base, "0xb"⟩, .lit gross⟩
  netOutput := ⟨⟨.base, "0xb"⟩, .lit net⟩
  dexFee := fee.map fun n => ⟨⟨.base, "0xa"⟩, .lit n⟩
  taxCost := tax.map fun n => ⟨⟨.base, "0xb"⟩, .lit n⟩

/-- A taxed and an untaxed branch, added up at once and one by one. -/
theorem aggregate_exact_branches :
    aggregate [buy 10 100 90 (some 1) (some 10), buy 5 3 3 none none] =
        .ok (buy 15 103 93 (some 1) (some 10)) ∧
      (buy 15 103 93 (some 1) (some 10)).validate = .ok () ∧
      ∃ ds, [[buy 10 100 90 (some 1) (some 10)], [buy 5 3 3 none none]].mapM aggregate = .ok ds ∧
        aggregate ds = .ok (buy 15 103 93 (some 1) (some 10)) := by
  have hsum : aggregate [buy 10 100 90 (some 1) (some 10), buy 5 3 3 none none] =
      .ok (buy 15 103 93 (some 1) (some 10)) := by decide +kernel
  obtain ⟨-, -, hvalid, hgroups⟩ := (aggregate_exact _ (by simp)).2 _ hsum
  exact ⟨hsum, hvalid, hgroups _ rfl (by simp)⟩

end NetDelta

/-! ### The split bridge -/

def checkBranch (delta : NetDelta) (leg : SplitLeg) : Except BridgeError Unit := do
  NetDelta.require (delta.netInput.amount = leg.amountIn)
    "split branch delta input does not equal its gross budget"
  NetDelta.require (delta.netOutput = leg.route.expectedNetOutput)
    "split branch delta output does not equal its route expected output"

def validateSplitDeltaPreview (intent : TradeIntent) (split : SplitPlan) (branchDeltas : List NetDelta)
    (nowMs : I64) : Except BridgeError ExecutionPreview := do
  NetDelta.require (branchDeltas.length = split.legs.length) "split requires one branch delta per leg"
  let aggregate ← NetDelta.aggregate branchDeltas
  (branchDeltas.zip split.legs).forM fun (delta, leg) => checkBranch delta leg
  let freshness ← okOr (evaluateFreshness .default split.state.observedAtMs nowMs false)
    .freshnessUnavailable
  let preview ← buildExecutionPreview intent aggregate freshness
  (preview.validateSplit intent split nowMs).mapError .domain
  return preview

def checkBranchTax (expected : AssetId) (tax : Bps) (taxed : U128) (taxCost : Option AssetAmount) :
    Except BridgeError Unit := do
  let cost ← floorBps taxed tax
  ensure (taxCost = if cost.val = 0 then none else some ⟨expected, cost⟩) .assessmentDeltaMismatch

def validateSplitDeltaPreviewWithAssessment (intent : TradeIntent) (split : SplitPlan)
    (branchDeltas : List NetDelta) (assessment : TaxAssessment) (nowMs : I64) :
    Except BridgeError ExecutionPreview := do
  ensure (assessment.freshness.status = .fresh) .freshnessUnavailable
  ensure (assessment.chain = intent.chain) .chainMismatch
  NetDelta.require (branchDeltas.length = split.legs.length) "split requires one branch delta per leg"
  match intent.side with
  | .buy =>
    ensure (assessment.assessedAsset = intent.tokenOut) .assessedAssetMismatch
    branchDeltas.forM fun delta =>
      checkBranchTax intent.tokenOut assessment.buyTax delta.grossOutput.amount delta.taxCost
    ensure (assessment.buyTax ≤ intent.risk.maxBuyTax) .taxCapExceeded
  | .sell =>
    ensure (assessment.assessedAsset = intent.tokenIn) .assessedAssetMismatch
    branchDeltas.forM fun delta =>
      checkBranchTax intent.tokenIn assessment.sellTax delta.netInput.amount delta.taxCost
    ensure (assessment.sellTax ≤ intent.risk.maxSellTax) .taxCapExceeded
  validateSplitDeltaPreview intent split branchDeltas nowMs

end PrivateExecution
