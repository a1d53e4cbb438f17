import PrivateExecution.Preview.Bridge

/-!
# Taxed amounts

A transfer tax takes `floor(gross * bps / 10000)` of an amount: of what a buy receives
(`tax-engine/src/buy_output.rs`), of what a sell can hand over (`tax-engine/src/sell_input.rs`). The
two functions differ in the rate they read and in the names of their errors, so both are `applyTax`.
-/

namespace PrivateExecution

/-- How a call ends without a result: with a typed error, or in a panic. -/
inductive Fault (ε : Type) where
  | error (e : ε)
  | panicked (message : String)

namespace Fault

variable {ε ε' α : Type}

def expect (x : Option α) (message : String) : Except (Fault ε) α := okOr x (.panicked message)

/-- The conversion of the error `?` applies. -/
def map (f : ε → ε') : Fault ε → Fault ε'
  | .error e => .error (f e)
  | .panicked m => .panicked m

/-- A call that ends without a panic, whatever it returns. -/
def Quiet (x : Except (Fault ε) α) : Prop := ∀ m, x ≠ .error (.panicked m)

lemma quiet_ok (a : α) : Quiet (ε := ε) (.ok a) := nofun

lemma quiet_error (e : ε) : Quiet (α := α) (.error (.error e)) := nofun

lemma quiet_ensure {p : Prop} [Decidable p] (e : ε) : Quiet (ensure p (.error e)) := by
  unfold ensure
  split_ifs
  · exact quiet_ok ()
  · exact quiet_error e

lemma Quiet.bind {β : Type} {x : Except (Fault ε) α} {f : α → Except (Fault ε) β} (hx : Quiet x)
    (hf : ∀ a, x = .ok a → Quiet (f a)) : Quiet (x >>= f) := by
  intro m h
  rcases bind_error.1 h with h | ⟨a, ha, h⟩
  · exact hx m h
  · exact hf a ha m h

lemma Quiet.mapError {x : Except (Fault ε) α} (f : ε → ε') (h : Quiet x) :
    Quiet (x.mapError (Fault.map f)) := by
  intro m hm
  rcases x with (e | m') | a
  · cases hm
  · exact h m' rfl
  · cases hm

/-- The result of a quiet call, without the case it never ends in. -/
def typed : (x : Except (Fault ε) α) → Quiet x → Except ε α
  | .ok a, _ => .ok a
  | .error (.error e), _ => .error e
  | .error (.panicked m), h => absurd rfl (h m)

lemma typed_eq_ok {x : Except (Fault ε) α} {h : Quiet x} {a : α} : typed x h = .ok a ↔ x = .ok a := by
  rcases x with (e | m) | b
  · simp [typed]
  · exact absurd rfl (h m)
  · simp [typed]

lemma quiet_mapError_error (x : Except ε α) : Quiet (x.mapError Fault.error) := by
  cases x with
  | error e => exact quiet_error e
  | ok a => exact quiet_ok a

end Fault

/-! ### The tax of an amount -/

/-- The tax of `gross` and what is left of it. The quotient and the remainder of `gross` are taxed
separately, so that no product overflows. -/
def taxSplit (gross : U128) (bps : Bps) : Except (Fault TaxSafetyError) (U128 × U128) := do
  let q := gross.val / 10000
  let r := gross.val % 10000
  let qPart : U128 ← Fault.expect (Unsigned.ofNat? (q * bps.get)) "q * bps cannot overflow u128"
  let rPart : U128 ← Fault.expect (Unsigned.ofNat? (r * bps.get)) "r * bps cannot overflow u128"
  let taxCost : U128 ← Fault.expect (Unsigned.ofNat? (qPart.val + rPart.val / 10000))
    "tax_cost cannot overflow u128"
  let net ← Fault.expect (gross.checkedSub taxCost) "tax_cost cannot exceed gross_amount"
  return (taxCost, net)

lemma taxSplit_eq (gross : U128) (bps : Bps) :
    ∃ taxCost net : U128, taxSplit gross bps = .ok (taxCost, net) ∧
      taxCost.val = gross.val * bps.get / 10000 ∧ taxCost.val + net.val = gross.val := by
  obtain ⟨tax, htax, hval⟩ := floorBps_eq gross bps
  have hle : tax.val ≤ gross.val := by
    have := Nat.mul_le_mul_left gross.val bps.le
    omega
  -- `floorBps` makes the same three checked steps.
  simp only [floorBps, bind_ok, okOr_eq_ok] at htax
  obtain ⟨qPart, hq, rPart, hr, hsum⟩ := htax
  have hnet : gross.checkedSub tax = some ⟨gross.val - tax.val, by have := gross.lt; omega⟩ :=
    Unsigned.checkedSub_eq_some.2 ⟨hle, rfl⟩
  refine ⟨tax, ⟨gross.val - tax.val, by have := gross.lt; omega⟩, ?_, hval, by dsimp only; omega⟩
  simp only [taxSplit, Fault.expect, hq, hr, hsum, hnet, okOr, bind, Except.bind, pure, Except.pure]

variable (assessment : TaxAssessment)

/-- Freshness, chain and asset of the assessment, then the split of a non-zero amount into tax and a
non-zero rest. The asset of both is that of the amount. -/
def applyTax (bps : Bps) (zeroGross zeroNet : TaxSafetyError)
    (gross : AssetAmount) : Except (Fault TaxSafetyError) (AssetAmount × AssetAmount) := do
  assessment.freshness.status.requireTax.mapError Fault.error
  ensure (gross.asset.chain = assessment.chain ∧ gross.asset.chain = assessment.assessedAsset.chain)
    (.error .chainMismatch)
  ensure (gross.asset = assessment.assessedAsset) (.error .assessedAssetMismatch)
  ensure (gross.amount.val ≠ 0) (.error zeroGross)
  let (taxCost, net) ← taxSplit gross.amount bps
  ensure (net.val ≠ 0) (.error zeroNet)
  return (⟨gross.asset, taxCost⟩, ⟨gross.asset, net⟩)

section

variable {assessment : TaxAssessment} {bps : Bps} {zeroGross zeroNet : TaxSafetyError}
  {gross taxCost net : AssetAmount}

lemma quiet_applyTax : Fault.Quiet (applyTax assessment bps zeroGross zeroNet gross) := by
  unfold applyTax
  refine .bind (Fault.quiet_mapError_error _) fun _ _ => ?_
  refine .bind (Fault.quiet_ensure _) fun _ _ => ?_
  refine .bind (Fault.quiet_ensure _) fun _ _ => ?_
  refine .bind (Fault.quiet_ensure _) fun _ _ => ?_
  refine .bind ?_ fun _ _ => .bind (Fault.quiet_ensure _) fun _ _ => Fault.quiet_ok _
  obtain ⟨tax, rest, h, -⟩ := taxSplit_eq gross.amount bps
  rw [h]
  exact Fault.quiet_ok _

lemma applyTax_spec (h : applyTax assessment bps zeroGross zeroNet gross = .ok (taxCost, net)) :
    taxCost.asset = gross.asset ∧ net.asset = gross.asset ∧
      taxCost.amount.val = gross.amount.val * bps.get / 10000 ∧
      taxCost.amount.val + net.amount.val = gross.amount.val ∧ 0 < net.amount.val := by
  obtain ⟨tax, rest, hsplit, htax, hsum⟩ := taxSplit_eq gross.amount bps
  unfold applyTax at h
  obtain ⟨_, -, h⟩ := bind_ok.1 h
  simp only [ensure_ok, hsplit] at h
  obtain ⟨-, -, -, h⟩ := h
  obtain ⟨hpos, h⟩ := ensure_ok.1 h
  cases h
  exact ⟨rfl, rfl, htax, hsum, Nat.pos_of_ne_zero hpos⟩

end

/-! ### Buys and sells -/

structure BuyTaxOutput where
  grossOutput : AssetAmount
  taxCost : AssetAmount
  netOutput : AssetAmount

def applyBuyTaxToOutput (grossOutput : AssetAmount) : Except (Fault TaxSafetyError) BuyTaxOutput := do
  let (taxCost, net) ←
    applyTax assessment assessment.buyTax .zeroGrossOutput .zeroNetOutput grossOutput
  return ⟨grossOutput, taxCost, net⟩

structure SellTaxInput where
  grossInput : AssetAmount
  taxCost : AssetAmount
  netTransferableInput : AssetAmount

def applySellTaxToInput (grossInput : AssetAmount) : Except (Fault TaxSafetyError) SellTaxInput := do
  let (taxCost, net) ←
    applyTax assessment assessment.sellTax .zeroGrossInput .zeroNetInput grossInput
  return ⟨grossInput, taxCost, net⟩

section

variable {assessment : TaxAssessment} {gross : AssetAmount}

lemma quiet_applyBuyTax : Fault.Quiet (applyBuyTaxToOutput assessment gross) :=
  .bind quiet_applyTax fun _ _ => Fault.quiet_ok _

lemma quiet_applySellTax : Fault.Quiet (applySellTaxToInput assessment gross) :=
  .bind quiet_applyTax fun _ _ => Fault.quiet_ok _

lemma applyBuyTax_spec {out : BuyTaxOutput} (h : applyBuyTaxToOutput assessment gross = .ok out) :
    out.grossOutput = gross ∧ out.netOutput.asset = gross.asset ∧
      out.taxCost.amount.val + out.netOutput.amount.val = out.grossOutput.amount.val ∧
      0 < out.netOutput.amount.val := by
  obtain ⟨⟨taxCost, net⟩, htax, h⟩ := bind_ok.1 h
  cases h
  obtain ⟨-, hasset, -, hsum, hpos⟩ := applyTax_spec htax
  exact ⟨rfl, hasset, hsum, hpos⟩

lemma applySellTax_spec {out : SellTaxInput} (h : applySellTaxToInput assessment gross = .ok out) :
    out.grossInput = gross ∧ out.netTransferableInput.asset = gross.asset ∧
      out.taxCost.amount.val + out.netTransferableInput.amount.val = out.grossInput.amount.val := by
  obtain ⟨⟨taxCost, net⟩, htax, h⟩ := bind_ok.1 h
  cases h
  obtain ⟨-, hasset, -, hsum, -⟩ := applyTax_spec htax
  exact ⟨rfl, hasset, hsum⟩

end

end PrivateExecution
