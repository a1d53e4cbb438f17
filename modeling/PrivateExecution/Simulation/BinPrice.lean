import PrivateExecution.Simulation.Bin

/-!
# Bin prices overflow only when they must

`atomicBinPrice` raises the reduced base of a pool to a power before it cancels the power against the
decimals, so a power could leave the 128-bit word although the cancelled price fits it. It never does:
on the steps a pool may have, a price is returned exactly when its reduced fraction fits
(`atomicBinPrice_complete`), and then it is that fraction (`atomicBinPrice_reduced`).
-/

namespace PrivateExecution

/-! ### Reduced fractions -/

lemma IsFraction.num_den {p : ℕ × ℕ} {x : ℚ} (h : IsFraction p x) (hcop : p.1.Coprime p.2) :
    x.num = p.1 ∧ x.den = p.2 := by
  have hpos : (0 : ℤ) < p.2 := by exact_mod_cast Nat.pos_of_ne_zero h.1
  have hnum := Rat.num_div_eq_of_coprime (a := p.1) hpos hcop
  have hden := Rat.den_div_eq_of_coprime (a := p.1) hpos hcop
  have hx : x = ((p.1 : ℤ) : ℚ) / ((p.2 : ℤ) : ℚ) := by
    rw [← h.2]
    push_cast
    rfl
  rw [← hx] at hnum hden
  exact ⟨hnum, by exact_mod_cast hden⟩

lemma coprime_reduceFraction {num den : ℕ} (hden : den ≠ 0) :
    (reduceFraction num den).1.Coprime (reduceFraction num den).2 := by
  rw [reduceFraction_eq hden]
  exact Nat.coprime_div_gcd_div_gcd (Nat.gcd_pos_of_pos_right _ (Nat.pos_of_ne_zero hden))

lemma reduceFraction_of_coprime {p : ℕ × ℕ} (hden : p.2 ≠ 0) (hcop : p.1.Coprime p.2) :
    reduceFraction p.1 p.2 = p := by
  rw [reduceFraction_eq hden, hcop.gcd_eq_one, Nat.div_one, Nat.div_one]

lemma coprime_scaledPair {x y f : ℕ} (hy : y ≠ 0) (hcop : x.Coprime y) :
    (scaledPair x y f).1.Coprime (scaledPair x y f).2 := by
  have hpos : 0 < y.gcd f := Nat.gcd_pos_of_pos_left _ (Nat.pos_of_ne_zero hy)
  refine Nat.Coprime.mul_left ?_ (Nat.coprime_div_gcd_div_gcd hpos).symm
  exact hcop.coprime_dvd_right (Nat.div_dvd_of_dvd (Nat.gcd_dvd_left y f))

lemma le_scaledPair {x y f : ℕ} (hf : 0 < f) : x ≤ (scaledPair x y f).1 :=
  Nat.le_mul_of_pos_right _ (Nat.div_pos (Nat.gcd_le_right _ hf) (Nat.gcd_pos_of_pos_right _ hf))

/-! ### The base -/

variable (binStep : ℕ)

lemma reducedBase_eq :
    reducedBase binStep = ((10000 + binStep) / (10000 + binStep).gcd 10000, 10000 / (10000 + binStep).gcd 10000) :=
  reduceFraction_eq (by norm_num)

/-- Either no power of the numerator loses a factor to a power of ten, or the numerator's powers stay in
the word only as long as those of the denominator do. -/
lemma base_table (h : binStep ≤ 1000) :
    0 < (reducedBase binStep).2 ∧ (reducedBase binStep).2 ≤ (reducedBase binStep).1 ∧
      ((reducedBase binStep).1.Coprime 10 ∨
        ∃ e ∈ [14, 19, 28], (reducedBase binStep).1 ^ (e - 1) < 2 ^ 128 ∧ 2 ^ 128 ≤ (reducedBase binStep).2 ^ e) := by
  rw [reducedBase_eq]
  revert binStep
  decide +kernel

lemma pow_lt_of_scaled {binStep e k : ℕ} (hstep : binStep ≤ 1000)
    (hfits : (scaledPair ((reducedBase binStep).1 ^ e) ((reducedBase binStep).2 ^ e) (10 ^ k)).1 < 2 ^ 128 ∨
      (scaledPair ((reducedBase binStep).2 ^ e) ((reducedBase binStep).1 ^ e) (10 ^ k)).1 < 2 ^ 128 ∧
        (scaledPair ((reducedBase binStep).2 ^ e) ((reducedBase binStep).1 ^ e) (10 ^ k)).2 < 2 ^ 128) :
    (reducedBase binStep).1 ^ e < 2 ^ 128 := by
  obtain ⟨hpos, hle, htable⟩ := base_table binStep hstep
  set n := (reducedBase binStep).1
  set d := (reducedBase binStep).2
  rcases hfits with hnum | ⟨hden, hnum⟩
  · exact (le_scaledPair (by positivity)).trans_lt hnum
  have hden' : d ^ e < 2 ^ 128 := (le_scaledPair (by positivity)).trans_lt hden
  rcases htable with hcop | ⟨e₀, -, hbefore, hafter⟩
  · -- Nothing is cancelled.
    have hgcd : (n ^ e).gcd (10 ^ k) = 1 := Nat.Coprime.pow e k hcop
    simpa only [scaledPair, hgcd, Nat.div_one] using hnum
  · by_contra hlarge
    have he : e₀ - 1 < e := by
      by_contra hge
      exact hlarge ((Nat.pow_le_pow_right (hpos.trans_le hle) (by omega)).trans_lt hbefore)
    have hpow : d ^ e₀ ≤ d ^ e := Nat.pow_le_pow_right hpos (by omega)
    omega

/-! ### The price -/

lemma exactRaw_ne_zero {binStep : ℕ} (hstep : binStep ≤ 1000) (binId : ℤ) :
    (exactRaw binStep binId).1 ≠ 0 ∧ (exactRaw binStep binId).2 ≠ 0 := by
  obtain ⟨hpos, hle, -⟩ := base_table binStep hstep
  have hnum := pow_ne_zero binId.natAbs (hpos.trans_le hle).ne'
  have hden := pow_ne_zero binId.natAbs hpos.ne'
  unfold exactRaw
  split_ifs
  · exact ⟨hnum, hden⟩
  · exact ⟨hden, hnum⟩

lemma coprime_exactRaw (binId : ℤ) : (exactRaw binStep binId).1.Coprime (exactRaw binStep binId).2 := by
  have hbase : (reducedBase binStep).1.Coprime (reducedBase binStep).2 := coprime_reduceFraction (by norm_num)
  unfold exactRaw
  split_ifs
  · exact Nat.Coprime.pow _ _ hbase
  · exact (Nat.Coprime.pow _ _ hbase).symm

lemma coprime_exactDecimals {decimals0 decimals1 : ℕ} {raw : ℕ × ℕ} (h : raw.1 ≠ 0 ∧ raw.2 ≠ 0)
    (hcop : raw.1.Coprime raw.2) :
    (exactDecimals decimals0 decimals1 raw).1.Coprime (exactDecimals decimals0 decimals1 raw).2 := by
  unfold exactDecimals
  split_ifs
  · exact coprime_scaledPair h.2 hcop
  · exact (coprime_scaledPair h.1 hcop.symm).symm

def atomicPrice (decimals0 decimals1 : U8) (binId : ℤ) : ℚ :=
  binPrice binStep binId * 10 ^ ((decimals1.val : ℤ) - decimals0.val)

section

variable {binStep : ℕ} {decimals0 decimals1 : U8} {binId : ℤ}

lemma atomicPrice_num_den (hstep : binStep ≤ 1000) : (atomicPrice binStep decimals0 decimals1 binId).num =
        (exactDecimals decimals0.val decimals1.val (exactRaw binStep binId)).1 ∧
      (atomicPrice binStep decimals0 decimals1 binId).den =
        (exactDecimals decimals0.val decimals1.val (exactRaw binStep binId)).2 :=
  (isFraction_exactDecimals (binPrice_pos _ _).ne' (isFraction_exactRaw binStep binId)).num_den
    (coprime_exactDecimals (exactRaw_ne_zero hstep binId) (coprime_exactRaw binStep binId))

lemma atomicBinPrice_reduced {num den : U128}
    (h : atomicBinPrice binStep decimals0 decimals1 binId = .ok (num, den)) :
    (atomicPrice binStep decimals0 decimals1 binId).num = num.val ∧
      (atomicPrice binStep decimals0 decimals1 binId).den = den.val := by
  obtain ⟨-, hpos, hprice⟩ := atomicBinPrice_spec h
  have hcop : num.val.Coprime den.val := by
    unfold atomicBinPrice at h
    obtain ⟨raw, -, h⟩ := bind_ok.1 h
    obtain ⟨scaled, hscaled, h⟩ := bind_ok.1 h
    obtain ⟨n, hn, h⟩ := bind_ok.1 h
    obtain ⟨d, hd, h⟩ := bind_ok.1 h
    obtain ⟨-, h⟩ := ensure_ok.1 h
    cases h
    rw [okOr_eq_ok, Unsigned.ofNat?_eq_some] at hn hd
    rw [hn, hd]
    refine coprime_reduceFraction fun hzero => ?_
    rw [hd, hzero, reduceFraction] at hpos
    split_ifs at hpos <;> simp at hpos
  exact IsFraction.num_den (p := (num.val, den.val)) ⟨hpos.ne', hprice⟩ hcop

lemma scaleDecimals_of_lt {raw : ℕ × ℕ} (h0 : decimals0.val ≤ 30) (h1 : decimals1.val ≤ 30)
    (hnum : (exactDecimals decimals0.val decimals1.val raw).1 < 2 ^ 128)
    (hden : (exactDecimals decimals0.val decimals1.val raw).2 < 2 ^ 128) :
    scaleDecimals decimals0.val decimals1.val raw = some (exactDecimals decimals0.val decimals1.val raw) := by
  have hfactor : 10 ^ (decimals1.val - decimals0.val + (decimals0.val - decimals1.val)) < 2 ^ 128 :=
    (Nat.pow_le_pow_right (by norm_num) (by omega : _ ≤ 30)).trans_lt (by norm_num)
  simp only [scaleDecimals, checkedPow, Option.bind_eq_bind, Option.bind_eq_some_iff,
    Unsigned.ofNat?_eq_some]
  refine ⟨⟨_, hfactor⟩, rfl, ?_⟩
  unfold exactDecimals at hnum hden ⊢
  split_ifs at hnum hden ⊢
  · exact scaleFraction_eq_some.2 ⟨rfl, hnum⟩
  · rw [scaleFraction_eq_some.2 ⟨rfl, hden⟩]
    rfl

lemma pow_lt_of_price (hstep : binStep ≤ 1000)
    (hnum : (exactDecimals decimals0.val decimals1.val (exactRaw binStep binId)).1 < 2 ^ 128)
    (hden : (exactDecimals decimals0.val decimals1.val (exactRaw binStep binId)).2 < 2 ^ 128) :
    (reducedBase binStep).1 ^ binId.natAbs < 2 ^ 128 := by
  unfold exactDecimals exactRaw at hnum hden
  split_ifs at hnum hden
  · exact pow_lt_of_scaled hstep (.inl hnum)
  · exact pow_lt_of_scaled hstep (.inr ⟨hnum, hden⟩)
  · exact pow_lt_of_scaled hstep (.inr ⟨hden, hnum⟩)
  · exact pow_lt_of_scaled hstep (.inl hden)

lemma atomicBinPrice_complete (hstep : binStep ≤ 1000) (h0 : decimals0.val ≤ 30)
    (h1 : decimals1.val ≤ 30) (hnum : (atomicPrice binStep decimals0 decimals1 binId).num < 2 ^ 128)
    (hden : (atomicPrice binStep decimals0 decimals1 binId).den < 2 ^ 128) :
    ∃ num den, atomicBinPrice binStep decimals0 decimals1 binId = .ok (num, den) := by
  obtain ⟨hnumEq, hdenEq⟩ : (atomicPrice binStep decimals0 decimals1 binId).num = _ ∧
      (atomicPrice binStep decimals0 decimals1 binId).den = _ := atomicPrice_num_den hstep
  have hpos : 0 < atomicPrice binStep decimals0 decimals1 binId :=
    mul_pos (binPrice_pos _ _) (zpow_pos (by norm_num) _)
  have hnumPos := Rat.num_pos.2 hpos
  have hdenPos := (atomicPrice binStep decimals0 decimals1 binId).den_pos
  have hcop := @coprime_exactDecimals decimals0.val decimals1.val _
    (exactRaw_ne_zero hstep binId) (coprime_exactRaw binStep binId)
  rw [hnumEq] at hnum hnumPos
  rw [hdenEq] at hden hdenPos
  set p := exactDecimals decimals0.val decimals1.val (exactRaw binStep binId) with hp
  have hnum' : p.1 < 2 ^ 128 := by exact_mod_cast hnum
  have hnumPos' : 0 < p.1 := by exact_mod_cast hnumPos
  have hpow := pow_lt_of_price hstep hnum' hden
  have hpowDen := (Nat.pow_le_pow_left (base_table binStep hstep).2.1 binId.natAbs).trans_lt hpow
  have hraw := rawBinPrice_eq_ok.2 ⟨rfl, by omega, hpow, hpowDen⟩
  have hscaled := scaleDecimals_of_lt h0 h1 hnum' hden
  refine ⟨⟨p.1, hnum'⟩, ⟨p.2, hden⟩, ?_⟩
  have hreduced := reduceFraction_of_coprime hdenPos.ne' hcop
  refine bind_ok.2 ⟨_, hraw, bind_ok.2 ⟨_, okOr_eq_ok.2 hscaled, ?_⟩⟩
  refine bind_ok.2 ⟨⟨p.1, hnum'⟩, okOr_eq_ok.2 (Unsigned.ofNat?_eq_some.2 ?_),
    bind_ok.2 ⟨⟨p.2, hden⟩, okOr_eq_ok.2 (Unsigned.ofNat?_eq_some.2 ?_),
      ensure_ok.2 ⟨?_, rfl⟩⟩⟩
  · rw [hreduced]
  · rw [hreduced]
  · push Not
    exact ⟨hnumPos'.ne', hdenPos.ne'⟩

/-- On the pools' domain, a price is returned exactly when its reduced fraction fits the word, and
then it is that fraction. -/
theorem atomicBinPrice_exact (hstep : 1 ≤ binStep ∧ binStep ≤ 1000) (h0 : decimals0.val ≤ 30)
    (h1 : decimals1.val ≤ 30) :
    ((∃ num den, atomicBinPrice binStep decimals0 decimals1 binId = .ok (num, den)) ↔
        (atomicPrice binStep decimals0 decimals1 binId).num < 2 ^ 128 ∧
          (atomicPrice binStep decimals0 decimals1 binId).den < 2 ^ 128) ∧
      ∀ num den, atomicBinPrice binStep decimals0 decimals1 binId = .ok (num, den) →
        (atomicPrice binStep decimals0 decimals1 binId).num = num.val ∧
          (atomicPrice binStep decimals0 decimals1 binId).den = den.val := by
  refine ⟨⟨?_, ?_⟩, fun num den h => atomicBinPrice_reduced h⟩
  · rintro ⟨num, den, h⟩
    obtain ⟨hnum, hden⟩ := atomicBinPrice_reduced h
    rw [hnum, hden]
    exact ⟨by exact_mod_cast num.lt, den.lt⟩
  · rintro ⟨hnum, hden⟩
    exact atomicBinPrice_complete hstep.2 h0 h1 hnum hden

theorem atomicBinPrice_exact_880 :
    (∃ num den, atomicBinPrice 880 (.lit 30) (.lit 0) 18 = .ok (num, den)) ↔
      (atomicPrice 880 (.lit 30) (.lit 0) 18).num < 2 ^ 128 ∧
        (atomicPrice 880 (.lit 30) (.lit 0) 18).den < 2 ^ 128 :=
  (atomicBinPrice_exact (by decide) (by decide) (by decide)).1

end

end PrivateExecution
