import Mathlib.Data.List.Nodup
import PrivateExecution.Domain.Split
import PrivateExecution.Encoding.Delimited
import PrivateExecution.Privy.Sha256

/-!
# What the request digest commits to

`SigningRequest.bind` and `SigningRequest.bindSplit` (`privy/src/signing.rs`) hash three layouts: the
route or the split, the intent, and the request, which holds the digests of the other two. Every layout
is a sequence of delimited parts behind its own tag, so it determines what was written into it.
-/

namespace PrivateExecution

open Encoding

/-! ### Split requests -/

def branchBytes (branch : SplitLeg) : Except PrivyError (List UInt8) := do
  ensure (branch.route.legs.length < 2 ^ 32) .approvalBindingMismatch
  let legs ← branch.route.legs.mapM legBytes
  let output ← assetBytes branch.route.expectedNetOutput.asset
  return branch.amountIn.toBeBytes ++ beBytes 4 branch.route.legs.length ++ legs.flatten ++ output ++
    branch.route.expectedNetOutput.amount.toBeBytes

/-- The branch loop of the split layout, with the checked sum of the budgets. -/
def branchesBytes : List SplitLeg → U128 → Except PrivyError (List UInt8 × U128)
  | [], aggregateInput => .ok ([], aggregateInput)
  | branch :: rest, aggregateInput => do
    let bytes ← branchBytes branch
    let aggregateInput ← okOr (aggregateInput.checkedAdd branch.amountIn) .approvalBindingMismatch
    let (tail, aggregateInput) ← branchesBytes rest aggregateInput
    return (bytes ++ tail, aggregateInput)

def splitRouteBytes (split : SplitPlan) : Except PrivyError (List UInt8) := do
  ensure (split.legs.length < 2 ^ 32) .approvalBindingMismatch
  let (branches, aggregateInput) ← branchesBytes split.legs .zero
  let output ← assetBytes split.expectedNetOutput.asset
  return utf8 "privy.signing.split_route.v1" ++ beBytes 4 split.legs.length ++ branches ++ output ++
    aggregateInput.toBeBytes ++ split.expectedNetOutput.amount.toBeBytes

def computeSplitRouteDigest [Sha256] (split : SplitPlan) : Except PrivyError RequestDigest :=
  hashLayout (splitRouteBytes split)

def SigningRequest.bindSplit [Sha256] (tradingEnabled : Bool) (approval : ApprovedExecution)
    (prepared : PreparedExecutionRef) (intent : TradeIntent) (split : SplitPlan)
    (preview : ExecutionPreview) (payloadDigest : PayloadDigest) (nowMs : I64) :
    Except PrivyError SigningRequest := do
  ensure (intent.id = approval.intentId ∧ intent.id = preview.intentId) .approvalBindingMismatch
  ensure (intent.walletRef = approval.walletRef ∧ intent.chain = approval.chain ∧
    intent.chain = preview.chain) .approvalBindingMismatch
  ensure (intent.idempotencyKey = approval.idempotencyKey ∧
    intent.idempotencyKey = prepared.idempotencyKey ∧ prepared.intentId = intent.id)
    .approvalBindingMismatch
  ensure (preview.tokenIn = intent.tokenIn ∧ preview.tokenOut = intent.tokenOut ∧
    preview.side = intent.side) .previewRevalidationFailed
  ensure (tradingEnabled = true) .tradingDisabled
  ensure (∀ expires ∈ approval.expiresAtMs, nowMs < expires) .approvalExpired
  (preview.validateSplit intent split nowMs).mapError fun _ => .previewRevalidationFailed
  ensure (payloadDigest.isZero = false) .missingPayloadDigest
  let routeDigest ← computeSplitRouteDigest split
  let intentDigest ← computeIntentDigest intent
  let requestDigest ← computeRequestDigest approval prepared intent preview payloadDigest routeDigest
    intentDigest
  return ⟨requestDigest, intent.id, intent.idempotencyKey, intent.walletRef, intent.chain,
    intent.nonce, payloadDigest⟩

/-! ### Numbers and tags -/

lemma length_beBytes (width n : ℕ) : (beBytes width n).length = width := by
  induction width with
  | zero => rfl
  | succ width ih => rw [beBytes, List.length_cons, ih]

lemma mod_eq_of_beBytes_eq {width m n : ℕ} (h : beBytes width m = beBytes width n) :
    m % 256 ^ width = n % 256 ^ width := by
  induction width with
  | zero => rw [pow_zero, Nat.mod_one, Nat.mod_one]
  | succ width ih =>
    obtain ⟨hhead, htail⟩ := List.cons.inj h
    have hdigit : m / 256 ^ width % 256 = n / 256 ^ width % 256 := by
      simpa using congrArg UInt8.toNat hhead
    rw [Nat.mod_pow_succ, Nat.mod_pow_succ, ih htail, hdigit]

lemma beBytes_injOn {width m n : ℕ} (hm : m < 256 ^ width) (hn : n < 256 ^ width)
    (h : beBytes width m = beBytes width n) : m = n := by
  simpa only [Nat.mod_eq_of_lt hm, Nat.mod_eq_of_lt hn] using mod_eq_of_beBytes_eq h

section

lemma delimited_unsigned {w : ℕ} (hw : 2 ^ w = 256 ^ (w / 8)) :
    Delimited fun x : Unsigned w => (.ok x.toBeBytes : Except PrivyError (List UInt8)) := by
  refine .of_length (w / 8) (fun _ => length_beBytes _ _) fun x y h => Unsigned.ext ?_
  exact beBytes_injOn (hw ▸ x.lt) (hw ▸ y.lt) h

lemma delimited_u128 : Delimited fun x : U128 => (.ok x.toBeBytes : Except PrivyError (List UInt8)) :=
  delimited_unsigned (by norm_num)

lemma delimited_u64 : Delimited fun x : U64 => (.ok x.toBeBytes : Except PrivyError (List UInt8)) :=
  delimited_unsigned (by norm_num)

lemma delimited_i64 : Delimited fun x : I64 => (.ok x.toBeBytes : Except PrivyError (List UInt8)) := by
  refine .of_length 8 (fun _ => length_beBytes _ _) fun x y h => I64.ext ?_
  have hx := x.inRange
  have hy := y.inRange
  have hmod := @beBytes_injOn 8 _ _ (by norm_num; omega) (by norm_num; omega) h
  omega

lemma delimited_bps : Delimited fun x : Bps => (.ok x.toBeBytes : Except PrivyError (List UInt8)) := by
  refine .of_length 2 (fun _ => length_beBytes _ _) fun x y h => Bps.ext ?_
  have hx := x.le
  have hy := y.le
  exact @beBytes_injOn 2 _ _ (by norm_num; omega) (by norm_num; omega) h

lemma delimited_bytes {n : ℕ} : Delimited fun x : Vector UInt8 n => (.ok x.toList : Except PrivyError (List UInt8)) :=
  .of_length n (fun x => x.length_toList) fun _ _ h => Vector.toList_inj.1 h

end

lemma tradeSourceTag_injective : Function.Injective tradeSourceTag := by
  intro x y h
  cases x <;> cases y <;> first | rfl | cases h

lemma amountTypeTag_injective : Function.Injective amountTypeTag := by
  intro x y h
  cases x <;> cases y <;> first | rfl | cases h

lemma orderTypeTag_injective : Function.Injective orderTypeTag := by
  intro x y h
  cases x <;> cases y <;> first | rfl | cases h

lemma sideTag_injective : Function.Injective sideTag := by
  intro x y h
  cases x <;> cases y <;> first | rfl | cases h

lemma flag_injective : Function.Injective fun b : Bool => (if b then 1 else 0 : UInt8) := by
  intro x y h
  cases x <;> cases y <;> first | rfl | cases h

/-! ### Texts, assets, options -/

lemma toList_loop_byteArray (b : ByteArray) (i : ℕ) (r : List UInt8) :
    ByteArray.toList.loop b i r = r.reverse ++ b.data.toList.drop i := by
  induction hk : b.size - i generalizing i r with
  | zero =>
    have hi : ¬i < b.size := by omega
    have hdrop : b.data.toList.drop i = [] := List.drop_eq_nil_of_le (by
      rw [Array.length_toList]
      exact Nat.not_lt.1 hi)
    rw [ByteArray.toList.loop, if_neg hi, hdrop, List.append_nil]
  | succ k ih =>
    have hi : i < b.size := by omega
    have hlen : i < b.data.toList.length := by
      rw [Array.length_toList]
      exact hi
    have hget : b.get! i = b.data.toList[i] := by
      change b.data[i]! = _
      rw [Array.getElem_toList]
      exact getElem!_pos b.data i hi
    rw [ByteArray.toList.loop, if_pos hi, ih (i + 1) _ (by omega), hget,
      List.drop_eq_getElem_cons hlen]
    simp

lemma utf8_injective : Function.Injective utf8 := by
  intro x y h
  have hbytes : x.toUTF8.data.toList = y.toUTF8.data.toList := by
    simpa only [utf8, ByteArray.toList, toList_loop_byteArray, List.reverse_nil, List.nil_append,
      List.drop_zero] using h
  exact String.toByteArray_inj.1 (ByteArray.ext (Array.toList_inj.1 hbytes))

lemma delimited_lenPrefixed : Delimited lenPrefixed := by
  have hlen : ∀ {x b}, lenPrefixed x = .ok b → x.length < 2 ^ 32 ∧ b = beBytes 4 x.length ++ x := by
    intro x b h
    unfold lenPrefixed at h
    split_ifs at h with hx
    exact ⟨hx, (Except.ok.inj h).symm⟩
  refine .of_header (f := id) 4 (fun k => length_beBytes 4 k) (fun h => (hlen h).2) ?_ Function.injective_id
  intro x y b c hx hy h
  exact @beBytes_injOn 4 _ _ (by simpa using (hlen hx).1) (by simpa using (hlen hy).1) h

lemma delimited_text : Delimited fun s : String => lenPrefixed (utf8 s) :=
  delimited_lenPrefixed.comp utf8_injective

lemma delimited_id {k : IdKind} : Delimited fun x : StringId k => lenPrefixed (utf8 x.asStr) :=
  delimited_text.comp fun _ _ h => StringId.ext h

lemma chainTag_injOn {x y : ChainId} {tag : UInt8} (hx : chainTag x = .ok tag) (hy : chainTag y = .ok tag) :
    x = y := by
  cases x <;> cases hx <;> cases y <;> first | rfl | cases hy

lemma delimited_asset : Delimited assetBytes := by
  intro x y b c s t hx hy h
  obtain ⟨tag, tag', htag, hxy⟩ := bind_ok_ok ⟨hx, hy⟩
  obtain ⟨address, address', haddress, hx, hy⟩ := bind_ok_ok hxy
  cases hx
  cases hy
  obtain ⟨hfirst, htail⟩ := List.cons.inj h
  cases hfirst
  obtain ⟨hsame, hrest⟩ := delimited_text haddress.1 haddress.2 htail
  refine ⟨?_, hrest⟩
  obtain ⟨chain, text⟩ := x
  obtain ⟨chain', text'⟩ := y
  cases hsame
  cases chainTag_injOn htag.1 htag.2
  rfl

lemma delimited_option {α : Type} {part : α → Except PrivyError (List UInt8)} (h : Delimited part) :
    Delimited (optionBytes part) := by
  intro x y b c s t hx hy heq
  cases x with
  | none =>
    cases hx
    cases y with
    | none =>
      cases hy
      exact ⟨rfl, (List.cons.inj heq).2⟩
    | some y =>
      obtain ⟨bytes, -, hy⟩ := bind_ok.1 hy
      cases hy
      cases (List.cons.inj heq).1
  | some x =>
    obtain ⟨bytes, hbytes, hx⟩ := bind_ok.1 hx
    cases hx
    cases y with
    | none =>
      cases hy
      cases (List.cons.inj heq).1
    | some y =>
      obtain ⟨bytes', hbytes', hy⟩ := bind_ok.1 hy
      cases hy
      obtain ⟨rfl, hrest⟩ := h hbytes hbytes' (List.cons.inj heq).2
      exact ⟨rfl, hrest⟩

/-! ### Routes and splits -/

lemma delimited_leg : Delimited legBytes := by
  intro x y b c s t hx hy h
  obtain ⟨venue, venue', hvenue, hxy⟩ := bind_ok_ok ⟨hx, hy⟩
  obtain ⟨pool, pool', hpool, hxy⟩ := bind_ok_ok hxy
  obtain ⟨tokenIn, tokenIn', htokenIn, hxy⟩ := bind_ok_ok hxy
  obtain ⟨tokenOut, tokenOut', htokenOut, hx, hy⟩ := bind_ok_ok hxy
  cases hx
  cases hy
  simp only [List.append_assoc] at h
  obtain ⟨hv, h⟩ := delimited_text hvenue.1 hvenue.2 h
  obtain ⟨hp, h⟩ := delimited_text hpool.1 hpool.2 h
  obtain ⟨hi, h⟩ := delimited_asset htokenIn.1 htokenIn.2 h
  obtain ⟨ho, h⟩ := delimited_asset htokenOut.1 htokenOut.2 h
  obtain ⟨ha, h⟩ := delimited_u128 rfl rfl h
  obtain ⟨he, h⟩ := delimited_u128 rfl rfl h
  refine ⟨?_, h⟩
  cases x
  cases y
  simp only [RouteLeg.mk.injEq]
  exact ⟨hv, hp, hi, ho, ha, he⟩

variable {b c s t : List UInt8}

lemma legs_of_bytes {xs ys : List RouteLeg} {bs cs : List (List UInt8)}
    (hxs : xs.length < 2 ^ 32) (hys : ys.length < 2 ^ 32) (hx : xs.mapM legBytes = .ok bs)
    (hy : ys.mapM legBytes = .ok cs)
    (h : beBytes 4 xs.length ++ (bs.flatten ++ s) = beBytes 4 ys.length ++ (cs.flatten ++ t)) :
    xs = ys ∧ s = t := by
  obtain ⟨hcount, h⟩ := List.append_inj h ((length_beBytes _ _).trans (length_beBytes _ _).symm)
  exact delimited_leg.flatten (@beBytes_injOn 4 _ _ hxs hys hcount) hx hy h

lemma route_of_bytes {x y : RoutePlan} (hx : routeBytes x = .ok b)
    (hy : routeBytes y = .ok b) : x.legs = y.legs ∧ x.expectedNetOutput = y.expectedNetOutput := by
  obtain ⟨hxs, hx⟩ := ensure_ok.1 hx
  obtain ⟨hys, hy⟩ := ensure_ok.1 hy
  obtain ⟨bs, cs, hbs, hxy⟩ := bind_ok_ok ⟨hx, hy⟩
  obtain ⟨asset, asset', hasset, hx, hy⟩ := bind_ok_ok hxy
  have h := Except.ok.inj (hx.trans hy.symm)
  simp only [List.append_assoc] at h
  obtain ⟨hlegs, h⟩ := legs_of_bytes hxs hys hbs.1 hbs.2 (List.append_cancel_left h)
  obtain ⟨hout, h⟩ := delimited_asset hasset.1 hasset.2 h
  have hamount := delimited_u128.eq_of_eq rfl (congrArg Except.ok h.symm)
  exact ⟨hlegs, AssetAmount.ext hout hamount⟩

def SplitLeg.parts (l : SplitLeg) : AtomicAmount × List RouteLeg × AssetAmount :=
  (l.amountIn, l.route.legs, l.route.expectedNetOutput)

lemma branch_of_bytes {x y : SplitLeg} (hx : branchBytes x = .ok b)
    (hy : branchBytes y = .ok c) (h : b ++ s = c ++ t) : x.parts = y.parts ∧ s = t := by
  obtain ⟨hxs, hx⟩ := ensure_ok.1 hx
  obtain ⟨hys, hy⟩ := ensure_ok.1 hy
  obtain ⟨bs, cs, hbs, hxy⟩ := bind_ok_ok ⟨hx, hy⟩
  obtain ⟨asset, asset', hasset, hx, hy⟩ := bind_ok_ok hxy
  cases hx
  cases hy
  simp only [List.append_assoc] at h
  obtain ⟨hin, h⟩ := delimited_u128 rfl rfl h
  obtain ⟨hlegs, h⟩ := legs_of_bytes hxs hys hbs.1 hbs.2 h
  obtain ⟨hout, h⟩ := delimited_asset hasset.1 hasset.2 h
  obtain ⟨hamount, h⟩ := delimited_u128 rfl rfl h
  exact ⟨Prod.ext hin (Prod.ext hlegs (AssetAmount.ext hout hamount)), h⟩

lemma branches_of_bytes {xs ys : List SplitLeg} {m n m' n' : U128}
    (hlen : xs.length = ys.length) (hx : branchesBytes xs m = .ok (b, m'))
    (hy : branchesBytes ys n = .ok (c, n')) (h : b ++ s = c ++ t) :
    xs.map SplitLeg.parts = ys.map SplitLeg.parts ∧ s = t := by
  induction xs generalizing ys m n b c with
  | nil =>
    obtain rfl := List.eq_nil_of_length_eq_zero hlen.symm
    cases hx
    cases hy
    exact ⟨rfl, h⟩
  | cons x xs ih =>
    cases ys with
    | nil => cases hlen
    | cons y ys =>
      obtain ⟨bytes, bytes', hbytes, hxy⟩ := bind_ok_ok ⟨hx, hy⟩
      obtain ⟨sum, sum', -, hxy⟩ := bind_ok_ok hxy
      obtain ⟨⟨tail, total⟩, ⟨tail', total'⟩, htail, hx, hy⟩ := bind_ok_ok hxy
      cases hx
      cases hy
      simp only [List.append_assoc] at h
      obtain ⟨hparts, h⟩ := branch_of_bytes hbytes.1 hbytes.2 h
      obtain ⟨hrest, h⟩ := ih (Nat.succ.inj hlen) htail.1 htail.2 h
      exact ⟨List.cons_eq_cons.2 ⟨hparts, hrest⟩, h⟩

lemma split_of_bytes {x y : SplitPlan} (hx : splitRouteBytes x = .ok b)
    (hy : splitRouteBytes y = .ok b) :
    x.legs.map SplitLeg.parts = y.legs.map SplitLeg.parts ∧ x.expectedNetOutput = y.expectedNetOutput := by
  obtain ⟨hxs, hx⟩ := ensure_ok.1 hx
  obtain ⟨hys, hy⟩ := ensure_ok.1 hy
  obtain ⟨⟨branches, sum⟩, ⟨branches', sum'⟩, hbranches, hxy⟩ := bind_ok_ok ⟨hx, hy⟩
  obtain ⟨asset, asset', hasset, hx, hy⟩ := bind_ok_ok hxy
  have h := Except.ok.inj (hx.trans hy.symm)
  simp only [List.append_assoc] at h
  obtain ⟨hcount, h⟩ := List.append_inj (List.append_cancel_left h)
    ((length_beBytes _ _).trans (length_beBytes _ _).symm)
  obtain ⟨hlegs, h⟩ := branches_of_bytes (@beBytes_injOn 4 _ _ hxs hys hcount) hbranches.1 hbranches.2 h
  obtain ⟨hout, h⟩ := delimited_asset hasset.1 hasset.2 h
  obtain ⟨-, h⟩ := delimited_u128 rfl rfl h
  have hamount := delimited_u128.eq_of_eq rfl (congrArg Except.ok h.symm)
  exact ⟨hlegs, AssetAmount.ext hout hamount⟩

lemma route_ne_split {x : RoutePlan} {y : SplitPlan} (hx : routeBytes x = .ok b) :
    splitRouteBytes y ≠ .ok b := by
  intro hy
  obtain ⟨-, hx⟩ := ensure_ok.1 hx
  obtain ⟨bs, -, hx⟩ := bind_ok.1 hx
  obtain ⟨asset, -, hx⟩ := bind_ok.1 hx
  obtain ⟨-, hy⟩ := ensure_ok.1 hy
  obtain ⟨⟨branches, sum⟩, -, hy⟩ := bind_ok.1 hy
  obtain ⟨asset', -, hy⟩ := bind_ok.1 hy
  have h := congrArg (List.take 15) (Except.ok.inj (hx.trans hy.symm))
  simp only [List.append_assoc] at h
  rw [List.take_append_of_le_length (by decide +kernel), List.take_append_of_le_length (by decide +kernel)] at h
  revert h
  decide +kernel

/-! ### Intents and requests -/

lemma delimited_limitPrice : Delimited limitPriceBytes := by
  intro x y b c s t hx hy h
  obtain ⟨num, num', hnum, hxy⟩ := bind_ok_ok ⟨hx, hy⟩
  obtain ⟨den, den', hden, hx, hy⟩ := bind_ok_ok hxy
  cases hx
  cases hy
  simp only [List.append_assoc] at h
  obtain ⟨hn, h⟩ := delimited_asset hnum.1 hnum.2 h
  obtain ⟨hd, h⟩ := delimited_asset hden.1 hden.2 h
  obtain ⟨hrn, h⟩ := delimited_u128 rfl rfl h
  obtain ⟨hrd, h⟩ := delimited_u128 rfl rfl h
  refine ⟨?_, h⟩
  cases x
  cases y
  simp only [LimitPrice.mk.injEq]
  exact ⟨hn, hd, PriceRatio.ext hrn hrd⟩

lemma delimited_totalCost : Delimited totalCostBytes := by
  intro x y b c s t hx hy h
  obtain ⟨asset, asset', hasset, hx, hy⟩ := bind_ok_ok ⟨hx, hy⟩
  cases hx
  cases hy
  simp only [List.append_assoc] at h
  obtain ⟨ha, h⟩ := delimited_asset hasset.1 hasset.2 h
  obtain ⟨hn, h⟩ := delimited_u128 rfl rfl h
  exact ⟨AssetAmount.ext ha hn, h⟩

lemma intent_of_bytes {x y : TradeIntent} (hx : intentBytes x = .ok b)
    (hy : intentBytes y = .ok b) : x = y := by
  obtain ⟨id, id', hid, hxy⟩ := bind_ok_ok ⟨hx, hy⟩
  obtain ⟨user, user', huser, hxy⟩ := bind_ok_ok hxy
  obtain ⟨wallet, wallet', hwallet, hxy⟩ := bind_ok_ok hxy
  obtain ⟨chain, chain', hchain, hxy⟩ := bind_ok_ok hxy
  obtain ⟨tin, tin', htin, hxy⟩ := bind_ok_ok hxy
  obtain ⟨tout, tout', htout, hxy⟩ := bind_ok_ok hxy
  obtain ⟨limit, limit', hlimit, hxy⟩ := bind_ok_ok hxy
  obtain ⟨cost, cost', hcost, hxy⟩ := bind_ok_ok hxy
  obtain ⟨expiry, expiry', hexpiry, hxy⟩ := bind_ok_ok hxy
  obtain ⟨key, key', hkey, hx, hy⟩ := bind_ok_ok hxy
  have h := Except.ok.inj (hx.trans hy.symm)
  simp only [List.append_assoc, List.cons_append, List.nil_append] at h
  obtain ⟨eid, h⟩ := delimited_id hid.1 hid.2 (List.append_cancel_left h)
  obtain ⟨esource, h⟩ := List.cons.inj h
  obtain ⟨euser, h⟩ := delimited_id huser.1 huser.2 h
  obtain ⟨ewallet, h⟩ := delimited_id hwallet.1 hwallet.2 h
  obtain ⟨echain, h⟩ := List.cons.inj h
  obtain ⟨etin, h⟩ := delimited_asset htin.1 htin.2 h
  obtain ⟨etout, h⟩ := delimited_asset htout.1 htout.2 h
  obtain ⟨eside, h⟩ := List.cons.inj h
  obtain ⟨etype, h⟩ := List.cons.inj h
  obtain ⟨eamount, h⟩ := delimited_u128 rfl rfl h
  obtain ⟨eorder, h⟩ := List.cons.inj h
  obtain ⟨elimit, h⟩ := delimited_option delimited_limitPrice hlimit.1 hlimit.2 h
  obtain ⟨ebuy, h⟩ := delimited_bps rfl rfl h
  obtain ⟨esell, h⟩ := delimited_bps rfl rfl h
  obtain ⟨eimpact, h⟩ := delimited_bps rfl rfl h
  obtain ⟨eslippage, h⟩ := delimited_bps rfl rfl h
  obtain ⟨ecost, h⟩ := delimited_option delimited_totalCost hcost.1 hcost.2 h
  obtain ⟨eflag, h⟩ := List.cons.inj h
  obtain ⟨eexpiry, h⟩ := delimited_option delimited_i64 hexpiry.1 hexpiry.2 h
  obtain ⟨enonce, h⟩ := delimited_u64 rfl rfl h
  have ekey := delimited_id.eq_of_eq hkey.1 (h ▸ hkey.2)
  have erisk : x.risk = y.risk := RiskConstraints.ext ebuy esell eimpact eslippage ecost
  cases x
  cases y
  simp only [TradeIntent.mk.injEq]
  exact ⟨eid, tradeSourceTag_injective esource, euser, ewallet, chainTag_injOn hchain.1 (echain ▸ hchain.2),
    etin, etout, sideTag_injective eside, amountTypeTag_injective etype, eamount,
    orderTypeTag_injective eorder, elimit, erisk, flag_injective eflag, eexpiry, enonce, ekey⟩

section

variable {a a' : ApprovedExecution} {e e' : PreparedExecutionRef} {x y : TradeIntent} {p p' : ExecutionPreview}
  {d d' : PayloadDigest} {route route' intent intent' : RequestDigest} {b : List UInt8}

/-- The request layout determines what of the approval, the preparation and the preview is written into
it, and the three digests. -/
lemma request_of_bytes (hx : requestBytes a e x p d route intent = .ok b)
    (hy : requestBytes a' e' y p' d' route' intent' = .ok b) :
    (p.simulatedNetInput.amount = p'.simulatedNetInput.amount ∧
      p.grossOutput.amount = p'.grossOutput.amount ∧
      p.simulatedNetOutput.amount = p'.simulatedNetOutput.amount) ∧ d = d' ∧
    (a.expiresAtMs = a'.expiresAtMs ∧ a.approvedAtMs = a'.approvedAtMs ∧
      a.approvedTradeUsd = a'.approvedTradeUsd) ∧
    e.reference = e'.reference ∧ route = route' ∧ intent = intent' := by
  obtain ⟨id, id', hid, hxy⟩ := bind_ok_ok ⟨hx, hy⟩
  obtain ⟨key, key', hkey, hxy⟩ := bind_ok_ok hxy
  obtain ⟨wallet, wallet', hwallet, hxy⟩ := bind_ok_ok hxy
  obtain ⟨chain, chain', -, hxy⟩ := bind_ok_ok hxy
  obtain ⟨tin, tin', htin, hxy⟩ := bind_ok_ok hxy
  obtain ⟨tout, tout', htout, hxy⟩ := bind_ok_ok hxy
  obtain ⟨expires, expires', hexpires, hxy⟩ := bind_ok_ok hxy
  obtain ⟨ref, ref', href, hx, hy⟩ := bind_ok_ok hxy
  have h := Except.ok.inj (hx.trans hy.symm)
  simp only [List.append_assoc, List.cons_append, List.nil_append] at h
  obtain ⟨-, h⟩ := delimited_id hid.1 hid.2 (List.append_cancel_left (List.append_cancel_left h))
  obtain ⟨-, h⟩ := delimited_id hkey.1 hkey.2 h
  obtain ⟨-, h⟩ := delimited_id hwallet.1 hwallet.2 h
  obtain ⟨-, h⟩ := List.cons.inj h
  obtain ⟨-, h⟩ := delimited_u64 rfl rfl h
  obtain ⟨-, h⟩ := List.cons.inj h
  obtain ⟨-, h⟩ := delimited_asset htin.1 htin.2 h
  obtain ⟨-, h⟩ := delimited_asset htout.1 htout.2 h
  obtain ⟨hin, h⟩ := delimited_u128 rfl rfl h
  obtain ⟨hgross, h⟩ := delimited_u128 rfl rfl h
  obtain ⟨hout, h⟩ := delimited_u128 rfl rfl h
  obtain ⟨hpayload, h⟩ := delimited_bytes rfl rfl h
  obtain ⟨hexp, h⟩ := delimited_option delimited_i64 hexpires.1 hexpires.2 h
  obtain ⟨hat, h⟩ := delimited_i64 rfl rfl h
  obtain ⟨husd, h⟩ := delimited_u64 rfl rfl h
  obtain ⟨href, h⟩ := delimited_text href.1 href.2 h
  obtain ⟨hroute, h⟩ := delimited_bytes rfl rfl h
  have hintent := Vector.toList_inj.1 h
  exact ⟨⟨hin, hgross, hout⟩, congrArg PayloadDigest.mk hpayload, ⟨hexp, hat, husd⟩, href,
    congrArg RequestDigest.mk hroute, congrArg RequestDigest.mk hintent⟩

end

/-! ### Binding -/

/-- What is executed: one route, or a split. -/
inductive SigningPlan where
  | route (route : RoutePlan)
  | split (split : SplitPlan)

def SigningPlan.bytes : SigningPlan → Except PrivyError (List UInt8)
  | .route r => routeBytes r
  | .split s => splitRouteBytes s

/-- Both are routes with the same legs and the same output, or both are splits with the same budgets,
legs and outputs. -/
def SigningPlan.Agree : SigningPlan → SigningPlan → Prop
  | .route r, .route r' => r.legs = r'.legs ∧ r.expectedNetOutput = r'.expectedNetOutput
  | .split s, .split s' =>
    s.legs.map SplitLeg.parts = s'.legs.map SplitLeg.parts ∧ s.expectedNetOutput = s'.expectedNetOutput
  | .route _, .split _ | .split _, .route _ => False

lemma SigningPlan.agree_of_bytes {x y : SigningPlan} (hx : x.bytes = .ok b)
    (hy : y.bytes = .ok b) : x.Agree y := by
  cases x with
  | route r =>
    cases y with
    | route r' => exact route_of_bytes hx hy
    | split s' => exact route_ne_split hx hy
  | split s =>
    cases y with
    | route r' => exact route_ne_split hy hx
    | split s' => exact split_of_bytes hx hy

/-- The arguments of `bind`, or of `bind_split`. -/
structure BindCall where
  tradingEnabled : Bool
  approval : ApprovedExecution
  prepared : PreparedExecutionRef
  intent : TradeIntent
  plan : SigningPlan
  preview : ExecutionPreview
  payloadDigest : PayloadDigest
  nowMs : I64

namespace BindCall

variable [Sha256] {c c' : BindCall} {r r' : SigningRequest}

def run (c : BindCall) : Except PrivyError SigningRequest :=
  match c.plan with
  | .route r =>
    SigningRequest.bind c.tradingEnabled c.approval c.prepared c.intent r c.preview c.payloadDigest c.nowMs
  | .split s =>
    SigningRequest.bindSplit c.tradingEnabled c.approval c.prepared c.intent s c.preview c.payloadDigest
      c.nowMs

def layouts (c : BindCall) : Except PrivyError (List (List UInt8)) := do
  let plan ← c.plan.bytes
  let intent ← intentBytes c.intent
  let request ← requestBytes c.approval c.prepared c.intent c.preview c.payloadDigest
    ⟨Sha256.digest plan⟩ ⟨Sha256.digest intent⟩
  return [plan, intent, request]

/-- No two byte strings hashed by the calls have one digest. -/
def CollisionFree (c c' : BindCall) : Prop :=
  ∀ l l', c.layouts = .ok l → c'.layouts = .ok l' →
    ∀ b ∈ l, ∀ b' ∈ l', Sha256.digest b = Sha256.digest b' → b = b'

structure Bound (c : BindCall) (r : SigningRequest) : Prop where
  prepared : c.prepared.intentId = c.intent.id ∧ c.prepared.idempotencyKey = c.intent.idempotencyKey
  digests : ∃ plan intent request, c.plan.bytes = .ok plan ∧ intentBytes c.intent = .ok intent ∧
    requestBytes c.approval c.prepared c.intent c.preview c.payloadDigest ⟨Sha256.digest plan⟩
      ⟨Sha256.digest intent⟩ = .ok request ∧ r.requestDigest = ⟨Sha256.digest request⟩

lemma hashLayout_eq_ok {layout : Except PrivyError (List UInt8)} {d : RequestDigest} :
    hashLayout layout = .ok d ↔ ∃ b, layout = .ok b ∧ d = ⟨Sha256.digest b⟩ := by
  refine bind_ok.trans (exists_congr fun b => and_congr_right fun _ => ?_)
  exact ⟨fun h => (Except.ok.inj h).symm, fun h => congrArg _ h.symm⟩

lemma bound_of_run (h : c.run = .ok r) : c.Bound r := by
  obtain ⟨enabled, approval, prepared, intent, plan, preview, payload, now⟩ := c
  cases plan <;>
  · obtain ⟨-, h⟩ := ensure_ok.1 h
    obtain ⟨-, h⟩ := ensure_ok.1 h
    obtain ⟨hprepared, h⟩ := ensure_ok.1 h
    obtain ⟨-, h⟩ := ensure_ok.1 h
    obtain ⟨-, h⟩ := ensure_ok.1 h
    obtain ⟨-, h⟩ := ensure_ok.1 h
    obtain ⟨_, -, h⟩ := bind_ok.1 h
    obtain ⟨-, h⟩ := ensure_ok.1 h
    obtain ⟨route, hroute, h⟩ := bind_ok.1 h
    obtain ⟨digest, hdigest, h⟩ := bind_ok.1 h
    obtain ⟨request, hrequest, h⟩ := bind_ok.1 h
    obtain ⟨b, hb, rfl⟩ := hashLayout_eq_ok.1 hroute
    obtain ⟨b', hb', rfl⟩ := hashLayout_eq_ok.1 hdigest
    obtain ⟨b'', hb'', rfl⟩ := hashLayout_eq_ok.1 hrequest
    cases h
    exact ⟨⟨hprepared.2.2, hprepared.2.1.symm⟩, b, b', b'', hb, hb', hb'', rfl⟩

lemma layouts_eq {plan intent request : List UInt8} (hplan : c.plan.bytes = .ok plan)
    (hintent : intentBytes c.intent = .ok intent)
    (hrequest : requestBytes c.approval c.prepared c.intent c.preview c.payloadDigest ⟨Sha256.digest plan⟩
      ⟨Sha256.digest intent⟩ = .ok request) : c.layouts = .ok [plan, intent, request] :=
  bind_ok.2 ⟨_, hplan, bind_ok.2 ⟨_, hintent, bind_ok.2 ⟨_, hrequest, rfl⟩⟩⟩

lemma requestDigest_eq (h : c.run = .ok r) (h' : c'.run = .ok r')
    (hsame : c.layouts = c'.layouts) : r.requestDigest = r'.requestDigest := by
  obtain ⟨-, plan, intent, request, hplan, hintent, hrequest, hr⟩ := bound_of_run h
  obtain ⟨-, plan', intent', request', hplan', hintent', hrequest', hr'⟩ := bound_of_run h'
  rw [layouts_eq hplan hintent hrequest, layouts_eq hplan' hintent' hrequest'] at hsame
  cases hsame
  exact hr.trans hr'.symm

end BindCall

/-- Two requests with one digest: as long as no two of the byte strings that were hashed for them
collide, both are single-route or both are split requests, and they agree on the intent, the legs and
outputs of the plan, the payload digest, the approval's expiry, time and amount, the preparation and the
amounts of the preview. -/
theorem bind_commits [Sha256] {c c' : BindCall} {r r' : SigningRequest} (hrun : c.run = .ok r)
    (hrun' : c'.run = .ok r') (hfree : c.CollisionFree c') (hdigest : r.requestDigest = r'.requestDigest) :
    c.plan.Agree c'.plan ∧ c.intent = c'.intent ∧ c.payloadDigest = c'.payloadDigest ∧
    (c.approval.expiresAtMs = c'.approval.expiresAtMs ∧ c.approval.approvedAtMs = c'.approval.approvedAtMs ∧
      c.approval.approvedTradeUsd = c'.approval.approvedTradeUsd) ∧ c.prepared = c'.prepared ∧
    (c.preview.simulatedNetInput.amount = c'.preview.simulatedNetInput.amount ∧
      c.preview.grossOutput.amount = c'.preview.grossOutput.amount ∧
      c.preview.simulatedNetOutput.amount = c'.preview.simulatedNetOutput.amount) := by
  obtain ⟨hprepared, plan, intent, request, hplan, hintent, hrequest, hr⟩ := BindCall.bound_of_run hrun
  obtain ⟨hprepared', plan', intent', request', hplan', hintent', hrequest', hr'⟩ :=
    BindCall.bound_of_run hrun'
  have hsame := hfree _ _ (BindCall.layouts_eq hplan hintent hrequest)
    (BindCall.layouts_eq hplan' hintent' hrequest')
  -- The request layouts agree, hence the digests in them, hence the other two layouts.
  rw [hr, hr'] at hdigest
  have hrequests : request = request' := hsame _ (by simp) _ (by simp) (congrArg RequestDigest.asBytes hdigest)
  obtain ⟨hpreview, hpayload, happroval, href, hroute, hdig⟩ :=
    request_of_bytes hrequest (hrequests ▸ hrequest')
  have hplans : plan = plan' := hsame _ (by simp) _ (by simp) (congrArg RequestDigest.asBytes hroute)
  have hintents : intent = intent' := hsame _ (by simp) _ (by simp) (congrArg RequestDigest.asBytes hdig)
  have hx : c.intent = c'.intent := intent_of_bytes hintent (hintents ▸ hintent')
  refine ⟨SigningPlan.agree_of_bytes hplan (hplans ▸ hplan'), hx, hpayload, happroval, ?_, hpreview⟩
  rw [hx] at hprepared
  exact PreparedExecutionRef.ext href (hprepared.1.trans hprepared'.1.symm)
    (hprepared.2.trans hprepared'.2.symm)

namespace BindCall.Sample

def intent : TradeIntent :=
  { TradeIntent.marketBuy ⟨.base, "USDC"⟩ ⟨.base, "TOKEN"⟩ (.lit 1000)
      ⟨.lit 500, .lit 500, .lit 300, .lit 200, none⟩ with allowPartialFill := true }

def route (height : U64) : RoutePlan where
  legs := [⟨"uniswap", "pool-1", ⟨.base, "USDC"⟩, ⟨.base, "TOKEN"⟩, .lit 1000, .lit 250⟩]
  expectedNetOutput := ⟨⟨.base, "TOKEN"⟩, .lit 250⟩
  state := ⟨.lit 1000, height, .lit 7⟩

def bindCall (height : U64) (now : I64) : BindCall where
  tradingEnabled := true
  approval := ⟨intent.id, intent.walletRef, .base, intent.idempotencyKey, none, .lit 5,
    .lit 900⟩
  prepared := ⟨"prepared-1", intent.id, intent.idempotencyKey, by decide⟩
  intent := intent
  plan := .route (route height)
  preview := ⟨intent.id, .base, intent.tokenIn, intent.tokenOut, .buy, ⟨intent.tokenIn, .lit 1000⟩,
    ⟨intent.tokenOut, .lit 250⟩, ⟨intent.tokenOut, .lit 250⟩, ⟨none, none, none, none⟩,
    .fresh⟩
  payloadDigest := ⟨Vector.replicate 32 1⟩
  nowMs := now

end BindCall.Sample

section

attribute [local instance] Sha256.sha2

/-- The same request, bound a second time a little later. -/
theorem bind_commits_rebound : ∃ r r',
    (BindCall.Sample.bindCall (.lit 3) (.lit 1001)).run = .ok r ∧
    (BindCall.Sample.bindCall (.lit 3) (.lit 1002)).run = .ok r' ∧
    r.requestDigest = r'.requestDigest ∧
    (BindCall.Sample.bindCall (.lit 3) (.lit 1001)).prepared =
      (BindCall.Sample.bindCall (.lit 3) (.lit 1002)).prepared := by
  obtain ⟨r, hr⟩ := exists_ok_of_toBool (m := (BindCall.Sample.bindCall (.lit 3) (.lit 1001)).run) (by decide +kernel)
  obtain ⟨r', hr'⟩ := exists_ok_of_toBool (m := (BindCall.Sample.bindCall (.lit 3) (.lit 1002)).run) (by decide +kernel)
  have hdigest := BindCall.requestDigest_eq hr hr' rfl
  -- The first bytes of the three digests differ.
  have hbytes : ∀ l ∈ (BindCall.Sample.bindCall (.lit 3) (.lit 1001)).layouts.toOption,
      (l.map fun b => (Sha256.digest b)[0]).Nodup := by decide +kernel
  refine ⟨r, r', hr, hr', hdigest, (bind_commits hr hr' ?_ hdigest).2.2.2.2.1⟩
  intro l l' hl hl' b hb b' hb' heq
  obtain rfl : l = l' := Except.ok.inj (hl.symm.trans hl')
  exact List.inj_on_of_nodup_map (hbytes l (by rw [hl]; rfl)) hb hb' (congrArg (fun d => d[0]) heq)

end

end PrivateExecution
