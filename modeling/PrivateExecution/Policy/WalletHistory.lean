import Mathlib.Data.List.Induction
import PrivateExecution.Async.Machine
import PrivateExecution.Policy.Wallet

/-!
# Histories of wallet-policy writes

The in-memory policy store (`policy/src/wallet.rs`) as a machine whose calls are writes. Its contract is
that a refused write changes nothing, that a repeated write is answered with the record of the first one,
and that wallets do not disturb each other.
-/

namespace PrivateExecution.InMemoryWalletPolicyStore

structure Call where
  change : WalletLimitsChange
  confirmation : Confirmation
  tradingEnabled : Bool

def Call.wallet (c : Call) : String := c.change.walletRef.asStr

abbrev store : Async.Machine Call fun _ => Except WalletPolicyError WalletPolicyRecord where
  State := InMemoryWalletPolicyStore
  step s c := s.apply c.change c.confirmation c.tradingEnabled

variable (history : List Call)

def answer (c : Call) : Except WalletPolicyError WalletPolicyRecord :=
  (store.step (store.run new history) c).1

def recordsAfter : String → Option WalletPolicyRecord :=
  InMemoryWalletPolicyStore.records (store.run new history)

/-- The version of a record; a wallet without one has version 0. -/
def version (record : Option WalletPolicyRecord) : ℕ := record.elim 0 (·.version.val)

def HasRoom (s : InMemoryWalletPolicyStore) (_ : Call) : Prop := s.applied.length < maxAppliedPolicyKeys

/-- Scoped keys tell the wallets of the writes apart. -/
def KeysSeparate (calls : List Call) : Prop :=
  ∀ c ∈ calls, ∀ c' ∈ calls, scopedKey c.change = scopedKey c'.change → c.wallet = c'.wallet

def Call.SameKey (c c' : Call) : Prop :=
  c.change.walletRef = c'.change.walletRef ∧ c.change.idempotencyKey = c'.change.idempotencyKey

/-- `c'` repeats `c`: the same wallet, key and limits, while trading is enabled. -/
def Call.Repeats (c' c : Call) : Prop :=
  c.SameKey c' ∧ c.change.next.same c'.change.next = true ∧ c'.tradingEnabled = true

/-- The history has an applied write for the wallet and the key of `c`. -/
def AppliedBefore (c : Call) : Prop :=
  ∃ earlier c₀ later record, history = earlier ++ c₀ :: later ∧ answer earlier c₀ = .ok record ∧ c₀.SameKey c

/-! ### One write -/

variable {s : InMemoryWalletPolicyStore} {record : WalletPolicyRecord} {c c' : Call} {key : String}

lemma apply_cases (hroom : HasRoom s c) : (∃ e, store.step s c = (.error e, s)) ∨
    (∃ record, s.applied.lookup (scopedKey c.change) = some record ∧ store.step s c = (.ok record, s)) ∨
    ∃ (next : ValidLimits) (v : U64), next.1 = c.change.next ∧
      s.applied.lookup (scopedKey c.change) = none ∧
      admitted (s.records c.wallet) c.change c.confirmation = .ok v ∧
      store.step s c = (.ok ⟨next, v⟩, ⟨Function.update s.records c.wallet (some ⟨next, v⟩),
        (scopedKey c.change, ⟨next, v⟩) :: s.applied⟩) := by
  simp only [store, apply]
  split
  · exact .inl ⟨_, rfl⟩
  next next hscreen =>
    split
    next record hlookup =>
      split_ifs
      · exact .inr (.inl ⟨record, hlookup, rfl⟩)
      · exact .inl ⟨_, rfl⟩
    next hlookup =>
      split
      · exact .inl ⟨_, rfl⟩
      next v hadmitted =>
        rw [if_neg (Nat.not_le.2 hroom)]
        exact .inr (.inr ⟨next, v, screen_eq_ok hscreen, hlookup, hadmitted, rfl⟩)

lemma version_admitted {current : Option WalletPolicyRecord} {change : WalletLimitsChange}
    {confirmation : Confirmation} {v : U64} (h : admitted current change confirmation = .ok v) :
    v.val = version current + 1 := by
  obtain ⟨-, h⟩ := ensure_ok.1 h
  obtain ⟨-, h⟩ := ensure_ok.1 h
  have hsum := Unsigned.checkedAdd_eq_some.1 (okOr_eq_ok.1 h)
  cases current <;> exact hsum

lemma validate_of_same {l l' : WalletLimits} (h : l.same l' = true) (hl : l.validate = .ok ()) :
    l'.validate = .ok () := by
  simp only [WalletLimits.same, WalletLimits.caps, Bool.and_eq_true, decide_eq_true_eq, List.cons.injEq] at h
  obtain ⟨⟨⟨-, htrade, hhourly, hdaily, -⟩, hchains⟩, hvenues⟩ := h
  have hle : ∀ a b : UsdMicros, a ≤ b ↔ a.val ≤ b.val := fun _ _ => Iff.rfl
  simp only [WalletLimits.validate, ensure_ok, ensure_eq_ok, hle] at hl ⊢
  obtain ⟨hcaps, hne, hblank⟩ := hl
  refine ⟨by omega, ?_, fun v hv => hblank v (hvenues.2 hv)⟩
  rintro hnil
  exact hne (List.subset_nil.1 (hnil ▸ hchains.1))

lemma same_of_eq {l l' : WalletLimits} (h : l = l') : l.same l' = true := by
  simp [h, WalletLimits.same]

lemma same_trans {l l' l'' : WalletLimits} (h : l.same l' = true) (h' : l'.same l'' = true) :
    l.same l'' = true := by
  simp only [WalletLimits.same, Bool.and_eq_true, decide_eq_true_eq] at h h' ⊢
  obtain ⟨⟨⟨hwallet, hcaps⟩, hchains⟩, hvenues⟩ := h
  obtain ⟨⟨⟨hwallet', hcaps'⟩, hchains'⟩, hvenues'⟩ := h'
  exact ⟨⟨⟨hwallet.trans hwallet', hcaps.trans hcaps'⟩, List.Subset.trans hchains.1 hchains'.1,
    List.Subset.trans hchains'.2 hchains.2⟩, List.Subset.trans hvenues.1 hvenues'.1,
    List.Subset.trans hvenues'.2 hvenues.2⟩

lemma screen_of_repeats {next : ValidLimits}
    (h : screen c.change c.tradingEnabled = .ok next) (hrep : c'.Repeats c) :
    ∃ next', screen c'.change c'.tradingEnabled = .ok next' := by
  obtain ⟨⟨hwallet, hkey⟩, hsame, htrading⟩ := hrep
  have hnext := screen_eq_ok h
  obtain ⟨-, h⟩ := ensure_ok.1 h
  obtain ⟨hblank, h⟩ := ensure_ok.1 h
  obtain ⟨hown, -⟩ := ensure_ok.1 h
  have hvalid : c'.change.next.validate = .ok () := validate_of_same hsame (hnext ▸ next.2)
  have hwallet' : c.change.next.walletRef = c'.change.next.walletRef := by
    simp only [WalletLimits.same, Bool.and_eq_true, decide_eq_true_eq] at hsame
    exact hsame.1.1.1
  refine ⟨⟨c'.change.next, hvalid⟩, ?_⟩
  unfold screen
  refine ensure_ok.2 ⟨htrading, ensure_ok.2 ⟨hkey ▸ hblank, ensure_ok.2 ⟨?_, ?_⟩⟩⟩
  · rw [← hwallet, ← hwallet', hown]
  · split
    next e he => rw [hvalid] at he; cases he
    · rfl

/-! ### The ledger along a history -/

lemma sameKey_of_scopedKey (hwallet : c.wallet = c'.wallet)
    (h : scopedKey c.change = scopedKey c'.change) : c.SameKey c' := by
  refine ⟨StringId.ext hwallet, ?_⟩
  have hlist := congrArg String.toList h
  simp only [scopedKey, String.toList_append] at hlist
  rw [show c.change.walletRef.asStr = c'.change.walletRef.asStr from hwallet] at hlist
  exact String.toList_injective (List.append_cancel_left hlist)

lemma scopedKey_of_sameKey (h : c.SameKey c') : scopedKey c.change = scopedKey c'.change := by
  rw [scopedKey, scopedKey, h.1, h.2]

lemma lookup_step (hroom : HasRoom s c) (h : s.applied.lookup key = some record) :
    List.lookup key (store.step s c).2.applied = some record := by
  obtain ⟨e, hstep⟩ | ⟨record', -, hstep⟩ | ⟨next, v, -, hnone, -, hstep⟩ := apply_cases hroom
  · rwa [hstep]
  · rwa [hstep]
  · have hne : (key == scopedKey c.change) = false := by
      refine beq_eq_false_iff_ne.2 fun heq => ?_
      rw [heq, hnone] at h
      cases h
    rwa [hstep, List.lookup_cons, hne]

lemma lookup_of_ok (hroom : HasRoom s c) (h : (store.step s c).1 = .ok record) :
    List.lookup (scopedKey c.change) (store.step s c).2.applied = some record := by
  obtain ⟨e, hstep⟩ | ⟨record', hlookup, hstep⟩ | ⟨next, v, -, hnone, -, hstep⟩ := apply_cases hroom
  · rw [hstep] at h
    cases h
  · rw [hstep] at h ⊢
    cases h
    exact hlookup
  · rw [hstep] at h ⊢
    cases h
    exact List.lookup_cons_self

variable {calls : List Call}

lemma lookup_run (hroom : store.Meets HasRoom s calls) (h : s.applied.lookup key = some record) :
    List.lookup key (store.run s calls).applied = some record :=
  hroom.invariant h fun _ _ hs hok => lookup_step hok hs

lemma answered_of_lookup (hroom : store.Meets HasRoom new calls)
    (h : List.lookup key (store.run new calls).applied = some record) :
    ∃ earlier c later, calls = earlier ++ c :: later ∧ answer earlier c = .ok record ∧
      scopedKey c.change = key := by
  induction calls using List.reverseRecOn with
  | nil => cases h
  | append_singleton calls c ih =>
    obtain ⟨hbefore, hc, -⟩ := Async.Machine.meets_append.1 hroom
    rw [store.run_append] at h
    have keeps : List.lookup key (store.run new calls).applied = some record →
        ∃ earlier c' later, calls ++ [c] = earlier ++ c' :: later ∧ answer earlier c' = .ok record ∧
          scopedKey c'.change = key := by
      intro h
      obtain ⟨earlier, c', later, heq, hanswer, hkey⟩ := ih hbefore h
      exact ⟨earlier, c', later ++ [c], by rw [heq, List.append_assoc, List.cons_append], hanswer, hkey⟩
    change List.lookup key (store.step (store.run new calls) c).2.applied = some record at h
    obtain ⟨e, hstep⟩ | ⟨record', -, hstep⟩ | ⟨next, v, -, -, -, hstep⟩ := apply_cases hc
    · rw [hstep] at h
      exact keeps h
    · rw [hstep] at h
      exact keeps h
    · rw [hstep, List.lookup_cons] at h
      split at h
      next hkey =>
        cases h
        exact ⟨calls, c, [], rfl, congrArg Prod.fst hstep, (beq_iff_eq.1 hkey).symm⟩
      · exact keeps h

lemma appliedBefore_of_lookup
    (hroom : store.Meets HasRoom new calls) (hkeys : ∀ c' ∈ calls, scopedKey c'.change = scopedKey c.change →
      c'.wallet = c.wallet)
    (h : List.lookup (scopedKey c.change) (store.run new calls).applied = some record) :
    AppliedBefore calls c := by
  obtain ⟨earlier, c₀, later, heq, hanswer, hkey⟩ := answered_of_lookup hroom h
  have hmem : c₀ ∈ calls := by
    rw [heq]
    exact List.mem_append_right _ List.mem_cons_self
  exact ⟨earlier, c₀, later, record, heq, hanswer, sameKey_of_scopedKey (hkeys c₀ hmem hkey) hkey⟩

lemma screened_of_ok (h : (store.step s c).1 = .ok record) :
    (∃ next, screen c.change c.tradingEnabled = .ok next) ∧ record.limits.1.same c.change.next = true := by
  simp only [store, apply] at h
  split at h
  · cases h
  next next hscreen =>
    refine ⟨⟨next, hscreen⟩, ?_⟩
    split at h
    · split_ifs at h with hsame
      cases h
      exact hsame
    · split at h
      · cases h
      · split_ifs at h
        cases h
        exact same_of_eq (screen_eq_ok hscreen)

lemma step_of_repeats {c c' : Call}
    {next : ValidLimits} (hscreen : screen c.change c.tradingEnabled = .ok next)
    (hlimits : record.limits.1.same c.change.next = true) (hrep : c'.Repeats c)
    (h : s.applied.lookup (scopedKey c.change) = some record) : store.step s c' = (.ok record, s) := by
  obtain ⟨hkey, hsame, htrading⟩ := hrep
  obtain ⟨next', hscreen'⟩ := screen_of_repeats hscreen ⟨hkey, hsame, htrading⟩
  rw [scopedKey_of_sameKey hkey] at h
  simp only [store, apply, hscreen', h, if_pos (same_trans hlimits hsame)]

/-! ### Isolation -/

/-- What a wallet sees of the store: its record and the entries under the keys of its writes. -/
structure SeenBy (wallet : String) (calls : List Call) (s n : InMemoryWalletPolicyStore) : Prop where
  record : n.records wallet = s.records wallet
  ledger : ∀ c ∈ calls, c.wallet = wallet →
    n.applied.lookup (scopedKey c.change) = s.applied.lookup (scopedKey c.change)
  room : n.applied.length ≤ s.applied.length

variable {wallet : String} {n : InMemoryWalletPolicyStore}

lemma SeenBy.own (h : SeenBy wallet calls s n) (hroom : HasRoom s c) (hmem : c ∈ calls)
    (hc : c.wallet = wallet) :
    (store.step n c).1 = (store.step s c).1 ∧ SeenBy wallet calls (store.step s c).2 (store.step n c).2 := by
  have hroom' : HasRoom n c := Nat.lt_of_le_of_lt h.room hroom
  have hledger := h.ledger c hmem hc
  have hrecord : n.records c.change.walletRef.asStr = s.records c.change.walletRef.asStr := by
    rw [← Call.wallet, hc, h.record]
  simp only [store, apply, hledger, hrecord]
  split
  · exact ⟨rfl, h⟩
  next next hscreen =>
    split
    · split_ifs <;> exact ⟨rfl, h⟩
    · split
      · exact ⟨rfl, h⟩
      next v hadmitted =>
        rw [if_neg (Nat.not_le.2 hroom), if_neg (Nat.not_le.2 hroom')]
        refine ⟨rfl, ?_, ?_, Nat.succ_le_succ h.room⟩
        · dsimp only
          rw [← hc, Call.wallet, Function.update_self, Function.update_self]
        · intro c' hmem' hc'
          simp only [List.lookup_cons]
          split
          · rfl
          · exact h.ledger c' hmem' hc'

lemma SeenBy.other (h : SeenBy wallet calls s n) (hroom : HasRoom s c) (hkeys : KeysSeparate calls)
    (hmem : c ∈ calls) (hc : c.wallet ≠ wallet) : SeenBy wallet calls (store.step s c).2 n := by
  obtain ⟨e, hstep⟩ | ⟨record, -, hstep⟩ | ⟨next, v, -, -, -, hstep⟩ := apply_cases hroom
  · rwa [hstep]
  · rwa [hstep]
  · rw [hstep]
    refine ⟨?_, ?_, Nat.le_succ_of_le h.room⟩
    · dsimp only
      rw [h.record, Function.update_of_ne hc.symm]
    · intro c' hmem' hc'
      have hne : (scopedKey c'.change == scopedKey c.change) = false := by
        refine beq_eq_false_iff_ne.2 fun heq => hc ?_
        rw [← hkeys c' hmem' c hmem heq, hc']
      rw [h.ledger c' hmem' hc', List.lookup_cons, hne]

lemma answers_wallet (hroom : store.Meets HasRoom new calls) (hkeys : KeysSeparate calls)
    (wallet : String) :
    (store.answers new calls).filter (fun x => x.1.wallet == wallet) =
      store.answers new (calls.filter (·.wallet == wallet)) := by
  refine (hroom.and_forall fun _ h => h).isolated (R := SeenBy wallet calls) (p := fun c => c.wallet == wallet)
    ⟨rfl, fun _ _ _ => rfl, le_rfl⟩ ?_ ?_
  · rintro s n c hseen ⟨hok, hmem⟩ hc
    exact hseen.own hok hmem (beq_iff_eq.1 hc)
  · rintro s n c hseen ⟨hok, hmem⟩ hc
    exact hseen.other hok hkeys hmem (beq_eq_false_iff_ne.1 hc)

/-! ### The contract -/

/-- What the contract asks of one write after a history. -/
structure Atomic (history : List Call) (c : Call) : Prop where
  /-- A refused write changes no record. -/
  refused : ∀ e, answer history c = .error e → recordsAfter (history ++ [c]) = recordsAfter history
  /-- A write that is applied for the first time is written under the next version, and nothing else. -/
  applied : ∀ record, answer history c = .ok record → ¬AppliedBefore history c →
    recordsAfter (history ++ [c]) = Function.update (recordsAfter history) c.wallet (some record) ∧
      record.version.val = version (recordsAfter history c.wallet) + 1
  /-- A repeated write is answered with the record of the first one and changes nothing. -/
  repeated : ∀ earlier c₀ later record, history = earlier ++ c₀ :: later → answer earlier c₀ = .ok record →
    c.Repeats c₀ → answer history c = .ok record ∧ recordsAfter (history ++ [c]) = recordsAfter history

lemma recordsAfter_append (c : Call) :
    recordsAfter (history ++ [c]) = InMemoryWalletPolicyStore.records (store.step (store.run new history) c).2 := by
  rw [recordsAfter, store.run_append]
  rfl

lemma atomic_of_room {history : List Call} (hroom : store.Meets HasRoom new history)
    (hc : HasRoom (store.run new history) c) (hkeys : KeysSeparate (history ++ [c])) : Atomic history c := by
  have hmem : ∀ {c'}, c' ∈ history → c' ∈ history ++ [c] := List.mem_append_left _
  refine ⟨fun e he => ?_, fun record hrecord hfirst => ?_, fun earlier c₀ later record heq hanswer hrep => ?_⟩
  · rw [recordsAfter_append]
    unfold answer at he
    obtain ⟨e', hstep⟩ | ⟨record, -, hstep⟩ | ⟨next, v, -, -, -, hstep⟩ := apply_cases hc
    · rw [hstep, recordsAfter]
    · rw [hstep] at he
      cases he
    · rw [hstep] at he
      cases he
  · rw [recordsAfter_append]
    unfold answer at hrecord
    obtain ⟨e, hstep⟩ | ⟨record', hlookup, -⟩ | ⟨next, v, -, -, hadmitted, hstep⟩ := apply_cases hc
    · rw [hstep] at hrecord
      cases hrecord
    · refine absurd (appliedBefore_of_lookup hroom (fun c' hc' hkey => ?_) hlookup) hfirst
      exact hkeys c' (hmem hc') c (List.mem_append_right _ List.mem_cons_self) hkey
    · rw [hstep] at hrecord ⊢
      cases hrecord
      exact ⟨rfl, version_admitted hadmitted⟩
  · -- The entry that the first application left is still there.
    subst heq
    obtain ⟨hearlier, hc₀, hlater⟩ := Async.Machine.meets_append.1 hroom
    obtain ⟨⟨next, hscreen⟩, hlimits⟩ := screened_of_ok hanswer
    have hlookup := lookup_run hlater (lookup_of_ok hc₀ hanswer)
    rw [← store.run_cons, ← store.run_append] at hlookup
    have hstep := step_of_repeats hscreen hlimits hrep hlookup
    rw [recordsAfter_append, answer, hstep]
    exact ⟨rfl, rfl⟩

/-- Along every history that leaves room in the ledger and whose scoped keys separate the wallets, a
refused write changes nothing, a write that is applied raises the version of its wallet by one, a repeated
write is answered with the record of the first, and the writes of other wallets make no difference. -/
theorem writes_atomic_and_isolated {calls : List Call} (hroom : store.Meets HasRoom new calls)
    (hkeys : KeysSeparate calls) :
    (∀ history c later, calls = history ++ c :: later → Atomic history c) ∧
      ∀ wallet, (store.answers new calls).filter (fun x => x.1.wallet == wallet) =
        store.answers new (calls.filter (·.wallet == wallet)) := by
  refine ⟨fun history c later heq => ?_, answers_wallet hroom hkeys⟩
  subst heq
  obtain ⟨hhistory, hc, -⟩ := Async.Machine.meets_append.1 hroom
  have hsub : history ++ [c] ⊆ history ++ c :: later :=
    List.append_subset.2 ⟨List.subset_append_left _ _, by simp⟩
  exact atomic_of_room hhistory hc fun c₁ h₁ c₂ h₂ => hkeys c₁ (hsub h₁) c₂ (hsub h₂)

/-! ### Where the contract fails -/

namespace Sample

def limits (wallet : WalletRef) : WalletLimits where
  walletRef := wallet
  maxTradeUsd := .lit 1
  maxHourlyTurnoverUsd := .lit 1
  maxDailyTurnoverUsd := .lit 1
  maxBuyTax := .lit 0
  maxSellTax := .lit 0
  maxPriceImpact := .lit 0
  maxSlippage := .lit 0
  allowedChains := [.base]
  allowedVenues := []

def write (wallet : WalletRef) (key : String) (expected : U64) : Call :=
  ⟨⟨wallet, limits wallet, expected, key⟩, .webStrong .zero, true⟩

def short : WalletRef := .lit "wallet"

/-- Another wallet, whose name starts with the first one and a colon. -/
def longer : WalletRef := .lit "wallet:x"

def nth (n : ℕ) : Call :=
  write short (String.ofList (List.replicate (n + 1) 'k')) ⟨n % 2 ^ 64, Nat.mod_lt _ (by norm_num)⟩

/-- What `n` such writes leave. -/
structure Filled (n : ℕ) (s : InMemoryWalletPolicyStore) : Prop where
  version : version (s.records short.asStr) = n
  length : s.applied.length = n
  keys : ∀ entry ∈ s.applied, ∃ i < n, entry.1 = scopedKey (nth i).change

lemma scopedKey_nth_ne {i n : ℕ} (h : i < n) : scopedKey (nth i).change ≠ scopedKey (nth n).change := by
  intro heq
  have hsame : (nth i).SameKey (nth n) := sameKey_of_scopedKey rfl heq
  have hkey := hsame.2
  have hlength := congrArg (fun key : String => key.toList.length) hkey
  simp [nth, write] at hlength
  omega

lemma screen_nth (n : ℕ) : ∃ next, screen (nth n).change (nth n).tradingEnabled = .ok next := by
  have hblank : isBlank (nth n).change.idempotencyKey = false := by
    have hk : isWhiteSpace 'k' = false := by decide
    simp [nth, write, isBlank, List.replicate_succ, hk]
  have hvalid : (limits short).validate = .ok () := by decide
  refine ⟨⟨limits short, hvalid⟩, ensure_ok.2 ⟨rfl, ensure_ok.2 ⟨hblank,
    ensure_ok.2 ⟨rfl, ?_⟩⟩⟩⟩
  split
  next e he =>
    rw [show (nth n).change.next = limits short from rfl, hvalid] at he
    cases he
  · rfl

lemma Filled.step {n : ℕ} {s : InMemoryWalletPolicyStore} (h : Filled n s) (hn : n < 2 ^ 64 - 1) :
    ∃ next v, v.val = n + 1 ∧ store.step s (nth n) =
      let records := Function.update s.records short.asStr (some ⟨next, v⟩)
      if maxAppliedPolicyKeys ≤ n then (.error .unavailable, ⟨records, s.applied⟩)
      else (.ok ⟨next, v⟩, ⟨records, (scopedKey (nth n).change, ⟨next, v⟩) :: s.applied⟩) := by
  obtain ⟨next, hscreen⟩ := screen_nth n
  have hlookup : s.applied.lookup (scopedKey (nth n).change) = none := by
    refine List.lookup_eq_none_iff.2 fun entry hentry => ?_
    obtain ⟨i, hi, heq⟩ := h.keys entry hentry
    exact bne_iff_ne.2 (heq ▸ (scopedKey_nth_ne hi).symm)
  have hobserved : ((s.records short.asStr).elim Unsigned.zero (·.version)).val = n := by
    rw [← h.version]
    cases s.records short.asStr <;> rfl
  have hadmitted : admitted (s.records short.asStr) (nth n).change (nth n).confirmation =
      .ok ⟨n + 1, by omega⟩ := by
    refine ensure_ok.2 ⟨Unsigned.ext ?_, ensure_ok.2 ⟨fun _ => rfl, okOr_eq_ok.2
      (Unsigned.checkedAdd_eq_some.2 ?_)⟩⟩
    · rw [hobserved]
      exact (Nat.mod_eq_of_lt (by omega)).symm
    · rw [hobserved, Unsigned.lit_val (by decide)]
  refine ⟨next, ⟨n + 1, by omega⟩, rfl, ?_⟩
  change s.apply (nth n).change (nth n).confirmation (nth n).tradingEnabled = _
  rw [apply, hscreen]
  dsimp only
  rw [hlookup]
  dsimp only
  rw [show (nth n).change.walletRef = short from rfl, hadmitted, h.length]

lemma filled_nth {n : ℕ} (hn : n ≤ maxAppliedPolicyKeys) :
    Filled n (store.run new ((List.range n).map nth)) := by
  induction n with
  | zero => exact ⟨rfl, rfl, nofun⟩
  | succ n ih =>
    have hfilled := ih (Nat.le_of_succ_le hn)
    have hbound : n < 2 ^ 64 - 1 := Nat.lt_of_lt_of_le hn (by decide)
    obtain ⟨next, v, hv, hstep⟩ := hfilled.step hbound
    rw [if_neg (Nat.not_le.2 hn)] at hstep
    rw [List.range_succ, List.map_append, store.run_append]
    change Filled (n + 1) (store.step _ (nth n)).2
    rw [hstep]
    refine ⟨?_, by simp [hfilled.length], ?_⟩
    · simpa [version] using hv
    · simp only [List.mem_cons, forall_eq_or_imp]
      refine ⟨⟨n, Nat.lt_succ_self n, rfl⟩, fun entry hentry => ?_⟩
      obtain ⟨i, hi, heq⟩ := hfilled.keys entry hentry
      exact ⟨i, Nat.lt_succ_of_lt hi, heq⟩

end Sample

open Sample in
theorem repeated_write_answered :
    ∃ record, answer [] (write short "k" .zero) = .ok record ∧
      answer [write short "k" .zero, write longer "k" .zero] (write short "k" .zero) = .ok record := by
  have hroom : store.Meets HasRoom new
      [write short "k" .zero, write longer "k" .zero, write short "k" .zero] := by
    refine ⟨?_, ?_, ?_, trivial⟩ <;> (unfold HasRoom; decide +kernel)
  have hkeys : KeysSeparate [write short "k" .zero, write longer "k" .zero, write short "k" .zero] := by
    unfold KeysSeparate
    decide +kernel
  have hruns : (answer [] (write short "k" .zero)).toBool := by decide +kernel
  obtain ⟨record, hrecord⟩ := exists_ok_of_toBool hruns
  have hatomic := (writes_atomic_and_isolated hroom hkeys).1
    [write short "k" .zero, write longer "k" .zero] (write short "k" .zero) [] rfl
  have hrep : (write short "k" .zero).Repeats (write short "k" .zero) := ⟨⟨rfl, rfl⟩, by decide, rfl⟩
  exact ⟨record, hrecord, (hatomic.repeated [] _ [write longer "k" .zero] record rfl hrecord hrep).1⟩

open Sample in
/-- A write that is refused because the ledger is full has replaced the record; and a write of one wallet
makes the store refuse a write of another that it would have applied. -/
theorem full_ledger_replaces :
    (∃ history c e, answer history c = .error e ∧ recordsAfter (history ++ [c]) ≠ recordsAfter history) ∧
      ∃ c c', c.wallet ≠ c'.wallet ∧ (answer [] c').toBool = true ∧ (answer [c] c').toBool = false := by
  refine ⟨⟨(List.range maxAppliedPolicyKeys).map nth, nth maxAppliedPolicyKeys, .unavailable, ?_⟩,
    write longer "k" .zero, write short "x:k" .zero, by decide, by decide +kernel, by decide +kernel⟩
  have hfilled := filled_nth le_rfl
  obtain ⟨next, v, hv, hstep⟩ := hfilled.step (by decide)
  rw [if_pos le_rfl] at hstep
  rw [answer, recordsAfter_append, hstep]
  refine ⟨rfl, fun heq => ?_⟩
  have hversion := congrArg version (congrFun heq short.asStr)
  rw [recordsAfter, hfilled.version] at hversion
  simp [version, hv] at hversion

end PrivateExecution.InMemoryWalletPolicyStore
