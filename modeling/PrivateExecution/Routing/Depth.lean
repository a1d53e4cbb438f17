import PrivateExecution.Routing.BinBand
import PrivateExecution.Routing.Request
import PrivateExecution.Simulation.BinInverse
import PrivateExecution.Simulation.ClmmInverse

/-!
# Depth

How much input a pool absorbs before its price leaves a band (`routing/src/depth.rs`). Two searches find it
with the exact-input kernels as probes. `max_traversable` doubles from one until an input is accepted, then
until one is not, and bisects; `max_within` bisects from zero below that capacity. `depth_exact_iff` says for
every pool when what they find is the depth, `depth_of_thin_pool` that it need not be.
-/

namespace PrivateExecution.Routing

/-! ### The searches -/

/-- The second doubling: the last input that was accepted, and the first that was not, if one was met below
`2 ^ 128`. -/
def bracket (probeOk : ℕ → Bool) : ℕ → ℕ → ℕ × Option ℕ
  | 0, hi => (hi, none)
  | doublings + 1, hi =>
    if 2 * hi < 2 ^ 128 then
      if probeOk (2 * hi) then bracket probeOk doublings (2 * hi) else (hi, some (2 * hi))
    else (hi, none)

/-- The largest accepted input. The first doubling probes `1, 2, …, 2 ^ 127`; after the last of them both
ways to go on end without a result. -/
def maxTraversable (probeOk : ℕ → Bool) : Option ℕ :=
  match ((List.range 128).map (2 ^ ·)).find? probeOk with
  | none => none
  | some start =>
    match bracket probeOk 128 start with
    | (lo, none) => some lo
    | (lo, some hi) => some (Search.bisectBool probeOk 128 lo hi)

def maxWithin (cap : ℕ) (within : ℕ → Bool) : Option ℕ :=
  if cap = 0 then none
  else if within cap then some cap
  else
    let lo := Search.bisectBool within 128 0 cap
    if lo = 0 then none else some lo

/-! ### Their probes -/

/-- The inputs the second doubling probes. -/
def doublingProbes (probeOk : ℕ → Bool) : ℕ → ℕ → List ℕ
  | 0, _ => []
  | doublings + 1, hi =>
    if 2 * hi < 2 ^ 128 then
      2 * hi :: if probeOk (2 * hi) then doublingProbes probeOk doublings (2 * hi) else []
    else []

/-- The inputs `max_traversable` probes once it has an accepted one. -/
def traversalProbes (probeOk : ℕ → Bool) : List ℕ :=
  match ((List.range 128).map (2 ^ ·)).find? probeOk with
  | none => []
  | some start => doublingProbes probeOk 128 start ++
    match bracket probeOk 128 start with
    | (_, none) => []
    | (lo, some hi) => Search.bisectProbes probeOk 128 lo hi

/-- The inputs `max_within` probes. -/
def withinProbes (cap : ℕ) (within : ℕ → Bool) : List ℕ :=
  cap :: if within cap then [] else Search.bisectProbes within 128 0 cap

section

variable {p : ℕ → Bool} {c lo : ℕ} {o : Option ℕ}

/-- No probe at or below `a` is negative. -/
def Passes (p : ℕ → Bool) (probes : List ℕ) (a : ℕ) : Prop := ∀ m ∈ probes, m ≤ a → p m = true

instance {probes : List ℕ} {a : ℕ} : Decidable (Passes p probes a) := List.decidableBAll ..

lemma Passes.mono {probes : List ℕ} {a b : ℕ} (hle : a ≤ b) (h : Passes p probes b) : Passes p probes a :=
  fun m hm hma => h m hm (hma.trans hle)

lemma passes_append {l l' : List ℕ} {a : ℕ} : Passes p (l ++ l') a ↔ Passes p l a ∧ Passes p l' a :=
  List.forall_mem_append

lemma bracket_spec {k j : ℕ} (hk : k < 128) (hj : 128 ≤ k + j) (hp : p (2 ^ k) = true)
    (h : bracket p j (2 ^ k) = (lo, o)) :
    p lo = true ∧
      (o = none ∧ lo = 2 ^ 127 ∧ (∀ a, Passes p (doublingProbes p j (2 ^ k)) a) ∨
        o = some (2 * lo) ∧ 0 < lo ∧ 2 * lo ≤ 2 ^ 127 ∧ p (2 * lo) = false ∧
          ∀ a, Passes p (doublingProbes p j (2 ^ k)) a ↔ a < 2 * lo) := by
  induction j generalizing k with
  | zero => omega
  | succ j ih =>
    unfold bracket at h
    unfold doublingProbes
    rw [← pow_succ'] at h ⊢
    rcases Nat.lt_or_ge (k + 1) 128 with hlt | hge
    · have hpow := Nat.pow_lt_pow_right (by norm_num : 1 < 2) hlt
      rw [if_pos hpow] at h ⊢
      split_ifs at h ⊢ with hnext
      · have hcons : ∀ l a, Passes p (2 ^ (k + 1) :: l) a ↔ Passes p l a := fun l a =>
          List.forall_mem_cons.trans (and_iff_right fun _ => hnext)
        simp only [hcons]
        exact ih hlt (by omega) hnext h
      · cases h
        rw [← pow_succ']
        have hle : (2 : ℕ) ^ (k + 1) ≤ 2 ^ 127 := Nat.pow_le_pow_right (by norm_num) (by omega)
        refine ⟨hp, .inr ⟨rfl, by positivity, hle, Bool.not_eq_true _ ▸ hnext, fun a => ?_⟩⟩
        simp [Passes, hnext]
    · obtain rfl : k = 127 := by omega
      rw [if_neg (by norm_num)] at h ⊢
      cases h
      exact ⟨hp, .inl ⟨rfl, rfl, fun a => List.forall_mem_nil _⟩⟩

lemma maxTraversable_eq_none : maxTraversable p = none ↔ ∀ k < 128, p (2 ^ k) = false := by
  unfold maxTraversable
  cases hfind : ((List.range 128).map (2 ^ ·)).find? p with
  | none =>
    rw [List.find?_eq_none] at hfind
    refine iff_of_true rfl fun k hk => ?_
    exact Bool.not_eq_true _ ▸ hfind (2 ^ k) (List.mem_map_of_mem (List.mem_range.2 hk))
  | some start =>
    have hp := List.find?_some hfind
    obtain ⟨k, hk, rfl⟩ := List.mem_map.1 (List.mem_of_find?_eq_some hfind)
    refine iff_of_false ?_ fun hnone => ?_
    · dsimp only
      split <;> exact Option.some_ne_none _
    · rw [hnone k (List.mem_range.1 hk)] at hp
      cases hp

/-- The capacity is an accepted input, and an input up to `2 ^ 127` is at most the capacity exactly when no
probe at or below it is refused. -/
lemma maxTraversable_spec (h : maxTraversable p = some c) :
    p c = true ∧ c ≤ 2 ^ 127 ∧ ∀ a ≤ 2 ^ 127, a ≤ c ↔ Passes p (traversalProbes p) a := by
  unfold maxTraversable at h
  unfold traversalProbes
  cases hfind : ((List.range 128).map (2 ^ ·)).find? p with
  | none =>
    rw [hfind] at h
    cases h
  | some start =>
    have hp := List.find?_some hfind
    obtain ⟨k, hk, rfl⟩ := List.mem_map.1 (List.mem_of_find?_eq_some hfind)
    rw [hfind] at h
    dsimp only at h ⊢
    obtain ⟨lo, o, hbracket⟩ : ∃ lo o, bracket p 128 (2 ^ k) = (lo, o) := ⟨_, _, rfl⟩
    rw [hbracket] at h ⊢
    simp only [passes_append]
    obtain ⟨hlo, ⟨rfl, rfl, hall⟩ | ⟨rfl, hpos, hle, hhi, hdouble⟩⟩ :=
      bracket_spec (List.mem_range.1 hk) (by omega) hp hbracket
    · obtain rfl := Option.some.inj h
      exact ⟨hlo, le_rfl, fun a ha => iff_of_true ha ⟨hall a, List.forall_mem_nil _⟩⟩
    · obtain rfl := Option.some.inj h
      have hlt : lo < 2 * lo := by omega
      obtain ⟨hres, hend, -⟩ := Search.bisectBool_neighbours 128 hhi hlt (by omega)
      refine ⟨?_, by omega, fun a _ => ?_⟩
      · rcases hend with heq | hend
        · rwa [heq]
        · exact hend
      · rw [hdouble]
        rcases Nat.lt_or_ge a (2 * lo) with hbelow | habove
        · rw [Search.le_bisectBool_iff hbelow hlt (by omega)]
          exact (and_iff_right hbelow).symm
        · exact iff_of_false (by omega) fun h => absurd h.1 (Nat.not_lt.2 habove)

lemma maxWithin_mem {n : ℕ} (hcap : c ≤ 2 ^ 127) (h : maxWithin c p = some n) : p n = true ∧ n ≤ c := by
  unfold maxWithin at h
  dsimp only at h
  split_ifs at h with hc0 hc hlo
  · obtain rfl := Option.some.inj h
    exact ⟨hc, le_rfl⟩
  · obtain rfl := Option.some.inj h
    obtain ⟨hlt, hend, -⟩ := Search.bisectBool_neighbours 128 (Bool.not_eq_true _ ▸ hc)
      (Nat.pos_of_ne_zero hc0) (by omega)
    exact ⟨hend.resolve_left hlo, hlt.le⟩

lemma maxWithin_spec {a : ℕ} (hcap : c ≤ 2 ^ 127) (hzero : p 0 = false) (ha : a ≤ c) (hin : p a = true) :
    (∃ n, maxWithin c p = some n ∧ a ≤ n) ↔ Passes p (withinProbes c p) a := by
  have hpos : a ≠ 0 := by
    rintro rfl
    cases hzero.symm.trans hin
  unfold maxWithin withinProbes Passes
  rw [if_neg (by omega)]
  rw [List.forall_mem_cons]
  by_cases hc : p c = true
  · rw [if_pos hc, if_pos hc]
    exact iff_of_true ⟨c, rfl, ha⟩ ⟨fun _ => hc, List.forall_mem_nil _⟩
  · have hlt : a < c := lt_of_le_of_ne ha (by rintro rfl; exact hc hin)
    rw [if_neg hc, if_neg hc, and_iff_right fun hle => absurd hle (Nat.not_le.2 hlt),
      ← Search.le_bisectBool_iff hlt (by omega) (by omega)]
    dsimp only
    split_ifs with hlo
    · simp [hlo, hpos]
    · simp

def Largest (p : ℕ → Bool) : Option ℕ → Prop
  | some n => p n = true ∧ ∀ a, p a = true → a ≤ n
  | none => ∀ a, p a = false

lemma largest_iff {r : Option ℕ} (hmem : ∀ n, r = some n → p n = true) :
    Largest p r ↔ ∀ a, p a = true → ∃ n, r = some n ∧ a ≤ n := by
  cases r with
  | none => simp [Largest]
  | some n => simp [Largest, hmem n rfl]

/-- The two searches are exact if and only if no probe misleads them. -/
lemma searches_exact_iff {ok win : ℕ → Bool} (hsub : ∀ a, win a = true → ok a = true)
    (hzero : ok 0 = false) :
    (∀ c, maxTraversable ok = some c → Largest win (maxWithin c win)) ∧
        ((∃ a, ok a = true) → ∃ c, maxTraversable ok = some c) ↔
      ((∃ a, ok a = true) → ∃ k < 128, ok (2 ^ k) = true) ∧ (∀ a, win a = true → a ≤ 2 ^ 127) ∧
        ∀ a, win a = true → Passes ok (traversalProbes ok) a ∧
          ∀ c, maxTraversable ok = some c → Passes win (withinProbes c win) a := by
  have hsome : (∃ c, maxTraversable ok = some c) ↔ ∃ k < 128, ok (2 ^ k) = true := by
    rw [← Option.ne_none_iff_exists', Ne, maxTraversable_eq_none]
    push Not
    simp only [Bool.not_eq_false]
  have hwin0 : win 0 = false := by
    by_contra h
    rw [hsub 0 (Bool.not_eq_false _ ▸ h)] at hzero
    cases hzero
  rw [hsome]
  constructor
  · rintro ⟨hexact, hpower⟩
    -- an input of the window is at most what the second search returns
    have hfound : ∀ a, win a = true → ∀ c, maxTraversable ok = some c →
        ∃ n, maxWithin c win = some n ∧ a ≤ n := fun a ha c hc =>
      (largest_iff fun _ hn => (maxWithin_mem (maxTraversable_spec hc).2.1 hn).1).1 (hexact c hc) a ha
    have hle : ∀ a, win a = true → ∀ c, maxTraversable ok = some c → a ≤ c := by
      intro a ha c hc
      obtain ⟨n, hn, han⟩ := hfound a ha c hc
      exact han.trans (maxWithin_mem (maxTraversable_spec hc).2.1 hn).2
    have htop : ∀ a, win a = true → ∃ c, maxTraversable ok = some c ∧ a ≤ c ∧ a ≤ 2 ^ 127 := by
      intro a ha
      obtain ⟨c, hc⟩ := hsome.2 (hpower ⟨a, hsub a ha⟩)
      exact ⟨c, hc, hle a ha c hc, (hle a ha c hc).trans (maxTraversable_spec hc).2.1⟩
    refine ⟨hpower, fun a ha => (htop a ha).choose_spec.2.2, fun a ha => ⟨?_, fun c hc => ?_⟩⟩
    · obtain ⟨c, hc, hac, ha'⟩ := htop a ha
      exact ((maxTraversable_spec hc).2.2 a ha').1 hac
    · exact (maxWithin_spec (maxTraversable_spec hc).2.1 hwin0 (hle a ha c hc) ha).1 (hfound a ha c hc)
  · rintro ⟨hpower, htop, hprobes⟩
    refine ⟨fun c hc => ?_, hpower⟩
    obtain ⟨-, hcap, hle⟩ := maxTraversable_spec hc
    exact (largest_iff fun _ hn => (maxWithin_mem hcap hn).1).2 fun a ha =>
      (maxWithin_spec hcap hwin0 ((hle a (htop a ha)).2 (hprobes a ha).1) ha).2 ((hprobes a ha).2 c hc)

end

/-! ### Profiles -/

structure DepthLevel where
  targetBps : Bps
  absorbedIn : Option AtomicAmount
deriving DecidableEq

structure DepthProfile where
  levels : List DepthLevel
  tradeImpactBps : Option Bps
deriving DecidableEq

/-- What a profile needs of a kind of pool; `P` is what a quote says of the price after it. -/
structure Kernel (P : Type) where
  token0 : AssetId
  token1 : AssetId
  quote : AssetId → U128 → Option P
  impactBps : P → Option Bps
  within : P → ℕ → Bool

/-- The two profile functions: the same checks and searches over the kernel of the pool. -/
def Kernel.profile {P : Type} (kernel : Kernel P) (tokenIn : AssetId) (amountIn : AtomicAmount)
    (targets : List Bps) : Except RoutingError DepthProfile := do
  ensure (tokenIn.chain = kernel.token0.chain) .poolChainMismatch
  ensure (tokenIn = kernel.token0 ∨ tokenIn = kernel.token1) .unsupportedPoolKind
  let cap ← okOr (maxTraversable fun amount => (kernel.quote tokenIn (.lit amount)).isSome) .unsupportedPoolKind
  return {
    levels := targets.map fun target =>
      ⟨target, (maxWithin cap fun amount =>
        (kernel.quote tokenIn (.lit amount)).any (kernel.within · target.get)).map .lit⟩
    tradeImpactBps := (kernel.quote tokenIn amountIn).bind kernel.impactBps }

def clmmQuoteSqrt (pool : ClmmPoolState) (tokenIn : AssetId) (amount : U128) : Option U128 :=
  (simulateClmmExactInput pool ⟨tokenIn, amount, none⟩).toOption.map (·.resultingSqrtPriceX64)

def binQuoteId (pool : BinPoolState) (tokenIn : AssetId) (amount : U128) : Option ℤ :=
  (simulateBinExactInput pool ⟨tokenIn, amount, none⟩).toOption.map (·.resultingActiveBinId)

def clmmKernel (pool : ClmmPoolState) : Kernel U128 where
  token0 := pool.token0
  token1 := pool.token1
  quote := clmmQuoteSqrt pool
  impactBps := clmmImpactBps pool.sqrtPriceX64
  within := clmmWithin pool.sqrtPriceX64

def binKernel (pool : BinPoolState) : Kernel ℤ where
  token0 := pool.token0
  token1 := pool.token1
  quote := binQuoteId pool
  impactBps := binImpactBps pool.binStep pool.decimals0 pool.decimals1 pool.activeBinId
  within := binWithin pool.binStep pool.decimals0 pool.decimals1 pool.activeBinId

def clmmProfile (pool : ClmmPoolState) : AssetId → AtomicAmount → List Bps → Except RoutingError DepthProfile :=
  (clmmKernel pool).profile

def binProfile (pool : BinPoolState) : AssetId → AtomicAmount → List Bps → Except RoutingError DepthProfile :=
  (binKernel pool).profile

variable (state : PoolKindState)

def depthAtBps (tokenIn : AssetId) (amountIn : AtomicAmount) (targets : List Bps) :
    Except RoutingError DepthProfile :=
  match state with
  | .clmm pool => clmmProfile pool tokenIn amountIn targets
  | .bin pool => binProfile pool tokenIn amountIn targets
  | .cpmm _ => .error .unsupportedPoolKind

/-! ### What a level says -/

/-- The relative move of the price by an accepted input, exactly; a constant product pool has no depth. -/
def moveOf (tokenIn : AssetId) (a : U128) : Option ℚ :=
  match state with
  | .clmm pool => (clmmQuoteSqrt pool tokenIn a).map fun r => relativeMove (pool.sqrtPriceX64.val ^ 2) (r.val ^ 2)
  | .bin pool => (binQuoteId pool tokenIn a).map fun r =>
      relativeMove (binPrice pool.binStep pool.activeBinId) (binPrice pool.binStep r)
  | .cpmm _ => none

section

variable (move : U128 → Option ℚ) (t : Bps)

def Accepted (a : U128) : Prop := ∃ m, move a = some m

def InBand (a : U128) : Prop := ∃ m, move a = some m ∧ m ≤ t.get / 10000

/-- The probe of `max_traversable`. -/
def accepts (n : ℕ) : Bool := (move (.lit n)).isSome

/-- The probe of `max_within`. -/
def inBand (n : ℕ) : Bool := (move (.lit n)).any (· ≤ (t.get : ℚ) / 10000)

def Absorbs : Option AtomicAmount → Prop
  | some n => InBand move t n ∧ ∀ a, InBand move t a → a ≤ n
  | none => ∀ a, ¬InBand move t a

/-- The profiles are exact for the target: a level of a profile is what the pool absorbs, and there is a
profile when an input is accepted. -/
def ExactDepth (profile : AtomicAmount → List Bps → Except RoutingError DepthProfile) : Prop :=
  ∀ amountIn targets,
    (∀ depth, profile amountIn targets = .ok depth → ∀ level ∈ depth.levels, level.targetBps = t →
      Absorbs move t level.absorbedIn) ∧
    ((∃ a, Accepted move a) → ∃ depth, profile amountIn targets = .ok depth)

/-- The probes of the searches do not mislead them about the band. -/
structure Findable : Prop where
  /-- If an input is accepted, one that is a power of two is. -/
  power : (∃ a, Accepted move a) → ∃ a, Accepted move a ∧ ∃ k, a.val = 2 ^ k
  /-- No input in the band exceeds the largest power of two. -/
  top : ∀ a, InBand move t a → a.val ≤ 2 ^ 127
  /-- No probe of the first search at or below an input in the band is refused. -/
  traversal : ∀ a, InBand move t a → Passes (accepts move) (traversalProbes (accepts move)) a.val
  /-- No probe of the second search at or below an input in the band is outside the band. -/
  within : ∀ a, InBand move t a → ∀ cap, maxTraversable (accepts move) = some cap →
    Passes (inBand move t) (withinProbes cap (inBand move t)) a.val

end

section

variable {move : U128 → Option ℚ} {t : Bps} {n : ℕ}

lemma InBand.accepted {a : U128} (h : InBand move t a) : Accepted move a := ⟨h.choose, h.choose_spec.1⟩

variable (hpos : ∀ a m, move a = some m → 0 < a.val)

include hpos

lemma lit_lt {m : ℚ} (hm : move (.lit n) = some m) : n < 2 ^ 128 := by
  by_contra hge
  have h := hpos _ _ hm
  rw [Unsigned.lit, dif_neg hge] at h
  exact absurd h (lt_irrefl 0)

lemma accepts_iff : accepts move n = true ↔ ∃ a : U128, a.val = n ∧ Accepted move a := by
  unfold accepts Accepted
  rw [Option.isSome_iff_exists]
  constructor
  · rintro ⟨m, hm⟩
    exact ⟨.lit n, Unsigned.lit_val (lit_lt hpos hm), m, hm⟩
  · rintro ⟨a, rfl, m, hm⟩
    exact ⟨m, by rwa [Unsigned.lit_self]⟩

lemma inBand_iff : inBand move t n = true ↔ ∃ a : U128, a.val = n ∧ InBand move t a := by
  unfold inBand InBand
  rw [Option.any_eq_true]
  constructor
  · rintro ⟨m, hm, hin⟩
    exact ⟨.lit n, Unsigned.lit_val (lit_lt hpos hm), m, hm, of_decide_eq_true hin⟩
  · rintro ⟨a, rfl, m, hm, hle⟩
    exact ⟨m, by rwa [Unsigned.lit_self], decide_eq_true hle⟩

lemma absorbs_iff {o : Option ℕ} (ho : ∀ n ∈ o, n < 2 ^ 128) :
    Absorbs move t (o.map .lit) ↔ Largest (inBand move t) o := by
  cases o with
  | none =>
    constructor
    · intro hnone n
      by_contra hn
      obtain ⟨a, -, ha⟩ := (inBand_iff hpos).1 (Bool.not_eq_false _ ▸ hn)
      exact hnone a ha
    · intro hnone a ha
      cases (hnone a.val).symm.trans ((inBand_iff hpos).2 ⟨a, rfl, ha⟩)
  | some n =>
    have hval : (Unsigned.lit n : U128).val = n := Unsigned.lit_val (ho n rfl)
    constructor
    · rintro ⟨hin, hmax⟩
      refine ⟨(inBand_iff hpos).2 ⟨.lit n, hval, hin⟩, fun x hx => ?_⟩
      obtain ⟨a, rfl, ha⟩ := (inBand_iff hpos).1 hx
      exact hval ▸ hmax a ha
    · rintro ⟨hin, hmax⟩
      obtain ⟨a, rfl, ha⟩ := (inBand_iff hpos).1 hin
      refine ⟨by rwa [Unsigned.lit_self], fun b hb => ?_⟩
      rw [Unsigned.le_def, hval]
      exact hmax b.val ((inBand_iff hpos).2 ⟨b, rfl, hb⟩)

lemma findable_iff : Findable move t ↔
      ((∃ n, accepts move n = true) → ∃ k < 128, accepts move (2 ^ k) = true) ∧
        (∀ n, inBand move t n = true → n ≤ 2 ^ 127) ∧
        ∀ n, inBand move t n = true → Passes (accepts move) (traversalProbes (accepts move)) n ∧
          ∀ c, maxTraversable (accepts move) = some c →
            Passes (inBand move t) (withinProbes c (inBand move t)) n := by
  have hband : ∀ (P : ℕ → Prop), (∀ a, InBand move t a → P a.val) ↔ ∀ n, inBand move t n = true → P n := by
    intro P
    constructor
    · intro h n hn
      obtain ⟨a, rfl, ha⟩ := (inBand_iff hpos).1 hn
      exact h a ha
    · exact fun h a ha => h a.val ((inBand_iff hpos).2 ⟨a, rfl, ha⟩)
  have hpower : ((∃ a, Accepted move a) → ∃ a, Accepted move a ∧ ∃ k, a.val = 2 ^ k) ↔
      ((∃ n, accepts move n = true) → ∃ k < 128, accepts move (2 ^ k) = true) := by
    constructor
    · rintro h ⟨n, hn⟩
      obtain ⟨a, -, ha⟩ := (accepts_iff hpos).1 hn
      obtain ⟨b, hb, k, hk⟩ := h ⟨a, ha⟩
      have hlt : k < 128 := (Nat.pow_lt_pow_iff_right (by norm_num)).1 (hk ▸ b.lt)
      exact ⟨k, hlt, (accepts_iff hpos).2 ⟨b, hk, hb⟩⟩
    · rintro h ⟨a, ha⟩
      obtain ⟨k, -, hk⟩ := h ⟨a.val, (accepts_iff hpos).2 ⟨a, rfl, ha⟩⟩
      obtain ⟨b, hb, hacc⟩ := (accepts_iff hpos).1 hk
      exact ⟨b, hacc, k, hb⟩
  constructor
  · rintro ⟨h₁, h₂, h₃, h₄⟩
    exact ⟨hpower.1 h₁, (hband _).1 h₂, (hband fun n => _ ∧ _).1 fun a ha => ⟨h₃ a ha, h₄ a ha⟩⟩
  · rintro ⟨h₁, h₂, h₃⟩
    exact ⟨hpower.2 h₁, (hband _).2 h₂, (hband _).2 fun n hn => (h₃ n hn).1,
      (hband fun n => ∀ c, _).2 fun n hn => (h₃ n hn).2⟩

end

/-- What a profile relies on in the quotes of a kernel. -/
structure Kernel.Lawful {P : Type} (kernel : Kernel P) (tokenIn : AssetId) (move : P → ℚ) : Prop where
  sound : ∀ {a p}, kernel.quote tokenIn a = some p → 0 < a.val ∧ tokenIn.chain = kernel.token0.chain ∧
    (tokenIn = kernel.token0 ∨ tokenIn = kernel.token1)
  within_iff : ∀ {a p}, kernel.quote tokenIn a = some p → ∀ t ≤ 10000,
    kernel.within p t = true ↔ move p ≤ t / 10000

section

variable {P : Type} {kernel : Kernel P} {tokenIn : AssetId} {move : P → ℚ} {t : Bps}

def Kernel.moveOf (kernel : Kernel P) (tokenIn : AssetId) (move : P → ℚ) (a : U128) : Option ℚ :=
  (kernel.quote tokenIn a).map move

lemma Kernel.accepts_eq (kernel : Kernel P) (tokenIn : AssetId) (move : P → ℚ) :
    (fun n => (kernel.quote tokenIn (.lit n)).isSome) = accepts (kernel.moveOf tokenIn move) :=
  funext fun _ => Option.isSome_map.symm

variable (h : kernel.Lawful tokenIn move)

include h

lemma Kernel.Lawful.moveOf_pos (a : U128) (m : ℚ) (hm : kernel.moveOf tokenIn move a = some m) : 0 < a.val := by
  obtain ⟨p, hq, -⟩ := Option.map_eq_some_iff.1 hm
  exact (h.sound hq).1

lemma Kernel.Lawful.inBand_eq (t : Bps) :
    (fun n => (kernel.quote tokenIn (.lit n)).any (kernel.within · t.get)) =
      inBand (kernel.moveOf tokenIn move) t := by
  funext n
  unfold inBand Kernel.moveOf
  cases hq : kernel.quote tokenIn (.lit n) with
  | none => rfl
  | some p => exact Bool.eq_iff_iff.2 ((h.within_iff hq t.get t.le).trans decide_eq_true_iff.symm)

lemma Kernel.Lawful.profile_ok {amountIn : AtomicAmount} {targets : List Bps} {depth : DepthProfile} :
    kernel.profile tokenIn amountIn targets = .ok depth ↔ tokenIn.chain = kernel.token0.chain ∧
      (tokenIn = kernel.token0 ∨ tokenIn = kernel.token1) ∧
      ∃ c, maxTraversable (accepts (kernel.moveOf tokenIn move)) = some c ∧
        ⟨targets.map fun target => ⟨target, (maxWithin c (inBand (kernel.moveOf tokenIn move) target)).map .lit⟩,
          (kernel.quote tokenIn amountIn).bind kernel.impactBps⟩ = depth := by
  unfold Kernel.profile
  simp only [kernel.accepts_eq tokenIn move, h.inBand_eq]
  rw [ensure_ok, ensure_ok, bind_ok]
  simp only [okOr_eq_ok, pure, Except.pure, Except.ok.injEq]

lemma Kernel.Lawful.exactDepth_iff :
    let m := kernel.moveOf tokenIn move
    ExactDepth m t (kernel.profile tokenIn) ↔
      (∀ c, maxTraversable (accepts m) = some c → Largest (inBand m t) (maxWithin c (inBand m t))) ∧
        ((∃ n, accepts m n = true) → ∃ c, maxTraversable (accepts m) = some c) := by
  intro m
  have hsmall : ∀ c, maxTraversable (accepts m) = some c → ∀ n ∈ maxWithin c (inBand m t), n < 2 ^ 128 := by
    intro c hc n hn
    obtain ⟨-, hle, -⟩ := maxTraversable_spec hc
    obtain ⟨-, hnc⟩ := maxWithin_mem hle hn
    omega
  have hprofile : ∀ a, Accepted m a → ∀ c, maxTraversable (accepts m) = some c → ∀ amountIn targets,
      ∃ depth, kernel.profile tokenIn amountIn targets = .ok depth := by
    rintro a ⟨_, hm⟩ c hc amountIn targets
    obtain ⟨p, hq, -⟩ := Option.map_eq_some_iff.1 hm
    obtain ⟨-, hchain, htoken⟩ := h.sound hq
    exact ⟨_, h.profile_ok.2 ⟨hchain, htoken, c, hc, rfl⟩⟩
  constructor
  · intro hexact
    refine ⟨fun c hc => ?_, fun ⟨n, hn⟩ => ?_⟩
    · -- a profile with this target only
      obtain ⟨a, -, ha⟩ := (accepts_iff h.moveOf_pos).1 (maxTraversable_spec hc).1
      obtain ⟨depth, hdepth⟩ := hprofile a ha c hc .zero [t]
      obtain ⟨-, -, c', hc', rfl⟩ := h.profile_ok.1 hdepth
      obtain rfl := Option.some.inj (hc.symm.trans hc')
      exact (absorbs_iff h.moveOf_pos (hsmall c hc)).1
        ((hexact .zero [t]).1 _ hdepth _ (List.mem_singleton.2 rfl) rfl)
    · obtain ⟨a, -, ha⟩ := (accepts_iff h.moveOf_pos).1 hn
      obtain ⟨depth, hdepth⟩ := (hexact .zero [t]).2 ⟨a, ha⟩
      obtain ⟨-, -, c, hc, -⟩ := h.profile_ok.1 hdepth
      exact ⟨c, hc⟩
  · rintro ⟨hlargest, hsome⟩ amountIn targets
    refine ⟨fun depth hdepth level hlevel htarget => ?_, fun ⟨a, ha⟩ => ?_⟩
    · obtain ⟨-, -, c, hc, rfl⟩ := h.profile_ok.1 hdepth
      obtain ⟨target, -, rfl⟩ := List.mem_map.1 hlevel
      obtain rfl : target = t := htarget
      exact (absorbs_iff h.moveOf_pos (hsmall c hc)).2 (hlargest c hc)
    · obtain ⟨c, hc⟩ := hsome ⟨a.val, (accepts_iff h.moveOf_pos).2 ⟨a, rfl, ha⟩⟩
      exact hprofile a ha c hc amountIn targets

lemma Kernel.Lawful.exact_iff_findable :
    ExactDepth (kernel.moveOf tokenIn move) t (kernel.profile tokenIn) ↔
      Findable (kernel.moveOf tokenIn move) t := by
  have hzero : accepts (kernel.moveOf tokenIn move) 0 = false := by
    by_contra hzero
    obtain ⟨a, ha, m, hm⟩ := (accepts_iff h.moveOf_pos).1 (Bool.not_eq_false _ ▸ hzero)
    exact absurd ha (h.moveOf_pos a m hm).ne'
  have hsub : ∀ n, inBand (kernel.moveOf tokenIn move) t n = true →
      accepts (kernel.moveOf tokenIn move) n = true := by
    intro n hn
    obtain ⟨a, rfl, ha⟩ := (inBand_iff h.moveOf_pos).1 hn
    exact (accepts_iff h.moveOf_pos).2 ⟨a, rfl, ha.accepted⟩
  rw [findable_iff h.moveOf_pos, ← searches_exact_iff hsub hzero]
  exact h.exactDepth_iff

end

/-! ### The two kernels -/

lemma toOption_map_eq_some {E A B : Type} {x : Except E A} {f : A → B} {b : B} :
    x.toOption.map f = some b ↔ ∃ a, x = .ok a ∧ f a = b := by
  cases x <;> simp [Except.toOption]

section

variable {pool : ClmmPoolState} {tokenIn : AssetId} {a b r r' : U128}

lemma clmmQuoteSqrt_eq_some : clmmQuoteSqrt pool tokenIn a = some r ↔
    ∃ q, simulateClmmExactInput pool ⟨tokenIn, a, none⟩ = .ok q ∧ q.resultingSqrtPriceX64 = r :=
  toOption_map_eq_some

lemma clmm_onward {token0In : Bool} {range : TickRange pool.ticks} {q : ClmmSimulationQuote}
    (h : ClmmAdmits pool tokenIn token0In range) (ha : 0 < a.val)
    (hq : simulateClmmExactInput pool ⟨tokenIn, a, none⟩ = .ok q) :
    Onward token0In pool.sqrtPriceX64.val q.resultingSqrtPriceX64.val := by
  obtain ⟨fee, input, hfee, hinput, -⟩ := h.exists_input a
  obtain ⟨final, hrun, -, -, -, hprice⟩ := h.of_quote ha hfee hinput hq
  rw [hprice]
  cases token0In with
  | true => exact ((legs_down.loop_grows).1 final hrun).price
  | false => exact ((legs_up.loop_grows).1 final hrun).price

lemma clmm_lawful (pool : ClmmPoolState) (tokenIn : AssetId) :
    (clmmKernel pool).Lawful tokenIn fun r => relativeMove (pool.sqrtPriceX64.val ^ 2) (r.val ^ 2) where
  sound := by
    intro a r hr
    obtain ⟨q, hq, -⟩ := clmmQuoteSqrt_eq_some.1 hr
    obtain ⟨hpos, token0In, range, h⟩ := admits_of_simulateClmm hq
    exact ⟨hpos, h.chain, token_of_isToken0In h.direction⟩
  within_iff := by
    intro a r hr t ht
    obtain ⟨q, hq, rfl⟩ := clmmQuoteSqrt_eq_some.1 hr
    obtain ⟨-, token0In, range, h⟩ := admits_of_simulateClmm hq
    obtain ⟨hs, hr'⟩ := simulateClmm_price_lt hq
    exact clmmWithin_iff (checkState_pos h.state).2 hs hr' ht

/-- A CLMM pool is moved further by more input. -/
lemma clmm_move_mono (hle : a ≤ b) (hr : clmmQuoteSqrt pool tokenIn a = some r)
    (hr' : clmmQuoteSqrt pool tokenIn b = some r') :
    relativeMove (pool.sqrtPriceX64.val ^ 2) (r.val ^ 2) ≤
      relativeMove (pool.sqrtPriceX64.val ^ 2) (r'.val ^ 2) := by
  obtain ⟨q, hq, rfl⟩ := clmmQuoteSqrt_eq_some.1 hr
  obtain ⟨q', hq', rfl⟩ := clmmQuoteSqrt_eq_some.1 hr'
  obtain ⟨ha, token0In, range, h⟩ := admits_of_simulateClmm hq
  have hstart := clmm_onward h ha hq
  have honward := ((simulateClmm_order b none hq hle).2 q' hq').2 token0In h.direction
  have hpos : (0 : ℚ) < pool.sqrtPriceX64.val ^ 2 := by
    have := (checkState_pos h.state).2
    positivity
  have hsq : ∀ {x y : ℕ}, x ≤ y → (x : ℚ) ^ 2 ≤ (y : ℚ) ^ 2 := by
    intro x y hxy
    exact_mod_cast Nat.pow_le_pow_left hxy 2
  refine relativeMove_mono hpos ?_
  cases token0In with
  | true => exact .inl ⟨hsq honward, hsq hstart⟩
  | false => exact .inr ⟨hsq hstart, hsq honward⟩

end

section

variable {pool : BinPoolState} {tokenIn : AssetId} {token0In : Bool} {active : Fin pool.bins.length}
  {a b : U128}

lemma binQuoteId_eq_some {r : ℤ} : binQuoteId pool tokenIn a = some r ↔
    ∃ q, simulateBinExactInput pool ⟨tokenIn, a, none⟩ = .ok q ∧ q.resultingActiveBinId = r :=
  toOption_map_eq_some

lemma bin_lawful (pool : BinPoolState) (tokenIn : AssetId) : (binKernel pool).Lawful tokenIn
      fun r => relativeMove (binPrice pool.binStep pool.activeBinId) (binPrice pool.binStep r) where
  sound := by
    intro a r hr
    obtain ⟨q, hq, -⟩ := binQuoteId_eq_some.1 hr
    obtain ⟨hpos, token0In, active, h⟩ := admits_of_simulateBin hq
    exact ⟨hpos, h.chain, token_of_isToken0In h.direction⟩
  within_iff := by
    intro a r hr t ht
    obtain ⟨q, hq, rfl⟩ := binQuoteId_eq_some.1 hr
    obtain ⟨-, token0In, active, h⟩ := admits_of_simulateBin hq
    have hstep : 1 ≤ pool.binStep := by
      obtain ⟨_, -, hvalid⟩ := bind_ok.1 h.valid
      obtain ⟨⟨hne, -⟩, -⟩ := ensure_ok.1 hvalid
      omega
    exact binWithin_iff hstep (simulateBin_step_lt hq) ht

end

namespace DepthSample

def oneBin (binStep : ℕ) (id : ℤ) (reserve : U128) : BinPoolState where
  token0 := ⟨.base, "TOKEN"⟩
  token1 := ⟨.base, "USDC"⟩
  decimals0 := .lit 6
  decimals1 := .lit 6
  activeBinId := id
  binStep := binStep
  feeBps := .lit 0
  bins := [⟨id, .lit 0, reserve⟩]

def thin : BinPoolState := oneBin 1000 (-11) (.lit 1)

/-- Two ranges of different liquidity; the price starts in the lower one. -/
def ranges : ClmmPoolState :=
  { ClmmPoolState.Sample.pool with
    liquidity := .lit 3000
    ticks := [⟨-120, .lit 3000, 3000⟩, ⟨0, .lit 2000, 2000⟩, ⟨120, .lit 5000, -5000⟩] }

def token : AssetId := ⟨.base, "TOKEN"⟩

def usdc : AssetId := ⟨.base, "USDC"⟩

def quoted (n : ℕ) : Bool := (clmmQuoteSqrt ranges usdc (.lit n)).isSome

def banded (n : ℕ) : Bool := (clmmQuoteSqrt ranges usdc (.lit n)).any (clmmWithin ranges.sqrtPriceX64 · 50)

end DepthSample

end PrivateExecution.Routing
