import PrivateExecution.Async.Prog
import Mathlib.Logic.Relation
import Mathlib.Data.Option.Defs

/-!
# Pools of cancellable threads over a shared world

Any number of calls run concurrently over one `World`. A configuration (`Config`) holds the world,
the live threads and the trace of everything that happened, newest first. One step (`Step`) starts
a call, lets one thread perform one operation (the `Host` decides the answer and the effect on the
world), lets a thread return, drops a thread at any point (`Host.cancel` is what its destructors
do), or changes the world from outside. A restart of a process is not a step of its own: its calls
are dropped and later calls name a fresh process.
-/

namespace Async

abbrev Tid := ℕ

inductive Label (Call Op : Type) (Ans : Op → Type) (Ret : Type) where
  /-- Thread `t` was started on call `c`. -/
  | started (t : Tid) (c : Call)
  /-- Thread `t` performed `o` and the answer was `r`. -/
  | did (t : Tid) (o : Op) (r : Ans o)
  /-- Thread `t`, running call `c`, returned `a`. -/
  | returned (t : Tid) (c : Call) (a : Ret)
  /-- Thread `t`, running call `c`, was dropped. -/
  | cancelled (t : Tid) (c : Call)
  /-- The world changed from outside. -/
  | ambient

lemma before_or_after {α : Type} {x y : α} {l : List α} (hx : x ∈ l) (hy : y ∈ l) :
    x = y ∨ (∃ before, (x :: before) <:+ l ∧ y ∈ before) ∨ ∃ before, (y :: before) <:+ l ∧ x ∈ before := by
  induction l with
  | nil => cases hx
  | cons a l ih =>
    have hsuffix : l <:+ a :: l := List.suffix_cons _ _
    rcases List.mem_cons.1 hx with rfl | hxl
    · rcases List.mem_cons.1 hy with rfl | hyl
      · exact .inl rfl
      · exact .inr (.inl ⟨l, List.suffix_refl _, hyl⟩)
    · rcases List.mem_cons.1 hy with rfl | hyl
      · exact .inr (.inr ⟨l, List.suffix_refl _, hxl⟩)
      · rcases ih hxl hyl with h | ⟨before, hb, h⟩ | ⟨before, hb, h⟩
        · exact .inl h
        · exact .inr (.inl ⟨before, hb.trans hsuffix, h⟩)
        · exact .inr (.inr ⟨before, hb.trans hsuffix, h⟩)

/-- The world the threads run in. -/
structure Host (World Op : Type) (Ans : Op → Type) where
  /-- `handle t o w r w'`: thread `t` performs `o` in `w`, is answered `r` and leaves `w'`. -/
  handle : Tid → (o : Op) → World → Ans o → World → Prop
  /-- What the destructors of a dropped thread do. -/
  cancel : Tid → World → World
  /-- Changes from outside. -/
  ambient : World → World → Prop

structure Config (World Call Op : Type) (Ans : Op → Type) (Ret S : Type) where
  /-- The shared world. -/
  world : World
  /-- The live threads, each with the call it runs. -/
  threads : Tid → Option (Call × S)
  /-- The next thread identifier. -/
  next : Tid
  /-- Everything that happened, newest first. -/
  trace : List (Label Call Op Ans Ret)

variable {World Call Op : Type} {Ans : Op → Type} {Ret S : Type}

namespace Config

def boot (w : World) : Config World Call Op Ans Ret S := ⟨w, fun _ => none, 0, []⟩

variable (σ : Config World Call Op Ans Ret S)

def spawn (c : Call) (s : S) : Config World Call Op Ans Ret S :=
  ⟨σ.world, Function.update σ.threads σ.next (some (c, s)), σ.next + 1, .started σ.next c :: σ.trace⟩

def act (t : Tid) (c : Call) (o : Op) (r : Ans o) (s : S) (w : World) : Config World Call Op Ans Ret S :=
  ⟨w, Function.update σ.threads t (some (c, s)), σ.next, .did t o r :: σ.trace⟩

def finish (t : Tid) (c : Call) (a : Ret) : Config World Call Op Ans Ret S :=
  ⟨σ.world, Function.update σ.threads t none, σ.next, .returned t c a :: σ.trace⟩

def cancel (t : Tid) (c : Call) (w : World) : Config World Call Op Ans Ret S :=
  ⟨w, Function.update σ.threads t none, σ.next, .cancelled t c :: σ.trace⟩

def outside (w : World) : Config World Call Op Ans Ret S :=
  ⟨w, σ.threads, σ.next, .ambient :: σ.trace⟩

end Config

section

variable {σ : Config World Call Op Ans Ret S} {t u : Tid} {c : Call} {s : S} {x : Call × S}

lemma Config.threads_spawn (h : (σ.spawn c s).threads u = some x) :
    u = σ.next ∧ x = (c, s) ∨ σ.threads u = some x := by
  rcases eq_or_ne u σ.next with rfl | hne
  · simp only [Config.spawn, Function.update_self, Option.some.injEq] at h
    exact .inl ⟨rfl, h.symm⟩
  · exact .inr ((Function.update_of_ne hne _ _).symm.trans h)

lemma Config.threads_act {o : Op} {r : Ans o} {w : World} (h : (σ.act t c o r s w).threads u = some x) :
    u = t ∧ x = (c, s) ∨ u ≠ t ∧ σ.threads u = some x := by
  rcases eq_or_ne u t with rfl | hne
  · simp only [Config.act, Function.update_self, Option.some.injEq] at h
    exact .inl ⟨rfl, h.symm⟩
  · exact .inr ⟨hne, (Function.update_of_ne hne _ _).symm.trans h⟩

lemma Config.threads_gone (h : Function.update σ.threads t none u = some x) :
    u ≠ t ∧ σ.threads u = some x := by
  rcases eq_or_ne u t with rfl | hne
  · simp at h
  · exact ⟨hne, (Function.update_of_ne hne _ _).symm.trans h⟩

end

inductive Step (H : Host World Op Ans) (C : Code Call Op Ans Ret) :
    Config World Call Op Ans Ret C.State → Config World Call Op Ans Ret C.State → Prop where
  | spawn (σ) (c : Call) : Step H C σ (σ.spawn c (C.entry c))
  | act (σ) {t : Tid} {c : Call} {s s' : C.State} {o : Op} {r : Ans o} {w : World}
      (ht : σ.threads t = some (c, s)) (ha : C.act s o r s') (hw : H.handle t o σ.world r w) :
      Step H C σ (σ.act t c o r s' w)
  | finish (σ) {t : Tid} {c : Call} {s : C.State} {a : Ret}
      (ht : σ.threads t = some (c, s)) (ha : C.ends s a) : Step H C σ (σ.finish t c a)
  | cancel (σ) {t : Tid} {c : Call} {s : C.State} (ht : σ.threads t = some (c, s)) :
      Step H C σ (σ.cancel t c (H.cancel t σ.world))
  | outside (σ) {w : World} (hw : H.ambient σ.world w) : Step H C σ (σ.outside w)

def Steps (H : Host World Op Ans) (C : Code Call Op Ans Ret) :
    Config World Call Op Ans Ret C.State → Config World Call Op Ans Ret C.State → Prop :=
  Relation.ReflTransGen (Step H C)

/-- The configurations that a run from the world `w` can reach. -/
def Reach (H : Host World Op Ans) (C : Code Call Op Ans Ret) (w : World) :
    Config World Call Op Ans Ret C.State → Prop :=
  Steps H C (.boot w)

/-! ### Induction over runs -/

section

variable {H : Host World Op Ans} {C : Code Call Op Ans Ret} {w : World}
  {σ τ : Config World Call Op Ans Ret C.State} {P : Config World Call Op Ans Ret C.State → Prop}

lemma Steps.invariant (hrun : Steps H C σ τ) (hσ : P σ)
    (hstep : ∀ ⦃ρ ρ'⦄, P ρ → Step H C ρ ρ' → P ρ') : P τ := by
  induction hrun with
  | refl => exact hσ
  | tail _ hs ih => exact hstep ih hs

lemma Reach.invariant (hreach : Reach H C w σ) (hinit : P (.boot w))
    (hstep : ∀ ⦃ρ ρ'⦄, P ρ → Step H C ρ ρ' → P ρ') : P σ :=
  Steps.invariant hreach hinit hstep

lemma Steps.invariant_of_steps (hrun : Steps H C σ τ) (hσ : P σ)
    (hstep : ∀ ⦃ρ ρ'⦄, Steps H C σ ρ → P ρ → Step H C ρ ρ' → P ρ') : P τ := by
  induction hrun with
  | refl => exact hσ
  | tail hρ hs ih => exact hstep hρ ih hs

lemma Reach.invariant_of_reach (hreach : Reach H C w σ) (hinit : P (.boot w))
    (hstep : ∀ ⦃ρ ρ'⦄, Reach H C w ρ → P ρ → Step H C ρ ρ' → P ρ') : P σ :=
  Steps.invariant_of_steps hreach hinit hstep

lemma Reach.trans (h : Reach H C w σ) (h' : Steps H C σ τ) : Reach H C w τ :=
  Relation.ReflTransGen.trans h h'

lemma Step.trace_suffix (h : Step H C σ τ) : σ.trace <:+ τ.trace := by
  cases h <;> exact List.suffix_cons _ _

lemma Step.next_le (h : Step H C σ τ) : σ.next ≤ τ.next := by
  cases h with
  | spawn c => exact Nat.le_succ _
  | act | finish | cancel | outside => exact Nat.le_refl _

end

/-! ### Facts about one call -/

/-- Bookkeeping of thread identifiers: they are handed out in order, and a thread that has
returned is gone. -/
structure Config.Tidy (σ : Config World Call Op Ans Ret S) : Prop where
  live_lt : ∀ {t x}, σ.threads t = some x → t < σ.next
  did_lt : ∀ {t o r}, .did t o r ∈ σ.trace → t < σ.next
  returned : ∀ {t c a}, .returned t c a ∈ σ.trace → t < σ.next ∧ σ.threads t = none

/-- A fact `Q t c s σ` about thread `t`, running call `c` in state `s`, that holds from its start
on, under an invariant `I` of the pool. -/
structure Lasting (H : Host World Op Ans) (C : Code Call Op Ans Ret)
    (I : Config World Call Op Ans Ret C.State → Prop)
    (Q : Tid → Call → C.State → Config World Call Op Ans Ret C.State → Prop) : Prop where
  /-- It holds at the start, where the thread has done nothing yet. -/
  entry : ∀ {σ} (c : Call), I σ → (∀ o r, .did σ.next o r ∉ σ.trace) →
    Q σ.next c (C.entry c) (σ.spawn c (C.entry c))
  /-- The thread's own operations carry it along. -/
  act : ∀ {σ t c s o r s' w}, I σ → σ.threads t = some (c, s) → Q t c s σ → C.act s o r s' →
    H.handle t o σ.world r w → Q t c s' (σ.act t c o r s' w)
  /-- Nothing else disturbs it. -/
  other : ∀ {σ σ' t c s l}, I σ → Step H C σ σ' → σ'.trace = l :: σ.trace →
    (∀ o r, l ≠ .did t o r) → Q t c s σ → Q t c s σ'

section

variable {H : Host World Op Ans} {C : Code Call Op Ans Ret} {w : World}
  {σ σ' : Config World Call Op Ans Ret C.State} {I : Config World Call Op Ans Ret C.State → Prop}
  {Q Q' : Tid → Call → C.State → Config World Call Op Ans Ret C.State → Prop}

lemma Lasting.and (hQ : Lasting H C I Q) (hQ' : Lasting H C I Q') :
    Lasting H C I fun t c s σ => Q t c s σ ∧ Q' t c s σ where
  entry c hI hfresh := ⟨hQ.entry c hI hfresh, hQ'.entry c hI hfresh⟩
  act hI ht h ha hw := ⟨hQ.act hI ht h.1 ha hw, hQ'.act hI ht h.2 ha hw⟩
  other hI hs hl hne h := ⟨hQ.other hI hs hl hne h.1, hQ'.other hI hs hl hne h.2⟩

structure Step.Effect (H : Host World Op Ans) (C : Code Call Op Ans Ret)
    (σ σ' : Config World Call Op Ans Ret C.State) (l : Label Call Op Ans Ret) : Prop where
  trace : σ'.trace = l :: σ.trace
  next : σ.next ≤ σ'.next
  /-- A live thread was so before and did nothing, or was started, or performed an operation. -/
  live : ∀ {u c s}, σ'.threads u = some (c, s) →
    (σ.threads u = some (c, s) ∧ ∀ o r, l ≠ .did u o r) ∨
    (u = σ.next ∧ s = C.entry c ∧ σ' = σ.spawn c s) ∨
    ∃ o r s₀ w, σ.threads u = some (c, s₀) ∧ C.act s₀ o r s ∧ H.handle u o σ.world r w ∧ σ' = σ.act u c o r s w
  did : ∀ {u o r}, l = .did u o r → ∃ x, σ.threads u = some x
  returned : ∀ {u c a}, l = .returned u c a →
    σ'.threads u = none ∧ ∃ s, σ.threads u = some (c, s) ∧ C.ends s a
  gone : ∀ {u}, u < σ.next → σ.threads u = none → σ'.threads u = none

lemma Step.effect (hs : Step H C σ σ') : ∃ l, Step.Effect H C σ σ' l := by
  cases hs with
  | spawn c =>
    refine ⟨.started σ.next c, rfl, Nat.le_succ _, fun {u c' s} hu => ?_, nofun, nofun, fun {u} hlt hu => ?_⟩
    · rcases Config.threads_spawn hu with ⟨rfl, heq⟩ | hold
      · cases heq
        exact .inr (.inl ⟨rfl, rfl, rfl⟩)
      · exact .inl ⟨hold, nofun⟩
    · exact (Function.update_of_ne (Nat.ne_of_lt hlt) _ _).trans hu
  | @act t c s s' o r w ht ha hw =>
    refine ⟨.did t o r, rfl, Nat.le_refl _, fun {u c' q} hu => ?_, fun {u o' r'} heq => ?_, nofun,
      fun {u} _ hu => ?_⟩
    · rcases Config.threads_act hu with ⟨rfl, heq⟩ | ⟨hne, hold⟩
      · cases heq
        exact .inr (.inr ⟨o, r, s, w, ht, ha, hw, rfl⟩)
      · refine .inl ⟨hold, fun o' r' heq => ?_⟩
        cases heq
        exact hne rfl
    · cases heq
      exact ⟨_, ht⟩
    · refine (Function.update_of_ne ?_ _ _).trans hu
      rintro rfl
      rw [ht] at hu
      cases hu
  | @finish t c s a ht ha =>
    refine ⟨.returned t c a, rfl, Nat.le_refl _, fun hu => .inl ⟨(Config.threads_gone hu).2, nofun⟩, nofun,
      fun heq => ?_, fun _ hu => by simp [Config.finish, Function.update_apply, hu]⟩
    cases heq
    exact ⟨Function.update_self .., s, ht, ha⟩
  | @cancel t c s ht =>
    exact ⟨.cancelled t c, rfl, Nat.le_refl _, fun hu => .inl ⟨(Config.threads_gone hu).2, nofun⟩, nofun, nofun,
      fun _ hu => by simp [Config.cancel, Function.update_apply, hu]⟩
  | outside hw =>
    exact ⟨.ambient, rfl, Nat.le_refl _, fun hu => .inl ⟨hu, nofun⟩, nofun, nofun, fun _ hu => hu⟩

lemma Config.Tidy.step (h : σ.Tidy) (hs : Step H C σ σ') : σ'.Tidy := by
  obtain ⟨l, heffect⟩ := hs.effect
  refine ⟨fun {t x} ht => ?_, fun {t o r} hd => ?_, fun {t c a} hr => ?_⟩
  · rcases heffect.live ht with ⟨hold, -⟩ | ⟨rfl, -, rfl⟩ | ⟨_, _, _, _, hold, -⟩
    · exact Nat.lt_of_lt_of_le (h.live_lt hold) heffect.next
    · exact Nat.lt_succ_self _
    · exact Nat.lt_of_lt_of_le (h.live_lt hold) heffect.next
  · refine Nat.lt_of_lt_of_le ?_ heffect.next
    rw [heffect.trace] at hd
    rcases List.mem_cons.1 hd with heq | hd
    · obtain ⟨x, hx⟩ := heffect.did heq.symm
      exact h.live_lt hx
    · exact h.did_lt hd
  · rw [heffect.trace] at hr
    rcases List.mem_cons.1 hr with heq | hr
    · obtain ⟨hnone, s, hs, -⟩ := heffect.returned heq.symm
      exact ⟨Nat.lt_of_lt_of_le (h.live_lt hs) heffect.next, hnone⟩
    · obtain ⟨hlt, hnone⟩ := h.returned hr
      exact ⟨Nat.lt_of_lt_of_le hlt heffect.next, heffect.gone hlt hnone⟩

lemma Steps.tidy (hσ : σ.Tidy) (h : Steps H C σ σ') : σ'.Tidy :=
  h.invariant (P := Config.Tidy) hσ fun _ _ hρ hs => hρ.step hs

lemma Config.tidy_boot (w : World) : (Config.boot w : Config World Call Op Ans Ret S).Tidy := by
  refine ⟨?_, ?_, ?_⟩
  · intro t x ht
    cases ht
  · intro t o r hd
    cases hd
  · intro t c a hr
    cases hr

/-- A lasting fact that holds at the start of a run of every running call, and of every call that
has returned in the state from which it returned, does so at the end. -/
lemma Steps.lasting (hQ : Lasting H C I Q) (htidy : σ.Tidy) (hI : ∀ ρ, Steps H C σ ρ → I ρ)
    (hσ : (∀ t c s, σ.threads t = some (c, s) → Q t c s σ) ∧
      ∀ t c a, .returned t c a ∈ σ.trace → ∃ s, C.ends s a ∧ Q t c s σ) (h : Steps H C σ σ') :
    (∀ t c s, σ'.threads t = some (c, s) → Q t c s σ') ∧
      ∀ t c a, .returned t c a ∈ σ'.trace → ∃ s, C.ends s a ∧ Q t c s σ' := by
  induction h with
  | refl => exact hσ
  | @tail ρ ρ' hρ hs ih =>
    obtain ⟨hlive, hret⟩ := ih
    have hinv := hI ρ hρ
    have htidy := Steps.tidy htidy hρ
    obtain ⟨l, heffect⟩ := hs.effect
    have hother : ∀ {t c s}, (∀ o r, l ≠ .did t o r) → Q t c s ρ → Q t c s ρ' := fun hno hq =>
      hQ.other hinv hs heffect.trace hno hq
    constructor
    · intro u c s hu
      rcases heffect.live hu with ⟨hold, hno⟩ | ⟨rfl, rfl, rfl⟩ | ⟨o, r, s₀, w, hold, ha, hw, rfl⟩
      · exact hother hno (hlive u c s hold)
      · exact hQ.entry c hinv fun o r hd => absurd (htidy.did_lt hd) (Nat.lt_irrefl _)
      · exact hQ.act hinv hold (hlive u c s₀ hold) ha hw
    · intro u c a hr
      rw [heffect.trace] at hr
      rcases List.mem_cons.1 hr with rfl | hr
      · obtain ⟨-, s, hu, hends⟩ := heffect.returned rfl
        exact ⟨s, hends, hother nofun (hlive u c s hu)⟩
      · -- a returned call keeps the fact, because it performs no further operation
        obtain ⟨s, hends, hq⟩ := hret u c a hr
        refine ⟨s, hends, hother (fun o r heq => ?_) hq⟩
        obtain ⟨x, hx⟩ := heffect.did heq
        rw [(htidy.returned hr).2] at hx
        cases hx

lemma Reach.tidy (h : Reach H C w σ) : σ.Tidy := Steps.tidy (Config.tidy_boot w) h

lemma Reach.lasting (hQ : Lasting H C I Q) (hI : ∀ ρ, Reach H C w ρ → I ρ) (h : Reach H C w σ) :
    (∀ t c s, σ.threads t = some (c, s) → Q t c s σ) ∧
      ∀ t c a, .returned t c a ∈ σ.trace → ∃ s, C.ends s a ∧ Q t c s σ := by
  refine Steps.lasting hQ (Config.tidy_boot w) hI ⟨?_, ?_⟩ h
  · intro t c s ht
    cases ht
  · intro t c a hr
    cases hr

end

/-! ### Simulation -/

/-- Every move of the code `C` is matched by a move of the code `A`. -/
structure Simulates (C A : Code Call Op Ans Ret) (R : C.State → A.State → Prop) : Prop where
  entry : ∀ c, R (C.entry c) (A.entry c)
  act : ∀ {s a o r s'}, R s a → C.act s o r s' → ∃ a', A.act a o r a' ∧ R s' a'
  ends : ∀ {s a v}, R s a → C.ends s v → A.ends a v

/-- Two configurations with the same world and history whose threads are related one by one. -/
structure Matches {S' : Type} (R : S → S' → Prop) (σ : Config World Call Op Ans Ret S)
    (τ : Config World Call Op Ans Ret S') : Prop where
  world : τ.world = σ.world
  next : τ.next = σ.next
  trace : τ.trace = σ.trace
  threads : ∀ t, Option.Rel (fun x y => x.1 = y.1 ∧ R x.2 y.2) (σ.threads t) (τ.threads t)

section

variable {H : Host World Op Ans} {C A : Code Call Op Ans Ret} {R : C.State → A.State → Prop}
  {σ σ' : Config World Call Op Ans Ret C.State} {τ : Config World Call Op Ans Ret A.State}

lemma Matches.live (h : Matches R σ τ) {t : Tid} {c : Call} {s : C.State}
    (ht : σ.threads t = some (c, s)) : ∃ a, τ.threads t = some (c, a) ∧ R s a := by
  have hrel := h.threads t
  rw [ht] at hrel
  generalize τ.threads t = y at hrel ⊢
  cases hrel with
  | @some _ b hcb =>
    obtain ⟨c', a⟩ := b
    obtain ⟨rfl, hR⟩ := hcb
    exact ⟨a, rfl, hR⟩

lemma Matches.update (h : Matches R σ τ) (t : Tid) {x : Option (Call × C.State)}
    {y : Option (Call × A.State)} (hxy : Option.Rel (fun x y => x.1 = y.1 ∧ R x.2 y.2) x y) (u : Tid) :
    Option.Rel (fun x y => x.1 = y.1 ∧ R x.2 y.2) (Function.update σ.threads t x u)
      (Function.update τ.threads t y u) := by
  rcases eq_or_ne u t with rfl | hut
  · simpa using hxy
  · simpa [Function.update_of_ne hut] using h.threads u

lemma Step.simulates (hR : Simulates C A R) (h : Matches R σ τ) (hs : Step H C σ σ') :
    ∃ τ', Step H A τ τ' ∧ Matches R σ' τ' := by
  cases hs with
  | spawn c =>
    refine ⟨_, .spawn τ c, ⟨h.world, congrArg (· + 1) h.next, ?_, ?_⟩⟩
    · simp [Config.spawn, h.next, h.trace]
    · intro u
      simp only [Config.spawn, h.next]
      exact h.update _ (.some ⟨rfl, hR.entry c⟩) u
  | act ht ha hw =>
    obtain ⟨a, hta, hsa⟩ := h.live ht
    obtain ⟨a', hact, hsa'⟩ := hR.act hsa ha
    rw [← h.world] at hw
    exact ⟨_, .act τ hta hact hw, ⟨rfl, h.next, by simp [Config.act, h.trace],
      h.update _ (.some ⟨rfl, hsa'⟩)⟩⟩
  | finish ht ha =>
    obtain ⟨a, hta, hsa⟩ := h.live ht
    exact ⟨_, .finish τ hta (hR.ends hsa ha), ⟨h.world, h.next, by simp [Config.finish, h.trace],
      h.update _ .none⟩⟩
  | cancel ht =>
    obtain ⟨a, hta, -⟩ := h.live ht
    exact ⟨_, .cancel τ hta, ⟨by simp [Config.cancel, h.world], h.next,
      by simp [Config.cancel, h.trace], h.update _ .none⟩⟩
  | outside hw =>
    rw [← h.world] at hw
    exact ⟨_, .outside τ hw, ⟨rfl, h.next, by simp [Config.outside, h.trace], h.threads⟩⟩

lemma Steps.simulates (hR : Simulates C A R) (h : Matches R σ τ) (hrun : Steps H C σ σ') :
    ∃ τ', Steps H A τ τ' ∧ Matches R σ' τ' := by
  induction hrun with
  | refl => exact ⟨τ, .refl, h⟩
  | tail _ hs ih =>
    obtain ⟨ρ, hρ, hm⟩ := ih
    obtain ⟨τ', hτ', hm'⟩ := hs.simulates hR hm
    exact ⟨τ', hρ.tail hτ', hm'⟩

lemma Reach.simulates {w : World} (hR : Simulates C A R) (hreach : Reach H C w σ) :
    ∃ τ, Reach H A w τ ∧ Matches R σ τ :=
  Steps.simulates hR ⟨rfl, rfl, rfl, fun _ => .none⟩ hreach

lemma simulates_of_follows {body : Call → Prog Op Ans Ret}
    (h : ∀ c, A.Follows A.ends (A.entry c) (body c)) :
    Simulates (Code.ofProg body) A fun p s => A.Follows A.ends s p where
  entry := h
  act := by
    rintro s a o r s' hs ⟨k, rfl, rfl⟩
    exact hs r
  ends := by
    rintro s a v hs rfl
    exact hs

lemma Reach.follows {w : World} {body : Call → Prog Op Ans Ret}
    {σ : Config World Call Op Ans Ret (Code.ofProg body).State}
    (h : ∀ c, A.Follows A.ends (A.entry c) (body c)) (hreach : Reach H (Code.ofProg body) w σ) :
    ∃ τ, Reach H A w τ ∧ Matches (fun p s => A.Follows A.ends s p) σ τ :=
  hreach.simulates (simulates_of_follows h)

end

/-! ### One call alone -/

/-- Thread `t`, running alone from the world `w`, performs the operations `events` of the program
`p`; what is left of it is `q` and the world is `w'`. -/
inductive Plays (H : Host World Op Ans) (t : Tid) :
    Prog Op Ans Ret → World → List (Σ o, Ans o) → Prog Op Ans Ret → World → Prop where
  | refl (p : Prog Op Ans Ret) (w : World) : Plays H t p w [] p w
  | call {o : Op} {k : Ans o → Prog Op Ans Ret} {r : Ans o} {w w' w'' : World}
      {events : List (Σ o, Ans o)} {q : Prog Op Ans Ret} (hw : H.handle t o w r w')
      (hk : Plays H t (k r) w' events q w'') : Plays H t (.call o k) w (⟨o, r⟩ :: events) q w''

section

variable {H : Host World Op Ans} {body : Call → Prog Op Ans Ret}
  {σ : Config World Call Op Ans Ret (Code.ofProg body).State} {events events' : List (Σ o, Ans o)}
  {t t' : Tid} {c c' : Call} {a : Ret} {p q r : Prog Op Ans Ret} {w w' w'' : World}
  {trace : List (Label Call Op Ans Ret)}

lemma Plays.bind {α : Type} {p : Prog Op Ans α} {f : α → Prog Op Ans Ret} {a : α}
    (hp : Plays H t p w events (.pure a) w') (hf : Plays H t (f a) w' events' q w'') :
    Plays H t (p >>= f) w (events ++ events') q w'' := by
  generalize hq : Prog.pure a = r at hp
  induction hp with
  | refl p w =>
    subst hq
    exact hf
  | call hw _ ih => exact .call hw (ih hf hq)

lemma Plays.of_eq (h : p = q) : Plays H t p w [] q w := by
  subst h
  exact .refl _ _

lemma Plays.trans (hp : Plays H t p w events q w') (hq : Plays H t q w' events' r w'') :
    Plays H t p w (events ++ events') r w'' := by
  induction hp with
  | refl p w => exact hq
  | call hw _ ih => exact .call hw (ih hq)

section

variable {ε α β : Type} {p : Fallible ε Op Ans α}
  {f : α → Fallible ε Op Ans β} {q : Prog Op Ans (Except ε β)}

lemma Plays.fail {e : ε} (hp : Plays H t p.run w events (.pure (.error e)) w') :
    Plays H t (p >>= f).run w events (.pure (.error e)) w' := by
  have hseq := Plays.bind (f := ExceptT.bindCont f) hp (.refl _ w')
  rwa [List.append_nil] at hseq

lemma Plays.check {x : Except ε α} {a : α} (hx : x = .ok a) (hf : Plays H t (f a).run w events q w') :
    Plays H t (Fallible.check x >>= f).run w events q w' := by
  subst hx
  exact hf

lemma Plays.check_error {x : Except ε α} {e : ε} (hx : x = .error e) :
    Plays H t (Fallible.check x >>= f).run w [] (.pure (.error e)) w := by
  subst hx
  exact .refl _ _

lemma Plays.request {o : Op} {r : Ans o} {g : Ans o → Fallible ε Op Ans β}
    (hw : H.handle t o w r w') (hg : Plays H t (g r).run w' events q w'') :
    Plays H t (Fallible.request o >>= g).run w (⟨o, r⟩ :: events) q w'' := .call hw hg

end

lemma Plays.steps (h : Plays H t p w events q w') (hw : σ.world = w) (ht : σ.threads t = some (c, p)) :
    Steps H (Code.ofProg body) σ ⟨w', Function.update σ.threads t (some (c, q)), σ.next,
      (events.map fun e => .did t e.1 e.2).reverse ++ σ.trace⟩ := by
  induction h generalizing σ with
  | refl p w =>
    subst hw
    rw [Function.update_eq_self_iff.2 ht.symm]
    exact .refl
  | @call o k r w w' w'' events q hhandle _ ih =>
    subst hw
    have hstep : Step H (Code.ofProg body) σ (σ.act t c o r (k r) w') := .act σ ht ⟨k, rfl, rfl⟩ hhandle
    have hrest := ih (σ := σ.act t c o r (k r) w') rfl (Function.update_self ..)
    refine Relation.ReflTransGen.head hstep ?_
    simpa [Config.act, Steps] using hrest

lemma Reach.begin (h : Reach H (Code.ofProg body) w σ)
    (hp : Plays H σ.next (body c) σ.world events q w') :
    Reach H (Code.ofProg body) w ⟨w', Function.update σ.threads σ.next (some (c, q)), σ.next + 1,
      (events.map fun e => .did σ.next e.1 e.2).reverse ++ .started σ.next c :: σ.trace⟩ := by
  have hspawn : Step H (Code.ofProg body) σ (σ.spawn c (body c)) := .spawn σ c
  have hplay := hp.steps (σ := σ.spawn c (body c)) rfl (Function.update_self ..)
  simp only [Config.spawn, Function.update_idem] at hplay
  exact h.trans (.head hspawn hplay)

lemma Reach.call (h : Reach H (Code.ofProg body) w σ)
    (hp : Plays H σ.next (body c) σ.world events (.pure a) w') :
    ∃ τ, Reach H (Code.ofProg body) w τ ∧ τ.world = w' ∧
      τ.trace = .returned σ.next c a ::
        ((events.map fun e => .did σ.next e.1 e.2).reverse ++ .started σ.next c :: σ.trace) :=
  ⟨_, (h.begin hp).tail (Step.finish _ (Function.update_self ..) rfl), rfl, rfl⟩

lemma did_mem_call {o : Op} {r : Ans o} :
    .did t' o r ∈ (.returned t c a :: ((events.map fun e => .did t e.1 e.2).reverse ++
        .started t c :: trace) : List (Label Call Op Ans Ret)) ↔
      (t' = t ∧ ⟨o, r⟩ ∈ events) ∨ .did t' o r ∈ trace := by
  simp only [List.mem_cons, reduceCtorEq, List.mem_append, List.mem_reverse, List.mem_map, false_or]
  refine or_congr_left ⟨?_, ?_⟩
  · rintro ⟨e, he, heq⟩
    cases heq
    exact ⟨rfl, he⟩
  · rintro ⟨rfl, he⟩
    exact ⟨_, he, rfl⟩

lemma started_mem_call :
    .started t' c' ∈ (.returned t c a :: ((events.map fun e => .did t e.1 e.2).reverse ++
        .started t c :: trace) : List (Label Call Op Ans Ret)) ↔
      (t' = t ∧ c' = c) ∨ .started t' c' ∈ trace := by
  simp only [List.mem_cons, reduceCtorEq, List.mem_append, List.mem_reverse, List.mem_map, and_false,
    exists_false, false_or, Label.started.injEq]

end

end Async
