import PrivateExecution.Async.Pool

/-!
# Rely and guarantee

What one program does among others is proved once, without looking at the other programs. A
`Discipline` fixes an invariant of the shared view (the world and the history) and, for every
thread, what it may do to the view. `Sat` says that a program keeps the discipline at each of its
operations and ends in its postcondition, whatever the other threads do within the discipline
between any two of its operations.
-/

namespace Async

open Relation

/-- What a proof about one thread can see: the shared world and everything that happened. -/
structure View (World Call Op : Type) (Ans : Op → Type) (Ret : Type) where
  /-- The shared world. -/
  world : World
  /-- Everything that happened, newest first. -/
  trace : List (Label Call Op Ans Ret)

variable {World Call Op : Type} {Ans : Op → Type} {Ret S : Type}

namespace View

variable (v : View World Call Op Ans Ret)

def did (t : Tid) (o : Op) (r : Ans o) (w : World) : View World Call Op Ans Ret := ⟨w, .did t o r :: v.trace⟩

def start (t : Tid) (c : Call) : View World Call Op Ans Ret :=
  ⟨v.world, .started t c :: v.trace⟩

def finish (t : Tid) (c : Call) (a : Ret) :
    View World Call Op Ans Ret := ⟨v.world, .returned t c a :: v.trace⟩

def cancel (t : Tid) (c : Call) (w : World) : View World Call Op Ans Ret := ⟨w, .cancelled t c :: v.trace⟩

def outside (w : World) : View World Call Op Ans Ret :=
  ⟨w, .ambient :: v.trace⟩

structure Fresh (v : View World Call Op Ans Ret) (t : Tid) : Prop where
  started : ∀ c, .started t c ∉ v.trace
  did : ∀ o r, .did t o r ∉ v.trace

end View

def Config.view (σ : Config World Call Op Ans Ret S) : View World Call Op Ans Ret :=
  ⟨σ.world, σ.trace⟩

/-- The rules of a pool: what holds of every view, and what each thread may do to a view. -/
structure Discipline (World Call Op : Type) (Ans : Op → Type) (Ret : Type) where
  /-- The invariant. -/
  inv : View World Call Op Ans Ret → Prop
  /-- What a thread may do. -/
  may : Tid → View World Call Op Ans Ret → View World Call Op Ans Ret → Prop

namespace Discipline

variable (D : Discipline World Call Op Ans Ret) (H : Host World Op Ans) (t : Tid)

/-- What may happen between two operations of thread `t`. -/
inductive Env : View World Call Op Ans Ret → View World Call Op Ans Ret → Prop where
  | start {v} {u : Tid} (c : Call) (hne : u ≠ t) (hinv : D.inv (v.start u c)) : Env v (v.start u c)
  | other {v v'} {u : Tid} (hne : u ≠ t) (hmay : D.may u v v') (hinv : D.inv v') : Env v v'
  | outside {v} {w : World} (hw : H.ambient v.world w) (hinv : D.inv (v.outside w)) :
      Env v (v.outside w)

def Sat {α : Type} (Q : α → View World Call Op Ans Ret → Prop) :
    Prog Op Ans α → View World Call Op Ans Ret → Prop
  | .pure a, v => Q a v
  | .call o k, v => D.inv v → ∀ r w, H.handle t o v.world r w →
      (D.inv (v.did t o r w) ∧ D.may t v (v.did t o r w)) ∧
        ∀ v', ReflTransGen (D.Env H t) (v.did t o r w) v' → Sat Q (k r) v'

/-- A fact that the others do not disturb. -/
def Stable (P : View World Call Op Ans Ret → Prop) : Prop :=
  ∀ ⦃v v'⦄, D.inv v → P v → D.Env H t v v' → P v'

variable {D H t} {α β : Type} {P : View World Call Op Ans Ret → Prop}
  {Q : α → View World Call Op Ans Ret → Prop} {v v' : View World Call Op Ans Ret}

lemma Env.inv (h : D.Env H t v v') : D.inv v' := by
  cases h with
  | start _ _ hinv => exact hinv
  | other _ _ hinv => exact hinv
  | outside _ hinv => exact hinv

lemma inv_of_env (hv : D.inv v) (h : ReflTransGen (D.Env H t) v v') : D.inv v' := by
  induction h with
  | refl => exact hv
  | tail _ hs _ => exact hs.inv

lemma Stable.env (hP : D.Stable H t P) (hinv : D.inv v) (hv : P v)
    (h : ReflTransGen (D.Env H t) v v') : P v' := by
  induction h with
  | refl => exact hv
  | tail hpre hs ih => exact hP (inv_of_env hinv hpre) ih hs

lemma Sat.step {o : Op} {k : Ans o → Prog Op Ans α} {R : Ans o → View World Call Op Ans Ret → Prop}
    (hdo : D.inv v → ∀ r w, H.handle t o v.world r w →
      (D.inv (v.did t o r w) ∧ D.may t v (v.did t o r w)) ∧ R r (v.did t o r w))
    (hR : ∀ r, D.Stable H t (R r)) (hk : ∀ r v', D.inv v' → R r v' → D.Sat H t Q (k r) v') :
    D.Sat H t Q (.call o k) v := by
  intro hv r w hw
  obtain ⟨hkeep, hr⟩ := hdo hv r w hw
  exact ⟨hkeep, fun v' henv => hk r v' (inv_of_env hkeep.1 henv) ((hR r).env hkeep.1 hr henv)⟩

lemma Sat.bind {M : β → View World Call Op Ans Ret → Prop} {p : Prog Op Ans β}
    {f : β → Prog Op Ans α} (hv : D.inv v) (hp : D.Sat H t M p v)
    (hf : ∀ b v', D.inv v' → M b v' → D.Sat H t Q (f b) v') : D.Sat H t Q (p >>= f) v := by
  induction p generalizing v with
  | pure b => exact hf b v hv hp
  | call o k ih =>
    intro _ r w hw
    obtain ⟨hkeep, hrest⟩ := hp hv r w hw
    exact ⟨hkeep, fun v' henv => ih r (inv_of_env hkeep.1 henv) (hrest v' henv)⟩

section

variable {ε ε' : Type} {Q : Except ε α → View World Call Op Ans Ret → Prop}

lemma Sat.seq {M : Except ε β → View World Call Op Ans Ret → Prop} {p : Fallible ε Op Ans β}
    {f : β → Fallible ε Op Ans α} (hv : D.inv v) (hp : D.Sat H t M p.run v)
    (hok : ∀ b v', D.inv v' → M (.ok b) v' → D.Sat H t Q (f b).run v')
    (herr : ∀ e v', D.inv v' → M (.error e) v' → Q (.error e) v') : D.Sat H t Q (p >>= f).run v := by
  refine Sat.bind (p := p.run) hv hp ?_
  rintro (e | b) v' hv' hM
  · exact herr e v' hv' hM
  · exact hok b v' hv' hM

lemma Sat.check {x : Except ε β} {f : β → Fallible ε Op Ans α}
    (hok : ∀ b, x = .ok b → D.Sat H t Q (f b).run v) (herr : ∀ e, x = .error e → Q (.error e) v) :
    D.Sat H t Q (Fallible.check x >>= f).run v := by
  cases x with
  | error e => exact herr e rfl
  | ok b => exact hok b rfl

lemma Sat.request {o : Op} {f : Ans o → Fallible ε Op Ans α} {R : Ans o → View World Call Op Ans Ret → Prop}
    (hdo : D.inv v → ∀ r w, H.handle t o v.world r w →
      (D.inv (v.did t o r w) ∧ D.may t v (v.did t o r w)) ∧ R r (v.did t o r w))
    (hR : ∀ r, D.Stable H t (R r)) (hk : ∀ r v', D.inv v' → R r v' → D.Sat H t Q (f r).run v') :
    D.Sat H t Q (Fallible.request o >>= f).run v :=
  Sat.step (k := fun r => (f r).run) hdo hR hk

end

/-- What has to be shown of a pool to use a discipline. -/
structure Sound (D : Discipline World Call Op Ans Ret) (H : Host World Op Ans)
    (body : Call → Prog Op Ans Ret) (post : Tid → Call → Ret → View World Call Op Ans Ret → Prop) : Prop where
  start : ∀ {v t} c, D.inv v → v.Fresh t → D.inv (v.start t c)
  outside : ∀ {v w}, D.inv v → H.ambient v.world w → D.inv (v.outside w)
  cancel : ∀ {v} t c, D.inv v → D.inv (v.cancel t c (H.cancel t v.world)) ∧
    D.may t v (v.cancel t c (H.cancel t v.world))
  finish : ∀ {v t c a}, D.inv v → post t c a v → D.inv (v.finish t c a) ∧ D.may t v (v.finish t c a)
  /-- Every call satisfies the discipline, also when others act before its first operation. -/
  body : ∀ {v v'} t c, D.inv v → v.Fresh t → ReflTransGen (D.Env H t) (v.start t c) v' →
    D.Sat H t (post t c) (body c) v'

end Discipline

section

variable {H : Host World Op Ans} {C : Code Call Op Ans Ret} {w : World}
  {σ : Config World Call Op Ans Ret C.State}

lemma Reach.started_lt (h : Reach H C w σ) {t : Tid} {c : Call} (hc : .started t c ∈ σ.trace) :
    t < σ.next := by
  refine h.invariant (P := fun ρ => ∀ t c, .started t c ∈ ρ.trace → t < ρ.next) ?_ ?_ t c hc
  · intro t c hc
    cases hc
  · intro ρ ρ' hρ hs t c hc
    cases hs with
    | spawn c' =>
      rcases List.mem_cons.1 hc with heq | hc
      · cases heq
        exact Nat.lt_succ_self _
      · exact Nat.lt_succ_of_lt (hρ t c hc)
    | act | finish | cancel | outside =>
      rcases List.mem_cons.1 hc with heq | hc
      · cases heq
      · exact hρ t c hc

lemma Reach.fresh (h : Reach H C w σ) : σ.view.Fresh σ.next where
  started _ hc := absurd (h.started_lt hc) (Nat.lt_irrefl _)
  did _ _ hd := absurd (h.tidy.did_lt hd) (Nat.lt_irrefl _)

end

lemma Discipline.Sound.reach {D : Discipline World Call Op Ans Ret} {H : Host World Op Ans}
    {body : Call → Prog Op Ans Ret} {post : Tid → Call → Ret → View World Call Op Ans Ret → Prop}
    (hD : D.Sound H body post) {w : World}
    {σ : Config World Call Op Ans Ret (Code.ofProg body).State} (hinit : D.inv ⟨w, []⟩)
    (h : Reach H (Code.ofProg body) w σ) :
    D.inv σ.view ∧ ∀ t c p, σ.threads t = some (c, p) →
      ∀ v', ReflTransGen (D.Env H t) σ.view v' → D.Sat H t (post t c) p v' := by
  refine h.invariant_of_reach (P := fun ρ => D.inv ρ.view ∧ ∀ t c p, ρ.threads t = some (c, p) →
    ∀ v', ReflTransGen (D.Env H t) ρ.view v' → D.Sat H t (post t c) p v') ⟨hinit, nofun⟩ ?_
  rintro ρ ρ' hρ ⟨hinv, hlive⟩ hs
  cases hs with
  | spawn c =>
    have hinv' := hD.start c hinv hρ.fresh
    refine ⟨hinv', fun u c' p hu v' henv => ?_⟩
    rcases eq_or_ne u ρ.next with rfl | hne
    · rcases Config.threads_spawn hu with ⟨-, hx⟩ | hu
      · cases hx
        exact hD.body _ c hinv hρ.fresh henv
      · exact absurd (hρ.tidy.live_lt hu) (Nat.lt_irrefl _)
    · rcases Config.threads_spawn hu with ⟨heq, -⟩ | hu
      · exact absurd heq hne
      · exact hlive u c' p hu v' (.head (.start c hne.symm hinv') henv)
  | @act t c s s' o r w' ht ha hw =>
    obtain ⟨k, rfl, rfl⟩ := ha
    obtain ⟨⟨hinv', hmay⟩, hrest⟩ := hlive t c _ ht _ .refl hinv r w' hw
    refine ⟨hinv', fun u c' p hu v' henv => ?_⟩
    rcases Config.threads_act hu with ⟨rfl, hx⟩ | ⟨hne, hu⟩
    · cases hx
      exact hrest v' henv
    · exact hlive u c' p hu v' (.head (.other hne.symm hmay hinv') henv)
  | @finish t c s a ht ha =>
    cases ha
    obtain ⟨hinv', hmay⟩ := hD.finish hinv (hlive t c _ ht _ .refl)
    refine ⟨hinv', fun u c' p hu v' henv => ?_⟩
    obtain ⟨hne, hu⟩ := Config.threads_gone hu
    exact hlive u c' p hu v' (.head (.other hne.symm hmay hinv') henv)
  | @cancel t c s ht =>
    obtain ⟨hinv', hmay⟩ := hD.cancel t c hinv
    refine ⟨hinv', fun u c' p hu v' henv => ?_⟩
    obtain ⟨hne, hu⟩ := Config.threads_gone hu
    exact hlive u c' p hu v' (.head (.other hne.symm hmay hinv') henv)
  | outside hw =>
    have hinv' := hD.outside hinv hw
    exact ⟨hinv', fun u c' p hu v' henv => hlive u c' p hu v' (.head (.outside hw hinv') henv)⟩

end Async
