import Mathlib.Tactic.Common

/-!
# Deterministic machines

A component whose every call is one critical section is a machine: a state and, for each call, an
answer and the next state. A run is a list of calls.
-/

namespace Async

/-- A machine with calls `Act` and answers `Out`. -/
structure Machine (Act : Type) (Out : Act → Type) where
  /-- The state. -/
  State : Type
  /-- One call: the answer and the next state. -/
  step : State → (a : Act) → Out a × State

namespace Machine

variable {Act : Type} {Out : Act → Type}

/-- The state after the calls. -/
def run (M : Machine Act Out) : M.State → List Act → M.State
  | s, [] => s
  | s, a :: as => M.run (M.step s a).2 as

/-- The calls with their answers. -/
def answers (M : Machine Act Out) : M.State → List Act → List (Σ a, Out a)
  | _, [] => []
  | s, a :: as => ⟨a, (M.step s a).1⟩ :: M.answers (M.step s a).2 as

def both (M N : Machine Act Out) : Machine Act fun a => Out a × Out a where
  State := M.State × N.State
  step s a := (((M.step s.1 a).1, (N.step s.2 a).1), ((M.step s.1 a).2, (N.step s.2 a).2))

def Agrees (M N : Machine Act Out) (like : ∀ a, Out a → Out a → Prop) : M.State → N.State → List Act → Prop
  | _, _, [] => True
  | s, n, a :: as => like a (M.step s a).1 (N.step n a).1 ∧
      M.Agrees N like (M.step s a).2 (N.step n a).2 as

/-- Every call of a run meets the condition `ok` in the state it finds. -/
def Meets (M : Machine Act Out) (ok : M.State → Act → Prop) : M.State → List Act → Prop
  | _, [] => True
  | s, a :: as => ok s a ∧ M.Meets ok (M.step s a).2 as

variable {M N : Machine Act Out} {ok : M.State → Act → Prop} {s : M.State} {as : List Act}

instance decidableMeets [∀ s a, Decidable (ok s a)] : ∀ s as, Decidable (M.Meets ok s as)
  | _, [] => .isTrue trivial
  | s, a :: as => @instDecidableAnd _ _ _ (decidableMeets (M.step s a).2 as)

lemma run_cons (M : Machine Act Out) (s : M.State) (a : Act) (as : List Act) :
    M.run s (a :: as) = M.run (M.step s a).2 as := rfl

lemma run_append (M : Machine Act Out) (s : M.State) (as bs : List Act) :
    M.run s (as ++ bs) = M.run (M.run s as) bs := by
  induction as generalizing s with
  | nil => rfl
  | cons a as ih => exact ih _

lemma meets_append {bs : List Act} :
    M.Meets ok s (as ++ bs) ↔ M.Meets ok s as ∧ M.Meets ok (M.run s as) bs := by
  induction as generalizing s with
  | nil => exact (iff_of_eq (true_and _)).symm
  | cons a as ih => exact (and_congr_right' ih).trans and_assoc.symm

lemma Meets.and_forall {Q : Act → Prop} (h : M.Meets ok s as) (hQ : ∀ a ∈ as, Q a) :
    M.Meets (fun s a => ok s a ∧ Q a) s as := by
  induction as generalizing s with
  | nil => trivial
  | cons a as ih =>
    have hrest : ∀ a' ∈ as, Q a' := fun a' ha' => hQ a' (List.mem_cons_of_mem _ ha')
    exact ⟨⟨h.1, hQ a (List.mem_cons_self ..)⟩, ih h.2 hrest⟩

lemma run_invariant {P : M.State → Prop} (hs : P s) (hstep : ∀ s a, P s → P (M.step s a).2) :
    P (M.run s as) := by
  induction as generalizing s with
  | nil => exact hs
  | cons a as ih => exact ih (hstep s a hs)

lemma answers_invariant {H : Type} {note : H → (Σ a, Out a) → H} {P : M.State → H → Prop} {h : H}
    (hs : P s h) (hstep : ∀ s h a, P s h → P (M.step s a).2 (note h ⟨a, (M.step s a).1⟩)) :
    P (M.run s as) ((M.answers s as).foldl note h) := by
  induction as generalizing s h with
  | nil => exact hs
  | cons a as ih => exact ih (hstep s h a hs)

lemma Meets.answers_invariant {H : Type} {note : H → (Σ a, Out a) → H} {P : M.State → H → Prop} {h : H}
    (hmeets : M.Meets ok s as) (hs : P s h)
    (hstep : ∀ s h a, P s h → ok s a → P (M.step s a).2 (note h ⟨a, (M.step s a).1⟩)) :
    P (M.run s as) ((M.answers s as).foldl note h) := by
  induction as generalizing s h with
  | nil => exact hs
  | cons a as ih => exact ih hmeets.2 (hstep s h a hs hmeets.1)

lemma Meets.invariant {P : M.State → Prop} (h : M.Meets ok s as) (hs : P s)
    (hstep : ∀ s a, P s → ok s a → P (M.step s a).2) : P (M.run s as) := by
  induction as generalizing s with
  | nil => exact hs
  | cons a as ih => exact ih h.2 (hstep s a hs h.1)

lemma meets_congr {ok' : M.State → Act → Prop} {P : M.State → Prop} (hs : P s)
    (hstep : ∀ s a, P s → P (M.step s a).2) (hiff : ∀ s a, P s → (ok s a ↔ ok' s a)) :
    M.Meets ok s as ↔ M.Meets ok' s as := by
  induction as generalizing s with
  | nil => exact Iff.rfl
  | cons a as ih => exact and_congr (hiff s a hs) (ih (hstep s a hs))

lemma meets_iff {P : M.State → Prop} (hs : P s) (hstep : ∀ s a, P s → (ok s a ↔ P (M.step s a).2)) :
    M.Meets ok s as ↔ ∀ pre, pre <+: as → P (M.run s pre) := by
  induction as generalizing s with
  | nil =>
    refine ⟨fun _ pre hpre => ?_, fun _ => trivial⟩
    rw [List.prefix_nil.1 hpre]
    exact hs
  | cons a as ih =>
    constructor
    · rintro ⟨hok, hmeets⟩ pre hpre
      rcases List.prefix_cons_iff.1 hpre with rfl | ⟨t, rfl, ht⟩
      · exact hs
      · exact (ih ((hstep s a hs).1 hok)).1 hmeets t ht
    · intro h
      have hnext : P (M.step s a).2 := h [a] (by simp)
      refine ⟨(hstep s a hs).2 hnext, (ih hnext).2 fun pre hpre => ?_⟩
      exact h (a :: pre) (List.cons_prefix_cons.2 ⟨rfl, hpre⟩)

lemma Meets.agrees {ok : (M.both N).State → Act → Prop} {like : ∀ a, Out a → Out a → Prop}
    {R : M.State → N.State → Prop} {n : N.State} (h : (M.both N).Meets ok (s, n) as) (hs : R s n)
    (hstep : ∀ s n a, R s n → ok (s, n) a →
      like a (M.step s a).1 (N.step n a).1 ∧ R (M.step s a).2 (N.step n a).2) :
    M.Agrees N like s n as := by
  induction as generalizing s n with
  | nil => trivial
  | cons a as ih =>
    obtain ⟨hlike, hrel⟩ := hstep s n a hs h.1
    exact ⟨hlike, ih h.2 hrel⟩

/-- Calls that see only what the other calls leave as it is are answered as if they were alone. `R`
relates the state of the run to the state of the calls on their own. -/
lemma Meets.isolated {R : M.State → M.State → Prop} {p : Act → Bool} {n : M.State}
    (h : M.Meets ok s as) (hs : R s n)
    (hseen : ∀ s n a, R s n → ok s a → p a = true →
      (M.step n a).1 = (M.step s a).1 ∧ R (M.step s a).2 (M.step n a).2)
    (hother : ∀ s n a, R s n → ok s a → p a = false → R (M.step s a).2 n) :
    (M.answers s as).filter (fun x => p x.1) = M.answers n (as.filter p) := by
  induction as generalizing s n with
  | nil => rfl
  | cons a as ih =>
    cases hp : p a with
    | true =>
      obtain ⟨hanswer, hrel⟩ := hseen s n a hs h.1 hp
      have hfilter := ih h.2 hrel
      simp only [answers, List.filter_cons, hp, if_true, hanswer, hfilter]
    | false =>
      have hfilter := ih h.2 (hother s n a hs h.1 hp)
      simpa only [answers, List.filter_cons, hp, Bool.false_eq_true, if_false] using hfilter

end Machine

end Async
