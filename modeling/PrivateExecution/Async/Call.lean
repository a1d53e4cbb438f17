import Mathlib.Tactic.Common

/-!
# Calls that may fail part way

A call on a component with state `S` (`&mut self`) answers with a value or an error and leaves a state
behind, also when it fails. `check` is a step that can only fail, `read` and `write` access the state.
-/

namespace Async

/-- A call: the answer or an error, and the state it leaves. -/
def Call (S E A : Type) : Type := S → Except E A × S

namespace Call

variable {S E A B : Type}

instance : Monad (Call S E) where
  pure a := fun s => (.ok a, s)
  bind m f := fun s =>
    match m s with
    | (.ok a, s') => f a s'
    | (.error e, s') => (.error e, s')

/-- A step that can only fail (`?`). -/
def check (x : Except E A) : Call S E A := fun s => (x, s)

def read : Call S E S := fun s => (.ok s, s)

def write (s : S) : Call S E Unit := fun _ => (.ok (), s)

/-- The call made on a copy of `s`: its answer and the copy, which is discarded on an error. -/
def onCopy (m : Call S E A) (s : S) : Except E (A × S) :=
  match m s with
  | (.ok a, s') => .ok (a, s')
  | (.error e, _) => .error e

@[simp] lemma check_ok_bind (a : A) (f : A → Call S E B) (s : S) : (check (.ok a) >>= f) s = f a s := rfl

@[simp] lemma read_bind (f : S → Call S E B) (s : S) : (read >>= f) s = f s s := rfl

lemma bind_apply (m : Call S E A) (f : A → Call S E B) (s : S) : (m >>= f) s =
    match m s with
    | (.ok a, s') => f a s'
    | (.error e, s') => (.error e, s') := rfl

lemma bind_assoc {C : Type} (m : Call S E A) (f : A → Call S E B) (g : B → Call S E C) :
    m >>= f >>= g = m >>= fun a => f a >>= g := by
  funext s
  rw [bind_apply, bind_apply, bind_apply]
  rcases m s with ⟨e | a, s'⟩ <;> rfl

variable {x : Except E A} {m : Call S E A} {f : A → Call S E B} {s s' : S} {a : A} {b : B}

lemma check_cases {P : Except E B × S → Prop} (herr : ∀ e, P (.error e, s))
    (hok : ∀ a, x = .ok a → P (f a s)) : P ((check x >>= f) s) := by
  cases hx : x with
  | error e => exact herr e
  | ok a => exact hok a hx

lemma check_bind_fst (h : ((check x >>= f) s).1 = .ok b) :
    ∃ a, x = .ok a ∧ (f a s).1 = .ok b := by
  cases x with
  | error e => cases h
  | ok a => exact ⟨a, rfl, h⟩

lemma bind_of_ok (h : m s = (.ok a, s')) : (m >>= f) s = f a s' := by
  rw [bind_apply, h]

lemma bind_of_error {e : E} (h : m s = (.error e, s')) : (m >>= f) s = (.error e, s') := by
  rw [bind_apply, h]

lemma bind_eq_ok {s₂ : S} :
    (m >>= f) s = (.ok b, s₂) ↔ ∃ a s₁, m s = (.ok a, s₁) ∧ f a s₁ = (.ok b, s₂) := by
  rw [bind_apply]
  rcases m s with ⟨e | a, s₁⟩
  · simp
  · simp

lemma bind_pure_apply (m : Call S E A) (f : A → B) (s : S) :
    (m >>= fun a => pure (f a)) s = ((m s).1.map f, (m s).2) := by
  rw [bind_apply]
  rcases m s with ⟨e | a, s'⟩ <;> rfl

lemma onCopy_eq_ok : m.onCopy s = .ok (a, s') ↔ m s = (.ok a, s') := by
  unfold onCopy
  rcases m s with ⟨e | b, s₁⟩
  · simp
  · simp

end Call

end Async
