import Mathlib.Tactic.Common

/-!
# Asynchronous programs as effect trees

A program that talks to its surroundings is a tree `Prog Op Ans α`: it either returns a value or
performs one operation `o : Op` and goes on with the answer `r : Ans o`. Every operation is one
atomic step of the program, so everything that may happen between two awaits is a boundary
between two nodes of the tree.

* `Code` is what a thread can do, abstractly: its states, the operations it may perform with
  their answers, and the values with which it may return. `Code.ofProg` is the code of a program.
-/

namespace Async

/-! ### Effect trees -/

/-- A program over the operations `Op` with answers `Ans`: it returns, or it performs one
operation and continues with the answer. -/
inductive Prog (Op : Type) (Ans : Op → Type) (α : Type) : Type where
  | pure (a : α) : Prog Op Ans α
  | call (o : Op) (k : Ans o → Prog Op Ans α) : Prog Op Ans α

namespace Prog

variable {Op : Type} {Ans : Op → Type} {α β : Type}

/-- Sequencing: the second program is grafted onto every return of the first. -/
protected def bind : Prog Op Ans α → (α → Prog Op Ans β) → Prog Op Ans β
  | .pure a, f => f a
  | .call o k, f => .call o fun r => (k r).bind f

instance : Monad (Prog Op Ans) where
  pure := .pure
  bind := .bind

def perform (o : Op) : Prog Op Ans (Ans o) := .call o .pure

lemma bind_pure_eq (p : Prog Op Ans α) : (p >>= fun a => Pure.pure a) = p := by
  induction p with
  | pure a => rfl
  | call o k ih => exact congrArg (Prog.call o) (funext ih)

end Prog

/-! ### Programs that can fail -/

abbrev Fallible (ε Op : Type) (Ans : Op → Type) (α : Type) := ExceptT ε (Prog Op Ans) α

namespace Fallible

variable {ε ε' Op : Type} {Ans : Op → Type} {α : Type}

def request (o : Op) : Fallible ε Op Ans (Ans o) := ExceptT.mk (.call o fun r => pure (.ok r))

/-- A pure step that can fail (`?`). -/
def check (x : Except ε α) : Fallible ε Op Ans α := ExceptT.mk (pure x)

end Fallible

/-! ### What a thread can do -/

/-- The code of a pool of threads: a state per thread, the state a call starts in, the moves
`act s o r s'` (in state `s` the thread may perform `o`, and on the answer `r` it is in `s'`), and
the values with which a thread in a given state may return. -/
structure Code (Call Op : Type) (Ans : Op → Type) (Ret : Type) where
  /-- Control state of one thread. -/
  State : Type
  /-- The state in which a call starts. -/
  entry : Call → State
  /-- The moves of a thread. -/
  act : State → (o : Op) → Ans o → State → Prop
  /-- The values with which a thread may return. -/
  ends : State → Ret → Prop

namespace Code

variable {Call Op : Type} {Ans : Op → Type} {Ret α : Type}

/-- The code of a program: a thread performs the operation at the root of its tree. -/
def ofProg (body : Call → Prog Op Ans Ret) : Code Call Op Ans Ret where
  State := Prog Op Ans Ret
  entry := body
  act p o r p' := ∃ k, p = .call o k ∧ p' = k r
  ends p a := p = .pure a

/-- A program follows a code from state `s` if, whatever the answers, each of its operations is
a move of the code, and it returns only with values that satisfy `post` in the state reached. -/
def Follows (A : Code Call Op Ans Ret) (post : A.State → α → Prop) : A.State → Prog Op Ans α → Prop
  | s, .pure a => post s a
  | s, .call o k => ∀ r, ∃ s', A.act s o r s' ∧ Follows A post s' (k r)

variable {A : Code Call Op Ans Ret} {post : A.State → α → Prop} {s : A.State}

lemma Follows.bind {β : Type} {mid : A.State → β → Prop} {p : Prog Op Ans β}
    {f : β → Prog Op Ans α} (hp : A.Follows mid s p)
    (hf : ∀ s' b, mid s' b → A.Follows post s' (f b)) : A.Follows post s (p >>= f) := by
  induction p generalizing s with
  | pure b => exact hf s b hp
  | call o k ih =>
    intro r
    obtain ⟨s', hact, hk⟩ := hp r
    exact ⟨s', hact, ih r hk⟩

end Code

end Async
