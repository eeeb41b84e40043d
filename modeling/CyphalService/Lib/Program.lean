import Mathlib.Logic.Relation
import Mathlib.Tactic.Common

namespace effect

/-- A program that issues operations one at a time and continues on the reply
of each: the only points at which it can observe or change anything outside. -/
inductive Program (Op : Type) (Reply : Op → Type) (α : Type) where
  | pure (value : α)
  | perform (op : Op) (next : Reply op → Program Op Reply α)

/-- What one atomic operation answers and does to the state it runs on. -/
abbrev Handler (Op : Type) (Reply : Op → Type) (σ : Type) :=
  (op : Op) → σ → Reply op × σ

namespace Program

variable {Op : Type} {Reply : Op → Type} {α β σ : Type}

protected def bind : Program Op Reply α → (α → Program Op Reply β) → Program Op Reply β
  | .pure value, f => f value
  | .perform op next, f => .perform op fun reply => (next reply).bind f

instance : Monad (Program Op Reply) where
  pure := .pure
  bind := .bind

/-- Issue one operation and return its reply. -/
def ask (op : Op) : Program Op Reply (Reply op) :=
  .perform op .pure

/-- Run a program alone: no other program touches the state in between. -/
def run (handler : Handler Op Reply σ) : Program Op Reply α → σ → α × σ
  | .pure value, state => (value, state)
  | .perform op next, state => (next (handler op state).1).run handler (handler op state).2

@[simp] theorem run_pure (handler : Handler Op Reply σ) (value : α) (state : σ) :
    (Pure.pure value : Program Op Reply α).run handler state = (value, state) := rfl

@[simp] theorem run_ask (handler : Handler Op Reply σ) (op : Op) (state : σ) :
    (ask op : Program Op Reply (Reply op)).run handler state = handler op state := rfl

@[simp] theorem run_bind (handler : Handler Op Reply σ) (program : Program Op Reply α)
    (f : α → Program Op Reply β) (state : σ) :
    (program >>= f).run handler state =
      (f (program.run handler state).1).run handler (program.run handler state).2 := by
  change (program.bind f).run handler state = _
  induction program generalizing state with
  | pure value => rfl
  | perform op next ih => exact ih _ _

/-- A reflexive and transitive relation that every operation stays inside
relates the states before and after any program. -/
theorem run_related {handler : Handler Op Reply σ} {R : σ → σ → Prop}
    (hrefl : ∀ state, R state state) (htrans : ∀ a b c, R a b → R b c → R a c)
    (hop : ∀ op state, R state (handler op state).2)
    (program : Program Op Reply α) (state : σ) :
    R state (program.run handler state).2 := by
  induction program generalizing state with
  | pure value => exact hrefl state
  | perform op next ih => exact htrans _ _ _ (hop op state) (ih _ _)

end Program

end effect
