import Mathlib.Tactic.Common

namespace effect

/-- What a computation leaves: its value, what it logged and the state. -/
structure Outcome (ε σ α : Type) where
  value : α
  log : List ε
  state : σ

/-- A computation that changes a state and logs what it does outside of it. -/
def Logged (ε σ α : Type) := σ → Outcome ε σ α

namespace Logged

variable {ε σ α β : Type}

def run (computation : Logged ε σ α) (state : σ) : Outcome ε σ α := computation state

instance : Monad (Logged ε σ) where
  pure value := fun state => ⟨value, [], state⟩
  bind computation next := fun state =>
    let first := computation state
    let second := next first.value first.state
    ⟨second.value, first.log ++ second.log, second.state⟩

def get : Logged ε σ σ := fun state => ⟨state, [], state⟩

def modify (f : σ → σ) : Logged ε σ Unit := fun state => ⟨(), [], f state⟩

def emit (entry : ε) : Logged ε σ Unit := fun state => ⟨(), [entry], state⟩

@[simp] theorem run_pure (value : α) (state : σ) :
    (Pure.pure value : Logged ε σ α).run state = ⟨value, [], state⟩ := rfl

@[simp] theorem run_get (state : σ) : (get : Logged ε σ σ).run state = ⟨state, [], state⟩ := rfl

@[simp] theorem run_modify (f : σ → σ) (state : σ) :
    (modify f : Logged ε σ Unit).run state = ⟨(), [], f state⟩ := rfl

@[simp] theorem run_emit (entry : ε) (state : σ) :
    (emit entry : Logged ε σ Unit).run state = ⟨(), [entry], state⟩ := rfl

@[simp] theorem run_bind (computation : Logged ε σ α) (next : α → Logged ε σ β) (state : σ) :
    (computation >>= next).run state =
      ⟨((next (computation.run state).value).run (computation.run state).state).value,
        (computation.run state).log ++
          ((next (computation.run state).value).run (computation.run state).state).log,
        ((next (computation.run state).value).run (computation.run state).state).state⟩ := rfl

end Logged

end effect
