import CyphalService.Lib.Program

namespace effect

/-- What programs act on: the operations it permits in a state, and what it may
answer to an operation and change by it. -/
structure Environment (Op : Type) (Reply : Op → Type) (σ : Type) where
  permits : σ → Op → Prop
  answers : σ → (op : Op) → Reply op → σ → Prop

namespace Program

variable {Op : Type} {Reply : Op → Type} {α β σ : Type}

/-- Whatever the environment answers, the program performs only what is
permitted, and ends in the postcondition. -/
def Safe (environment : Environment Op Reply σ) (P : α → σ → Prop) : Program Op Reply α → σ → Prop
  | .pure value, state => P value state
  | .perform op next, state => environment.permits state op ∧
      ∀ reply after, environment.answers state op reply after → (next reply).Safe environment P after

/-- One operation of the program that is left, on the state it meets. -/
inductive Step (environment : Environment Op Reply σ) :
    Program Op Reply α × σ → Program Op Reply α × σ → Prop where
  | perform {op : Op} {next : Reply op → Program Op Reply α} {state after : σ} {reply : Reply op}
      (h : environment.answers state op reply after) :
      Step environment (.perform op next, state) (next reply, after)

/-- A run of the program up to some point. -/
def Reaches (environment : Environment Op Reply σ) :
    Program Op Reply α × σ → Program Op Reply α × σ → Prop :=
  Relation.ReflTransGen (Step environment)

variable {environment : Environment Op Reply σ} {P Q : α → σ → Prop} {state : σ}

theorem Safe.of_step {before after : Program Op Reply α × σ} (h : before.1.Safe environment P before.2)
    (hstep : Step environment before after) : after.1.Safe environment P after.2 := by
  cases hstep with
  | perform hanswer => exact h.2 _ _ hanswer

theorem Safe.of_reaches {before after : Program Op Reply α × σ} (h : before.1.Safe environment P before.2)
    (hreaches : Reaches environment before after) : after.1.Safe environment P after.2 := by
  induction hreaches with
  | refl => exact h
  | tail _ hstep ih => exact ih.of_step hstep

theorem Safe.pure {value : α} (h : P value state) :
    (Pure.pure value : Program Op Reply α).Safe environment P state := h

theorem Safe.ask {op : Op} {P : Reply op → σ → Prop} (hpermits : environment.permits state op)
    (hpost : ∀ reply after, environment.answers state op reply after → P reply after) :
    (Program.ask op : Program Op Reply (Reply op)).Safe environment P state :=
  ⟨hpermits, hpost⟩

theorem Safe.bind {R : β → σ → Prop} {program : Program Op Reply α} {f : α → Program Op Reply β}
    (h : program.Safe environment P state)
    (hf : ∀ value after, P value after → (f value).Safe environment R after) :
    (program >>= f).Safe environment R state := by
  change (program.bind f).Safe environment R state
  induction program generalizing state with
  | pure value => exact hf _ _ h
  | perform op next ih => exact ⟨h.1, fun reply after hanswer => ih reply (h.2 reply after hanswer)⟩

theorem Safe.mono {program : Program Op Reply α} (h : program.Safe environment P state)
    (hpost : ∀ value after, P value after → Q value after) : program.Safe environment Q state := by
  induction program generalizing state with
  | pure value => exact hpost _ _ h
  | perform op next ih => exact ⟨h.1, fun reply after hanswer => ih reply (h.2 reply after hanswer)⟩

/-- Running alone under a handler that answers as the environment may is a run. -/
theorem reaches_run {handler : Handler Op Reply σ}
    (h : ∀ op state, environment.answers state op (handler op state).1 (handler op state).2)
    (program : Program Op Reply α) (state : σ) :
    Reaches environment (program, state) (.pure (program.run handler state).1, (program.run handler state).2) := by
  induction program generalizing state with
  | pure value => exact .refl
  | perform op next ih => exact .head (.perform (h op state)) (ih _ _)

end Program

end effect
