import CyphalService.Lib.Environment

namespace effect

/-- A program that may stop early. -/
abbrev Fallible (Op : Type) (Reply : Op → Type) (ε : Type) := ExceptT ε (Program Op Reply)

namespace Fallible

variable {Op : Type} {Reply : Op → Type} {ε ε' α β σ : Type}

/-- Issue one operation and return its reply. -/
def ask (op : Op) : Fallible Op Reply ε (Reply op) :=
  monadLift (Program.ask op : Program Op Reply (Reply op))

/-- Pass a result on; what stopped early drops what it used before. -/
def leaving (drop : Program Op Reply Unit) : Except ε α → Program Op Reply (Except ε α)
  | .ok value => return .ok value
  | .error e => do
    drop
    return .error e

/-- Run `body` with something that is dropped if it stops early. -/
def owning (drop : Program Op Reply Unit) (body : Fallible Op Reply ε α) : Fallible Op Reply ε α :=
  ExceptT.mk (body.run >>= leaving drop)

/-- The postcondition `P` of a value, or `E` of what stopped the program. -/
def Outcome (P : α → σ → Prop) (E : ε → σ → Prop) : Except ε α → σ → Prop
  | .ok value => P value
  | .error e => E e

/-- Whatever the environment answers, the program performs only what is
permitted, and ends or stops in the postcondition for that. -/
def Safe (environment : Environment Op Reply σ) (P : α → σ → Prop) (E : ε → σ → Prop)
    (program : Fallible Op Reply ε α) (state : σ) : Prop :=
  program.run.Safe environment (Outcome P E) state

section Rules

variable {environment : Environment Op Reply σ} {P : α → σ → Prop} {E : ε → σ → Prop} {state : σ}

theorem Safe.pure {value : α} (h : P value state) :
    Safe environment P E (Pure.pure value : Fallible Op Reply ε α) state := h

theorem Safe.throw {e : ε} (h : E e state) :
    Safe environment P E (throw e : Fallible Op Reply ε α) state := h

theorem Safe.bind {Q : β → σ → Prop} {program : Fallible Op Reply ε α} {f : α → Fallible Op Reply ε β}
    (h : Safe environment P E program state)
    (hf : ∀ value after, P value after → Safe environment Q E (f value) after) :
    Safe environment Q E (program >>= f) state := by
  refine Program.Safe.bind h ?_
  intro result after hresult
  cases result with
  | ok value => exact hf value after hresult
  | error e => exact hresult

/-- A program that does not stop early, as one that may. -/
theorem Safe.lift {program : Program Op Reply α} (h : program.Safe environment P state) :
    Safe environment P E (monadLift program : Fallible Op Reply ε α) state :=
  Program.Safe.bind h fun _ _ hvalue => hvalue

theorem Safe.ask {op : Op} {P : Reply op → σ → Prop} (hpermits : environment.permits state op)
    (hpost : ∀ reply after, environment.answers state op reply after → P reply after) :
    Safe environment P E (ask op : Fallible Op Reply ε (Reply op)) state :=
  .lift (.ask hpermits hpost)

theorem Safe.mono {Q : α → σ → Prop} {F : ε → σ → Prop} {program : Fallible Op Reply ε α}
    (h : Safe environment P E program state) (hvalue : ∀ value after, P value after → Q value after)
    (hstop : ∀ e after, E e after → F e after) : Safe environment Q F program state := by
  refine Program.Safe.mono h ?_
  intro result after hresult
  cases result with
  | ok value => exact hvalue value after hresult
  | error e => exact hstop e after hresult

/-- The rule for a step with a stronger postcondition for what stops it. -/
theorem Safe.bind_mono {Q : β → σ → Prop} {F : ε → σ → Prop} {program : Fallible Op Reply ε α}
    {f : α → Fallible Op Reply ε β} (h : Safe environment P E program state)
    (hstop : ∀ e after, E e after → F e after)
    (hf : ∀ value after, P value after → Safe environment Q F (f value) after) :
    Safe environment Q F (program >>= f) state :=
  .bind (h.mono (fun _ _ hvalue => hvalue) hstop) hf

/-- What stops a program, put in other terms. -/
theorem Safe.adapt {E : ε' → σ → Prop} {f : ε → ε'} {program : Fallible Op Reply ε α}
    (h : Safe environment P (fun e => E (f e)) program state) :
    Safe environment P E (program.adapt f) state := by
  refine Program.Safe.bind h ?_
  intro result after hresult
  cases result with
  | ok value => exact hresult
  | error e => exact hresult

/-- On every way out that is not the end, the drop comes last. -/
theorem Safe.owning {F : ε → σ → Prop} {drop : Program Op Reply Unit} {body : Fallible Op Reply ε α}
    (h : Safe environment P F body state)
    (hdrop : ∀ e after, F e after → drop.Safe environment (fun _ => E e) after) :
    Safe environment P E (owning drop body) state := by
  refine Program.Safe.bind h ?_
  intro result after hresult
  cases result with
  | ok value => exact hresult
  | error e => exact Program.Safe.bind (hdrop e after hresult) fun _ _ hdropped => hdropped

/-- What is permitted in every run, and how a run may end. -/
theorem Safe.of_reaches {program : Fallible Op Reply ε α} (h : Safe environment P E program state)
    {config : Program Op Reply (Except ε α) × σ}
    (hreaches : Program.Reaches environment (program.run, state) config) :
    (∀ op next, config.1 = .perform op next → environment.permits config.2 op) ∧
    (∀ value, config.1 = .pure (.ok value) → P value config.2) ∧
    (∀ e, config.1 = .pure (.error e) → E e config.2) := by
  obtain ⟨rest, after⟩ := config
  have hstart : (program.run, state).1.Safe environment (Outcome P E) (program.run, state).2 := h
  have hsafe := hstart.of_reaches hreaches
  refine ⟨?_, ?_, ?_⟩
  · rintro op next rfl
    exact hsafe.1
  · rintro value rfl
    exact hsafe
  · rintro e rfl
    exact hsafe

end Rules

section Gives

variable {handler : Handler Op Reply σ} {value : α} {state after : σ}

/-- Run alone from one state, the program ends with a value in another. -/
def Gives (handler : Handler Op Reply σ) (program : Fallible Op Reply ε α) (state : σ) (value : α) (after : σ) :
    Prop :=
  program.run.run handler state = (.ok value, after)

theorem gives_pure_iff {value' : α} :
    Gives handler (Pure.pure value' : Fallible Op Reply ε α) state value after ↔ value' = value ∧ state = after := by
  change ((Except.ok value' : Except ε α), state) = (.ok value, after) ↔ _
  rw [Prod.mk.injEq, Except.ok.injEq]

theorem gives_throw_iff {e : ε} :
    Gives handler (throw e : Fallible Op Reply ε α) state value after ↔ False := by
  change ((Except.error e : Except ε α), state) = (.ok value, after) ↔ _
  rw [Prod.mk.injEq]
  exact iff_of_false (fun h => nomatch h.1) id

/-- A sequence gives what its second part gives from where the first part ends. -/
theorem gives_bind_iff {program : Fallible Op Reply ε α} {f : α → Fallible Op Reply ε β} {value : β} :
    Gives handler (program >>= f) state value after ↔
      ∃ first middle, Gives handler program state first middle ∧ Gives handler (f first) middle value after := by
  rw [Gives, ExceptT.run_bind, Program.run_bind]
  unfold Gives
  obtain ⟨result, middle⟩ := program.run.run handler state
  cases result with
  | ok first => simp
  | error e => simp

theorem gives_ask_iff {op : Op} {reply : Reply op} :
    Gives handler (ask op : Fallible Op Reply ε (Reply op)) state reply after ↔
      (handler op state).1 = reply ∧ (handler op state).2 = after := by
  change ((Except.ok (handler op state).1 : Except ε (Reply op)), (handler op state).2) = (.ok reply, after) ↔ _
  rw [Prod.mk.injEq, Except.ok.injEq]

theorem gives_ask_bind_iff {op : Op} {f : Reply op → Fallible Op Reply ε α} :
    Gives handler (ask op >>= f) state value after ↔
      Gives handler (f (handler op state).1) (handler op state).2 value after := by
  simp only [gives_bind_iff, gives_ask_iff]
  constructor
  · rintro ⟨reply, middle, ⟨rfl, rfl⟩, h⟩
    exact h
  · intro h
    exact ⟨_, _, ⟨rfl, rfl⟩, h⟩

theorem gives_adapt_iff {program : Fallible Op Reply ε α} {f : ε → ε'} :
    Gives handler (program.adapt f) state value after ↔ Gives handler program state value after := by
  have hadapt : (program.adapt f).run.run handler state =
      ((program.run.run handler state).1.mapError f, (program.run.run handler state).2) :=
    Program.run_bind handler program.run _ state
  unfold Gives
  rw [hadapt]
  obtain ⟨result, middle⟩ := program.run.run handler state
  cases result with
  | ok first => simp [Except.mapError]
  | error e => simp [Except.mapError]

theorem gives_owning_iff {drop : Program Op Reply Unit} {body : Fallible Op Reply ε α} :
    Gives handler (owning drop body) state value after ↔ Gives handler body state value after := by
  have howning : (owning drop body).run.run handler state =
      (leaving drop (body.run.run handler state).1).run handler (body.run.run handler state).2 :=
    Program.run_bind handler body.run _ state
  unfold Gives
  rw [howning]
  obtain ⟨result, middle⟩ := body.run.run handler state
  cases result with
  | ok first => simp [leaving]
  | error e => simp [leaving]

end Gives

end Fallible

end effect
