import CyphalService.Lib.Fallible

namespace effect

/-- An operation that was performed, with what was answered to it. -/
structure Exchange (Op : Type) (Reply : Op → Type) where
  op : Op
  reply : Reply op

variable {Op : Type} {Reply : Op → Type} {α ε σ : Type}

/-- An environment that also writes down what is performed and answered. -/
def Environment.recording (environment : Environment Op Reply σ) :
    Environment Op Reply (σ × List (Exchange Op Reply)) where
  permits recorded op := environment.permits recorded.1 op
  answers recorded op reply after :=
    environment.answers recorded.1 op reply after.1 ∧ after.2 = recorded.2 ++ [⟨op, reply⟩]

/-- Performing this and answered so, the program comes to the value. -/
inductive Program.Follows : Program Op Reply α → List (Exchange Op Reply) → α → Prop where
  | pure (value : α) : Follows (.pure value) [] value
  | perform {op : Op} {next : Reply op → Program Op Reply α} {log : List (Exchange Op Reply)} {value : α}
      (reply : Reply op) (h : (next reply).Follows log value) : Follows (.perform op next) (⟨op, reply⟩ :: log) value

variable {environment : Environment Op Reply σ}

/-- What a program grants, it grants with the record of what led there. -/
theorem Program.Safe.recording {program : Program Op Reply α} {P : α → σ → Prop} {state : σ}
    (h : program.Safe environment P state) (log : List (Exchange Op Reply)) :
    program.Safe environment.recording
      (fun value after => P value after.1 ∧ ∃ segment, after.2 = log ++ segment ∧ program.Follows segment value)
      (state, log) := by
  induction program generalizing state log with
  | pure value => exact ⟨h, [], (List.append_nil log).symm, .pure value⟩
  | perform op next ih =>
    refine ⟨h.1, ?_⟩
    rintro reply ⟨after, log'⟩ ⟨hanswer, hlog⟩
    obtain rfl : log' = log ++ [⟨op, reply⟩] := hlog
    refine (ih reply (h.2 reply after hanswer) _).mono ?_
    rintro value final ⟨hpost, segment, hfinal, hfollows⟩
    refine ⟨hpost, ⟨op, reply⟩ :: segment, ?_, .perform reply hfollows⟩
    rw [hfinal, List.append_assoc, List.singleton_append]

theorem Fallible.Safe.recording {program : Fallible Op Reply ε α} {P : α → σ → Prop} {E : ε → σ → Prop} {state : σ}
    (h : Fallible.Safe environment P E program state) (log : List (Exchange Op Reply)) :
    Fallible.Safe environment.recording
      (fun value after => P value after.1 ∧ ∃ segment, after.2 = log ++ segment ∧
        program.run.Follows segment (.ok value))
      (fun e after => E e after.1) program (state, log) := by
  refine (Program.Safe.recording h log).mono ?_
  rintro result after ⟨hpost, hrecord⟩
  cases result with
  | ok value => exact ⟨hpost, hrecord⟩
  | error e => exact hpost

/-- Every run has its record. -/
theorem Program.Reaches.recorded {before after : Program Op Reply α × σ}
    (h : Program.Reaches environment before after) (log : List (Exchange Op Reply)) :
    ∃ log', Program.Reaches environment.recording (before.1, before.2, log) (after.1, after.2, log') := by
  induction h with
  | refl => exact ⟨log, .refl⟩
  | tail _ hstep ih =>
    obtain ⟨log', hreaches⟩ := ih
    cases hstep with
    | perform hanswer => exact ⟨_, hreaches.tail (.perform ⟨hanswer, rfl⟩)⟩

end effect
