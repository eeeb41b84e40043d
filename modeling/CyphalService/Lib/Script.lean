import CyphalService.Lib.Program

namespace effect

namespace Program

variable {Op : Type} {Reply : Op → Type} {α β σ : Type}

/-- Whatever the replies are, the program performs these operations, in order. -/
def Performs : Program Op Reply α → List Op → Prop
  | .pure _, ops => ops = []
  | .perform op next, ops => ∃ rest, ops = op :: rest ∧ ∀ reply, (next reply).Performs rest

/-- Answer as a handler does and write down what is asked. -/
def record (handler : Handler Op Reply σ) : Handler Op Reply (σ × List Op) := fun op recorded =>
  ((handler op recorded.1).1, (handler op recorded.1).2, recorded.2 ++ [op])

variable {program : Program Op Reply α} {ops first second : List Op}

theorem Performs.pure {value : α} : (Pure.pure value : Program Op Reply α).Performs [] := rfl

theorem Performs.ask {op : Op} : (Program.ask op : Program Op Reply (Reply op)).Performs [op] :=
  ⟨[], rfl, fun _ => rfl⟩

theorem Performs.bind {f : α → Program Op Reply β} (h : program.Performs first)
    (hf : ∀ value, (f value).Performs second) : (program >>= f).Performs (first ++ second) := by
  change (program.bind f).Performs _
  induction program generalizing first with
  | pure value =>
    obtain rfl : first = [] := h
    exact hf value
  | perform op next ih =>
    obtain ⟨rest, rfl, hnext⟩ := h
    exact ⟨rest ++ second, rfl, fun reply => ih reply (hnext reply)⟩

/-- Work on the value performs nothing more. -/
theorem Performs.bind_pure {f : α → β} (h : program.Performs ops) :
    (program >>= fun value => Pure.pure (f value)).Performs ops := by
  have hbind := h.bind fun value => @Performs.pure Op Reply β (f value)
  rwa [List.append_nil] at hbind

/-- Under every handler the operations are the ones that are asked. -/
theorem Performs.recorded (h : program.Performs ops) (handler : Handler Op Reply σ) (state : σ) (asked : List Op) :
    (program.run (record handler) (state, asked)).2.2 = asked ++ ops := by
  induction program generalizing state asked ops with
  | pure value =>
    obtain rfl : ops = [] := h
    exact (List.append_nil asked).symm
  | perform op next ih =>
    obtain ⟨rest, rfl, hnext⟩ := h
    rw [List.append_cons]
    exact ih _ (hnext _) _ _

end Program

end effect
