import CyphalService.Lib.Trace

namespace machine

section Simulation

variable {σ ι ο τ κ υ β : Type} {step : σ → ι → ο × σ} {abstract : τ → κ → υ × τ}

/-- The simulation rule: when every admissible step either shows nothing or shows
what some step of another machine shows, and keeps the states related, then a run
shows, in order, what some run of the other machine shows. -/
theorem exists_simulated {Ok : ι → Prop} (R : σ → τ → Prop) (visible : Step σ ι ο → Option β)
    (shown : Step τ κ υ → β)
    (hstep : ∀ s t input, Ok input → R s t →
      (visible (stepOf step s input) = none ∧ R (step s input).2 t) ∨
        ∃ cause, visible (stepOf step s input) = some (shown (stepOf abstract t cause)) ∧
          R (step s input).2 (abstract t cause).2)
    {s : σ} {t : τ} (hrelated : R s t) (inputs : List ι) (hok : ∀ input ∈ inputs, Ok input) :
    ∃ causes, (trace step s inputs).filterMap visible = (trace abstract t causes).map shown ∧
      R (final step s inputs) (final abstract t causes) := by
  induction inputs generalizing s t with
  | nil => exact ⟨[], rfl, hrelated⟩
  | cons input inputs ih =>
    have hrest : ∀ input ∈ inputs, Ok input := fun input hinput => hok input (List.mem_cons_of_mem _ hinput)
    obtain ⟨hhidden, hnext⟩ | ⟨cause, hvisible, hnext⟩ := hstep s t input (hok input List.mem_cons_self) hrelated
    · -- A hidden step: the other machine waits.
      obtain ⟨causes, hshown, hend⟩ := ih hnext hrest
      refine ⟨causes, ?_, hend⟩
      rw [trace, List.filterMap_cons_none hhidden, hshown]
    · obtain ⟨causes, hshown, hend⟩ := ih hnext hrest
      refine ⟨cause :: causes, ?_, hend⟩
      rw [trace, List.filterMap_cons_some hvisible, hshown, trace, List.map_cons]

end Simulation

end machine
