import CyphalService.Lib.Trace

namespace machine

variable {σ ι ο ρ μ : Type}

/-- A machine that waits for one of its steps: the steps before it send nothing, and
the step that ends the wait sends the message of its result. -/
structure Waits (step : σ → ι → ο × σ) (waiting ended : σ → Prop) (ending : Step σ ι ο → Option ρ)
    (sends : Step σ ι ο → List μ) (message : ρ → List μ) : Prop where
  waits : ∀ pre input, waiting pre → ending (stepOf step pre input) = none →
    waiting (step pre input).2 ∧ sends (stepOf step pre input) = []
  ends : ∀ pre input result, waiting pre → ending (stepOf step pre input) = some result →
    ended (step pre input).2 ∧ sends (stepOf step pre input) = message result

/-- A machine that waits, and is silent after the wait. -/
structure WaitsOnce (step : σ → ι → ο × σ) (waiting ended : σ → Prop) (ending : Step σ ι ο → Option ρ)
    (sends : Step σ ι ο → List μ) (message : ρ → List μ) : Prop
    extends Waits step waiting ended ending sends message where
  silent : ∀ pre input, ended pre → ended (step pre input).2 ∧ sends (stepOf step pre input) = []

/-- How far a wait has come in a run: it goes on, or one step has ended it and the
steps before that one were silent. -/
inductive Wait (step : σ → ι → ο × σ) (waiting ended : σ → Prop) (ending : Step σ ι ο → Option ρ)
    (sends : Step σ ι ο → List μ) (message : ρ → List μ) (state : σ) : List ι → Option ρ → Prop where
  | goes_on {inputs : List ι} (hwaiting : waiting (final step state inputs))
      (hsilent : (trace step state inputs).flatMap sends = []) :
      Wait step waiting ended ending sends message state inputs none
  | passed {first rest : List ι} {input : ι} {result : ρ} (hwaiting : waiting (final step state first))
      (hsilent : (trace step state first).flatMap sends = [])
      (hending : ending (stepOf step (final step state first) input) = some result)
      (hended : ended (step (final step state first) input).2)
      (hsends : sends (stepOf step (final step state first) input) = message result) :
      Wait step waiting ended ending sends message state (first ++ input :: rest) (some result)

section Rules

variable {step : σ → ι → ο × σ} {waiting ended : σ → Prop} {ending : Step σ ι ο → Option ρ}
  {sends : Step σ ι ο → List μ} {message : ρ → List μ} {state : σ}

/-- The rule for a run of a waiting machine: the first step that may end the wait ends it. -/
theorem Waits.wait (h : Waits step waiting ended ending sends message) (hwaiting : waiting state)
    (inputs : List ι) :
    Wait step waiting ended ending sends message state inputs
      ((trace step state inputs).findSome? ending) := by
  induction inputs generalizing state with
  | nil => exact .goes_on hwaiting rfl
  | cons input inputs ih =>
    rw [trace, List.findSome?_cons]
    cases hending : ending (stepOf step state input) with
    | some result =>
      obtain ⟨hended, hsends⟩ := h.ends state input result hwaiting hending
      exact @Wait.passed _ _ _ _ _ step _ _ _ _ _ state [] inputs _ _ hwaiting rfl hending hended hsends
    | none =>
      obtain ⟨hnext, hsends⟩ := h.waits state input hwaiting hending
      have hfirst : ∀ first, (trace step (step state input).2 first).flatMap sends = [] →
          (trace step state (input :: first)).flatMap sends = [] := by
        intro first hsilent
        rw [trace, List.flatMap_cons, hsends, hsilent]
        rfl
      have hwait := ih hnext
      generalize (trace step (step state input).2 inputs).findSome? ending = result at hwait ⊢
      cases hwait with
      | goes_on hwaits hsilent => exact .goes_on hwaits (hfirst _ hsilent)
      | @passed first rest ending_input result hwaits hsilent hending hended hsends =>
        exact @Wait.passed _ _ _ _ _ step _ _ _ _ _ state (input :: first) rest _ _ hwaits (hfirst _ hsilent)
          hending hended hsends

/-- What a run sends first is the message of the step that ends the wait. -/
theorem Wait.head?_sends {f : ρ → μ} {inputs : List ι} {result : Option ρ}
    (h : Wait step waiting ended ending sends (fun result => [f result]) state inputs result) :
    ((trace step state inputs).flatMap sends).head? = result.map f := by
  cases h with
  | goes_on hwaiting hsilent => rw [hsilent, List.head?_nil, Option.map_none]
  | @passed first rest input result hwaiting hsilent hending hended hsends =>
    rw [trace_append, List.flatMap_append, hsilent, trace, List.flatMap_cons, hsends]
    rfl

theorem WaitsOnce.sends_of_ended (h : WaitsOnce step waiting ended ending sends message) (hended : ended state)
    (inputs : List ι) : (trace step state inputs).flatMap sends = [] := by
  induction inputs generalizing state with
  | nil => rfl
  | cons input inputs ih =>
    obtain ⟨hnext, hsends⟩ := h.silent state input hended
    rw [trace, List.flatMap_cons, hsends, ih hnext]
    rfl

/-- The rule for a run of a machine that waits once: it sends the message of the first
step that ends the wait. -/
theorem WaitsOnce.sends_of_waiting (h : WaitsOnce step waiting ended ending sends message)
    (hwaiting : waiting state) (inputs : List ι) :
    (trace step state inputs).flatMap sends = ((trace step state inputs).findSome? ending).elim [] message := by
  have hwait := h.toWaits.wait hwaiting inputs
  generalize (trace step state inputs).findSome? ending = result at hwait ⊢
  cases hwait with
  | goes_on hwaits hsilent => exact hsilent
  | @passed first rest input result hwaits hsilent hending hended hsends =>
    rw [trace_append, List.flatMap_append, hsilent, trace, List.flatMap_cons, hsends,
      h.sends_of_ended hended, List.append_nil]
    rfl

end Rules

end machine
