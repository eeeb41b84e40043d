import CyphalService.Lib.Trace

namespace machine

section Unwinding

variable {σ ι ο υ κ ε : Type} (step : σ → ι → ο × σ) (Inv : σ → Prop) (view : σ → υ)
  (label : ι → Option κ) (emit : Step σ ι ο → List ε)

/-- What an observer of the view sees of one step: inputs without a label change
nothing for it, and inputs with one label have one effect on states it cannot
tell apart. -/
structure Unwinding : Prop where
  keeps : ∀ pre input output post, step pre input = (output, post) → Inv pre → Inv post
  hidden : ∀ pre input output post, step pre input = (output, post) → Inv pre → label input = none →
    view post = view pre ∧ emit ⟨pre, input, output, post⟩ = []
  visible : ∀ pre₁ input₁ output₁ post₁ pre₂ input₂ output₂ post₂ k,
    step pre₁ input₁ = (output₁, post₁) → step pre₂ input₂ = (output₂, post₂) → Inv pre₁ → Inv pre₂ →
    view pre₁ = view pre₂ → label input₁ = some k → label input₂ = some k →
    view post₁ = view post₂ ∧ emit ⟨pre₁, input₁, output₁, post₁⟩ = emit ⟨pre₂, input₂, output₂, post₂⟩

variable {step Inv view label emit}

namespace Unwinding

theorem keeps_run (h : Unwinding step Inv view label emit) {start : σ} (hinv : Inv start) (inputs : List ι) :
    Inv (final step start inputs) := by
  induction inputs generalizing start with
  | nil => exact hinv
  | cons input inputs ih => exact ih (h.keeps _ _ _ _ rfl hinv)

/-- A run of hidden inputs cannot be seen. -/
theorem hidden_run (h : Unwinding step Inv view label emit) {start : σ} (hinv : Inv start) {inputs : List ι}
    (hhidden : ∀ input ∈ inputs, label input = none) :
    view (final step start inputs) = view start ∧ (trace step start inputs).flatMap emit = [] := by
  induction inputs generalizing start with
  | nil => exact ⟨rfl, rfl⟩
  | cons input inputs ih =>
    obtain ⟨hlabel, hrest⟩ := List.forall_mem_cons.1 hhidden
    obtain ⟨hview, hemit⟩ := h.hidden _ _ _ _ rfl hinv hlabel
    obtain ⟨hviews, hemits⟩ := ih (h.keeps _ _ _ _ rfl hinv) hrest
    refine ⟨hviews.trans hview, ?_⟩
    rw [trace, List.flatMap_cons, stepOf, hemit, hemits]
    rfl

/-- Two runs whose visible inputs have the same labels end in states that look
the same, and emit the same. -/
theorem runs_agree (h : Unwinding step Inv view label emit) {start₁ start₂ : σ} (hinv₁ : Inv start₁)
    (hinv₂ : Inv start₂) (hview : view start₁ = view start₂) {inputs₁ inputs₂ : List ι}
    (hlabels : inputs₁.filterMap label = inputs₂.filterMap label) :
    view (final step start₁ inputs₁) = view (final step start₂ inputs₂) ∧
      (trace step start₁ inputs₁).flatMap emit = (trace step start₂ inputs₂).flatMap emit := by
  induction inputs₁ generalizing start₁ start₂ inputs₂ with
  | nil =>
    have hhidden : ∀ input ∈ inputs₂, label input = none := List.filterMap_eq_nil_iff.1 hlabels.symm
    obtain ⟨hviews, hemits⟩ := h.hidden_run hinv₂ hhidden
    exact ⟨hview.trans hviews.symm, hemits.symm⟩
  | cons input₁ inputs₁ ih =>
    have hinv := h.keeps start₁ input₁ _ _ rfl hinv₁
    cases hlabel : label input₁ with
    | none =>
      rw [List.filterMap_cons_none hlabel] at hlabels
      obtain ⟨hkept, hsilent⟩ := h.hidden _ _ _ _ rfl hinv₁ hlabel
      obtain ⟨hviews, hemits⟩ := ih hinv hinv₂ (hkept.trans hview) hlabels
      refine ⟨hviews, ?_⟩
      rw [trace, List.flatMap_cons, stepOf, hsilent, List.nil_append]
      exact hemits
    | some k =>
      rw [List.filterMap_cons_some hlabel] at hlabels
      obtain ⟨silent, input₂, rest, rfl, hsilent, hlabel₂, hrest⟩ := List.filterMap_eq_cons_iff.1 hlabels.symm
      -- The second run first takes its hidden inputs, then the one with the same label.
      obtain ⟨hkept, hnothing⟩ := h.hidden_run hinv₂ hsilent
      have hinv_silent := h.keeps_run hinv₂ silent
      obtain ⟨hviews, hemits⟩ := h.visible _ _ _ _ _ _ _ _ k rfl rfl hinv₁ hinv_silent
        (hview.trans hkept.symm) hlabel hlabel₂
      obtain ⟨hfinal, htrace⟩ := ih hinv (h.keeps _ _ _ _ rfl hinv_silent) hviews hrest.symm
      rw [final_append, trace_append, List.flatMap_append, hnothing, List.nil_append]
      refine ⟨hfinal, ?_⟩
      rw [trace, trace, List.flatMap_cons, List.flatMap_cons, htrace]
      exact congrArg (· ++ _) hemits

end Unwinding

end Unwinding

end machine
